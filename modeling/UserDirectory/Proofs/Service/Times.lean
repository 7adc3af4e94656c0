import UserDirectory.Proofs.Instant.Order
import UserDirectory.Proofs.Service.Directory

/-!
# Proofs.Service.Times — where the times of an account come from

* `Stamps rs id created updated`: among the requests there is a creation that drew the identifier
  when the clock read `created`, and that or a later change of the account found it at `updated`.
* `Directory.Stamped`: every record has such times, cut to milliseconds.  Each request keeps it.
* `Seen`: the accounts that are stored, answered or announced in a session.
* `clock_set_back`: a change made after the clock was set back leaves an account that changed
  before it was created.
* `Instant.Tells`: what is left of a reading of the clock in an account that was made with it, or in
  one that was read from a document.
* `times_of_seen`: the times of every account seen come from such readings of the clock, and are in
  order iff these are; so they are if the clock never goes back.
-/

namespace UserDirectory

open Service (Context Request)

/-! ## Readings of the clock -/

/-- The clock read `created` when a creation drew the identifier, and `updated` when that creation
or a later change of the account was asked for. -/
inductive Stamps (rs : List (Context × Request)) (id : Uuid) : Instant → Instant → Prop
  | created {c details} : (c, .create details) ∈ rs → c.freshId = id → Stamps rs id c.now c.now
  | updated {c details c' details'} :
    List.Sublist [(c, .create details), (c', .update id details')] rs → c.freshId = id →
    Stamps rs id c.now c'.now

namespace Stamps

variable {rs : List (Context × Request)} {id : Uuid} {created updated : Instant}

theorem append (h : Stamps rs id created updated) (more : List (Context × Request)) :
    Stamps (rs ++ more) id created updated := by
  cases h with
  | created hmem hid => exact .created (List.mem_append_left more hmem) hid
  | updated hsub hid => exact .updated (hsub.trans (List.sublist_append_left rs more)) hid

/-- A further change takes the place of the last one. -/
theorem change (h : Stamps rs id created updated) (c : Context) (details : Details) :
    Stamps (rs ++ [(c, .update id details)]) id created c.now := by
  have hconcat : ∀ q, List.Sublist [q] rs →
      List.Sublist [q, (c, .update id details)] (rs ++ [(c, .update id details)]) :=
    fun q hq => hq.append (List.Sublist.refl _)
  cases h with
  | created hmem hid => exact .updated (hconcat _ (List.singleton_sublist.mpr hmem)) hid
  | updated hsub hid =>
    have hmem := hsub.subset List.mem_cons_self
    exact .updated (hconcat _ (List.singleton_sublist.mpr hmem)) hid

/-- The clock was read when the account was created. -/
theorem exists_reading (h : Stamps rs id created updated) : ∃ q ∈ rs, q.1.now = created := by
  cases h with
  | created hmem _ => exact ⟨_, hmem, rfl⟩
  | updated hsub _ => exact ⟨_, hsub.subset List.mem_cons_self, rfl⟩

/-- If the clock never goes back, neither do the readings of one account. -/
theorem le (h : Stamps rs id created updated)
    (hclock : rs.Pairwise fun q q' => q.1.now ≤ q'.1.now) : created ≤ updated := by
  cases h with
  | created => exact le_refl _
  | updated hsub _ =>
    have hpair := hclock.sublist hsub
    exact (List.pairwise_cons.mp hpair).1 _ List.mem_cons_self

end Stamps

/-- The instant is what is left of a reading of the clock: the reading cut to milliseconds, as far
as `truncate` cuts it, or what the text of the reading tells. -/
def Instant.Tells (t reading : Instant) : Prop :=
  t = reading.truncate ∨ t = reading.readBack

/-! ## Directories -/

/-- The times of the record come from readings of the clock during the requests. -/
def Record.Stamped (rs : List (Context × Request)) (id : Uuid) (r : Record) : Prop :=
  ∃ created updated, Stamps rs id created updated ∧ r.createdAt = created.cutNanos ∧
    r.updatedAt = updated.cutNanos

theorem Record.Stamped.append {rs : List (Context × Request)} {id : Uuid} {r : Record}
    (h : r.Stamped rs id) (more : List (Context × Request)) : r.Stamped (rs ++ more) id := by
  obtain ⟨created, updated, hstamps, hc, hu⟩ := h
  exact ⟨created, updated, hstamps.append more, hc, hu⟩

namespace Directory

/-- The times of all records come from readings of the clock during the requests. -/
def Stamped (rs : List (Context × Request)) (m : Directory) : Prop :=
  ∀ id r, m.get? id = some r → r.Stamped rs id

variable {rs : List (Context × Request)} {m : Directory} {c : Context}

theorem Stamped.append (h : m.Stamped rs) (more : List (Context × Request)) :
    m.Stamped (rs ++ more) :=
  fun id r hget => (h id r hget).append more

theorem Stamped.insert (h : m.Stamped rs) {id : Uuid} {r : Record} (hr : r.Stamped rs id) :
    Stamped rs (Keyed.insert m id r) := by
  intro id' r' hget
  rw [Keyed.get?_insert] at hget
  split at hget
  · next heq =>
    cases hget
    exact heq ▸ hr
  · exact h id' r' hget

/-- **Each request keeps the times in order of the clock**: a creation takes both from its own
reading, a change one of them. -/
theorem stamped_serve (h : m.Stamped rs) (r : Request) :
    (m.serve c r).2.Stamped (rs ++ [(c, r)]) := by
  have hsame : m.Stamped (rs ++ [(c, r)]) := h.append _
  cases r with
  | create details =>
    cases hf : details.fault? with
    | some f =>
      rw [serve, hf]
      exact hsame
    | none =>
      by_cases hstored : m.contains c.freshId = true
      · rw [serve, hf]
        dsimp only
        rw [if_pos hstored]
        exact hsame
      · rw [serve_create hf hstored]
        have hmem : (c, Request.create details) ∈ rs ++ [(c, .create details)] :=
          List.mem_append_right rs List.mem_cons_self
        exact hsame.insert ⟨c.now, c.now, .created hmem rfl, rfl, rfl⟩
  | update id details =>
    cases hf : details.fault? with
    | some f =>
      rw [serve, hf]
      exact hsame
    | none =>
      cases hget : m.get? id with
      | none =>
        rw [serve, hf, hget]
        exact hsame
      | some record =>
        obtain ⟨created, updated, hstamps, hc, -⟩ := h id record hget
        rw [serve_update hf hget]
        exact hsame.insert ⟨created, c.now, hstamps.change c details, hc, rfl⟩
  | delete id =>
    rw [serve]
    split
    · intro id' r' hget
      rw [Keyed.get?_erase] at hget
      split at hget
      · cases hget
      · exact hsame id' r' hget
    · exact hsame
  | get id =>
    rw [serve]
    split <;> exact hsame
  | list params =>
    rw [serve]
    split <;> exact hsame

end Directory

/-! ## Accounts that are told -/

/-- The accounts in an answer. -/
def Service.Answer.accounts : Service.Answer → List User
  | .user u => [u]
  | .users us => us
  | .done => []

/-- The account in an event, if there is one. -/
def Event.accounts : Event → List User
  | .created u => [u]
  | .updated u => [u]
  | .deleted _ => []

namespace Service

/-- The accounts in the answer and in the event of an outcome. -/
def Outcome.accounts (o : Outcome) : List User :=
  o.answer.toOption.toList.flatMap Answer.accounts ++ o.event.toList.flatMap Event.accounts

theorem mem_accounts {o : Outcome} {u : User} :
    u ∈ o.accounts ↔
      (∃ a, o.answer = .ok a ∧ u ∈ a.accounts) ∨ ∃ e, o.event = some e ∧ u ∈ e.accounts := by
  unfold Outcome.accounts
  rw [List.mem_append]
  cases o.answer <;> cases o.event <;> simp [Except.toOption]

/-- The account is found under its identifier. -/
def Tallies (u : User) (m : Directory) : Prop :=
  ∃ record, m.get? u.id = some record ∧ u = record.found u.id

theorem tallies_found {m : Directory} {id : Uuid} {record : Record} (h : m.get? id = some record) :
    Tallies (record.found id) m := ⟨record, h, rfl⟩

variable {c : Context} {m : Directory}

/-- The account that a creation tells is as it was made, with one reading of the clock for both of
its times. -/
theorem made_create (details : Details) (s : Store) :
    ∀ u ∈ (outcomeOn c (.create details) s).1.accounts,
      u = ⟨c.freshId, details, c.now.truncate, c.now.truncate⟩ := by
  intro u hu
  cases hf : details.fault? with
  | some f =>
    rw [outcomeOn_of_plan_error (plan_create_of_fault c hf)] at hu
    cases hu
  | none =>
    rw [outcomeOn_of_plan_ok (plan_create c hf)] at hu
    dsimp only [Repository.memory, Store.create] at hu
    split at hu
    · cases hu
    · rcases mem_accounts.mp hu with ⟨a, ha, hmem⟩ | ⟨e, he, hmem⟩
      · cases ha
        exact List.mem_singleton.mp hmem
      · cases he
        exact List.mem_singleton.mp hmem

theorem tallies_update (hm : m.Sound) (id : Uuid) (details : Details) :
    ∀ u ∈ (outcomeOn c (.update id details) m.store).1.accounts,
      Tallies u (m.serve c (.update id details)).2 := by
  intro u hu
  cases hf : details.fault? with
  | some f =>
    rw [outcomeOn_of_plan_error (plan_update_of_fault c hf id)] at hu
    cases hu
  | none =>
    rw [outcomeOn_of_plan_ok (plan_update c hf id)] at hu
    dsimp only [Repository.memory] at hu
    cases hget : m.get? id with
    | none =>
      rw [Directory.update_of_absent hget] at hu
      cases hu
    | some record =>
      rw [hm.update_of_get? hget (Details.check_eq_ok.mpr hf)] at hu
      rw [Directory.serve_update hf hget, List.mem_singleton.mp hu]
      refine tallies_found ?_
      rw [Keyed.get?_insert, if_pos rfl]

theorem tallies_get (hm : m.Sound) (id : Uuid) :
    ∀ u ∈ (outcomeOn c (.get id) m.store).1.accounts, Tallies u (m.serve c (.get id)).2 := by
  intro u hu
  have hplan : plan c (.get id) = .ok (.find id) := rfl
  rw [outcomeOn_of_plan_ok hplan] at hu
  dsimp only [Repository.memory, Store.find] at hu
  cases hget : m.get? id with
  | none =>
    rw [Directory.get?_store_none hget] at hu
    cases hu
  | some record =>
    rw [Directory.get?_store_some hget] at hu
    dsimp only at hu
    rw [(hm id record hget).decode id] at hu
    rw [Directory.serve, hget, List.mem_singleton.mp hu]
    exact tallies_found hget

theorem tallies_list (hm : m.Sound) (params : Listing.Params) :
    ∀ u ∈ (outcomeOn c (.list params) m.store).1.accounts,
      Tallies u (m.serve c (.list params)).2 := by
  intro u hu
  cases hq : Listing.Query.ofParams params with
  | error f =>
    have hplan : plan c (.list params) = .error (c.invalid f.message) := by
      rw [plan, hq]
    rw [outcomeOn_of_plan_error hplan] at hu
    cases hu
  | ok q =>
    have hplan : plan c (.list params) = .ok (.list q) := by
      rw [plan, hq]
    obtain ⟨sel, hsel⟩ := Listing.exists_selection_of_ofParams hq
    rw [outcomeOn_of_plan_ok hplan] at hu
    dsimp only [Repository.memory] at hu
    rw [hm.list hsel] at hu
    have hlisted : u ∈ (m.store.slice sel).filterMap fun e =>
        (m.get? e.1).map (Record.found e.1) := by
      rcases mem_accounts.mp hu with ⟨a, ha, hmem⟩ | ⟨e, he, -⟩
      · cases ha
        exact hmem
      · cases he
    obtain ⟨e, -, he⟩ := List.mem_filterMap.mp hlisted
    obtain ⟨record, hget, rfl⟩ := Option.map_eq_some_iff.mp he
    rw [Directory.serve, hq]
    exact tallies_found hget

/-- A deletion tells no account. -/
theorem accounts_delete (c : Context) (id : Uuid) (s : Store) :
    (outcomeOn c (.delete id) s).1.accounts = [] := by
  cases hstored : s.contains id with
  | true =>
    rw [outcomeOn_delete_of_contains hstored]
    rfl
  | false =>
    rw [outcomeOn_delete_of_absent (Keyed.contains_eq_false.mp hstored)]
    rfl

/-! ## Sessions -/

/-- The times of the account come from readings of the clock during the requests, and are in order
iff these are. -/
def Timed (rs : List (Context × Request)) (u : User) : Prop :=
  ∃ created updated, Stamps rs u.id created updated ∧
    u.createdAt.Tells created ∧ u.updatedAt.Tells updated ∧
    (u.createdAt ≤ u.updatedAt ↔ created.readBack ≤ updated.readBack)

/-- An account that is found has the times of its record. -/
theorem Tallies.timed {rs : List (Context × Request)} {u : User} (h : Tallies u m)
    (hm : m.Stamped rs) : Timed rs u := by
  obtain ⟨record, hget, hu⟩ := h
  obtain ⟨created, updated, hstamps, hc, ht⟩ := hm u.id record hget
  have hcreated : u.createdAt = created.readBack := by
    rw [← created.readBack_cutNanos, ← hc]
    exact congrArg User.createdAt hu
  have hupdated : u.updatedAt = updated.readBack := by
    rw [← updated.readBack_cutNanos, ← ht]
    exact congrArg User.updatedAt hu
  refine ⟨created, updated, hstamps, .inr hcreated, .inr hupdated, ?_⟩
  rw [hcreated, hupdated]

/-- **The accounts that a request tells** have times that come from the clock. -/
theorem timed_outcomeOn {rs : List (Context × Request)} (hm : m.Sound) (r : Request)
    (hstamped : (m.serve c r).2.Stamped (rs ++ [(c, r)])) :
    ∀ u ∈ (outcomeOn c r m.store).1.accounts, Timed (rs ++ [(c, r)]) u := by
  intro u hu
  cases r with
  | create details =>
    obtain rfl := made_create details m.store u hu
    have hmem : (c, Request.create details) ∈ rs ++ [(c, .create details)] :=
      List.mem_append_right rs List.mem_cons_self
    exact ⟨c.now, c.now, .created hmem rfl, .inl rfl, .inl rfl,
      iff_of_true (le_refl _) (le_refl _)⟩
  | update id details => exact (tallies_update hm id details u hu).timed hstamped
  | delete id =>
    rw [accounts_delete] at hu
    cases hu
  | get id => exact (tallies_get hm id u hu).timed hstamped
  | list params => exact (tallies_list hm params u hu).timed hstamped

theorem Timed.append {rs : List (Context × Request)} {u : User} (h : Timed rs u)
    (more : List (Context × Request)) : Timed (rs ++ more) u := by
  obtain ⟨created, updated, hstamps, hu⟩ := h
  exact ⟨created, updated, hstamps.append more, hu⟩

/-- The times of what a session tells, and of what it leaves stored, come from readings of the
clock during the session or before it. -/
theorem timed_outcomes {before : List (Context × Request)} (rs : List (Context × Request))
    (hm : m.Sound) (hs : m.Stamped before) :
    (∀ o ∈ outcomes rs m.store, ∀ u ∈ o.accounts, Timed (before ++ rs) u) ∧
      ∃ m' : Directory, m'.Sound ∧ m'.Stamped (before ++ rs) ∧
        storeAfter rs m.store = m'.store := by
  induction rs generalizing m before with
  | nil =>
    rw [List.append_nil]
    exact ⟨by simp [outcomes], m, hm, hs, rfl⟩
  | cons q rs ih =>
    obtain ⟨c, r⟩ := q
    obtain ⟨hstore, hsound⟩ := outcomeOn_on_directory (c := c) hm r
    have hstamped : (m.serve c r).2.Stamped (before ++ [(c, r)]) := Directory.stamped_serve hs r
    obtain ⟨hlater, m', hsound', hstamped', hleft⟩ := ih hsound hstamped
    rw [List.append_assoc, List.singleton_append] at hlater hstamped'
    refine ⟨?_, m', hsound', hstamped', ?_⟩
    · intro o ho u hu
      rw [outcomes] at ho
      rcases List.mem_cons.mp ho with rfl | ho
      · have hall := (timed_outcomeOn hm r hstamped u hu).append rs
        rwa [List.append_assoc, List.singleton_append] at hall
      · rw [hstore] at ho
        exact hlater o ho u hu
    · rw [storeAfter, hstore, hleft]

/-- The account is stored after a session that starts without documents, or it was answered or
announced during the session. -/
inductive Seen {π : Type} (bus : Publisher π) (rs : List (Context × Request)) (p : π) (u : User) :
    Prop
  | stored {id d} : (after .memory bus rs Keyed.empty p).1.get? id = some d →
    Store.decode id d = .ok u → Seen bus rs p u
  | answered {now a} : now ∈ session .memory bus rs Keyed.empty p → now.answer = .ok a →
    u ∈ a.accounts → Seen bus rs p u
  | announced {e} : e ∈ (after .memory bus.recorded rs Keyed.empty (p, [])).2.2 →
    u ∈ e.accounts → Seen bus rs p u

/-- Every account seen is timed. -/
theorem Seen.timed {π : Type} {bus : Publisher π} {rs : List (Context × Request)} {p : π} {u : User}
    (h : Seen bus rs p u) : Timed rs u := by
  have hempty : Directory.Stamped [] Keyed.empty := by
    intro id r hget
    cases hget
  obtain ⟨htold, m', hsound, hstamped, hstore⟩ :=
    timed_outcomes rs Directory.sound_empty hempty
  cases h with
  | stored hget hdecode =>
    have hfinal : (after .memory bus rs Keyed.empty p).1 = m'.store :=
      (after_memory bus rs Keyed.empty p).trans hstore
    rw [hfinal] at hget
    obtain ⟨record, hrecord, hok⟩ := hsound.decode hget
    rw [hdecode, Except.ok.injEq] at hok
    rw [hok]
    exact (tallies_found hrecord).timed hstamped
  | @answered now a hnow ha hu =>
    have hmem : now.answer ∈ (session .memory bus rs Keyed.empty p).map Run.answer :=
      List.mem_map_of_mem hnow
    rw [session_memory] at hmem
    obtain ⟨o, ho, hanswer⟩ := List.mem_map.mp hmem
    exact htold o ho u (mem_accounts.mpr (.inl ⟨a, hanswer.trans ha, hu⟩))
  | @announced e he hu =>
    rw [recorded_after, List.nil_append] at he
    obtain ⟨o, ho, hevent⟩ := List.mem_filterMap.mp he
    exact htold o ho u (mem_accounts.mpr (.inr ⟨e, hevent, hu⟩))

/-- A record that requests leave in the empty directory is stored as its document. -/
theorem document_of_after {π : Type} (bus : Publisher π) (rs : List (Context × Request)) (p : π)
    {id : Uuid} {record : Record} (h : (Directory.after rs Keyed.empty).get? id = some record) :
    (after .memory bus rs Keyed.empty p).1.get? id = some (record.user id).document := by
  rw [(store_after bus rs p).1]
  exact Directory.get?_store_some h

/-- **A clock that is set back** leaves its trace: an account that is created at 100 seconds and
changed at 50 is stored as one that changed before it was created. -/
theorem clock_set_back :
    let details : Details := ⟨"A", "B", "C", "D", "e@example.com", "F"⟩
    let at₁₀₀ : Context := ⟨none, ⟨100, 0, by decide, by decide⟩, ⟨7, by decide⟩⟩
    let at₅₀ : Context := ⟨none, ⟨50, 0, by decide, by decide⟩, ⟨8, by decide⟩⟩
    let rs := [(at₁₀₀, Request.create details), (at₅₀, .update at₁₀₀.freshId details)]
    ∃ u, Seen (.silent Unit) rs () u ∧ ¬ u.createdAt ≤ u.updatedAt := by
  intro details at₁₀₀ at₅₀ rs
  let record : Record := ⟨details, at₁₀₀.now, at₅₀.now⟩
  have hrecord : (Directory.after rs Keyed.empty).get? at₁₀₀.freshId = some record := by
    decide +kernel
  have hget := document_of_after (.silent Unit) rs () hrecord
  have hdecode : Store.decode at₁₀₀.freshId (record.user at₁₀₀.freshId).document =
      .ok (record.user at₁₀₀.freshId) := by
    decide +kernel
  refine ⟨record.user at₁₀₀.freshId, .stored hget hdecode, ?_⟩
  decide +kernel

/-- **The times of an account** that a session stores, answers or announces come from two readings
of the clock: that of the creation which drew its identifier, and that of the same request or of a
later change of the account.  They are in order iff the readings are, each as its text tells it in
milliseconds; so they are in every session during which the clock does not go back and gives leap
seconds only at the end of a minute. -/
theorem times_of_seen {π : Type} (bus : Publisher π) (rs : List (Context × Request)) (p : π) :
    (∀ u, Seen bus rs p u → ∃ created updated, Stamps rs u.id created updated ∧
      u.createdAt.Tells created ∧ u.updatedAt.Tells updated ∧
      (u.createdAt ≤ u.updatedAt ↔ created.readBack ≤ updated.readBack)) ∧
    ((∀ q ∈ rs, q.1.now.LeapAtMinuteEnd) → (rs.Pairwise fun q q' => q.1.now ≤ q'.1.now) →
      ∀ u, Seen bus rs p u → u.createdAt ≤ u.updatedAt) := by
  refine ⟨fun u hu => hu.timed, ?_⟩
  intro hleap hclock u hu
  obtain ⟨created, updated, hstamps, -, -, hiff⟩ := hu.timed
  obtain ⟨q, hq, rfl⟩ := hstamps.exists_reading
  exact hiff.mpr (Instant.readBack_le_readBack (hstamps.le hclock) (hleap q hq))

/-- An account that is made in a leap second and changed in the second after it. -/
theorem times_of_seen_leap :
    let details : Details := ⟨"A", "B", "C", "D", "e@example.com", "F"⟩
    let leap : Context := ⟨none, ⟨59, 1999999999, by decide, by decide⟩, ⟨7, by decide⟩⟩
    let later : Context := ⟨none, ⟨60, 1, by decide, by decide⟩, ⟨8, by decide⟩⟩
    let rs := [(leap, Request.create details), (later, .update leap.freshId details)]
    (∀ q ∈ rs, q.1.now.LeapAtMinuteEnd) ∧ (rs.Pairwise fun q q' => q.1.now ≤ q'.1.now) ∧
      ∀ u, Seen (.silent Unit) rs () u → u.createdAt ≤ u.updatedAt := by
  intro details leap later rs
  have hleap : ∀ q ∈ rs, q.1.now.LeapAtMinuteEnd := by
    decide +kernel
  have hclock : rs.Pairwise fun q q' => q.1.now ≤ q'.1.now := by
    decide +kernel
  exact ⟨hleap, hclock, (times_of_seen (.silent Unit) rs ()).2 hleap hclock⟩

end Service
end UserDirectory
