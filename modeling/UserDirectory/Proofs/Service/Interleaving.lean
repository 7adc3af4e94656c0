import UserDirectory.Proofs.Service.Outcomes
import Mathlib.Data.List.Nodup
import Mathlib.Logic.Function.Basic
import Mathlib.Tactic.Common

/-!
# Proofs.Service.Interleaving — requests that are served at the same time

* `System`, `Move`, `step`: requests that share documents in memory and a publisher.  Each takes
  its own moves: it is prepared (clock, identifier, checks), makes its one call, hands over its
  event, and is answered.
* `commits`: the requests in the order of their calls.  A refused request, which makes none, stands
  where it was refused.
* `Explained`, `HandedOver`: the invariant of every schedule.  What has been decided is what a
  session in the order of the commits decides, and an event has been handed over iff it was due
  and is not pending.
* `Inv.step`, `Inv.exec`: one move keeps the invariant, and so do all of them.
-/

namespace UserDirectory.Service

/-! ## The system -/

/-- How far a request has come. -/
inductive Phase where
  | waiting
  | planned (c : Context) (call : StoreCall)
  | settled (answer : Except DomainError Answer) (event : Option Event)
  | announced (answer : Except DomainError Answer)
  | answered (answer : Except DomainError Answer)

/-- A request that has made its call, or has been refused: what it found when it came in, and the
event that is due. -/
structure Commit (ι : Type) where
  who : ι
  context : Context
  event : Option Event

/-- What is worth remembering about a move. -/
inductive Mark (ι : Type) where
  | committed (k : Commit ι)
  | handed (who : ι) (event : Event)

/-- The requests, the documents and the publisher that they share, and what happened so far. -/
structure System (ι π : Type) where
  phase : ι → Phase
  store : Store
  bus : π
  history : List (Mark ι)

/-- A move of one request. -/
inductive Move (ι : Type) where
  | prepare (i : ι) (c : Context)
  | store (i : ι)
  | publish (i : ι)
  | answer (i : ι)

section Steps

variable {ι π : Type} [DecidableEq ι]

/-- The system with one request in another phase. -/
def System.put (sys : System ι π) (i : ι) (phase : Phase) : System ι π :=
  { sys with phase := Function.update sys.phase i phase }

/-- One move, if the request can make it. -/
def step (request : ι → Request) (bus : Publisher π) (sys : System ι π) :
    Move ι → Option (System ι π)
  | .prepare i c =>
    match sys.phase i with
    | .waiting =>
      match plan c (request i) with
      | .error e =>
        some { sys.put i (.settled (.error e) none) with
          history := sys.history ++ [.committed ⟨i, c, none⟩] }
      | .ok call => some (sys.put i (.planned c call))
    | _ => none
  | .store i =>
    match sys.phase i with
    | .planned c call =>
      let (reply, store) := Repository.memory.serve call sys.store
      let outcome := settle c call reply
      some { sys.put i (.settled outcome.answer outcome.event) with
        store
        history := sys.history ++ [.committed ⟨i, c, outcome.event⟩] }
    | _ => none
  | .publish i =>
    match sys.phase i with
    | .settled answer (some event) =>
      some { sys.put i (.announced answer) with
        bus := (announce bus (some event) sys.bus).2
        history := sys.history ++ [.handed i event] }
    | _ => none
  | .answer i =>
    match sys.phase i with
    | .settled answer none => some (sys.put i (.answered answer))
    | .announced answer => some (sys.put i (.answered answer))
    | _ => none

/-- The moves one after another, if they can be made. -/
def exec (request : ι → Request) (bus : Publisher π) :
    System ι π → List (Move ι) → Option (System ι π)
  | sys, [] => some sys
  | sys, m :: ms => (step request bus sys m).bind fun sys => exec request bus sys ms

/-- No request has come in yet. -/
def System.start (s : Store) (p : π) : System ι π := ⟨fun _ => .waiting, s, p, []⟩

/-- What a move does, by the phase of its request. -/
inductive Step (request : ι → Request) (bus : Publisher π) (sys : System ι π) :
    Move ι → System ι π → Prop
  | refuse {i c e} : sys.phase i = .waiting → plan c (request i) = .error e →
    Step request bus sys (.prepare i c) { sys.put i (.settled (.error e) none) with
      history := sys.history ++ [.committed ⟨i, c, none⟩] }
  | plan {i c call} : sys.phase i = .waiting → plan c (request i) = .ok call →
    Step request bus sys (.prepare i c) (sys.put i (.planned c call))
  | store {i c call} : sys.phase i = .planned c call →
    Step request bus sys (.store i)
      { sys.put i (.settled (settle c call (Repository.memory.serve call sys.store).1).answer
          (settle c call (Repository.memory.serve call sys.store).1).event) with
        store := (Repository.memory.serve call sys.store).2
        history := sys.history ++ [.committed
          ⟨i, c, (settle c call (Repository.memory.serve call sys.store).1).event⟩] }
  | publish {i answer event} : sys.phase i = .settled answer (some event) →
    Step request bus sys (.publish i) { sys.put i (.announced answer) with
      bus := (announce bus (some event) sys.bus).2
      history := sys.history ++ [.handed i event] }
  | answer {i answer} : sys.phase i = .settled answer none ∨ sys.phase i = .announced answer →
    Step request bus sys (.answer i) (sys.put i (.answered answer))

theorem step_cases {request : ι → Request} {bus : Publisher π} {sys sys' : System ι π}
    {m : Move ι} (h : step request bus sys m = some sys') : Step request bus sys m sys' := by
  cases m with
  | prepare i c =>
    unfold step at h
    dsimp only at h
    split at h
    · next hphase =>
      split at h
      · next e hplan =>
        cases h
        exact .refuse hphase hplan
      · next call hplan =>
        cases h
        exact .plan hphase hplan
    · cases h
  | store i =>
    unfold step at h
    dsimp only at h
    split at h
    · next c call hphase =>
      cases h
      exact .store hphase
    · cases h
  | publish i =>
    unfold step at h
    dsimp only at h
    split at h
    · next answer event hphase =>
      cases h
      exact .publish hphase
    · cases h
  | answer i =>
    unfold step at h
    dsimp only at h
    split at h
    · next answer hphase =>
      cases h
      exact .answer (.inl hphase)
    · next answer hphase =>
      cases h
      exact .answer (.inr hphase)
    · cases h

end Steps

/-! ## What is to be seen of a system -/

/-- The answer that has been decided. -/
def Phase.result? : Phase → Option (Except DomainError Answer)
  | .waiting => none
  | .planned _ _ => none
  | .settled answer _ => some answer
  | .announced answer => some answer
  | .answered answer => some answer

/-- The event that is still to be handed over. -/
def Phase.pending? : Phase → Option Event
  | .settled _ event => event
  | _ => none

section Views

variable {ι π : Type}

/-- The commit that a mark tells of. -/
def Mark.commit? : Mark ι → Option (Commit ι)
  | .committed k => some k
  | .handed _ _ => none

/-- The event whose handing over a mark tells of. -/
def Mark.handed? : Mark ι → Option (ι × Event)
  | .committed _ => none
  | .handed i event => some (i, event)

/-- The commits, in order. -/
def System.commits (sys : System ι π) : List (Commit ι) := sys.history.filterMap Mark.commit?

/-- The events that have been handed over, in order, each with its request. -/
def System.handed (sys : System ι π) : List (ι × Event) := sys.history.filterMap Mark.handed?

/-- The requests of commits, each as it came in. -/
def script (request : ι → Request) (ks : List (Commit ι)) : List (Context × Request) :=
  ks.map fun k => (k.context, request k.who)

theorem script_append (request : ι → Request) (ks ls : List (Commit ι)) :
    script request (ks ++ ls) = script request ks ++ script request ls := List.map_append

variable {sys sys' : System ι π}

theorem commits_of_committed {k : Commit ι} (h : sys'.history = sys.history ++ [.committed k]) :
    sys'.commits = sys.commits ++ [k] := by
  unfold System.commits
  rw [h, List.filterMap_append]
  rfl

theorem mem_history_of_commits {k : Commit ι} (h : k ∈ sys.commits) :
    .committed k ∈ sys.history := by
  obtain ⟨m, hm, hk⟩ := List.mem_filterMap.mp h
  cases m with
  | committed l =>
    cases hk
    exact hm
  | handed i e => cases hk

theorem handed_of_committed {k : Commit ι} (h : sys'.history = sys.history ++ [.committed k]) :
    sys'.handed = sys.handed := by
  unfold System.handed
  rw [h, List.filterMap_append]
  exact List.append_nil _

theorem commits_of_handed {i : ι} {event : Event}
    (h : sys'.history = sys.history ++ [.handed i event]) : sys'.commits = sys.commits := by
  unfold System.commits
  rw [h, List.filterMap_append]
  exact List.append_nil _

theorem handed_of_handed {i : ι} {event : Event}
    (h : sys'.history = sys.history ++ [.handed i event]) :
    sys'.handed = sys.handed ++ [(i, event)] := by
  unfold System.handed
  rw [h, List.filterMap_append]
  rfl

variable [DecidableEq ι]

theorem put_self (sys : System ι π) (i : ι) (phase : Phase) :
    (sys.put i phase).phase i = phase := by
  unfold System.put
  exact Function.update_self i phase sys.phase

theorem put_of_ne (sys : System ι π) {i j : ι} (h : j ≠ i) (phase : Phase) :
    (sys.put i phase).phase j = sys.phase j := by
  unfold System.put
  exact Function.update_of_ne h phase sys.phase

/-- A phase of the changed system is the new one or an old one. -/
theorem eq_of_put {i j : ι} {phase phase' : Phase} (h : (sys.put i phase).phase j = phase') :
    (j = i ∧ phase = phase') ∨ sys.phase j = phase' := by
  by_cases hj : j = i
  · subst hj
    rw [put_self] at h
    exact .inl ⟨rfl, h⟩
  · rw [put_of_ne sys hj] at h
    exact .inr h

/-- A phase with the same decision leaves all decisions as they are. -/
theorem result_put {i : ι} {phase : Phase} (h : phase.result? = (sys.phase i).result?) (j : ι) :
    ((sys.put i phase).phase j).result? = (sys.phase j).result? := by
  by_cases hj : j = i
  · subst hj
    rw [put_self, h]
  · rw [put_of_ne sys hj]

/-- A phase with the same pending event leaves all pending events as they are. -/
theorem pending_put {i : ι} {phase : Phase} (h : phase.pending? = (sys.phase i).pending?)
    (j : ι) : ((sys.put i phase).phase j).pending? = (sys.phase j).pending? := by
  by_cases hj : j = i
  · subst hj
    rw [put_self, h]
  · rw [put_of_ne sys hj]

end Views

/-! ## The invariant -/

/-- The event of every mark that tells of one was due by a commit before it. -/
def Caused {ι : Type} (history : List (Mark ι)) : Prop :=
  ∀ before i event rest, history = before ++ .handed i event :: rest →
    ∃ k, .committed k ∈ before ∧ k.who = i ∧ k.event = some event

theorem caused_concat {ι : Type} {history : List (Mark ι)} (h : Caused history) {m : Mark ι}
    (hm : ∀ i event, m = .handed i event →
      ∃ k, .committed k ∈ history ∧ k.who = i ∧ k.event = some event) :
    Caused (history ++ [m]) := by
  intro before i event rest heq
  rcases List.eq_nil_or_concat rest with rfl | ⟨rest, x, rfl⟩
  · obtain ⟨rfl, hlast⟩ := List.append_inj' heq rfl
    exact hm i event (List.cons.inj hlast).1
  · rw [List.concat_eq_append, ← List.cons_append, ← List.append_assoc] at heq
    obtain ⟨hhistory, -⟩ := List.append_inj' heq rfl
    exact h before i event rest hhistory

section Invariant

variable {ι π : Type}

/-- What has been decided after the moves `done`, from the documents `s` on: the commits are those
of different requests, each with what it found when it was prepared, and a session in their order
decides the same. -/
structure Explained (request : ι → Request) (s : Store) (done : List (Move ι))
    (sys : System ι π) : Prop where
  nodup : (sys.commits.map Commit.who).Nodup
  decided_iff : ∀ i, i ∈ sys.commits.map Commit.who ↔ ∃ a, (sys.phase i).result? = some a
  planned : ∀ i c call, sys.phase i = .planned c call →
    plan c (request i) = .ok call ∧ .prepare i c ∈ done
  prepared : ∀ k ∈ sys.commits, .prepare k.who k.context ∈ done
  outcomes_eq : sys.commits.map (fun k => ((sys.phase k.who).result?, k.event)) =
    (outcomes (script request sys.commits) s).map fun o => (some o.answer, o.event)
  store_eq : sys.store = storeAfter (script request sys.commits) s

/-- What has been handed over: at most one event for each request, the one that its commit made
due, after the commit, and unless it is pending. -/
structure HandedOver (sys : System ι π) : Prop where
  settled : ∀ i a event, sys.phase i = .settled a event →
    ∃ k ∈ sys.commits, k.who = i ∧ k.event = event
  once : (sys.handed.map Prod.fst).Nodup
  mem_iff : ∀ i e, (i, e) ∈ sys.handed ↔
    (∃ k ∈ sys.commits, k.who = i ∧ k.event = some e) ∧ (sys.phase i).pending? = none
  caused : Caused sys.history

/-- The invariant of every schedule. -/
structure Inv (request : ι → Request) (s : Store) (done : List (Move ι)) (sys : System ι π) :
    Prop where
  explained : Explained request s done sys
  handedOver : HandedOver sys

variable {request : ι → Request} {s : Store} {done done' : List (Move ι)}
  {sys sys' : System ι π}

/-- A request is committed at most once. -/
theorem Explained.eq_of_who (h : Explained request s done sys) {k l : Commit ι}
    (hk : k ∈ sys.commits) (hl : l ∈ sys.commits) (hwho : k.who = l.who) : k = l :=
  List.inj_on_of_nodup_map h.nodup hk hl hwho

theorem Explained.who_ne (h : Explained request s done sys) {i : ι}
    (hi : (sys.phase i).result? = none) : ∀ k ∈ sys.commits, k.who ≠ i := by
  rintro k hk rfl
  obtain ⟨a, ha⟩ := (h.decided_iff k.who).mp (List.mem_map_of_mem hk)
  rw [hi] at ha
  cases ha

/-- **A commit** is explained by the outcome of its request on the documents that it finds. -/
theorem Explained.commit (h : Explained request s done sys) {k : Commit ι} {o : Outcome}
    (hundecided : (sys.phase k.who).result? = none)
    (ho : outcomeOn k.context (request k.who) sys.store = (o, sys'.store))
    (hevent : k.event = o.event) (hcommits : sys'.commits = sys.commits ++ [k])
    (hself : sys'.phase k.who = .settled o.answer o.event)
    (hne : ∀ j, j ≠ k.who → sys'.phase j = sys.phase j)
    (hdone : ∀ m ∈ done, m ∈ done') (hprepare : .prepare k.who k.context ∈ done') :
    Explained request s done' sys' := by
  have hother := h.who_ne hundecided
  have hscript : script request sys'.commits =
      script request sys.commits ++ [(k.context, request k.who)] := by
    rw [hcommits, script_append]
    rfl
  constructor
  case nodup =>
    rw [hcommits, List.map_append]
    refine List.nodup_append.mpr ⟨h.nodup, List.nodup_singleton k.who, ?_⟩
    intro a ha b hb
    obtain ⟨l, hl, rfl⟩ := List.mem_map.mp ha
    rw [List.mem_singleton.mp hb]
    exact hother l hl
  case decided_iff =>
    intro j
    rw [hcommits, List.map_append, List.mem_append, h.decided_iff]
    by_cases hj : j = k.who
    · subst hj
      rw [hself]
      exact ⟨fun _ => ⟨o.answer, rfl⟩, fun _ => .inr List.mem_cons_self⟩
    · rw [hne j hj]
      refine ⟨?_, ?_⟩
      · rintro (hdecided | hmem)
        · exact hdecided
        · exact absurd (List.mem_singleton.mp hmem) hj
      · exact .inl
  case planned =>
    intro j c call hj
    by_cases hjk : j = k.who
    · subst hjk
      rw [hself] at hj
      cases hj
    · rw [hne j hjk] at hj
      obtain ⟨hplan, hmem⟩ := h.planned j c call hj
      exact ⟨hplan, hdone _ hmem⟩
  case prepared =>
    intro l hl
    rw [hcommits] at hl
    rcases List.mem_append.mp hl with hl | hl
    · exact hdone _ (h.prepared l hl)
    · rw [List.mem_singleton.mp hl]
      exact hprepare
  case outcomes_eq =>
    have hold : sys.commits.map (fun l => ((sys'.phase l.who).result?, l.event)) =
        sys.commits.map fun l => ((sys.phase l.who).result?, l.event) :=
      List.map_congr_left fun l hl => by rw [hne l.who (hother l hl)]
    rw [hscript, hcommits, List.map_append, hold, h.outcomes_eq, outcomes_append,
      List.map_append, ← h.store_eq, outcomes, outcomes, ho, List.map_singleton, hself, hevent]
    rfl
  case store_eq =>
    rw [hscript, storeAfter_append, ← h.store_eq, storeAfter, storeAfter, ho]

/-- A move that decides nothing leaves everything explained. -/
theorem Explained.keep (h : Explained request s done sys) (hcommits : sys'.commits = sys.commits)
    (hstore : sys'.store = sys.store)
    (hresult : ∀ j, (sys'.phase j).result? = (sys.phase j).result?)
    (hplanned : ∀ j c call, sys'.phase j = .planned c call → sys.phase j = .planned c call ∨
      plan c (request j) = .ok call ∧ .prepare j c ∈ done')
    (hdone : ∀ m ∈ done, m ∈ done') : Explained request s done' sys' := by
  constructor
  case nodup =>
    rw [hcommits]
    exact h.nodup
  case decided_iff =>
    intro j
    rw [hcommits, hresult]
    exact h.decided_iff j
  case planned =>
    intro j c call hj
    rcases hplanned j c call hj with hold | hnew
    · obtain ⟨hplan, hmem⟩ := h.planned j c call hold
      exact ⟨hplan, hdone _ hmem⟩
    · exact hnew
  case prepared =>
    intro l hl
    rw [hcommits] at hl
    exact hdone _ (h.prepared l hl)
  case outcomes_eq =>
    rw [hcommits, ← h.outcomes_eq]
    exact List.map_congr_left fun l _ => by rw [hresult]
  case store_eq =>
    rw [hstore, hcommits]
    exact h.store_eq

/-- A commit makes its event due. -/
theorem HandedOver.commit (h : HandedOver sys) {k : Commit ι} {a : Except DomainError Answer}
    (hother : ∀ l ∈ sys.commits, l.who ≠ k.who)
    (hhistory : sys'.history = sys.history ++ [.committed k])
    (hself : sys'.phase k.who = .settled a k.event)
    (hne : ∀ j, j ≠ k.who → sys'.phase j = sys.phase j) : HandedOver sys' := by
  have hcommits := commits_of_committed hhistory
  have hhanded := handed_of_committed hhistory
  constructor
  case settled =>
    intro j b event hj
    rw [hcommits]
    by_cases hjk : j = k.who
    · subst hjk
      rw [hself] at hj
      cases hj
      exact ⟨k, List.mem_append_right _ List.mem_cons_self, rfl, rfl⟩
    · rw [hne j hjk] at hj
      obtain ⟨l, hl, hwho, hevent⟩ := h.settled j b event hj
      exact ⟨l, List.mem_append_left _ hl, hwho, hevent⟩
  case once =>
    rw [hhanded]
    exact h.once
  case mem_iff =>
    intro j e
    rw [hhanded, h.mem_iff, hcommits]
    by_cases hjk : j = k.who
    · subst hjk
      rw [hself]
      refine ⟨?_, ?_⟩
      · rintro ⟨⟨l, hl, hwho, -⟩, -⟩
        exact absurd hwho (hother l hl)
      · rintro ⟨⟨l, hl, hwho, hevent⟩, hpending⟩
        rcases List.mem_append.mp hl with hl | hl
        · exact absurd hwho (hother l hl)
        · rw [List.mem_singleton.mp hl] at hevent
          cases hevent.symm.trans hpending
    · rw [hne j hjk]
      refine and_congr_left fun _ => ?_
      refine ⟨?_, ?_⟩
      · rintro ⟨l, hl, hwho, hevent⟩
        exact ⟨l, List.mem_append_left _ hl, hwho, hevent⟩
      · rintro ⟨l, hl, hwho, hevent⟩
        rcases List.mem_append.mp hl with hl | hl
        · exact ⟨l, hl, hwho, hevent⟩
        · rw [List.mem_singleton.mp hl] at hwho
          exact absurd hwho.symm hjk
  case caused =>
    rw [hhistory]
    exact caused_concat h.caused fun j event hmark => by cases hmark

/-- A move that neither commits nor hands over, and takes no pending event away. -/
theorem HandedOver.keep (h : HandedOver sys) (hhistory : sys'.history = sys.history)
    (hsettled : ∀ j a event, sys'.phase j = .settled a event → sys.phase j = .settled a event)
    (hpending : ∀ j, (sys'.phase j).pending? = (sys.phase j).pending?) : HandedOver sys' := by
  have hcommits : sys'.commits = sys.commits := by
    unfold System.commits
    rw [hhistory]
  have hhanded : sys'.handed = sys.handed := by
    unfold System.handed
    rw [hhistory]
  constructor
  case settled =>
    intro j a event hj
    rw [hcommits]
    exact h.settled j a event (hsettled j a event hj)
  case once =>
    rw [hhanded]
    exact h.once
  case mem_iff =>
    intro j e
    rw [hhanded, hcommits, hpending]
    exact h.mem_iff j e
  case caused =>
    rw [hhistory]
    exact h.caused

/-- A request whose event is pending has handed over nothing. -/
theorem HandedOver.not_handed (h : HandedOver sys) {i : ι} {a : Except DomainError Answer}
    {event : Event} (hphase : sys.phase i = .settled a (some event)) (e : Event) :
    (i, e) ∉ sys.handed := by
  intro hmem
  have hpending := ((h.mem_iff i e).mp hmem).2
  rw [hphase] at hpending
  cases hpending

/-- **Handing over** an event that is pending. -/
theorem HandedOver.publish (h : HandedOver sys)
    (hunique : ∀ k ∈ sys.commits, ∀ l ∈ sys.commits, k.who = l.who → k = l) {i : ι}
    {a : Except DomainError Answer} {event : Event} (hphase : sys.phase i = .settled a (some event))
    (hhistory : sys'.history = sys.history ++ [.handed i event])
    (hself : sys'.phase i = .announced a) (hne : ∀ j, j ≠ i → sys'.phase j = sys.phase j) :
    HandedOver sys' := by
  have hcommits := commits_of_handed hhistory
  have hhanded := handed_of_handed hhistory
  obtain ⟨k, hk, hwho, hevent⟩ := h.settled i a (some event) hphase
  have hfresh := h.not_handed hphase
  constructor
  case settled =>
    intro j b event' hj
    rw [hcommits]
    by_cases hji : j = i
    · subst hji
      rw [hself] at hj
      cases hj
    · rw [hne j hji] at hj
      exact h.settled j b event' hj
  case once =>
    rw [hhanded, List.map_append]
    refine List.nodup_append.mpr ⟨h.once, List.nodup_singleton i, ?_⟩
    intro x hx y hy hxy
    obtain ⟨⟨j, e⟩, hmem, rfl⟩ := List.mem_map.mp hx
    have hy : y = i := List.mem_singleton.mp hy
    exact hfresh e (hy ▸ hxy ▸ hmem)
  case mem_iff =>
    intro j e
    rw [hhanded, hcommits, List.mem_append, List.mem_singleton]
    by_cases hji : j = i
    · subst hji
      rw [hself]
      refine ⟨?_, ?_⟩
      · rintro (hmem | heq)
        · exact absurd hmem (hfresh e)
        · cases heq
          exact ⟨⟨k, hk, hwho, hevent⟩, rfl⟩
      · rintro ⟨⟨l, hl, hlwho, hlevent⟩, -⟩
        have hlk : l = k := hunique l hl k hk (hlwho.trans hwho.symm)
        rw [hlk, hevent, Option.some.injEq] at hlevent
        exact .inr (hlevent ▸ rfl)
    · rw [hne j hji, ← h.mem_iff]
      refine ⟨?_, ?_⟩
      · rintro (hmem | heq)
        · exact hmem
        · exact absurd (congrArg Prod.fst heq) hji
      · exact .inl
  case caused =>
    rw [hhistory]
    refine caused_concat h.caused fun j event' hmark => ?_
    cases hmark
    exact ⟨k, mem_history_of_commits hk, hwho, hevent⟩

/-! ## One move, and all of them -/

variable [DecidableEq ι] {bus : Publisher π}

theorem Inv.refuse (h : Inv request s done sys) {i : ι} {c : Context} {e : DomainError}
    (hphase : sys.phase i = .waiting) (hplan : plan c (request i) = .error e) :
    Inv request s (done ++ [.prepare i c]) { sys.put i (.settled (.error e) none) with
      history := sys.history ++ [.committed ⟨i, c, none⟩] } := by
  have hundecided : (sys.phase i).result? = none := by
    rw [hphase]
    rfl
  have ho : outcomeOn c (request i) sys.store = (.quiet (.error e), sys.store) :=
    outcomeOn_of_plan_error hplan
  constructor
  case explained =>
    exact h.explained.commit (k := ⟨i, c, none⟩) hundecided ho rfl (commits_of_committed rfl)
      (put_self sys i _) (fun j hj => put_of_ne sys hj _)
      (fun m hm => List.mem_append_left _ hm) (List.mem_append_right _ List.mem_cons_self)
  case handedOver =>
    exact h.handedOver.commit (k := ⟨i, c, none⟩) (h.explained.who_ne hundecided) rfl
      (put_self sys i _) fun j hj => put_of_ne sys hj _

theorem Inv.plan (h : Inv request s done sys) {i : ι} {c : Context} {call : StoreCall}
    (hphase : sys.phase i = .waiting) (hplan : Service.plan c (request i) = .ok call) :
    Inv request s (done ++ [.prepare i c]) (sys.put i (.planned c call)) := by
  constructor
  case explained =>
    refine h.explained.keep rfl rfl (result_put (by rw [hphase]; rfl)) ?_
      fun m hm => List.mem_append_left _ hm
    intro j c' call' hj
    rcases eq_of_put hj with ⟨rfl, hnew⟩ | hold
    · cases hnew
      exact .inr ⟨hplan, List.mem_append_right _ List.mem_cons_self⟩
    · exact .inl hold
  case handedOver =>
    refine h.handedOver.keep rfl ?_ (pending_put (by rw [hphase]; rfl))
    intro j a event hj
    rcases eq_of_put hj with ⟨-, hnew⟩ | hold
    · cases hnew
    · exact hold

theorem Inv.serve (h : Inv request s done sys) {i : ι} {c : Context} {call : StoreCall}
    (hphase : sys.phase i = .planned c call) :
    Inv request s (done ++ [.store i])
      { sys.put i (.settled (settle c call (Repository.memory.serve call sys.store).1).answer
          (settle c call (Repository.memory.serve call sys.store).1).event) with
        store := (Repository.memory.serve call sys.store).2
        history := sys.history ++ [.committed
          ⟨i, c, (settle c call (Repository.memory.serve call sys.store).1).event⟩] } := by
  obtain ⟨hplan, hprepare⟩ := h.explained.planned i c call hphase
  have hundecided : (sys.phase i).result? = none := by
    rw [hphase]
    rfl
  have ho := outcomeOn_of_plan_ok (s := sys.store) hplan
  constructor
  case explained =>
    exact h.explained.commit
      (k := ⟨i, c, (settle c call (Repository.memory.serve call sys.store).1).event⟩)
      hundecided ho rfl (commits_of_committed rfl) (put_self sys i _)
      (fun j hj => put_of_ne sys hj _) (fun m hm => List.mem_append_left _ hm)
      (List.mem_append_left _ hprepare)
  case handedOver =>
    exact h.handedOver.commit
      (k := ⟨i, c, (settle c call (Repository.memory.serve call sys.store).1).event⟩)
      (h.explained.who_ne hundecided) rfl (put_self sys i _) fun j hj => put_of_ne sys hj _

theorem Inv.publish (h : Inv request s done sys) {i : ι} {a : Except DomainError Answer}
    {event : Event} (hphase : sys.phase i = .settled a (some event)) (p : π) :
    Inv request s (done ++ [.publish i]) { sys.put i (.announced a) with
      bus := p
      history := sys.history ++ [.handed i event] } := by
  constructor
  case explained =>
    refine h.explained.keep (commits_of_handed rfl) rfl (result_put (by rw [hphase]; rfl)) ?_
      fun m hm => List.mem_append_left _ hm
    intro j c call hj
    rcases eq_of_put hj with ⟨-, hnew⟩ | hold
    · cases hnew
    · exact .inl hold
  case handedOver =>
    exact h.handedOver.publish (fun k hk l hl => h.explained.eq_of_who hk hl) hphase rfl
      (put_self sys i _) fun j hj => put_of_ne sys hj _

theorem Inv.answer (h : Inv request s done sys) {i : ι} {a : Except DomainError Answer}
    (hphase : sys.phase i = .settled a none ∨ sys.phase i = .announced a) :
    Inv request s (done ++ [.answer i]) (sys.put i (.answered a)) := by
  have hresult : (sys.phase i).result? = some a := by
    rcases hphase with hphase | hphase
    all_goals
      rw [hphase]
      rfl
  have hpending : (sys.phase i).pending? = none := by
    rcases hphase with hphase | hphase
    all_goals
      rw [hphase]
      rfl
  constructor
  case explained =>
    refine h.explained.keep rfl rfl (result_put hresult.symm) ?_
      fun m hm => List.mem_append_left _ hm
    intro j c call hj
    rcases eq_of_put hj with ⟨-, hnew⟩ | hold
    · cases hnew
    · exact .inl hold
  case handedOver =>
    refine h.handedOver.keep rfl ?_ (pending_put hpending.symm)
    intro j b event hj
    rcases eq_of_put hj with ⟨-, hnew⟩ | hold
    · cases hnew
    · exact hold

/-- **Every move keeps the invariant.** -/
theorem Inv.step (h : Inv request s done sys) {m : Move ι} (hstep : Step request bus sys m sys') :
    Inv request s (done ++ [m]) sys' := by
  cases hstep with
  | refuse hphase hplan => exact h.refuse hphase hplan
  | plan hphase hplan => exact h.plan hphase hplan
  | store hphase => exact h.serve hphase
  | publish hphase => exact h.publish hphase _
  | answer hphase => exact h.answer hphase

theorem Inv.exec (h : Inv request s done sys) {moves : List (Move ι)}
    (hexec : Service.exec request bus sys moves = some sys') :
    Inv request s (done ++ moves) sys' := by
  induction moves generalizing done sys with
  | nil =>
    cases hexec
    rw [List.append_nil]
    exact h
  | cons m moves ih =>
    rw [Service.exec, Option.bind_eq_some_iff] at hexec
    obtain ⟨next, hstep, hexec⟩ := hexec
    have hnext := ih (h.step (step_cases hstep)) hexec
    rw [List.append_assoc, List.singleton_append] at hnext
    exact hnext

end Invariant

end UserDirectory.Service
