import UserDirectory.Proofs.Instant.Chronology
import UserDirectory.Proofs.Service.Directory
import UserDirectory.Proofs.Store.Filter

/-!
# Proofs.Service.Chronology — listings sorted by a time are in order of time

* `TimeMember`: the two times of an account.  `TimeMember.Precedes`: the order of accounts by one
  of them, cut to milliseconds, in a direction; accounts with the same time are in the order of
  their identifiers.
* `TimeMember.precedes_document`: the store compares texts; in the years 0 to 9999 documents are in
  its order only if their accounts are.
* `Directory.foundIn`: the accounts of documents.  `Directory.Sound.find_eq_ok`: an account is found
  if and only if the directory holds it.
* `list_in_time`: a listing sorted by a time is its slice of the accounts in order of time.
-/

namespace UserDirectory

open Listing (Direction Filter FilterField Params Query Selection SortField)
open Service (Context Request)

/-! ## The times of an account -/

/-- One instant comes before another in a direction, both cut to milliseconds. -/
def Instant.Leads (direction : Direction) (a b : Instant) : Prop :=
  match direction with
  | .ascending => a.cutNanos < b.cutNanos
  | .descending => b.cutNanos < a.cutNanos

/-- The two times of an account. -/
inductive TimeMember where
  | createdAt
  | updatedAt
deriving DecidableEq, Repr

namespace TimeMember

/-- The time as a member by which listings are sorted. -/
def field : TimeMember → SortField
  | .createdAt => .createdAt
  | .updatedAt => .updatedAt

/-- The time of the account. -/
def of : TimeMember → User → Instant
  | .createdAt, u => u.createdAt
  | .updatedAt, u => u.updatedAt

/-- One account comes before another in order of time: its time does, or the times are the same
millisecond and its identifier is smaller. -/
def Precedes (member : TimeMember) (direction : Direction) (u v : User) : Prop :=
  Instant.Leads direction (member.of u) (member.of v) ∨
    (member.of u).cutNanos = (member.of v).cutNanos ∧ u.id < v.id

variable {member : TimeMember} {u v : User}

theorem leapAtMinuteEnd_of (member : TimeMember) (h : u.LeapsAtMinuteEnd) :
    (member.of u).LeapAtMinuteEnd := by
  cases member with
  | createdAt => exact h.1
  | updatedAt => exact h.2

/-- The document of an account holds the text of the time. -/
theorem text?_document (member : TimeMember) (u : User) :
    u.document.text? member.field.name = some (String.ofList (member.of u).text) := by
  rw [Document.text?_eq_some]
  refine User.get?_document_of_mem ?_
  cases member with
  | createdAt => simp [User.members, User.timeMember, field, SortField.name, of]
  | updatedAt => simp [User.members, User.timeMember, field, SortField.name, of]

section Documents

variable (hu : u.LeapsAtMinuteEnd) (hv : v.LeapsAtMinuteEnd)
  (huyear : (member.of u).FourDigitYear) (hvyear : (member.of v).FourDigitYear)
include hu hv huyear hvyear

/-- Comparing the texts in the documents is comparing the times. -/
theorem smaller_document :
    Store.Smaller (u.document.text? member.field.name) (v.document.text? member.field.name) ↔
      (member.of u).cutNanos < (member.of v).cutNanos := by
  rw [text?_document, text?_document, ← Instant.readBack_eq (member.leapAtMinuteEnd_of hu),
    ← Instant.readBack_eq (member.leapAtMinuteEnd_of hv), ← Instant.text_lt_iff huyear hvyear]
  constructor
  · intro h
    cases h with
    | text h => exact h
  · exact .text

/-- **The order of documents is the order of time** of their accounts. -/
theorem precedes_document {direction : Direction}
    (h : Store.Precedes member.field.name direction (u.id, u.document) (v.id, v.document)) :
    member.Precedes direction u v := by
  rcases h with hleads | ⟨htext, hid⟩
  · cases direction with
    | ascending => exact .inl ((smaller_document hu hv huyear hvyear).mp hleads)
    | descending => exact .inl ((smaller_document hv hu hvyear huyear).mp hleads)
  · dsimp only at htext
    rw [text?_document, text?_document, Option.some.injEq, String.ofList_inj, Instant.text_eq_iff,
      Instant.readBack_eq (member.leapAtMinuteEnd_of hu),
      Instant.readBack_eq (member.leapAtMinuteEnd_of hv)] at htext
    exact .inr ⟨htext, hid⟩

end Documents

end TimeMember

/-! ## The accounts of a directory -/

namespace Directory

/-- The accounts of documents of the directory, as they are found. -/
def foundIn (m : Directory) (es : List (Uuid × Document)) : List User :=
  es.filterMap fun e => (m.get? e.1).map (Record.found e.1)

/-- The account is the one that is found of the record under its identifier. -/
def Holds (m : Directory) (u : User) : Prop := ∃ r, m.get? u.id = some r ∧ r.found u.id = u

variable {m : Directory} {es : List (Uuid × Document)} {u : User}

theorem holds_found {id : Uuid} {r : Record} (h : m.get? id = some r) : m.Holds (r.found id) :=
  ⟨r, h, rfl⟩

theorem Holds.get?_store (h : m.Holds u) : m.store.get? u.id = some u.document := by
  obtain ⟨r, hr, hu⟩ := h
  rw [get?_store_some hr, ← r.document_found, hu]

/-- The times of an account that is found were read from texts. -/
theorem Holds.leapsAtMinuteEnd (h : m.Holds u) : u.LeapsAtMinuteEnd := by
  obtain ⟨r, -, hu⟩ := h
  rw [← hu]
  exact ⟨r.createdAt.leapAtMinuteEnd_readBack, r.updatedAt.leapAtMinuteEnd_readBack⟩

theorem Holds.valid (h : m.Holds u) (hm : m.Sound) : u.details.check = .ok () := by
  obtain ⟨r, hr, hu⟩ := h
  rw [← hu]
  exact (hm u.id r hr).valid

/-- The document of an account decodes to it. -/
theorem Sound.decode_document (hm : m.Sound) (h : m.Holds u) :
    Store.decode u.id u.document = .ok u := by
  obtain ⟨r, hr, hu⟩ := h
  have hdecode := (hm u.id r hr).decode u.id
  rw [← r.document_found, hu] at hdecode
  exact hdecode

/-- The account with an identifier is the one that is found. -/
theorem Sound.find_eq_ok (hm : m.Sound) {id : Uuid} :
    Store.find id m.store = .ok (some u) ↔ u.id = id ∧ m.Holds u := by
  constructor
  · intro h
    cases hget : m.store.get? id with
    | none =>
      rw [Store.find, hget] at h
      cases h
    | some d =>
      obtain ⟨r, hr, hdecode⟩ := hm.decode hget
      rw [Store.find_of_get? hget, hdecode] at h
      cases h
      exact ⟨rfl, holds_found hr⟩
  · rintro ⟨rfl, h⟩
    rw [Store.find_of_get? h.get?_store, hm.decode_document h]
    rfl

/-- What holds of the accounts of all records holds of every account that is found. -/
theorem Sound.forall_found (hm : m.Sound) (P : User → Prop)
    (h : ∀ e ∈ m.entries, P (e.2.found e.1)) {id : Uuid}
    (hu : Store.find id m.store = .ok (some u)) : P u := by
  obtain ⟨-, r, hr, hfound⟩ := hm.find_eq_ok.mp hu
  rw [← hfound]
  exact h (u.id, r) ((Keyed.mem_entries_iff m u.id r).mpr hr)

/-- Each of the documents is that of its account. -/
theorem map_foundIn (hes : ∀ e ∈ es, e ∈ m.store.entries) :
    (m.foundIn es).map (fun u => (u.id, u.document)) = es := by
  induction es with
  | nil => rfl
  | cons e es ih =>
    obtain ⟨id, d⟩ := e
    have hget := (Keyed.mem_entries_iff m.store id d).mp (hes _ List.mem_cons_self)
    rw [get?_store, Option.map_eq_some_iff] at hget
    obtain ⟨r, hr, rfl⟩ := hget
    have htail := ih fun e he => hes e (List.mem_cons_of_mem _ he)
    unfold foundIn at htail ⊢
    rw [List.filterMap_cons, hr, Option.map_some]
    dsimp only
    rw [List.map_cons, htail, r.document_found]
    rfl

/-- The accounts of documents of the directory are those of its records. -/
theorem mem_foundIn (hes : ∀ e ∈ es, e ∈ m.store.entries) :
    u ∈ m.foundIn es ↔ m.Holds u ∧ (u.id, u.document) ∈ es := by
  constructor
  · intro hu
    have hmem : (u.id, u.document) ∈ (m.foundIn es).map fun u => (u.id, u.document) :=
      List.mem_map_of_mem hu
    rw [map_foundIn hes] at hmem
    refine ⟨?_, hmem⟩
    obtain ⟨⟨id, d⟩, -, he⟩ := List.mem_filterMap.mp hu
    obtain ⟨r, hr, rfl⟩ := Option.map_eq_some_iff.mp he
    exact holds_found hr
  · rintro ⟨⟨r, hr, hu⟩, hmem⟩
    refine List.mem_filterMap.mpr ⟨(u.id, u.document), hmem, ?_⟩
    dsimp only
    rw [hr, Option.map_some, hu]

end Directory

/-! ## Slices -/

namespace Listing

/-- The part of a list that is asked for, by its place. -/
def Selection.part {α : Type} (sel : Selection) (l : List α) : List α :=
  match sel.limit with
  | some n => (l.drop sel.skip).take n
  | none => l.drop sel.skip

variable {α β : Type} {sel : Selection}

theorem Selection.part_map (f : α → β) (l : List α) : sel.part (l.map f) = (sel.part l).map f := by
  unfold part
  cases sel.limit with
  | none => rw [List.map_drop]
  | some n => rw [List.map_take, List.map_drop]

theorem Selection.mem_of_mem_part {a : α} {l : List α} (h : a ∈ sel.part l) : a ∈ l := by
  unfold part at h
  split at h
  · exact List.mem_of_mem_drop (List.mem_of_mem_take h)
  · exact List.mem_of_mem_drop h

end Listing

theorem Store.slice_eq_part (s : Store) (sel : Selection) :
    s.slice sel = sel.part (s.enumerate sel) := rfl

/-! ## Listings -/

/-- The details have every text that the filter asks for. -/
def Listing.Filter.Admits (f : Filter) (d : Details) : Prop :=
  ∀ field value, f.value field = some value → value ≠ "" → FilterField.of field d = value

theorem Store.matches_document {f : Filter} {u : User} (h : u.details.check = .ok ()) :
    Matches f u.document ↔ f.Admits u.details := by
  have htext : ∀ field : FilterField, u.document.text? field.name = some (field.of u.details) := by
    intro field
    rw [text?_of_describes (User.describes_document h)]
  unfold Matches Filter.Admits
  refine forall_congr' fun field => forall_congr' fun value => ?_
  rw [htext, Option.some.injEq]

/-- The list holds the stored accounts that a query is about, in order of one of their times. -/
structure EnumeratesInTime (s : Store) (q : Query) (member : TimeMember) (us : List User) :
    Prop where
  mem_iff : ∀ u, u ∈ us ↔ Store.find u.id s = .ok (some u) ∧ q.filter.Admits u.details
  ordered : us.Pairwise (member.Precedes q.direction)

/-- The store's comparison of texts agrees with the order of time for every two documents. -/
def Store.ComparesInTime (s : Store) (member : TimeMember) : Prop :=
  ∀ id id' d d' u u', s.get? id = some d → s.get? id' = some d' →
    decode id d = .ok u → decode id' d' = .ok u' →
    (textBefore (d.text? member.field.name) (d'.text? member.field.name) = true ↔
      (member.of u).cutNanos < (member.of u').cutNanos)

namespace Directory

variable {m : Directory} {q : Query} {sel : Selection} {member : TimeMember}

theorem mem_entries_of_mem_enumerate (m : Directory) (sel : Selection) :
    ∀ e ∈ m.store.enumerate sel, e ∈ m.store.entries :=
  fun _ h => (Store.mem_enumerate.mp h).1

/-- A listing gives its slice of the accounts of all documents that it is about. -/
theorem Sound.list_eq_part (hm : m.Sound) (hq : Selection.ofQuery q = .ok sel) :
    Store.list q m.store = .ok (sel.part (m.foundIn (m.store.enumerate sel))) := by
  have hdocuments := map_foundIn (m.mem_entries_of_mem_enumerate sel)
  unfold Store.list
  rw [hq]
  dsimp only
  rw [Steps.mapM_eq_ok, Store.slice_eq_part]
  conv_lhs => rw [← hdocuments]
  rw [Selection.part_map, List.map_map]
  refine List.map_congr_left fun u hu => ?_
  have hu := Selection.mem_of_mem_part hu
  obtain ⟨hholds, -⟩ := (mem_foundIn (m.mem_entries_of_mem_enumerate sel)).mp hu
  dsimp only [Function.comp_apply]
  exact hm.decode_document hholds

/-- These accounts are the ones that the query is about, in order of time. -/
theorem Sound.enumeratesInTime (hm : m.Sound) (hq : Selection.ofQuery q = .ok sel)
    (hsort : q.sortField = member.field.name)
    (hyears : ∀ u, m.Holds u → (member.of u).FourDigitYear) :
    EnumeratesInTime m.store q member (m.foundIn (m.store.enumerate sel)) := by
  have hmem : ∀ u, u ∈ m.foundIn (m.store.enumerate sel) ↔
      m.Holds u ∧ (u.id, u.document) ∈ m.store.enumerate sel :=
    fun u => mem_foundIn (m.mem_entries_of_mem_enumerate sel)
  have henumerates := Store.enumerates_enumerate m.store hq
  constructor
  case mem_iff =>
    intro u
    rw [hmem, hm.find_eq_ok, henumerates.mem_iff]
    constructor
    · rintro ⟨hu, -, hmatches⟩
      exact ⟨⟨rfl, hu⟩, (Store.matches_document (hu.valid hm)).mp hmatches⟩
    · rintro ⟨⟨-, hu⟩, hadmits⟩
      exact ⟨hu, hu.get?_store, (Store.matches_document (hu.valid hm)).mpr hadmits⟩
  case ordered =>
    have hordered := henumerates.ordered
    rw [← map_foundIn (m.mem_entries_of_mem_enumerate sel), List.pairwise_map, hsort] at hordered
    refine hordered.imp_of_mem fun {u v} hu hv h => ?_
    obtain ⟨hu, -⟩ := (hmem u).mp hu
    obtain ⟨hv, -⟩ := (hmem v).mp hv
    exact TimeMember.precedes_document hu.leapsAtMinuteEnd hv.leapsAtMinuteEnd (hyears u hu)
      (hyears v hv) h

theorem Sound.comparesInTime (hm : m.Sound)
    (hyears : ∀ u, m.Holds u → (member.of u).FourDigitYear) :
    m.store.ComparesInTime member := by
  intro id id' d d' u u' hd hd' hu hu'
  obtain ⟨r, hr, hdecode⟩ := hm.decode hd
  obtain ⟨r', hr', hdecode'⟩ := hm.decode hd'
  rw [get?_store_some hr, Option.some.injEq] at hd
  rw [get?_store_some hr', Option.some.injEq] at hd'
  cases hu.symm.trans hdecode
  cases hu'.symm.trans hdecode'
  rw [← hd, ← hd', Store.textBefore_iff, ← r.document_found, ← r'.document_found]
  have hholds := holds_found hr
  have hholds' := holds_found hr'
  exact TimeMember.smaller_document hholds.leapsAtMinuteEnd hholds'.leapsAtMinuteEnd
    (hyears _ hholds) (hyears _ hholds')

end Directory

namespace Service

/-- **Listings sorted by a time are in order of time.**  Whatever the requests before were, if the
times of the stored accounts lie in the years 0 to 9999, a listing sorted by one of them is its
slice of the accounts that it is about, in order of the time to the millisecond; and the comparison
of texts by which the store sorts agrees with this order. -/
theorem list_in_time {π : Type} (bus : Publisher π) (rs : List (Context × Request)) (p : π)
    (c : Context) (b : π) {params : Params} {q : Query} {member : TimeMember}
    (hq : Query.ofParams params = .ok q) (hsort : q.sortField = member.field.name)
    (hyears : ∀ u, Store.find u.id (after .memory bus rs Keyed.empty p).1 = .ok (some u) →
      (member.of u).FourDigitYear) :
    ∃ sel us, Selection.ofQuery q = .ok sel ∧
      EnumeratesInTime (after .memory bus rs Keyed.empty p).1 q member us ∧
      (run .memory bus c (.list params) (after .memory bus rs Keyed.empty p).1 b).answer =
        .ok (.users (sel.part us)) ∧
      (after .memory bus rs Keyed.empty p).1.ComparesInTime member := by
  obtain ⟨hstore, hm⟩ := store_after bus rs p
  obtain ⟨sel, hsel⟩ := Listing.exists_selection_of_ofParams hq
  rw [hstore] at hyears ⊢
  have hyears : ∀ u, (Directory.after rs Keyed.empty).Holds u → (member.of u).FourDigitYear :=
    fun u hu => hyears u (hm.find_eq_ok.mpr ⟨rfl, hu⟩)
  refine ⟨sel, _, hsel, hm.enumeratesInTime hsel hsort hyears, ?_, hm.comparesInTime hyears⟩
  rw [run_of_plan_ok _ _ (plan_eq_ok.mpr (.list hq))]
  dsimp only [Repository.memory]
  rw [hm.list_eq_part hsel]
  rfl

/-- Accounts that are made in a leap second, in the second after it and in the last second of 1969,
newest first. -/
theorem list_in_time_leap :
    let details : Details := ⟨"A", "B", "C", "D", "e@example.com", "F"⟩
    let leap : Context := ⟨none, ⟨59, 1500000000, by decide, by decide⟩, ⟨7, by decide⟩⟩
    let next : Context := ⟨none, ⟨60, 0, by decide, by decide⟩, ⟨8, by decide⟩⟩
    let before : Context := ⟨none, ⟨-1, 999999999, by decide, by decide⟩, ⟨9, by decide⟩⟩
    let rs := [leap, next, before].map fun c => (c, Request.create details)
    let params : Params := { Params.empty with sortBy := some "Created_At.DESC" }
    let q : Query := { Query.default with sortField := "created_at", sortDirection := "desc" }
    let s := (after .memory (.silent Unit) rs Keyed.empty ()).1
    Query.ofParams params = .ok q ∧ q.sortField = TimeMember.createdAt.field.name ∧
      (∀ u, Store.find u.id s = .ok (some u) → (TimeMember.createdAt.of u).FourDigitYear) ∧
      ∃ sel us, Selection.ofQuery q = .ok sel ∧ EnumeratesInTime s q .createdAt us ∧
        (run .memory (.silent Unit) next (.list params) s ()).answer = .ok (.users (sel.part us)) ∧
        s.ComparesInTime .createdAt := by
  intro details leap next before rs params q s
  have hq : Query.ofParams params = .ok q := by decide +kernel
  have hsort : q.sortField = TimeMember.createdAt.field.name := rfl
  obtain ⟨hstore, hm⟩ := store_after (.silent Unit) rs ()
  have hrecords : ∀ e ∈ (Directory.after rs Keyed.empty).entries,
      (TimeMember.createdAt.of (e.2.found e.1)).FourDigitYear := by
    decide +kernel
  have hyears : ∀ u, Store.find u.id s = .ok (some u) →
      (TimeMember.createdAt.of u).FourDigitYear := by
    intro u hu
    have hs : s = (Directory.after rs Keyed.empty).store := hstore
    rw [hs] at hu
    exact hm.forall_found (fun u => (TimeMember.createdAt.of u).FourDigitYear) hrecords hu
  have hlisted := list_in_time (.silent Unit) rs () next () hq hsort hyears
  exact ⟨hq, hsort, hyears, hlisted⟩

end Service
end UserDirectory
