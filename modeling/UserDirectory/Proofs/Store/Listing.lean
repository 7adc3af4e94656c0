import UserDirectory.Proofs.Keyed
import UserDirectory.Proofs.Listing.Query
import UserDirectory.Proofs.Steps
import UserDirectory.Store
import Mathlib.Tactic.Common

/-!
# Proofs.Store.Listing — a listing is a slice of one enumeration

* `Matches`, `Precedes`: which documents a query is about, and their strict order.
* `Enumerates s q S`: the list `S` holds these documents of the store in this order.  There is one
  such list for each query (`Enumerates.unique`), and it does not depend on the page.
* `Slices s q S`: the query gives the decodings of its window of `S`, or the error of the first
  document of the window that does not decode.
* `list_slices_enumeration`: every query that can be carried out gives such a slice, and the pages
  of one size share out the enumeration.
-/

namespace UserDirectory

/-! ## Filters -/

/-- The text that a member is asked to have. -/
def Listing.Filter.value (f : Listing.Filter) : Listing.FilterField → Option String
  | .firstName => f.firstName
  | .lastName => f.lastName
  | .nickname => f.nickname
  | .email => f.email
  | .country => f.country

namespace Store

open Listing (Direction Filter FilterField Query Selection)

/-- Every filter that is not empty is the text of the document's member. -/
def Matches (f : Filter) (d : Document) : Prop :=
  ∀ field value, f.value field = some value → value ≠ "" → d.text? field.name = some value

theorem mem_pairs {f : Filter} {field : FilterField} {value : String} :
    (field, value) ∈ f.pairs ↔ f.value field = some value ∧ value ≠ "" := by
  have hsome : ∀ (g : FilterField) (x : Option String),
      (x.filter (!·.isEmpty)).map (g, ·) = some (field, value) ↔
        field = g ∧ x = some value ∧ value ≠ "" := by
    intro g x
    rw [Option.map_eq_some_iff]
    refine ⟨?_, ?_⟩
    · rintro ⟨v, hv, h⟩
      obtain ⟨rfl, rfl⟩ := Prod.mk.inj h
      rw [Option.filter_eq_some_iff] at hv
      exact ⟨rfl, hv.1, by simpa using hv.2⟩
    · rintro ⟨rfl, rfl, hv⟩
      refine ⟨value, ?_, rfl⟩
      rw [Option.filter_eq_some_iff]
      exact ⟨rfl, by simpa using hv⟩
  unfold Filter.pairs
  simp only [List.mem_filterMap, List.mem_cons, List.not_mem_nil, or_false, Prod.exists]
  refine ⟨?_, ?_⟩
  · rintro ⟨g, x, hmem, hx⟩
    obtain ⟨rfl, rfl, hv⟩ := (hsome g x).mp hx
    rcases hmem with h | h | h | h | h
    all_goals
      obtain ⟨rfl, hvalue⟩ := Prod.mk.inj h
      exact ⟨hvalue.symm, hv⟩
  · rintro ⟨h, hv⟩
    refine ⟨field, f.value field, ?_, (hsome field _).mpr ⟨rfl, h, hv⟩⟩
    cases field <;> simp [Filter.value]

theorem passes_pairs {f : Filter} {d : Document} : passes f.pairs d = true ↔ Matches f d := by
  unfold passes Matches
  rw [List.all_eq_true]
  refine ⟨?_, ?_⟩
  · intro h field value hvalue hne
    exact beq_iff_eq.mp (h (field, value) (mem_pairs.mpr ⟨hvalue, hne⟩))
  · rintro h ⟨field, value⟩ hmem
    obtain ⟨hvalue, hne⟩ := mem_pairs.mp hmem
    exact beq_iff_eq.mpr (h field value hvalue hne)

/-! ## The order -/

/-- One text is smaller than another; an absent one is smaller than any text. -/
inductive Smaller : Option String → Option String → Prop
  | absent (s : String) : Smaller none (some s)
  | text {s t : String} : s < t → Smaller (some s) (some t)

theorem textBefore_iff {x y : Option String} : textBefore x y = true ↔ Smaller x y := by
  refine ⟨?_, ?_⟩
  · intro h
    cases x with
    | none =>
      cases y with
      | none => cases h
      | some t => exact .absent t
    | some s =>
      cases y with
      | none => cases h
      | some t => exact .text (decide_eq_true_eq.mp h)
  · intro h
    cases h with
    | absent s => rfl
    | text h => exact decide_eq_true h

theorem Smaller.irrefl (x : Option String) : ¬ Smaller x x := by
  rintro (_ | h)
  exact KeyOrder.irrefl _ h

theorem Smaller.trans {x y z : Option String} (h : Smaller x y) (h' : Smaller y z) :
    Smaller x z := by
  cases h' with
  | absent => cases h
  | text h' =>
    cases h with
    | absent => exact .absent _
    | text h => exact .text (KeyOrder.trans h h')

theorem Smaller.trichotomy (x y : Option String) : Smaller x y ∨ x = y ∨ Smaller y x := by
  cases x with
  | none =>
    cases y with
    | none => exact .inr (.inl rfl)
    | some t => exact .inl (.absent t)
  | some s =>
    cases y with
    | none => exact .inr (.inr (.absent s))
    | some t =>
      by_cases hst : s < t
      · exact .inl (.text hst)
      by_cases hts : t < s
      · exact .inr (.inr (.text hts))
      exact .inr (.inl (congrArg some (KeyOrder.eq_of_not_lt hst hts)))

/-- One text comes before another in a direction. -/
def Leads (direction : Direction) (x y : Option String) : Prop :=
  match direction with
  | .ascending => Smaller x y
  | .descending => Smaller y x

theorem Leads.irrefl (direction : Direction) (x : Option String) : ¬ Leads direction x x := by
  cases direction with
  | ascending => exact Smaller.irrefl x
  | descending => exact Smaller.irrefl x

theorem Leads.trans {direction : Direction} {x y z : Option String} (h : Leads direction x y)
    (h' : Leads direction y z) : Leads direction x z := by
  cases direction with
  | ascending => exact Smaller.trans h h'
  | descending => exact Smaller.trans h' h

theorem Leads.trichotomy (direction : Direction) (x y : Option String) :
    Leads direction x y ∨ x = y ∨ Leads direction y x := by
  cases direction with
  | ascending => exact Smaller.trichotomy x y
  | descending => exact (Smaller.trichotomy y x).imp_right (Or.imp_left Eq.symm)

/-- One document comes before another in a listing: its member does, or the members are the same
and its identifier is smaller. -/
def Precedes (member : String) (direction : Direction) (a b : Uuid × Document) : Prop :=
  Leads direction (a.2.text? member) (b.2.text? member) ∨
    a.2.text? member = b.2.text? member ∧ a.1 < b.1

namespace Precedes

variable {member : String} {direction : Direction}

theorem irrefl (a : Uuid × Document) : ¬ Precedes member direction a a := by
  rintro (h | ⟨-, h⟩)
  · exact Leads.irrefl _ _ h
  · exact KeyOrder.irrefl _ h

theorem trans {a b c : Uuid × Document} (h : Precedes member direction a b)
    (h' : Precedes member direction b c) : Precedes member direction a c := by
  rcases h with h | ⟨htext, hid⟩
  · rcases h' with h' | ⟨htext', -⟩
    · exact .inl (h.trans h')
    · exact .inl (htext' ▸ h)
  · rcases h' with h' | ⟨htext', hid'⟩
    · exact .inl (htext ▸ h')
    · exact .inr ⟨htext.trans htext', KeyOrder.trans hid hid'⟩

/-- Documents under different identifiers come one before the other. -/
theorem total {a b : Uuid × Document} (h : a.1 ≠ b.1) :
    Precedes member direction a b ∨ Precedes member direction b a := by
  rcases Leads.trichotomy direction (a.2.text? member) (b.2.text? member) with hl | htext | hl
  · exact .inl (.inl hl)
  · by_cases hab : a.1 < b.1
    · exact .inl (.inr ⟨htext, hab⟩)
    by_cases hba : b.1 < a.1
    · exact .inr (.inr ⟨htext.symm, hba⟩)
    exact absurd (KeyOrder.eq_of_not_lt hab hba) h
  · exact .inr (.inl hl)

/-- A third document comes after the first or before the second of two in order. -/
theorem split {a c : Uuid × Document} (h : Precedes member direction a c)
    (b : Uuid × Document) : Precedes member direction a b ∨ Precedes member direction b c := by
  rcases Leads.trichotomy direction (a.2.text? member) (b.2.text? member) with hab | hab | hba
  · exact .inl (.inl hab)
  · rcases h with h | ⟨htext, hid⟩
    · exact .inr (.inl (hab ▸ h))
    · by_cases hlt : a.1 < b.1
      · exact .inl (.inr ⟨hab, hlt⟩)
      by_cases hgt : b.1 < a.1
      · exact .inr (.inr ⟨hab.symm.trans htext, KeyOrder.trans hgt hid⟩)
      have heq : a.1 = b.1 := KeyOrder.eq_of_not_lt hlt hgt
      exact .inr (.inr ⟨hab.symm.trans htext, heq ▸ hid⟩)
  · rcases h with h | ⟨htext, -⟩
    · exact .inr (.inl (hba.trans h))
    · exact .inr (.inl (htext ▸ hba))

end Precedes

/-- The comparison by which listings are sorted is the order, read the other way round. -/
theorem mayPrecede_iff {field : Listing.SortField} {direction : Direction}
    {a b : Uuid × Document} :
    mayPrecede field direction a b = true ↔ ¬ Precedes field.name direction b a := by
  have hcompare : ∀ x y : Option String,
      (if textBefore x y = true then true
        else if textBefore y x = true then false
        else !decide (b.1 < a.1)) = true ↔ ¬ (Smaller y x ∨ x = y ∧ b.1 < a.1) := by
    intro x y
    rcases Smaller.trichotomy x y with hxy | rfl | hyx
    · have hyx : ¬ Smaller y x := fun h => Smaller.irrefl x (hxy.trans h)
      have hne : x ≠ y := fun h => Smaller.irrefl x (h ▸ hxy)
      rw [if_pos (textBefore_iff.mpr hxy)]
      simp [hyx, hne]
    · have hxx : ¬ textBefore x x = true := fun h => Smaller.irrefl x (textBefore_iff.mp h)
      rw [if_neg hxx, if_neg hxx]
      simp [Smaller.irrefl x]
    · have hxy : ¬ textBefore x y = true :=
        fun h => Smaller.irrefl x ((textBefore_iff.mp h).trans hyx)
      rw [if_neg hxy, if_pos (textBefore_iff.mpr hyx)]
      simp [hyx]
  cases direction with
  | ascending =>
    refine (hcompare (a.2.text? field.name) (b.2.text? field.name)).trans ?_
    unfold Precedes
    rw [eq_comm]
    rfl
  | descending => exact hcompare (b.2.text? field.name) (a.2.text? field.name)

/-! ## The enumeration -/

/-- The list holds the documents of the store that a query is about, in the order of the query. -/
structure Enumerates (s : Store) (q : Query) (S : List (Uuid × Document)) : Prop where
  mem_iff : ∀ id d, (id, d) ∈ S ↔ s.get? id = some d ∧ Matches q.filter d
  ordered : S.Pairwise (Precedes q.sortField q.direction)

/-- A query has at most one enumeration. -/
theorem Enumerates.unique {s : Store} {q : Query} {S T : List (Uuid × Document)}
    (hS : Enumerates s q S) (hT : Enumerates s q T) : S = T := by
  have hnodup : ∀ {U : List (Uuid × Document)},
      U.Pairwise (Precedes q.sortField q.direction) → U.Nodup := by
    intro U hU
    refine hU.imp ?_
    rintro a b h rfl
    exact Precedes.irrefl a h
  have hperm : S.Perm T := by
    refine (List.perm_ext_iff_of_nodup (hnodup hS.ordered) (hnodup hT.ordered)).mpr ?_
    rintro ⟨id, d⟩
    rw [hS.mem_iff, hT.mem_iff]
  refine hperm.eq_of_pairwise (fun a b _ _ hab hba => ?_) hS.ordered hT.ordered
  exact absurd (hab.trans hba) (Precedes.irrefl a)

theorem mem_enumerate {s : Store} {sel : Selection} {e : Uuid × Document} :
    e ∈ s.enumerate sel ↔ e ∈ s.entries ∧ passes sel.filters e.2 = true := by
  unfold enumerate
  rw [List.mem_mergeSort, List.mem_filter]

/-- No identifier is enumerated twice. -/
theorem enumerate_apart (s : Store) (sel : Selection) :
    (s.enumerate sel).Pairwise fun a b => a.1 ≠ b.1 := by
  have hentries : s.entries.Pairwise fun a b => a.1 ≠ b.1 := by
    refine s.ascending.imp ?_
    intro a b h hid
    exact KeyOrder.irrefl b.1 (hid ▸ h)
  exact (hentries.filter _).perm (List.mergeSort_perm _ _).symm fun h => h.symm

theorem enumerate_ordered (s : Store) (sel : Selection) :
    (s.enumerate sel).Pairwise (Precedes sel.sortField.name sel.direction) := by
  have hsorted : (s.enumerate sel).Pairwise fun a b =>
      mayPrecede sel.sortField sel.direction a b = true := by
    refine List.pairwise_mergeSort ?_ ?_ _
    · intro a b c hab hbc
      rw [mayPrecede_iff] at hab hbc ⊢
      intro h
      rcases h.split b with hcb | hba
      · exact hbc hcb
      · exact hab hba
    · intro a b
      rw [Bool.or_eq_true, mayPrecede_iff, mayPrecede_iff]
      by_contra h
      rw [not_or, not_not, not_not] at h
      exact Precedes.irrefl a (h.2.trans h.1)
  refine hsorted.imp₂ ?_ (enumerate_apart s sel)
  intro a b hab hne
  exact (Precedes.total hne).resolve_right (mayPrecede_iff.mp hab)

theorem enumerates_enumerate (s : Store) {q : Query} {sel : Selection}
    (hq : Selection.ofQuery q = .ok sel) : Enumerates s q (s.enumerate sel) := by
  have hordered := enumerate_ordered s sel
  obtain ⟨-, -, field, hfield, rfl⟩ := Listing.ofQuery_eq_ok.mp hq
  refine ⟨?_, ?_⟩
  · intro id d
    rw [mem_enumerate, Keyed.mem_entries_iff, passes_pairs]
  · rw [hfield]
    exact hordered

theorem Enumerates.turn {s : Store} {q : Query} {S : List (Uuid × Document)}
    (h : Enumerates s q S) (n : Nat) : Enumerates s (q.turn n) S := ⟨h.mem_iff, h.ordered⟩

/-! ## The slice -/

theorem slice_sublist (s : Store) (sel : Selection) :
    (s.slice sel).Sublist (s.enumerate sel) := by
  unfold slice
  dsimp only
  split
  · exact (List.take_sublist _ _).trans (List.drop_sublist _ _)
  · exact List.drop_sublist _ _

theorem mem_entries_of_mem_slice {s : Store} {sel : Selection} {e : Uuid × Document}
    (h : e ∈ s.slice sel) : e ∈ s.entries :=
  (mem_enumerate.mp ((slice_sublist s sel).subset h)).1

theorem length_enumerate_le (s : Store) (sel : Selection) :
    (s.enumerate sel).length ≤ s.size := by
  unfold enumerate Keyed.size
  rw [List.length_mergeSort]
  exact List.length_filter_le _ _

/-- Passing over at most `maxSkip` documents is enough: there are not more. -/
theorem drop_maxSkip {s : Store} (hs : s.size < twoPow 64) (sel : Selection) (n : Nat) :
    (s.enumerate sel).drop (min n Listing.maxSkip) = (s.enumerate sel).drop n := by
  have hlength : (s.enumerate sel).length ≤ Listing.maxSkip := by
    have hle := length_enumerate_le s sel
    unfold Listing.maxSkip
    omega
  by_cases hn : n ≤ Listing.maxSkip
  · rw [Nat.min_eq_left hn]
  · rw [Nat.min_eq_right (by omega), List.drop_of_length_le hlength,
      List.drop_of_length_le (by omega)]

/-- **The slice is the window** of the enumeration, although the number of documents passed over
is kept in 64 bits. -/
theorem slice_eq_window {s : Store} (hs : s.size < twoPow 64) {q : Query} {sel : Selection}
    (hq : Selection.ofQuery q = .ok sel) : s.slice sel = q.window (s.enumerate sel) := by
  obtain ⟨-, -, field, -, rfl⟩ := Listing.ofQuery_eq_ok.mp hq
  unfold slice Query.window
  dsimp only
  rw [drop_maxSkip hs]
  by_cases hsize : q.pageSize = 0
  · rw [if_pos hsize, if_pos hsize, hsize]
    rw [show Int.toNat 0 = 0 from rfl, Nat.mul_zero, List.drop_zero]
  · rw [if_neg hsize, if_neg hsize]

theorem list_eq_mapM {s : Store} (hs : s.size < twoPow 64) {q : Query} {sel : Selection}
    (hq : Selection.ofQuery q = .ok sel) {S : List (Uuid × Document)} (hS : Enumerates s q S) :
    list q s = (q.window S).mapM fun e => decode e.1 e.2 := by
  have henumerate : s.enumerate sel = S := (enumerates_enumerate s hq).unique hS
  unfold list
  rw [hq]
  dsimp only
  rw [slice_eq_window hs hq, henumerate]

/-- A query gives the decodings of its window of the list in their order, or the error of the
first document of the window that does not decode.  Nothing outside the window matters. -/
structure Slices (s : Store) (q : Query) (S : List (Uuid × Document)) : Prop where
  ok_iff : ∀ us, list q s = .ok us ↔
    (q.window S).map (fun e => decode e.1 e.2) = us.map Except.ok
  error_iff : ∀ error, list q s = .error error ↔ ∃ before e rest,
    q.window S = before ++ e :: rest ∧ (∀ x ∈ before, ∃ u, decode x.1 x.2 = .ok u) ∧
      decode e.1 e.2 = .error error
  only_window : ∀ t T, t.size < twoPow 64 → Enumerates t q T → q.window T = q.window S →
    list q t = list q s

theorem slices_of_enumerates {s : Store} (hs : s.size < twoPow 64) {q : Query}
    {sel : Selection} (hq : Selection.ofQuery q = .ok sel) {S : List (Uuid × Document)}
    (hS : Enumerates s q S) : Slices s q S where
  ok_iff us := by
    rw [list_eq_mapM hs hq hS, Steps.mapM_eq_ok]
  error_iff error := by
    rw [list_eq_mapM hs hq hS, Steps.mapM_eq_error]
  only_window t T ht hT hwindow := by
    rw [list_eq_mapM hs hq hS, list_eq_mapM ht hq hT, hwindow]

/-! ## All pages -/

/-- The pages of one size are slices of one list, have no identifier in common, and make up the
whole list. -/
structure Pages (s : Store) (q : Query) (S : List (Uuid × Document)) : Prop where
  slices : ∀ n, Slices s (q.turn n) S
  apart : ∀ i j, i ≠ j → ∀ a ∈ (q.turn i).window S, ∀ b ∈ (q.turn j).window S, a.1 ≠ b.1
  cover : ∀ n, S.length ≤ n * q.pageSize.toNat →
    ((List.range n).flatMap fun i => (q.turn i).window S) = S

theorem exists_selection_turn {q : Query} {sel : Selection} (hq : Selection.ofQuery q = .ok sel)
    (n : Nat) : ∃ sel', Selection.ofQuery (q.turn n) = .ok sel' := by
  obtain ⟨hsize, -, field, hfield, -⟩ := Listing.ofQuery_eq_ok.mp hq
  exact ⟨_, Listing.ofQuery_eq_ok.mpr ⟨hsize, Int.natCast_nonneg n, field, hfield, rfl⟩⟩

theorem pages_of_enumerates {s : Store} (hs : s.size < twoPow 64) {q : Query}
    {sel : Selection} (hq : Selection.ofQuery q = .ok sel) (hsize : q.pageSize ≠ 0)
    {S : List (Uuid × Document)} (hS : Enumerates s q S) : Pages s q S where
  slices n := by
    obtain ⟨sel', hq'⟩ := exists_selection_turn hq n
    exact slices_of_enumerates hs hq' (hS.turn n)
  apart i j hij a ha b hb := by
    have hapart : S.Pairwise fun a b => a.1 ≠ b.1 := by
      rw [hS.unique (enumerates_enumerate s hq)]
      exact enumerate_apart s sel
    rcases Nat.lt_or_gt_of_ne hij with hlt | hgt
    · exact Query.rel_of_mem_windows hsize hapart hlt ha hb
    · exact (Query.rel_of_mem_windows hsize hapart hgt hb ha).symm
  cover n hn := by
    rw [Query.flatMap_window hsize, List.take_of_length_le hn]

/-- **A listing is a slice of one enumeration**: the documents that a query is about have exactly
one enumeration in its order, the query gives its window of that, and the pages of one size share
it out. -/
theorem list_slices_enumeration {s : Store} {q : Query} {sel : Selection}
    (hs : s.size < twoPow 64) (hq : Selection.ofQuery q = .ok sel) :
    ∃ S, (∀ T, Enumerates s q T ↔ T = S) ∧ Slices s q S ∧
      (q.pageSize ≠ 0 → Pages s q S) := by
  have hS : Enumerates s q (s.enumerate sel) := enumerates_enumerate s hq
  refine ⟨s.enumerate sel, ?_, slices_of_enumerates hs hq hS, ?_⟩
  · intro T
    refine ⟨?_, ?_⟩
    · intro hT
      exact hT.unique hS
    · rintro rfl
      exact hS
  · intro hsize
    exact pages_of_enumerates hs hq hsize hS

/-- Pages of one document each, last names descending, over an account and two documents without a
last name; a filter that is empty asks for nothing.  The first page is the account, and the second
one the document with the smaller identifier, which describes none. -/
theorem list_slices_two_unnamed :
    let now : Instant := ⟨0, 0, by decide, by decide⟩
    let u : User := ⟨⟨2, by decide⟩, ⟨"Ann", "Roe", "ar", "p", "a@example.com", "US"⟩, now, now⟩
    let unnamed : Document := .ofList [("last_name", .null)]
    let S := [(u.id, u.document), (⟨1, by decide⟩, .empty), (⟨3, by decide⟩, unnamed)]
    let s : Store := .ofList S.reverse
    let q : Query := ⟨1, 1, "last_name", "desc", { Filter.none with country := some "" }⟩
    let reason := "stored user 00000000-0000-0000-0000-000000000001: missing field \x60id\x60"
    (s.size < twoPow 64 ∧ ∃ sel, Selection.ofQuery q = .ok sel) ∧
      (∀ T, Enumerates s q T ↔ T = S) ∧ list (q.turn 0) s = .ok [u] ∧
      list q s = .error (.query reason) := by
  intro now u unnamed S s q reason
  have hs : s.size < twoPow 64 := by decide
  have hq : ∃ sel, Selection.ofQuery q = .ok sel := ⟨_, rfl⟩
  have hall : ∀ d, Matches q.filter d := by
    rintro d (_ | _ | _ | _ | _) value hvalue hne
    all_goals cases hvalue
    exact absurd rfl hne
  have hS : Enumerates s q S := by
    refine ⟨fun id d => ?_, ?_⟩
    · have hentries : s.entries = [(⟨1, by decide⟩, .empty), (u.id, u.document),
          (⟨3, by decide⟩, unnamed)] := rfl
      rw [← Keyed.mem_entries_iff, hentries]
      simp only [S, List.mem_cons, List.not_mem_nil, or_false, hall d, and_true]
      exact or_left_comm
    · have hname : u.document.text? "last_name" = some "Roe" := by decide +kernel
      have hnamed : ∀ e ∈ S.tail, Precedes "last_name" .descending (u.id, u.document) e := by
        unfold Precedes
        simp only [S, List.tail_cons, List.forall_mem_cons, hname]
        exact ⟨.inl (.absent "Roe"), .inl (.absent "Roe"), by simp⟩
      have hunnamed : Precedes "last_name" .descending (⟨1, by decide⟩, .empty)
          (⟨3, by decide⟩, unnamed) := .inr ⟨rfl, by decide⟩
      exact .cons hnamed (List.pairwise_pair.mpr hunnamed)
  obtain ⟨sel, hsel⟩ := hq
  obtain ⟨S', hunique, hslices, hpages⟩ := list_slices_enumeration hs hsel
  obtain rfl : S = S' := (hunique S).mp hS
  have hgood : decode u.id u.document = .ok u := by
    decide +kernel
  have hbad : decode ⟨1, by decide⟩ .empty = .error (.query reason) := rfl
  refine ⟨⟨hs, sel, hsel⟩, hunique, ?_, ?_⟩
  · refine (((hpages (by decide)).slices 0).ok_iff _).mpr ?_
    exact congrArg ([·]) hgood
  · exact (hslices.error_iff _).mpr ⟨[], (⟨1, by decide⟩, .empty), [], rfl, by simp, hbad⟩

end Store
end UserDirectory
