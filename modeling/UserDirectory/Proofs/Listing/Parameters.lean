import UserDirectory.Proofs.Listing.Query
import UserDirectory.Proofs.Store.Listing
import UserDirectory.Proofs.Text.Digit
import UserDirectory.Proofs.User.Document

/-!
# Proofs.Listing.Parameters — which parameters ask for a listing, and for which

* `Counts`, `Miscounts`: the texts of page sizes and pages, and what is wrong with all others.
* `Sorts`, `Missorts`: the same for sorts.
* `Params.Gives p q`, `Params.Breaks p f`: the query that parameters ask for, and the fault of the
  first parameter that is malformed.
* `Query.Carried q sel`: the selection that carries out a query.
* `parameters_agree`: parameters are read as these say, and no store refuses what was read.
-/

namespace UserDirectory.Listing

open Text (Writes)

/-! ## Page sizes and pages -/

/-- A count as a parameter: an integer from 0 on that has 64 bits with its sign, or what stands for
an absent one. -/
inductive Counts (default : Nat) : Option String → Int → Prop
  | absent : Counts default none default
  | given {s v} : Writes s.toList v → 0 ≤ v → v < twoPow 63 → Counts default (some s) v

/-- What is wrong with a text that is no count: it writes a negative integer of 64 bits, or none of
64 bits at all. -/
inductive Miscounts (notNumber negative : ParamFault) (s : String) : ParamFault → Prop
  | negative {v} : Writes s.toList v → -(twoPow 63 : Int) ≤ v → v < 0 →
    Miscounts notNumber negative s negative
  | notNumber : (∀ v, Writes s.toList v → v < -(twoPow 63 : Int) ∨ twoPow 63 ≤ v) →
    Miscounts notNumber negative s notNumber

theorem int64?_eq_some {t : List Char} {v : Int} :
    int64? t = some v ↔ Writes t v ∧ -(twoPow 63 : Int) ≤ v ∧ v < twoPow 63 := by
  have h63 : (twoPow 63 : Int) = 9223372036854775808 := rfl
  have h64 : twoPow 64 = 18446744073709551616 := rfl
  unfold int64?
  rw [Option.filter_eq_some_iff, Text.integer?_eq_some, fitsSigned_64, h63, h64]
  constructor
  · rintro ⟨⟨hw, -⟩, hrange⟩
    exact ⟨hw, hrange⟩
  · rintro ⟨hw, hrange⟩
    exact ⟨⟨hw, by omega⟩, hrange⟩

theorem int64?_eq_none {t : List Char} :
    int64? t = none ↔ ∀ v, Writes t v → v < -(twoPow 63 : Int) ∨ twoPow 63 ≤ v := by
  rw [Option.eq_none_iff_forall_ne_some]
  refine forall_congr' fun v => ?_
  rw [Ne, int64?_eq_some]
  constructor
  · intro h hw
    by_contra hrange
    exact h ⟨hw, by omega⟩
  · rintro h ⟨hw, hrange⟩
    have := h hw
    omega

section Counts

variable {default : Nat} {f g e : ParamFault} {x : Option String} {s : String} {n : Int}

theorem readCount_eq_ok : readCount default f g x = .ok n ↔ Counts default x n := by
  cases x with
  | none =>
    rw [readCount, Except.ok.injEq]
    constructor
    · rintro rfl
      exact .absent
    · intro h
      cases h
      rfl
  | some s =>
    have hcounts : Counts default (some s) n ↔ int64? s.toList = some n ∧ 0 ≤ n := by
      rw [int64?_eq_some]
      constructor
      · intro h
        cases h with
        | given hw hnonneg hlt => exact ⟨⟨hw, by omega, hlt⟩, hnonneg⟩
      · rintro ⟨⟨hw, -, hlt⟩, hnonneg⟩
        exact .given hw hnonneg hlt
    rw [hcounts, readCount]
    cases int64? s.toList with
    | none => simp
    | some v =>
      dsimp only
      split_ifs with hv
      · simp only [Option.some.injEq, false_iff, not_and]
        omega
      · simp only [Option.some.injEq, Except.ok.injEq]
        omega

theorem readCount_eq_error :
    readCount default f g x = .error e ↔ ∃ s, x = some s ∧ Miscounts f g s e := by
  cases x with
  | none => simp [readCount]
  | some s =>
    rw [readCount]
    simp only [Option.some.injEq, exists_eq_left']
    cases hread : int64? s.toList with
    | none =>
      rw [Except.error.injEq]
      constructor
      · rintro rfl
        exact .notNumber (int64?_eq_none.mp hread)
      · intro h
        cases h with
        | negative hw hle hlt =>
          have hsome := int64?_eq_some.mpr ⟨hw, hle, by omega⟩
          rw [hread] at hsome
          cases hsome
        | notNumber _ => rfl
    | some v =>
      obtain ⟨hw, hle, hlt⟩ := int64?_eq_some.mp hread
      dsimp only
      split_ifs with hv
      · rw [Except.error.injEq]
        constructor
        · rintro rfl
          exact .negative hw hle hv
        · intro h
          cases h with
          | negative => rfl
          | notNumber hno =>
            have := hno v hw
            omega
      · simp only [false_iff]
        intro h
        cases h with
        | negative hw' _ hneg =>
          have := hw.unique hw'
          omega
        | notNumber hno =>
          have := hno v hw
          omega

end Counts

/-! ## Sorts -/

/-- A text of two parts around its only point. -/
structure Halves (t a b : List Char) : Prop where
  whole : t = a ++ '.' :: b
  left : '.' ∉ a
  right : '.' ∉ b

theorem splitOn_eq_single {t a : List Char} : t.splitOn '.' = [a] ↔ t = a ∧ '.' ∉ t := by
  constructor
  · intro h
    have hno : '.' ∉ t := by
      intro hmem
      obtain ⟨before, after, rfl, hbefore⟩ := List.eq_append_cons_of_mem hmem
      rw [List.splitOn_append_cons_self_of_not_mem hbefore, List.cons.injEq] at h
      exact List.splitOn_ne_nil '.' after h.2
    rw [List.splitOn_eq_singleton hno, List.cons.injEq] at h
    exact ⟨h.1, hno⟩
  · rintro ⟨rfl, hno⟩
    exact List.splitOn_eq_singleton hno

theorem splitOn_eq_pair {t a b : List Char} : t.splitOn '.' = [a, b] ↔ Halves t a b := by
  constructor
  · intro h
    have hmem : '.' ∈ t := by
      by_contra hno
      rw [List.splitOn_eq_singleton hno] at h
      cases h
    obtain ⟨before, after, rfl, hbefore⟩ := List.eq_append_cons_of_mem hmem
    rw [List.splitOn_append_cons_self_of_not_mem hbefore, List.cons.injEq] at h
    obtain ⟨rfl, hafter⟩ := h
    obtain ⟨rfl, hno⟩ := splitOn_eq_single.mp hafter
    exact ⟨rfl, hbefore, hno⟩
  · rintro ⟨rfl, ha, hb⟩
    rw [List.splitOn_append_cons_self_of_not_mem ha, List.splitOn_eq_singleton hb]

/-- A sort as a parameter: in lower case, the name of a member, a point and a direction; or what
stands for an absent one. -/
inductive Sorts : Option String → String → String → Prop
  | absent : Sorts none "last_name" "asc"
  | given {s} {f : SortField} {direction} : direction = "asc" ∨ direction = "desc" →
    Text.lower s.toList = f.name.toList ++ '.' :: direction.toList →
    Sorts (some s) f.name direction

/-- What is wrong with a text that is no sort: it has not two parts, the first is no member's name,
or the second is no direction. -/
inductive Missorts (s : String) : ParamFault → Prop
  | format : (∀ a b, ¬ Halves (Text.lower s.toList) a b) → Missorts s .sortFormat
  | field {a b} : Halves (Text.lower s.toList) a b → (∀ f : SortField, f.name.toList ≠ a) →
    Missorts s .sortField
  | direction {b} {f : SortField} : Halves (Text.lower s.toList) f.name.toList b →
    b ≠ "asc".toList → b ≠ "desc".toList → Missorts s .sortDirection

section Sorts

variable {s : String} {a b : List Char} {field direction : String} {e : ParamFault}

theorem readSort_of_halves (h : Halves (Text.lower s.toList) a b) :
    readSort s =
      if !sortableFields.contains (String.ofList a) then .error .sortField
      else if String.ofList b ≠ "asc" ∧ String.ofList b ≠ "desc" then .error .sortDirection
      else .ok (String.ofList a, String.ofList b) := by
  unfold readSort
  rw [splitOn_eq_pair.mpr h]

theorem readSort_of_not_halves (h : ∀ a b, ¬ Halves (Text.lower s.toList) a b) :
    readSort s = .error .sortFormat := by
  unfold readSort
  split
  · next a b heq => exact absurd (splitOn_eq_pair.mp heq) (h a b)
  · rfl

theorem ofList_eq_iff {t : String} : String.ofList a = t ↔ a = t.toList := by
  rw [← String.toList_inj, String.toList_ofList]

/-- The names that clients may not use are those of no member. -/
theorem not_contains_sortableFields :
    (!sortableFields.contains (String.ofList a)) = true ↔ ∀ f : SortField, f.name.toList ≠ a := by
  rw [Bool.not_eq_true', ← Bool.not_eq_true, List.contains_iff_mem, mem_sortableFields, not_exists]
  refine forall_congr' fun f => ?_
  rw [Ne, eq_comm, ofList_eq_iff, eq_comm]

theorem point_notMem_name (f : SortField) : '.' ∉ f.name.toList := by
  cases f <;> decide

theorem readSort_eq_ok : readSort s = .ok (field, direction) ↔ Sorts (some s) field direction := by
  constructor
  · intro h
    by_cases hhalves : ∃ a b, Halves (Text.lower s.toList) a b
    · obtain ⟨a, b, hab⟩ := hhalves
      rw [readSort_of_halves hab] at h
      split_ifs at h with hname hdirection
      obtain ⟨rfl, rfl⟩ := Prod.mk.inj (Except.ok.inj h)
      rw [not_contains_sortableFields, not_forall] at hname
      obtain ⟨f, hf⟩ := hname
      obtain rfl := not_ne_iff.mp hf
      rw [String.ofList_toList]
      refine .given ?_ ?_
      · by_contra hno
        exact hdirection (not_or.mp hno)
      · rw [String.toList_ofList]
        exact hab.whole
    · rw [readSort_of_not_halves fun a b hab => hhalves ⟨a, b, hab⟩] at h
      cases h
  · intro h
    cases h with
    | @given _ f _ hdirection hlower =>
      have hpoint : '.' ∉ direction.toList := by
        rcases hdirection with rfl | rfl <;> decide
      have hhalves : Halves (Text.lower s.toList) f.name.toList direction.toList :=
        ⟨hlower, point_notMem_name f, hpoint⟩
      have hname : ¬ (!sortableFields.contains f.name) = true := by
        rw [← String.ofList_toList (s := f.name), not_contains_sortableFields, not_forall]
        exact ⟨f, not_not.mpr rfl⟩
      rw [readSort_of_halves hhalves, String.ofList_toList, String.ofList_toList, if_neg hname]
      rcases hdirection with rfl | rfl <;> rfl

theorem readSort_eq_error : readSort s = .error e ↔ Missorts s e := by
  constructor
  · intro h
    by_cases hhalves : ∃ a b, Halves (Text.lower s.toList) a b
    · obtain ⟨a, b, hab⟩ := hhalves
      rw [readSort_of_halves hab] at h
      split_ifs at h with hname hdirection
      · obtain rfl := Except.error.inj h
        exact .field hab (not_contains_sortableFields.mp hname)
      · obtain rfl := Except.error.inj h
        rw [not_contains_sortableFields, not_forall] at hname
        obtain ⟨f, hf⟩ := hname
        obtain rfl := not_ne_iff.mp hf
        rw [Ne, ofList_eq_iff, Ne, ofList_eq_iff] at hdirection
        exact .direction hab hdirection.1 hdirection.2
    · have hno : ∀ a b, ¬ Halves (Text.lower s.toList) a b := fun a b hab => hhalves ⟨a, b, hab⟩
      rw [readSort_of_not_halves hno, Except.error.injEq] at h
      subst h
      exact .format hno
  · intro h
    cases h with
    | format hno => exact readSort_of_not_halves hno
    | field hab hname => rw [readSort_of_halves hab, if_pos (not_contains_sortableFields.mpr hname)]
    | @direction b f hab hasc hdesc =>
      have hname : ¬ (!sortableFields.contains (String.ofList f.name.toList)) = true := by
        rw [not_contains_sortableFields, not_forall]
        exact ⟨f, not_not.mpr rfl⟩
      rw [readSort_of_halves hab, if_neg hname, if_pos]
      rw [Ne, ofList_eq_iff, Ne, ofList_eq_iff]
      exact ⟨hasc, hdesc⟩

/-- The sort of the parameters, or what stands for an absent one. -/
def readSortBy : Option String → Except ParamFault (String × String)
  | some s => readSort s
  | none => .ok (Query.default.sortField, Query.default.sortDirection)

theorem readSortBy_eq_ok {x : Option String} {z : String × String} :
    readSortBy x = .ok z ↔ Sorts x z.1 z.2 := by
  cases x with
  | some s => exact readSort_eq_ok
  | none =>
    constructor
    · intro h
      obtain rfl := Except.ok.inj h
      exact .absent
    · intro h
      obtain ⟨field, direction⟩ := z
      cases h
      rfl

theorem readSortBy_eq_error {x : Option String} :
    readSortBy x = .error e ↔ ∃ s, x = some s ∧ Missorts s e := by
  cases x with
  | some s => simp [readSortBy, readSort_eq_error]
  | none => simp [readSortBy]

end Sorts

/-! ## All parameters -/

/-- The query that the parameters ask for. -/
structure Params.Gives (p : Params) (q : Query) : Prop where
  pageSize : Counts defaultPageSize p.pageSize q.pageSize
  page : Counts defaultPage p.page q.page
  sort : Sorts p.sortBy q.sortField q.sortDirection
  filter : q.filter = p.filter

/-- The fault of the first parameter that is malformed: page size, page, sort. -/
inductive Params.Breaks (p : Params) : ParamFault → Prop
  | pageSize {s f} : p.pageSize = some s → Miscounts .pageSizeNotNumber .pageSizeNegative s f →
    Breaks p f
  | page {size s f} : Counts defaultPageSize p.pageSize size → p.page = some s →
    Miscounts .pageNotNumber .pageNegative s f → Breaks p f
  | sort {size page s f} : Counts defaultPageSize p.pageSize size → Counts defaultPage p.page page →
    p.sortBy = some s → Missorts s f → Breaks p f

section Params

variable {p : Params} {q : Query} {f : ParamFault}

/-- The three checks, one after the other. -/
theorem ofParams_eq (p : Params) :
    Query.ofParams p =
      readCount defaultPageSize .pageSizeNotNumber .pageSizeNegative p.pageSize >>= fun size =>
      readCount defaultPage .pageNotNumber .pageNegative p.page >>= fun page =>
      readSortBy p.sortBy >>= fun sort => .ok ⟨size, page, sort.1, sort.2, p.filter⟩ := by
  unfold Query.ofParams
  cases p.sortBy <;> rfl

theorem ofParams_eq_ok : Query.ofParams p = .ok q ↔ p.Gives q := by
  simp only [ofParams_eq, Steps.bind_eq_ok, readCount_eq_ok, readSortBy_eq_ok, Except.ok.injEq]
  constructor
  · rintro ⟨size, hsize, page, hpage, sort, hsort, rfl⟩
    exact ⟨hsize, hpage, hsort, rfl⟩
  · rintro ⟨hsize, hpage, hsort, hfilter⟩
    refine ⟨_, hsize, _, hpage, (q.sortField, q.sortDirection), hsort, ?_⟩
    rw [← hfilter]

theorem ofParams_eq_error : Query.ofParams p = .error f ↔ p.Breaks f := by
  simp only [ofParams_eq, Steps.bind_eq_error, readCount_eq_ok, readCount_eq_error,
    readSortBy_eq_error, reduceCtorEq, and_false, exists_const, or_false]
  constructor
  · rintro (⟨s, hs, hf⟩ | ⟨size, hsize, ⟨s, hs, hf⟩ | ⟨page, hpage, s, hs, hf⟩⟩)
    · exact .pageSize hs hf
    · exact .page hsize hs hf
    · exact .sort hsize hpage hs hf
  · intro h
    cases h with
    | pageSize hs hf => exact .inl ⟨_, hs, hf⟩
    | page hsize hs hf => exact .inr ⟨_, hsize, .inl ⟨_, hs, hf⟩⟩
    | sort hsize hpage hs hf => exact .inr ⟨_, hsize, .inr ⟨_, hpage, _, hs, hf⟩⟩

end Params

/-! ## The selection -/

/-- The members by which a listing can be filtered, in order. -/
def FilterField.all : List FilterField := [.firstName, .lastName, .nickname, .email, .country]

/-- The selection carries out the query: the sort is the same, as many accounts are passed over as
stand on the pages before and 64 bits can count, there are as many as on a page or all, and the
filters are the values given that are not empty, in the order of their members. -/
structure Selection.CarriesOut (sel : Selection) (q : Query) : Prop where
  sortField : sel.sortField.name = q.sortField
  direction : sel.direction = .descending ↔ q.sortDirection = "desc"
  skip : (sel.skip : Int) = min (q.page * q.pageSize) (twoPow 64 - 1)
  limit : ∀ n, sel.limit = some n ↔ n ≠ 0 ∧ (n : Int) = q.pageSize
  filters : ∀ field value, (field, value) ∈ sel.filters ↔
    q.filter.value field = some value ∧ value ≠ ""
  order : (sel.filters.map Prod.fst).Sublist FilterField.all

/-- The keys of the values that are there stand in the order of all keys. -/
theorem keys_sublist {α κ ν : Type} (key : α → κ) (get : α → Option ν) (l : List α) :
    ((l.filterMap fun x => (get x).map (key x, ·)).map Prod.fst).Sublist (l.map key) := by
  induction l with
  | nil => exact .slnil
  | cons x l ih =>
    rw [List.filterMap_cons, List.map_cons]
    cases get x with
    | none => exact ih.cons (key x)
    | some v => exact ih.cons_cons (key x)

theorem sublist_pairs (f : Filter) : (f.pairs.map Prod.fst).Sublist FilterField.all := by
  have hkeys := keys_sublist Prod.fst
    (fun e : FilterField × Option String => e.2.filter (!·.isEmpty))
    [(.firstName, f.firstName), (.lastName, f.lastName), (.nickname, f.nickname),
      (.email, f.email), (.country, f.country)]
  exact hkeys

theorem carriesOut_of_ofQuery {q : Query} {sel : Selection} (h : Selection.ofQuery q = .ok sel) :
    sel.CarriesOut q := by
  obtain ⟨hsize, hpage, f, hf, rfl⟩ := ofQuery_eq_ok.mp h
  have hmax : ((maxSkip : Nat) : Int) = twoPow 64 - 1 := rfl
  refine ⟨hf.symm, ?_, ?_, ?_, ?_, sublist_pairs q.filter⟩
  · unfold Query.direction
    split_ifs with hdesc <;> simp [hdesc]
  · show ((min (q.page.toNat * q.pageSize.toNat) maxSkip : Nat) : Int) = _
    have hproduct : ((q.page.toNat * q.pageSize.toNat : Nat) : Int) = q.page * q.pageSize := by
      rw [Int.natCast_mul, Int.toNat_of_nonneg hsize, Int.toNat_of_nonneg hpage]
    omega
  · intro n
    dsimp only
    split_ifs with hzero
    · simp only [false_iff, not_and]
      omega
    · rw [Option.some.injEq]
      omega
  · intro field value
    exact Store.mem_pairs

/-- What a store objects to is never a query that has a selection. -/
theorem list_ne_refusal {q : Query} {sel : Selection} (h : Selection.ofQuery q = .ok sel)
    (s : Store) (f : QueryFault) : Store.list q s ≠ .error (.query f.message) := by
  intro hlist
  unfold Store.list at hlist
  rw [h] at hlist
  obtain ⟨-, e, -, -, -, hdecode⟩ := Steps.mapM_eq_error.mp hlist
  cases hd : User.ofDocument e.2 with
  | ok u =>
    rw [Store.decode_of_ok hd] at hdecode
    cases hdecode
  | error g =>
    -- The objection to a document starts with another letter than those to a query.
    rw [Store.decode_of_error hd, Except.error.injEq, StoreError.query.injEq] at hdecode
    have hstart := congrArg (fun m => m.toList.take 2) hdecode
    simp only [String.toList_append, List.append_assoc] at hstart
    cases f <;> cases hstart

/-- A client may use the names for which a store has a member, and the member has that name. -/
theorem mem_sortableFields_iff_ofName? {name : String} :
    name ∈ sortableFields ↔ ∃ f, SortField.ofName? name = some f ∧ f.name = name := by
  rw [mem_sortableFields]
  refine exists_congr fun f => ?_
  rw [SortField.ofName?_eq_some, eq_comm, and_self]

/-- **Parameters agree with selections**: the names that may be sorted by are those that a store
has members for; parameters are read iff each of them is well formed, the first one that is not
decides the fault, and every query that is read has a selection, which carries it out, so that no
store objects to it. -/
theorem parameters_agree (p : Params) :
    (∀ name, name ∈ sortableFields ↔ ∃ f, SortField.ofName? name = some f ∧ f.name = name) ∧
      (∀ q, Query.ofParams p = .ok q ↔ p.Gives q) ∧
      (∀ f, Query.ofParams p = .error f ↔ p.Breaks f) ∧
      ∀ q, p.Gives q → (∃ sel, Selection.ofQuery q = .ok sel ∧ sel.CarriesOut q) ∧
        ∀ s (f : QueryFault), Store.list q s ≠ .error (.query f.message) := by
  refine ⟨fun name => mem_sortableFields_iff_ofName?, fun q => ofParams_eq_ok,
    fun f => ofParams_eq_error, ?_⟩
  intro q hq
  obtain ⟨sel, hsel⟩ := exists_selection_of_ofParams (ofParams_eq_ok.mpr hq)
  exact ⟨⟨sel, hsel, carriesOut_of_ofQuery hsel⟩, list_ne_refusal hsel⟩

/-- A negative zero is a count, and the Kelvin sign is a `k` in lower case. -/
example :
    Query.ofParams ⟨some "-0", some "+007", some "nic\u212aName.DESC", .none⟩ =
      .ok ⟨0, 7, "nickname", "desc", .none⟩ := by
  decide +kernel

end UserDirectory.Listing
