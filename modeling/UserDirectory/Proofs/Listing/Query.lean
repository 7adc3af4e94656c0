import UserDirectory.Listing.Selection
import UserDirectory.Proofs.Steps

/-!
# Proofs.Listing.Query — a query that was made from parameters can be carried out

* `SortField.ofName?_eq_some`, `mem_sortableFields`: a client may sort by just the names that stand
  for a member, and the name of a member determines it.
* `ofParams_bounds`: the counts that parameters give are not negative, and their sort names a
  member.
* `ofQuery_eq_ok`: which queries have a selection, and which one.
* `exists_selection_of_ofParams`: a listing that a client asks for always has one.
* `Query.window`: the slice of a list that a query asks for, in integers without a bound, and how
  the pages of one size make up the list.
-/

namespace UserDirectory.Listing

/-! ## Names of members -/

theorem SortField.ofName?_name (f : SortField) : SortField.ofName? f.name = some f := by
  cases f <;> rfl

theorem SortField.ofName?_eq_some {s : String} {f : SortField} :
    SortField.ofName? s = some f ↔ s = f.name := by
  refine ⟨?_, ?_⟩
  · intro h
    unfold SortField.ofName? at h
    -- One case for each name, and one for all other texts.
    split at h
    all_goals cases h
    all_goals rfl
  · rintro rfl
    exact f.ofName?_name

/-- **What may be asked for can be sorted by**: the names that clients may use are those of the
members. -/
theorem mem_sortableFields {s : String} : s ∈ sortableFields ↔ ∃ f : SortField, f.name = s := by
  have hnames : sortableFields = [SortField.firstName, .lastName, .nickname, .password, .email,
      .country, .createdAt, .updatedAt].map SortField.name := rfl
  constructor
  · intro h
    rw [hnames] at h
    obtain ⟨f, -, hf⟩ := List.mem_map.mp h
    exact ⟨f, hf⟩
  · rintro ⟨f, rfl⟩
    cases f <;> simp [sortableFields, SortField.name]

theorem SortField.isEmpty_name (f : SortField) : f.name.isEmpty = false := by
  cases f <;> rfl

/-! ## What parameters give -/

theorem readCount_nonneg {default : Nat} {f g : ParamFault} {s : Option String} {n : Int}
    (h : readCount default f g s = .ok n) : 0 ≤ n := by
  unfold readCount at h
  split at h
  · rw [Except.ok.injEq] at h
    omega
  · split at h
    · cases h
    · split at h
      · cases h
      · rw [Except.ok.injEq] at h
        omega

theorem readSort_field {s field direction : String} (h : readSort s = .ok (field, direction)) :
    ∃ f : SortField, f.name = field := by
  unfold readSort at h
  split at h
  · dsimp only at h
    split at h
    · cases h
    · next hname =>
      split at h
      · cases h
      · obtain ⟨rfl, -⟩ := Prod.mk.inj (Except.ok.inj h)
        exact mem_sortableFields.mp (by simpa using hname)
  · cases h

/-- The counts are not negative and the sort names a member. -/
theorem ofParams_bounds {p : Params} {q : Query} (h : Query.ofParams p = .ok q) :
    0 ≤ q.pageSize ∧ 0 ≤ q.page ∧ ∃ f : SortField, f.name = q.sortField := by
  unfold Query.ofParams at h
  obtain ⟨size, hsize, h⟩ := Steps.bind_eq_ok.mp h
  obtain ⟨page, hpage, h⟩ := Steps.bind_eq_ok.mp h
  cases hs : p.sortBy with
  | none =>
    rw [hs] at h
    obtain rfl := Except.ok.inj h
    exact ⟨readCount_nonneg hsize, readCount_nonneg hpage, .lastName, rfl⟩
  | some s =>
    rw [hs] at h
    obtain ⟨⟨field, direction⟩, hsort, h⟩ := Steps.bind_eq_ok.mp h
    obtain rfl := Except.ok.inj h
    exact ⟨readCount_nonneg hsize, readCount_nonneg hpage, readSort_field hsort⟩

/-! ## Selections -/

/-- The direction that a query asks for. -/
def Query.direction (q : Query) : Direction :=
  if q.sortDirection = "desc" then .descending else .ascending

theorem ofQuery_eq_ok {q : Query} {sel : Selection} :
    Selection.ofQuery q = .ok sel ↔
      0 ≤ q.pageSize ∧ 0 ≤ q.page ∧ ∃ f : SortField, q.sortField = f.name ∧ sel =
        { filters := q.filter.pairs
          sortField := f
          direction := q.direction
          skip := min (q.page.toNat * q.pageSize.toNat) maxSkip
          limit := if q.pageSize = 0 then none else some q.pageSize.toNat } := by
  unfold Selection.ofQuery
  refine ⟨?_, ?_⟩
  · intro h
    by_cases hempty : q.sortField.isEmpty = true
    · rw [if_pos hempty] at h
      cases h
    by_cases hsize : q.pageSize < 0
    · rw [if_neg hempty, if_pos hsize] at h
      cases h
    by_cases hpage : q.page < 0
    · rw [if_neg hempty, if_neg hsize, if_pos hpage] at h
      cases h
    rw [if_neg hempty, if_neg hsize, if_neg hpage] at h
    split at h
    · cases h
    · next f hf =>
      refine ⟨by omega, by omega, f, SortField.ofName?_eq_some.mp hf, ?_⟩
      exact (Except.ok.inj h).symm
  · rintro ⟨hsize, hpage, f, hf, rfl⟩
    rw [hf, f.isEmpty_name, f.ofName?_name, if_neg (by simp), if_neg (by omega),
      if_neg (by omega)]
    rfl

/-- **Listings can be carried out**: the query that parameters ask for has a selection. -/
theorem exists_selection_of_ofParams {p : Params} {q : Query} (h : Query.ofParams p = .ok q) :
    ∃ sel, Selection.ofQuery q = .ok sel := by
  obtain ⟨hsize, hpage, f, hf⟩ := ofParams_bounds h
  exact ⟨_, ofQuery_eq_ok.mpr ⟨hsize, hpage, f, hf.symm, rfl⟩⟩

/-! ## Pages -/

namespace Query

/-- The same listing, turned to another page. -/
def turn (q : Query) (n : Nat) : Query := { q with page := n }

variable {α : Type}

/-- The part of a list from position `page * pageSize` up to `page * pageSize + pageSize`, or the
whole of it if the page size is 0. -/
def window (q : Query) (l : List α) : List α :=
  if q.pageSize = 0 then l
  else (l.drop (q.page.toNat * q.pageSize.toNat)).take q.pageSize.toNat

theorem window_turn {q : Query} (h : q.pageSize ≠ 0) (n : Nat) (l : List α) :
    (q.turn n).window l = (l.drop (n * q.pageSize.toNat)).take q.pageSize.toNat := by
  have hturn : (q.turn n).pageSize ≠ 0 := h
  unfold window
  rw [if_neg hturn]
  rfl

/-- The first pages make up the beginning of the list. -/
theorem flatMap_window {q : Query} (h : q.pageSize ≠ 0) (l : List α) (n : Nat) :
    ((List.range n).flatMap fun i => (q.turn i).window l) = l.take (n * q.pageSize.toNat) := by
  induction n with
  | zero => simp
  | succ n ih =>
    rw [List.range_succ, List.flatMap_append, ih, List.flatMap_singleton, window_turn h,
      Nat.succ_mul, List.take_add]

/-- What holds between any two places of a list holds between the items of two of its pages. -/
theorem rel_of_mem_windows {q : Query} (h : q.pageSize ≠ 0) {R : α → α → Prop} {l : List α}
    (hl : l.Pairwise R) {i j : Nat} (hij : i < j) {a b : α} (ha : a ∈ (q.turn i).window l)
    (hb : b ∈ (q.turn j).window l) : R a b := by
  rw [window_turn h] at ha hb
  have hle : i * q.pageSize.toNat + q.pageSize.toNat ≤ j * q.pageSize.toNat := by
    rw [← Nat.succ_mul]
    exact Nat.mul_le_mul_right _ hij
  have ha' : a ∈ l.take (j * q.pageSize.toNat) := by
    refine (List.take_prefix_take_left hle).subset ?_
    rw [List.take_add]
    exact List.mem_append_right _ ha
  exact hl.rel_of_mem_take_of_mem_drop ha' (List.mem_of_mem_take hb)

end Query

end UserDirectory.Listing
