import UserDirectory.Keyed

/-!
# Proofs.Keyed — maps with the same look-ups are equal, and images of maps

* `mem_entries_iff`: an entry is in a map iff the look-up of its key finds it.
* `eq_of_get?`: extensionality.  Both entry lists ascend strictly, so equal members mean equal
  lists.
* `get?_foldl_insert`, `get?_ofList`: look-ups after entries were inserted one by one.
* `mapValues f m`: `m` with each value replaced by its image under `f`, which may look at the
  key.  It commutes with look-up and with both changes.
-/

namespace UserDirectory.Keyed

variable {κ ν ω : Type} [LT κ]

/-! ## Members and look-ups -/

section Members

variable [DecidableEq κ]

omit [LT κ] in
theorem mem_of_findEntry {k : κ} {v : ν} {es : List (κ × ν)} (h : findEntry k es = some v) :
    (k, v) ∈ es := by
  induction es with
  | nil => simp [findEntry] at h
  | cons e r ih =>
    unfold findEntry at h
    split at h
    · next hk =>
      subst hk
      rw [Option.some.injEq] at h
      subst h
      exact List.mem_cons_self
    · exact List.mem_cons_of_mem _ (ih h)

variable [KeyOrder κ]

theorem findEntry_of_mem {k : κ} {v : ν} {es : List (κ × ν)}
    (hes : es.Pairwise fun a b => a.1 < b.1) (h : (k, v) ∈ es) : findEntry k es = some v := by
  induction es with
  | nil => simp at h
  | cons e r ih =>
    obtain ⟨he, hr⟩ := List.pairwise_cons.mp hes
    unfold findEntry
    rcases List.mem_cons.mp h with rfl | h
    · rw [if_pos rfl]
    · have hne : k ≠ e.1 := fun hk => KeyOrder.irrefl e.1 (hk ▸ he _ h)
      rw [if_neg hne]
      exact ih hr h

theorem mem_entries_iff (m : Keyed κ ν) (k : κ) (v : ν) : (k, v) ∈ m.entries ↔ m.get? k = some v :=
  ⟨findEntry_of_mem m.ascending, mem_of_findEntry⟩

omit [DecidableEq κ] in
theorem nodup_entries (m : Keyed κ ν) : m.entries.Nodup := by
  refine List.Pairwise.imp ?_ m.ascending
  rintro a b h rfl
  exact KeyOrder.irrefl a.1 h

/-- **Extensionality**: maps that agree on every look-up are equal. -/
theorem eq_of_get? {m n : Keyed κ ν} (h : ∀ k, m.get? k = n.get? k) : m = n := by
  have hmem : ∀ e, e ∈ m.entries ↔ e ∈ n.entries := by
    rintro ⟨k, v⟩
    rw [mem_entries_iff, mem_entries_iff, h k]
  have hperm : m.entries.Perm n.entries :=
    (List.perm_ext_iff_of_nodup m.nodup_entries n.nodup_entries).mpr hmem
  apply Keyed.ext
  refine hperm.eq_of_pairwise (fun a b _ _ hab hba => ?_) m.ascending n.ascending
  exact absurd (KeyOrder.trans hab hba) (KeyOrder.irrefl a.1)

end Members

theorem contains_eq_false [DecidableEq κ] {m : Keyed κ ν} {k : κ} :
    m.contains k = false ↔ m.get? k = none := by
  unfold contains
  cases m.get? k <;> simp

theorem contains_eq_true [DecidableEq κ] {m : Keyed κ ν} {k : κ} :
    m.contains k = true ↔ ∃ v, m.get? k = some v := Option.isSome_iff_exists

/-! ## Lists of entries -/

section Lists

variable [DecidableEq κ]

omit [LT κ] in
theorem findEntry_append (k : κ) (es fs : List (κ × ν)) :
    findEntry k (es ++ fs) = (findEntry k es).or (findEntry k fs) := by
  induction es with
  | nil => rfl
  | cons e r ih =>
    rw [List.cons_append, findEntry, findEntry]
    by_cases hk : k = e.1
    · rw [if_pos hk, if_pos hk]
      rfl
    · rw [if_neg hk, if_neg hk, ih]

omit [LT κ] in
theorem findEntry_eq_none (k : κ) (es : List (κ × ν)) :
    findEntry k es = none ↔ k ∉ es.map Prod.fst := by
  induction es with
  | nil => simp [findEntry]
  | cons e r ih =>
    rw [findEntry, List.map_cons, List.mem_cons, not_or, ← ih]
    by_cases hk : k = e.1 <;> simp [hk]

variable [DecidableLT κ] [KeyOrder κ]

/-- Of entries inserted one after the other the last under a key counts. -/
theorem get?_foldl_insert (es : List (κ × ν)) (m : Keyed κ ν) (k : κ) :
    (es.foldl (fun m e => m.insert e.1 e.2) m).get? k =
      (findEntry k es.reverse).or (m.get? k) := by
  induction es generalizing m with
  | nil => rfl
  | cons e r ih =>
    rw [List.foldl_cons, ih, get?_insert, List.reverse_cons, findEntry_append]
    by_cases hk : k = e.1 <;> simp [findEntry, hk]

theorem get?_ofList (es : List (κ × ν)) (k : κ) :
    (ofList es).get? k = findEntry k es.reverse := by
  unfold ofList
  rw [get?_foldl_insert, get?_empty, Option.or_none]

end Lists

/-! ## Images -/

/-- The map with every value replaced by its image. -/
def mapValues (f : κ → ν → ω) (m : Keyed κ ν) : Keyed κ ω where
  entries := m.entries.map fun e => (e.1, f e.1 e.2)
  ascending := List.pairwise_map.mpr m.ascending

section Images

variable [DecidableEq κ]

omit [LT κ] in
theorem findEntry_map (f : κ → ν → ω) (k : κ) (es : List (κ × ν)) :
    findEntry k (es.map fun e => (e.1, f e.1 e.2)) = (findEntry k es).map (f k) := by
  induction es with
  | nil => rfl
  | cons e r ih =>
    rw [List.map_cons]
    unfold findEntry
    by_cases hk : k = e.1
    · rw [if_pos hk, if_pos hk, Option.map_some, hk]
    · rw [if_neg hk, if_neg hk, ih]

@[simp] theorem get?_mapValues (f : κ → ν → ω) (m : Keyed κ ν) (k : κ) :
    (m.mapValues f).get? k = (m.get? k).map (f k) := findEntry_map f k m.entries

@[simp] theorem contains_mapValues (f : κ → ν → ω) (m : Keyed κ ν) (k : κ) :
    (m.mapValues f).contains k = m.contains k := by
  unfold contains
  rw [get?_mapValues, Option.isSome_map]

variable [KeyOrder κ]

theorem mapValues_insert [DecidableLT κ] (f : κ → ν → ω) (m : Keyed κ ν) (k : κ) (v : ν) :
    (m.insert k v).mapValues f = (m.mapValues f).insert k (f k v) := by
  refine eq_of_get? fun k' => ?_
  rw [get?_mapValues, get?_insert, get?_insert, get?_mapValues]
  by_cases hk : k' = k
  · rw [if_pos hk, if_pos hk, Option.map_some, hk]
  · rw [if_neg hk, if_neg hk]

theorem mapValues_erase (f : κ → ν → ω) (m : Keyed κ ν) (k : κ) :
    (m.erase k).mapValues f = (m.mapValues f).erase k := by
  refine eq_of_get? fun k' => ?_
  rw [get?_mapValues, get?_erase, get?_erase, get?_mapValues]
  by_cases hk : k' = k
  · rw [if_pos hk, if_pos hk, Option.map_none]
  · rw [if_neg hk, if_neg hk]

end Images

end UserDirectory.Keyed
