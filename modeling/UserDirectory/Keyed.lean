/-!
# Keyed — finite maps as entries in ascending order of their keys

* `Keyed κ ν`: entries whose keys ascend strictly, so equal maps have equal entries.
* `get?`, `insert`, `erase`: look-up and the two changes.
* `get?_insert`, `get?_erase`: what a look-up finds after a change.
-/

namespace UserDirectory

/-- A type whose `<` is a strict linear order. -/
class KeyOrder (κ : Type) [LT κ] : Prop where
  irrefl : ∀ a : κ, ¬ a < a
  trans : ∀ {a b c : κ}, a < b → b < c → a < c
  eq_of_not_lt : ∀ {a b : κ}, ¬ a < b → ¬ b < a → a = b

instance : KeyOrder String where
  irrefl := String.lt_irrefl
  trans := String.lt_trans
  eq_of_not_lt h h' := String.le_antisymm (String.not_lt.1 h') (String.not_lt.1 h)

/-- A finite map. -/
structure Keyed (κ ν : Type) [LT κ] where
  entries : List (κ × ν)
  ascending : entries.Pairwise fun a b => a.1 < b.1

namespace Keyed

variable {κ ν : Type} [LT κ]

/-- The map without entries. -/
def empty : Keyed κ ν := ⟨[], .nil⟩

instance : Inhabited (Keyed κ ν) := ⟨empty⟩

/-- The number of entries. -/
def size (m : Keyed κ ν) : Nat := m.entries.length

/-- Whether there is no entry. -/
def isEmpty (m : Keyed κ ν) : Bool := m.entries.isEmpty

@[ext] theorem ext {m n : Keyed κ ν} (h : m.entries = n.entries) : m = n := by
  cases m; cases n; cases h; rfl

/-! ## Look-up -/

section

variable [DecidableEq κ]

/-- The value of the first entry with the key. -/
def findEntry (k : κ) : List (κ × ν) → Option ν
  | [] => none
  | e :: r => if k = e.1 then some e.2 else findEntry k r

/-- The value under a key. -/
def get? (m : Keyed κ ν) (k : κ) : Option ν := findEntry k m.entries

/-- Whether there is an entry with the key. -/
def contains (m : Keyed κ ν) (k : κ) : Bool := (m.get? k).isSome

@[simp] theorem get?_empty (k : κ) : (empty : Keyed κ ν).get? k = none := rfl

end

/-! ## Changes -/

section

variable [DecidableLT κ]

/-- The entries with the value under the key. -/
def insertEntry (k : κ) (v : ν) : List (κ × ν) → List (κ × ν)
  | [] => [(k, v)]
  | e :: r =>
    if k < e.1 then (k, v) :: e :: r
    else if e.1 < k then e :: insertEntry k v r
    else (k, v) :: r

theorem mem_insertEntry {k : κ} {v : ν} {e : κ × ν} {es : List (κ × ν)}
    (h : e ∈ insertEntry k v es) : e = (k, v) ∨ e ∈ es := by
  induction es with
  | nil => simpa [insertEntry] using h
  | cons d r ih =>
    unfold insertEntry at h
    split at h
    · simpa using h
    · split at h
      · rcases List.mem_cons.1 h with rfl | h
        · simp
        · rcases ih h with h | h <;> simp [h]
      · rcases List.mem_cons.1 h with h | h <;> simp [h]

variable [KeyOrder κ]

theorem ascending_insertEntry (k : κ) (v : ν) {es : List (κ × ν)}
    (h : es.Pairwise fun a b => a.1 < b.1) :
    (insertEntry k v es).Pairwise fun a b => a.1 < b.1 := by
  induction es with
  | nil => simp [insertEntry]
  | cons e r ih =>
    obtain ⟨he, hr⟩ := List.pairwise_cons.1 h
    unfold insertEntry
    split
    · next hk =>
      refine List.pairwise_cons.2 ⟨fun a ha => ?_, h⟩
      rcases List.mem_cons.1 ha with rfl | ha
      · exact hk
      · exact KeyOrder.trans hk (he a ha)
    · next hk =>
      split
      · next hk' =>
        refine List.pairwise_cons.2 ⟨fun a ha => ?_, ih hr⟩
        rcases mem_insertEntry ha with rfl | ha
        · exact hk'
        · exact he a ha
      · next hk' =>
        obtain rfl := KeyOrder.eq_of_not_lt hk hk'
        exact List.pairwise_cons.2 ⟨he, hr⟩

/-- The map with the value under the key, whatever was there before. -/
def insert (m : Keyed κ ν) (k : κ) (v : ν) : Keyed κ ν :=
  ⟨insertEntry k v m.entries, ascending_insertEntry k v m.ascending⟩

/-- The map of entries, of which the last under a key counts. -/
def ofList (es : List (κ × ν)) : Keyed κ ν := es.foldl (fun m e => m.insert e.1 e.2) empty

end

/-- The map without the entry under the key. -/
def erase [DecidableEq κ] (m : Keyed κ ν) (k : κ) : Keyed κ ν :=
  ⟨m.entries.filter fun e => !decide (e.1 = k), m.ascending.filter _⟩

/-! ## What a look-up finds after a change -/

section

variable [DecidableEq κ]

theorem findEntry_insertEntry [DecidableLT κ] [KeyOrder κ] (k k' : κ) (v : ν)
    (es : List (κ × ν)) :
    findEntry k' (insertEntry k v es) = if k' = k then some v else findEntry k' es := by
  induction es with
  | nil => rfl
  | cons e r ih =>
    unfold insertEntry
    split
    · rfl
    · next hk =>
      split
      · next hk' =>
        have hne : k ≠ e.1 := fun he => KeyOrder.irrefl k (he ▸ hk')
        by_cases h : k' = k
        · subst h
          simp [findEntry, ih, hne]
        · simp [findEntry, ih, h]
      · next hk' =>
        obtain rfl := KeyOrder.eq_of_not_lt hk hk'
        by_cases h : k' = e.1 <;> simp [findEntry, h]

theorem get?_insert [DecidableLT κ] [KeyOrder κ] (m : Keyed κ ν) (k k' : κ) (v : ν) :
    (m.insert k v).get? k' = if k' = k then some v else m.get? k' :=
  findEntry_insertEntry k k' v m.entries

omit [LT κ] in
theorem findEntry_filter_ne (k k' : κ) (es : List (κ × ν)) :
    findEntry k' (es.filter fun e => !decide (e.1 = k)) =
      if k' = k then none else findEntry k' es := by
  induction es with
  | nil => simp [findEntry]
  | cons e r ih =>
    by_cases he : e.1 = k
    · by_cases h : k' = k
      · subst h
        simp [he, ih]
      · simp [findEntry, he, h, ih]
    · by_cases h : k' = e.1
      · simp [findEntry, he, h]
      · simp [findEntry, he, h, ih]

theorem get?_erase (m : Keyed κ ν) (k k' : κ) :
    (m.erase k).get? k' = if k' = k then none else m.get? k' :=
  findEntry_filter_ne k k' m.entries

end

end Keyed
end UserDirectory
