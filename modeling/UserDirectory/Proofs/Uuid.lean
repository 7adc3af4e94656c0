import UserDirectory.Proofs.Text.Digit
import UserDirectory.Uuid

/-!
# Proofs.Uuid — identifiers read back from their text

* `ofGroups?_join`: five groups of hexadecimal digits with a hyphen between them are read as the
  number that all 32 digits write.
* `read_text`: the reader gives back the identifier whose text it is given.
* `toString_injective`: different identifiers have different texts.
-/

namespace UserDirectory.Uuid

open Text

/-! ## Characters of the text -/

theorem isHex_hexDigit {d : Nat} (h : d < 16) : isHex (hexDigit d) = true := by
  unfold isHex
  rw [hexValue?_hexDigit h]
  rfl

theorem ne_hyphen_of_isHex {c : Char} (h : isHex c = true) : c ≠ '-' := by
  rintro rfl
  exact absurd h (by decide)

theorem utf8Size_hexDigit {d : Nat} (h : d < 16) : (hexDigit d).utf8Size = 1 := by
  have hall : ∀ d < 16, (hexDigit d).utf8Size = 1 := by decide
  exact hall d h

theorem isHex_of_mem_digits {u : Uuid} {c : Char} (h : c ∈ u.digits) : isHex c = true := by
  obtain ⟨d, hd, rfl⟩ := hexDigit_of_mem_fixedHex h
  exact isHex_hexDigit hd

theorem length_digits (u : Uuid) : u.digits.length = 32 := length_fixedHex 32 u.value

theorem byteLength_eq_length {t : List Char} (h : ∀ c ∈ t, c.utf8Size = 1) :
    byteLength t = t.length := by
  have hfold : ∀ (t : List Char) (n : Nat), (∀ c ∈ t, c.utf8Size = 1) →
      t.foldl (fun n c => n + c.utf8Size) n = n + t.length := by
    intro t
    induction t with
    | nil => intro n _; rfl
    | cons c r ih =>
      intro n hc
      rw [List.foldl_cons, ih _ fun x hx => hc x (List.mem_cons_of_mem _ hx),
        hc c List.mem_cons_self, List.length_cons]
      omega
  unfold byteLength
  rw [hfold t 0 h, Nat.zero_add]

/-! ## Hyphens in their places -/

/-- A hyphen stands at a place iff one belongs there. -/
def inPlace (p : Char × Nat) : Bool := (p.1 == '-') == isHyphenPlace p.2

theorem all_inPlace_group {g : List Char} {k : Nat} (hg : ∀ c ∈ g, isHex c = true)
    (hk : ∀ i, k ≤ i → i < k + g.length → isHyphenPlace i = false) :
    (g.zipIdx k).all inPlace = true := by
  rw [List.all_eq_true]
  rintro ⟨c, i⟩ hmem
  obtain ⟨hlow, hhigh, hc⟩ := List.mem_zipIdx hmem
  have hcg : c ∈ g := hc ▸ List.getElem_mem _
  unfold inPlace
  rw [hk i hlow hhigh, beq_false_of_ne (ne_hyphen_of_isHex (hg c hcg))]
  rfl

theorem all_inPlace_cons (t : List Char) {k : Nat} (hk : isHyphenPlace k = true) :
    (('-' :: t).zipIdx k).all inPlace = (t.zipIdx (k + 1)).all inPlace := by
  rw [List.zipIdx_cons, List.all_cons]
  unfold inPlace
  rw [hk]
  rfl

/-! ## Reading the five groups -/

/-- **Five groups**: the reader takes the hyphens out and reads the digits as one number. -/
theorem ofGroups?_join {a b c d e : List Char} (ha : a.length = 8) (hb : b.length = 4)
    (hc : c.length = 4) (hd : d.length = 4) (he : e.length = 12)
    (hex : ∀ x ∈ a ++ b ++ c ++ d ++ e, isHex x = true) :
    ofGroups? (a ++ '-' :: (b ++ '-' :: (c ++ '-' :: (d ++ '-' :: e)))) =
      some (ofNat (natOfHex (a ++ b ++ c ++ d ++ e))) := by
  have hxa : ∀ x ∈ a, isHex x = true := fun x hx => hex x (by simp [hx])
  have hxb : ∀ x ∈ b, isHex x = true := fun x hx => hex x (by simp [hx])
  have hxc : ∀ x ∈ c, isHex x = true := fun x hx => hex x (by simp [hx])
  have hxd : ∀ x ∈ d, isHex x = true := fun x hx => hex x (by simp [hx])
  have hxe : ∀ x ∈ e, isHex x = true := fun x hx => hex x (by simp [hx])
  have hkeep : ∀ g : List Char, (∀ x ∈ g, isHex x = true) → g.filter (· != '-') = g := by
    intro g hg
    rw [List.filter_eq_self]
    intro x hx
    exact bne_iff_ne.mpr (ne_hyphen_of_isHex (hg x hx))
  have hplaces : ((a ++ '-' :: (b ++ '-' :: (c ++ '-' :: (d ++ '-' :: e)))).zipIdx).all inPlace
      = true := by
    have place : ∀ i, isHyphenPlace i = true ↔ i = 8 ∨ i = 13 ∨ i = 18 ∨ i = 23 := by
      intro i
      simp [isHyphenPlace, or_assoc]
    have noPlace : ∀ {k n : Nat}, (∀ i, k ≤ i → i < k + n → ¬(i = 8 ∨ i = 13 ∨ i = 18 ∨ i = 23)) →
        ∀ i, k ≤ i → i < k + n → isHyphenPlace i = false := by
      intro k n h i h1 h2
      rw [← Bool.not_eq_true, place]
      exact h i h1 h2
    rw [List.zipIdx_append, List.all_append, all_inPlace_cons _ (by rw [ha]; rfl),
      List.zipIdx_append, List.all_append, all_inPlace_cons _ (by rw [ha, hb]; rfl),
      List.zipIdx_append, List.all_append, all_inPlace_cons _ (by rw [ha, hb, hc]; rfl),
      List.zipIdx_append, List.all_append, all_inPlace_cons _ (by rw [ha, hb, hc, hd]; rfl),
      all_inPlace_group hxa (noPlace (by omega)), all_inPlace_group hxb (noPlace (by omega)),
      all_inPlace_group hxc (noPlace (by omega)), all_inPlace_group hxd (noPlace (by omega)),
      all_inPlace_group hxe (noPlace (by omega))]
    rfl
  have hfilter : (a ++ '-' :: (b ++ '-' :: (c ++ '-' :: (d ++ '-' :: e)))).filter (· != '-') =
      a ++ b ++ c ++ d ++ e := by
    have hdrop : ∀ t : List Char, ('-' :: t).filter (· != '-') = t.filter (· != '-') :=
      fun _ => rfl
    simp only [List.filter_append, hdrop, hkeep a hxa, hkeep b hxb, hkeep c hxc, hkeep d hxd,
      hkeep e hxe, List.append_assoc]
  have hlength : (a ++ '-' :: (b ++ '-' :: (c ++ '-' :: (d ++ '-' :: e)))).length = 36 := by
    simp only [List.length_append, List.length_cons, ha, hb, hc, hd, he]
  have hdigits : (a ++ b ++ c ++ d ++ e).length = 32 := by
    simp only [List.length_append, ha, hb, hc, hd, he]
  unfold ofGroups?
  dsimp only
  rw [if_pos ⟨hlength, hplaces⟩, hfilter]
  unfold ofDigits?
  rw [if_pos ⟨hdigits, List.all_eq_true.mpr hex⟩]

/-! ## Reading a whole text -/

theorem ofNat_value (u : Uuid) : ofNat u.value = u := by
  cases u with
  | mk value lt =>
    unfold ofNat
    congr
    exact Nat.mod_eq_of_lt lt

theorem hyphen_or_digit_of_mem_text {u : Uuid} {c : Char} (h : c ∈ u.text) :
    c = '-' ∨ c ∈ u.digits := by
  simp only [text, List.mem_append, List.mem_cons] at h
  rcases h with h | h | h | h | h | h | h | h | h
  · exact .inr (List.mem_of_mem_take h)
  · exact .inl h
  · exact .inr (List.mem_of_mem_drop (List.mem_of_mem_take h))
  · exact .inl h
  · exact .inr (List.mem_of_mem_drop (List.mem_of_mem_take h))
  · exact .inl h
  · exact .inr (List.mem_of_mem_drop (List.mem_of_mem_take h))
  · exact .inl h
  · exact .inr (List.mem_of_mem_drop h)

theorem byteLength_text (u : Uuid) : byteLength u.text = 36 := by
  have hone : ∀ c ∈ u.text, c.utf8Size = 1 := by
    intro c hc
    rcases hyphen_or_digit_of_mem_text hc with rfl | h
    · rfl
    · obtain ⟨d, hd, rfl⟩ := hexDigit_of_mem_fixedHex h
      exact utf8Size_hexDigit hd
  rw [byteLength_eq_length hone]
  simp [text, length_digits]

theorem take_drop_digits (u : Uuid) :
    u.digits.take 8 ++ (u.digits.drop 8).take 4 ++ (u.digits.drop 12).take 4 ++
      (u.digits.drop 16).take 4 ++ u.digits.drop 20 = u.digits := by
  have hstep : ∀ m n : Nat, u.digits.take m ++ (u.digits.drop m).take n = u.digits.take (m + n) :=
    fun m n => (List.take_add ..).symm
  rw [hstep, hstep, hstep, List.take_append_drop]

/-- **Identifiers read back**: the reader inverts the printer. -/
theorem read_text (u : Uuid) : read u.text = .ok u := by
  have hlen := u.length_digits
  have hgroups : ofGroups? u.text = some u := by
    have hjoin := ofGroups?_join (a := u.digits.take 8) (b := (u.digits.drop 8).take 4)
      (c := (u.digits.drop 12).take 4) (d := (u.digits.drop 16).take 4) (e := u.digits.drop 20)
      (by simp [hlen]) (by simp [hlen]) (by simp [hlen]) (by simp [hlen]) (by simp [hlen])
      (by rw [take_drop_digits]; exact fun x hx => isHex_of_mem_digits hx)
    rw [take_drop_digits] at hjoin
    have hvalue : natOfHex u.digits = u.value := by
      unfold digits
      rw [natOfHex_fixedHex]
      exact Nat.mod_eq_of_lt u.lt
    rw [hvalue, ofNat_value] at hjoin
    exact hjoin
  have htext : ofText? u.text = some u := by
    unfold ofText? groups?
    dsimp only
    rw [if_pos u.byteLength_text]
    exact hgroups
  unfold read
  rw [htext]

theorem read_toString (u : Uuid) : read u.toString.toList = .ok u := by
  unfold Uuid.toString
  rw [String.toList_ofList, read_text]

theorem toString_injective {u v : Uuid} (h : u.toString = v.toString) : u = v := by
  have hread := u.read_toString
  rw [h, v.read_toString] at hread
  exact (Except.ok.inj hread).symm

end UserDirectory.Uuid
