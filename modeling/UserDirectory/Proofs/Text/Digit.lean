import Mathlib.Tactic.Common
import UserDirectory.Number

/-!
# Proofs.Text.Digit — numbers read back from the digits that write them

* `natOfDigits_twoDigits`, `natOfDigits_threeDigits`, `natOfDigits_fourDigits`: a fixed number of
  digits writes the number modulo a power of ten.
* `natOfDigits_natDigits`: as many digits as needed write the number itself.
* `Numeral`, `Writes`: the digits of a natural number, and the texts of an integer with or without
  a sign; `integer?_eq_some`: what the reader of integers accepts.
* `natOfHex_fixedHex`: a fixed number of digits to the base 16.
-/

namespace UserDirectory.Text

/-! ## Base 10 -/

theorem digitValue_digitChar (n : Nat) : digitValue (digitChar n) = n % 10 := by
  have hall : ∀ d < 10, digitValue (Char.ofNat (0x30 + d)) = d := by decide
  exact hall (n % 10) (by omega)

theorem isDigit_digitChar (n : Nat) : (digitChar n).isDigit = true := by
  have hall : ∀ d < 10, (Char.ofNat (0x30 + d)).isDigit = true := by decide
  exact hall (n % 10) (by omega)

theorem toNat_of_isDigit {c : Char} (h : c.isDigit = true) : 48 ≤ c.toNat ∧ c.toNat ≤ 57 := by
  simpa [Char.isDigit, UInt32.le_iff_toNat_le] using h

theorem natOfDigits_concat (ds : List Char) (c : Char) :
    natOfDigits (ds ++ [c]) = 10 * natOfDigits ds + digitValue c := by
  unfold natOfDigits
  rw [List.foldl_append]
  rfl

theorem natOfDigits_twoDigits (n : Nat) : natOfDigits (twoDigits n) = n % 100 := by
  have h : natOfDigits (twoDigits n) =
      10 * (10 * 0 + digitValue (digitChar (n / 10))) + digitValue (digitChar n) := rfl
  rw [h, digitValue_digitChar, digitValue_digitChar]
  omega

theorem natOfDigits_threeDigits (n : Nat) : natOfDigits (threeDigits n) = n % 1000 := by
  have h : natOfDigits (threeDigits n) =
      10 * (10 * (10 * 0 + digitValue (digitChar (n / 100))) + digitValue (digitChar (n / 10)))
        + digitValue (digitChar n) := rfl
  rw [h, digitValue_digitChar, digitValue_digitChar, digitValue_digitChar]
  omega

theorem natOfDigits_fourDigits (n : Nat) : natOfDigits (fourDigits n) = n % 10000 := by
  have h : natOfDigits (fourDigits n) =
      10 * (10 * (10 * (10 * 0 + digitValue (digitChar (n / 1000)))
        + digitValue (digitChar (n / 100))) + digitValue (digitChar (n / 10)))
        + digitValue (digitChar n) := rfl
  rw [h, digitValue_digitChar, digitValue_digitChar, digitValue_digitChar, digitValue_digitChar]
  omega

theorem isDigit_twoDigits (n : Nat) : ∀ c ∈ twoDigits n, c.isDigit = true := by
  simp [twoDigits, isDigit_digitChar]

theorem isDigit_threeDigits (n : Nat) : ∀ c ∈ threeDigits n, c.isDigit = true := by
  simp [threeDigits, twoDigits, isDigit_digitChar]

theorem isDigit_fourDigits (n : Nat) : ∀ c ∈ fourDigits n, c.isDigit = true := by
  simp [fourDigits, threeDigits, twoDigits, isDigit_digitChar]

theorem isDigit_natDigits (n : Nat) : ∀ c ∈ natDigits n, c.isDigit = true :=
  fun _ hc => Nat.isDigit_of_mem_toDigits (by decide) (by decide) hc

theorem natDigits_ne_nil (n : Nat) : natDigits n ≠ [] := Nat.toDigits_ne_nil

theorem natOfDigits_natDigits (n : Nat) : natOfDigits (natDigits n) = n := by
  have hall : ∀ d < 10, digitValue (Nat.digitChar d) = d := by decide
  induction n using Nat.strongRecOn with
  | ind n ih =>
    unfold natDigits at ih ⊢
    rw [Nat.toDigits_eq_if (by decide)]
    split_ifs with hn
    · have hone : natOfDigits [Nat.digitChar n] = 10 * 0 + digitValue (Nat.digitChar n) := rfl
      rw [hone, hall n hn]
      omega
    · rw [natOfDigits_concat, ih (n / 10) (by omega), hall (n % 10) (by omega)]
      omega

/-! ## Integers -/

/-- One digit or more that write the number; leading zeros may be among them. -/
structure Numeral (ds : List Char) (n : Nat) : Prop where
  ne_nil : ds ≠ []
  digits : ∀ c ∈ ds, c.isDigit = true
  value : natOfDigits ds = n

/-- The text writes the integer: a number, with or without a sign in front of it. -/
inductive Writes : List Char → Int → Prop
  | plain {ds n} : Numeral ds n → Writes ds n
  | plus {ds n} : Numeral ds n → Writes ('+' :: ds) n
  | minus {ds n} : Numeral ds n → Writes ('-' :: ds) (-(n : Int))

theorem natural?_eq_some {bound n : Nat} {t : List Char} :
    natural? bound t = some n ↔ Numeral t n ∧ n < bound := by
  unfold natural?
  constructor
  · intro h
    split_ifs at h with ht
    rw [natBelow?_eq] at h
    split_ifs at h with hlt
    obtain rfl := Option.some.inj h
    simp only [Bool.and_eq_true, Bool.not_eq_true', List.isEmpty_eq_false_iff, List.all_eq_true]
      at ht
    exact ⟨⟨ht.1, ht.2, rfl⟩, hlt⟩
  · rintro ⟨⟨hne, hdigits, rfl⟩, hlt⟩
    have ht : (!t.isEmpty && t.all Char.isDigit) = true := by
      simp only [Bool.and_eq_true, Bool.not_eq_true', List.isEmpty_eq_false_iff, List.all_eq_true]
      exact ⟨hne, hdigits⟩
    rw [if_pos ht, natBelow?_eq, if_pos hlt]

theorem integer?_minus (bound : Nat) (r : List Char) :
    integer? bound ('-' :: r) = (natural? bound r).map fun n : Nat => -(n : Int) := by
  rw [integer?]
  cases natural? bound r <;> rfl

theorem integer?_unsigned (bound : Nat) {t : List Char} (hminus : ∀ r, t ≠ '-' :: r)
    (hplus : ∀ r, t ≠ '+' :: r) : integer? bound t = (natural? bound t).map Int.ofNat := by
  unfold integer?
  split
  · next r => exact absurd rfl (hminus r)
  · next r => exact absurd rfl (hplus r)
  · rfl

/-- A number does not start with a sign. -/
theorem Numeral.unsigned {ds : List Char} {n : Nat} (h : Numeral ds n) {c : Char}
    (hc : c.isDigit = false) (r : List Char) : ds ≠ c :: r := by
  rintro rfl
  rw [h.digits c List.mem_cons_self] at hc
  cases hc

/-- **The reader of integers** accepts the texts that write an integer within the bound. -/
theorem integer?_eq_some {bound : Nat} {t : List Char} {v : Int} :
    integer? bound t = some v ↔ Writes t v ∧ v.natAbs < bound := by
  have hread : ∀ {f : Nat → Int} {r : List Char}, (natural? bound r).map f = some v ↔
      ∃ n, f n = v ∧ Numeral r n ∧ n < bound := by
    intro f r
    simp only [Option.map_eq_some_iff, natural?_eq_some]
    exact exists_congr fun n => and_comm
  constructor
  · intro h
    by_cases hminus : ∃ r, t = '-' :: r
    · obtain ⟨r, rfl⟩ := hminus
      rw [integer?_minus, hread] at h
      obtain ⟨n, rfl, hnum, hlt⟩ := h
      exact ⟨.minus hnum, by omega⟩
    by_cases hplus : ∃ r, t = '+' :: r
    · obtain ⟨r, rfl⟩ := hplus
      rw [integer?, hread] at h
      obtain ⟨n, rfl, hnum, hlt⟩ := h
      exact ⟨.plus hnum, hlt⟩
    · rw [integer?_unsigned bound (not_exists.mp hminus) (not_exists.mp hplus), hread] at h
      obtain ⟨n, rfl, hnum, hlt⟩ := h
      exact ⟨.plain hnum, hlt⟩
  · rintro ⟨hw, hlt⟩
    cases hw with
    | plain hnum =>
      rw [integer?_unsigned bound (hnum.unsigned rfl) (hnum.unsigned rfl), hread]
      exact ⟨_, rfl, hnum, hlt⟩
    | plus hnum =>
      rw [integer?, hread]
      exact ⟨_, rfl, hnum, hlt⟩
    | minus hnum =>
      rw [integer?_minus, hread]
      exact ⟨_, rfl, hnum, by omega⟩

/-- A text writes one integer at most. -/
theorem Writes.unique {t : List Char} {v w : Int} (hv : Writes t v) (hw : Writes t w) : v = w := by
  have h : ∀ u, Writes t u → u.natAbs < v.natAbs + w.natAbs + 1 →
      integer? (v.natAbs + w.natAbs + 1) t = some u :=
    fun u hu hlt => integer?_eq_some.mpr ⟨hu, hlt⟩
  have hboth := (h v hv (by omega)).symm.trans (h w hw (by omega))
  exact Option.some.inj hboth

/-! ## Base 16 -/

theorem hexValue?_hexDigit {d : Nat} (h : d < 16) : hexValue? (hexDigit d) = some d := by
  have hall : ∀ d < 16, hexValue? (hexDigit d) = some d := by decide
  exact hall d h

theorem natOfHex_concat (ds : List Char) (c : Char) :
    natOfHex (ds ++ [c]) = 16 * natOfHex ds + (hexValue? c).getD 0 := by
  unfold natOfHex
  rw [List.foldl_append]
  rfl

theorem length_fixedHex (width n : Nat) : (fixedHex width n).length = width := by
  induction width generalizing n with
  | zero => rfl
  | succ width ih =>
    unfold fixedHex
    rw [List.length_append, ih, List.length_singleton]

theorem hexDigit_of_mem_fixedHex {width n : Nat} {c : Char} (h : c ∈ fixedHex width n) :
    ∃ d < 16, c = hexDigit d := by
  induction width generalizing n with
  | zero => simp [fixedHex] at h
  | succ width ih =>
    unfold fixedHex at h
    rcases List.mem_append.mp h with h | h
    · exact ih h
    · exact ⟨n % 16, by omega, List.mem_singleton.mp h⟩

theorem natOfHex_fixedHex (width n : Nat) :
    natOfHex (fixedHex width n) = n % Nat.pow 16 width := by
  induction width generalizing n with
  | zero => exact (Nat.mod_one n).symm
  | succ width ih =>
    have hpow : Nat.pow 16 (width + 1) = 16 * Nat.pow 16 width := Nat.mul_comm _ _
    unfold fixedHex
    rw [natOfHex_concat, ih, hexValue?_hexDigit (by omega), Option.getD_some, hpow, Nat.mod_mul]
    omega

end UserDirectory.Text
