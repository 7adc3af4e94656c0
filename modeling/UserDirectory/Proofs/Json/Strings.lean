import Mathlib.Tactic.Common
import UserDirectory.Json.Value
import UserDirectory.Proofs.Json.Grammar
import UserDirectory.Proofs.Text.Digit

/-!
# Proofs.Json.Strings — strings are read as the texts that they stand for

* `Letter.unescape?`, `readString_unit`: what the reader makes of an escape.
* `stringTail_spells`: whatever way a text is spelled, behind the opening quote it is read, and
  what follows the closing quote is left.
* `spells_escaped`: what the printer writes is one way to spell the text.
  `stringTail_quote`: so it is read back.
-/

namespace UserDirectory.Json

open Text

/-! ## Escapes -/

theorem Letter.ne_u {e c : Char} (h : Letter e c) : e ≠ 'u' := by
  cases h <;> decide

theorem Letter.unescape? {e c : Char} (h : Letter e c) : unescape? e = some c := by
  cases h <;> rfl

/-- A digit that is not the last of the four. -/
theorem readString_digit {c : Char} {i seen : Nat} (hc : hexValue? c = some i) (hseen : seen < 3)
    (start : List Char) (lead : Option Nat) (value : Nat) (acc r : List Char) :
    readString (.digits start lead seen value) acc (c :: r) =
      readString (.digits start lead (seen + 1) (16 * value + i)) acc r := by
  rw [readString, hc]
  dsimp only
  rw [if_pos hseen]

/-- What becomes of a string after a unit, which may be the second half of a pair. -/
def afterUnit (lead : Option Nat) (n : Nat) (acc r : List Char) :
    Except Fault (String × List Char) :=
  match lead with
  | none =>
    if isTrail n then .error (.here .loneSurrogate r)
    else if isLead n then readString (.pair n) acc r
    else readString .plain (Char.ofNat n :: acc) r
  | some high =>
    if isTrail n then
      readString .plain (Char.ofNat (0x10000 + 0x400 * (high - 0xD800) + (n - 0xDC00)) :: acc) r
    else .error (.here .loneSurrogate r)

theorem readString_lastDigit {c : Char} {i : Nat} (hc : hexValue? c = some i)
    (start : List Char) (lead : Option Nat) (value : Nat) (acc r : List Char) :
    readString (.digits start lead 3 value) acc (c :: r) = afterUnit lead (16 * value + i) acc r := by
  rw [readString, hc]
  cases lead <;> rfl

theorem readString_unit {ds : List Char} {n : Nat} (h : UnitText ds n) (start : List Char)
    (lead : Option Nat) (acc r : List Char) :
    readString (.digits start lead 0 0) acc (ds ++ r) = afterUnit lead n acc r := by
  obtain @⟨a, b, c, d, i, j, k, l, ha, hb, hc, hd⟩ := h
  have hvalue : 16 * (16 * (16 * (16 * 0 + i) + j) + k) + l =
      0x1000 * i + 0x100 * j + 0x10 * k + l := by
    omega
  simp only [List.cons_append, List.nil_append]
  rw [readString_digit ha (by omega), readString_digit hb (by omega),
    readString_digit hc (by omega), readString_lastDigit hd, hvalue]

theorem isLead_eq_false {n : Nat} (h : ¬ (0xD800 ≤ n ∧ n ≤ 0xDBFF)) : isLead n = false := by
  simpa [isLead] using h

theorem isTrail_eq_false {n : Nat} (h : ¬ (0xDC00 ≤ n ∧ n ≤ 0xDFFF)) : isTrail n = false := by
  simpa [isTrail] using h

/-- A unit that is a character of its own; no character is half of a pair. -/
theorem readString_char {c : Char} {ds : List Char} (h : UnitText ds c.toNat) (acc r : List Char) :
    readString .plain acc ('\\' :: 'u' :: (ds ++ r)) = readString .plain (c :: acc) r := by
  have hopen : ∀ t : List Char, readString .plain acc ('\\' :: 'u' :: t) =
      readString (.digits t none 0 0) acc t := fun t => rfl
  have hvalid : c.toNat < 0xD800 ∨ 0xDFFF < c.toNat ∧ c.toNat < 0x110000 := c.valid
  have hplain : isTrail c.toNat = false ∧ isLead c.toNat = false :=
    ⟨isTrail_eq_false (by omega), isLead_eq_false (by omega)⟩
  rw [hopen, readString_unit h]
  simp only [afterUnit, hplain, Bool.false_eq_true, if_false, Char.ofNat_toNat]

/-- Two units that are one character. -/
theorem readString_pair {c : Char} {ds ds' : List Char} {high low : Nat} (hhigh : high < 0x400)
    (hlow : low < 0x400) (hc : c.toNat = 0x10000 + 0x400 * high + low)
    (h : UnitText ds (0xD800 + high)) (h' : UnitText ds' (0xDC00 + low)) (acc r : List Char) :
    readString .plain acc ('\\' :: 'u' :: (ds ++ '\\' :: 'u' :: (ds' ++ r))) =
      readString .plain (c :: acc) r := by
  have hopen : ∀ t : List Char, readString .plain acc ('\\' :: 'u' :: t) =
      readString (.digits t none 0 0) acc t := fun t => rfl
  have hsecond : ∀ t : List Char, readString (.pair (0xD800 + high)) acc ('\\' :: 'u' :: t) =
      readString (.digits t (some (0xD800 + high)) 0 0) acc t := fun t => rfl
  have hlead : isLead (0xD800 + high) = true := by
    unfold isLead
    rw [Bool.and_eq_true, decide_eq_true_eq, decide_eq_true_eq]
    omega
  have htrail : isTrail (0xDC00 + low) = true := by
    unfold isTrail
    rw [Bool.and_eq_true, decide_eq_true_eq, decide_eq_true_eq]
    omega
  have hvalue : 0x10000 + 0x400 * (0xD800 + high - 0xD800) + (0xDC00 + low - 0xDC00) = c.toNat := by
    omega
  have hnotTrail : isTrail (0xD800 + high) = false := isTrail_eq_false (by omega)
  rw [hopen, readString_unit h]
  simp only [afterUnit, hnotTrail, hlead, Bool.false_eq_true, if_false, if_true]
  rw [hsecond, readString_unit h']
  simp only [afterUnit, htrail, if_true, hvalue, Char.ofNat_toNat]

/-! ## Strings -/

theorem readString_spells {s t : List Char} (h : Spells s t) (acc r : List Char) :
    readString .plain acc (t ++ '"' :: r) = .ok (String.ofList (acc.reverse ++ s), r) := by
  induction h generalizing acc with
  | nil =>
    rw [List.append_nil]
    rfl
  | @literal c s t hc _ ih =>
    obtain ⟨hcontrol, hquote, hbackslash⟩ := hc
    rw [List.cons_append, readString, if_neg (by simpa using hquote),
      if_neg (by simpa using hbackslash), if_neg (by omega), ih,
      List.reverse_cons, List.append_assoc, List.singleton_append]
  | @letter e c s t he _ ih =>
    have hopen : ∀ r, readString .plain acc ('\\' :: r) = readString .escape acc r := fun r => rfl
    rw [List.cons_append, List.cons_append, hopen, readString, if_neg (by simpa using he.ne_u),
      he.unescape?]
    dsimp only
    rw [ih, List.reverse_cons, List.append_assoc, List.singleton_append]
  | unit hds _ ih =>
    rw [List.cons_append, List.cons_append, List.append_assoc, readString_char hds, ih,
      List.reverse_cons, List.append_assoc, List.singleton_append]
  | pair hhigh hlow hc hds hds' _ ih =>
    simp only [List.cons_append, List.append_assoc]
    rw [readString_pair hhigh hlow hc hds hds', ih, List.reverse_cons, List.append_assoc,
      List.singleton_append]

/-- **Strings are read** as the texts that they stand for. -/
theorem stringTail_spells {s : String} {t : List Char} (h : Spells s.toList t) (r : List Char) :
    stringTail (t ++ '"' :: r) = .ok (s, r) := by
  unfold stringTail
  rw [readString_spells h, List.reverse_nil, List.nil_append, String.ofList_toList]

/-! ## Printed strings -/

/-- The escape of one character, in front of anything, spells it. -/
theorem spells_escapeChar (c : Char) {s t : List Char} (h : Spells s t) :
    Spells (c :: s) (escapeChar c ++ t) := by
  unfold escapeChar
  split_ifs with h1 h2 h3 h4 h5 h6 h7 h8
  · rw [beq_iff_eq.mp h1]
    exact .letter .quote h
  · rw [beq_iff_eq.mp h2]
    exact .letter .backslash h
  · rw [beq_iff_eq.mp h3]
    exact .letter .backspace h
  · rw [beq_iff_eq.mp h4]
    exact .letter .formFeed h
  · rw [beq_iff_eq.mp h5]
    exact .letter .newline h
  · rw [beq_iff_eq.mp h6]
    exact .letter .carriageReturn h
  · rw [beq_iff_eq.mp h7]
    exact .letter .tab h
  · have hunit : UnitText ['0', '0', hexDigit (c.toNat / 16), hexDigit (c.toNat % 16)] c.toNat := by
      have hvalue : c.toNat = 0x1000 * 0 + 0x100 * 0 + 0x10 * (c.toNat / 16) + c.toNat % 16 := by
        omega
      have hdigits := UnitText.mk (hexValue?_hexDigit (d := 0) (by omega))
        (hexValue?_hexDigit (d := 0) (by omega))
        (hexValue?_hexDigit (d := c.toNat / 16) (by omega))
        (hexValue?_hexDigit (d := c.toNat % 16) (by omega))
      rwa [← hvalue] at hdigits
    exact .unit hunit h
  · have hliteral : Literal c := ⟨by omega, by simpa using h1, by simpa using h2⟩
    exact .literal hliteral h

theorem spells_escaped (s : List Char) : Spells s (s.flatMap escapeChar) := by
  induction s with
  | nil => exact .nil
  | cons c s ih => exact spells_escapeChar c ih

theorem stringText_quote (s : String) : StringText s (quote s.toList) :=
  ⟨_, spells_escaped s.toList, rfl⟩

/-- **Strings read back**: behind its opening quote the text of a string is read as the string. -/
theorem stringTail_quote (s : String) (r : List Char) :
    stringTail (s.toList.flatMap escapeChar ++ '"' :: r) = .ok (s, r) :=
  stringTail_spells (spells_escaped s.toList) r

theorem quote_append (s : String) (r : List Char) :
    quote s.toList ++ r = '"' :: (s.toList.flatMap escapeChar ++ '"' :: r) := by
  simp [quote]

end UserDirectory.Json
