import Mathlib.Tactic.SplitIfs
import UserDirectory.Text.Utf8

/-!
# Proofs.Text.Utf8 — the bytes of a text decode to the text

* `decodeFrom_next`, `decodeFrom_last`: one byte of a character that is partly read.
* `decodeFrom_charBytes`: the bytes of a character decode to it, whatever follows them.
* `ofBytes_bytes`: the bytes of a text decode to it.
* `ofOctets?_eq_some_iff`: octets are read as a text iff they are its bytes.
* `charBytes_of_ascii`, `le_of_mem_charBytes`: characters below U+0080 are their own bytes, and
  the bytes of all others are above them.
-/

namespace UserDirectory.Text

/-! ## Bytes of characters -/

/-- A character is a number below 0x110000 that is no surrogate. -/
theorem toNat_lt_or (c : Char) : c.toNat < 0xD800 ∨ 0xDFFF < c.toNat ∧ c.toNat < 0x110000 :=
  c.valid

theorem charBytes_of_ascii {c : Char} (h : c.toNat < 0x80) : charBytes c = [c.toNat] := by
  unfold charBytes
  dsimp only
  rw [if_pos h]

theorem le_of_mem_charBytes {c : Char} (h : 0x80 ≤ c.toNat) {b : Nat} (hb : b ∈ charBytes c) :
    0x80 ≤ b := by
  unfold charBytes at hb
  dsimp only at hb
  split_ifs at hb with h1 h2 h3
  all_goals
    simp only [List.mem_cons, List.not_mem_nil, or_false] at hb
    omega

theorem lt_of_mem_bytes {t : List Char} {b : Nat} (hb : b ∈ bytes t) : b < 0x100 := by
  unfold bytes at hb
  obtain ⟨c, -, hb⟩ := List.mem_flatMap.mp hb
  have hvalid := toNat_lt_or c
  unfold charBytes at hb
  dsimp only at hb
  split_ifs at hb with h1 h2 h3
  all_goals
    simp only [List.mem_cons, List.not_mem_nil, or_false] at hb
    omega

theorem bytes_cons (c : Char) (t : List Char) : bytes (c :: t) = charBytes c ++ bytes t :=
  List.flatMap_cons

/-! ## One byte -/

section Byte

variable {acc : List Char} {p : PendingChar} {b : Nat} {r : List Nat}

theorem decodeFrom_char {c : Char} (h : firstByte b = .char c) :
    decodeFrom acc none (b :: r) = decodeFrom (c :: acc) none r := by
  rw [decodeFrom, h]

theorem decodeFrom_start (h : firstByte b = .start p) :
    decodeFrom acc none (b :: r) = decodeFrom acc (some p) r := by
  rw [decodeFrom, h]

/-- A byte within the bounds with more to come. -/
theorem decodeFrom_next (hlow : p.low ≤ b) (hhigh : b ≤ p.high) (howed : 1 < p.owed) :
    decodeFrom acc (some p) (b :: r) =
      decodeFrom acc (some ⟨p.owed - 1, 0x80, 0xBF, 0x40 * p.bits + (b - 0x80)⟩) r := by
  rw [decodeFrom, if_pos ⟨hlow, hhigh⟩]
  dsimp only
  rw [if_neg (by omega)]

/-- The last byte, within the bounds. -/
theorem decodeFrom_last (hlow : p.low ≤ b) (hhigh : b ≤ p.high) (howed : p.owed = 1) :
    decodeFrom acc (some p) (b :: r) =
      decodeFrom (Char.ofNat (0x40 * p.bits + (b - 0x80)) :: acc) none r := by
  rw [decodeFrom, if_pos ⟨hlow, hhigh⟩]
  dsimp only
  rw [if_pos (by omega)]

end Byte

/-! ## First bytes -/

section First

variable {n : Nat}

theorem firstByte_one (h : n < 0x80) : firstByte n = .char (Char.ofNat n) := by
  unfold firstByte
  rw [if_pos h]

theorem firstByte_two (h : 0x80 ≤ n) (h' : n < 0x800) :
    firstByte (0xC0 + n / 0x40) = .start ⟨1, 0x80, 0xBF, n / 0x40⟩ := by
  unfold firstByte
  rw [if_neg (by omega), if_neg (by omega), if_pos (by omega), Nat.add_sub_cancel_left]

/-- The bounds after the first of three bytes let the second one through. -/
theorem firstByte_three (h : 0x800 ≤ n) (h' : n < 0x10000) (hn : n < 0xD800 ∨ 0xDFFF < n) :
    ∃ low high, firstByte (0xE0 + n / 0x1000) = .start ⟨2, low, high, n / 0x1000⟩ ∧
      low ≤ 0x80 + n / 0x40 % 0x40 ∧ 0x80 + n / 0x40 % 0x40 ≤ high := by
  have hthree : 0xE0 + n / 0x1000 < 0xF0 := by omega
  unfold firstByte
  rw [if_neg (by omega), if_neg (by omega), if_neg (by omega), if_pos hthree]
  split_ifs with he0 hed
  · have hbits : n / 0x1000 = 0 := by omega
    rw [hbits]
    exact ⟨_, _, rfl, by omega, by omega⟩
  · have hbits : n / 0x1000 = 0xD := by omega
    rw [hbits]
    exact ⟨_, _, rfl, by omega, by omega⟩
  · rw [Nat.add_sub_cancel_left]
    exact ⟨_, _, rfl, by omega, by omega⟩

/-- The bounds after the first of four bytes let the second one through. -/
theorem firstByte_four (h : 0x10000 ≤ n) (h' : n < 0x110000) :
    ∃ low high, firstByte (0xF0 + n / 0x40000) = .start ⟨3, low, high, n / 0x40000⟩ ∧
      low ≤ 0x80 + n / 0x1000 % 0x40 ∧ 0x80 + n / 0x1000 % 0x40 ≤ high := by
  unfold firstByte
  rw [if_neg (by omega), if_neg (by omega), if_neg (by omega), if_neg (by omega),
    if_neg (by omega), if_neg (by omega)]
  split_ifs with hf0 hlt hf4
  · have hbits : n / 0x40000 = 0 := by omega
    rw [hbits]
    exact ⟨_, _, rfl, by omega, by omega⟩
  · rw [Nat.add_sub_cancel_left]
    exact ⟨_, _, rfl, by omega, by omega⟩
  · have hbits : n / 0x40000 = 4 := by omega
    rw [hbits]
    exact ⟨_, _, rfl, by omega, by omega⟩
  · omega

end First

/-! ## Whole characters -/

theorem decodeFrom_charBytes (acc : List Char) (c : Char) (r : List Nat) :
    decodeFrom acc none (charBytes c ++ r) = decodeFrom (c :: acc) none r := by
  have hvalid := toNat_lt_or c
  have hchar := Char.ofNat_toNat c
  generalize hn : c.toNat = n at hvalid hchar
  unfold charBytes
  dsimp only
  rw [hn]
  by_cases h1 : n < 0x80
  · rw [if_pos h1, List.singleton_append, decodeFrom_char (firstByte_one h1), hchar]
  by_cases h2 : n < 0x800
  · have hbits : 0x40 * (n / 0x40) + (0x80 + n % 0x40 - 0x80) = n := by omega
    rw [if_neg h1, if_pos h2, List.cons_append, List.singleton_append,
      decodeFrom_start (firstByte_two (by omega) h2),
      decodeFrom_last (by dsimp only; omega) (by dsimp only; omega) rfl]
    dsimp only
    rw [hbits, hchar]
  by_cases h3 : n < 0x10000
  · obtain ⟨low, high, hfirst, hlow, hhigh⟩ := firstByte_three (by omega) h3 (by omega)
    have hbits : 0x40 * (0x40 * (n / 0x1000) + (0x80 + n / 0x40 % 0x40 - 0x80)) +
        (0x80 + n % 0x40 - 0x80) = n := by omega
    rw [if_neg h1, if_neg h2, if_pos h3, List.cons_append, List.cons_append,
      List.singleton_append, decodeFrom_start hfirst,
      decodeFrom_next hlow hhigh (Nat.lt_add_one 1),
      decodeFrom_last (by dsimp only; omega) (by dsimp only; omega) rfl]
    dsimp only
    rw [hbits, hchar]
  · obtain ⟨low, high, hfirst, hlow, hhigh⟩ := firstByte_four (n := n) (by omega) (by omega)
    have hbits : 0x40 * (0x40 * (0x40 * (n / 0x40000) + (0x80 + n / 0x1000 % 0x40 - 0x80)) +
        (0x80 + n / 0x40 % 0x40 - 0x80)) + (0x80 + n % 0x40 - 0x80) = n := by omega
    rw [if_neg h1, if_neg h2, if_neg h3, List.cons_append, List.cons_append, List.cons_append,
      List.singleton_append, decodeFrom_start hfirst,
      decodeFrom_next hlow hhigh (by show 1 < 3; omega),
      decodeFrom_next (by dsimp only; omega) (by dsimp only; omega) (Nat.lt_add_one 1),
      decodeFrom_last (by dsimp only; omega) (by dsimp only; omega) rfl]
    dsimp only
    rw [hbits, hchar]

/-! ## Whole texts -/

theorem decodeFrom_bytes (acc t : List Char) :
    decodeFrom acc none (bytes t) = acc.reverse ++ t := by
  induction t generalizing acc with
  | nil => exact (List.append_nil acc.reverse).symm
  | cons c t ih => rw [bytes_cons, decodeFrom_charBytes, ih, List.reverse_cons, List.append_assoc,
      List.singleton_append]

/-- **The bytes of a text decode to the text.** -/
theorem ofBytes_bytes (t : List Char) : ofBytes (bytes t) = t := decodeFrom_bytes [] t

theorem isUtf8_bytes (t : List Char) : isUtf8 (bytes t) = true := by
  unfold isUtf8
  rw [ofBytes_bytes]
  exact beq_self_eq_true (bytes t)

/-! ## Octets -/

theorem map_toNat_octets (t : List Char) : (octets t).map UInt8.toNat = bytes t := by
  unfold octets
  rw [List.map_map]
  have hbyte : ∀ b ∈ bytes t, (UInt8.toNat ∘ UInt8.ofNat) b = id b := fun b hb =>
    UInt8.toNat_ofNat_of_lt (lt_of_mem_bytes hb)
  rw [List.map_congr_left hbyte, List.map_id]

theorem ofOctets?_octets (t : List Char) : ofOctets? (octets t) = some t := by
  unfold ofOctets?
  dsimp only
  rw [map_toNat_octets, isUtf8_bytes, ofBytes_bytes]
  rfl

/-- **Octets are read as a text iff they are its bytes**, so one text at most is read. -/
theorem ofOctets?_eq_some_iff {bs : List UInt8} {t : List Char} :
    ofOctets? bs = some t ↔ bs = octets t := by
  refine ⟨fun h => ?_, fun h => h ▸ ofOctets?_octets t⟩
  unfold ofOctets? isUtf8 at h
  dsimp only at h
  split at h
  · next hbytes =>
    have hsame : UInt8.ofNat ∘ UInt8.toNat = id := funext fun b => UInt8.ofNat_toNat
    obtain rfl := Option.some.inj h
    unfold octets
    rw [eq_of_beq hbytes, List.map_map, hsame, List.map_id]
  · cases h

end UserDirectory.Text
