/-!
# Text.Utf8 — texts as bytes

* `byteLength t`: the number of bytes of `t`.
* `bytes t`: the bytes of `t`, as naturals.
* `ofBytes`: the text of any bytes; what is not UTF-8 becomes U+FFFD, one for each longest run of
  bytes that could have started a character.
* `octets t`, `ofOctets?`: the bytes of `t` as they are sent, and the text that they are read as,
  which is none if they are not UTF-8.
-/

namespace UserDirectory.Text

/-- The number of bytes of a text. -/
def byteLength (t : List Char) : Nat := t.foldl (fun n c => n + c.utf8Size) 0

/-- The bytes of a character. -/
def charBytes (c : Char) : List Nat :=
  let n := c.toNat
  if n < 0x80 then [n]
  else if n < 0x800 then [0xC0 + n / 0x40, 0x80 + n % 0x40]
  else if n < 0x10000 then [0xE0 + n / 0x1000, 0x80 + n / 0x40 % 0x40, 0x80 + n % 0x40]
  else
    [0xF0 + n / 0x40000, 0x80 + n / 0x1000 % 0x40, 0x80 + n / 0x40 % 0x40, 0x80 + n % 0x40]

/-- The bytes of a text. -/
def bytes (t : List Char) : List Nat := t.flatMap charBytes

/-- A character of which some bytes have been read: how many are owed, the bounds of the next
one, and the bits so far. -/
structure PendingChar where
  owed : Nat
  low : Nat
  high : Nat
  bits : Nat
deriving DecidableEq, Repr

/-- What a first byte says: a whole character, the start of one, or nothing. -/
inductive FirstByte where
  | char (c : Char)
  | start (p : PendingChar)
  | invalid

/-- Reads a first byte. -/
def firstByte (b : Nat) : FirstByte :=
  if b < 0x80 then .char (Char.ofNat b)
  else if b < 0xC2 then .invalid
  else if b < 0xE0 then .start ⟨1, 0x80, 0xBF, b - 0xC0⟩
  else if b = 0xE0 then .start ⟨2, 0xA0, 0xBF, 0⟩
  else if b = 0xED then .start ⟨2, 0x80, 0x9F, 0xD⟩
  else if b < 0xF0 then .start ⟨2, 0x80, 0xBF, b - 0xE0⟩
  else if b = 0xF0 then .start ⟨3, 0x90, 0xBF, 0⟩
  else if b < 0xF4 then .start ⟨3, 0x80, 0xBF, b - 0xF0⟩
  else if b = 0xF4 then .start ⟨3, 0x80, 0x8F, 4⟩
  else .invalid

/-- The character that stands for bytes that are none. -/
def replacement : Char := Char.ofNat 0xFFFD

/-- Decodes bytes behind a character that may be partly read; `acc` holds the characters so far,
the last one first. -/
def decodeFrom (acc : List Char) : Option PendingChar → List Nat → List Char
  | none, [] => acc.reverse
  | some _, [] => (replacement :: acc).reverse
  | some p, b :: r =>
    if p.low ≤ b ∧ b ≤ p.high then
      let bits := 0x40 * p.bits + (b - 0x80)
      if p.owed ≤ 1 then decodeFrom (Char.ofNat bits :: acc) none r
      else decodeFrom acc (some ⟨p.owed - 1, 0x80, 0xBF, bits⟩) r
    else
      match firstByte b with
      | .char c => decodeFrom (c :: replacement :: acc) none r
      | .start q => decodeFrom (replacement :: acc) (some q) r
      | .invalid => decodeFrom (replacement :: replacement :: acc) none r
  | none, b :: r =>
    match firstByte b with
    | .char c => decodeFrom (c :: acc) none r
    | .start q => decodeFrom acc (some q) r
    | .invalid => decodeFrom (replacement :: acc) none r

/-- The text of any bytes. -/
def ofBytes (bs : List Nat) : List Char := decodeFrom [] none bs

/-- Whether bytes are those of a text. -/
def isUtf8 (bs : List Nat) : Bool := bytes (ofBytes bs) == bs

/-- A text as it is sent. -/
def octets (t : List Char) : List UInt8 := (bytes t).map UInt8.ofNat

/-- The text that is sent, if it is one. -/
def ofOctets? (bs : List UInt8) : Option (List Char) :=
  let bytes := bs.map UInt8.toNat
  if isUtf8 bytes then some (ofBytes bytes) else none

end UserDirectory.Text
