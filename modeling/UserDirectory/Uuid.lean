import UserDirectory.Keyed
import UserDirectory.Number
import UserDirectory.Text.Utf8

/-!
# Uuid — 128-bit identifiers

* `Uuid.text`: five groups of lower-case hexadecimal digits.
* `Uuid.read`: that form, also in braces or behind `urn:uuid:`, or 32 digits without hyphens, in
  either case.
* `Uuid.diagnose`: why a text that is none of these is none.
-/

namespace UserDirectory

/-- An identifier, ordered as a number. -/
structure Uuid where
  value : Nat
  lt : value < twoPow 128
deriving DecidableEq, Repr

instance : LT Uuid := ⟨fun a b => a.value < b.value⟩

instance : DecidableLT Uuid := fun a b => inferInstanceAs (Decidable (a.value < b.value))

instance : KeyOrder Uuid where
  irrefl a := Nat.lt_irrefl a.value
  trans h h' := Nat.lt_trans h h'
  eq_of_not_lt {a b} h h' := by
    cases a; cases b
    exact Uuid.mk.injEq .. ▸ Nat.le_antisymm (Nat.not_lt.1 h') (Nat.not_lt.1 h)

/-- Why a text is not an identifier. -/
inductive UuidFault where
  | length (found : Nat)
  | character (found : Char) (offset : Nat)
  | groupCount (found : Nat)
  | groupLength (group expected found : Nat)
deriving DecidableEq, Repr

/-- The words for a fault. -/
def UuidFault.message : UuidFault → String
  | .length found => "invalid length: found " ++ found.repr
  | .character found offset =>
    "invalid character: found `" ++ found.toString ++ "` at " ++ offset.repr
  | .groupCount found => "invalid group count: expected 5, found " ++ found.repr
  | .groupLength group expected found =>
    "invalid group length in group " ++ group.repr ++ ": expected " ++ expected.repr ++ ", found "
      ++ found.repr

namespace Uuid

open Text

/-- The identifier with the number, which is reduced to 128 bits. -/
def ofNat (n : Nat) : Uuid := ⟨n % twoPow 128, Nat.mod_lt _ (twoPow_pos 128)⟩

/-! ## Text -/

/-- The hexadecimal digits of an identifier. -/
def digits (u : Uuid) : List Char := fixedHex 32 u.value

/-- The text of an identifier. -/
def text (u : Uuid) : List Char :=
  let ds := u.digits
  ds.take 8 ++ '-' :: ((ds.drop 8).take 4 ++ '-' :: ((ds.drop 12).take 4 ++ '-' ::
    ((ds.drop 16).take 4 ++ '-' :: ds.drop 20)))

/-- The text of an identifier as a string. -/
def toString (u : Uuid) : String := String.ofList u.text

/-! ## Reading -/

/-- Whether a character is a hexadecimal digit. -/
def isHex (c : Char) : Bool := (hexValue? c).isSome

/-- The identifier of 32 digits. -/
def ofDigits? (ds : List Char) : Option Uuid :=
  if ds.length = 32 ∧ ds.all isHex then some (ofNat (natOfHex ds)) else none

/-- The places of the hyphens among the 36 characters. -/
def isHyphenPlace (i : Nat) : Bool := i == 8 || i == 13 || i == 18 || i == 23

/-- The identifier of 36 characters, hyphens at their places. -/
def ofGroups? (t : List Char) : Option Uuid :=
  let hyphensInPlace := t.zipIdx.all fun (c, i) => (c == '-') == isHyphenPlace i
  if t.length = 36 ∧ hyphensInPlace then ofDigits? (t.filter (· != '-')) else none

/-- The letters before an identifier that is written as a name. -/
def urn : List Char := ['u', 'r', 'n', ':', 'u', 'u', 'i', 'd', ':']

/-- What follows `urn:uuid:`, in either case. -/
def afterUrn? (t : List Char) : Option (List Char) :=
  if (t.take 9).map Char.toLower = urn then some (t.drop 9) else none

/-- What stands between braces. -/
def insideBraces? : List Char → Option (List Char)
  | '\x7b' :: r => if r.getLast? = some '\x7d' then some r.dropLast else none
  | _ => none

/-- The part of a text that is taken for the five groups because of the text's length. -/
def groups? (t : List Char) : Option (List Char) :=
  let n := byteLength t
  if n = 36 then some t
  else if n = 38 then insideBraces? t
  else if n = 45 then afterUrn? t
  else none

/-- The identifier that a text writes. -/
def ofText? (t : List Char) : Option Uuid :=
  match groups? t with
  | some g => ofGroups? g
  | none => ofDigits? t

/-! ## Faults -/

/-- The first character that is neither a digit nor a hyphen, with its offset in bytes from
`offset` on. -/
def strayCharacter? (offset : Nat) : List Char → Option (Char × Nat)
  | [] => none
  | c :: r => if isHex c || c == '-' then strayCharacter? (offset + c.utf8Size) r
    else some (c, offset)

/-- The places of the hyphens. -/
def hyphens (t : List Char) : List Nat :=
  t.zipIdx.filterMap fun (c, i) => if c == '-' then some i else none

/-- The first of the four hyphens that is not at its place: its group, the length of that group,
and the length found. -/
def misplaced? (places : List Nat) : Option (Nat × Nat × Nat) :=
  let expected := [(0, 8, 0), (1, 4, 9), (2, 4, 14), (3, 4, 19)]
  (expected.zip places).findSome? fun ((group, length, start), place) =>
    if place = start + length then none else some (group, length, place - start)

/-- Why a text is not an identifier. -/
def diagnose (t : List Char) : UuidFault :=
  let whole := (groups? t).getD t
  let n := byteLength whole
  if n = 0 || n > 45 then .length n
  else
    let (part, offset, known) :=
      if (groups? t).isSome then (whole, 0, true)
      else
        match insideBraces? whole, afterUrn? whole with
        | some inner, _ => (inner, 1, true)
        | none, some inner => (inner, 9, true)
        | none, none => (whole, 0, false)
    match strayCharacter? offset part with
    | some (c, offset) => .character c offset
    | none =>
      let places := hyphens part
      if !known && places.isEmpty then .length n
      else if places.length ≠ 4 then .groupCount (places.length + 1)
      else
        match misplaced? places with
        | some (group, expected, found) => .groupLength group expected found
        | none => .groupLength 4 12 (n - 24)

/-- The identifier that a text writes, or why it writes none. -/
def read (t : List Char) : Except UuidFault Uuid :=
  match ofText? t with
  | some u => .ok u
  | none => .error (diagnose t)

end Uuid
end UserDirectory
