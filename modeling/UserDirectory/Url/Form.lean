import UserDirectory.Number
import UserDirectory.Text.Utf8

/-!
# Url.Form — escapes in paths, and the names and values in a query

* `unescape`: puts the byte for each `%` and two hexadecimal digits; any other `%` stays.
* `unescapeText`, `isDecodable`: the text of the bytes that come out, and whether they are one.
* `Form.pairs`: the names and values of a form, which `&` separates; a plus sign is a blank.
-/

namespace UserDirectory.Url

/-! ## Escapes -/

open Text (hexValue?)

/-- The byte of two hexadecimal digits. -/
def escapedByte? (high low : Nat) : Option Nat := do
  let h ← hexValue? (Char.ofNat high)
  let l ← hexValue? (Char.ofNat low)
  return 16 * h + l

/-- The bytes with their escapes undone, but for those of bytes that are kept escaped; `acc`
holds the bytes so far, the last one first. -/
def unescapeFrom (keep : Nat → Bool) (acc : List Nat) : List Nat → List Nat
  | 0x25 :: high :: low :: r =>
    match escapedByte? high low with
    | some b =>
      if keep b then unescapeFrom keep (low :: high :: 0x25 :: acc) r
      else unescapeFrom keep (b :: acc) r
    | none => unescapeFrom keep (0x25 :: acc) (high :: low :: r)
  | b :: r => unescapeFrom keep (b :: acc) r
  | [] => acc.reverse

/-- The bytes with all escapes undone. -/
def unescape (bs : List Nat) : List Nat := unescapeFrom (fun _ => false) [] bs

/-- The text with all escapes undone. -/
def unescapeText (t : List Char) : List Char := Text.ofBytes (unescape (Text.bytes t))

/-- Whether a text is UTF-8 once its escapes are undone. -/
def isDecodable (t : List Char) : Bool := Text.isUtf8 (unescape (Text.bytes t))

/-! ## Forms -/

namespace Form

/-- The text of an encoded name or value. -/
def decode (t : List Char) : List Char :=
  unescapeText (t.map fun c => if c == '+' then ' ' else c)

/-- A name and its value, which is empty if there is no equals sign. -/
def pair (part : List Char) : List Char × List Char :=
  (decode (part.takeWhile (· != '=')), decode ((part.dropWhile (· != '=')).drop 1))

/-- The names and values of a form; empty parts are none. -/
def pairs (t : List Char) : List (List Char × List Char) :=
  ((t.splitOn '&').filter (!·.isEmpty)).map pair

end Form
end UserDirectory.Url
