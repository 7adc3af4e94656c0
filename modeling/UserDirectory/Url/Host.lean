import UserDirectory.Number

/-!
# Url.Host — the hosts of URLs

* `Host`: a name, or an IPv6 address as its eight pieces.
* `Host.read?`: the host that a text writes; an address stands in brackets.
* `ipv6?`: the address that a text writes, `::` standing for a run of zeros, the last two pieces
  possibly as four decimal numbers.
-/

namespace UserDirectory.Url

open Text (hexValue? natOfHex)

/-- Who a URL leads to. -/
inductive Host where
  | name (t : List Char)
  | ipv6 (pieces : List Nat)
deriving DecidableEq, Repr

/-! ## Addresses -/

/-- A number below 256, in digits without a leading zero. -/
def octet? (t : List Char) : Option Nat :=
  if t.length ≤ 3 && (t.length == 1 || t.head? != some '0') then Text.natural? 256 t else none

/-- The two pieces that four decimal numbers with points between them are. -/
def dotted? (t : List Char) : Option (List Nat) :=
  match (t.splitOn '.').mapM octet? with
  | some [a, b, c, d] => some [256 * a + b, 256 * c + d]
  | _ => none

/-- The piece that one to four hexadecimal digits write. -/
def piece? (t : List Char) : Option Nat :=
  if 1 ≤ t.length && t.length ≤ 4 && t.all (fun c => (hexValue? c).isSome) then some (natOfHex t)
  else none

/-- The pieces between colons; the last part may be in decimal numbers. -/
def pieces? : List (List Char) → Option (List Nat)
  | [] => some []
  | [t] => if t.contains '.' then dotted? t else (piece? t).map ([·])
  | t :: r => do return (← piece? t) :: (← pieces? r)

/-- The pieces of one side of the run of zeros, which may be empty. -/
def side? (t : List Char) : Option (List Nat) := if t.isEmpty then some [] else pieces? (t.splitOn ':')

/-- Splits a text before and after its first two colons in a row. -/
def splitAtGap? : List Char → Option (List Char × List Char)
  | [] => none
  | ':' :: ':' :: r => some ([], r)
  | c :: r => (splitAtGap? r).map fun (left, right) => (c :: left, right)

/-- The address that a text writes; the run of zeros stands for one piece at least. -/
def ipv6? (t : List Char) : Option (List Nat) :=
  match splitAtGap? t with
  | none => (side? t).filter (·.length == 8)
  | some (left, right) => do
    let left ← if left.contains '.' then none else side? left
    let right ← side? right
    let zeros := 8 - (left.length + right.length)
    if zeros = 0 then none else some (left ++ List.replicate zeros 0 ++ right)

/-! ## Hosts -/

/-- A character that no name of a host has. -/
def isForbidden (c : Char) : Bool :=
  c.toNat == 0 || [' ', '#', '/', ':', '<', '>', '?', '@', '[', '\\', ']', '^', '|'].contains c

/-- The host that a text writes; an empty text is an empty name. -/
def Host.read? (t : List Char) : Option Host :=
  match t with
  | '[' :: r =>
    if r.getLast? == some ']' then (ipv6? r.dropLast).map .ipv6 else none
  | t => if t.any isForbidden then none else some (.name t)

end UserDirectory.Url
