import Mathlib.Tactic.Common
import UserDirectory.Json.Scanner

/-!
# Proofs.Json.Grammar — which texts are JSON, as rules

* `NumberText t`, `Inside t`, `ValueText t`: `t` is a number, what stands between the quotes of a
  string, or a value of any depth.
* `Spells s t`: between quotes `t` stands for the text `s`.  Half of a surrogate pair that stands
  alone may be written, but stands for nothing.
* `ObjectText ms t`: `t` is an object with the members `ms`, their names as texts and their values
  as they are written.

The rules say what may stand where and nothing on how to find it.
-/

namespace UserDirectory.Json

open Text (hexValue?)

/-- White space between tokens, or nothing. -/
def Blanks (t : List Char) : Prop := ∀ c ∈ t, c = ' ' ∨ c = '\t' ∨ c = '\n' ∨ c = '\r'

instance (t : List Char) : Decidable (Blanks t) :=
  List.decidableBAll (fun c => c = ' ' ∨ c = '\t' ∨ c = '\n' ∨ c = '\r') t

/-- White space around a token. -/
inductive Padded (x : List Char) : List Char → Prop
  | mk {b b'} : Blanks b → Blanks b' → Padded x (b ++ (x ++ b'))

theorem Padded.self (x : List Char) : Padded x x := by
  have hpadded : Padded x ([] ++ (x ++ [])) := .mk (by decide) (by decide)
  rwa [List.nil_append, List.append_nil] at hpadded

/-! ## Numbers -/

/-- One decimal digit or more. -/
def Digits (t : List Char) : Prop := t ≠ [] ∧ ∀ c ∈ t, c.isDigit = true

instance (t : List Char) : Decidable (Digits t) :=
  have : Decidable (∀ c ∈ t, c.isDigit = true) := List.decidableBAll _ t
  instDecidableAnd

/-- The digits before the point: zero, or digits that do not start with it. -/
inductive WholeText : List Char → Prop
  | zero : WholeText ['0']
  | digits {c t} : c ≠ '0' → Digits (c :: t) → WholeText (c :: t)

/-- A point with digits, or nothing. -/
inductive FractionText : List Char → Prop
  | none : FractionText []
  | digits {t} : Digits t → FractionText ('.' :: t)

/-- An exponent, or nothing. -/
inductive ExponentText : List Char → Prop
  | none : ExponentText []
  | plain {e t} : e = 'e' ∨ e = 'E' → Digits t → ExponentText (e :: t)
  | signed {e sign t} : e = 'e' ∨ e = 'E' → sign = '+' ∨ sign = '-' → Digits t →
    ExponentText (e :: sign :: t)

/-- A number of any size. -/
inductive NumberText : List Char → Prop
  | positive {w f e} : WholeText w → FractionText f → ExponentText e → NumberText (w ++ (f ++ e))
  | negative {w f e} : WholeText w → FractionText f → ExponentText e →
    NumberText ('-' :: (w ++ (f ++ e)))

/-! ## Strings -/

/-- `Letter e c`: behind a backslash, `e` stands for `c`. -/
inductive Letter : Char → Char → Prop
  | quote : Letter '"' '"'
  | backslash : Letter '\\' '\\'
  | slash : Letter '/' '/'
  | backspace : Letter 'b' '\x08'
  | formFeed : Letter 'f' '\x0c'
  | newline : Letter 'n' '\n'
  | carriageReturn : Letter 'r' '\r'
  | tab : Letter 't' '\t'

/-- A character that stands for itself. -/
def Literal (c : Char) : Prop := 0x20 ≤ c.toNat ∧ c ≠ '"' ∧ c ≠ '\\'

instance (c : Char) : Decidable (Literal c) :=
  inferInstanceAs (Decidable (0x20 ≤ c.toNat ∧ c ≠ '"' ∧ c ≠ '\\'))

/-- Four hexadecimal digits that write a UTF-16 unit. -/
inductive UnitText : List Char → Nat → Prop
  | mk {a b c d i j k l} : hexValue? a = some i → hexValue? b = some j → hexValue? c = some k →
    hexValue? d = some l → UnitText [a, b, c, d] (0x1000 * i + 0x100 * j + 0x10 * k + l)

/-- What may stand between quotes. -/
inductive Inside : List Char → Prop
  | nil : Inside []
  | literal {c t} : Literal c → Inside t → Inside (c :: t)
  | letter {e c t} : Letter e c → Inside t → Inside ('\\' :: e :: t)
  | unit {ds n t} : UnitText ds n → Inside t → Inside ('\\' :: 'u' :: (ds ++ t))

/-- `Spells s t`: between quotes, `t` stands for `s`.  A character beyond the first 65536 may be
escaped as a surrogate pair. -/
inductive Spells : List Char → List Char → Prop
  | nil : Spells [] []
  | literal {c s t} : Literal c → Spells s t → Spells (c :: s) (c :: t)
  | letter {e c s t} : Letter e c → Spells s t → Spells (c :: s) ('\\' :: e :: t)
  | unit {c : Char} {ds s t} : UnitText ds c.toNat → Spells s t →
    Spells (c :: s) ('\\' :: 'u' :: (ds ++ t))
  | pair {c : Char} {ds ds' high low s t} : high < 0x400 → low < 0x400 →
    c.toNat = 0x10000 + 0x400 * high + low → UnitText ds (0xD800 + high) →
    UnitText ds' (0xDC00 + low) → Spells s t →
    Spells (c :: s) ('\\' :: 'u' :: (ds ++ '\\' :: 'u' :: (ds' ++ t)))

theorem Spells.inside {s t : List Char} (h : Spells s t) : Inside t := by
  induction h with
  | nil => exact .nil
  | literal hc _ ih => exact .literal hc ih
  | letter he _ ih => exact .letter he ih
  | unit hds _ ih => exact .unit hds ih
  | pair _ _ _ hds hds' _ ih => exact .unit hds (.unit hds' ih)

/-- A string, from quote to quote. -/
def quoted (inside : List Char) : List Char := '"' :: (inside ++ ['"'])

/-- A string that stands for the text. -/
def StringText (s : String) (v : List Char) : Prop := ∃ t, Spells s.toList t ∧ v = quoted t

/-! ## Values -/

/-- Texts of items with commas between them, or white space if there are none. -/
inductive Listed {α : Type} (Item : α → List Char → Prop) : List α → List Char → Prop
  | none {b} : Blanks b → Listed Item [] b
  | one {a t} : Item a t → Listed Item [a] t
  | more {a a' as t u} : Item a t → Listed Item (a' :: as) u →
    Listed Item (a :: a' :: as) (t ++ ',' :: u)

/-- A member: the inside of its name, and the text of its value. -/
inductive MemberText (m : List Char × List Char) : List Char → Prop
  | mk {name value} : Padded (quoted m.1) name → Padded m.2 value →
    MemberText m (name ++ ':' :: value)

/-- The values that are words. -/
def words : List (List Char) :=
  [['n', 'u', 'l', 'l'], ['t', 'r', 'u', 'e'], ['f', 'a', 'l', 's', 'e']]

/-- A value of any kind and depth. -/
inductive ValueText : List Char → Prop
  | word {w} : w ∈ words → ValueText w
  | number {t} : NumberText t → ValueText t
  | string {t} : Inside t → ValueText (quoted t)
  | array {vs t} : Listed Padded vs t → (∀ v ∈ vs, ValueText v) → ValueText ('[' :: (t ++ [']']))
  | object {ms t} : Listed MemberText ms t → (∀ m ∈ ms, Inside m.1) → (∀ m ∈ ms, ValueText m.2) →
    ValueText ('\x7b' :: (t ++ ['\x7d']))

/-- A member whose name stands for a text. -/
inductive NamedMember (m : String × List Char) : List Char → Prop
  | mk {name t} : Spells m.1.toList name → MemberText (name, m.2) t → NamedMember m t

/-- A whole text that is an object with the members, in their order. -/
inductive ObjectText (ms : List (String × List Char)) : List Char → Prop
  | mk {t u} : Listed NamedMember ms t → (∀ m ∈ ms, ValueText m.2) →
    Padded ('\x7b' :: (t ++ ['\x7d'])) u → ObjectText ms u

theorem ObjectText.values {ms : List (String × List Char)} {t : List Char} (h : ObjectText ms t) :
    ∀ m ∈ ms, ValueText m.2 := by
  obtain ⟨-, hvalues, -⟩ := h
  exact hvalues

/-! ## White space as it is skipped -/

theorem isBlank_iff {c : Char} :
    isBlank c = true ↔ c = ' ' ∨ c = '\t' ∨ c = '\n' ∨ c = '\r' := by
  unfold isBlank
  simp only [Bool.or_eq_true, beq_iff_eq]
  tauto

theorem Blanks.tail {c : Char} {b : List Char} (h : Blanks (c :: b)) : Blanks b :=
  fun x hx => h x (List.mem_cons_of_mem c hx)

theorem skipBlanks_blanks {b : List Char} (hb : Blanks b) (rest : List Char) :
    skipBlanks (b ++ rest) = skipBlanks rest :=
  List.dropWhile_append_of_pos fun c hc => isBlank_iff.mpr (hb c hc)

theorem skipBlanks_cons {c : Char} (hc : isBlank c = false) (r : List Char) :
    skipBlanks (c :: r) = c :: r := List.dropWhile_cons_of_neg (by simp [hc])

end UserDirectory.Json
