import Mathlib.Tactic.Common
import UserDirectory.Mailbox

/-!
# Proofs.Mailbox.Grammar — which texts are mailboxes, as rules

* `Atext`, `Qtext`, `Dtext`: the characters of atoms, quoted strings and domain literals.
* `DotAtom`, `Quoted`, `Literal`: the parts of an address; `Grammatical`: an address of such parts.
* `Word`, `Phrase`, `Display`: what may stand in front of an address in angle brackets.
* `ReadsAs t m`: the text `t` is derived as the mailbox `m`.

The rules say what may stand where and nothing on how to find it: an escape hides a quote, blanks
beyond ASCII are characters of atoms too, and words may touch.
-/

namespace UserDirectory.Mailbox

/-! ## Characters -/

/-- The marks that may stand in an atom. -/
def marks : List Char :=
  ['!', '#', '$', '%', '&', '\x27', '*', '+', '/', '=', '?', '^', '_', '\x60', '\x7b', '|', '\x7d',
    '~', '-']

/-- A character of an atom: an ASCII letter or digit, one of nineteen marks, or anything beyond
ASCII. -/
inductive Atext (c : Char) : Prop
  | upper (h : 'A' ≤ c ∧ c ≤ 'Z')
  | lower (h : 'a' ≤ c ∧ c ≤ 'z')
  | digit (h : '0' ≤ c ∧ c ≤ '9')
  | mark (h : c ∈ marks)
  | beyond (h : '\x7f' < c)

/-- A character that stands for itself between quotes. -/
def Qtext (c : Char) : Prop := c ≠ '"' ∧ c ≠ '\\' ∧ c ≠ '\r' ∧ c ≠ '\n'

/-- A character of a domain literal. -/
def Dtext (c : Char) : Prop := c ≠ '[' ∧ c ≠ ']' ∧ c ≠ '\\' ∧ c ≠ '\r' ∧ c ≠ '\n'

/-! ## Addresses -/

/-- One character of atoms or more. -/
def Atom (t : List Char) : Prop := t ≠ [] ∧ ∀ c ∈ t, Atext c

/-- Atoms with single dots between them. -/
inductive DotAtom : List Char → Prop
  | atom {a} : Atom a → DotAtom a
  | dot {a t} : Atom a → DotAtom t → DotAtom (a ++ '.' :: t)

/-- What stands between quotes: characters for themselves, and characters behind a backslash. -/
inductive Inside : List Char → Prop
  | nil : Inside []
  | char {c t} : Qtext c → Inside t → Inside (c :: t)
  | escape {c t} : c ≠ '\n' → Inside t → Inside ('\\' :: c :: t)

/-- A quoted string. -/
def Quoted (t : List Char) : Prop := ∃ s, Inside s ∧ t = '"' :: (s ++ ['"'])

/-- A domain literal. -/
def Literal (t : List Char) : Prop := ∃ s, (∀ c ∈ s, Dtext c) ∧ t = '[' :: (s ++ [']'])

/-- The two parts of an address. -/
structure Grammatical (a : Address) : Prop where
  localPart : DotAtom a.localPart ∨ Quoted a.localPart
  domain : DotAtom a.domain ∨ Literal a.domain

/-- The text of an address. -/
def addressText (a : Address) : List Char := a.localPart ++ '@' :: a.domain

/-! ## Display names -/

/-- A word: characters of atoms and dots, or a quoted string. -/
inductive Word : List Char → Prop
  | plain {t} : t ≠ [] → (∀ c ∈ t, Atext c ∨ c = '.') → Word t
  | quoted {t} : Quoted t → Word t

/-- Only white space, or nothing. -/
def Blanks (t : List Char) : Prop := ∀ c ∈ t, Text.isBlank c = true

/-- Words with or without white space between them. -/
inductive Phrase : List Char → Prop
  | word {w} : Word w → Phrase w
  | more {w b p} : Word w → Blanks b → Phrase p → Phrase (w ++ (b ++ p))

/-- What stands before `<`: nothing, or a phrase and white space. -/
inductive Display : List Char → Prop
  | none : Display []
  | phrase {p b} : Phrase p → Blanks b → Display (p ++ b)

/-- The text is derived as the mailbox. -/
inductive ReadsAs : List Char → Mailbox → Prop
  | bare {a} : Grammatical a → ReadsAs (addressText a) (.bare a)
  | bracketed {d a} : Display d → Grammatical a →
    ReadsAs (d ++ '<' :: (addressText a ++ ['>'])) (.bracketed d a)

/-! ## The classes as they are computed -/

theorem isAlphanum_iff {c : Char} : c.isAlphanum = true ↔
    (('A' ≤ c ∧ c ≤ 'Z') ∨ ('a' ≤ c ∧ c ≤ 'z')) ∨ ('0' ≤ c ∧ c ≤ '9') := by
  have hrange : ∀ low high : Char, (decide (low ≤ c) && decide (c ≤ high)) = true ↔
      low ≤ c ∧ c ≤ high := by
    intro low high
    rw [Bool.and_eq_true, decide_eq_true_eq, decide_eq_true_eq]
  have hupper : c.isUpper = true ↔ 'A' ≤ c ∧ c ≤ 'Z' := decide_eq_true_iff
  have hlower : c.isLower = true ↔ 'a' ≤ c ∧ c ≤ 'z' := hrange 'a' 'z'
  have hdigit : c.isDigit = true ↔ '0' ≤ c ∧ c ≤ '9' := hrange '0' '9'
  show ((c.isUpper || c.isLower) || c.isDigit) = true ↔ _
  rw [Bool.or_eq_true, Bool.or_eq_true, hupper, hlower, hdigit]

theorem isAtomChar_iff {c : Char} : isAtomChar c = true ↔ Atext c := by
  have hmarks : ['!', '#', '$', '%', '&', '\x27', '*', '+', '-', '/', '=', '?', '^', '_', '\x60',
      '\x7b', '|', '\x7d', '~'].contains c = true ↔ c ∈ marks := by
    rw [List.contains_iff_mem]
    exact List.Perm.mem_iff (by decide)
  have hbeyond : 0x7F < c.toNat ↔ '\x7f' < c := Iff.rfl
  unfold isAtomChar
  rw [Bool.or_eq_true, Bool.or_eq_true, decide_eq_true_eq, isAlphanum_iff, hbeyond, hmarks]
  constructor
  · rintro ((((h | h) | h) | h) | h)
    · exact .upper h
    · exact .lower h
    · exact .digit h
    · exact .beyond h
    · exact .mark h
  · rintro (h | h | h | h | h)
    · exact .inl (.inl (.inl (.inl h)))
    · exact .inl (.inl (.inl (.inr h)))
    · exact .inl (.inl (.inr h))
    · exact .inr h
    · exact .inl (.inr h)

theorem isWordChar_iff {c : Char} : isWordChar c = true ↔ Atext c ∨ c = '.' := by
  unfold isWordChar
  rw [Bool.or_eq_true, isAtomChar_iff, beq_iff_eq]

theorem isQuotedChar_iff {c : Char} : isQuotedChar c = true ↔ Qtext c := by
  simp [isQuotedChar, Qtext, and_assoc]

theorem isLiteralChar_iff {c : Char} : isLiteralChar c = true ↔ Dtext c := by
  simp [isLiteralChar, Dtext, and_assoc]

/-- No mark of the grammar but the dot is a character of words. -/
theorem ne_of_isWordChar {c m : Char} (h : isWordChar c = true) (hm : isWordChar m = false) :
    c ≠ m := by
  rintro rfl
  rw [h] at hm
  cases hm

/-! ## Small facts -/

theorem DotAtom.cons {c : Char} {t : List Char} (hc : Atext c) (ht : DotAtom t) :
    DotAtom (c :: t) := by
  have hlonger : ∀ {a : List Char}, Atom a → Atom (c :: a) := by
    intro a ha
    refine ⟨List.cons_ne_nil c a, ?_⟩
    intro x hx
    rcases List.mem_cons.mp hx with rfl | hx
    · exact hc
    · exact ha.2 x hx
  cases ht with
  | atom ha => exact .atom (hlonger ha)
  | dot ha ht =>
    rw [← List.cons_append]
    exact .dot (hlonger ha) ht

theorem DotAtom.isWordChar {t : List Char} (h : DotAtom t) :
    ∀ c ∈ t, Mailbox.isWordChar c = true := by
  induction h with
  | atom ha => exact fun c hc => isWordChar_iff.mpr (.inl (ha.2 c hc))
  | dot ha _ ih =>
    intro c hc
    rcases List.mem_append.mp hc with h | h
    · exact isWordChar_iff.mpr (.inl (ha.2 c h))
    · rcases List.mem_cons.mp h with rfl | h
      · decide
      · exact ih c h

theorem DotAtom.ne_nil {t : List Char} (h : DotAtom t) : t ≠ [] := by
  cases h with
  | atom ha => exact ha.1
  | dot _ _ => simp

end UserDirectory.Mailbox
