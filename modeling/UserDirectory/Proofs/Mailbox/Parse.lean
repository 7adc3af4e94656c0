import UserDirectory.Proofs.Mailbox.Grammar
import UserDirectory.Proofs.Text.Blank

/-!
# Proofs.Mailbox.Parse — the reader follows the grammar

* `scan…_append`: a scanner takes a text of its rule whole and leaves what follows it.
* `scan…_eq_some`: what a scanner took is a text of its rule.
* `Loose`: words and blanks in any order, which is what the scanner of display names takes.
* `parse?_eq_some`: a text is read as a mailbox iff its core is derived as that mailbox.
* `isValid_iff_readsAs`: a text is accepted iff its core is derived as some mailbox.
-/

namespace UserDirectory.Mailbox

/-! ## Atoms -/

theorem isDotAtom_cons {c d : Char} (hd : d ≠ '.') (r : List Char) :
    isDotAtom (c :: d :: r) = (isAtomChar c && isDotAtom (d :: r)) := by
  rw [isDotAtom, if_neg (by simpa using hd)]

theorem ne_dot_of_atext {c : Char} (h : Atext c) : c ≠ '.' := by
  rintro rfl
  exact absurd (isAtomChar_iff.mpr h) (by decide)

/-- An atom at the end of a text, or in front of a dot and further atoms. -/
theorem isDotAtom_append {a t : List Char} (h : Atom a)
    (ht : t = [] ∨ ∃ r, t = '.' :: r ∧ isDotAtom r = true) : isDotAtom (a ++ t) = true := by
  obtain ⟨hne, ha⟩ := h
  induction a with
  | nil => exact absurd rfl hne
  | cons c r ih =>
    have hc := isAtomChar_iff.mpr (ha c List.mem_cons_self)
    cases r with
    | nil =>
      rcases ht with rfl | ⟨r, rfl, hr⟩
      · exact hc
      · show (isAtomChar c && isDotAtom r) = true
        rw [hc, hr]
        rfl
    | cons d r =>
      have hd : d ≠ '.' := ne_dot_of_atext (ha d (by simp))
      have htail := ih (List.cons_ne_nil d r) fun x hx => ha x (List.mem_cons_of_mem c hx)
      rw [List.cons_append, List.cons_append, isDotAtom_cons hd, hc, Bool.true_and]
      exact htail

theorem isDotAtom_iff {t : List Char} : isDotAtom t = true ↔ DotAtom t := by
  constructor
  · intro h
    have hone : ∀ {c}, isAtomChar c = true → Atom [c] := by
      intro c hc
      refine ⟨List.cons_ne_nil c [], ?_⟩
      intro x hx
      rw [List.mem_singleton.mp hx]
      exact isAtomChar_iff.mp hc
    induction t using isDotAtom.induct with
    | case1 => cases h
    | case2 c => exact .atom (hone h)
    | case3 c d r ihdot ihchar =>
      by_cases hd : d = '.'
      · subst hd
        rw [isDotAtom, if_pos (beq_self_eq_true '.'), Bool.and_eq_true] at h
        exact .dot (hone h.1) (ihdot h.2)
      · rw [isDotAtom_cons hd, Bool.and_eq_true] at h
        exact (ihchar h.2).cons (isAtomChar_iff.mp h.1)
  · intro h
    induction h with
    | atom ha =>
      have hatom := isDotAtom_append ha (.inl rfl)
      rw [List.append_nil] at hatom
      exact hatom
    | dot ha _ ih => exact isDotAtom_append ha (.inr ⟨_, rfl, ih⟩)

/-- A word does not go on into the text. -/
def Stops (rest : List Char) : Prop := ∀ c ∈ rest.head?, isWordChar c = false

theorem stops_cons {c : Char} (h : isWordChar c = false) (r : List Char) : Stops (c :: r) := by
  intro x hx
  rw [List.head?_cons, Option.mem_def, Option.some.injEq] at hx
  rw [← hx]
  exact h

theorem scanDotAtom_append {w rest : List Char} (hw : DotAtom w) (hrest : Stops rest) :
    scanDotAtom (w ++ rest) = some (w, rest) := by
  have htake : rest.takeWhile isWordChar = [] ∧ rest.dropWhile isWordChar = rest := by
    cases rest with
    | nil => exact ⟨rfl, rfl⟩
    | cons c r =>
      have hc : ¬ isWordChar c = true := by simp [hrest c rfl]
      exact ⟨List.takeWhile_cons_of_neg hc, List.dropWhile_cons_of_neg hc⟩
  unfold scanDotAtom
  rw [List.takeWhile_append_of_pos hw.isWordChar, List.dropWhile_append_of_pos hw.isWordChar,
    htake.1, htake.2, List.append_nil]
  exact if_pos (isDotAtom_iff.mpr hw)

theorem scanDotAtom_eq_some {t w rest : List Char} (h : scanDotAtom t = some (w, rest)) :
    t = w ++ rest ∧ DotAtom w := by
  unfold scanDotAtom at h
  dsimp only at h
  split at h
  · next hw =>
    rw [Option.some.injEq, Prod.mk.injEq] at h
    obtain ⟨rfl, rfl⟩ := h
    exact ⟨List.takeWhile_append_dropWhile.symm, isDotAtom_iff.mp hw⟩
  · cases h

/-! ## Quoted strings -/

theorem scanQuotedTail_char {c : Char} (h : Qtext c) (r : List Char) :
    scanQuotedTail (c :: r) =
      (scanQuotedTail r).map fun (taken, rest) => (c :: taken, rest) := by
  have hc := isQuotedChar_iff.mpr h
  obtain ⟨hquote, hslash, -, -⟩ := h
  rw [scanQuotedTail, if_pos hc]
  · rintro rfl
    exact hquote rfl
  · rintro d r' rfl
    exact absurd rfl hslash

theorem scanQuotedTail_escape {c : Char} (h : c ≠ '\n') (r : List Char) :
    scanQuotedTail ('\\' :: c :: r) =
      (scanQuotedTail r).map fun (taken, rest) => ('\\' :: c :: taken, rest) := by
  rw [scanQuotedTail, if_neg (by simpa using h)]

theorem scanQuotedTail_append {s : List Char} (hs : Inside s) (rest : List Char) :
    scanQuotedTail (s ++ '"' :: rest) = some (s ++ ['"'], rest) := by
  induction hs with
  | nil => rfl
  | char hc _ ih =>
    rw [List.cons_append, scanQuotedTail_char hc, ih]
    rfl
  | escape hc _ ih =>
    rw [List.cons_append, List.cons_append, scanQuotedTail_escape hc, ih]
    rfl

theorem scanQuotedTail_eq_some {t w rest : List Char} (h : scanQuotedTail t = some (w, rest)) :
    ∃ s, Inside s ∧ w = s ++ ['"'] ∧ t = s ++ '"' :: rest := by
  induction t using scanQuotedTail.induct generalizing w with
  | case1 => cases h
  | case2 r =>
    cases h
    exact ⟨[], .nil, rfl, rfl⟩
  | case3 c r hc =>
    rw [scanQuotedTail, if_pos hc] at h
    cases h
  | case4 c r hc ih =>
    rw [scanQuotedTail, if_neg hc, Option.map_eq_some_iff] at h
    obtain ⟨⟨w', rest'⟩, hw, heq⟩ := h
    cases heq
    obtain ⟨s, hs, rfl, rfl⟩ := ih hw
    exact ⟨'\\' :: c :: s, .escape (by simpa using hc) hs, rfl, rfl⟩
  | case5 c r hquote hslash hc ih =>
    have hq := isQuotedChar_iff.mp hc
    rw [scanQuotedTail_char hq, Option.map_eq_some_iff] at h
    obtain ⟨⟨w', rest'⟩, hw, heq⟩ := h
    cases heq
    obtain ⟨s, hs, rfl, rfl⟩ := ih hw
    exact ⟨c :: s, .char hq hs, rfl, rfl⟩
  | case6 c r hquote hslash hc =>
    rw [scanQuotedTail, if_neg hc] at h
    · cases h
    · exact hquote
    · exact hslash

theorem scanQuoted_append {q : List Char} (hq : Quoted q) (rest : List Char) :
    scanQuoted (q ++ rest) = some (q, rest) := by
  obtain ⟨s, hs, rfl⟩ := hq
  have htail := scanQuotedTail_append hs rest
  have heq : '"' :: (s ++ ['"']) ++ rest = '"' :: (s ++ '"' :: rest) := by simp
  rw [heq, scanQuoted, htail]
  rfl

theorem scanQuoted_eq_some {t w rest : List Char} (h : scanQuoted t = some (w, rest)) :
    t = w ++ rest ∧ Quoted w := by
  unfold scanQuoted at h
  split at h
  · rw [Option.map_eq_some_iff] at h
    obtain ⟨⟨w', rest'⟩, hw, heq⟩ := h
    cases heq
    obtain ⟨s, hs, rfl, rfl⟩ := scanQuotedTail_eq_some hw
    exact ⟨by simp, s, hs, rfl⟩
  · cases h

/-- A text that does not start with a quote is no quoted string. -/
theorem scanQuoted_of_ne {c : Char} (hc : c ≠ '"') (r : List Char) : scanQuoted (c :: r) = none := by
  unfold scanQuoted
  split
  · next heq =>
    cases heq
    exact absurd rfl hc
  · rfl

/-! ## Domain literals -/

theorem scanLiteral_append {l : List Char} (hl : Literal l) (rest : List Char) :
    scanLiteral (l ++ rest) = some (l, rest) := by
  obtain ⟨s, hs, rfl⟩ := hl
  have hchars : ∀ c ∈ s, isLiteralChar c = true := fun c hc => isLiteralChar_iff.mpr (hs c hc)
  have hclose : ¬ isLiteralChar ']' = true := by decide
  have heq : '[' :: (s ++ [']']) ++ rest = '[' :: (s ++ ']' :: rest) := by simp
  have hdrop : (s ++ ']' :: rest).dropWhile isLiteralChar = ']' :: rest := by
    rw [List.dropWhile_append_of_pos hchars, List.dropWhile_cons_of_neg hclose]
  have htake : (s ++ ']' :: rest).takeWhile isLiteralChar = s := by
    rw [List.takeWhile_append_of_pos hchars, List.takeWhile_cons_of_neg hclose, List.append_nil]
  rw [heq, scanLiteral, hdrop]
  show some ('[' :: List.takeWhile isLiteralChar _ ++ [']'], rest) = _
  rw [htake]
  rfl

theorem scanLiteral_eq_some {t w rest : List Char} (h : scanLiteral t = some (w, rest)) :
    t = w ++ rest ∧ Literal w := by
  unfold scanLiteral at h
  split at h
  · next r =>
    split at h
    · next rest' hdrop =>
      cases h
      have hsplit : r = r.takeWhile isLiteralChar ++ ']' :: rest := by
        rw [← hdrop]
        exact List.takeWhile_append_dropWhile.symm
      refine ⟨?_, r.takeWhile isLiteralChar, ?_, rfl⟩
      · conv_lhs => rw [hsplit]
        simp
      · exact fun c hc => isLiteralChar_iff.mp (List.mem_takeWhile_imp hc)
    · cases h
  · cases h

theorem scanLiteral_of_ne {c : Char} (hc : c ≠ '[') (r : List Char) :
    scanLiteral (c :: r) = none := by
  unfold scanLiteral
  split
  · next heq =>
    cases heq
    exact absurd rfl hc
  · rfl

/-! ## Addresses -/

/-- The first character of an atom is a character of words. -/
theorem DotAtom.exists_cons {t : List Char} (h : DotAtom t) :
    ∃ c r, t = c :: r ∧ Mailbox.isWordChar c = true := by
  cases t with
  | nil => exact absurd rfl h.ne_nil
  | cons c r => exact ⟨c, r, rfl, h.isWordChar c List.mem_cons_self⟩

theorem orElse_eq_some {α : Type} {a b : Option α} {x : α} (h : (a <|> b) = some x) :
    a = some x ∨ b = some x := by
  cases a with
  | none => exact .inr h
  | some y => exact .inl h

section Alternatives

variable {scan : List Char → Option (List Char × List Char)} {Rule : List Char → Prop}

/-- A scanner of texts behind an opening mark, or else of dotted atoms, takes either whole. -/
theorem scanEither_append {opening : Char} (hopening : isWordChar opening = false)
    (hne : ∀ {c}, c ≠ opening → ∀ r, scan (c :: r) = none)
    (hscan : ∀ {q}, Rule q → ∀ rest, scan (q ++ rest) = some (q, rest)) {l rest : List Char}
    (hl : DotAtom l ∨ Rule l) (hrest : Stops rest) :
    (scan (l ++ rest) <|> scanDotAtom (l ++ rest)) = some (l, rest) := by
  rcases hl with hl | hl
  · obtain ⟨c, r, rfl, hc⟩ := hl.exists_cons
    have hnone : scan (c :: r ++ rest) = none := hne (ne_of_isWordChar hc hopening) _
    rw [hnone, scanDotAtom_append hl hrest]
    rfl
  · rw [hscan hl]
    rfl

/-- What it took is a text of one of the two rules. -/
theorem scanEither_eq_some
    (hscan : ∀ {t w rest}, scan t = some (w, rest) → t = w ++ rest ∧ Rule w)
    {t w rest : List Char} (h : (scan t <|> scanDotAtom t) = some (w, rest)) :
    t = w ++ rest ∧ (DotAtom w ∨ Rule w) := by
  rcases orElse_eq_some h with h | h
  · obtain ⟨heq, hw⟩ := hscan h
    exact ⟨heq, .inr hw⟩
  · obtain ⟨heq, hw⟩ := scanDotAtom_eq_some h
    exact ⟨heq, .inl hw⟩

end Alternatives

theorem scanLocal_append {l rest : List Char} (hl : DotAtom l ∨ Quoted l) (hrest : Stops rest) :
    scanLocal (l ++ rest) = some (l, rest) :=
  scanEither_append (by decide) scanQuoted_of_ne scanQuoted_append hl hrest

theorem scanDomain_append {d rest : List Char} (hd : DotAtom d ∨ Literal d) (hrest : Stops rest) :
    scanDomain (d ++ rest) = some (d, rest) :=
  scanEither_append (by decide) scanLiteral_of_ne scanLiteral_append hd hrest

theorem scanLocal_eq_some {t w rest : List Char} (h : scanLocal t = some (w, rest)) :
    t = w ++ rest ∧ (DotAtom w ∨ Quoted w) := scanEither_eq_some scanQuoted_eq_some h

theorem scanDomain_eq_some {t w rest : List Char} (h : scanDomain t = some (w, rest)) :
    t = w ++ rest ∧ (DotAtom w ∨ Literal w) := scanEither_eq_some scanLiteral_eq_some h

theorem scanAddress_append {a : Address} (ha : Grammatical a) {rest : List Char}
    (hrest : Stops rest) : scanAddress (addressText a ++ rest) = some (a, rest) := by
  have heq : addressText a ++ rest = a.localPart ++ '@' :: (a.domain ++ rest) := by
    simp [addressText]
  unfold scanAddress
  rw [heq, scanLocal_append ha.localPart (stops_cons (by decide) _)]
  show (scanDomain (a.domain ++ rest)).map _ = _
  rw [scanDomain_append ha.domain hrest]
  rfl

theorem scanAddress_eq_some {t rest : List Char} {a : Address}
    (h : scanAddress t = some (a, rest)) : t = addressText a ++ rest ∧ Grammatical a := by
  unfold scanAddress at h
  split at h
  · next l r hl =>
    rw [Option.map_eq_some_iff] at h
    obtain ⟨⟨d, rest'⟩, hd, heq⟩ := h
    cases heq
    obtain ⟨rfl, hlocal⟩ := scanLocal_eq_some hl
    obtain ⟨rfl, hdomain⟩ := scanDomain_eq_some hd
    exact ⟨by simp [addressText], hlocal, hdomain⟩
  · cases h

/-! ## Display names -/

/-- Characters of words, blanks and quoted strings in any order. -/
inductive Loose : List Char → Prop
  | nil : Loose []
  | char {c t} : isWordChar c = true ∨ Text.isBlank c = true → Loose t → Loose (c :: t)
  | quoted {q t} : Quoted q → Loose t → Loose (q ++ t)

theorem Loose.append {s t : List Char} (hs : Loose s) (ht : Loose t) : Loose (s ++ t) := by
  induction hs with
  | nil => exact ht
  | char hc _ ih => exact .char hc ih
  | quoted hq _ ih =>
    rw [List.append_assoc]
    exact .quoted hq ih

theorem loose_of_forall {t : List Char}
    (h : ∀ c ∈ t, isWordChar c = true ∨ Text.isBlank c = true) : Loose t := by
  induction t with
  | nil => exact .nil
  | cons c r ih =>
    exact .char (h c List.mem_cons_self) (ih fun x hx => h x (List.mem_cons_of_mem c hx))

theorem Quoted.loose {q : List Char} (h : Quoted q) : Loose q := by
  have hq := Loose.quoted h .nil
  rw [List.append_nil] at hq
  exact hq

theorem Word.loose {w : List Char} (h : Word w) : Loose w := by
  cases h with
  | plain _ hw => exact loose_of_forall fun c hc => .inl (isWordChar_iff.mpr (hw c hc))
  | quoted hq => exact hq.loose

theorem Blanks.loose {b : List Char} (h : Blanks b) : Loose b :=
  loose_of_forall fun c hc => .inr (h c hc)

theorem Phrase.loose {p : List Char} (h : Phrase p) : Loose p := by
  induction h with
  | word hw => exact hw.loose
  | more hw hb _ ih => exact hw.loose.append (hb.loose.append ih)

theorem Display.loose {d : List Char} (h : Display d) : Loose d := by
  cases h with
  | none => exact .nil
  | phrase hp hb => exact hp.loose.append hb.loose

theorem DotAtom.loose {t : List Char} (h : DotAtom t) : Loose t :=
  loose_of_forall fun c hc => .inl (h.isWordChar c hc)

/-- A word goes in front of a display name, whatever that starts with. -/
theorem Display.cons_word {w e : List Char} (hw : Word w) {b : List Char} (hb : Blanks b)
    (he : Display e) : Display (w ++ (b ++ e)) := by
  cases he with
  | none =>
    rw [List.append_nil]
    exact .phrase (.word hw) hb
  | @phrase p b' hp hb' =>
    have heq : w ++ (b ++ (p ++ b')) = w ++ (b ++ p) ++ b' := by simp
    rw [heq]
    exact .phrase (.more hw hb hp) hb'

/-- Words and blanks in any order are blanks and a display name. -/
theorem Loose.exists_display {t : List Char} (h : Loose t) :
    ∃ b e, t = b ++ e ∧ Blanks b ∧ Display e := by
  have hnone : Blanks [] := fun c hc => absurd hc List.not_mem_nil
  induction h with
  | nil => exact ⟨[], [], rfl, hnone, .none⟩
  | @char c t hc _ ih =>
    obtain ⟨b, e, rfl, hb, he⟩ := ih
    -- A blank beyond ASCII is both; it is taken as a blank.
    by_cases hblank : Text.isBlank c = true
    · refine ⟨c :: b, e, rfl, ?_, he⟩
      intro x hx
      rcases List.mem_cons.mp hx with rfl | hx
      · exact hblank
      · exact hb x hx
    · have hword : Word [c] := by
        refine .plain (List.cons_ne_nil c []) ?_
        intro x hx
        rw [List.mem_singleton.mp hx]
        exact isWordChar_iff.mp (hc.resolve_right hblank)
      exact ⟨[], [c] ++ (b ++ e), rfl, hnone, he.cons_word hword hb⟩
  | @quoted q t hq _ ih =>
    obtain ⟨b, e, rfl, hb, he⟩ := ih
    exact ⟨[], q ++ (b ++ e), rfl, hnone, he.cons_word (.quoted hq) hb⟩

/-- Of a text that does not start with a blank nothing is lost. -/
theorem Loose.display {t : List Char} (h : Loose t) (ht : ∀ c ∈ t.head?, Text.isBlank c = false) :
    Display t := by
  obtain ⟨b, e, rfl, hb, he⟩ := h.exists_display
  cases b with
  | nil => exact he
  | cons c r =>
    have hc := hb c List.mem_cons_self
    rw [ht c rfl] at hc
    cases hc

/-! ### The scanner -/

theorem scanDisplay_char {c : Char} (hc : isWordChar c = true ∨ Text.isBlank c = true)
    (r : List Char) :
    scanDisplay false (c :: r) =
      (scanDisplay false r).map fun (taken, rest) => (c :: taken, rest) := by
  have hne : ∀ {m : Char}, isWordChar m = false → Text.isBlank m = false → (c == m) = false := by
    intro m hword hblank
    rw [beq_eq_false_iff_ne]
    rintro rfl
    rcases hc with h | h
    · rw [hword] at h
      cases h
    · rw [hblank] at h
      cases h
  have hclass : (isWordChar c || Text.isBlank c) = true := by simpa using hc
  rw [scanDisplay, hne (by decide) (by decide), hne (by decide) (by decide), hclass]
  rfl

theorem scanDisplay_inside {s : List Char} (hs : Inside s) (r : List Char) :
    scanDisplay true (s ++ '"' :: r) =
      (scanDisplay false r).map fun (taken, rest) => (s ++ '"' :: taken, rest) := by
  induction hs with
  | nil => rfl
  | @char c t hc _ ih =>
    have hquoted := isQuotedChar_iff.mpr hc
    have hquote : (c == '"') = false := beq_eq_false_iff_ne.mpr hc.1
    rw [List.cons_append, scanDisplay, hquote, hquoted, if_neg (by decide), if_pos rfl, ih,
      Option.map_map]
    · rfl
    · rintro d r' rfl
      exact absurd rfl hc.2.1
  | @escape c t hc _ ih =>
    rw [List.cons_append, List.cons_append, scanDisplay, if_neg (by simpa using hc), ih,
      Option.map_map]
    rfl

/-- The scanner takes words and blanks, whatever follows them. -/
theorem scanDisplay_append {d : List Char} (hd : Loose d) (r : List Char) :
    scanDisplay false (d ++ r) =
      (scanDisplay false r).map fun (taken, rest) => (d ++ taken, rest) := by
  induction hd with
  | nil =>
    rw [List.nil_append]
    cases scanDisplay false r with
    | none => rfl
    | some p => rfl
  | char hc _ ih =>
    rw [List.cons_append, scanDisplay_char hc, ih, Option.map_map]
    rfl
  | @quoted q t hq _ ih =>
    obtain ⟨s, hs, rfl⟩ := hq
    have heq : '"' :: (s ++ ['"']) ++ t ++ r = '"' :: (s ++ '"' :: (t ++ r)) := by simp
    have hopen : scanDisplay false ('"' :: (s ++ '"' :: (t ++ r))) =
        (scanDisplay true (s ++ '"' :: (t ++ r))).map
          fun (taken, rest) => ('"' :: taken, rest) := rfl
    rw [heq, hopen, scanDisplay_inside hs, ih, Option.map_map, Option.map_map]
    congr 1
    funext p
    simp

/-- The scanner stops in front of an address in brackets. -/
theorem scanDisplay_open (r : List Char) : scanDisplay false ('<' :: r) = some ([], '<' :: r) := rfl

/-- The texts that the scanner takes, by whether it stands inside a quoted string. -/
def Taken : Bool → List Char → Prop
  | false, d => Loose d
  | true, d => ∃ s e, Inside s ∧ Loose e ∧ d = s ++ '"' :: e

theorem scanDisplay_eq_some {quoted : Bool} {t d rest : List Char}
    (h : scanDisplay quoted t = some (d, rest)) :
    t = d ++ rest ∧ Taken quoted d ∧ ∃ r, rest = '<' :: r := by
  induction quoted, t using scanDisplay.induct generalizing d with
  | case1 quoted => cases quoted <;> cases h
  | case2 c r hc =>
    rw [scanDisplay, if_pos hc] at h
    cases h
    rw [beq_iff_eq] at hc
    exact ⟨rfl, .nil, r, by rw [hc]⟩
  | case3 c r hopen hquote ih =>
    rw [scanDisplay, if_neg hopen, if_pos hquote, Option.map_eq_some_iff] at h
    obtain ⟨⟨d', rest'⟩, hd, heq⟩ := h
    cases heq
    obtain ⟨rfl, ⟨s, e, hs, he, rfl⟩, hrest⟩ := ih hd
    rw [beq_iff_eq] at hquote
    have hsplit : c :: (s ++ '"' :: e) = '"' :: (s ++ ['"']) ++ e := by simp [hquote]
    refine ⟨rfl, ?_, hrest⟩
    show Loose _
    rw [hsplit]
    exact .quoted ⟨s, hs, rfl⟩ he
  | case4 c r hopen hquote hclass ih =>
    rw [scanDisplay, if_neg hopen, if_neg hquote, if_pos hclass, Option.map_eq_some_iff] at h
    obtain ⟨⟨d', rest'⟩, hd, heq⟩ := h
    cases heq
    obtain ⟨rfl, hloose, hrest⟩ := ih hd
    exact ⟨rfl, .char (by simpa using hclass) hloose, hrest⟩
  | case5 c r hopen hquote hclass =>
    rw [scanDisplay, if_neg hopen, if_neg hquote, if_neg hclass] at h
    cases h
  | case6 c r hc =>
    rw [scanDisplay, if_pos hc] at h
    cases h
  | case7 c r hc ih =>
    rw [scanDisplay, if_neg hc, Option.map_eq_some_iff] at h
    obtain ⟨⟨d', rest'⟩, hd, heq⟩ := h
    cases heq
    obtain ⟨rfl, ⟨s, e, hs, he, rfl⟩, hrest⟩ := ih hd
    exact ⟨rfl, ⟨'\\' :: c :: s, e, .escape (by simpa using hc) hs, he, rfl⟩, hrest⟩
  | case8 c r hslash hquote ih =>
    rw [scanDisplay, if_pos hquote, Option.map_eq_some_iff] at h
    · obtain ⟨⟨d', rest'⟩, hd, heq⟩ := h
      cases heq
      obtain ⟨rfl, hloose, hrest⟩ := ih hd
      rw [beq_iff_eq] at hquote
      exact ⟨rfl, ⟨[], d', .nil, hloose, by rw [hquote]; rfl⟩, hrest⟩
    · exact hslash
  | case9 c r hslash hquote hclass ih =>
    rw [scanDisplay, if_neg hquote, if_pos hclass, Option.map_eq_some_iff] at h
    · obtain ⟨⟨d', rest'⟩, hd, heq⟩ := h
      cases heq
      obtain ⟨rfl, ⟨s, e, hs, he, rfl⟩, hrest⟩ := ih hd
      exact ⟨rfl, ⟨c :: s, e, .char (isQuotedChar_iff.mp hclass) hs, he, rfl⟩, hrest⟩
    · exact hslash
  | case10 c r hslash hquote hclass =>
    rw [scanDisplay, if_neg hquote, if_neg hclass] at h
    · cases h
    · exact hslash

/-! ## Whole texts -/

theorem bare?_eq_some {t : List Char} {m : Mailbox} :
    bare? t = some m ↔ ∃ a, m = .bare a ∧ Grammatical a ∧ t = addressText a := by
  unfold bare?
  constructor
  · intro h
    split at h
    · next a hscan =>
      cases h
      obtain ⟨heq, ha⟩ := scanAddress_eq_some hscan
      rw [List.append_nil] at heq
      exact ⟨a, rfl, ha, heq⟩
    · cases h
  · rintro ⟨a, rfl, ha, rfl⟩
    have hscan : scanAddress (addressText a ++ []) = some (a, []) :=
      scanAddress_append ha fun c hc => by cases hc
    rw [List.append_nil] at hscan
    rw [hscan]

theorem bracketed?_eq_some {t : List Char} (ht : ∀ c ∈ t.head?, Text.isBlank c = false)
    {m : Mailbox} :
    bracketed? t = some m ↔ ∃ d a, m = .bracketed d a ∧ Display d ∧ Grammatical a ∧
      t = d ++ '<' :: (addressText a ++ ['>']) := by
  unfold bracketed?
  constructor
  · intro h
    split at h
    · next d r hdisplay =>
      split at h
      · next a hscan =>
        cases h
        obtain ⟨rfl, ha⟩ := scanAddress_eq_some hscan
        obtain ⟨rfl, hloose, -⟩ := scanDisplay_eq_some hdisplay
        refine ⟨d, a, rfl, Loose.display hloose ?_, ha, rfl⟩
        cases d with
        | nil => exact fun c hc => by cases hc
        | cons c r => exact ht
      · cases h
    · cases h
  · rintro ⟨d, a, rfl, hd, ha, rfl⟩
    have hscan : scanAddress (addressText a ++ ['>']) = some (a, ['>']) :=
      scanAddress_append ha (stops_cons (by decide) [])
    have hdisplay : scanDisplay false (d ++ '<' :: (addressText a ++ ['>'])) =
        some (d, '<' :: (addressText a ++ ['>'])) := by
      rw [scanDisplay_append hd.loose, scanDisplay_open, Option.map_some]
      simp only [List.append_nil]
    rw [hdisplay]
    simp only [hscan]

/-- An address alone has no display name: the scanner of display names stops at its `@`. -/
theorem scanDisplay_addressText {a : Address} (ha : Grammatical a) :
    scanDisplay false (addressText a) = none := by
  have hlocal : Loose a.localPart := by
    rcases ha.localPart with h | h
    · exact h.loose
    · exact h.loose
  have hat : scanDisplay false ('@' :: a.domain) = none := rfl
  unfold addressText
  rw [scanDisplay_append hlocal, hat]
  rfl

/-- No text is an address alone and one in brackets. -/
theorem addressText_ne_bracketed {a : Address} (ha : Grammatical a) {d : List Char}
    (hd : Display d) (r : List Char) : addressText a ≠ d ++ '<' :: r := by
  intro h
  have hnone := scanDisplay_addressText ha
  rw [h, scanDisplay_append hd.loose, scanDisplay_open] at hnone
  cases hnone

theorem readsAs_iff {t : List Char} (ht : ∀ c ∈ t.head?, Text.isBlank c = false) {m : Mailbox} :
    (bare? t <|> bracketed? t) = some m ↔ ReadsAs t m := by
  constructor
  · intro h
    rcases orElse_eq_some h with h | h
    · obtain ⟨a, rfl, ha, rfl⟩ := bare?_eq_some.mp h
      exact .bare ha
    · obtain ⟨d, a, rfl, hd, ha, rfl⟩ := (bracketed?_eq_some ht).mp h
      exact .bracketed hd ha
  · intro h
    cases h with
    | bare ha =>
      rw [bare?_eq_some.mpr ⟨_, rfl, ha, rfl⟩]
      rfl
    | @bracketed d a hd ha =>
      have hbare : bare? (d ++ '<' :: (addressText a ++ ['>'])) = none := by
        rw [Option.eq_none_iff_forall_ne_some]
        intro m hm
        obtain ⟨b, -, hb, heq⟩ := bare?_eq_some.mp hm
        exact addressText_ne_bracketed hb hd _ heq.symm
      rw [hbare]
      exact (bracketed?_eq_some ht).mpr ⟨d, a, rfl, hd, ha, rfl⟩

/-- **The reader follows the grammar**: it gives the one mailbox as which the text between the
blanks at its ends is derived. -/
theorem parse?_eq_some {raw : String} {m : Mailbox} :
    parse? raw = some m ↔ ReadsAs (Text.trim raw.toList) m :=
  readsAs_iff (Text.core_trim raw.toList).start

/-- **The mailbox grammar**: a text is accepted if and only if what is left of it without the white
space at its ends is derived as a mailbox. -/
theorem isValid_iff_readsAs (raw : String) :
    isValid raw = true ↔ ∃ t, Text.Core raw.toList t ∧ ∃ m, ReadsAs t m := by
  unfold isValid
  rw [Option.isSome_iff_exists]
  constructor
  · rintro ⟨m, hm⟩
    exact ⟨Text.trim raw.toList, Text.core_trim _, m, parse?_eq_some.mp hm⟩
  · rintro ⟨t, ht, m, hm⟩
    rw [Text.core_iff.mp ht] at hm
    exact ⟨m, parse?_eq_some.mpr hm⟩

end UserDirectory.Mailbox
