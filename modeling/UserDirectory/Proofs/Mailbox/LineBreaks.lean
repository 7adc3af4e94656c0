import UserDirectory.Proofs.Mailbox.Unambiguous

/-!
# Proofs.Mailbox.LineBreaks — where an address can have a line break

* `IsLineBreak`: a carriage return or a line feed.  No character of an atom, of a domain literal or
  that stands for itself between quotes is one.
* `Inside.cut_of_lineBreak`: between quotes a line break is a carriage return behind a backslash.
* `Grammatical.cut_of_lineBreak`: so it is in every address.
* `lineBreaks_of_isValid`: the line breaks in the address of an accepted text.
* `escapedReturn_isValid`: a text that is accepted although its address has one.
-/

namespace UserDirectory.Mailbox

/-- A carriage return or a line feed. -/
def IsLineBreak (c : Char) : Prop := c = '\r' ∨ c = '\n'

instance (c : Char) : Decidable (IsLineBreak c) := inferInstanceAs (Decidable (c = '\r' ∨ c = '\n'))

/-! ## The parts of an address -/

theorem DotAtom.not_isLineBreak {t : List Char} (h : DotAtom t) : ∀ c ∈ t, ¬ IsLineBreak c := by
  intro c hc hbreak
  have hword := h.isWordChar c hc
  rcases hbreak with rfl | rfl
  · exact absurd hword (by decide)
  · exact absurd hword (by decide)

theorem Literal.not_isLineBreak {t : List Char} (h : Literal t) : ∀ c ∈ t, ¬ IsLineBreak c := by
  obtain ⟨s, hs, rfl⟩ := h
  intro c hc hbreak
  have hmem : c ∈ s := by
    rcases hbreak with rfl | rfl
    · simpa using hc
    · simpa using hc
  obtain ⟨-, -, -, hreturn, hfeed⟩ := hs c hmem
  rcases hbreak with rfl | rfl
  · exact hreturn rfl
  · exact hfeed rfl

/-- Behind the local part there is no line break. -/
theorem Grammatical.domain_not_isLineBreak {a : Address} (h : Grammatical a) :
    ∀ c ∈ '@' :: a.domain, ¬ IsLineBreak c := by
  intro c hc
  rcases List.mem_cons.mp hc with rfl | hc
  · decide
  · rcases h.domain with hd | hd
    · exact hd.not_isLineBreak c hc
    · exact hd.not_isLineBreak c hc

/-- **Between quotes** a line break is a carriage return behind a backslash, and what stands in
front of that backslash and behind the break could stand between quotes by itself. -/
theorem Inside.cut_of_lineBreak {s : List Char} (hs : Inside s) {l r : List Char} {c : Char}
    (hc : IsLineBreak c) (h : s = l ++ c :: r) :
    c = '\r' ∧ Inside r ∧ ∃ i, Inside i ∧ l = i ++ ['\\'] := by
  induction hs generalizing l with
  | nil => simp at h
  | @char d t hd _ ih =>
    cases l with
    | nil =>
      obtain ⟨rfl, -⟩ := List.cons.inj h
      obtain ⟨-, -, hreturn, hfeed⟩ := hd
      rcases hc with rfl | rfl
      · exact absurd rfl hreturn
      · exact absurd rfl hfeed
    | cons x l =>
      obtain ⟨rfl, ht⟩ := List.cons.inj h
      obtain ⟨hreturn, hr, i, hi, rfl⟩ := ih ht
      exact ⟨hreturn, hr, d :: i, .char hd hi, rfl⟩
  | @escape d t hd ht ih =>
    cases l with
    | nil =>
      obtain ⟨rfl, -⟩ := List.cons.inj h
      exact absurd hc (by decide)
    | cons x l =>
      obtain ⟨rfl, htail⟩ := List.cons.inj h
      cases l with
      | nil =>
        -- The break is the escaped character, which is no line feed.
        obtain ⟨rfl, rfl⟩ := List.cons.inj htail
        exact ⟨hc.resolve_right hd, ht, [], .nil, rfl⟩
      | cons y l =>
        obtain ⟨rfl, hrest⟩ := List.cons.inj htail
        obtain ⟨hreturn, hr, i, hi, rfl⟩ := ih hrest
        exact ⟨hreturn, hr, '\\' :: d :: i, .escape hd hi, rfl⟩

/-! ## Addresses -/

/-- The place between `l` and `r` in the text of the address is behind a backslash that escapes it
in a quoted local part. -/
def EscapedAt (a : Address) (l r : List Char) : Prop :=
  ∃ i j, Inside i ∧ Inside j ∧ l = '"' :: (i ++ ['\\']) ∧ r = j ++ '"' :: '@' :: a.domain

/-- A place of two texts that is none of the second is one of the first. -/
theorem exists_of_append_eq {α : Type} {p q l r : List α} {x : α} (hq : x ∉ q)
    (h : p ++ q = l ++ x :: r) : ∃ r', p = l ++ x :: r' ∧ r = r' ++ q := by
  rcases List.append_eq_append_iff.mp h with ⟨m, rfl, hm⟩ | ⟨m, rfl, hm⟩
  · have hmem : x ∈ q := by
      rw [hm]
      simp
    exact absurd hmem hq
  · cases m with
    | nil =>
      rw [List.nil_append] at hm
      have hmem : x ∈ q := by
        rw [← hm]
        simp
      exact absurd hmem hq
    | cons y m =>
      obtain ⟨rfl, rfl⟩ := List.cons.inj hm
      exact ⟨m, rfl, rfl⟩

/-- **In an address** a line break is an escaped carriage return. -/
theorem Grammatical.cut_of_lineBreak {a : Address} (ha : Grammatical a) {l r : List Char} {c : Char}
    (hc : IsLineBreak c) (h : addressText a = l ++ c :: r) : c = '\r' ∧ EscapedAt a l r := by
  have hdomain : c ∉ '@' :: a.domain := fun hmem => ha.domain_not_isLineBreak c hmem hc
  obtain ⟨r', hlocal, rfl⟩ := exists_of_append_eq hdomain h
  have hmem : c ∈ a.localPart := by
    rw [hlocal]
    simp
  rcases ha.localPart with hatom | ⟨s, hs, hquoted⟩
  · exact absurd hc (hatom.not_isLineBreak c hmem)
  · -- The break is neither of the quotes, so it is between them.
    have hopen : c ≠ '"' := by
      rintro rfl
      exact absurd hc (by decide)
    have hclose : c ∉ ['"'] := by simpa using hopen
    rw [hquoted] at hlocal
    cases l with
    | nil => exact absurd (List.cons.inj hlocal).1.symm hopen
    | cons x l =>
      obtain ⟨rfl, hinside⟩ := List.cons.inj hlocal
      obtain ⟨j, hcut, rfl⟩ := exists_of_append_eq hclose hinside
      obtain ⟨hreturn, hj, i, hi, rfl⟩ := hs.cut_of_lineBreak hc hcut
      exact ⟨hreturn, i, j, hi, hj, rfl, by simp⟩

/-- **Line breaks in accepted texts**: the text has a reading, and its address has no line feed, and
no carriage return but behind a backslash that escapes it in a quoted local part. -/
theorem lineBreaks_of_isValid {raw : String} (h : isValid raw = true) :
    ∃ t m, Text.Core raw.toList t ∧ ReadsAs t m ∧ '\n' ∉ addressText m.address ∧
      ∀ l r, addressText m.address = l ++ '\r' :: r → EscapedAt m.address l r := by
  obtain ⟨m, hm⟩ := Option.isSome_iff_exists.mp h
  have hread : ReadsAs (Text.trim raw.toList) m := parse?_eq_some.mp hm
  refine ⟨Text.trim raw.toList, m, Text.core_trim _, hread, ?_, ?_⟩
  · intro hmem
    obtain ⟨l, r, hcut⟩ := List.append_of_mem hmem
    obtain ⟨hreturn, -⟩ := hread.grammatical.cut_of_lineBreak (.inr rfl) hcut
    exact absurd hreturn (by decide)
  · intro l r hcut
    exact (hread.grammatical.cut_of_lineBreak (.inl rfl) hcut).2

/-- A quoted local part with an escaped carriage return between other escapes. -/
theorem lineBreaks_of_isValid_escaped :
    let raw := "Ann <\"\\\\a\\\r\\\"\"@[::1]> "
    isValid raw = true ∧ ∃ t m, Text.Core raw.toList t ∧ ReadsAs t m ∧
      '\n' ∉ addressText m.address ∧
      ∀ l r, addressText m.address = l ++ '\r' :: r → EscapedAt m.address l r := by
  intro raw
  have hvalid : isValid raw = true := by decide
  exact ⟨hvalid, lineBreaks_of_isValid hvalid⟩

/-- **A carriage return can hide** in an accepted address: the characters that stand for themselves
between quotes are no line breaks, but a backslash may stand in front of a carriage return. -/
theorem escapedReturn_isValid :
    let raw := "\"a\\\r\"@example.com"
    isValid raw = true ∧
      ∃ t m, Text.Core raw.toList t ∧ ReadsAs t m ∧ '\r' ∈ addressText m.address := by
  intro raw
  let m : Mailbox := .bare ⟨"\"a\\\r\"".toList, "example.com".toList⟩
  have hparse : parse? raw = some m := by decide
  have hvalid : isValid raw = true := by decide
  have hmem : '\r' ∈ addressText m.address := by decide
  exact ⟨hvalid, Text.trim raw.toList, m, Text.core_trim _, parse?_eq_some.mp hparse, hmem⟩

end UserDirectory.Mailbox
