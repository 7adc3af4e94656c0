import UserDirectory.Proofs.Mailbox.Parse

/-!
# Proofs.Mailbox.Unambiguous — no text is read in two ways

* `Mailbox.address`: the address in a mailbox, bare or in brackets.
* `Grammatical.eq_of_append`: an address ends where it ends, whatever follows it.
* `Display.eq_of_append`: so does the display name in front of the bracket.
* `ReadsAs.unique`: two derivations of one text give the same mailbox.
* `isValid_iff_one_reading`: the accepted texts are those with exactly one reading.

`<`, `>` and `@` may stand between quotes and in a domain literal too.  A cut at one of those is
never a second reading, since a derivation that starts at the same place goes through the same
quotes and escapes.
-/

namespace UserDirectory.Mailbox

/-- The address in a mailbox. -/
def address : Mailbox → Address
  | .bare a => a
  | .bracketed _ a => a

/-! ## Cuts -/

/-- Two addresses at the start of one text are the same if neither could go on as a word. -/
theorem Grammatical.eq_of_append {a b : Address} (ha : Grammatical a) (hb : Grammatical b)
    {r s : List Char} (hr : Stops r) (hs : Stops s)
    (h : addressText a ++ r = addressText b ++ s) : a = b ∧ r = s := by
  have hscan := scanAddress_append ha hr
  rw [h, scanAddress_append hb hs] at hscan
  simp only [Option.some.injEq, Prod.mk.injEq] at hscan
  obtain ⟨rfl, rfl⟩ := hscan
  exact ⟨rfl, rfl⟩

/-- An address has one local part and one domain. -/
theorem Grammatical.eq_of_addressText {a b : Address} (ha : Grammatical a) (hb : Grammatical b)
    (h : addressText a = addressText b) : a = b := by
  have hstops : Stops [] := by
    intro c hc
    cases hc
  obtain ⟨hab, -⟩ := ha.eq_of_append hb hstops hstops (congrArg (· ++ []) h)
  exact hab

/-- Two display names in front of an opening bracket of one text are the same. -/
theorem Display.eq_of_append {d e : List Char} (hd : Display d) (he : Display e)
    {r s : List Char} (h : d ++ '<' :: r = e ++ '<' :: s) : d = e ∧ r = s := by
  have hscan := scanDisplay_append hd.loose ('<' :: r)
  rw [h, scanDisplay_append he.loose, scanDisplay_open, scanDisplay_open] at hscan
  simp only [Option.map_some, Option.some.injEq, Prod.mk.injEq, List.append_nil,
    List.cons.injEq, true_and] at hscan
  obtain ⟨rfl, rfl⟩ := hscan
  exact ⟨rfl, rfl⟩

/-! ## Readings -/

/-- **No text is derived as two mailboxes.** -/
theorem ReadsAs.unique {t : List Char} {m n : Mailbox} (hm : ReadsAs t m) (hn : ReadsAs t n) :
    m = n := by
  -- The text of each reading is compared with that of the other, kind by kind.
  generalize ht : t = t' at hn
  cases hm with
  | bare ha =>
    cases hn with
    | bare hb => rw [ha.eq_of_addressText hb ht]
    | bracketed hd _ => exact absurd ht (addressText_ne_bracketed ha hd _)
  | bracketed hd ha =>
    cases hn with
    | bare hb => exact absurd ht.symm (addressText_ne_bracketed hb hd _)
    | bracketed he hb =>
      obtain ⟨rfl, hrest⟩ := hd.eq_of_append he ht
      have hclose : Stops ['>'] := stops_cons (by decide) []
      obtain ⟨rfl, -⟩ := ha.eq_of_append hb hclose hclose hrest
      rfl

theorem ReadsAs.grammatical {t : List Char} {m : Mailbox} (h : ReadsAs t m) :
    Grammatical m.address := by
  cases h with
  | bare ha => exact ha
  | bracketed _ ha => exact ha

/-- **The grammar is unambiguous**: a text is accepted if and only if what is left of it without
the white space at its ends has a reading, and then it has one reading only.  It is a bare address
or one in brackets and not both; no other text stands in front of the bracket; and the address has
no other local part and no other domain. -/
theorem isValid_iff_one_reading (raw : String) :
    isValid raw = true ↔ ∃ t m, Text.Core raw.toList t ∧ ReadsAs t m ∧
      (∀ s n, Text.Core raw.toList s → ReadsAs s n → s = t ∧ n = m) ∧
      ∀ b, Grammatical b → addressText b = addressText m.address → b = m.address := by
  unfold isValid
  rw [Option.isSome_iff_exists]
  constructor
  · rintro ⟨m, hm⟩
    have hread : ReadsAs (Text.trim raw.toList) m := parse?_eq_some.mp hm
    refine ⟨Text.trim raw.toList, m, Text.core_trim _, hread, ?_, ?_⟩
    · intro s n hs hn
      obtain rfl := Text.core_iff.mp hs
      exact ⟨rfl, hn.unique hread⟩
    · intro b hb htext
      exact hb.eq_of_addressText hread.grammatical htext
  · rintro ⟨t, m, ht, hm, -, -⟩
    obtain rfl := Text.core_iff.mp ht
    exact ⟨m, parse?_eq_some.mpr hm⟩

/-- Quotes, brackets and signs where they mean nothing. -/
example : parse? "\"<a@b>\" c <\"@<\\\"\"@[<>@]>" =
    some (.bracketed "\"<a@b>\" c ".toList ⟨"\"@<\\\"\"".toList, "[<>@]".toList⟩) := by decide

end UserDirectory.Mailbox
