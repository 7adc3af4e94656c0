import Mathlib.Tactic.Common
import UserDirectory.Json.Parser
import UserDirectory.Proofs.Json.Strings
import UserDirectory.Proofs.Steps

/-!
# Proofs.Json.Text — values read back from the text that writes them

* `NumberFree v`: no number occurs in `v`, however deep.
* `readValue_print`: the reader of values takes the text of such a value whole and leaves what
  follows it.  `parse_print`, `parse_text`: so the parser inverts the printer.
-/

namespace UserDirectory.Json

open Steps

/-! ## Values -/

/-- No number occurs in the value. -/
inductive NumberFree : Json → Prop
  | null : NumberFree .null
  | bool (b : Bool) : NumberFree (.bool b)
  | string (s : String) : NumberFree (.string s)
  | array {vs : List Json} : (∀ v ∈ vs, NumberFree v) → NumberFree (.array vs)
  | object {ms : List (String × Json)} : (∀ m ∈ ms, NumberFree m.2) → NumberFree (.object ms)

/-- The text of the value is taken whole if the reader may call itself twice for each character
of it. -/
def ReadsBack (v : Json) : Prop :=
  ∀ fuel rest, 2 * (print v).length ≤ fuel → readValue fuel (print v ++ rest) = .ok (v, rest)

/-- The text of a value starts with a character that is no blank and closes nothing. -/
theorem NumberFree.print_head {v : Json} (h : NumberFree v) :
    ∃ c r, print v = c :: r ∧ isBlank c = false ∧ c ≠ ']' := by
  cases h with
  | null => exact ⟨_, _, rfl, rfl, by decide⟩
  | bool b => cases b <;> exact ⟨_, _, rfl, rfl, by decide⟩
  | string s => exact ⟨_, _, rfl, rfl, by decide⟩
  | array _ => exact ⟨_, _, rfl, rfl, by decide⟩
  | object _ => exact ⟨_, _, rfl, rfl, by decide⟩

theorem printItems_cons (v : Json) (vs : List Json) (r : List Char) :
    printItems (v :: vs) ++ ']' :: r = print v ++
      (match vs with
        | [] => ']' :: r
        | w :: vs => ',' :: (printItems (w :: vs) ++ ']' :: r)) := by
  cases vs <;> simp [printItems]

theorem readItems_print {vs : List Json} (hne : vs ≠ []) (h : ∀ v ∈ vs, ReadsBack v) (fuel : Nat)
    (rest : List Char) (hfuel : 2 * (printItems vs).length + 1 ≤ fuel) :
    readItems fuel (printItems vs ++ ']' :: rest) = .ok (vs, rest) := by
  induction vs generalizing fuel with
  | nil => exact absurd rfl hne
  | cons v vs ih =>
    have hv := h v List.mem_cons_self
    cases fuel with
    | zero => omega
    | succ fuel =>
      rw [printItems_cons, readItems]
      cases vs with
      | nil =>
        rw [printItems] at hfuel
        rw [hv fuel _ (by omega), ok_bind]
        rfl
      | cons w vs =>
        rw [printItems, List.length_append, List.length_cons] at hfuel
        have htail := ih (List.cons_ne_nil w vs) (fun x hx => h x (List.mem_cons_of_mem v hx)) fuel
          (by omega)
        rw [hv fuel _ (by omega), ok_bind]
        show (readItems fuel (printItems (w :: vs) ++ ']' :: rest) >>= _) = _
        rw [htail]
        rfl

theorem printMembers_cons (k : String) (v : Json) (ms : List (String × Json)) (r : List Char) :
    printMembers ((k, v) :: ms) ++ '\x7d' :: r =
      '"' :: (k.toList.flatMap escapeChar ++ '"' :: ':' :: (print v ++
        (match ms with
          | [] => '\x7d' :: r
          | m :: ms => ',' :: (printMembers (m :: ms) ++ '\x7d' :: r)))) := by
  cases ms <;> simp [printMembers, quote]

theorem readMembers_print {ms : List (String × Json)} (hne : ms ≠ [])
    (h : ∀ m ∈ ms, ReadsBack m.2) (fuel : Nat) (rest : List Char)
    (hfuel : 2 * (printMembers ms).length + 1 ≤ fuel) :
    readMembers fuel (printMembers ms ++ '\x7d' :: rest) = .ok (ms, rest) := by
  induction ms generalizing fuel with
  | nil => exact absurd rfl hne
  | cons m ms ih =>
    obtain ⟨k, v⟩ := m
    have hv : ReadsBack v := h (k, v) List.mem_cons_self
    cases fuel with
    | zero => omega
    | succ fuel =>
      rw [printMembers_cons, readMembers, skipBlanks_cons (by decide)]
      cases ms with
      | nil =>
        rw [printMembers, List.length_append, List.length_cons] at hfuel
        show (stringTail _ >>= _) = _
        rw [stringTail_quote, ok_bind]
        show (readValue fuel _ >>= _) = _
        rw [hv fuel _ (by omega), ok_bind]
        rfl
      | cons m ms =>
        rw [printMembers, List.length_append, List.length_cons, List.length_append,
          List.length_cons] at hfuel
        have htail := ih (List.cons_ne_nil m ms) (fun x hx => h x (List.mem_cons_of_mem _ hx)) fuel
          (by omega)
        show (stringTail _ >>= _) = _
        rw [stringTail_quote, ok_bind]
        show (readValue fuel _ >>= _) = _
        rw [hv fuel _ (by omega), ok_bind]
        show (readMembers fuel (printMembers (m :: ms) ++ '\x7d' :: rest) >>= _) = _
        rw [htail]
        rfl

theorem readsBack_array {vs : List Json} (hfree : ∀ v ∈ vs, NumberFree v)
    (h : ∀ v ∈ vs, ReadsBack v) : ReadsBack (.array vs) := by
  intro fuel rest hfuel
  have heq : print (.array vs) ++ rest = '[' :: (printItems vs ++ ']' :: rest) := by simp [print]
  rw [print, List.length_cons, List.length_append] at hfuel
  cases fuel with
  | zero => omega
  | succ fuel =>
    rw [heq]
    cases vs with
    | nil => rfl
    | cons v vs =>
      obtain ⟨c, r, hprint, hblank, hclose⟩ := (hfree v List.mem_cons_self).print_head
      have hitems := readItems_print (List.cons_ne_nil v vs) h fuel rest (by omega)
      rw [printItems_cons, hprint, List.cons_append] at hitems ⊢
      rw [readValue, skipBlanks_cons (by decide)]
      simp only [Char.reduceBEq, Char.reduceIsDigit, Bool.or_self, Bool.false_eq_true, if_false,
        if_true]
      rw [skipBlanks_cons hblank]
      split
      · next heq =>
        cases heq
        exact absurd rfl hclose
      · rw [hitems]
        rfl

theorem readsBack_object {ms : List (String × Json)} (h : ∀ m ∈ ms, ReadsBack m.2) :
    ReadsBack (.object ms) := by
  intro fuel rest hfuel
  have heq : print (.object ms) ++ rest = '\x7b' :: (printMembers ms ++ '\x7d' :: rest) := by
    simp [print]
  rw [print, List.length_cons, List.length_append] at hfuel
  cases fuel with
  | zero => omega
  | succ fuel =>
    rw [heq]
    cases ms with
    | nil => rfl
    | cons m ms =>
      have hmembers := readMembers_print (List.cons_ne_nil m ms) h fuel rest (by omega)
      rw [printMembers_cons] at hmembers ⊢
      show ((readMembers fuel _).map fun p => (Json.object p.1, p.2)) = _
      rw [hmembers]
      rfl

/-- **Values read back**: the reader takes the text of a value whole, whatever follows it. -/
theorem readValue_print {v : Json} (h : NumberFree v) : ReadsBack v := by
  induction h with
  | null =>
    intro fuel rest hfuel
    cases fuel with
    | zero => cases hfuel
    | succ fuel => rfl
  | bool b =>
    intro fuel rest hfuel
    cases fuel with
    | zero => cases b <;> cases hfuel
    | succ fuel => cases b <;> rfl
  | string s =>
    intro fuel rest hfuel
    cases fuel with
    | zero => cases hfuel
    | succ fuel =>
      rw [print, quote_append]
      show (stringTail _).map _ = _
      rw [stringTail_quote]
      rfl
  | array hfree ih => exact readsBack_array hfree ih
  | object _ ih => exact readsBack_object ih

/-- **The parser inverts the printer** on values without numbers. -/
theorem parse_print {v : Json} (h : NumberFree v) : parse (print v) = .ok v := by
  have hread := readValue_print h (2 * (print v).length + 2) [] (by omega)
  rw [List.append_nil] at hread
  unfold parse
  rw [hread, ok_bind]
  rfl

theorem parse_text {v : Json} (h : NumberFree v) : parse v.text.toList = .ok v := by
  unfold text
  rw [String.toList_ofList, parse_print h]

/-- There are no numbers in an object of texts. -/
theorem NumberFree.texts (ms : List (String × String)) :
    NumberFree (.object (ms.map fun m => (m.1, .string m.2))) := by
  refine .object fun m hm => ?_
  obtain ⟨⟨name, s⟩, -, rfl⟩ := List.mem_map.mp hm
  exact .string s

end UserDirectory.Json
