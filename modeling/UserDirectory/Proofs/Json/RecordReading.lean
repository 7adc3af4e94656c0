import UserDirectory.Json.Record
import UserDirectory.Proofs.Json.Skipping
import UserDirectory.Proofs.Steps

/-!
# Proofs.Json.RecordReading — records read from every text of an object

* `Fills shape d ms d'`: the members `ms` turn the draft `d` into `d'` one by one: texts go into
  their fields, none of them twice, and members of other names do nothing.
* `readMember_afterQuote`: the reader of records takes one member, however it is written.
* `read_objectText`: it takes a whole object as its fields take the members.
* `texts ms`, `printed ms`: the texts `ms` with their names as members of a value, and as members
  of its text.
* `objectText_print`: what is printed is a text of an object with these members, so records are
  read back from it.
-/

namespace UserDirectory.Json

open Steps

/-! ## Tokens -/

theorem readEnd_blanks {b : List Char} (hb : Blanks b) : readEnd b = .ok () := by
  have hend : skipBlanks b = [] := by
    have hskip := skipBlanks_blanks hb []
    rwa [List.append_nil] at hskip
  unfold readEnd
  rw [hend]

namespace Shape

variable {δ : Type} {shape : Shape δ}

theorem readColon_blanks {b : List Char} (hb : Blanks b) (r : List Char) :
    readColon (b ++ ':' :: r) = .ok r := by
  unfold readColon
  rw [skipBlanks_blanks hb, skipBlanks_cons (by decide)]
  rfl

theorem nextName_close {b : List Char} (hb : Blanks b) (isFirst : Bool) (r : List Char) :
    nextName isFirst (b ++ '\x7d' :: r) = .ok (.close r) := by
  unfold nextName
  rw [skipBlanks_blanks hb, skipBlanks_cons (by decide)]
  rfl

theorem nextName_first {b : List Char} (hb : Blanks b) (r : List Char) :
    nextName true (b ++ '"' :: r) = .ok (.name r) := by
  unfold nextName
  rw [skipBlanks_blanks hb, skipBlanks_cons (by decide)]
  rfl

theorem nextName_further {b b' : List Char} (hb : Blanks b) (hb' : Blanks b') (r : List Char) :
    nextName false (b ++ ',' :: (b' ++ '"' :: r)) = .ok (.name r) := by
  have hcomma : ∀ r, skipBlanks (b ++ ',' :: r) = ',' :: r := by
    intro r
    rw [skipBlanks_blanks hb, skipBlanks_cons (by decide)]
  have hname : skipBlanks (b' ++ '"' :: r) = '"' :: r := by
    rw [skipBlanks_blanks hb', skipBlanks_cons (by decide)]
  simp [nextName, hcomma, hname]

/-! ## Members -/

/-- The member turns one draft into another. -/
inductive Fill (shape : Shape δ) (d : δ) (m : String × List Char) : δ → Prop
  | other : shape.field? m.1 = none → ValueText m.2 → Fill shape d m d
  | field {e s f} : shape.field? m.1 = some f → f.isSet d = false → StringText s m.2 →
    f.set s d = .ok e → Fill shape d m e

/-- The members do so one after the other. -/
inductive Fills (shape : Shape δ) : δ → List (String × List Char) → δ → Prop
  | nil {d} : Fills shape d [] d
  | cons {d e d' m ms} : Fill shape d m e → Fills shape e ms d' → Fills shape d (m :: ms) d'

/-- A member behind the quote that opens its name. -/
inductive AfterQuote (m : String × List Char) : List Char → Prop
  | mk {name b value} : Spells m.1.toList name → Blanks b → Padded m.2 value →
    AfterQuote m (name ++ '"' :: (b ++ ':' :: value))

theorem exists_afterQuote {m : String × List Char} {t : List Char} (h : NamedMember m t) :
    ∃ b u, Blanks b ∧ AfterQuote m u ∧ t = b ++ '"' :: u := by
  obtain ⟨hname, ⟨hb, hb'⟩, hvalue⟩ := h
  refine ⟨_, _, hb, .mk hname hb' hvalue, ?_⟩
  simp [quoted]

theorem readValue_text {f : Field δ} {d e : δ} {s : String} {v b : List Char}
    (hv : StringText s v) (hset : f.set s d = .ok e) (hb : Blanks b) (rest : List Char) :
    shape.readValue f d (b ++ (v ++ rest)) = .ok (e, rest) := by
  obtain ⟨n, hspells, rfl⟩ := hv
  have hquoted : quoted n ++ rest = '"' :: (n ++ '"' :: rest) := by simp [quoted]
  unfold readValue
  rw [skipBlanks_blanks hb, hquoted, skipBlanks_cons (by decide)]
  show (stringTail _ >>= _) = _
  rw [stringTail_spells hspells, ok_bind]
  dsimp only
  rw [hset]
  rfl

/-- **One member**: the reader does to the draft what the member does, and leaves what follows. -/
theorem readMember_text {d e : δ} {m : String × List Char} {name b b' rest : List Char}
    (hname : Spells m.1.toList name) (hb : Blanks b) (hb' : Blanks b') (hm : Fill shape d m e)
    (hrest : Stops rest) :
    shape.readMember d (name ++ '"' :: (b ++ ':' :: (b' ++ (m.2 ++ rest)))) = .ok (e, rest) := by
  unfold readMember
  rw [stringTail_spells hname, ok_bind]
  dsimp only
  cases hm with
  | other hnone hvalue =>
    rw [hnone]
    dsimp only
    rw [readColon_blanks hb, ok_bind, skipValue_padded hb' hvalue hrest, ok_bind]
    rfl
  | field hf hunset hv hset =>
    rw [hf]
    dsimp only
    rw [hunset]
    show (readColon _ >>= _) = _
    rw [readColon_blanks hb, ok_bind]
    exact readValue_text hv hset hb' rest

theorem readMember_afterQuote {d e : δ} {m : String × List Char} {u rest : List Char}
    (hu : AfterQuote m u) (hm : Fill shape d m e) (hrest : Stops rest) :
    ∃ b, Blanks b ∧ shape.readMember d (u ++ rest) = .ok (e, b ++ rest) := by
  obtain ⟨hname, hb, @⟨before, after, hbefore, hafter⟩⟩ := hu
  refine ⟨after, hafter, ?_⟩
  simp only [List.append_assoc, List.cons_append]
  exact readMember_text hname hb hbefore hm (hrest.blanks hafter)

/-! ## Objects -/

/-- Members that are listed start with a name. -/
theorem exists_name {m : String × List Char} {ms : List (String × List Char)} {t : List Char}
    (h : Listed NamedMember (m :: ms) t) : ∃ b u, Blanks b ∧ t = b ++ '"' :: u := by
  cases h with
  | one hm =>
    obtain ⟨b, u, hb, -, rfl⟩ := exists_afterQuote hm
    exact ⟨b, u, hb, rfl⟩
  | more hm _ =>
    obtain ⟨b, u, hb, -, rfl⟩ := exists_afterQuote hm
    exact ⟨b, _, hb, List.append_assoc b _ _⟩

theorem readMembers_close {d : δ} {u rest : List Char} {isFirst : Bool}
    (hu : nextName isFirst u = .ok (.close rest)) (hmissing : shape.missing? d = none)
    (fuel : Nat) : shape.readMembers (fuel + 1) isFirst d u = .ok (d, rest) := by
  rw [readMembers, hu]
  dsimp only
  rw [hmissing]

theorem readMembers_name {d e : δ} {u v rest : List Char} {isFirst : Bool}
    (hu : nextName isFirst u = .ok (.name v)) (hmember : shape.readMember d v = .ok (e, rest))
    (fuel : Nat) :
    shape.readMembers (fuel + 1) isFirst d u = shape.readMembers fuel false e rest := by
  rw [readMembers, hu]
  dsimp only
  rw [hmember]

/-- The members of an object, from the first name that is not read yet to the closing brace. -/
theorem readMembers_listed {d d' : δ} {ms : List (String × List Char)} {t rest : List Char}
    (h : Listed NamedMember ms t) (hfills : Fills shape d ms d')
    (hmissing : shape.missing? d' = none) {fuel : Nat} (hfuel : ms.length < fuel) {isFirst : Bool}
    {u : List Char} (hu : nextName isFirst u = nextName true (t ++ '\x7d' :: rest)) :
    shape.readMembers fuel isFirst d u = .ok (d', rest) := by
  obtain ⟨fuel, rfl⟩ : ∃ n, fuel = n + 1 := ⟨fuel - 1, by omega⟩
  induction h generalizing d fuel isFirst u with
  | none hb =>
    cases hfills
    rw [nextName_close hb] at hu
    exact readMembers_close hu hmissing fuel
  | one hm =>
    obtain ⟨b, v, hb, hv, rfl⟩ := exists_afterQuote hm
    rw [List.append_assoc, List.cons_append, nextName_first hb] at hu
    cases hfills with
    | cons hfill hnil =>
      cases hnil
      have hstops := stops_punctuation (.inr (.inr rfl)) rest
      obtain ⟨b', hb', hmember⟩ := readMember_afterQuote hv hfill hstops
      rw [List.length_singleton] at hfuel
      obtain ⟨fuel, rfl⟩ : ∃ n, fuel = n + 1 := ⟨fuel - 1, by omega⟩
      rw [readMembers_name hu hmember]
      exact readMembers_close (nextName_close hb' false rest) hmissing fuel
  | @more m m' ms t t' hm hms ih =>
    obtain ⟨b, v, hb, hv, rfl⟩ := exists_afterQuote hm
    rw [List.append_assoc, List.append_assoc, List.cons_append, nextName_first hb] at hu
    cases hfills with
    | cons hfill hfills =>
      have hstops := stops_punctuation (.inl rfl) (t' ++ '\x7d' :: rest)
      obtain ⟨b', hb', hmember⟩ := readMember_afterQuote hv hfill hstops
      rw [readMembers_name hu hmember]
      -- The comma has been read where the next name is looked for.
      obtain ⟨b'', w, hb'', rfl⟩ := exists_name hms
      rw [List.append_assoc, List.cons_append] at ih ⊢
      have hnext : nextName false (b' ++ ',' :: (b'' ++ '"' :: (w ++ '\x7d' :: rest))) =
          nextName true (b'' ++ '"' :: (w ++ '\x7d' :: rest)) := by
        rw [nextName_further hb' hb'', nextName_first hb'']
      rw [List.length_cons] at hfuel
      obtain ⟨fuel, rfl⟩ : ∃ n, fuel = n + 1 := ⟨fuel - 1, by omega⟩
      exact ih hfills hnext fuel (by omega)

/-- Each member takes a character at least. -/
theorem length_le_of_listed {ms : List (String × List Char)} {t : List Char}
    (h : Listed NamedMember ms t) : ms.length ≤ t.length := by
  induction h with
  | none _ => exact Nat.zero_le _
  | one hm =>
    obtain ⟨b, u, -, -, rfl⟩ := exists_afterQuote hm
    simp only [List.length_append, List.length_cons, List.length_nil]
    omega
  | more hm _ ih =>
    simp only [List.length_append, List.length_cons] at ih ⊢
    omega

/-- **Records are read** from every text of an object as their fields take its members, and
nothing but white space is left. -/
theorem read_objectText {d : δ} {ms : List (String × List Char)} {t : List Char}
    (h : ObjectText ms t) (hfills : Fills shape shape.empty ms d)
    (hmissing : shape.missing? d = none) :
    ∃ b, Blanks b ∧ shape.read t = .ok (d, b) := by
  obtain @⟨t, u, hms, -, @⟨before, after, hbefore, hafter⟩⟩ := h
  refine ⟨after, hafter, ?_⟩
  have hlength := length_le_of_listed hms
  have hfuel : ms.length < (t ++ '\x7d' :: after).length + 1 := by
    rw [List.length_append]
    omega
  have hread : shape.readMembers _ true _ (t ++ '\x7d' :: after) = .ok (d, after) :=
    readMembers_listed hms hfills hmissing hfuel rfl
  unfold read
  rw [skipBlanks_blanks hbefore]
  simp only [List.cons_append, List.append_assoc, List.nil_append]
  rw [skipBlanks_cons (by decide)]
  exact hread

/-! ## Printed objects -/

/-- Members that are texts, as members of a value. -/
def texts (ms : List (String × String)) : List (String × Json) :=
  ms.map fun m => (m.1, .string m.2)

/-- The same members, their values as they are printed. -/
def printed (ms : List (String × String)) : List (String × List Char) :=
  ms.map fun m => (m.1, quote m.2.toList)

theorem namedMember_print (name s : String) :
    NamedMember (name, quote s.toList) (quote name.toList ++ ':' :: quote s.toList) :=
  .mk (spells_escaped name.toList) (.mk (Padded.self _) (Padded.self _))

theorem listed_print (ms : List (String × String)) :
    Listed NamedMember (printed ms) (printMembers (texts ms)) := by
  induction ms with
  | nil => exact .none (b := []) (by decide)
  | cons m ms ih =>
    cases ms with
    | nil => exact .one (namedMember_print m.1 m.2)
    | cons m' ms =>
      have hprint : printMembers (texts (m :: m' :: ms)) =
          (quote m.1.toList ++ ':' :: quote m.2.toList) ++ ',' :: printMembers (texts (m' :: ms)) := by
        simp [texts, printMembers, print]
      rw [hprint]
      exact .more (namedMember_print m.1 m.2) ih

/-- **A printed object** is a text of an object with the members that are printed. -/
theorem objectText_print (ms : List (String × String)) :
    ObjectText (printed ms) (print (.object (texts ms))) := by
  have hvalues : ∀ m ∈ printed ms, ValueText m.2 := by
    intro m hm
    obtain ⟨m', -, rfl⟩ := List.mem_map.mp hm
    exact .string (spells_escaped m'.2.toList).inside
  have hprint : print (.object (texts ms)) = '\x7b' :: (printMembers (texts ms) ++ ['\x7d']) := by
    simp [print]
  rw [hprint]
  exact .mk (listed_print ms) hvalues (Padded.self _)

end Shape
end UserDirectory.Json
