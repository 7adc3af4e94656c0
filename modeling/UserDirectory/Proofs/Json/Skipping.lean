import Mathlib.Tactic.Common
import UserDirectory.Json.Skip
import UserDirectory.Proofs.Json.Strings

/-!
# Proofs.Json.Skipping — passing over a value takes the value and nothing else

* `resume frames rest`: what becomes of the text behind a value inside the open brackets.
* `Stops rest`: a number does not go on in `rest`.
* `skip_inside`, `skip_number`, `skip_items`, `skip_members`: one lemma for each kind of text.
* `skip_valueText`: whatever the value and however deep, what follows it is resumed with the
  brackets that were open before it.
-/

namespace UserDirectory.Json

open Text (hexValue?)

/-- What becomes of the text behind a value: it is left if no bracket is open. -/
def resume (frames : List Frame) (rest : List Char) : Except Fault (List Char) :=
  if frames.isEmpty then .ok rest else skip .member frames rest

theorem resume_cons (frame : Frame) (frames : List Frame) (rest : List Char) :
    resume (frame :: frames) rest = skip .member (frame :: frames) rest := rfl

/-- A number does not go on: there is no digit, point or exponent. -/
def Stops (rest : List Char) : Prop :=
  ∀ c ∈ rest.head?, c.isDigit = false ∧ c ≠ '.' ∧ c ≠ 'e' ∧ c ≠ 'E'

/-! ## One character -/

section Step

variable {mode mode' : SkipMode} {frames frames' : List Frame} {c : Char} {r : List Char}

theorem skip_of_more (h : mode.step frames c r = .more mode' frames') :
    skip mode frames (c :: r) = skip mode' frames' r := by
  rw [skip, h]

theorem skip_of_completed (h : mode.step frames c r = completed frames' r) :
    skip mode frames (c :: r) = resume frames' r := by
  rw [skip, h]
  unfold completed resume
  split_ifs <;> rfl

/-- Where a number may end, the next character is taken as one behind a member. -/
theorem skip_of_member (h : mode.step frames c r = stepMember frames c r) :
    skip mode frames (c :: r) = resume frames (c :: r) := by
  cases frames with
  | nil =>
    rw [skip, h]
    rfl
  | cons frame frames =>
    rw [skip, h, resume_cons, skip]
    rfl

end Step

/-! ## White space -/

/-- White space changes nothing where it leads back to where it was read. -/
theorem skip_blanks {mode : SkipMode} {frames : List Frame} {b : List Char}
    (hstep : ∀ c r, isBlank c = true → mode.step frames c r = .more mode frames) (hb : Blanks b)
    (rest : List Char) : skip mode frames (b ++ rest) = skip mode frames rest := by
  induction b with
  | nil => rfl
  | cons c b ih =>
    have hblank : isBlank c = true := isBlank_iff.mpr (hb c List.mem_cons_self)
    rw [List.cons_append, skip_of_more (hstep c _ hblank), ih hb.tail]

section Blank

variable {frame : Frame} {frames : List Frame} {b : List Char}

theorem skip_value_blanks (hb : Blanks b) (frames : List Frame) (rest : List Char) :
    skip .value frames (b ++ rest) = skip .value frames rest := by
  refine skip_blanks ?_ hb rest
  intro c r hc
  show stepValue frames c r = _
  rw [stepValue, if_pos hc]

theorem skip_opened_blanks (hb : Blanks b) (rest : List Char) :
    skip .opened (frame :: frames) (b ++ rest) = skip .opened (frame :: frames) rest := by
  refine skip_blanks ?_ hb rest
  intro c r hc
  show stepOpened (frame :: frames) c r = _
  rw [stepOpened, if_pos hc]

theorem skip_member_blanks (hb : Blanks b) (rest : List Char) :
    skip .member (frame :: frames) (b ++ rest) = skip .member (frame :: frames) rest := by
  refine skip_blanks ?_ hb rest
  intro c r hc
  show stepMember (frame :: frames) c r = _
  rw [stepMember, if_pos hc]

theorem skip_name_blanks (hb : Blanks b) (rest : List Char) :
    skip .name frames (b ++ rest) = skip .name frames rest := by
  refine skip_blanks ?_ hb rest
  intro c r hc
  show stepName frames c r = _
  rw [stepName, if_pos hc]

theorem skip_colon_blanks (hb : Blanks b) (rest : List Char) :
    skip .colon frames (b ++ rest) = skip .colon frames rest := by
  refine skip_blanks ?_ hb rest
  intro c r hc
  show (if isBlank c then _ else _) = _
  rw [if_pos hc]

end Blank

/-! ## Words -/

theorem skip_letters {w : List Char} (hw : w ≠ []) (frames : List Frame) (rest : List Char) :
    skip (.word w) frames (w ++ rest) = resume frames rest := by
  induction w with
  | nil => exact absurd rfl hw
  | cons e w ih =>
    cases w with
    | nil =>
      refine skip_of_completed ?_
      simp [SkipMode.step]
    | cons e' w =>
      have hmore : ∀ r, skip (.word (e :: e' :: w)) frames (e :: r) =
          skip (.word (e' :: w)) frames r := by
        intro r
        refine skip_of_more ?_
        simp [SkipMode.step]
      rw [List.cons_append, hmore, ih (List.cons_ne_nil e' w)]

theorem skip_words {w : List Char} (hw : w ∈ words) (frames : List Frame) (rest : List Char) :
    skip .value frames (w ++ rest) = resume frames rest := by
  simp only [words, List.mem_cons, List.not_mem_nil, or_false] at hw
  rcases hw with rfl | rfl | rfl <;>
    exact (skip_of_more rfl).trans (skip_letters (List.cons_ne_nil _ _) frames rest)

/-! ## Strings -/

section String

variable {frames : List Frame} (isName : Bool)

theorem skip_literal {c : Char} (hc : Literal c) (r : List Char) :
    skip (.string isName) frames (c :: r) = skip (.string isName) frames r := by
  obtain ⟨hcontrol, hquote, hbackslash⟩ := hc
  refine skip_of_more ?_
  show (if c == '"' then _ else _) = _
  rw [if_neg (by simpa using hquote), if_neg (by simpa using hbackslash), if_neg (by omega)]

theorem skip_backslash (r : List Char) :
    skip (.string isName) frames ('\\' :: r) = skip (.escape isName) frames r :=
  skip_of_more rfl

theorem skip_letter {e c : Char} (h : Letter e c) (r : List Char) :
    skip (.escape isName) frames (e :: r) = skip (.string isName) frames r := by
  refine skip_of_more ?_
  show (if e == 'u' then _ else _) = _
  rw [if_neg (by simpa using h.ne_u), h.unescape?]
  rfl

theorem skip_digit {c : Char} {i : Nat} (h : hexValue? c = some i) (start : List Char)
    (seen : Nat) (r : List Char) :
    skip (.digits isName start seen) frames (c :: r) =
      if seen < 3 then skip (.digits isName start (seen + 1)) frames r
      else skip (.string isName) frames r := by
  have hstep : (SkipMode.digits isName start seen).step frames c r =
      if seen < 3 then .more (.digits isName start (seen + 1)) frames
      else .more (.string isName) frames := by
    show (if (hexValue? c).isNone then _ else _) = _
    rw [h]
    rfl
  rw [skip, hstep]
  split_ifs <;> rfl

theorem skip_unit {ds : List Char} {n : Nat} (h : UnitText ds n) (r : List Char) :
    skip (.escape isName) frames ('u' :: (ds ++ r)) = skip (.string isName) frames r := by
  obtain ⟨ha, hb, hc, hd⟩ := h
  have hopen : ∀ t, skip (.escape isName) frames ('u' :: t) =
      skip (.digits isName t 0) frames t := fun t => skip_of_more rfl
  simp only [List.cons_append, List.nil_append]
  rw [hopen, skip_digit isName ha, if_pos (by omega), skip_digit isName hb, if_pos (by omega),
    skip_digit isName hc, if_pos (by omega), skip_digit isName hd, if_neg (by omega)]

/-- **Strings are passed over** up to their closing quote, halves of pairs and all. -/
theorem skip_inside {t : List Char} (h : Inside t) (frames : List Frame) (rest : List Char) :
    skip (.string isName) frames (t ++ '"' :: rest) =
      if isName then skip .colon frames rest else resume frames rest := by
  induction h with
  | nil =>
    cases isName with
    | true => exact skip_of_more rfl
    | false => exact skip_of_completed rfl
  | literal hc _ ih => rw [List.cons_append, skip_literal isName hc, ih]
  | letter he _ ih =>
    rw [List.cons_append, List.cons_append, skip_backslash, skip_letter isName he, ih]
  | unit hds _ ih =>
    rw [List.cons_append, List.cons_append, List.append_assoc, skip_backslash,
      skip_unit isName hds, ih]

end String

/-! ## Numbers -/

/-- The parts after which a number may end. -/
inductive NumeralMode.Final : NumeralMode → Prop
  | zero : Final .zero
  | whole : Final .whole
  | fraction : Final .fraction
  | exponentDigits : Final .exponentDigits

/-- Where a number may end and does not go on, it is a value. -/
theorem skip_end {part : NumeralMode} (hpart : part.Final) {rest : List Char} (h : Stops rest)
    (frames : List Frame) : skip (.numeral part) frames rest = resume frames rest := by
  cases rest with
  | nil =>
    cases hpart <;> cases frames <;> rfl
  | cons c r =>
    obtain ⟨hdigit, hpoint, hlower, hupper⟩ := h c rfl
    refine skip_of_member ?_
    show stepNumeral frames part c r = _
    cases hpart <;> simp [stepNumeral, hdigit, hpoint, hlower, hupper]

/-- A digit leads from one part of a number to another. -/
inductive NumeralMode.Leads : NumeralMode → NumeralMode → Prop
  | whole : Leads .whole .whole
  | point : Leads .point .fraction
  | fraction : Leads .fraction .fraction
  | exponent : Leads .exponent .exponentDigits
  | sign : Leads .sign .exponentDigits
  | exponentDigits : Leads .exponentDigits .exponentDigits

section Number

variable {part part' : NumeralMode} {c : Char} {ds : List Char}

theorem NumeralMode.Leads.again (h : part.Leads part') : part'.Leads part' := by
  cases h with
  | whole => exact .whole
  | point | fraction => exact .fraction
  | exponent | sign | exponentDigits => exact .exponentDigits

theorem ne_of_isDigit (hc : c.isDigit = true) {d : Char} (hd : d.isDigit = false) : c ≠ d := by
  rintro rfl
  rw [hc] at hd
  cases hd

theorem skip_numeral_digit (h : part.Leads part') (hc : c.isDigit = true) (frames : List Frame)
    (r : List Char) :
    skip (.numeral part) frames (c :: r) = skip (.numeral part') frames r := by
  have hplus : c ≠ '+' := ne_of_isDigit hc rfl
  have hminus : c ≠ '-' := ne_of_isDigit hc rfl
  refine skip_of_more ?_
  show stepNumeral frames part c r = _
  cases h <;> simp [stepNumeral, hc, hplus, hminus]

/-- **Digits are passed over**: the first leads to a part which the others do not leave. -/
theorem skip_digits (h : part.Leads part') (hds : Digits ds) (frames : List Frame)
    (rest : List Char) :
    skip (.numeral part) frames (ds ++ rest) = skip (.numeral part') frames rest := by
  obtain ⟨hne, hall⟩ := hds
  induction ds generalizing part with
  | nil => exact absurd rfl hne
  | cons c ds ih =>
    rw [List.cons_append, skip_numeral_digit h (hall c List.mem_cons_self)]
    cases ds with
    | nil => rfl
    | cons d ds =>
      exact ih h.again (List.cons_ne_nil d ds) fun x hx => hall x (List.mem_cons_of_mem c hx)

theorem skip_exponent (hpart : part = .zero ∨ part = .whole ∨ part = .fraction) {e : List Char}
    (he : ExponentText e) {rest : List Char} (hrest : Stops rest) (frames : List Frame) :
    skip (.numeral part) frames (e ++ rest) = resume frames rest := by
  have hmark : ∀ {c} (r : List Char), c = 'e' ∨ c = 'E' →
      skip (.numeral part) frames (c :: r) = skip (.numeral .exponent) frames r := by
    intro c r hc
    refine skip_of_more ?_
    rcases hpart with rfl | rfl | rfl <;> rcases hc with rfl | rfl <;> rfl
  have hsign : ∀ {c} (r : List Char), c = '+' ∨ c = '-' →
      skip (.numeral .exponent) frames (c :: r) = skip (.numeral .sign) frames r := by
    intro c r hc
    refine skip_of_more ?_
    rcases hc with rfl | rfl <;> rfl
  cases he with
  | none =>
    have hfinal : part.Final := by
      rcases hpart with rfl | rfl | rfl
      · exact .zero
      · exact .whole
      · exact .fraction
    exact skip_end hfinal hrest frames
  | plain hc ht =>
    rw [List.cons_append, hmark _ hc, skip_digits .exponent ht, skip_end .exponentDigits hrest]
  | signed hc hs ht =>
    rw [List.cons_append, List.cons_append, hmark _ hc, hsign _ hs, skip_digits .sign ht,
      skip_end .exponentDigits hrest]

theorem skip_fraction (hpart : part = .zero ∨ part = .whole) {f e : List Char}
    (hf : FractionText f) (he : ExponentText e) {rest : List Char} (hrest : Stops rest)
    (frames : List Frame) :
    skip (.numeral part) frames (f ++ (e ++ rest)) = resume frames rest := by
  have hpoint : ∀ r : List Char,
      skip (.numeral part) frames ('.' :: r) = skip (.numeral .point) frames r := by
    intro r
    refine skip_of_more ?_
    rcases hpart with rfl | rfl <;> rfl
  cases hf with
  | none =>
    have hany : part = .zero ∨ part = .whole ∨ part = .fraction := by
      rcases hpart with rfl | rfl
      · exact .inl rfl
      · exact .inr (.inl rfl)
    exact skip_exponent hany he hrest frames
  | digits ht =>
    rw [List.cons_append, hpoint, skip_digits .point ht,
      skip_exponent (.inr (.inr rfl)) he hrest frames]

/-- The parts of a number, from its first digit on. -/
theorem skip_whole {mode : SkipMode} (hmode : mode = .value ∨ mode = .numeral .minus)
    {w f e : List Char} (hw : WholeText w) (hf : FractionText f) (he : ExponentText e)
    {rest : List Char} (hrest : Stops rest) (frames : List Frame) :
    skip mode frames (w ++ (f ++ (e ++ rest))) = resume frames rest := by
  cases hw with
  | zero =>
    have hzero : ∀ r : List Char,
        skip mode frames ('0' :: r) = skip (.numeral .zero) frames r := by
      intro r
      refine skip_of_more ?_
      rcases hmode with rfl | rfl <;> rfl
    rw [List.singleton_append, hzero, skip_fraction (.inl rfl) hf he hrest]
  | @digits c t hc ht =>
    have hdigit : c.isDigit = true := ht.2 c List.mem_cons_self
    have hfirst : ∀ r : List Char,
        skip mode frames (c :: r) = skip (.numeral .whole) frames r := by
      intro r
      refine skip_of_more ?_
      rcases hmode with rfl | rfl
      · have hne : ∀ {d : Char}, d.isDigit = false → c ≠ d := ne_of_isDigit hdigit
        show stepValue frames c r = _
        simp [stepValue, isBlank, hdigit, hc, hne]
      · show stepNumeral frames .minus c r = _
        simp [stepNumeral, hdigit, hc]
    have hmore : skip (.numeral .whole) frames (t ++ (f ++ (e ++ rest))) =
        skip (.numeral .whole) frames (f ++ (e ++ rest)) := by
      have hall := skip_digits .whole ht frames (f ++ (e ++ rest))
      rwa [List.cons_append, skip_numeral_digit .whole hdigit] at hall
    rw [List.cons_append, hfirst, hmore, skip_fraction (.inr rfl) hf he hrest]

/-- **Numbers are passed over**, of any size, if they do not go on. -/
theorem skip_number {t : List Char} (h : NumberText t) {rest : List Char} (hrest : Stops rest)
    (frames : List Frame) : skip .value frames (t ++ rest) = resume frames rest := by
  cases h with
  | positive hw hf he =>
    rw [List.append_assoc, List.append_assoc]
    exact skip_whole (.inl rfl) hw hf he hrest frames
  | negative hw hf he =>
    have hminus : ∀ r : List Char,
        skip .value frames ('-' :: r) = skip (.numeral .minus) frames r :=
      fun r => skip_of_more rfl
    rw [List.cons_append, hminus, List.append_assoc, List.append_assoc]
    exact skip_whole (.inr rfl) hw hf he hrest frames

end Number

/-! ## Values -/

theorem Stops.blanks {b rest : List Char} (hb : Blanks b) (h : Stops rest) : Stops (b ++ rest) := by
  cases b with
  | nil => exact h
  | cons d b =>
    intro c hc
    cases hc
    rcases hb d List.mem_cons_self with rfl | rfl | rfl | rfl <;> decide

theorem stops_punctuation {c : Char} (hc : c = ',' ∨ c = ']' ∨ c = '\x7d') (r : List Char) :
    Stops (c :: r) := by
  intro d hd
  cases hd
  rcases hc with rfl | rfl | rfl <;> decide

/-- The value is passed over, whatever brackets are open. -/
def Skipped (v : List Char) : Prop :=
  ∀ frames rest, Stops rest → skip .value frames (v ++ rest) = resume frames rest

/-- A value starts with a character that is no white space and closes nothing. -/
theorem ValueText.exists_head {v : List Char} (h : ValueText v) :
    ∃ c r, v = c :: r ∧ isBlank c = false ∧ c ≠ ']' := by
  have hdigit : ∀ {c : Char}, c.isDigit = true → isBlank c = false ∧ c ≠ ']' := by
    intro c hc
    have hne : ∀ {d : Char}, d.isDigit = false → c ≠ d := ne_of_isDigit hc
    exact ⟨by simp [isBlank, hne], hne rfl⟩
  cases h with
  | word hw =>
    simp only [words, List.mem_cons, List.not_mem_nil, or_false] at hw
    rcases hw with rfl | rfl | rfl <;> exact ⟨_, _, rfl, rfl, by decide⟩
  | string _ | array _ _ | object _ _ _ => exact ⟨_, _, rfl, rfl, by decide⟩
  | number hn =>
    cases hn with
    | negative _ _ _ => exact ⟨_, _, rfl, rfl, by decide⟩
    | positive hw _ _ =>
      cases hw with
      | zero => exact ⟨_, _, rfl, rfl, by decide⟩
      | digits _ ht => exact ⟨_, _, rfl, hdigit (ht.2 _ List.mem_cons_self)⟩

section Value

variable {frame : Frame} {frames : List Frame} {t rest : List Char}

theorem skip_padded {v : List Char} (hv : Skipped v) (h : Padded v t) (hrest : Stops rest) :
    skip .value (frame :: frames) (t ++ rest) = skip .member (frame :: frames) rest := by
  obtain ⟨hb, hb'⟩ := h
  rw [List.append_assoc, List.append_assoc, skip_value_blanks hb, hv _ _ (hrest.blanks hb'),
    resume_cons, skip_member_blanks hb']

/-- The first item of an array is read as any other. -/
theorem skip_opened_items {v : List Char} {vs : List (List Char)} (h : Listed Padded (v :: vs) t)
    (hv : ValueText v) (rest : List Char) :
    skip .opened (.array :: frames) (t ++ rest) = skip .value (.array :: frames) (t ++ rest) := by
  obtain ⟨c, r, rfl, hblank, hclose⟩ := hv.exists_head
  have hfirst : ∀ u, skip .opened (.array :: frames) (c :: u) =
      skip .value (.array :: frames) (c :: u) := by
    intro u
    have hstep : SkipMode.opened.step (.array :: frames) c u =
        SkipMode.value.step (.array :: frames) c u := by
      show stepOpened (.array :: frames) c u = stepValue (.array :: frames) c u
      simp [stepOpened, hblank, closes, hclose]
    rw [skip, skip, hstep]
  have hpadded : ∀ {u}, Padded (c :: r) u → ∀ rest, skip .opened (.array :: frames) (u ++ rest) =
      skip .value (.array :: frames) (u ++ rest) := by
    rintro u ⟨hb, -⟩ rest
    rw [List.append_assoc, skip_opened_blanks hb, skip_value_blanks hb]
    exact hfirst _
  cases h with
  | one hv => exact hpadded hv rest
  | more hv _ =>
    rw [List.append_assoc]
    exact hpadded hv _

theorem skip_items {vs : List (List Char)} (h : Listed Padded vs t) (hvs : ∀ v ∈ vs, Skipped v)
    (hne : vs ≠ []) (rest : List Char) :
    skip .value (.array :: frames) (t ++ ']' :: rest) = resume frames rest := by
  have hclose : skip .member (.array :: frames) (']' :: rest) = resume frames rest :=
    skip_of_completed rfl
  have hcomma : ∀ r, skip .member (.array :: frames) (',' :: r) =
      skip .value (.array :: frames) r := fun r => skip_of_more rfl
  induction h with
  | none _ => exact absurd rfl hne
  | one hv =>
    rw [skip_padded (hvs _ List.mem_cons_self) hv (stops_punctuation (.inr (.inl rfl)) _), hclose]
  | more hv _ ih =>
    rw [List.append_assoc, List.cons_append,
      skip_padded (hvs _ List.mem_cons_self) hv (stops_punctuation (.inl rfl) _), hcomma]
    exact ih (fun v hv => hvs v (List.mem_cons_of_mem _ hv)) (List.cons_ne_nil _ _)

/-- **Arrays are passed over** if their items are. -/
theorem skipped_array {vs : List (List Char)} (h : Listed Padded vs t)
    (hvs : ∀ v ∈ vs, ValueText v ∧ Skipped v) : Skipped ('[' :: (t ++ [']'])) := by
  intro frames rest _
  have hopen : ∀ r, skip .value frames ('[' :: r) = skip .opened (.array :: frames) r :=
    fun r => skip_of_more rfl
  rw [List.cons_append, hopen, List.append_assoc, List.singleton_append]
  cases vs with
  | nil =>
    cases h with
    | none hb =>
      rw [skip_opened_blanks hb]
      exact skip_of_completed rfl
  | cons v vs =>
    rw [skip_opened_items h (hvs v List.mem_cons_self).1]
    exact skip_items h (fun v hv => (hvs v hv).2) (List.cons_ne_nil v vs) rest

theorem skip_memberText {m : List Char × List Char} (h : MemberText m t) (hname : Inside m.1)
    (hv : Skipped m.2) (hrest : Stops rest) :
    skip .name (.object :: frames) (t ++ rest) = skip .member (.object :: frames) rest := by
  obtain ⟨⟨hb, hb'⟩, hvalue⟩ := h
  have hquote : ∀ r, skip .name (.object :: frames) ('"' :: r) =
      skip (.string true) (.object :: frames) r := fun r => skip_of_more rfl
  have hcolon : ∀ r, skip .colon (.object :: frames) (':' :: r) =
      skip .value (.object :: frames) r := fun r => skip_of_more rfl
  unfold quoted
  simp only [List.append_assoc, List.cons_append, List.nil_append]
  rw [skip_name_blanks hb, hquote, skip_inside true hname, if_pos rfl, skip_colon_blanks hb',
    hcolon, skip_padded hv hvalue hrest]

/-- The first member of an object is read as any other. -/
theorem skip_opened_members {m : List Char × List Char} {ms : List (List Char × List Char)}
    (h : Listed MemberText (m :: ms) t) (rest : List Char) :
    skip .opened (.object :: frames) (t ++ rest) = skip .name (.object :: frames) (t ++ rest) := by
  have hmember : ∀ {u}, MemberText m u → ∀ rest, skip .opened (.object :: frames) (u ++ rest) =
      skip .name (.object :: frames) (u ++ rest) := by
    rintro u ⟨⟨hb, -⟩, -⟩ rest
    rw [List.append_assoc, List.append_assoc, skip_opened_blanks hb, skip_name_blanks hb]
    rfl
  cases h with
  | one hm => exact hmember hm rest
  | more hm _ =>
    rw [List.append_assoc]
    exact hmember hm _

theorem skip_members {ms : List (List Char × List Char)} (h : Listed MemberText ms t)
    (hnames : ∀ m ∈ ms, Inside m.1) (hvalues : ∀ m ∈ ms, Skipped m.2) (hne : ms ≠ [])
    (rest : List Char) :
    skip .name (.object :: frames) (t ++ '\x7d' :: rest) = resume frames rest := by
  have hclose : skip .member (.object :: frames) ('\x7d' :: rest) = resume frames rest :=
    skip_of_completed rfl
  have hcomma : ∀ r, skip .member (.object :: frames) (',' :: r) =
      skip .name (.object :: frames) r := fun r => skip_of_more rfl
  induction h with
  | none _ => exact absurd rfl hne
  | one hm =>
    rw [skip_memberText hm (hnames _ List.mem_cons_self) (hvalues _ List.mem_cons_self)
      (stops_punctuation (.inr (.inr rfl)) _), hclose]
  | more hm _ ih =>
    rw [List.append_assoc, List.cons_append,
      skip_memberText hm (hnames _ List.mem_cons_self) (hvalues _ List.mem_cons_self)
        (stops_punctuation (.inl rfl) _), hcomma]
    exact ih (fun m hm => hnames m (List.mem_cons_of_mem _ hm))
      (fun m hm => hvalues m (List.mem_cons_of_mem _ hm)) (List.cons_ne_nil _ _)

/-- **Objects are passed over** if the values of their members are. -/
theorem skipped_object {ms : List (List Char × List Char)} (h : Listed MemberText ms t)
    (hnames : ∀ m ∈ ms, Inside m.1) (hvalues : ∀ m ∈ ms, Skipped m.2) :
    Skipped ('\x7b' :: (t ++ ['\x7d'])) := by
  intro frames rest _
  have hopen : ∀ r, skip .value frames ('\x7b' :: r) = skip .opened (.object :: frames) r :=
    fun r => skip_of_more rfl
  rw [List.cons_append, hopen, List.append_assoc, List.singleton_append]
  cases ms with
  | nil =>
    cases h with
    | none hb =>
      rw [skip_opened_blanks hb]
      exact skip_of_completed rfl
  | cons m ms =>
    rw [skip_opened_members h]
    exact skip_members h hnames hvalues (List.cons_ne_nil m ms) rest

end Value

/-- **Every value is passed over**, of any kind and depth, and what follows it is left alone. -/
theorem skip_valueText {v : List Char} (h : ValueText v) : Skipped v := by
  induction h with
  | word hw => exact fun frames rest _ => skip_words hw frames rest
  | number hn => exact fun frames rest hrest => skip_number hn hrest frames
  | string hs =>
    intro frames rest _
    have hquote : ∀ r, skip .value frames ('"' :: r) = skip (.string false) frames r :=
      fun r => skip_of_more rfl
    unfold quoted
    rw [List.cons_append, hquote, List.append_assoc, List.singleton_append,
      skip_inside false hs]
    rfl
  | array hitems hvs ih => exact skipped_array hitems fun v hv => ⟨hvs v hv, ih v hv⟩
  | object hmembers hnames _ ih => exact skipped_object hmembers hnames ih

/-- What is left after a value and the white space before it. -/
theorem skipValue_padded {b v rest : List Char} (hb : Blanks b) (hv : ValueText v)
    (hrest : Stops rest) : skipValue (b ++ (v ++ rest)) = .ok rest := by
  unfold skipValue
  rw [skip_value_blanks hb, skip_valueText hv [] rest hrest]
  rfl

end UserDirectory.Json
