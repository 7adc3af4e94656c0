import Mathlib.Data.List.Nodup
import UserDirectory.Proofs.Json.Record
import UserDirectory.Proofs.Json.RecordReading
import UserDirectory.User.Details

/-!
# Proofs.User.Details — what an object tells of the details

* `Told ms name s`: among the members `ms` there is one of that name, and it is the text `s`; or
  there is none, and `s` is empty.
* `Tells ms d`: so it is for each of the six members of the details `d`.
* `exists_fills`: the draft that such members fill is that of the details.
* `ofText_tells`: whatever else is in the object and however it is written, the details are read
  from it.
-/

namespace UserDirectory.Details

open Json Json.Shape

/-- What the members with a name tell. -/
inductive Told (ms : List (String × List Char)) (name : String) : String → Prop
  | absent : (∀ m ∈ ms, m.1 ≠ name) → Told ms name ""
  | present {before v after s} : ms = before ++ (name, v) :: after →
    (∀ m ∈ before ++ after, m.1 ≠ name) → StringText s v → Told ms name s

/-- The members tell the details. -/
def Tells (ms : List (String × List Char)) (d : Details) : Prop :=
  ∀ name s, (name, .string s) ∈ d.members → Told ms name s

section Told

variable {ms : List (String × List Char)} {m : String × List Char} {name s : String}

theorem Told.nil (h : Told [] name s) : s = "" := by
  cases h with
  | absent _ => rfl
  | @present before _ _ _ hms _ _ => exact absurd hms.symm (by simp)

theorem Told.tail (h : Told (m :: ms) name s) (hm : m.1 ≠ name) : Told ms name s := by
  cases h with
  | absent habsent => exact .absent fun m' hm' => habsent m' (List.mem_cons_of_mem m hm')
  | @present before v after _ hms hothers hv =>
    cases before with
    | nil =>
      cases hms
      exact absurd rfl hm
    | cons m' before =>
      rw [List.cons_append, List.cons.injEq] at hms
      exact .present hms.2 (fun x hx => hothers x (List.mem_cons_of_mem m' hx)) hv

theorem Told.head (h : Told (m :: ms) m.1 s) :
    StringText s m.2 ∧ ∀ m' ∈ ms, m'.1 ≠ m.1 := by
  cases h with
  | absent habsent => exact absurd rfl (habsent m List.mem_cons_self)
  | @present before v after _ hms hothers hv =>
    cases before with
    | nil =>
      rw [List.nil_append, List.cons.injEq] at hms
      obtain ⟨hm, rfl⟩ := hms
      rw [hm]
      exact ⟨hv, hothers⟩
    | cons m' before =>
      rw [List.cons_append, List.cons.injEq] at hms
      exact absurd (congrArg Prod.fst hms.1).symm (hothers m' List.mem_cons_self)

/-- A member whose name no other has. -/
theorem Told.of_mem {v : List Char} (hnames : (ms.map Prod.fst).Nodup) (hmem : (name, v) ∈ ms)
    (hv : StringText s v) : Told ms name s := by
  obtain ⟨before, after, rfl⟩ := List.append_of_mem hmem
  refine .present rfl ?_ hv
  have hpairwise : (before ++ (name, v) :: after).Pairwise fun m m' => m.1 ≠ m'.1 :=
    List.pairwise_map.mp hnames
  obtain ⟨-, hafter, hbefore⟩ := List.pairwise_append.mp hpairwise
  intro m hm
  rcases List.mem_append.mp hm with hm | hm
  · exact hbefore m hm _ List.mem_cons_self
  · exact ((List.pairwise_cons.mp hafter).1 m hm).symm

/-- Members with different names tell the details if the six are among them. -/
theorem tells_of_mem {d : Details} (hnames : (ms.map Prod.fst).Nodup)
    (h : ∀ name s, (name, .string s) ∈ d.members → ∃ v, (name, v) ∈ ms ∧ StringText s v) :
    Tells ms d := by
  intro name s hmember
  obtain ⟨v, hmem, hv⟩ := h name s hmember
  exact .of_mem hnames hmem hv

end Told

/-! ## The six members -/

/-- A member of the details: its name, its place in drafts, and its text. -/
structure Part where
  name : String
  get : Draft → Option String
  put : String → Draft → Draft
  text : Details → String

/-- The six members. -/
def parts : List Part :=
  [⟨"first_name", Draft.firstName, fun s d => { d with firstName := some s }, Details.firstName⟩,
    ⟨"last_name", Draft.lastName, fun s d => { d with lastName := some s }, Details.lastName⟩,
    ⟨"nickname", Draft.nickname, fun s d => { d with nickname := some s }, Details.nickname⟩,
    ⟨"password", Draft.password, fun s d => { d with password := some s }, Details.password⟩,
    ⟨"email", Draft.email, fun s d => { d with email := some s }, Details.email⟩,
    ⟨"country", Draft.country, fun s d => { d with country := some s }, Details.country⟩]

namespace Part

/-- The field that reads the member. -/
def field (p : Part) : Json.Field Draft := textField p.name p.get p.put

theorem map_field : shape.fields = parts.map field := rfl

theorem mem_members (d : Details) {p : Part} (hp : p ∈ parts) :
    (p.name, .string (p.text d)) ∈ d.members := by
  have hmembers : d.members = parts.map fun p => (p.name, .string (p.text d)) := rfl
  rw [hmembers]
  exact List.mem_map_of_mem hp

/-- A member is put into its own place. -/
theorem get_put {p q : Part} (hp : p ∈ parts) (hq : q ∈ parts) (s : String) (draft : Draft) :
    q.get (p.put s draft) = if p.name = q.name then some s else q.get draft := by
  simp only [parts, List.mem_cons, List.not_mem_nil, or_false] at hp hq
  rcases hp with rfl | rfl | rfl | rfl | rfl | rfl <;>
    rcases hq with rfl | rfl | rfl | rfl | rfl | rfl <;> rfl

theorem eq_of_name {p q : Part} (hp : p ∈ parts) (hq : q ∈ parts) (h : p.name = q.name) :
    p = q := by
  have hnames : (parts.map Part.name).Nodup := by decide
  exact List.inj_on_of_nodup_map hnames hp hq h

/-- A draft is that of the details if each of its places is. -/
theorem details_eq {draft : Draft} {d : Details}
    (h : ∀ p ∈ parts, (p.get draft).getD "" = p.text d) : draft.details = d := by
  simp only [parts, List.forall_mem_cons] at h
  obtain ⟨h1, h2, h3, h4, h5, h6, -⟩ := h
  unfold Draft.details
  rw [h1, h2, h3, h4, h5, h6]

theorem exists_of_field? {name : String} {f : Json.Field Draft} (h : shape.field? name = some f) :
    ∃ p ∈ parts, p.name = name ∧ p.field = f := by
  obtain ⟨hmem, hname⟩ := mem_of_field? h
  rw [map_field] at hmem
  obtain ⟨p, hp, rfl⟩ := List.mem_map.mp hmem
  exact ⟨p, hp, hname, rfl⟩

theorem name_ne_of_field? {name : String} (h : shape.field? name = none) {p : Part}
    (hp : p ∈ parts) : name ≠ p.name := by
  have hnone := List.find?_eq_none.mp h p.field (map_field ▸ List.mem_map_of_mem hp)
  rintro rfl
  exact hnone (beq_self_eq_true p.name)

/-- What is read and what is still to come make the member's text: it has been read and does not
come again, or it has not been read and is told by what comes. -/
inductive Fits (p : Part) (d : Details) (draft : Draft) (ms : List (String × List Char)) : Prop
  | done : p.get draft = some (p.text d) → (∀ m ∈ ms, m.1 ≠ p.name) → Fits p d draft ms
  | toCome : p.get draft = none → Told ms p.name (p.text d) → Fits p d draft ms

variable {p : Part} {d : Details} {draft : Draft} {ms : List (String × List Char)}
  {m : String × List Char}

theorem Fits.tail (h : p.Fits d draft (m :: ms)) (hm : m.1 ≠ p.name) : p.Fits d draft ms := by
  cases h with
  | done hget hno => exact .done hget fun m' hm' => hno m' (List.mem_cons_of_mem m hm')
  | toCome hget htold => exact .toCome hget (htold.tail hm)

theorem Fits.congr (h : p.Fits d draft ms) {draft' : Draft} (hget : p.get draft' = p.get draft) :
    p.Fits d draft' ms := by
  cases h with
  | done hsome hno => exact .done (hget.trans hsome) hno
  | toCome hnone htold => exact .toCome (hget.trans hnone) htold

end Part

/-- **The members fill the draft of the details**, in whatever order they come. -/
theorem exists_fills {d : Details} {ms : List (String × List Char)} {draft : Draft}
    (hvalues : ∀ m ∈ ms, ValueText m.2) (h : ∀ p ∈ parts, p.Fits d draft ms) :
    ∃ draft', Fills shape draft ms draft' ∧ draft'.details = d := by
  induction ms generalizing draft with
  | nil =>
    refine ⟨draft, .nil, Part.details_eq ?_⟩
    intro p hp
    cases h p hp with
    | done hget _ => rw [hget, Option.getD_some]
    | toCome hget htold =>
      rw [hget, Option.getD_none, htold.nil]
  | cons m ms ih =>
    have hrest : ∀ m ∈ ms, ValueText m.2 := fun x hx => hvalues x (List.mem_cons_of_mem m hx)
    cases hf : shape.field? m.1 with
    | none =>
      obtain ⟨draft', hfills, hd⟩ :=
        ih hrest fun p hp => (h p hp).tail (Part.name_ne_of_field? hf hp)
      exact ⟨draft', .cons (.other hf (hvalues m List.mem_cons_self)) hfills, hd⟩
    | some f =>
      obtain ⟨p, hp, hname, rfl⟩ := Part.exists_of_field? hf
      cases h p hp with
      | done _ hno => exact absurd hname.symm (hno m List.mem_cons_self)
      | toCome hget htold =>
        rw [hname] at htold
        obtain ⟨hv, hno⟩ := htold.head
        have hfits : ∀ q ∈ parts, q.Fits d (p.put (p.text d) draft) ms := by
          intro q hq
          have hput := Part.get_put hp hq (p.text d) draft
          by_cases heq : p.name = q.name
          · obtain rfl := Part.eq_of_name hp hq heq
            rw [if_pos rfl] at hput
            exact .done hput (hname ▸ hno)
          · rw [if_neg heq] at hput
            exact ((h q hq).tail (hname ▸ heq)).congr hput
        obtain ⟨draft', hfills, hd⟩ := ih hrest hfits
        have hunset : p.field.isSet draft = false := by
          show (p.get draft).isSome = false
          rw [hget]
          rfl
        exact ⟨draft', .cons (.field hf hunset hv rfl) hfills, hd⟩

/-- **The details are read** from every text of an object that tells them. -/
theorem ofText_tells {ms : List (String × List Char)} {t : List Char} {d : Details}
    (h : ObjectText ms t) (htells : Tells ms d) : ofText t = .ok d := by
  have hfits : ∀ p ∈ parts, p.Fits d Draft.empty ms := by
    intro p hp
    have hempty : ∀ p ∈ parts, p.get Draft.empty = none := by decide
    exact .toCome (hempty p hp) (htells _ _ (Part.mem_members d hp))
  obtain ⟨draft, hfills, rfl⟩ := exists_fills h.values hfits
  obtain ⟨b, hb, hread⟩ := read_objectText h hfills rfl
  unfold ofText
  rw [hread, Steps.ok_bind]
  dsimp only
  rw [readEnd_blanks hb]
  rfl

end UserDirectory.Details
