import Mathlib.Tactic.Common
import UserDirectory.Json.Record
import UserDirectory.Proofs.Keyed
import UserDirectory.Proofs.Steps

/-!
# Proofs.Json.Record — what a record reader takes from an object

* `Keeps f get`: setting the field `f` leaves the part `get` of a draft alone.
* `get_setMembers`: if every field but one keeps a part, that part of the final draft is what the
  member with the field's name makes of it, wherever that member stands.
* `exists_setMembers`: members that their fields accept are all read.
* `part_of_ofMembers`, `exists_ofMembers`: for a record that has to be complete, what each field
  takes from an object, and that an object with an acceptable text for each field is read.
-/

namespace UserDirectory.Json

variable {δ α : Type}

/-- Setting the field leaves a part of the draft alone. -/
def Keeps (f : Field δ) (get : δ → α) : Prop := ∀ s d d', f.set s d = .ok d' → get d' = get d

namespace Shape

variable {shape : Shape δ}

/-! ## Fields by name -/

theorem mem_of_field? {name : String} {f : Field δ} (h : shape.field? name = some f) :
    f ∈ shape.fields ∧ f.name = name := by
  refine ⟨List.mem_of_find?_eq_some h, ?_⟩
  have hname := List.find?_some h
  exact eq_of_beq hname

theorem setValue_eq_ok {f : Field δ} {v : Json} {d d' : δ} (hnull : shape.nullable = false) :
    shape.setValue f v d = .ok d' ↔ ∃ s, v = .string s ∧ f.set s d = .ok d' := by
  unfold setValue
  cases v with
  | string s => simp [Steps.mapError_eq_ok]
  | null => simp [hnull]
  | bool b => simp
  | number n => simp
  | array vs => simp
  | object ms => simp

theorem setMembers_cons_of_none {name : String} {v : Json} {ms : List (String × Json)} {d : δ}
    (h : shape.field? name = none) :
    shape.setMembers d ((name, v) :: ms) = shape.setMembers d ms := by
  rw [setMembers, h]

/-- A member that the record knows is read before the rest. -/
theorem setMembers_cons_eq_ok {name : String} {v : Json} {ms : List (String × Json)} {d d' : δ}
    {f : Field δ} (hf : shape.field? name = some f) (hnull : shape.nullable = false) :
    shape.setMembers d ((name, v) :: ms) = .ok d' ↔
      ∃ s e, v = .string s ∧ f.set s d = .ok e ∧ shape.setMembers e ms = .ok d' := by
  rw [setMembers, hf]
  dsimp only
  refine ⟨?_, ?_⟩
  · intro h
    cases hv : shape.setValue f v d with
    | error m =>
      rw [hv] at h
      cases h
    | ok e =>
      obtain ⟨s, rfl, hs⟩ := (setValue_eq_ok hnull).mp hv
      rw [hv] at h
      exact ⟨s, e, rfl, hs, h⟩
  · rintro ⟨s, e, rfl, he, h⟩
    rw [(setValue_eq_ok hnull).mpr ⟨s, rfl, he⟩]
    exact h

/-! ## One part of the draft -/

/-- A part that no member of the list sets stays as it is. -/
theorem get_setMembers_of_keeps {get : δ → α} {ms : List (String × Json)} {d d' : δ}
    (hnull : shape.nullable = false)
    (hkeep : ∀ m ∈ ms, ∀ f, shape.field? m.1 = some f → Keeps f get)
    (h : shape.setMembers d ms = .ok d') : get d' = get d := by
  induction ms generalizing d with
  | nil =>
    rw [setMembers, Except.ok.injEq] at h
    rw [h]
  | cons m r ih =>
    obtain ⟨name, v⟩ := m
    have hrest : ∀ m ∈ r, ∀ f, shape.field? m.1 = some f → Keeps f get :=
      fun m hm => hkeep m (List.mem_cons_of_mem _ hm)
    cases hf : shape.field? name with
    | none =>
      rw [setMembers_cons_of_none hf] at h
      exact ih hrest h
    | some f =>
      obtain ⟨s, e, -, he, hr⟩ := (setMembers_cons_eq_ok hf hnull).mp h
      rw [ih hrest hr, hkeep (name, v) List.mem_cons_self f hf s d e he]

/-- **One part of the draft**: it comes from the member with its field's name, and from that member
alone. -/
theorem get_setMembers {get : δ → α} {name : String} {f : Field δ} {ms : List (String × Json)}
    {d d' : δ} (hnull : shape.nullable = false) (hf : shape.field? name = some f)
    (hkeep : ∀ g ∈ shape.fields, g.name ≠ name → Keeps g get)
    (hms : ms.Pairwise fun a b => a.1 ≠ b.1) (h : shape.setMembers d ms = .ok d') :
    (Keyed.findEntry name ms = none ∧ get d' = get d) ∨
      ∃ s e e', Keyed.findEntry name ms = some (.string s) ∧ f.set s e = .ok e' ∧
        get d' = get e' := by
  induction ms generalizing d with
  | nil =>
    rw [setMembers, Except.ok.injEq] at h
    exact .inl ⟨rfl, by rw [h]⟩
  | cons m r ih =>
    obtain ⟨name', v⟩ := m
    obtain ⟨hne, hr⟩ := List.pairwise_cons.mp hms
    by_cases hname : name = name'
    · subst hname
      obtain ⟨s, e, rfl, he, hrest⟩ := (setMembers_cons_eq_ok hf hnull).mp h
      have hother : ∀ m ∈ r, ∀ g, shape.field? m.1 = some g → Keeps g get := by
        intro m hm g hg
        obtain ⟨hmem, hgname⟩ := mem_of_field? hg
        exact hkeep g hmem fun heq => hne m hm (heq ▸ hgname)
      refine .inr ⟨s, d, e, ?_, he, get_setMembers_of_keeps hnull hother hrest⟩
      unfold Keyed.findEntry
      rw [if_pos rfl]
    · have hfind : Keyed.findEntry name ((name', v) :: r) = Keyed.findEntry name r := by
        rw [Keyed.findEntry, if_neg hname]
      rw [hfind]
      cases hf' : shape.field? name' with
      | none =>
        rw [setMembers_cons_of_none hf'] at h
        exact ih hr h
      | some g =>
        obtain ⟨s, e, -, he, hrest⟩ := (setMembers_cons_eq_ok hf' hnull).mp h
        obtain ⟨hmem, hgname⟩ := mem_of_field? hf'
        have hget : get e = get d := hkeep g hmem (fun heq => hname (heq ▸ hgname)) s d e he
        have hcases := ih hr hrest
        rw [hget] at hcases
        exact hcases

/-! ## Success -/

/-- Members that are texts which their fields accept, whatever the draft, are all read. -/
theorem exists_setMembers {ms : List (String × Json)} (hnull : shape.nullable = false)
    (h : ∀ m ∈ ms, ∀ f, shape.field? m.1 = some f →
      ∃ s, m.2 = .string s ∧ ∀ d, ∃ d', f.set s d = .ok d') (d : δ) :
    ∃ d', shape.setMembers d ms = .ok d' := by
  induction ms generalizing d with
  | nil => exact ⟨d, rfl⟩
  | cons m r ih =>
    obtain ⟨name, v⟩ := m
    have hrest := fun e => ih (fun m hm => h m (List.mem_cons_of_mem _ hm)) e
    cases hf : shape.field? name with
    | none =>
      obtain ⟨d', hd'⟩ := hrest d
      exact ⟨d', by rw [setMembers_cons_of_none hf, hd']⟩
    | some f =>
      obtain ⟨s, hv, hset⟩ := h (name, v) List.mem_cons_self f hf
      obtain ⟨e, he⟩ := hset d
      obtain ⟨d', hd'⟩ := hrest e
      exact ⟨d', (setMembers_cons_eq_ok hf hnull).mpr ⟨s, e, hv, he, hd'⟩⟩

theorem missing?_eq_none {d : δ} (hneeds : shape.needsMembers = true) :
    shape.missing? d = none ↔ ∀ f ∈ shape.fields, f.isSet d = true := by
  unfold missing?
  rw [if_pos hneeds, Option.map_eq_none_iff, List.find?_eq_none]
  simp

theorem ofMembers_eq_ok {d : Document} {draft : δ} :
    shape.ofMembers d = .ok draft ↔
      shape.setMembers shape.empty d.entries = .ok draft ∧ shape.missing? draft = none := by
  unfold ofMembers
  rw [Steps.bind_eq_ok]
  refine ⟨?_, ?_⟩
  · rintro ⟨e, he, h⟩
    cases hm : shape.missing? e with
    | some name =>
      rw [hm] at h
      cases h
    | none =>
      rw [hm, Except.ok.injEq] at h
      subst h
      exact ⟨he, hm⟩
  · rintro ⟨he, hm⟩
    exact ⟨draft, he, by rw [hm]⟩

theorem names_ne (d : Document) : d.entries.Pairwise fun a b => a.1 ≠ b.1 := by
  refine List.Pairwise.imp ?_ d.ascending
  intro a b h heq
  rw [heq] at h
  exact KeyOrder.irrefl b.1 h

/-- What a record that has to be complete takes from an object for one of its fields: the text of
the member with the field's name. -/
theorem part_of_ofMembers {get : δ → α} {name : String} {f : Field δ} {R : String → α → Prop}
    {d : Document} {draft : δ} (hnull : shape.nullable = false)
    (hneeds : shape.needsMembers = true) (hf : shape.field? name = some f)
    (hkeep : ∀ g ∈ shape.fields, g.name ≠ name → Keeps g get)
    (hset : ∀ s e e', f.set s e = .ok e' → R s (get e'))
    (hunset : ∀ e, get e = get shape.empty → f.isSet e = false)
    (h : shape.ofMembers d = .ok draft) :
    ∃ s, d.get? name = some (.string s) ∧ R s (get draft) := by
  obtain ⟨hread, hmissing⟩ := ofMembers_eq_ok.mp h
  rcases get_setMembers hnull hf hkeep (names_ne d) hread with ⟨-, hget⟩ | ⟨s, e, e', hs, he, hget⟩
  · have hisSet := (missing?_eq_none hneeds).mp hmissing f (mem_of_field? hf).1
    rw [hunset draft hget] at hisSet
    cases hisSet
  · exact ⟨s, hs, hget ▸ hset s e e' he⟩

/-- A complete record is read from an object whose members its fields accept. -/
theorem exists_ofMembers {d : Document} (hnull : shape.nullable = false)
    (hneeds : shape.needsMembers = true)
    (hnames : ∀ f ∈ shape.fields, shape.field? f.name = some f)
    (hset : ∀ f ∈ shape.fields, ∀ s e e', f.set s e = .ok e' → f.isSet e' = true)
    (hkeep : ∀ f ∈ shape.fields, ∀ g ∈ shape.fields, g.name ≠ f.name → Keeps g f.isSet)
    (haccept : ∀ f ∈ shape.fields, ∃ s, d.get? f.name = some (.string s) ∧
      ∀ e, ∃ e', f.set s e = .ok e') :
    ∃ draft, shape.ofMembers d = .ok draft := by
  have hmembers : ∀ m ∈ d.entries, ∀ f, shape.field? m.1 = some f →
      ∃ s, m.2 = .string s ∧ ∀ e, ∃ e', f.set s e = .ok e' := by
    rintro ⟨name, v⟩ hm f hf
    obtain ⟨hmem, rfl⟩ := mem_of_field? hf
    obtain ⟨s, hs, hok⟩ := haccept f hmem
    rw [(Keyed.mem_entries_iff d _ v).mp hm, Option.some.injEq] at hs
    exact ⟨s, hs, hok⟩
  obtain ⟨draft, hread⟩ := exists_setMembers hnull hmembers shape.empty
  refine ⟨draft, ofMembers_eq_ok.mpr ⟨hread, (missing?_eq_none hneeds).mpr fun f hf => ?_⟩⟩
  obtain ⟨s, hs, -⟩ := haccept f hf
  rcases get_setMembers hnull (hnames f hf) (hkeep f hf) (names_ne d) hread with
    ⟨hnone, -⟩ | ⟨s', e, e', -, he, hget⟩
  · rw [show Keyed.findEntry f.name d.entries = some (.string s) from hs] at hnone
    cases hnone
  · rw [hget]
    exact hset f hf s' e e' he

end Shape
end UserDirectory.Json
