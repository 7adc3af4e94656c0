import UserDirectory.Proofs.Instant.Reading
import UserDirectory.Proofs.Json.Record
import UserDirectory.Proofs.Uuid
import UserDirectory.Store

/-!
# Proofs.User.Document — the documents that describe an account

* `Describes d u`: what the members of `d` have to be for `d` to describe `u`.
* `ofDocument_eq_ok`: the decoder gives `u` for `d` iff `d` describes `u`, for every object.
* `ofDocument_document`: the document of an account describes it, with the instants that its texts
  name.
* `change_document`: changing the document of an account gives the document of the changed account.
* `find_of_get?`, `decode_of_ok`, `decode_of_error`: what a look-up makes of a stored document.
-/

namespace UserDirectory

theorem Document.text?_eq_some {d : Document} {name s : String} :
    d.text? name = some s ↔ d.get? name = some (.string s) := by
  unfold Document.text?
  rw [Option.bind_eq_some_iff]
  refine ⟨?_, ?_⟩
  · rintro ⟨v, hv, hs⟩
    cases v with
    | string t =>
      rw [Json.string?, Option.some.injEq] at hs
      rw [hv, hs]
    | _ => cases hs
  · intro h
    exact ⟨.string s, h, rfl⟩

theorem Document.get?_change (d : Document) (c : Change) (name : String) :
    (d.change c).get? name = (Keyed.findEntry name c.members.reverse).or (d.get? name) := by
  unfold Document.change
  rw [Keyed.get?_foldl_insert]

/-- The members that a change sets are those that an account with the new details and the new
instant is encoded with. -/
theorem Change.members_eq (c : Change) :
    c.members = c.details.members ++ [("updated_at", User.timeMember c.updatedAt)] := rfl

namespace User

open Json (Keeps)

/-! ## The nine fields -/

/-- A field of the details as a field of the account. -/
def detailField (name : String) (get : Details.Draft → Option String)
    (set : String → Details.Draft → Details.Draft) : Json.Field Draft :=
  Json.Field.lift Draft.details (fun p d => { d with details := p })
    (Details.textField name get set)

theorem forall_mem_fields {P : Json.Field Draft → Prop} :
    (∀ f ∈ shape.fields, P f) ↔
      P idField ∧
      P (detailField "first_name" Details.Draft.firstName
        fun s p => { p with firstName := some s }) ∧
      P (detailField "last_name" Details.Draft.lastName
        fun s p => { p with lastName := some s }) ∧
      P (detailField "nickname" Details.Draft.nickname
        fun s p => { p with nickname := some s }) ∧
      P (detailField "password" Details.Draft.password
        fun s p => { p with password := some s }) ∧
      P (detailField "email" Details.Draft.email fun s p => { p with email := some s }) ∧
      P (detailField "country" Details.Draft.country fun s p => { p with country := some s }) ∧
      P (timeField "created_at" Draft.createdAt fun t d => { d with createdAt := some t }) ∧
      P (timeField "updated_at" Draft.updatedAt fun t d => { d with updatedAt := some t }) := by
  simp [shape, fields, Details.fields, detailField]

theorem idField_set {s : String} {d d' : Draft} :
    idField.set s d = .ok d' ↔
      ∃ u, Uuid.read s.toList = .ok u ∧ d' = { d with id := some u } := by
  unfold idField
  dsimp only
  cases h : Uuid.read s.toList with
  | ok u => simp [eq_comm]
  | error f => simp

theorem detailField_set {name : String} {get : Details.Draft → Option String}
    {set : String → Details.Draft → Details.Draft} {s : String} {d d' : Draft} :
    (detailField name get set).set s d = .ok d' ↔ d' = { d with details := set s d.details } := by
  show Except.ok _ = Except.ok d' ↔ _
  rw [Except.ok.injEq, eq_comm]

theorem timeField_set {name : String} {get : Draft → Option Instant}
    {set : Instant → Draft → Draft} {s : String} {d d' : Draft} :
    (timeField name get set).set s d = .ok d' ↔
      ∃ t, Instant.read s.toList = .ok t ∧ d' = set t d := by
  unfold timeField
  dsimp only
  cases h : Instant.read s.toList with
  | ok t => simp [eq_comm]
  | error f => simp

section Keeps

variable {α : Type} {part : Draft → α}

theorem keeps_idField (h : ∀ d x, part { d with id := x } = part d) : Keeps idField part := by
  intro s d d' hs
  obtain ⟨u, -, rfl⟩ := idField_set.mp hs
  exact h d _

theorem keeps_detailField {name : String} {get : Details.Draft → Option String}
    {set : String → Details.Draft → Details.Draft}
    (h : ∀ s d, part { d with details := set s d.details } = part d) :
    Keeps (detailField name get set) part := by
  intro s d d' hs
  rw [detailField_set.mp hs]
  exact h s d

theorem keeps_timeField {name : String} {get : Draft → Option Instant}
    {set : Instant → Draft → Draft} (h : ∀ t d, part (set t d) = part d) :
    Keeps (timeField name get set) part := by
  intro s d d' hs
  obtain ⟨t, -, rfl⟩ := timeField_set.mp hs
  exact h t d

end Keeps

/-- A field that takes a text is set afterwards. -/
def Sets (f : Json.Field Draft) : Prop := ∀ s d d', f.set s d = .ok d' → f.isSet d' = true

theorem sets_idField : Sets idField := by
  intro s d d' hs
  obtain ⟨u, -, rfl⟩ := idField_set.mp hs
  rfl

theorem sets_detailField {name : String} {get : Details.Draft → Option String}
    {set : String → Details.Draft → Details.Draft} (h : ∀ s p, get (set s p) = some s) :
    Sets (detailField name get set) := by
  intro s d d' hs
  rw [detailField_set.mp hs]
  exact congrArg Option.isSome (h s d.details)

theorem sets_timeField {name : String} {get : Draft → Option Instant}
    {set : Instant → Draft → Draft} (h : ∀ t d, get (set t d) = some t) :
    Sets (timeField name get set) := by
  intro s d d' hs
  obtain ⟨t, -, rfl⟩ := timeField_set.mp hs
  exact congrArg Option.isSome (h t d)

/-- A field keeps the parts of the draft that belong to the other eight. -/
structure KeepsOthers (f : Json.Field Draft) : Prop where
  id : f.name ≠ "id" → Keeps f Draft.id
  firstName : f.name ≠ "first_name" → Keeps f fun d => d.details.firstName
  lastName : f.name ≠ "last_name" → Keeps f fun d => d.details.lastName
  nickname : f.name ≠ "nickname" → Keeps f fun d => d.details.nickname
  password : f.name ≠ "password" → Keeps f fun d => d.details.password
  email : f.name ≠ "email" → Keeps f fun d => d.details.email
  country : f.name ≠ "country" → Keeps f fun d => d.details.country
  createdAt : f.name ≠ "created_at" → Keeps f Draft.createdAt
  updatedAt : f.name ≠ "updated_at" → Keeps f Draft.updatedAt

theorem keepsOthers : ∀ f ∈ shape.fields, KeepsOthers f := by
  refine forall_mem_fields.mpr ⟨?_, ?_, ?_, ?_, ?_, ?_, ?_, ?_, ?_⟩
  all_goals
    constructor
    all_goals
      intro hname
      first
        | exact absurd rfl hname
        | exact keeps_idField fun _ _ => rfl
        | exact keeps_detailField fun _ _ => rfl
        | exact keeps_timeField fun _ _ => rfl

/-! ## What a document describes -/

/-- The member is the text of an instant, of which `t` is what is kept. -/
def HoldsTime (d : Document) (name : String) (t : Instant) : Prop :=
  ∃ s r, d.text? name = some s ∧ Instant.read s.toList = .ok r ∧ t = r.truncate

/-- The members that make an object the document of an account. -/
structure Describes (d : Document) (u : User) : Prop where
  id : ∃ s, d.text? "id" = some s ∧ Uuid.read s.toList = .ok u.id
  firstName : d.text? "first_name" = some u.details.firstName
  lastName : d.text? "last_name" = some u.details.lastName
  nickname : d.text? "nickname" = some u.details.nickname
  password : d.text? "password" = some u.details.password
  email : d.text? "email" = some u.details.email
  country : d.text? "country" = some u.details.country
  createdAt : HoldsTime d "created_at" u.createdAt
  updatedAt : HoldsTime d "updated_at" u.updatedAt
  valid : u.details.check = .ok ()

/-- What the draft of a document holds. -/
structure Draft.From (draft : Draft) (d : Document) : Prop where
  id : ∃ s u, d.text? "id" = some s ∧ Uuid.read s.toList = .ok u ∧ draft.id = some u
  firstName : ∃ s, d.text? "first_name" = some s ∧ draft.details.firstName = some s
  lastName : ∃ s, d.text? "last_name" = some s ∧ draft.details.lastName = some s
  nickname : ∃ s, d.text? "nickname" = some s ∧ draft.details.nickname = some s
  password : ∃ s, d.text? "password" = some s ∧ draft.details.password = some s
  email : ∃ s, d.text? "email" = some s ∧ draft.details.email = some s
  country : ∃ s, d.text? "country" = some s ∧ draft.details.country = some s
  createdAt : ∃ s t, d.text? "created_at" = some s ∧ Instant.read s.toList = .ok t ∧
    draft.createdAt = some t
  updatedAt : ∃ s t, d.text? "updated_at" = some s ∧ Instant.read s.toList = .ok t ∧
    draft.updatedAt = some t

/-- A text of the details in a draft is the member with its name. -/
theorem detail_of_ofMembers {d : Document} {draft : Draft} {name : String}
    {get : Details.Draft → Option String} {set : String → Details.Draft → Details.Draft}
    (hf : shape.field? name = some (detailField name get set))
    (hkeep : ∀ g ∈ shape.fields, g.name ≠ name → Keeps g fun d => get d.details)
    (hset : ∀ s p, get (set s p) = some s) (hempty : get Details.Draft.empty = none)
    (h : shape.ofMembers d = .ok draft) :
    ∃ s, d.text? name = some s ∧ get draft.details = some s := by
  have hpart := Json.Shape.part_of_ofMembers (R := fun s x => x = some s) rfl rfl hf hkeep
    (fun s e e' he => by rw [detailField_set.mp he]; exact hset s _)
    (fun e he => by
      show (get e.details).isSome = false
      rw [he]
      show (get Details.Draft.empty).isSome = false
      rw [hempty]
      rfl) h
  obtain ⟨s, hs, hget⟩ := hpart
  exact ⟨s, Document.text?_eq_some.mpr hs, hget⟩

/-- An instant in a draft is read from the member with its name. -/
theorem time_of_ofMembers {d : Document} {draft : Draft} {name : String}
    {get : Draft → Option Instant} {set : Instant → Draft → Draft}
    (hf : shape.field? name = some (timeField name get set))
    (hkeep : ∀ g ∈ shape.fields, g.name ≠ name → Keeps g get)
    (hset : ∀ t e, get (set t e) = some t) (hempty : get shape.empty = none)
    (h : shape.ofMembers d = .ok draft) :
    ∃ s t, d.text? name = some s ∧ Instant.read s.toList = .ok t ∧ get draft = some t := by
  have hpart := Json.Shape.part_of_ofMembers
    (R := fun s x => ∃ t, Instant.read s.toList = .ok t ∧ x = some t) rfl rfl hf hkeep
    (fun s e e' he => by
      obtain ⟨t, ht, rfl⟩ := timeField_set.mp he
      exact ⟨t, ht, hset t e⟩)
    (fun e he => by
      show (get e).isSome = false
      rw [he, hempty]
      rfl) h
  obtain ⟨s, hs, t, ht, hget⟩ := hpart
  exact ⟨s, t, Document.text?_eq_some.mpr hs, ht, hget⟩

theorem from_of_ofMembers {d : Document} {draft : Draft} (h : shape.ofMembers d = .ok draft) :
    draft.From d where
  id := by
    have hf : shape.field? "id" = some idField := rfl
    have hpart := Json.Shape.part_of_ofMembers
      (R := fun s x => ∃ u, Uuid.read s.toList = .ok u ∧ x = some u) rfl rfl hf
      (fun g hg => (keepsOthers g hg).id)
      (fun s e e' he => by
        obtain ⟨u, hu, rfl⟩ := idField_set.mp he
        exact ⟨u, hu, rfl⟩)
      (fun e he => by
        show e.id.isSome = false
        rw [he]
        rfl) h
    obtain ⟨s, hs, u, hu, hget⟩ := hpart
    exact ⟨s, u, Document.text?_eq_some.mpr hs, hu, hget⟩
  firstName := detail_of_ofMembers rfl (fun g hg => (keepsOthers g hg).firstName)
    (fun _ _ => rfl) rfl h
  lastName := detail_of_ofMembers rfl (fun g hg => (keepsOthers g hg).lastName)
    (fun _ _ => rfl) rfl h
  nickname := detail_of_ofMembers rfl (fun g hg => (keepsOthers g hg).nickname)
    (fun _ _ => rfl) rfl h
  password := detail_of_ofMembers rfl (fun g hg => (keepsOthers g hg).password)
    (fun _ _ => rfl) rfl h
  email := detail_of_ofMembers rfl (fun g hg => (keepsOthers g hg).email)
    (fun _ _ => rfl) rfl h
  country := detail_of_ofMembers rfl (fun g hg => (keepsOthers g hg).country)
    (fun _ _ => rfl) rfl h
  createdAt := time_of_ofMembers rfl (fun g hg => (keepsOthers g hg).createdAt)
    (fun _ _ => rfl) rfl h
  updatedAt := time_of_ofMembers rfl (fun g hg => (keepsOthers g hg).updatedAt)
    (fun _ _ => rfl) rfl h

/-- A document with the nine members in order has a draft. -/
theorem Describes.exists_draft {d : Document} {u : User} (h : Describes d u) :
    ∃ draft, shape.ofMembers d = .ok draft := by
  have hdetail : ∀ {name : String} {get : Details.Draft → Option String}
      {set : String → Details.Draft → Details.Draft} {t : String}, d.text? name = some t →
      ∃ s, d.get? (detailField name get set).name = some (.string s) ∧
        ∀ e, ∃ e', (detailField name get set).set s e = .ok e' :=
    fun ht => ⟨_, Document.text?_eq_some.mp ht, fun e => ⟨_, rfl⟩⟩
  have htime : ∀ {name : String} {get : Draft → Option Instant} {set : Instant → Draft → Draft}
      {t : Instant}, HoldsTime d name t →
      ∃ s, d.get? (timeField name get set).name = some (.string s) ∧
        ∀ e, ∃ e', (timeField name get set).set s e = .ok e' := by
    rintro name get set t ⟨s, r, hs, hr, -⟩
    exact ⟨s, Document.text?_eq_some.mp hs, fun e => ⟨_, timeField_set.mpr ⟨r, hr, rfl⟩⟩⟩
  have hid : ∃ s, d.get? idField.name = some (.string s) ∧
      ∀ e, ∃ e', idField.set s e = .ok e' := by
    obtain ⟨s, hs, hread⟩ := h.id
    exact ⟨s, Document.text?_eq_some.mp hs, fun e => ⟨_, idField_set.mpr ⟨u.id, hread, rfl⟩⟩⟩
  have hset : ∀ f ∈ shape.fields, Sets f := forall_mem_fields.mpr
    ⟨sets_idField, sets_detailField fun _ _ => rfl, sets_detailField fun _ _ => rfl,
      sets_detailField fun _ _ => rfl, sets_detailField fun _ _ => rfl,
      sets_detailField fun _ _ => rfl, sets_detailField fun _ _ => rfl,
      sets_timeField fun _ _ => rfl, sets_timeField fun _ _ => rfl⟩
  have hkeep : ∀ f ∈ shape.fields, ∀ g ∈ shape.fields, g.name ≠ f.name → Keeps g f.isSet := by
    have hlift : ∀ {g : Json.Field Draft} {α : Type} {part : Draft → Option α},
        Keeps g part → Keeps g fun e => (part e).isSome :=
      fun hpart s e e' he => congrArg Option.isSome (hpart s e e' he)
    refine forall_mem_fields.mpr ⟨?_, ?_, ?_, ?_, ?_, ?_, ?_, ?_, ?_⟩
    · exact fun g hg hne => hlift ((keepsOthers g hg).id hne)
    · exact fun g hg hne => hlift ((keepsOthers g hg).firstName hne)
    · exact fun g hg hne => hlift ((keepsOthers g hg).lastName hne)
    · exact fun g hg hne => hlift ((keepsOthers g hg).nickname hne)
    · exact fun g hg hne => hlift ((keepsOthers g hg).password hne)
    · exact fun g hg hne => hlift ((keepsOthers g hg).email hne)
    · exact fun g hg hne => hlift ((keepsOthers g hg).country hne)
    · exact fun g hg hne => hlift ((keepsOthers g hg).createdAt hne)
    · exact fun g hg hne => hlift ((keepsOthers g hg).updatedAt hne)
  have hnames : ∀ f ∈ shape.fields, shape.field? f.name = some f :=
    forall_mem_fields.mpr ⟨rfl, rfl, rfl, rfl, rfl, rfl, rfl, rfl, rfl⟩
  refine Json.Shape.exists_ofMembers rfl rfl hnames hset hkeep (forall_mem_fields.mpr ?_)
  exact ⟨hid, hdetail h.firstName, hdetail h.lastName, hdetail h.nickname, hdetail h.password,
    hdetail h.email, hdetail h.country, htime h.createdAt, htime h.updatedAt⟩

/-! ## The decoder -/

theorem make_eq_ok {id : Uuid} {details : Details} {c t : Instant} {u : User} :
    make id details c t = .ok u ↔
      details.check = .ok () ∧ u = ⟨id, details, c.truncate, t.truncate⟩ := by
  unfold make
  cases h : details.check with
  | error f => simp
  | ok x => simp [eq_comm]

theorem Draft.From.user_eq_ok {draft : Draft} {d : Document} (h : draft.From d) {u : User} :
    draft.user = .ok u ↔ ∃ id c t, draft.id = some id ∧ draft.createdAt = some c ∧
      draft.updatedAt = some t ∧ make id draft.details.details c t = .ok u := by
  obtain ⟨s, id, -, -, hid⟩ := h.id
  obtain ⟨-, c, -, -, hc⟩ := h.createdAt
  obtain ⟨-, t, -, -, ht⟩ := h.updatedAt
  unfold Draft.user
  rw [hid, hc, ht]
  dsimp only
  rw [Steps.mapError_eq_ok]
  simp

/-- **The decoder**: it gives `u` for exactly the objects that describe `u`. -/
theorem ofDocument_eq_ok {d : Document} {u : User} : ofDocument d = .ok u ↔ Describes d u := by
  unfold ofDocument
  rw [Steps.bind_eq_ok]
  refine ⟨?_, ?_⟩
  · rintro ⟨draft, hdraft, hu⟩
    have hfrom := from_of_ofMembers (Steps.mapError_eq_ok.mp hdraft)
    obtain ⟨id, c, t, hid, hc, ht, hmake⟩ := hfrom.user_eq_ok.mp hu
    obtain ⟨hcheck, rfl⟩ := make_eq_ok.mp hmake
    have hdetail : ∀ {name : String} {x : Option String},
        (∃ s, d.text? name = some s ∧ x = some s) → d.text? name = some (x.getD "") := by
      rintro name x ⟨s, hs, rfl⟩
      exact hs
    have htime : ∀ {name : String} {x : Option Instant} {t : Instant},
        (∃ s r, d.text? name = some s ∧ Instant.read s.toList = .ok r ∧ x = some r) →
        x = some t → HoldsTime d name t.truncate := by
      rintro name x t ⟨s, r, hs, hr, rfl⟩ hx
      rw [Option.some.injEq] at hx
      subst hx
      exact ⟨s, r, hs, hr, rfl⟩
    obtain ⟨s, id', hs, hread, hid'⟩ := hfrom.id
    rw [hid, Option.some.injEq] at hid'
    subst hid'
    exact ⟨⟨s, hs, hread⟩, hdetail hfrom.firstName, hdetail hfrom.lastName,
      hdetail hfrom.nickname, hdetail hfrom.password, hdetail hfrom.email,
      hdetail hfrom.country, htime hfrom.createdAt hc, htime hfrom.updatedAt ht, hcheck⟩
  · intro h
    obtain ⟨draft, hdraft⟩ := h.exists_draft
    refine ⟨draft, Steps.mapError_eq_ok.mpr hdraft, ?_⟩
    have hfrom := from_of_ofMembers hdraft
    have hdetail : ∀ {name t : String} {x : Option String},
        (∃ s, d.text? name = some s ∧ x = some s) → d.text? name = some t → x.getD "" = t := by
      rintro name t x ⟨s, hs, rfl⟩ ht
      rw [hs, Option.some.injEq] at ht
      exact ht
    have htime : ∀ {name : String} {x : Option Instant} {t : Instant},
        (∃ s r, d.text? name = some s ∧ Instant.read s.toList = .ok r ∧ x = some r) →
        HoldsTime d name t → ∃ r, x = some r ∧ t = r.truncate := by
      rintro name x t ⟨s, r, hs, hr, rfl⟩ ⟨s', r', hs', hr', ht⟩
      rw [hs, Option.some.injEq] at hs'
      rw [← hs', hr, Except.ok.injEq] at hr'
      exact ⟨r, rfl, hr' ▸ ht⟩
    have hid : draft.id = some u.id := by
      obtain ⟨s, id, hs, hread, hid⟩ := hfrom.id
      obtain ⟨s', hs', hread'⟩ := h.id
      rw [hs, Option.some.injEq] at hs'
      rw [← hs', hread, Except.ok.injEq] at hread'
      rw [hid, hread']
    have hdetails : draft.details.details = u.details := by
      unfold Details.Draft.details
      rw [hdetail hfrom.firstName h.firstName, hdetail hfrom.lastName h.lastName,
        hdetail hfrom.nickname h.nickname, hdetail hfrom.password h.password,
        hdetail hfrom.email h.email, hdetail hfrom.country h.country]
    obtain ⟨c, hc, hcreated⟩ := htime hfrom.createdAt h.createdAt
    obtain ⟨t, ht, hupdated⟩ := htime hfrom.updatedAt h.updatedAt
    refine hfrom.user_eq_ok.mpr ⟨u.id, c, t, hid, hc, ht, make_eq_ok.mpr ?_⟩
    rw [hdetails]
    refine ⟨h.valid, ?_⟩
    rw [← hcreated, ← hupdated]

/-! ## The document of an account -/

theorem get?_document (u : User) (name : String) :
    u.document.get? name =
      if name = "updated_at" then some (timeMember u.updatedAt)
      else if name = "created_at" then some (timeMember u.createdAt)
      else (Keyed.findEntry name u.details.members.reverse).or
        (if name = "id" then some (.string u.id.toString) else none) := by
  have hreverse : u.members.reverse = ("updated_at", timeMember u.updatedAt) ::
      ("created_at", timeMember u.createdAt) ::
        (u.details.members.reverse ++ [("id", .string u.id.toString)]) := by
    simp [members]
  unfold document
  rw [Keyed.get?_ofList, hreverse, Keyed.findEntry, Keyed.findEntry, Keyed.findEntry_append,
    Keyed.findEntry, Keyed.findEntry]

theorem get?_document_of_mem {u : User} {name : String} {v : Json} (h : (name, v) ∈ u.members) :
    u.document.get? name = some v := by
  have hmembers : u.members = [("id", .string u.id.toString),
      ("first_name", .string u.details.firstName), ("last_name", .string u.details.lastName),
      ("nickname", .string u.details.nickname), ("password", .string u.details.password),
      ("email", .string u.details.email), ("country", .string u.details.country),
      ("created_at", timeMember u.createdAt), ("updated_at", timeMember u.updatedAt)] := rfl
  rw [get?_document]
  simp only [hmembers, List.mem_cons, Prod.mk.injEq, List.not_mem_nil, or_false] at h
  rcases h with ⟨rfl, rfl⟩ | ⟨rfl, rfl⟩ | ⟨rfl, rfl⟩ | ⟨rfl, rfl⟩ | ⟨rfl, rfl⟩ | ⟨rfl, rfl⟩ |
    ⟨rfl, rfl⟩ | ⟨rfl, rfl⟩ | ⟨rfl, rfl⟩
  all_goals rfl

/-- **Documents describe their accounts**, with the instants that their texts name. -/
theorem describes_document {u : User} (h : u.details.check = .ok ()) :
    Describes u.document ⟨u.id, u.details, u.createdAt.readBack, u.updatedAt.readBack⟩ := by
  have htext : ∀ {name s : String}, (name, Json.string s) ∈ u.members →
      u.document.text? name = some s :=
    fun hmem => Document.text?_eq_some.mpr (get?_document_of_mem hmem)
  have htime : ∀ {name : String} {t : Instant}, (name, timeMember t) ∈ u.members →
      HoldsTime u.document name t.readBack := by
    intro name t hmem
    refine ⟨String.ofList t.text, t.readBack, htext hmem, ?_, t.truncate_readBack.symm⟩
    rw [String.toList_ofList, t.read_text]
  constructor
  case id => exact ⟨u.id.toString, htext (by simp [members]), u.id.read_toString⟩
  case createdAt => exact htime (by simp [members])
  case updatedAt => exact htime (by simp [members])
  case valid => exact h
  all_goals exact htext (by simp [members, Details.members])

/-- **The document of an account decodes** to the account with the instants that its texts name. -/
theorem ofDocument_document {u : User} (h : u.details.check = .ok ()) :
    ofDocument u.document = .ok ⟨u.id, u.details, u.createdAt.readBack, u.updatedAt.readBack⟩ :=
  ofDocument_eq_ok.mpr (describes_document h)

/-- The details of all accounts have the same members. -/
theorem findEntry_members_eq_none {d : Details} {name : String}
    (h : Keyed.findEntry name d.members.reverse = none) (e : Details) :
    Keyed.findEntry name e.members.reverse = none := by
  rw [Keyed.findEntry_eq_none] at h ⊢
  exact h

/-- **Changing a document** gives the document of the changed account. -/
theorem change_document (u : User) (c : Change) :
    u.document.change c = document { u with details := c.details, updatedAt := c.updatedAt } := by
  refine Keyed.eq_of_get? fun name => ?_
  have hreverse : c.members.reverse =
      ("updated_at", timeMember c.updatedAt) :: c.details.members.reverse := by
    rw [c.members_eq, List.reverse_append]
    rfl
  rw [Document.get?_change, hreverse, Keyed.findEntry, get?_document, get?_document]
  by_cases hupdated : name = "updated_at"
  · rw [if_pos hupdated, if_pos hupdated, if_pos hupdated]
    rfl
  rw [if_neg hupdated, if_neg hupdated, if_neg hupdated]
  by_cases hcreated : name = "created_at"
  · rw [if_pos hcreated, if_pos hcreated, hcreated]
    rfl
  rw [if_neg hcreated, if_neg hcreated]
  cases hc : Keyed.findEntry name c.details.members.reverse with
  | some v => rfl
  | none => rw [findEntry_members_eq_none hc u.details, Option.none_or, Option.none_or]

end User

/-! ## Stored documents -/

namespace Store

theorem find_of_get? {s : Store} {id : Uuid} {d : Document} (h : s.get? id = some d) :
    s.find id = (decode id d).map some := by
  unfold find
  rw [h]

theorem decode_of_ok {d : Document} {u : User} (h : User.ofDocument d = .ok u) (id : Uuid) :
    decode id d = .ok u := by
  unfold decode
  rw [h]
  rfl

theorem decode_of_error {d : Document} {f : User.Fault} (h : User.ofDocument d = .error f)
    (id : Uuid) :
    decode id d = .error (.query ("stored user " ++ id.toString ++ ": " ++ f.reason)) := by
  unfold decode
  rw [h]
  rfl

end Store
end UserDirectory
