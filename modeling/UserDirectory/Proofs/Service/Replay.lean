import UserDirectory.Proofs.Event
import UserDirectory.Proofs.Service.Directory
import UserDirectory.Proofs.Service.Outcomes

/-!
# Proofs.Service.Replay — the documents as the announced events tell them

* `Notice`: what a receiver takes from the value of an event, and does to documents of its own.
* `replay`: the documents of a receiver of texts, one after another.
* `Event.Fits e s`: a creation finds no document with its identifier, any other event finds one.
* `Turns s es s'`: the events, each of which fits, turn the documents `s` into `s'`.
* `outcomeOn_turns`: one request turns the documents into what its event tells.
* `replay_reproduces_store`: replaying a session's events gives the documents that it left.
-/

namespace UserDirectory

/-! ## Receivers -/

/-- What the text of an event tells: the action, the identifier of the account, and its members. -/
structure Notice where
  action : String
  id : Uuid
  members : Document

namespace Notice

/-- What a value tells, if it is that of an event. -/
def ofJson? (envelope : Json) : Option Notice := do
  let action ← (envelope.get? "action").bind Json.string?
  let data ← envelope.get? "user_data"
  let members ← data.members?
  let text ← (data.get? "id").bind Json.string?
  let id ← (Uuid.read text.toList).toOption
  return ⟨action, id, .ofList members⟩

/-- What a receiver does to its documents. -/
def apply (n : Notice) (s : Store) : Option Store :=
  if n.action = "created" ∨ n.action = "updated" then some (s.insert n.id n.members)
  else if n.action = "deleted" then some (s.erase n.id)
  else none

end Notice

/-- The documents of a receiver after the texts. -/
def replay : List String → Store → Option Store
  | [], s => some s
  | payload :: rest, s =>
    ((Json.parse? payload).bind Notice.ofJson?).bind fun n => (n.apply s).bind (replay rest)

namespace Event

/-- The documents after the event. -/
def applied (s : Store) : Event → Store
  | created u => s.insert u.id u.document
  | updated u => s.insert u.id u.document
  | deleted id => s.erase id

/-- What the text of the event tells. -/
def notice : Event → Notice
  | created u => ⟨"created", u.id, u.document⟩
  | updated u => ⟨"updated", u.id, u.document⟩
  | deleted id => ⟨"deleted", id, .ofList [("id", .string id.toString)]⟩

theorem get?_id_toJson (u : User) : u.toJson.get? "id" = some (.string u.id.toString) := by
  simp [User.toJson, User.members, Details.members, Json.get?]

/-- The value of an event tells the event. -/
theorem ofJson?_toJson (e : Event) : Notice.ofJson? e.toJson = some e.notice := by
  have haction : e.toJson.get? "action" = some (.string e.action) := by
    simp [toJson, Json.get?]
  have hdata : e.toJson.get? "user_data" = some e.userData := by
    simp [toJson, Json.get?]
  have hid : e.userData.get? "id" = some (.string e.userId.toString) := by
    cases e with
    | created u => exact get?_id_toJson u
    | updated u => exact get?_id_toJson u
    | deleted id => simp [userData, userId, Json.get?]
  unfold Notice.ofJson?
  rw [haction, hdata]
  simp only [Option.bind_eq_bind, Option.bind_some, Json.string?, hid]
  rw [e.userId.read_toString]
  cases e <;> rfl

/-- The text of an event tells the event. -/
theorem read_payload (e : Event) :
    (Json.parse? e.payload).bind Notice.ofJson? = some e.notice := by
  have hparse : Json.parse? e.payload = some e.toJson := by
    unfold Json.parse?
    rw [e.parse_payload]
    rfl
  rw [hparse, Option.bind_some, e.ofJson?_toJson]

theorem apply_notice (e : Event) (s : Store) : e.notice.apply s = some (applied s e) := by
  cases e <;> rfl

/-- A receiver of the texts of events does what the events do. -/
theorem replay_payloads (es : List Event) (s : Store) :
    replay (es.map payload) s = some (es.foldl applied s) := by
  induction es generalizing s with
  | nil => rfl
  | cons e es ih =>
    rw [List.map_cons, replay, e.read_payload, Option.bind_some, e.apply_notice, Option.bind_some,
      ih]
    rfl

/-! ## Events that fit -/

/-- What the event finds: a creation no document with its identifier, any other event one. -/
def Fits : Event → Store → Prop
  | created u, s => s.contains u.id = false
  | updated u, s => s.contains u.id = true
  | deleted id, s => s.contains id = true

/-- The events turn the documents into others, and each finds what it has to find. -/
inductive Turns : Store → List Event → Store → Prop
  | nil {s} : Turns s [] s
  | cons {s s' e es} : Fits e s → Turns (applied s e) es s' → Turns s (e :: es) s'

namespace Turns

theorem append {s s' s'' : Store} {es fs : List Event} (h : Turns s es s') (h' : Turns s' fs s'') :
    Turns s (es ++ fs) s'' := by
  induction h with
  | nil => exact h'
  | cons hfits _ ih => exact .cons hfits (ih h')

theorem foldl_eq {s s' : Store} {es : List Event} (h : Turns s es s') :
    es.foldl applied s = s' := by
  induction h with
  | nil => rfl
  | cons _ _ ih => exact ih

/-- Every event fits the documents that those before it leave. -/
theorem fits {s s' : Store} {before later : List Event} {e : Event}
    (h : Turns s (before ++ e :: later) s') :
    Fits e (before.foldl applied s) := by
  induction before generalizing s with
  | nil =>
    cases h with
    | cons hfits _ => exact hfits
  | cons d before ih =>
    cases h with
    | cons _ htail => exact ih htail

end Turns
end Event

/-! ## Requests -/

namespace Service

open Event (Turns Fits applied)

variable {c : Context} {s : Store} {m : Directory}

/-- An outcome without an event, over documents that stayed as they were. -/
theorem turns_of_quiet {o : Outcome} (h : o.event = none) : Turns s o.event.toList s := by
  rw [h]
  exact .nil

/-- An outcome with an event that fits and tells what became of the documents. -/
theorem turns_of_event {o : Outcome} {e : Event} (h : o.event = some e) (hfits : e.Fits s) :
    Turns s o.event.toList (applied s e) := by
  rw [h]
  exact .cons hfits .nil

theorem create_turns (c : Context) (u : User) (s : Store) :
    Turns s (settle c (.create u) (Store.create u s).1).event.toList (Store.create u s).2 := by
  unfold Store.create
  cases hcontains : s.contains u.id with
  | true => exact turns_of_quiet rfl
  | false =>
    have hfits : Fits (.created u) s := hcontains
    exact turns_of_event rfl hfits

theorem delete_turns (c : Context) (id : Uuid) (s : Store) :
    Turns s (settle c (.delete id) (.ok (Store.delete id s).1)).event.toList
      (Store.delete id s).2 := by
  unfold Store.delete
  cases hcontains : s.contains id with
  | true =>
    have hfits : Fits (.deleted id) s := hcontains
    exact turns_of_event rfl hfits
  | false => exact turns_of_quiet rfl

/-- The account that an update announces has the document that it left. -/
theorem update_turns (c : Context) (hm : m.Sound) {id : Uuid} {details : Details}
    (hvalid : details.check = .ok ()) (t : Instant) :
    Turns m.store (settle c (.update ⟨id, details, t.truncate⟩)
        (.ok (Store.update ⟨id, details, t.truncate⟩ m.store).1)).event.toList
      (Store.update ⟨id, details, t.truncate⟩ m.store).2 := by
  cases hget : m.get? id with
  | none =>
    rw [Directory.update_of_absent hget]
    exact turns_of_quiet rfl
  | some r =>
    let record : Record := { r with details, updatedAt := t.cutNanos }
    have hfits : Fits (.updated (record.found id)) m.store := by
      show m.store.contains id = true
      rw [m.contains_store, Keyed.contains_eq_true]
      exact ⟨r, hget⟩
    rw [hm.update_of_get? hget hvalid, ← record.document_found]
    exact turns_of_event rfl hfits

/-- **One request** turns the documents of a sound directory into what its event tells. -/
theorem outcomeOn_turns (hm : m.Sound) (r : Request) :
    Turns m.store (outcomeOn c r m.store).1.event.toList (outcomeOn c r m.store).2 := by
  rcases plan_spec c r with ⟨e, hplan, -⟩ | ⟨call, hplan, hasks⟩
  · rw [outcomeOn_of_plan_error hplan]
    exact turns_of_quiet rfl
  · rw [outcomeOn_of_plan_ok hplan]
    cases hasks with
    | create _ => exact create_turns c _ m.store
    | update hvalid => exact update_turns c hm (Details.check_eq_ok.mpr hvalid) c.now
    | @delete id => exact delete_turns c id m.store
    | @get id => exact turns_of_quiet (find_quiet c id _)
    | @list _ q _ => exact turns_of_quiet (list_quiet c q _)

/-- A session turns the documents into what its events tell. -/
theorem outcomes_turns (rs : List (Context × Request)) (hm : m.Sound) :
    Turns m.store ((outcomes rs m.store).filterMap Outcome.event) (storeAfter rs m.store) := by
  induction rs generalizing m with
  | nil => exact .nil
  | cons q rs ih =>
    obtain ⟨c, r⟩ := q
    -- Soundness carries the induction: without it an update could leave a document that does not
    -- decode, and then it is not announced.
    obtain ⟨hstore, hsound⟩ := outcomeOn_on_directory (c := c) hm r
    have hfirst := outcomeOn_turns (c := c) hm r
    have hrest := ih hsound
    rw [← hstore] at hrest
    rw [events_cons]
    exact hfirst.append hrest

/-- **The events reproduce the documents**: whatever the times, the drawn identifiers and the
publisher, after every session that starts without documents a receiver of the texts of its events
has exactly the documents of the store, and every event fitted the documents that the texts before
it tell. -/
theorem replay_reproduces_store {π : Type} (bus : Publisher π) (rs : List (Context × Request))
    (p : π) :
    let final := after .memory bus.recorded rs Keyed.empty (p, [])
    replay (final.2.2.map Event.payload) Keyed.empty = some final.1 ∧
    ∀ before e later, final.2.2 = before ++ e :: later →
      ∃ s, replay (before.map Event.payload) Keyed.empty = some s ∧ e.Fits s := by
  intro final
  have hevents : final.2.2 = (outcomes rs Keyed.empty).filterMap Outcome.event :=
    recorded_after bus rs Keyed.empty (p, [])
  have hstore : final.1 = storeAfter rs Keyed.empty :=
    after_memory bus.recorded rs Keyed.empty (p, [])
  have hturns : Turns Keyed.empty final.2.2 final.1 := by
    rw [hevents, hstore]
    exact outcomes_turns rs Directory.sound_empty
  refine ⟨?_, ?_⟩
  · rw [Event.replay_payloads, hturns.foldl_eq]
  · intro before e later hsplit
    rw [hsplit] at hturns
    exact ⟨_, Event.replay_payloads before Keyed.empty, hturns.fits⟩

/-- An account that is created in a leap second, not created once more, changed, deleted, and then
not there to be changed. -/
theorem replay_reproduces_store_turnover :
    let details : Details := ⟨"Jane", "Roe", "\"jr\"", "\\", "Jane <jr@example.com>", "UK"⟩
    let c : Context := ⟨none, ⟨59, 1999999999, by decide, by decide⟩, ⟨1, by decide⟩⟩
    let update : Request := .update c.freshId { details with country := "¿" }
    let rs := [(c, .create details), (c, .create details), (c, update), (c, .delete c.freshId),
      (c, update)]
    let final := after .memory Publisher.recording.recorded rs Keyed.empty ([], [])
    final.2.2.map Event.action = ["created", "updated", "deleted"] ∧
    replay (final.2.2.map Event.payload) Keyed.empty = some final.1 ∧
    ∀ before e later, final.2.2 = before ++ e :: later →
      ∃ s, replay (before.map Event.payload) Keyed.empty = some s ∧ e.Fits s := by
  intro details c update rs final
  have hactions : final.2.2.map Event.action = ["created", "updated", "deleted"] := by
    decide +kernel
  exact ⟨hactions, replay_reproduces_store Publisher.recording rs []⟩

end Service
end UserDirectory
