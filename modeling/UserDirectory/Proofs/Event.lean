import UserDirectory.Bus
import UserDirectory.Proofs.Json.Text
import UserDirectory.Proofs.User.Text

/-!
# Proofs.Event — what is read from the text of an event

* `Genuine e`: the account in the event was obtained like any account.
* `ToldBy data e`: the value `data` tells the account of the event, or its identifier alone.
* `parse_payload`: the text of an event is an object of its action and what it tells.
* `texts_read_back`: accounts and events are read back from their texts, with the instants that
  these name, so events with the same text differ in what no text tells of an instant.
* `texts_read_back_within_minute`: that is more than parts of milliseconds.
-/

namespace UserDirectory.Event

/-- The account in the event, if it has one, was obtained like any account. -/
def Genuine : Event → Prop
  | .created u => u.Obtained
  | .updated u => u.Obtained
  | .deleted _ => True

/-- The event with the instants of its account as their texts name them, in whole milliseconds. -/
def cut : Event → Event
  | .created u => .created u.cut
  | .updated u => .updated u.cut
  | .deleted id => .deleted id

/-- The value describes the account of the event with the instants that their texts name; of a
deleted account it holds the identifier and nothing else. -/
def ToldBy (data : Json) : Event → Prop
  | .created u => User.ofJson data = .ok u.cut
  | .updated u => User.ofJson data = .ok u.cut
  | .deleted id => ∃ s, data = .object [("id", .string s)] ∧ Uuid.read s.toList = .ok id

theorem Genuine.toldBy {e : Event} (h : e.Genuine) : ToldBy e.userData e := by
  cases e with
  | created u => exact User.ofJson_toJson h.valid
  | updated u => exact User.ofJson_toJson h.valid
  | deleted id => exact ⟨id.toString, rfl, id.read_toString⟩

/-- The action and what a value tells leave one event, its instants cut. -/
theorem ToldBy.cut_eq {data : Json} {e f : Event} (he : ToldBy data e) (hf : ToldBy data f)
    (haction : e.action = f.action) : e.cut = f.cut := by
  have huser : ∀ {u v : User}, User.ofJson data = .ok u.cut → User.ofJson data = .ok v.cut →
      u.cut = v.cut := by
    intro u v hu hv
    rw [hu] at hv
    exact Except.ok.inj hv
  cases e with
  | created u =>
    cases f with
    | created v => exact congrArg Event.created (huser he hf)
    | _ => simp [action] at haction
  | updated u =>
    cases f with
    | updated v => exact congrArg Event.updated (huser he hf)
    | _ => simp [action] at haction
  | deleted id =>
    cases f with
    | deleted id' =>
      obtain ⟨s, rfl, hs⟩ := he
      obtain ⟨s', heq, hs'⟩ := hf
      cases heq
      rw [hs] at hs'
      exact congrArg Event.deleted (Except.ok.inj hs')
    | _ => simp [action] at haction

/-- All that an event tells is told in texts. -/
theorem numberFree_toJson (e : Event) : Json.NumberFree e.toJson := by
  have hdata : Json.NumberFree e.userData := by
    cases e with
    | created u => exact .texts u.texts
    | updated u => exact .texts u.texts
    | deleted id => exact .texts [("id", id.toString)]
  refine .object fun m hm => ?_
  rcases List.mem_cons.mp hm with rfl | hm
  · exact .string _
  · rw [List.mem_singleton.mp hm]
    exact hdata

/-- **The text of an event** is read as the action and what the event tells, and nothing else. -/
theorem parse_payload (e : Event) : Json.parse e.payload.toList =
    .ok (.object [("action", .string e.action), ("user_data", e.userData)]) :=
  Json.parse_text e.numberFree_toJson

/-- The text of an event shows the instants that it names, and no parts of milliseconds. -/
theorem payload_cut (e : Event) : e.cut.payload = e.payload := by
  have hdata : e.cut.userData = e.userData := by
    cases e with
    | created u => exact congrArg Json.object u.members_cut
    | updated u => exact congrArg Json.object u.members_cut
    | deleted id => rfl
  have haction : e.cut.action = e.action := by
    cases e <;> rfl
  unfold payload toJson
  rw [haction, hdata]

/-- **Texts read back**: an account is read from its text with the instants that its texts name; the
text of an event is an object of exactly its action and a value that tells the event so; and events
with the same text have the same action and, their instants taken so, are the same.  Where leap
seconds end a minute, taking instants so is cutting them to milliseconds. -/
theorem texts_read_back :
    (∀ u : User, u.Obtained → User.ofText u.text.toList = .ok u.cut) ∧
    (∀ u : User, u.LeapsAtMinuteEnd →
      u.cut = ⟨u.id, u.details, u.createdAt.cutNanos, u.updatedAt.cutNanos⟩) ∧
    (∀ e : Event, e.Genuine → ∃ data, Json.parse e.payload.toList =
      .ok (.object [("action", .string e.action), ("user_data", data)]) ∧ ToldBy data e) ∧
    (∀ e f : Event, e.Genuine → f.Genuine → e.payload = f.payload →
      e.action = f.action ∧ e.cut = f.cut) := by
  refine ⟨?_, ?_, ?_, ?_⟩
  · intro u hu
    exact User.ofText_text hu.valid
  · intro u hleap
    exact hleap.cut_eq
  · intro e he
    exact ⟨e.userData, e.parse_payload, he.toldBy⟩
  · intro e f he hf hpayload
    -- The text has one reading, so both events tell the same under the same action.
    have hparse := e.parse_payload
    rw [hpayload, f.parse_payload] at hparse
    simp only [Except.ok.injEq, Json.object.injEq, List.cons.injEq, Prod.mk.injEq, true_and,
      Json.string.injEq, and_true] at hparse
    obtain ⟨haction, hdata⟩ := hparse
    have htold : ToldBy e.userData f := by
      rw [← hdata]
      exact hf.toldBy
    exact ⟨haction.symm, he.toldBy.cut_eq htold haction.symm⟩

/-- Two accounts that differ in a part of a millisecond and have the same text, which is full of
what has to be escaped. -/
theorem texts_read_back_escaped :
    let details : Details :=
      ⟨"\"", "\\", "\x00\x08\x1f", "\n\r\t/", "\"\\\"\x01\"@[\x7f]", "é𝄞\x7f"⟩
    let time : Instant := ⟨0, 0, by decide, by decide⟩
    let u : User := ⟨⟨10, by decide⟩, details, ⟨lastSecond, 1, by decide, by decide⟩, time⟩
    let v : User := ⟨⟨10, by decide⟩, details, ⟨lastSecond, 2, by decide, by decide⟩, time⟩
    u ≠ v ∧ u.Obtained ∧ v.Obtained ∧ u.LeapsAtMinuteEnd ∧
      User.ofText u.text.toList = .ok ⟨u.id, u.details, u.createdAt.cutNanos, time⟩ ∧
      (∃ data, Json.parse (created u).payload.toList =
        .ok (.object [("action", .string "created"), ("user_data", data)]) ∧
          ToldBy data (created u)) ∧
      (created u).payload = (created v).payload ∧ (created u).cut = (created v).cut := by
  intro details time u v
  have hcheck : details.check = .ok () := by decide
  have hu : u.Obtained := User.obtained_iff.mpr ⟨hcheck, by decide⟩
  have hv : v.Obtained := User.obtained_iff.mpr ⟨hcheck, by decide⟩
  have hne : u ≠ v := by decide
  have hleap : u.LeapsAtMinuteEnd := ⟨.inl (by decide), .inl (by decide)⟩
  have hpayload : (created u).payload = (created v).payload := by
    rw [← payload_cut, ← (created v).payload_cut]
    rfl
  obtain ⟨hread, hmillis, htold, hsame⟩ := texts_read_back
  obtain ⟨-, hcut⟩ := hsame (created u) (created v) hu hv hpayload
  exact ⟨hne, hu, hv, hleap, hmillis u hleap ▸ hread u hu, htold (created u) hu, hpayload, hcut⟩

/-- Two accounts of whole milliseconds, one created in a leap second within a minute and one in the
second behind it: each is read from its text as the second. -/
theorem texts_read_back_within_minute :
    let details : Details := ⟨"A", "B", "C", "D", "e@example.com", "F"⟩
    let leap : Instant := ⟨30, 1500000000, by decide, by decide⟩
    let behind : Instant := ⟨31, 500000000, by decide, by decide⟩
    let id : Uuid := ⟨0x3fa85f6457174562b3fc2c963f66afa6, by decide⟩
    let u : User := ⟨id, details, leap, leap⟩
    let v : User := ⟨id, details, behind, behind⟩
    u.Obtained ∧ v.Obtained ∧ leap.cutNanos = leap ∧ behind.cutNanos = behind ∧ u ≠ v ∧
      User.ofText u.text.toList = .ok v ∧ (created u).payload = (created v).payload := by
  intro details leap behind id u v
  have hcheck : details.check = .ok () := by decide
  have hu : u.Obtained := User.obtained_iff.mpr ⟨hcheck, by decide⟩
  have hv : v.Obtained := User.obtained_iff.mpr ⟨hcheck, by decide⟩
  have hbehind : u.cut = v := by decide
  have hread : User.ofText u.text.toList = .ok u.cut := User.ofText_text hcheck
  have hpayload : (created u).payload = (created v).payload := by
    rw [← payload_cut (created u), ← hbehind]
    rfl
  exact ⟨hu, hv, by decide, by decide, by decide, hbehind ▸ hread, hpayload⟩

end UserDirectory.Event
