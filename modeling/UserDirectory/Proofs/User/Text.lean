import UserDirectory.Proofs.Json.RecordReading
import UserDirectory.Proofs.User.Codec

/-!
# Proofs.User.Text — accounts read back from the text that writes them

* `texts`, `drafted`: the nine members of an account's text, and the draft that they fill.
* `ofText_text`: the reader makes of the text of an account the account with the instants that its
  texts name.
* `ofJson_toJson`: so it does of the account's value.
-/

namespace UserDirectory.User

/-- The members of an account, each of which is a text. -/
def texts (u : User) : List (String × String) :=
  [("id", u.id.toString), ("first_name", u.details.firstName), ("last_name", u.details.lastName),
    ("nickname", u.details.nickname), ("password", u.details.password),
    ("email", u.details.email), ("country", u.details.country),
    ("created_at", String.ofList u.createdAt.text), ("updated_at", String.ofList u.updatedAt.text)]

theorem toJson_eq_texts (u : User) : u.toJson = .object (Json.Shape.texts u.texts) := rfl

/-- The draft of an account of which everything has been read. -/
def drafted (u : User) : Draft where
  id := some u.id
  details := ⟨some u.details.firstName, some u.details.lastName, some u.details.nickname,
    some u.details.password, some u.details.email, some u.details.country⟩
  createdAt := some u.createdAt.readBack
  updatedAt := some u.updatedAt.readBack

/-- The nine members fill the draft. -/
theorem fills_texts (u : User) :
    Json.Shape.Fills shape shape.empty (Json.Shape.printed u.texts) u.drafted := by
  have hread : ∀ t : Instant, Instant.read (String.ofList t.text).toList = .ok t.readBack := by
    intro t
    rw [String.toList_ofList, t.read_text]
  have htext := Json.stringText_quote
  refine .cons (.field rfl rfl (htext _) (idField_set.mpr ⟨u.id, u.id.read_toString, rfl⟩)) ?_
  iterate 6 refine .cons (.field rfl rfl (htext _) (detailField_set.mpr rfl)) ?_
  refine .cons (.field rfl rfl (htext _)
    (timeField_set.mpr ⟨_, hread u.createdAt, rfl⟩)) ?_
  refine .cons (.field rfl rfl (htext _)
    (timeField_set.mpr ⟨_, hread u.updatedAt, rfl⟩)) ?_
  exact .nil

theorem user_drafted {u : User} (h : u.details.check = .ok ()) : u.drafted.user = .ok u.cut := by
  have hmake : make u.id u.details u.createdAt.readBack u.updatedAt.readBack = .ok u.cut := by
    rw [make_eq_ok, Instant.truncate_readBack, Instant.truncate_readBack]
    exact ⟨h, rfl⟩
  show (make u.id u.details u.createdAt.readBack u.updatedAt.readBack).mapError Fault.details = _
  rw [hmake]
  rfl

/-- **The text of an account reads back** as the account with the instants that its texts name. -/
theorem ofText_text {u : User} (h : u.details.check = .ok ()) :
    ofText u.text.toList = .ok u.cut := by
  have hobject : Json.ObjectText (Json.Shape.printed u.texts) u.text.toList := by
    unfold text Json.text
    rw [String.toList_ofList, u.toJson_eq_texts]
    exact Json.Shape.objectText_print u.texts
  obtain ⟨b, hb, hread⟩ := Json.Shape.read_objectText hobject u.fills_texts rfl
  unfold ofText
  rw [hread]
  show (u.drafted.user >>= fun user => (Json.readEnd b).mapError Fault.text >>= fun _ =>
    Except.ok user) = _
  rw [user_drafted h, Json.readEnd_blanks hb]
  rfl

/-- The value of an account reads back as its document does. -/
theorem ofJson_toJson {u : User} (h : u.details.check = .ok ()) : ofJson u.toJson = .ok u.cut :=
  ofDocument_document h

end UserDirectory.User
