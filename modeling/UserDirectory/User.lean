import UserDirectory.Instant
import UserDirectory.Instant.Reader
import UserDirectory.User.Details
import UserDirectory.Uuid

/-!
# User — an account and its document

* `User`: an identifier, details, and the instants of creation and of the last change.
* `User.make`: a user with valid details, its instants cut to milliseconds.
* `User.members`, `User.document`: the account as a JSON object.
* `User.ofJson`, `User.ofDocument`, `User.ofText`: the account that an object describes.
-/

namespace UserDirectory

/-- An account. -/
structure User where
  id : Uuid
  details : Details
  createdAt : Instant
  updatedAt : Instant
deriving DecidableEq, Repr

namespace User

/-- An account with these details, if they are valid. -/
def make (id : Uuid) (details : Details) (createdAt updatedAt : Instant) :
    Except DetailsFault User := do
  details.check
  return ⟨id, details, createdAt.truncate, updatedAt.truncate⟩

/-! ## Documents -/

/-- An instant as a member of a document. -/
def timeMember (t : Instant) : Json := .string (String.ofList t.text)

/-- The members of an account's document, in the order in which they are written. -/
def members (u : User) : List (String × Json) :=
  ("id", .string u.id.toString) :: u.details.members ++
    [("created_at", timeMember u.createdAt), ("updated_at", timeMember u.updatedAt)]

/-- An account as a value. -/
def toJson (u : User) : Json := .object u.members

/-- An account as it is stored. -/
def document (u : User) : Document := .ofList u.members

/-- The text of an account. -/
def text (u : User) : String := u.toJson.text

/-! ## Reading -/

/-- An account of which some members may not have been read yet. -/
structure Draft where
  id : Option Uuid
  details : Details.Draft
  createdAt : Option Instant
  updatedAt : Option Instant
deriving DecidableEq, Repr

/-- The identifier. -/
def idField : Json.Field Draft where
  name := "id"
  expected := "a formatted UUID string"
  isSet d := d.id.isSome
  set s d :=
    match Uuid.read s.toList with
    | .ok u => .ok { d with id := some u }
    | .error f => .error ("UUID parsing failed: " ++ f.message)

/-- A member that is an instant. -/
def timeField (name : String) (get : Draft → Option Instant) (set : Instant → Draft → Draft) :
    Json.Field Draft where
  name := name
  expected := "an RFC 3339 formatted date and time string"
  isSet d := (get d).isSome
  set s d :=
    match Instant.read s.toList with
    | .ok t => .ok (set t d)
    | .error f => .error f.message

/-- The nine members in order. -/
def fields : List (Json.Field Draft) :=
  idField ::
    Details.fields.map (Json.Field.lift Draft.details fun p d => { d with details := p }) ++
    [timeField "created_at" Draft.createdAt fun t d => { d with createdAt := some t },
      timeField "updated_at" Draft.updatedAt fun t d => { d with updatedAt := some t }]

/-- An account's document. -/
def shape : Json.Shape Draft where
  name := "UserDocument"
  fields := fields
  needsMembers := true
  needsItems := true
  nullable := false
  empty := ⟨none, .empty, none, none⟩

/-- Why a document describes no account. -/
inductive Fault where
  | shape (mismatch : Json.Mismatch)
  | text (fault : Json.Fault)
  | details (fault : DetailsFault)
deriving DecidableEq, Repr

/-- The words for a fault in a value. -/
def Fault.reason : Fault → String
  | .shape mismatch => mismatch.message
  | .text fault => fault.cause.message
  | .details fault => fault.message

/-- The words for a fault in a whole text. -/
def Fault.message (f : Fault) (whole : List Char) : String :=
  match f with
  | .text fault => fault.message whole
  | f => f.reason

/-- The account that a draft describes, if its details are valid. -/
def Draft.user (d : Draft) : Except Fault User :=
  match d.id, d.createdAt, d.updatedAt with
  | some id, some createdAt, some updatedAt =>
    (make id d.details.details createdAt updatedAt).mapError .details
  | none, _, _ => .error (.shape (.missing "id"))
  | _, none, _ => .error (.shape (.missing "created_at"))
  | _, _, none => .error (.shape (.missing "updated_at"))

/-- The account that a stored document describes. -/
def ofDocument (d : Document) : Except Fault User := do
  let draft ← (shape.ofMembers d).mapError .shape
  draft.user

/-- The account that a value describes. -/
def ofJson (v : Json) : Except Fault User := do
  let draft ← (shape.ofJson v).mapError .shape
  draft.user

/-- The account that a whole JSON text describes.  Invalid details come before anything that
follows the account. -/
def ofText (t : List Char) : Except Fault User := do
  let (draft, rest) ← (shape.read t).mapError .text
  let user ← draft.user
  (Json.readEnd rest).mapError .text
  return user

end User
end UserDirectory
