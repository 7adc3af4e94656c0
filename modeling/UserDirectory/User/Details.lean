import UserDirectory.Json.Record
import UserDirectory.Mailbox

/-!
# User.Details — the six members of an account that its owner edits

* `Details`: the six texts.
* `Details.check`: the first rule that they break, in a fixed order.
* `Details.shape`: how they are read; an absent member is empty.
-/

namespace UserDirectory

/-- What the owner of an account may edit. -/
structure Details where
  firstName : String
  lastName : String
  nickname : String
  password : String
  email : String
  country : String
deriving DecidableEq, Repr, Inhabited

/-- The rules that details can break. -/
inductive DetailsFault where
  | firstNameRequired
  | lastNameRequired
  | nicknameRequired
  | passwordRequired
  | emailRequired
  | emailInvalid
  | countryRequired
deriving DecidableEq, Repr

/-- The words for a broken rule. -/
def DetailsFault.message : DetailsFault → String
  | .firstNameRequired => "first name is required"
  | .lastNameRequired => "last name is required"
  | .nicknameRequired => "nickname is required"
  | .passwordRequired => "password is required"
  | .emailRequired => "email is required"
  | .emailInvalid => "email is invalid"
  | .countryRequired => "country is required"

namespace Details

/-- The first rule that the details break: no text may be empty, and the e-mail has to be a
mailbox. -/
def fault? (d : Details) : Option DetailsFault :=
  if d.firstName.isEmpty then some .firstNameRequired
  else if d.lastName.isEmpty then some .lastNameRequired
  else if d.nickname.isEmpty then some .nicknameRequired
  else if d.password.isEmpty then some .passwordRequired
  else if d.email.isEmpty then some .emailRequired
  else if !Mailbox.isValid d.email then some .emailInvalid
  else if d.country.isEmpty then some .countryRequired
  else none

/-- Refuses details that break a rule. -/
def check (d : Details) : Except DetailsFault Unit :=
  match d.fault? with
  | some f => .error f
  | none => .ok ()

/-- The members of a document that hold the details. -/
def members (d : Details) : List (String × Json) :=
  [("first_name", .string d.firstName), ("last_name", .string d.lastName),
    ("nickname", .string d.nickname), ("password", .string d.password),
    ("email", .string d.email), ("country", .string d.country)]

/-! ## Reading -/

/-- Details of which some may not have been read yet. -/
structure Draft where
  firstName : Option String
  lastName : Option String
  nickname : Option String
  password : Option String
  email : Option String
  country : Option String
deriving DecidableEq, Repr

/-- Details of which none has been read. -/
def Draft.empty : Draft := ⟨none, none, none, none, none, none⟩

/-- The details, what is absent taken to be empty. -/
def Draft.details (d : Draft) : Details where
  firstName := d.firstName.getD ""
  lastName := d.lastName.getD ""
  nickname := d.nickname.getD ""
  password := d.password.getD ""
  email := d.email.getD ""
  country := d.country.getD ""

/-- A member that is any text. -/
def textField (name : String) (get : Draft → Option String) (set : String → Draft → Draft) :
    Json.Field Draft where
  name := name
  expected := "a string"
  isSet d := (get d).isSome
  set s d := .ok (set s d)

/-- The six members in order. -/
def fields : List (Json.Field Draft) :=
  [textField "first_name" Draft.firstName fun s d => { d with firstName := some s },
    textField "last_name" Draft.lastName fun s d => { d with lastName := some s },
    textField "nickname" Draft.nickname fun s d => { d with nickname := some s },
    textField "password" Draft.password fun s d => { d with password := some s },
    textField "email" Draft.email fun s d => { d with email := some s },
    textField "country" Draft.country fun s d => { d with country := some s }]

/-- Details as clients send them. -/
def shape : Json.Shape Draft where
  name := "UserDetails"
  fields := fields
  needsMembers := false
  needsItems := false
  nullable := false
  empty := Draft.empty

/-- The details that a value holds. -/
def ofJson (v : Json) : Except Json.Mismatch Details := (shape.ofJson v).map Draft.details

/-- The details that a whole JSON text holds. -/
def ofText (t : List Char) : Except Json.Fault Details := do
  let (draft, rest) ← shape.read t
  Json.readEnd rest
  return draft.details

end Details
end UserDirectory
