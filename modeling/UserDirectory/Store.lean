import UserDirectory.Listing.Selection
import UserDirectory.User

/-!
# Store — where accounts are kept

* `StoreCall`, `StoreCall.Reply`: the five things that are asked of a store, and its replies.
* `Repository σ`: a store with states of type `σ`, whatever it is.
* `Repository.memory`: documents in memory, by identifier.
-/

namespace UserDirectory

/-! ## Calls and replies -/

/-- Why a store cannot reply. -/
inductive StoreError where
  | connection (message : String)
  | query (message : String)
  | timeout (operation : String)
deriving DecidableEq, Repr

/-- The words for an error. -/
def StoreError.message : StoreError → String
  | .connection m => "user repository connection failed: " ++ m
  | .query m => "user repository query failed: " ++ m
  | .timeout operation => "user repository " ++ operation ++ " timed out"

/-- New details for an account. -/
structure Change where
  id : Uuid
  details : Details
  updatedAt : Instant
deriving DecidableEq, Repr

/-- The members of a document that a change sets. -/
def Change.members (c : Change) : List (String × Json) :=
  [("first_name", .string c.details.firstName), ("last_name", .string c.details.lastName),
    ("nickname", .string c.details.nickname), ("password", .string c.details.password),
    ("email", .string c.details.email), ("country", .string c.details.country),
    ("updated_at", .string (String.ofList c.updatedAt.text))]

/-- How a write to one account ended: it was made, there is no such account, or it was made but
the document that it left describes no account. -/
inductive WriteOutcome (α : Type) where
  | written (value : α)
  | notFound
  | undecodable (reason : String)
deriving DecidableEq, Repr

/-- What is asked of a store. -/
inductive StoreCall where
  | create (user : User)
  | find (id : Uuid)
  | list (query : Listing.Query)
  | update (change : Change)
  | delete (id : Uuid)
deriving DecidableEq, Repr

/-- The values that answer a call. -/
def StoreCall.Value : StoreCall → Type
  | .create _ => Unit
  | .find _ => Option User
  | .list _ => List User
  | .update _ => WriteOutcome User
  | .delete _ => WriteOutcome Unit

/-- The reply to a call. -/
abbrev StoreCall.Reply (c : StoreCall) : Type := Except StoreError c.Value

/-- A store: how it serves a call, tells whether it can be reached, and is shut down. -/
structure Repository (σ : Type) where
  serve : (c : StoreCall) → σ → c.Reply × σ
  ping : σ → Except StoreError Unit
  close : σ → Except StoreError Unit

/-! ## Documents in memory -/

/-- Documents by the identifier of their account. -/
abbrev Store := Keyed Uuid Document

namespace Document

/-- The text of a member. -/
def text? (d : Document) (name : String) : Option String := (d.get? name).bind Json.string?

/-- The document with new details and a new instant of the last change. -/
def change (d : Document) (c : Change) : Document :=
  c.members.foldl (fun d m => d.insert m.1 m.2) d

end Document

namespace Store

/-- The account of a stored document; the error names the identifier that it is stored under. -/
def decode (id : Uuid) (d : Document) : Except StoreError User :=
  (User.ofDocument d).mapError fun f =>
    .query ("stored user " ++ id.toString ++ ": " ++ f.reason)

/-- Stores a new account. -/
def create (user : User) (s : Store) : Except StoreError Unit × Store :=
  if s.contains user.id then (.error (.query ("duplicate user id " ++ user.id.toString)), s)
  else (.ok (), s.insert user.id user.document)

/-- The account with the identifier. -/
def find (id : Uuid) (s : Store) : Except StoreError (Option User) :=
  match s.get? id with
  | none => .ok none
  | some d => (decode id d).map some

/-- Replaces the details of an account. -/
def update (c : Change) (s : Store) : WriteOutcome User × Store :=
  match s.get? c.id with
  | none => (.notFound, s)
  | some d =>
    let d := Document.change d c
    let outcome :=
      match User.ofDocument d with
      | .ok u => .written u
      | .error f => .undecodable f.reason
    (outcome, s.insert c.id d)

/-- Removes an account. -/
def delete (id : Uuid) (s : Store) : WriteOutcome Unit × Store :=
  if s.contains id then (.written (), s.erase id) else (.notFound, s)

/-! ### Listings -/

/-- Whether a document has every text that the filters ask for. -/
def passes (filters : List (Listing.FilterField × String)) (d : Document) : Bool :=
  filters.all fun (field, value) => Document.text? d field.name == some value

/-- Whether one text comes before another; an absent one comes first. -/
def textBefore : Option String → Option String → Bool
  | none, some _ => true
  | some a, some b => decide (a < b)
  | _, none => false

/-- Whether a document may come before another: by the text of the sort member, in the direction
asked for, and by identifier if the texts are the same. -/
def mayPrecede (field : Listing.SortField) (direction : Listing.Direction)
    (a b : Uuid × Document) : Bool :=
  let textA := Document.text? a.2 field.name
  let textB := Document.text? b.2 field.name
  let (first, second) :=
    match direction with
    | .ascending => (textA, textB)
    | .descending => (textB, textA)
  if textBefore first second then true
  else if textBefore second first then false
  else !decide (b.1 < a.1)

/-- The documents that a selection is about, in its order. -/
def enumerate (s : Store) (sel : Listing.Selection) : List (Uuid × Document) :=
  (s.entries.filter fun e => passes sel.filters e.2).mergeSort
    (mayPrecede sel.sortField sel.direction)

/-- The documents of the slice that is asked for. -/
def slice (s : Store) (sel : Listing.Selection) : List (Uuid × Document) :=
  let rest := (s.enumerate sel).drop sel.skip
  match sel.limit with
  | some n => rest.take n
  | none => rest

/-- The accounts that a query asks for; the first document of the slice that describes no account
fails it. -/
def list (q : Listing.Query) (s : Store) : Except StoreError (List User) :=
  match Listing.Selection.ofQuery q with
  | .error f => .error (.query f.message)
  | .ok sel => (s.slice sel).mapM fun e => decode e.1 e.2

end Store

namespace Repository

/-- Documents in memory. -/
def memory : Repository Store where
  serve
    | .create user, s => Store.create user s
    | .find id, s => (Store.find id s, s)
    | .list q, s => (Store.list q s, s)
    | .update c, s =>
      let (outcome, s) := Store.update c s
      (.ok outcome, s)
    | .delete id, s =>
      let (outcome, s) := Store.delete id s
      (.ok outcome, s)
  ping _ := .ok ()
  close _ := .ok ()

end Repository
end UserDirectory
