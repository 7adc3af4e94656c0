import UserDirectory.Bus
import UserDirectory.DomainError
import UserDirectory.Store

/-!
# Service — the five requests on accounts

A request takes three steps.

* `Service.plan`: checks the request and turns it into one call on the store, or refuses it.
* `Service.settle`: turns the store's reply into an outcome: an answer, at most one event, and
  reports.
* `Service.announce`: announces the event.  Whether that works changes nothing but the reports.

`Service.run` takes them one after the other.
-/

namespace UserDirectory.Service

/-- What is asked of the service. -/
inductive Request where
  | create (details : Details)
  | update (id : Uuid) (details : Details)
  | delete (id : Uuid)
  | get (id : Uuid)
  | list (params : Listing.Params)
deriving DecidableEq, Repr

/-- What a request is answered with. -/
inductive Answer where
  | user (u : User)
  | users (us : List User)
  | done
deriving DecidableEq, Repr

/-- What a request finds when it comes in: the current trace identifier, the time, and an
identifier for a new account. -/
structure Context where
  trace : Option Uuid
  now : Instant
  freshId : Uuid
deriving DecidableEq, Repr

/-- What becomes of a request before anything is announced. -/
structure Outcome where
  answer : Except DomainError Answer
  event : Option Event
  logs : List LogEntry

/-! ## From request to call -/

/-- A refusal. -/
def Context.invalid (c : Context) (message : String) : DomainError :=
  .make c.trace .invalidRequest message

/-- The call that a request makes, if it is valid. -/
def plan (c : Context) : Request → Except DomainError StoreCall
  | .create details =>
    match User.make c.freshId details c.now c.now with
    | .ok user => .ok (.create user)
    | .error f => .error (c.invalid f.message)
  | .update id details =>
    match details.check with
    | .ok () => .ok (.update ⟨id, details, c.now.truncate⟩)
    | .error f => .error (c.invalid f.message)
  | .delete id => .ok (.delete id)
  | .get id => .ok (.find id)
  | .list params =>
    match Listing.Query.ofParams params with
    | .ok query => .ok (.list query)
    | .error f => .error (c.invalid f.message)

/-! ## From reply to outcome -/

/-- An answer without an event. -/
def Outcome.quiet (answer : Except DomainError Answer) : Outcome := ⟨answer, none, []⟩

/-- The answer to a request for an account that is not there. -/
def Context.notFound (c : Context) : Outcome :=
  .quiet (.error (.make c.trace .notFound "user not found"))

/-- The answer to a request that the store could not serve, with a report that says why. -/
def Context.failed (c : Context) (message report : String) (id : Option Uuid) (e : StoreError) :
    Outcome where
  answer := .error (.make c.trace .internal message)
  event := none
  logs :=
    let about := (id.map fun id => ("user_id", id.toString)).toList
    [⟨.error, report, about ++ [("error", e.message)]⟩]

/-- The report of a write whose document describes no account. -/
def undecodableReport (id : Uuid) (reason : String) : LogEntry where
  level := .warn
  message := "user updated but stored document could not be decoded; skipping event"
  fields := [("user_id", id.toString), ("reason", reason)]

/-- The outcome of a request whose call was replied to. -/
def settle (c : Context) : (call : StoreCall) → call.Reply → Outcome
  | .create user, .ok _ => ⟨.ok (.user user), some (.created user), []⟩
  | .create user, .error e => c.failed "user not created" "failed to create user" user.id e
  | .find _, .ok (some user) => .quiet (.ok (.user user))
  | .find _, .ok none => c.notFound
  | .find id, .error e => c.failed "user not retrieved" "failed to fetch user" id e
  | .list _, .ok users => .quiet (.ok (.users users))
  | .list _, .error e => c.failed "users not retrieved" "failed to list users" none e
  | .update _, .ok (.written user) => ⟨.ok .done, some (.updated user), []⟩
  | .update _, .ok .notFound => c.notFound
  | .update change, .ok (.undecodable reason) =>
    ⟨.ok .done, none, [undecodableReport change.id reason]⟩
  | .update change, .error e =>
    c.failed "user not updated" "failed to update user" change.id e
  | .delete id, .ok (.written _) => ⟨.ok .done, some (.deleted id), []⟩
  | .delete id, .ok (.undecodable _) => ⟨.ok .done, some (.deleted id), []⟩
  | .delete _, .ok .notFound => c.notFound
  | .delete id, .error e => c.failed "user not deleted" "failed to delete user" id e

/-! ## Announcement -/

/-- The report of an event that could not be announced. -/
def publishReport (event : Event) (e : PublishError) : LogEntry where
  level := .error
  message := "failed to publish user event"
  fields := [("user_id", event.userId.toString), ("action", event.action), ("error", e.message)]

/-- Announces an event, if there is one; gives the reports and the publisher's state. -/
def announce {π : Type} (bus : Publisher π) (event : Option Event) (p : π) :
    List LogEntry × π :=
  match event with
  | none => ([], p)
  | some event =>
    let delivery := bus.publish event p
    match delivery.result with
    | .ok () => (delivery.logs, delivery.state)
    | .error e => (delivery.logs ++ [publishReport event e], delivery.state)

/-! ## Whole requests -/

/-- What a request leaves behind, and the call that it made, if it was valid. -/
structure Run (σ π : Type) where
  call : Option StoreCall
  answer : Except DomainError Answer
  logs : List LogEntry
  store : σ
  bus : π

/-- Serves a request. -/
def run {σ π : Type} (repo : Repository σ) (bus : Publisher π) (c : Context) (r : Request)
    (s : σ) (p : π) : Run σ π :=
  match plan c r with
  | .error e => ⟨none, .error e, [], s, p⟩
  | .ok call =>
    let (reply, s) := repo.serve call s
    let outcome := settle c call reply
    let (logs, p) := announce bus outcome.event p
    ⟨call, outcome.answer, outcome.logs ++ logs, s, p⟩

end UserDirectory.Service
