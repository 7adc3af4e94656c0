import UserDirectory.Store

/-!
# Store.Faults — stores that fail

* `Repository.offline`: a database that cannot be reached, with its two deadlines.
* `Repository.withFaults`: a store in which some operations can be made to fail.
-/

namespace UserDirectory

/-- What can be asked of a store, by name. -/
inductive Operation where
  | create
  | find
  | list
  | update
  | delete
  | ping
  | close
deriving DecidableEq, Repr

/-- The operation's name. -/
def Operation.name : Operation → String
  | .create => "create"
  | .find => "find"
  | .list => "list"
  | .update => "update"
  | .delete => "delete"
  | .ping => "ping"
  | .close => "close"

/-- All operations. -/
def Operation.all : List Operation := [.create, .find, .list, .update, .delete, .ping, .close]

/-- The operation of a call. -/
def StoreCall.operation : StoreCall → Operation
  | .create _ => .create
  | .find _ => .find
  | .list _ => .list
  | .update _ => .update
  | .delete _ => .delete

/-! ## A database out of reach -/

/-- Why a pool of connections gives none. -/
inductive PoolError where
  | checkout (message : String)
  | build (message : String)
deriving DecidableEq, Repr

/-- The words for an error. -/
def PoolError.message : PoolError → String
  | .checkout m => "failed to get connection from pool: " ++ m
  | .build m => "failed to build connection pool: " ++ m

/-- How long a call may take, and how long it may wait for a connection, in milliseconds. -/
structure Deadlines where
  operation : Nat
  checkout : Nat
deriving DecidableEq, Repr

/-- The error of a call without a database: the deadline that is over first decides. -/
def Deadlines.error (d : Deadlines) (op : Operation) : StoreError :=
  if d.operation < d.checkout then .timeout op.name else .connection "Timed out in bb8"

/-- A database that cannot be reached; a listing is checked before it is tried. -/
def Repository.offline (σ : Type) (d : Deadlines) : Repository σ where
  serve c s :=
    match c with
    | .list q =>
      match Listing.Selection.ofQuery q with
      | .error f => (.error (.query f.message), s)
      | .ok _ => (.error (d.error .list), s)
    | c => (.error (d.error c.operation), s)
  ping _ := .error (d.error .ping)
  close _ := .ok ()

/-! ## Faults on demand -/

/-- How an operation fails: with an error before it starts, or, for a write, by leaving a document
that is said to describe no account. -/
inductive StoreFault where
  | error (e : StoreError)
  | undecodable (reason : String)
deriving DecidableEq, Repr

/-- Which operations fail, and how. -/
structure FaultSwitch where
  operations : List Operation
  fault : StoreFault
deriving DecidableEq, Repr

/-- The error that an operation fails with. -/
def FaultSwitch.error? (f : Option FaultSwitch) (op : Operation) : Option StoreError :=
  match f with
  | some ⟨ops, .error e⟩ => if ops.contains op then some e else none
  | _ => none

/-- The reason that a write is given for being undecodable. -/
def FaultSwitch.undecodable? (f : Option FaultSwitch) (op : Operation) : Option String :=
  match f with
  | some ⟨ops, .undecodable reason⟩ => if ops.contains op then some reason else none
  | _ => none

/-- The outcome of a write, made undecodable if there is a reason. -/
def WriteOutcome.spoil {α : Type} (reason : Option String) : WriteOutcome α → WriteOutcome α
  | .written value =>
    match reason with
    | some r => .undecodable r
    | none => .written value
  | outcome => outcome

/-- The reply to a call, a write made undecodable if there is a reason. -/
def StoreCall.spoil (reason : Option String) : (c : StoreCall) → c.Reply → c.Reply
  | .update _, reply => reply.map (WriteOutcome.spoil reason)
  | .delete _, reply => reply.map (WriteOutcome.spoil reason)
  | _, reply => reply

/-- A store behind a switch. -/
def Repository.withFaults {σ : Type} (r : Repository σ) :
    Repository (σ × Option FaultSwitch) where
  serve c s :=
    match FaultSwitch.error? s.2 c.operation with
    | some e => (.error e, s)
    | none =>
      let (reply, t) := r.serve c s.1
      (c.spoil (FaultSwitch.undecodable? s.2 c.operation) reply, (t, s.2))
  ping s :=
    match FaultSwitch.error? s.2 .ping with
    | some e => .error e
    | none => r.ping s.1
  close s :=
    match FaultSwitch.error? s.2 .close with
    | some e => .error e
    | none => r.close s.1

end UserDirectory
