import UserDirectory.Uuid

/-!
# DomainError — how a request can fail, in the words that its sender reads

* `Traced α`: a computation that sees the scopes around it, the innermost first.
* `Trace.current`, `Trace.within`: the identifier of the innermost scope, and a scope of its own
  around a computation.
* `DomainError`: a failure, with the identifier of the request it arose in.
-/

namespace UserDirectory

/-! ## Scopes -/

/-- A computation inside scopes, each with an identifier. -/
abbrev Traced (α : Type) := StateM (List Uuid) α

namespace Trace

/-- The header that carries an identifier. -/
def header : String := "trace-id"

/-- The identifier of the innermost scope. -/
def current : Traced (Option Uuid) := do return (← get).head?

/-- Runs a computation in a scope of its own. -/
def within {α : Type} (id : Uuid) (act : Traced α) : Traced α := do
  modify (id :: ·)
  let a ← act
  modify List.tail
  return a

end Trace

/-! ## Failures -/

/-- The kind of a failure. -/
inductive ErrorCode where
  | invalidRequest
  | notFound
  | internal
deriving DecidableEq, Repr

/-- A failure, with the identifier of the request it arose in. -/
structure DomainError where
  code : ErrorCode
  message : String
  trace : Option String
deriving DecidableEq, Repr

namespace DomainError

/-- A failure that arose where `trace` was the current identifier. -/
def make (trace : Option Uuid) (code : ErrorCode) (message : String) : DomainError :=
  ⟨code, message, trace.map Uuid.toString⟩

/-- A failure that arises here. -/
def raise (code : ErrorCode) (message : String) : Traced DomainError := do
  return make (← Trace.current) code message

/-- A failure inside the server that its clients are told nothing about. -/
def raiseHidden : Traced DomainError := raise .internal "Internal server error"

/-- The failure with another identifier attached. -/
def withTrace (e : DomainError) (trace : String) : DomainError := { e with trace := some trace }

end DomainError

end UserDirectory
