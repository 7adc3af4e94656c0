import UserDirectory.User

/-!
# Bus — what is announced after a change, and where

* `LogEntry`: what a component reports beside its answer.
* `Event.payload`: the text that goes over the bus: the action, and the account as it is after the
  change, or its identifier alone if it is gone.
* `Publisher π`: a publisher with states of type `π`, whatever it is.
* `Publisher.recording`, `silent`, `failing`, `logging`: publishers that need no network.
-/

namespace UserDirectory

/-! ## Reports -/

/-- How grave a report is. -/
inductive LogLevel where
  | info
  | warn
  | error
deriving DecidableEq, Repr

/-- The level's name. -/
def LogLevel.name : LogLevel → String
  | .info => "INFO"
  | .warn => "WARN"
  | .error => "ERROR"

/-- A report: a fixed message, and fields that tell the case. -/
structure LogEntry where
  level : LogLevel
  message : String
  fields : List (String × String)
deriving DecidableEq, Repr

/-! ## Events -/

/-- A change of an account. -/
inductive Event where
  | created (user : User)
  | updated (user : User)
  | deleted (id : Uuid)
deriving DecidableEq, Repr

namespace Event

/-- The name of the change. -/
def action : Event → String
  | .created _ => "created"
  | .updated _ => "updated"
  | .deleted _ => "deleted"

/-- The account that changed. -/
def userId : Event → Uuid
  | .created u => u.id
  | .updated u => u.id
  | .deleted id => id

/-- What is told about the account. -/
def userData : Event → Json
  | .created u => u.toJson
  | .updated u => u.toJson
  | .deleted id => .object [("id", .string id.toString)]

/-- An event as a value. -/
def toJson (e : Event) : Json :=
  .object [("action", .string e.action), ("user_data", e.userData)]

/-- The text of an event. -/
def payload (e : Event) : String := e.toJson.text

end Event

/-! ## Publishers -/

/-- Why an event cannot be announced. -/
inductive PublishError where
  | connection (message : String)
  | serialization (message : String)
  | delivery (message : String)
  | timeout
deriving DecidableEq, Repr

/-- The words for an error. -/
def PublishError.message : PublishError → String
  | .connection m => "event bus connection failed: " ++ m
  | .serialization m => "event serialization failed: " ++ m
  | .delivery m => "event delivery failed: " ++ m
  | .timeout => "event publish timed out"

/-- How an announcement went, and what was reported on the way. -/
structure Delivery (π : Type) where
  result : Except PublishError Unit
  logs : List LogEntry
  state : π

/-- A publisher: how it announces an event, tells whether it can be reached, and is shut down. -/
structure Publisher (π : Type) where
  publish : Event → π → Delivery π
  ping : π → Except PublishError Unit
  close : π → Except PublishError Unit

namespace Publisher

/-- Keeps every event, the latest last. -/
def recording : Publisher (List Event) where
  publish e sent := ⟨.ok (), [], sent ++ [e]⟩
  ping _ := .ok ()
  close _ := .ok ()

/-- Accepts every event and drops it. -/
def silent (π : Type) : Publisher π where
  publish _ s := ⟨.ok (), [], s⟩
  ping _ := .ok ()
  close _ := .ok ()

/-- Answers every call with the error. -/
def broken (π : Type) (e : PublishError) : Publisher π where
  publish _ s := ⟨.error e, [], s⟩
  ping _ := .error e
  close _ := .error e

/-- Neither delivers nor answers, but can be shut down. -/
def failing (π : Type) : Publisher π where
  publish _ s := ⟨.error (.delivery "bus unavailable"), [], s⟩
  ping _ := .error (.connection "bus unavailable")
  close _ := .ok ()

/-- The report that stands for an announcement. -/
def logEntry (channel : String) (e : Event) : LogEntry where
  level := .info
  message := "user event"
  fields := [("channel", channel), ("action", e.action), ("user_id", e.userId.toString),
    ("payload", e.payload)]

/-- Reports every event as one of a channel. -/
def logging (π : Type) (channel : String) : Publisher π where
  publish e s := ⟨.ok (), [logEntry channel e], s⟩
  ping _ := .ok ()
  close _ := .ok ()

end Publisher

end UserDirectory
