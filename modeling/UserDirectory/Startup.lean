import UserDirectory.Bus
import UserDirectory.Bus.Redis
import UserDirectory.Settings
import UserDirectory.Store

/-!
# Startup — what the service starts with, and whether it can be sent requests

* `Startup.store`, `Startup.publisher`: the store and the publisher that settings select.  Without
  a database the documents are kept in memory; without a bus events are reported only.
* `Health`: what the running service says about itself.
* `Health.failures`: why it is not ready, by the name of the check.
* `Health.report`: the text of a readiness report.
-/

namespace UserDirectory

/-! ## Store and publisher -/

namespace Startup

/-- Why the service does not start. -/
inductive StartupError where
  | migrations (e : StoreError)
  | publisher (e : PublishError)
deriving DecidableEq, Repr

/-- The words for an error. -/
def StartupError.message : StartupError → String
  | .migrations e => "database migrations failed: " ++ e.message
  | .publisher e => "event publisher unavailable: " ++ e.message

/-- The store; a database has to be reached to be brought up to date. -/
def store (s : Settings) : Except StartupError (Repository Store) :=
  match s.text .databaseUrl with
  | none => .ok .memory
  | some _ => .error (.migrations (.connection "no server"))

/-- The publisher.  A server is not looked for before there is something to announce, so a usable
URL gives a publisher even if nothing answers there. -/
def publisher (π : Type) (s : Settings) : Except StartupError (Publisher π) :=
  match s.text .redisUrl with
  | none => .ok (.logging π s.eventsChannel)
  | some url =>
    match Redis.connect url with
    | .error e => .error (.publisher e)
    | .ok () => .ok (Redis.publisher π .unreachable s.eventsChannel .silent)

end Startup

/-! ## Health -/

/-- Name and version of the running service. -/
structure Component where
  name : String
  version : String
deriving DecidableEq, Repr

/-- The component that requests are sent to, whether it has started, and whether it is alive. -/
structure Health where
  component : Component
  isReady : Bool
  isAlive : Bool
deriving DecidableEq, Repr

namespace Health

/-- A service that is starting. -/
def starting (c : Component) : Health := ⟨c, false, true⟩

/-- The service has started. -/
def markReady (h : Health) : Health := { h with isReady := true }

/-- The service is going down. -/
def markUnhealthy (h : Health) : Health := { h with isAlive := false }

/-- A failed check, if it failed. -/
def failure (name : String) : Except String Unit → List (String × String)
  | .ok () => []
  | .error reason => [(name, reason)]

/-- The failed checks in ascending order of their names, given whether publisher and store
answer. -/
def failures (h : Health) (bus : Except PublishError Unit) (store : Except StoreError Unit) :
    List (String × String) :=
  failure "publisher" (bus.mapError PublishError.message)
    ++ failure "startup" (if h.isReady then .ok () else .error "service is starting")
    ++ failure "store" (store.mapError StoreError.message)

/-- The report on readiness. -/
def report (h : Health) (failures : List (String × String)) : Json :=
  .object [("status", .string (if failures.isEmpty then "OK" else "Unavailable")),
    ("component",
      .object [("name", .string h.component.name), ("version", .string h.component.version)]),
    ("failures", .object (failures.map fun f => (f.1, .string f.2)))]

end Health

end UserDirectory
