import UserDirectory.Http.Body
import UserDirectory.Http.Route
import UserDirectory.Listing.Query
import UserDirectory.Service
import UserDirectory.Startup

/-!
# Http.App — the service behind HTTP

* `interpret`: what a request asks for: something of the service, a probe, or nothing; or why it
  is refused before it gets there.
* `respond`: the response to what the service answers.
* `App.handle`: a request from end to end, with a trace identifier of its own.
-/

namespace UserDirectory.Http

/-! ## From request to action -/

/-- What a request asks for, or why it is refused. -/
inductive Action where
  | nothing
  | refuse (reason : String)
  | users (r : Service.Request)
  | ready
  | live
deriving DecidableEq, Repr

/-- An action on the account that a segment names. -/
def withId (segment : List Char) (f : Uuid → Service.Request) : Action :=
  match Uuid.read (Url.unescapeText segment) with
  | .ok id => .users (f id)
  | .error e => .refuse ("incorrect user ID format: " ++ e.message)

/-- An action with the details in the body. -/
def withDetails (bodies : Bodies) (r : Request) (f : Details → Action) : Action :=
  match bodies.readDetails r with
  | .ok d => f d
  | .error e => .refuse e.message

/-- A replacement; details that break a rule come before an identifier that is none. -/
def replace (segment : List Char) (d : Details) : Action :=
  match d.fault? with
  | some f => .refuse f.message
  | none => withId segment (.update · d)

/-- A listing. -/
def listing (r : Request) : Action :=
  match Listing.Params.ofForm r.target.query with
  | .ok p => .users (.list p)
  | .error m => .refuse ("Query deserialize error: " ++ m.message)

/-- What a request asks for. -/
def interpret (bodies : Bodies) (r : Request) : Action :=
  match Route.ofPath? r.target.path, r.method with
  | some .users, "POST" => withDetails bodies r fun d => .users (.create d)
  | some .users, "GET" => listing r
  | some (.user segment), "GET" => withId segment .get
  | some (.user segment), "PUT" => withDetails bodies r (replace segment)
  | some (.user segment), "DELETE" => withId segment .delete
  | some .ready, "GET" => .ready
  | some .live, "GET" => .live
  | _, _ => .nothing

/-! ## From answer to response -/

/-- The response to a request that the service answered. -/
def respond (r : Service.Request) (answer : Except DomainError Service.Answer) : Response :=
  match answer with
  | .error e => .ofError e
  | .ok (.user u) => .json (match r with | .create _ => 201 | _ => 200) u.toJson
  | .ok (.users us) => .json 200 (.array (us.map User.toJson))
  | .ok .done => .bare 204

/-- Keeps a probe's response out of caches. -/
def uncached (r : Response) : Response := { r with cacheControl := some "no-store" }

/-- The status of a probe. -/
def probeStatus (ok : Bool) : Nat := if ok then 200 else 503

/-! ## The application -/

/-- What the application works with. -/
structure App (σ π : Type) where
  repository : Repository σ
  publisher : Publisher π
  health : Health

/-- What a request leaves behind, and the call on the store that it made, if any. -/
structure Handled (σ π : Type) where
  call : Option StoreCall
  response : Response
  logs : List LogEntry
  store : σ
  bus : π

/-- The report of a request that has been answered. -/
def requestReport (r : Request) (status : Nat) : LogEntry where
  level := .info
  message := "request completed"
  fields := [("method", r.method), ("path", String.ofList r.target.path), ("status", status.repr)]

/-- The response to an action, before the trace identifier is put on it. -/
def App.act {σ π : Type} (app : App σ π) (c : Service.Context) (a : Action) (s : σ) (p : π) :
    Handled σ π :=
  match a with
  | .nothing => ⟨none, .nothing, [], s, p⟩
  | .refuse reason => ⟨none, .ofError (c.invalid reason), [], s, p⟩
  | .users r =>
    let run := Service.run app.repository app.publisher c r s p
    ⟨run.call, respond r run.answer, run.logs, run.store, run.bus⟩
  | .ready =>
    let failures := app.health.failures (app.publisher.ping p) (app.repository.ping s)
    let status := probeStatus failures.isEmpty
    ⟨none, uncached (.json status (app.health.report failures)), [], s, p⟩
  | .live => ⟨none, uncached (.bare (probeStatus app.health.isAlive)), [], s, p⟩

/-- Handles a request in a scope with the trace identifier, which the response tells. -/
def App.handle {σ π : Type} (app : App σ π) (bodies : Bodies) (trace : Uuid) (now : Instant)
    (freshId : Uuid) (r : Request) (s : σ) (p : π) : Handled σ π :=
  let handled := app.act ⟨some trace, now, freshId⟩ (interpret bodies r) s p
  let response := { handled.response with trace := some trace.toString }
  { handled with
    response := response
    logs := handled.logs ++ [requestReport r response.status] }

end UserDirectory.Http
