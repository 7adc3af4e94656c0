import UserDirectory.Http.App

/-!
# Http.Metrics — counting requests

* `Metrics`: how often requests of each kind have been answered.
* `Metrics.lines`: the lines that a scrape of the metrics shows, apart from timings.
* `App.handleCounted`: a request to an application that is counted and can be scraped.
-/

namespace UserDirectory.Http

/-- The place, the method and the status of a request. -/
structure RequestKind where
  endpoint : String
  method : String
  status : Nat
deriving DecidableEq, Repr

/-- How often requests of each kind have been answered. -/
abbrev Metrics := List (RequestKind × Nat)

namespace Metrics

/-- Counts one more request. -/
def count (m : Metrics) (kind : RequestKind) : Metrics :=
  if m.any (·.1 == kind) then m.map fun e => if e.1 = kind then (e.1, e.2 + 1) else e
  else m ++ [(kind, 1)]

/-- The kind of a request: its place is the pattern of its route, or its path if it has none. -/
def kindOf (bodies : Bodies) (r : Request) (status : Nat) : RequestKind where
  endpoint :=
    match Route.ofPath? r.target.path, interpret bodies r with
    | _, .nothing => String.ofList r.target.path
    | some route, _ => String.ofList route.pattern
    | none, _ => String.ofList r.target.path
  method := r.method
  status := status

/-- A text as the value of a label. -/
def quoted (s : String) : String :=
  let escape (c : Char) : List Char :=
    if c == '\\' || c == '"' then ['\\', c] else if c == '\n' then ['\\', 'n'] else [c]
  String.ofList ('"' :: (s.toList.flatMap escape ++ ['"']))

/-- A line that tells a count. -/
def line (name : String) (e : RequestKind × Nat) : String :=
  name ++ "\x7b" ++ "endpoint=" ++ quoted e.1.endpoint ++ ",method=" ++ quoted e.1.method
    ++ ",status=" ++ quoted e.1.status.repr ++ "\x7d " ++ e.2.repr

/-- The name of the counter. -/
def total : String := "user_service_http_requests_total"

/-- The name of the histogram of durations. -/
def durations : String := "user_service_http_requests_duration_seconds"

/-- The lines of a scrape in ascending order; there are none before the first request. -/
def lines (m : Metrics) : List String :=
  let types :=
    if m.isEmpty then []
    else ["# TYPE " ++ durations ++ " histogram", "# TYPE " ++ total ++ " counter"]
  let counts := m.flatMap fun e => [line (durations ++ "_count") e, line total e]
  (types ++ counts).mergeSort fun a b => decide (a ≤ b)

/-- The path of the scrapes. -/
def path : List Char := ['/', 'm', 'e', 't', 'r', 'i', 'c', 's']

/-- Whether a request is a scrape. -/
def isScrape (r : Request) : Bool := r.method == "GET" && r.target.path == path

/-- The response to a scrape, in the place of another. -/
def scrape (m : Metrics) (r : Response) : Response :=
  { r with
    status := 200
    contentType := some "text/plain; version=0.0.4; charset=utf-8"
    body := String.intercalate "\n" m.lines }

end Metrics

/-- Handles a request to an application whose requests are counted, once they are answered. -/
def App.handleCounted {σ π : Type} (app : App σ π) (bodies : Bodies) (trace : Uuid)
    (now : Instant) (freshId : Uuid) (r : Request) (s : σ) (p : π) (m : Metrics) :
    Handled σ π × Metrics :=
  let handled := app.handle bodies trace now freshId r s p
  let response :=
    if Metrics.isScrape r then m.scrape handled.response else handled.response
  ({ handled with response := response }, m.count (Metrics.kindOf bodies r response.status))

end UserDirectory.Http
