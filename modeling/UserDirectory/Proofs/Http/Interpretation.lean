import UserDirectory.Http.App

/-!
# Proofs.Http.Interpretation — what requests over HTTP ask for

* `Interprets r a`: the request `r` can ask for `a`: its method, and the place if it is a probe.
* `interprets`: what a request is taken to ask for is always something that it can ask for.
* `IsProbe`: the requests for a probe.
-/

namespace UserDirectory.Http

/-- What a request can ask for. -/
inductive Interprets (r : Request) : Action → Prop
  | nothing : Interprets r .nothing
  | refuse (reason : String) : Interprets r (.refuse reason)
  | create {details} : r.method = "POST" → Interprets r (.users (.create details))
  | list {params} : r.method = "GET" → Interprets r (.users (.list params))
  | get {id} : r.method = "GET" → Interprets r (.users (.get id))
  | update {id details} : r.method = "PUT" → Interprets r (.users (.update id details))
  | delete {id} : r.method = "DELETE" → Interprets r (.users (.delete id))
  | ready : Route.ofPath? r.target.path = some .ready → Interprets r .ready
  | live : Route.ofPath? r.target.path = some .live → Interprets r .live

variable (bodies : Bodies) {r : Request}

theorem interprets_withId {segment : List Char} {f : Uuid → Service.Request}
    (h : ∀ id, Interprets r (.users (f id))) : Interprets r (withId segment f) := by
  unfold withId
  split
  · next id _ => exact h id
  · exact .refuse _

theorem interprets_withDetails {f : Details → Action} (h : ∀ d, Interprets r (f d)) :
    Interprets r (withDetails bodies r f) := by
  unfold withDetails
  split
  · next d _ => exact h d
  · exact .refuse _

theorem interprets_listing (hmethod : r.method = "GET") : Interprets r (listing r) := by
  unfold listing
  split
  · exact .list hmethod
  · exact .refuse _

theorem interprets_replace (hmethod : r.method = "PUT") (segment : List Char) (d : Details) :
    Interprets r (replace segment d) := by
  unfold replace
  split
  · exact .refuse _
  · exact interprets_withId fun _ => .update hmethod

/-- **Every request asks for something that it can ask for.** -/
theorem interprets (r : Request) : Interprets r (interpret bodies r) := by
  unfold interpret
  split
  · next hmethod => exact interprets_withDetails bodies fun _ => .create hmethod
  · next hmethod => exact interprets_listing hmethod
  · next hmethod => exact interprets_withId fun _ => .get hmethod
  · next hmethod => exact interprets_withDetails bodies (interprets_replace hmethod _)
  · next hmethod => exact interprets_withId fun _ => .delete hmethod
  · next hplace _ => exact .ready hplace
  · next hplace _ => exact .live hplace
  · exact .nothing

/-- The request is for a probe. -/
def Request.IsProbe (r : Request) : Prop :=
  Route.ofPath? r.target.path = some .ready ∨ Route.ofPath? r.target.path = some .live

/-- A probe is asked for at its place only. -/
theorem Interprets.isProbe {a : Action} (h : Interprets r a) (ha : a = .ready ∨ a = .live) :
    r.IsProbe := by
  rcases ha with rfl | rfl
  · cases h with
    | ready hplace => exact .inl hplace
  · cases h with
    | live hplace => exact .inr hplace

end UserDirectory.Http
