import UserDirectory.Proofs.Http.Interpretation
import UserDirectory.Proofs.Service.Masking

/-!
# Proofs.Http.Secrecy — what responses keep to themselves

* `Arrival`: a request over HTTP with what it finds when it comes in.
* `App.visit`: its handling where store and publisher live in one world, so that each may answer
  according to everything that ever happened to the other.
* `App.journalled`: the application with everything written down that passes between the service
  and the two; `App.history`: what is written down.
* `response_eq`: the same is told, the same is responded, for one request.
* `responses_keep_secrets`: so it is for every list of requests.
-/

namespace UserDirectory.Http

open Service (Context)

/-- A request that comes in: its trace identifier, the time, and an identifier for a new account. -/
structure Arrival where
  trace : Uuid
  now : Instant
  freshId : Uuid
  request : Request

/-- What the request finds. -/
def Arrival.context (a : Arrival) : Context := ⟨some a.trace, a.now, a.freshId⟩

/-! ## Handling in one world -/

namespace App

variable {ω : Type} (app : App ω ω) (bodies : Bodies)

/-- Handles a request in a world where the publisher finds it as the store is left; the state of the
bus is the world afterwards. -/
def visit (a : Arrival) (w : ω) : Handled ω ω :=
  app.handle bodies a.trace a.now a.freshId a.request w
    (app.handle bodies a.trace a.now a.freshId a.request w w).store

/-- What each of the requests leaves behind. -/
def visits : List Arrival → ω → List (Handled ω ω)
  | [], _ => []
  | a :: rest, w => app.visit bodies a w :: visits rest (app.visit bodies a w).bus

/-- The world after the requests. -/
def worldAfter : List Arrival → ω → ω
  | [], w => w
  | a :: rest, w => worldAfter rest (app.visit bodies a w).bus

/-- The application with everything written down that passes between the service and its store and
publisher. -/
def journalled : App (ω × List Exchange) (ω × List Exchange) :=
  ⟨app.repository.journalled, app.publisher.journalled, app.health⟩

/-- What passes between the service and its store and publisher in one request. -/
def exchanges (a : Arrival) (w : ω) : List Exchange :=
  match interpret bodies a.request with
  | .users r => Service.exchanges app.repository app.publisher a.context r w
  | _ => []

/-- What passes between them in all requests. -/
def history : List Arrival → ω → List Exchange
  | [], _ => []
  | a :: rest, w => app.exchanges bodies a w ++ history rest (app.visit bodies a w).bus

/-! ## Journals -/

/-- A request that asks something of the service is served there, in the same world. -/
theorem visit_of_users {a : Arrival} {r : Service.Request}
    (h : interpret bodies a.request = .users r) (w : ω) :
    (app.visit bodies a w).bus = (Service.shared app.repository app.publisher a.context r w).bus ∧
      (app.visit bodies a w).response =
        { respond r (Service.shared app.repository app.publisher a.context r w).answer with
          trace := some a.trace.toString } := by
  unfold visit handle
  rw [h]
  exact ⟨rfl, rfl⟩

/-- Every other request leaves the world alone. -/
theorem visit_of_not_users {a : Arrival} (h : ∀ r, interpret bodies a.request ≠ .users r) (w : ω) :
    (app.visit bodies a w).bus = w := by
  unfold visit handle
  cases hact : interpret bodies a.request with
  | users r => exact absurd hact (h r)
  | nothing | refuse _ | ready | live => rfl

theorem exchanges_of_not_users {a : Arrival} (h : ∀ r, interpret bodies a.request ≠ .users r)
    (w : ω) : app.exchanges bodies a w = [] := by
  unfold exchanges
  cases hact : interpret bodies a.request with
  | users r => exact absurd hact (h r)
  | nothing | refuse _ | ready | live => rfl

theorem exchanges_of_users {a : Arrival} {r : Service.Request}
    (h : interpret bodies a.request = .users r) (w : ω) :
    app.exchanges bodies a w = Service.exchanges app.repository app.publisher a.context r w := by
  unfold exchanges
  rw [h]

theorem visit_journalled (a : Arrival) (w : ω) (journal : List Exchange) :
    (app.journalled.visit bodies a (w, journal)).bus =
      ((app.visit bodies a w).bus, journal ++ app.exchanges bodies a w) := by
  by_cases hact : ∃ r, interpret bodies a.request = .users r
  · obtain ⟨r, hr⟩ := hact
    rw [(app.journalled.visit_of_users bodies hr _).1, (app.visit_of_users bodies hr w).1,
      app.exchanges_of_users bodies hr w]
    exact Service.shared_journalled app.repository app.publisher a.context r w journal
  · have hnot : ∀ r, interpret bodies a.request ≠ .users r := fun r hr => hact ⟨r, hr⟩
    rw [app.journalled.visit_of_not_users bodies hnot, app.visit_of_not_users bodies hnot,
      app.exchanges_of_not_users bodies hnot, List.append_nil]

/-- **The journal of all requests** is what was written before and their history, and keeping it
does not change the world. -/
theorem worldAfter_journalled (arrivals : List Arrival) (w : ω) (journal : List Exchange) :
    app.journalled.worldAfter bodies arrivals (w, journal) =
      (app.worldAfter bodies arrivals w, journal ++ app.history bodies arrivals w) := by
  induction arrivals generalizing w journal with
  | nil => rw [history, List.append_nil, worldAfter, worldAfter]
  | cons a rest ih =>
    rw [worldAfter, visit_journalled, ih, history, worldAfter, List.append_assoc]

end App

/-! ## Two worlds -/

section Worlds

variable {ω₁ ω₂ : Type} (app₁ : App ω₁ ω₁) (app₂ : App ω₂ ω₂) (bodies : Bodies)

theorem length_told (a : Arrival) (w₁ : ω₁) (w₂ : ω₂) :
    ((app₁.exchanges bodies a w₁).filterMap Exchange.told?).length =
      ((app₂.exchanges bodies a w₂).filterMap Exchange.told?).length := by
  by_cases hact : ∃ r, interpret bodies a.request = .users r
  · obtain ⟨r, hr⟩ := hact
    rw [app₁.exchanges_of_users bodies hr, app₂.exchanges_of_users bodies hr]
    exact Service.length_told _ _ _ _ a.context r w₁ w₂
  · have hnot : ∀ r, interpret bodies a.request ≠ .users r := fun r hr => hact ⟨r, hr⟩
    rw [app₁.exchanges_of_not_users bodies hnot, app₂.exchanges_of_not_users bodies hnot]

/-- **One request**: if the same is told in both worlds, the response is the same. -/
theorem response_eq {a : Arrival} (hprobe : ¬ a.request.IsProbe) {w₁ : ω₁} {w₂ : ω₂}
    (h : (app₁.exchanges bodies a w₁).filterMap Exchange.told? =
      (app₂.exchanges bodies a w₂).filterMap Exchange.told?) :
    (app₁.visit bodies a w₁).response = (app₂.visit bodies a w₂).response := by
  cases hact : interpret bodies a.request with
  | users r =>
    rw [app₁.exchanges_of_users bodies hact, app₂.exchanges_of_users bodies hact] at h
    rw [(app₁.visit_of_users bodies hact w₁).2, (app₂.visit_of_users bodies hact w₂).2,
      Service.shared_answer_eq _ _ _ _ a.context r w₁ w₂ h]
  | nothing | refuse _ =>
    unfold App.visit App.handle
    rw [hact]
    rfl
  | ready => exact absurd ((interprets bodies a.request).isProbe (.inl hact)) hprobe
  | live => exact absurd ((interprets bodies a.request).isProbe (.inr hact)) hprobe

theorem visits_responses {arrivals : List Arrival} (hprobes : ∀ a ∈ arrivals, ¬ a.request.IsProbe)
    {w₁ : ω₁} {w₂ : ω₂}
    (h : (app₁.history bodies arrivals w₁).filterMap Exchange.told? =
      (app₂.history bodies arrivals w₂).filterMap Exchange.told?) :
    (app₁.visits bodies arrivals w₁).map Handled.response =
      (app₂.visits bodies arrivals w₂).map Handled.response := by
  induction arrivals generalizing w₁ w₂ with
  | nil => rfl
  | cons a rest ih =>
    rw [App.history, App.history, List.filterMap_append, List.filterMap_append] at h
    -- Each request tells as often in one world as in the other, so the parts match one by one.
    obtain ⟨hfirst, hrest⟩ := List.append_inj h (length_told app₁ app₂ bodies a w₁ w₂)
    rw [App.visits, App.visits, List.map_cons, List.map_cons,
      response_eq app₁ app₂ bodies (hprobes a List.mem_cons_self) hfirst,
      ih (fun b hb => hprobes b (List.mem_cons_of_mem a hb)) hrest]

end Worlds

/-- **Responses keep secrets**: take any two worlds and any requests but those for probes.  If the
stores reply alike, apart from the kind and the words of their errors and the reasons why a
document describes no account, then the responses are the same, whatever the publishers do. -/
theorem responses_keep_secrets {ω₁ ω₂ : Type} (app₁ : App ω₁ ω₁) (app₂ : App ω₂ ω₂)
    (bodies : Bodies) (arrivals : List Arrival)
    (hprobes : ∀ a ∈ arrivals, ¬ a.request.IsProbe) (w₁ : ω₁) (w₂ : ω₂)
    (h : (app₁.journalled.worldAfter bodies arrivals (w₁, [])).2.filterMap Exchange.told? =
      (app₂.journalled.worldAfter bodies arrivals (w₂, [])).2.filterMap Exchange.told?) :
    (app₁.visits bodies arrivals w₁).map Handled.response =
      (app₂.visits bodies arrivals w₂).map Handled.response := by
  rw [app₁.worldAfter_journalled, app₂.worldAfter_journalled, List.nil_append,
    List.nil_append] at h
  exact visits_responses app₁ app₂ bodies hprobes h

/-- A store that shows a password in its errors, and one that runs out of time beside a publisher
that takes no event. -/
theorem responses_keep_secrets_password :
    let replying (e : StoreError) (reason : String) : Repository Unit :=
      { serve := fun call w => match call with
          | .create _ | .find _ | .list _ => (.error e, w)
          | .update _ => (.ok (.undecodable reason), w)
          | .delete _ => (.ok (.written ()), w)
        ping := fun _ => .error e
        close := fun _ => .ok () }
    let health : Health := .starting ⟨"users", "1"⟩
    let open₁ : StoreError := .connection "postgres://admin:secret@db"
    let app₁ : App Unit Unit := ⟨replying open₁ "invalid type: null", .silent Unit, health⟩
    let app₂ : App Unit Unit := ⟨replying (.timeout "find") "missing field", .failing Unit, health⟩
    let id : Uuid := ⟨7, by decide⟩
    let details : Details := ⟨"A", "B", "C", "D", "e@example.com", "F"⟩
    let ask (method : String) (body : List Char) : Arrival :=
      ⟨id, ⟨0, 0, by decide, by decide⟩, id, ⟨method, ⟨("/v1/users/" ++ id.toString).toList, []⟩,
        [("content-type", "application/json")], Text.octets body⟩⟩
    let bodies := Bodies.plain
    let arrivals := [ask "GET" [], ask "PUT" (Json.object details.members).print, ask "DELETE" []]
    (∀ a ∈ arrivals, ¬ a.request.IsProbe) ∧
      (app₁.journalled.worldAfter bodies arrivals ((), [])).2.filterMap Exchange.told? =
        (app₂.journalled.worldAfter bodies arrivals ((), [])).2.filterMap Exchange.told? ∧
      (app₁.visits bodies arrivals ()).map Handled.response =
        (app₂.visits bodies arrivals ()).map Handled.response := by
  intro replying health open₁ app₁ app₂ id details ask bodies arrivals
  have hprobes : ∀ a ∈ arrivals, ¬ a.request.IsProbe := by
    unfold Request.IsProbe
    decide +kernel
  have hget : interpret bodies (ask "GET" []).request = .users (.get id) := by decide +kernel
  have hput : interpret bodies (ask "PUT" (Json.object details.members).print).request =
      .users (.update id details) := by decide +kernel
  have hdelete : interpret bodies (ask "DELETE" []).request = .users (.delete id) := by
    decide +kernel
  have hvalid : details.fault? = none := by decide +kernel
  have htold : (app₁.journalled.worldAfter bodies arrivals ((), [])).2.filterMap Exchange.told? =
      (app₂.journalled.worldAfter bodies arrivals ((), [])).2.filterMap Exchange.told? := by
    simp only [App.worldAfter_journalled, arrivals, App.history, List.filterMap_append,
      App.exchanges_of_users _ bodies hget, App.exchanges_of_users _ bodies hput,
      App.exchanges_of_users _ bodies hdelete,
      Service.told_of_plan_ok _ _ (Service.plan_eq_ok.mpr .get),
      Service.told_of_plan_ok _ _ (Service.plan_update _ hvalid id),
      Service.told_of_plan_ok _ _ (Service.plan_eq_ok.mpr .delete)]
    rfl
  exact ⟨hprobes, htold, responses_keep_secrets app₁ app₂ bodies arrivals hprobes () () htold⟩

end UserDirectory.Http
