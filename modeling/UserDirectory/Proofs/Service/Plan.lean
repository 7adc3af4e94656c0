import UserDirectory.Service

/-!
# Proofs.Service.Plan — what becomes of a request, and of requests one after another

* `Refuses`: which requests are refused, and in which words.
* `Asks`: the one call of every other request.
* `plan_eq_error`, `plan_eq_ok`: the plan of a request is what these tables say.
* `run_of_plan_error`, `run_of_plan_ok`: one request, by what becomes of its plan.
* `announce_state`: the publisher's state after an announcement.
* `session`: what each of a list of requests leaves behind, the next one served in the states that
  the one before left.
* `after`: the states of the store and the publisher when all are served.
-/

namespace UserDirectory

namespace Details

theorem check_of_fault {d : Details} {f : DetailsFault} (h : d.fault? = some f) :
    d.check = .error f := by
  unfold check
  rw [h]

theorem check_eq_ok {d : Details} : d.check = .ok () ↔ d.fault? = none := by
  unfold check
  cases d.fault? <;> simp

end Details

namespace Service

/-! ## Details -/

section Plans

variable (c : Context) {details : Details} {f : DetailsFault}

theorem plan_create_of_fault (h : details.fault? = some f) :
    plan c (.create details) = .error (c.invalid f.message) := by
  rw [plan, User.make, Details.check_of_fault h]
  rfl

theorem plan_create (h : details.fault? = none) :
    plan c (.create details) =
      .ok (.create ⟨c.freshId, details, c.now.truncate, c.now.truncate⟩) := by
  rw [plan, User.make, Details.check_eq_ok.mpr h]
  rfl

theorem plan_update_of_fault (h : details.fault? = some f) (id : Uuid) :
    plan c (.update id details) = .error (c.invalid f.message) := by
  rw [plan, Details.check_of_fault h]

theorem plan_update (h : details.fault? = none) (id : Uuid) :
    plan c (.update id details) = .ok (.update ⟨id, details, c.now.truncate⟩) := by
  rw [plan, Details.check_eq_ok.mpr h]

end Plans

/-! ## Refusals and calls -/

/-- Requests that are refused before anything is asked: details that break a rule, and listing
parameters that ask for nothing. -/
inductive Refuses (c : Context) : Request → DomainError → Prop
  | create {details f} : details.fault? = some f →
    Refuses c (.create details) (c.invalid f.message)
  | update {id details f} : details.fault? = some f →
    Refuses c (.update id details) (c.invalid f.message)
  | list {params f} : Listing.Query.ofParams params = .error f →
    Refuses c (.list params) (c.invalid f.message)

/-- The one call of every other request. -/
inductive Asks (c : Context) : Request → StoreCall → Prop
  | create {details} : details.fault? = none →
    Asks c (.create details) (.create ⟨c.freshId, details, c.now.truncate, c.now.truncate⟩)
  | update {id details} : details.fault? = none →
    Asks c (.update id details) (.update ⟨id, details, c.now.truncate⟩)
  | delete {id} : Asks c (.delete id) (.delete id)
  | get {id} : Asks c (.get id) (.find id)
  | list {params query} : Listing.Query.ofParams params = .ok query →
    Asks c (.list params) (.list query)

/-- Every request is refused or makes a call. -/
theorem plan_spec (c : Context) (r : Request) :
    (∃ e, plan c r = .error e ∧ Refuses c r e) ∨ ∃ call, plan c r = .ok call ∧ Asks c r call := by
  cases r with
  | create details =>
    cases hf : details.fault? with
    | some f => exact .inl ⟨_, plan_create_of_fault c hf, .create hf⟩
    | none => exact .inr ⟨_, plan_create c hf, .create hf⟩
  | update id details =>
    cases hf : details.fault? with
    | some f => exact .inl ⟨_, plan_update_of_fault c hf id, .update hf⟩
    | none => exact .inr ⟨_, plan_update c hf id, .update hf⟩
  | delete id => exact .inr ⟨_, rfl, .delete⟩
  | get id => exact .inr ⟨_, rfl, .get⟩
  | list params =>
    rw [plan]
    cases hq : Listing.Query.ofParams params with
    | error f => exact .inl ⟨_, rfl, .list hq⟩
    | ok q => exact .inr ⟨_, rfl, .list hq⟩

theorem plan_eq_error {c : Context} {r : Request} {e : DomainError} :
    plan c r = .error e ↔ Refuses c r e := by
  refine ⟨?_, ?_⟩
  · intro h
    rcases plan_spec c r with ⟨e', hplan, hrefuses⟩ | ⟨call, hplan, -⟩
    · rw [hplan] at h
      cases h
      exact hrefuses
    · rw [hplan] at h
      cases h
  · intro h
    cases h with
    | create hf => exact plan_create_of_fault c hf
    | update hf => exact plan_update_of_fault c hf _
    | list hf => rw [plan, hf]

theorem plan_eq_ok {c : Context} {r : Request} {call : StoreCall} :
    plan c r = .ok call ↔ Asks c r call := by
  refine ⟨?_, ?_⟩
  · intro h
    rcases plan_spec c r with ⟨e, hplan, -⟩ | ⟨call', hplan, hasks⟩
    · rw [hplan] at h
      cases h
    · rw [hplan] at h
      cases h
      exact hasks
  · intro h
    cases h with
    | create hf => exact plan_create c hf
    | update hf => exact plan_update c hf _
    | delete => rfl
    | get => rfl
    | list hq => rw [plan, hq]

/-! ## Running a plan -/

section Runs

variable {σ π : Type} (repo : Repository σ) (bus : Publisher π)

theorem run_of_plan_error {c : Context} {r : Request} {e : DomainError}
    (h : plan c r = .error e) (s : σ) (p : π) :
    run repo bus c r s p = ⟨none, .error e, [], s, p⟩ := by
  unfold run
  rw [h]

theorem run_of_plan_ok {c : Context} {r : Request} {call : StoreCall}
    (h : plan c r = .ok call) (s : σ) (p : π) :
    run repo bus c r s p =
      let served := repo.serve call s
      let outcome := settle c call served.1
      let announced := announce bus outcome.event p
      ⟨call, outcome.answer, outcome.logs ++ announced.1, served.2, announced.2⟩ := by
  unfold run
  rw [h]

/-- An announcement leaves the publisher in the state that it gave, whether or not it worked. -/
theorem announce_state (event : Event) (p : π) :
    (announce bus (some event) p).2 = (bus.publish event p).state := by
  unfold announce
  dsimp only
  cases (bus.publish event p).result with
  | ok _ => rfl
  | error _ => rfl

/-! ## Sessions -/

/-- What each of the requests leaves behind. -/
def session : List (Context × Request) → σ → π → List (Run σ π)
  | [], _, _ => []
  | (c, r) :: rest, s, p =>
    let now := run repo bus c r s p
    now :: session rest now.store now.bus

/-- The states of the store and the publisher after the requests. -/
def after : List (Context × Request) → σ → π → σ × π
  | [], s, p => (s, p)
  | (c, r) :: rest, s, p =>
    let now := run repo bus c r s p
    after rest now.store now.bus

end Runs

end Service
end UserDirectory
