import UserDirectory.Proofs.Service.Policy

/-!
# Proofs.Service.Masking — how much of a store's reply reaches an answer

* `StoreCall.mask`: a reply without the kind and the words of an error and without the reason why
  a document describes no account.
* `Exchange.told?`: of the exchanges of a request, the masked replies of the store; what the
  publisher answered is dropped altogether.
* `settle_mask`: a reply and its mask lead to the same answer.
* `shared_answer_eq`: in two worlds of which the same is told, a request has the same answer.
-/

namespace UserDirectory

/-- The outcome without the reason why the document describes no account. -/
def WriteOutcome.mask {α : Type} : WriteOutcome α → WriteOutcome α
  | .undecodable _ => .undecodable ""
  | outcome => outcome

/-- The reply without the kind and the words of an error, and without such a reason. -/
def StoreCall.mask : (call : StoreCall) → call.Reply → call.Reply
  | .update _, .ok outcome => .ok outcome.mask
  | .delete _, .ok outcome => .ok outcome.mask
  | _, .error _ => .error (.query "")
  | .create _, .ok done => .ok done
  | .find _, .ok found => .ok found
  | .list _, .ok users => .ok users

/-- The masked reply of the store; nothing of what passed between the service and the
publisher. -/
def Exchange.told? : Exchange → Option Exchange
  | .called call reply => some (.called call (call.mask reply))
  | .published _ _ => none

namespace Service

/-- **No answer shows what a mask hides.** -/
theorem settle_mask (c : Context) (call : StoreCall) (reply : call.Reply) :
    (settle c call (call.mask reply)).answer = (settle c call reply).answer := by
  cases call with
  | create user => cases reply <;> rfl
  | find id => cases reply <;> rfl
  | list query => cases reply <;> rfl
  | update change =>
    cases reply with
    | ok outcome => cases outcome <;> rfl
    | error e => rfl
  | delete id =>
    cases reply with
    | ok outcome => cases outcome <;> rfl
    | error e => rfl

/-- What is announced tells nothing. -/
theorem told_announcement {ω : Type} (bus : Publisher ω) (event : Option Event) (w : ω) :
    (announcement bus event w).filterMap Exchange.told? = [] := by
  cases event <;> rfl

section Told

variable {ω : Type} (repo : Repository ω) (bus : Publisher ω) {c : Context} {r : Request} {w : ω}

theorem told_of_plan_error {e : DomainError} (h : plan c r = .error e) :
    (exchanges repo bus c r w).filterMap Exchange.told? = [] := by
  unfold exchanges
  rw [h]
  rfl

/-- A request that makes a call tells its reply, and nothing else. -/
theorem told_of_plan_ok {call : StoreCall} (h : plan c r = .ok call) :
    (exchanges repo bus c r w).filterMap Exchange.told? =
      [.called call (call.mask (repo.serve call w).1)] := by
  unfold exchanges
  rw [h]
  dsimp only
  rw [List.filterMap_cons_some (by rfl), told_announcement]

end Told

section Worlds

variable {ω₁ ω₂ : Type} (repo₁ : Repository ω₁) (repo₂ : Repository ω₂) (bus₁ : Publisher ω₁)
  (bus₂ : Publisher ω₂) (c : Context) (r : Request) (w₁ : ω₁) (w₂ : ω₂)

/-- In all worlds a request tells equally often. -/
theorem length_told :
    ((exchanges repo₁ bus₁ c r w₁).filterMap Exchange.told?).length =
      ((exchanges repo₂ bus₂ c r w₂).filterMap Exchange.told?).length := by
  cases hplan : plan c r with
  | error e => rw [told_of_plan_error _ _ hplan, told_of_plan_error _ _ hplan]
  | ok call =>
    rw [told_of_plan_ok _ _ hplan, told_of_plan_ok _ _ hplan, List.length_singleton,
      List.length_singleton]

/-- **The same is told, the same is answered**, whatever else differs between the worlds. -/
theorem shared_answer_eq
    (h : (exchanges repo₁ bus₁ c r w₁).filterMap Exchange.told? =
      (exchanges repo₂ bus₂ c r w₂).filterMap Exchange.told?) :
    (shared repo₁ bus₁ c r w₁).answer = (shared repo₂ bus₂ c r w₂).answer := by
  cases hplan : plan c r with
  | error e =>
    rw [shared_of_plan_error repo₁ bus₁ hplan, shared_of_plan_error repo₂ bus₂ hplan]
  | ok call =>
    rw [told_of_plan_ok _ _ hplan, told_of_plan_ok _ _ hplan] at h
    simp only [List.cons.injEq, Exchange.called.injEq, heq_eq_eq, true_and, and_true] at h
    rw [shared_of_plan_ok repo₁ bus₁ hplan, shared_of_plan_ok repo₂ bus₂ hplan]
    dsimp only
    rw [← settle_mask, h, settle_mask]

end Worlds

end Service
end UserDirectory
