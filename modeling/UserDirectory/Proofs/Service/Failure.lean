import UserDirectory.Proofs.Service.Outcomes

/-!
# Proofs.Service.Failure — requests that change nothing

* `settle_failed`: a reply that leads to a failure is not announced.
* `serve_failed`: documents in memory are as they were after a call whose reply leads to a failure.
* `outcomeOn_failed`, `outcomeOn_reads`: a request that fails, or that only reads, leaves the
  documents alone and announces nothing.
* `run_failed`, `run_reads`: so a whole run leaves both the documents and the publisher as they
  were.
-/

namespace UserDirectory.Service

/-- Requests that only look something up. -/
inductive Reads : Request → Prop
  | get (id : Uuid) : Reads (.get id)
  | list (params : Listing.Params) : Reads (.list params)

/-! ## Outcomes -/

/-- A failure is never announced, whatever the store replied. -/
theorem settle_failed {c : Context} {call : StoreCall} {reply : call.Reply} {e : DomainError}
    (h : (settle c call reply).answer = .error e) : (settle c call reply).event = none := by
  cases call with
  | create user =>
    cases reply with
    | ok _ => cases h
    | error _ => rfl
  | find id => exact find_quiet c id reply
  | list query => exact list_quiet c query reply
  | update change =>
    cases reply with
    | ok outcome =>
      cases outcome with
      | written _ => cases h
      | notFound => rfl
      | undecodable _ => rfl
    | error _ => rfl
  | delete id =>
    cases reply with
    | ok outcome =>
      cases outcome with
      | written _ => cases h
      | notFound => rfl
      | undecodable _ => cases h
    | error _ => rfl

/-- The documents are written only by a call that leads to success: an identifier that is taken
stops a creation, and one that is not there a change or a deletion. -/
theorem serve_failed {c : Context} {call : StoreCall} {s : Store} {e : DomainError}
    (h : (settle c call (Repository.memory.serve call s).1).answer = .error e) :
    (Repository.memory.serve call s).2 = s := by
  cases call with
  | create user =>
    dsimp only [Repository.memory, Store.create] at h ⊢
    split at h
    · next hstored => rw [if_pos hstored]
    · cases h
  | find _ => rfl
  | list _ => rfl
  | update change =>
    dsimp only [Repository.memory, Store.update] at h ⊢
    cases hget : s.get? change.id with
    | none => rfl
    | some d =>
      -- What is written counts as done, even if it describes no account.
      rw [hget] at h
      dsimp only at h
      cases hdecode : User.ofDocument (d.change change) with
      | ok _ =>
        rw [hdecode] at h
        cases h
      | error _ =>
        rw [hdecode] at h
        cases h
  | delete id =>
    dsimp only [Repository.memory, Store.delete] at h ⊢
    split at h
    · cases h
    · next hstored => rw [if_neg hstored]

variable {c : Context} {r : Request} {s : Store}

/-- **A request that fails** leaves the documents as they were and announces nothing. -/
theorem outcomeOn_failed {e : DomainError} (h : (outcomeOn c r s).1.answer = .error e) :
    (outcomeOn c r s).2 = s ∧ (outcomeOn c r s).1.event = none := by
  cases hplan : plan c r with
  | error f =>
    rw [outcomeOn_of_plan_error hplan]
    exact ⟨rfl, rfl⟩
  | ok call =>
    rw [outcomeOn_of_plan_ok hplan] at h ⊢
    exact ⟨serve_failed h, settle_failed h⟩

/-- **A request that only reads** leaves the documents as they were and announces nothing. -/
theorem outcomeOn_reads (h : Reads r) :
    (outcomeOn c r s).2 = s ∧ (outcomeOn c r s).1.event = none := by
  rcases plan_spec c r with ⟨e, hplan, -⟩ | ⟨call, hplan, hasks⟩
  · rw [outcomeOn_of_plan_error hplan]
    exact ⟨rfl, rfl⟩
  · rw [outcomeOn_of_plan_ok hplan]
    refine ⟨?_, ?_⟩
    · cases h <;> cases hasks <;> rfl
    · cases h with
      | get id =>
        cases hasks
        exact find_quiet c id _
      | list params =>
        cases hasks with
        | @list _ query _ => exact list_quiet c query _

/-! ## Runs -/

section Runs

variable {π : Type} (bus : Publisher π) {p : π}

theorem run_of_unchanged
    (h : (outcomeOn c r s).2 = s ∧ (outcomeOn c r s).1.event = none) :
    (run .memory bus c r s p).store = s ∧ (run .memory bus c r s p).bus = p := by
  obtain ⟨-, hstore, hbus⟩ := run_memory (c := c) (r := r) (s := s) bus p
  rw [hstore, hbus, h.1, h.2]
  exact ⟨rfl, rfl⟩

theorem run_failed {e : DomainError} (h : (run .memory bus c r s p).answer = .error e) :
    (run .memory bus c r s p).store = s ∧ (run .memory bus c r s p).bus = p := by
  obtain ⟨hanswer, -, -⟩ := run_memory (c := c) (r := r) (s := s) bus p
  rw [hanswer] at h
  exact run_of_unchanged bus (outcomeOn_failed h)

theorem run_reads (h : Reads r) :
    (run .memory bus c r s p).store = s ∧ (run .memory bus c r s p).bus = p :=
  run_of_unchanged bus (outcomeOn_reads h)

end Runs

/-- **A creation never overwrites**: it fails if the identifier that it draws is taken. -/
theorem create_taken (details : Details) (h : s.contains c.freshId = true) :
    ∃ e, (outcomeOn c (.create details) s).1.answer = .error e := by
  cases hf : details.fault? with
  | some f => exact ⟨_, by rw [outcomeOn_of_plan_error (plan_create_of_fault c hf)]; rfl⟩
  | none =>
    rw [outcomeOn_of_plan_ok (plan_create c hf)]
    dsimp only [Repository.memory, Store.create]
    rw [if_pos h]
    exact ⟨_, rfl⟩

end UserDirectory.Service
