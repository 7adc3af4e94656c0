import UserDirectory.Proofs.Service.Plan

/-!
# Proofs.Service.Policy — what a request asks of a store and a publisher that may do anything

* `shared`: a request to a store and a publisher that live in one world, so that each may answer
  according to everything that ever happened to the other.  `session_eq_shared`: the usual pair of
  separate states is the case of a world with two parts.
* `Exchange`, `journalled`: a journal of what the two were asked and how they answered.
* `Warrants`, `Answered`: what the replies of the store lead to, as two tables.
* `Follows`: the exchanges of one request, and its answer, keep to the tables.
* `session_follows_policy`: in every world and for every list of requests the journal splits into
  the exchanges of the requests, each of which follows the policy; sessions on separate states are
  sessions in such worlds.
-/

namespace UserDirectory

/-! ## Adapters in one world -/

/-- What a store or a publisher was asked, and its answer. -/
inductive Exchange where
  | called (call : StoreCall) (reply : call.Reply)
  | published (event : Event) (result : Except PublishError Unit)

/-- The store with every call written down. -/
def Repository.journalled {ω : Type} (repo : Repository ω) :
    Repository (ω × List Exchange) where
  serve call w :=
    let (reply, world) := repo.serve call w.1
    (reply, world, w.2 ++ [.called call reply])
  ping w := repo.ping w.1
  close w := repo.close w.1

/-- The publisher with every announcement written down. -/
def Publisher.journalled {ω : Type} (bus : Publisher ω) : Publisher (ω × List Exchange) where
  publish event w :=
    let delivery := bus.publish event w.1
    ⟨delivery.result, delivery.logs, delivery.state, w.2 ++ [.published event delivery.result]⟩
  ping w := bus.ping w.1
  close w := bus.close w.1

/-- The store as the first part of a world. -/
def Repository.first {σ π : Type} (repo : Repository σ) : Repository (σ × π) where
  serve call w :=
    let (reply, s) := repo.serve call w.1
    (reply, s, w.2)
  ping w := repo.ping w.1
  close w := repo.close w.1

/-- The publisher as the second part of a world. -/
def Publisher.second {σ π : Type} (bus : Publisher π) : Publisher (σ × π) where
  publish event w :=
    let delivery := bus.publish event w.2
    ⟨delivery.result, delivery.logs, w.1, delivery.state⟩
  ping w := bus.ping w.2
  close w := bus.close w.2

namespace Service

/-- Nothing that a publisher does comes back to the store. -/
theorem store_run {σ π : Type} (repo : Repository σ) (bus : Publisher π) (c : Context)
    (r : Request) (s : σ) (p p' : π) :
    (run repo bus c r s p).store = (run repo bus c r s p').store := by
  cases hplan : plan c r with
  | error e => rw [run_of_plan_error repo bus hplan, run_of_plan_error repo bus hplan]
  | ok call => rw [run_of_plan_ok repo bus hplan, run_of_plan_ok repo bus hplan]

section Shared

variable {ω : Type} (repo : Repository ω) (bus : Publisher ω)

/-- Serves a request where the publisher finds the world as the store is left; the state of the bus
is the world afterwards.  How the store is left does not depend on the publisher (`store_run`), so a
run in which this finds the world as it was tells it. -/
def shared (c : Context) (r : Request) (w : ω) : Run ω ω :=
  run repo bus c r w (run repo bus c r w w).store

/-- What each of the requests leaves behind. -/
def sharedSession : List (Context × Request) → ω → List (Run ω ω)
  | [], _ => []
  | (c, r) :: rest, w => shared repo bus c r w :: sharedSession rest (shared repo bus c r w).bus

/-- The world after the requests. -/
def worldAfter : List (Context × Request) → ω → ω
  | [], w => w
  | (c, r) :: rest, w => worldAfter rest (shared repo bus c r w).bus

theorem shared_of_plan_error {c : Context} {r : Request} {e : DomainError}
    (h : plan c r = .error e) (w : ω) : shared repo bus c r w = ⟨none, .error e, [], w, w⟩ := by
  unfold shared
  rw [run_of_plan_error repo bus h, run_of_plan_error repo bus h]

theorem shared_of_plan_ok {c : Context} {r : Request} {call : StoreCall}
    (h : plan c r = .ok call) (w : ω) :
    shared repo bus c r w =
      let served := repo.serve call w
      let outcome := settle c call served.1
      let announced := announce bus outcome.event served.2
      ⟨call, outcome.answer, outcome.logs ++ announced.1, served.2, announced.2⟩ := by
  unfold shared
  rw [run_of_plan_ok repo bus h, run_of_plan_ok repo bus h]

end Shared

section Apart

variable {σ π : Type} (repo : Repository σ) (bus : Publisher π)

/-- What a request in a world with two parts leaves behind in each of them. -/
def Run.apart (now : Run (σ × π) (σ × π)) : Run σ π :=
  ⟨now.call, now.answer, now.logs, now.bus.1, now.bus.2⟩

/-- **Separate states** are a world with two parts. -/
theorem run_eq_shared (c : Context) (r : Request) (s : σ) (p : π) :
    run repo bus c r s p = (shared repo.first bus.second c r (s, p)).apart := by
  unfold Run.apart
  cases hplan : plan c r with
  | error e => rw [run_of_plan_error repo bus hplan, shared_of_plan_error _ _ hplan]
  | ok call =>
    rw [run_of_plan_ok repo bus hplan, shared_of_plan_ok _ _ hplan]
    dsimp only [Repository.first]
    cases (settle c call (repo.serve call s).1).event with
    | none => rfl
    | some event =>
      unfold announce
      dsimp only [Publisher.second]
      cases (bus.publish event p).result with
      | ok _ => rfl
      | error _ => rfl

/-- Sessions on separate states are sessions in the world of both. -/
theorem session_eq_shared (rs : List (Context × Request)) (s : σ) (p : π) :
    session repo bus rs s p = (sharedSession repo.first bus.second rs (s, p)).map Run.apart := by
  induction rs generalizing s p with
  | nil => rfl
  | cons q rs ih =>
    obtain ⟨c, r⟩ := q
    have hrun := run_eq_shared repo bus c r s p
    have htail := ih (run repo bus c r s p).store (run repo bus c r s p).bus
    rw [session, sharedSession, List.map_cons, htail, hrun]
    rfl

end Apart

/-! ## The policy -/

/-- The replies that warrant an announcement, and of what: the account as it was stored, the
account as the store has it after the change, or the identifier alone of one that is gone. -/
inductive Warrants : Exchange → Event → Prop
  | created {user} : Warrants (.called (.create user) (.ok ())) (.created user)
  | updated {change user} :
    Warrants (.called (.update change) (.ok (.written user))) (.updated user)
  | deleted {id} : Warrants (.called (.delete id) (.ok (.written ()))) (.deleted id)
  | deletedUndecodable {id reason} :
    Warrants (.called (.delete id) (.ok (.undecodable reason))) (.deleted id)

/-- The words for a call that the store could not serve. -/
def failureText : StoreCall → String
  | .create _ => "user not created"
  | .find _ => "user not retrieved"
  | .list _ => "users not retrieved"
  | .update _ => "user not updated"
  | .delete _ => "user not deleted"

/-- The answer that a reply of the store leads to. -/
inductive Answered (c : Context) : Exchange → Except DomainError Answer → Prop
  | created {user} : Answered c (.called (.create user) (.ok ())) (.ok (.user user))
  | found {id user} : Answered c (.called (.find id) (.ok (some user))) (.ok (.user user))
  | missing {id} : Answered c (.called (.find id) (.ok none))
    (.error (.make c.trace .notFound "user not found"))
  | listed {query users} : Answered c (.called (.list query) (.ok users)) (.ok (.users users))
  | updated {change user} :
    Answered c (.called (.update change) (.ok (.written user))) (.ok .done)
  | updatedUndecodable {change reason} :
    Answered c (.called (.update change) (.ok (.undecodable reason))) (.ok .done)
  | updateMissing {change} : Answered c (.called (.update change) (.ok .notFound))
    (.error (.make c.trace .notFound "user not found"))
  | deleted {id} : Answered c (.called (.delete id) (.ok (.written ()))) (.ok .done)
  | deletedUndecodable {id reason} :
    Answered c (.called (.delete id) (.ok (.undecodable reason))) (.ok .done)
  | deleteMissing {id} : Answered c (.called (.delete id) (.ok .notFound))
    (.error (.make c.trace .notFound "user not found"))
  | failed {call error} : Answered c (.called call (.error error))
    (.error (.make c.trace .internal (failureText call)))

theorem answered_settle (c : Context) (call : StoreCall) (reply : call.Reply) :
    Answered c (.called call reply) (settle c call reply).answer := by
  cases call with
  | create user =>
    cases reply with
    | ok _ => exact .created
    | error e => exact .failed
  | find id =>
    cases reply with
    | ok found =>
      cases found with
      | none => exact .missing
      | some user => exact .found
    | error e => exact .failed
  | list query =>
    cases reply with
    | ok users => exact .listed
    | error e => exact .failed
  | update change =>
    cases reply with
    | ok outcome =>
      cases outcome with
      | written user => exact .updated
      | notFound => exact .updateMissing
      | undecodable reason => exact .updatedUndecodable
    | error e => exact .failed
  | delete id =>
    cases reply with
    | ok outcome =>
      cases outcome with
      | written _ => exact .deleted
      | notFound => exact .deleteMissing
      | undecodable reason => exact .deletedUndecodable
    | error e => exact .failed

/-- The reply decides the answer. -/
theorem Answered.eq_settle {c : Context} {call : StoreCall} {reply : call.Reply}
    {a : Except DomainError Answer} (h : Answered c (.called call reply) a) :
    a = (settle c call reply).answer := by
  cases h with
  | failed => cases call <;> rfl
  | _ => rfl

theorem warrants_settle {c : Context} {call : StoreCall} {reply : call.Reply} {e : Event} :
    (settle c call reply).event = some e ↔ Warrants (.called call reply) e := by
  refine ⟨?_, ?_⟩
  · intro h
    cases call with
    | create user =>
      cases reply with
      | ok _ =>
        cases h
        exact .created
      | error e => cases h
    | find id =>
      cases reply with
      | ok found => cases found <;> cases h
      | error e => cases h
    | list query => cases reply <;> cases h
    | update change =>
      cases reply with
      | ok outcome =>
        cases outcome with
        | written user =>
          cases h
          exact .updated
        | notFound => cases h
        | undecodable reason => cases h
      | error e => cases h
    | delete id =>
      cases reply with
      | ok outcome =>
        cases outcome with
        | written _ =>
          cases h
          exact .deleted
        | notFound => cases h
        | undecodable reason =>
          cases h
          exact .deletedUndecodable
      | error e => cases h
  · intro h
    cases h <;> rfl

/-- The exchanges of one request, and its answer, keep to the policy.

* At most one call and at most one announcement, which comes after the call.
* What is refused asks nothing of anybody.  Everything else makes its one call.
* An event is announced if and only if the reply warrants it.  Looking up and listing never do.
* The answer follows from the reply of the store, whatever became of the announcement. -/
structure Follows (c : Context) (r : Request) (xs : List Exchange)
    (answer : Except DomainError Answer) : Prop where
  order : xs = [] ∨ (∃ call reply, xs = [.called call reply]) ∨
    ∃ call reply event result, xs = [.called call reply, .published event result]
  refused : ∀ e, Refuses c r e → xs = [] ∧ answer = .error e
  served : (¬ ∃ e, Refuses c r e) → ∃ call reply rest, xs = .called call reply :: rest
  asked : ∀ call reply, .called call reply ∈ xs → Asks c r call
  published_iff : ∀ event, (∃ result, .published event result ∈ xs) ↔ ∃ x ∈ xs, Warrants x event
  quiet : (∃ id, r = .get id) ∨ (∃ params, r = .list params) →
    ∀ event result, .published event result ∉ xs
  answered : ∀ call reply a, .called call reply ∈ xs →
    (Answered c (.called call reply) a ↔ a = answer)

theorem follows_nil {c : Context} {r : Request} {e : DomainError} (h : plan c r = .error e) :
    Follows c r [] (.error e) where
  order := .inl rfl
  refused e' he' := by
    rw [← plan_eq_error, h, Except.error.injEq] at he'
    exact ⟨rfl, congrArg Except.error he'⟩
  served hnot := absurd ⟨e, plan_eq_error.mp h⟩ hnot
  asked call reply hmem := by simp at hmem
  published_iff event := by simp
  quiet _ event result hmem := by simp at hmem
  answered call reply a hmem := by simp at hmem

/-- What is announced after a reply, and how the publisher took it. -/
def announcement {ω : Type} (bus : Publisher ω) (event : Option Event) (w : ω) :
    List Exchange :=
  match event with
  | none => []
  | some event => [.published event (bus.publish event w).result]

theorem mem_announcement {ω : Type} {bus : Publisher ω} {event : Option Event} {w : ω}
    {x : Exchange} :
    x ∈ announcement bus event w ↔
      ∃ e, event = some e ∧ x = .published e (bus.publish e w).result := by
  cases event with
  | none => simp [announcement]
  | some e => simp [announcement]

section Served

variable {ω : Type} {bus : Publisher ω} {c : Context} {call : StoreCall} {reply : call.Reply}
  {w : ω}

/-- The only call among the exchanges is the one that the request makes. -/
theorem eq_of_called_mem {call' : StoreCall} {reply' : call'.Reply}
    (h : .called call' reply' ∈
      .called call reply :: announcement bus (settle c call reply).event w) :
    Exchange.called call' reply' = .called call reply := by
  rcases List.mem_cons.mp h with heq | hmem
  · exact heq
  · obtain ⟨e, -, heq⟩ := mem_announcement.mp hmem
    cases heq

/-- An event is among the exchanges if and only if the reply warrants it. -/
theorem published_mem_iff {event : Event} :
    (∃ result, .published event result ∈
      .called call reply :: announcement bus (settle c call reply).event w) ↔
      Warrants (.called call reply) event := by
  rw [← warrants_settle]
  refine ⟨?_, ?_⟩
  · rintro ⟨result, hmem⟩
    rcases List.mem_cons.mp hmem with heq | hmem
    · cases heq
    · obtain ⟨e, he, heq⟩ := mem_announcement.mp hmem
      cases heq
      exact he
  · intro he
    exact ⟨_, List.mem_cons_of_mem _ (mem_announcement.mpr ⟨event, he, rfl⟩)⟩

theorem follows_cons (bus : Publisher ω) {r : Request} (h : plan c r = .ok call)
    (reply : call.Reply) (w : ω) :
    Follows c r (.called call reply :: announcement bus (settle c call reply).event w)
      (settle c call reply).answer := by
  have hasks : Asks c r call := plan_eq_ok.mp h
  constructor
  case order =>
    right
    cases (settle c call reply).event with
    | none => exact .inl ⟨call, reply, rfl⟩
    | some event => exact .inr ⟨call, reply, event, _, rfl⟩
  case refused =>
    intro e he
    rw [plan_eq_error.mpr he] at h
    cases h
  case served => exact fun _ => ⟨call, reply, _, rfl⟩
  case asked =>
    intro call' reply' hmem
    cases eq_of_called_mem hmem
    exact hasks
  case published_iff =>
    intro event
    rw [published_mem_iff]
    refine ⟨fun hw => ⟨_, List.mem_cons_self, hw⟩, ?_⟩
    rintro ⟨x, hmem, hw⟩
    rcases List.mem_cons.mp hmem with rfl | hmem
    · exact hw
    · obtain ⟨e, -, rfl⟩ := mem_announcement.mp hmem
      cases hw
  case quiet =>
    intro hr event result hmem
    have hw := published_mem_iff.mp ⟨result, hmem⟩
    rcases hr with ⟨id, rfl⟩ | ⟨params, rfl⟩
    all_goals
      cases hasks
      cases hw
  case answered =>
    intro call' reply' a hmem
    cases eq_of_called_mem hmem
    refine ⟨Answered.eq_settle, ?_⟩
    rintro rfl
    exact answered_settle c call reply

end Served

/-! ## Journals -/

section Journals

variable {ω : Type} (repo : Repository ω) (bus : Publisher ω)

/-- What a request asks of the store and the publisher, and their answers. -/
def exchanges (c : Context) (r : Request) (w : ω) : List Exchange :=
  match plan c r with
  | .error _ => []
  | .ok call =>
    let (reply, w) := repo.serve call w
    .called call reply :: announcement bus (settle c call reply).event w

theorem exchanges_follow (c : Context) (r : Request) (w : ω) :
    Follows c r (exchanges repo bus c r w) (shared repo bus c r w).answer := by
  unfold exchanges
  cases hplan : plan c r with
  | error e =>
    rw [shared_of_plan_error repo bus hplan]
    exact follows_nil hplan
  | ok call =>
    rw [shared_of_plan_ok repo bus hplan]
    exact follows_cons bus hplan _ _

theorem announce_journalled (event : Option Event) (w : ω) (journal : List Exchange) :
    (announce bus.journalled event (w, journal)).2 =
      ((announce bus event w).2, journal ++ announcement bus event w) := by
  cases event with
  | none => simp [announce, announcement]
  | some event =>
    rw [announce_state, announce_state]
    rfl

/-- **The journal of a request** is what was written before and its exchanges, and keeping it
changes neither the answer nor the world. -/
theorem shared_journalled (c : Context) (r : Request) (w : ω) (journal : List Exchange) :
    (shared repo.journalled bus.journalled c r (w, journal)).bus =
      ((shared repo bus c r w).bus, journal ++ exchanges repo bus c r w) := by
  unfold exchanges
  cases hplan : plan c r with
  | error e =>
    rw [shared_of_plan_error repo bus hplan, shared_of_plan_error _ _ hplan, List.append_nil]
  | ok call =>
    rw [shared_of_plan_ok repo bus hplan, shared_of_plan_ok _ _ hplan]
    dsimp only [Repository.journalled]
    rw [announce_journalled, List.append_assoc, List.singleton_append]

end Journals

/-- One request of a session: what it asked for, what happened, and its answer. -/
structure Visit where
  context : Context
  request : Request
  exchanges : List Exchange
  answer : Except DomainError Answer

theorem worldAfter_journalled {ω : Type} (repo : Repository ω) (bus : Publisher ω)
    (rs : List (Context × Request)) (w : ω) (journal : List Exchange) :
    ∃ visits : List Visit,
      visits.map (fun v => (v.context, v.request)) = rs ∧
      worldAfter repo.journalled bus.journalled rs (w, journal) =
        (worldAfter repo bus rs w, journal ++ visits.flatMap Visit.exchanges) ∧
      (sharedSession repo bus rs w).map Run.answer = visits.map Visit.answer ∧
      ∀ v ∈ visits, Follows v.context v.request v.exchanges v.answer := by
  induction rs generalizing w journal with
  | nil => exact ⟨[], rfl, by simp [worldAfter], rfl, by simp⟩
  | cons q rs ih =>
    obtain ⟨c, r⟩ := q
    obtain ⟨visits, hrequests, hworld, hanswers, hfollow⟩ :=
      ih (shared repo bus c r w).bus (journal ++ exchanges repo bus c r w)
    refine ⟨⟨c, r, exchanges repo bus c r w, (shared repo bus c r w).answer⟩ :: visits,
      ?_, ?_, ?_, ?_⟩
    · rw [List.map_cons, hrequests]
    · rw [worldAfter, shared_journalled, hworld, worldAfter, List.flatMap_cons,
        List.append_assoc]
    · rw [sharedSession, List.map_cons, List.map_cons, hanswers]
    · intro v hv
      rcases List.mem_cons.mp hv with rfl | hv
      · exact exchanges_follow repo bus c r w
      · exact hfollow v hv

/-- **Every session follows the policy**, in every world and for every list of requests: its
journal is the exchanges of the requests one after another, and those of each request keep to the
policy.  A session of a store and a publisher with separate states is one in the world of both.
How a request leaves the store does not depend on the publisher. -/
theorem session_follows_policy :
    (∀ {ω : Type} (repo : Repository ω) (bus : Publisher ω) (rs : List (Context × Request)) (w : ω),
      ∃ visits : List Visit,
        visits.map (fun v => (v.context, v.request)) = rs ∧
        worldAfter repo.journalled bus.journalled rs (w, []) =
          (worldAfter repo bus rs w, visits.flatMap Visit.exchanges) ∧
        (sharedSession repo bus rs w).map Run.answer = visits.map Visit.answer ∧
        ∀ v ∈ visits, Follows v.context v.request v.exchanges v.answer) ∧
    (∀ {σ π : Type} (repo : Repository σ) (bus : Publisher π) (rs : List (Context × Request))
      (s : σ) (p : π),
      session repo bus rs s p = (sharedSession repo.first bus.second rs (s, p)).map Run.apart) ∧
    ∀ {σ π : Type} (repo : Repository σ) (bus : Publisher π) (c : Context) (r : Request) (s : σ)
      (p p' : π), (run repo bus c r s p).store = (run repo bus c r s p').store := by
  refine ⟨?_, session_eq_shared, store_run⟩
  intro ω repo bus rs w
  obtain ⟨visits, hrequests, hworld, hanswers, hfollow⟩ :=
    worldAfter_journalled repo bus rs w []
  exact ⟨visits, hrequests, by rw [hworld, List.nil_append], hanswers, hfollow⟩

end Service
end UserDirectory
