import UserDirectory.Proofs.Http.Interpretation
import UserDirectory.Proofs.Service.Failure

/-!
# Proofs.Http.Failure — requests over HTTP that change nothing

* `failed_respond_iff`: the status of a response is 400 or above iff the service failed.
* `Interprets.reads`, `Interprets.creates`: what the methods `GET` and `POST` allow.
* `act_failed`, `act_reads`: whatever a request asks for, everything stays as it was if the
  response tells a failure or if nothing is asked for but to read.
* `handle_failed_frame`: so it does for every request over HTTP.
-/

namespace UserDirectory.Http

open Service (Answer Context Reads)

/-! ## Statuses -/

theorem failed_ofError (e : DomainError) : 400 ≤ (Response.ofError e).status := by
  have hstatus : 400 ≤ Response.statusOf e.code := by
    cases e.code <;> decide
  unfold Response.ofError
  cases e.trace with
  | none => exact hstatus
  | some trace =>
    dsimp only
    split
    · exact hstatus
    · show 400 ≤ 500
      decide

theorem respond_ok_lt (r : Service.Request) (a : Answer) : (respond r (.ok a)).status < 400 := by
  cases a with
  | user u =>
    have hstatus : (respond r (.ok (.user u))).status = 201 ∨
        (respond r (.ok (.user u))).status = 200 := by
      cases r with
      | create _ => exact .inl rfl
      | get _ | update _ _ | delete _ | list _ => exact .inr rfl
    omega
  | users us =>
    show 200 < 400
    decide
  | done =>
    show 204 < 400
    decide

/-- **The status tells failures**: it is 400 or above for them, and below for every answer. -/
theorem failed_respond_iff {r : Service.Request} {answer : Except DomainError Answer} :
    400 ≤ (respond r answer).status ↔ ∃ e, answer = .error e := by
  cases answer with
  | error e => exact ⟨fun _ => ⟨e, rfl⟩, fun _ => failed_ofError e⟩
  | ok a =>
    have hlt := respond_ok_lt r a
    refine ⟨fun h => by omega, ?_⟩
    rintro ⟨e, h⟩
    cases h

/-! ## What a method allows -/

/-- A `GET` asks the service at most for something to be read. -/
theorem Interprets.reads {r : Request} {q : Service.Request} (h : Interprets r (.users q))
    (hmethod : r.method = "GET") : Reads q := by
  cases h with
  | list _ => exact .list _
  | get _ => exact .get _
  | create hother | update hother | delete hother =>
    rw [hmethod] at hother
    exact absurd hother (by decide)

/-- A `POST` asks the service at most for an account. -/
theorem Interprets.creates {r : Request} {q : Service.Request} (h : Interprets r (.users q))
    (hmethod : r.method = "POST") : ∃ details, q = .create details := by
  cases h with
  | create _ => exact ⟨_, rfl⟩
  | list hother | get hother | update hother | delete hother =>
    rw [hmethod] at hother
    exact absurd hother (by decide)

/-! ## Actions -/

section Actions

variable {π : Type} (bus : Publisher π) (health : Health) {c : Context} {a : Action} {s : Store}
  {p : π}

/-- An action whose response tells a failure changes nothing. -/
theorem act_failed (h : 400 ≤ ((App.mk .memory bus health).act c a s p).response.status) :
    ((App.mk .memory bus health).act c a s p).store = s ∧
      ((App.mk .memory bus health).act c a s p).bus = p := by
  cases a with
  | users r =>
    obtain ⟨e, hanswer⟩ := failed_respond_iff.mp h
    exact Service.run_failed bus hanswer
  | nothing | refuse _ | ready | live => exact ⟨rfl, rfl⟩

/-- An action that only reads, or that is none of the service's, changes nothing. -/
theorem act_reads (h : ∀ r, a = .users r → Reads r) :
    ((App.mk .memory bus health).act c a s p).store = s ∧
      ((App.mk .memory bus health).act c a s p).bus = p := by
  cases a with
  | users r => exact Service.run_reads bus (h r rfl)
  | nothing | refuse _ | ready | live => exact ⟨rfl, rfl⟩

/-- A creation that draws an identifier which is taken changes nothing. -/
theorem act_taken (htaken : s.contains c.freshId = true)
    (h : ∀ r, a = .users r → ∃ details, r = .create details) :
    ((App.mk .memory bus health).act c a s p).store = s ∧
      ((App.mk .memory bus health).act c a s p).bus = p := by
  cases a with
  | users r =>
    obtain ⟨details, rfl⟩ := h r rfl
    obtain ⟨hanswer, -, -⟩ :=
      Service.run_memory (c := c) (r := .create details) (s := s) (p := p) bus
    obtain ⟨e, he⟩ := Service.create_taken details htaken
    exact Service.run_failed bus (hanswer.trans he)
  | nothing | refuse _ | ready | live => exact ⟨rfl, rfl⟩

end Actions

/-! ## Requests -/

/-- **Failed requests leave everything as it was**: whatever documents are stored, whether or not
they describe accounts, and whatever is sent, the documents and the publisher are as they were
before if the status is 400 or above, and after every `GET`.  The state of the publisher is as it
was, so nothing was announced.  A creation that draws an identifier which is taken leaves the
document there alone. -/
theorem handle_failed_frame {π : Type} (bus : Publisher π) (health : Health) (bodies : Bodies)
    (trace : Uuid) (now : Instant) (freshId : Uuid) (r : Request) (s : Store) (p : π) :
    let handled := (App.mk .memory bus health).handle bodies trace now freshId r s p
    (400 ≤ handled.response.status ∨ r.method = "GET" → handled.store = s ∧ handled.bus = p) ∧
      (r.method = "POST" → s.contains freshId = true → handled.store = s ∧ handled.bus = p) := by
  refine ⟨?_, ?_⟩
  · rintro (hfailed | hget)
    · exact act_failed bus health hfailed
    · exact act_reads bus health fun q hq => (hq ▸ interprets bodies r).reads hget
  · intro hpost htaken
    exact act_taken bus health htaken fun q hq => (hq ▸ interprets bodies r).creates hpost

/-- A creation that draws the identifier of a document which describes no account, and a request
for that document. -/
theorem handle_failed_frame_undecodable :
    let id : Uuid := ⟨7, by decide⟩
    let now : Instant := ⟨0, 0, by decide, by decide⟩
    let s : Store := Keyed.empty.insert id (.ofList [("first_name", .null)])
    let app : App Store (List Event) := ⟨.memory, .recording, .starting ⟨"users", "1"⟩⟩
    let body := "\x7b\"first_name\":\"A\",\"last_name\":\"B\",\"nickname\":\"C\"," ++
      "\"password\":\"D\",\"email\":\"e@example.com\",\"country\":\"F\"\x7d"
    let post : Request :=
      ⟨"POST", ⟨"/v1/users".toList, []⟩, [("Content-Type", "application/json")],
        Text.octets body.toList⟩
    let get : Request :=
      ⟨"GET", ⟨"/v1/users/00000000-0000-0000-0000-000000000007".toList, []⟩, [], []⟩
    let created := app.handle .plain id now id post s []
    let found := app.handle .plain id now id get s []
    (created.response.status = 500 ∧ created.store = s ∧ created.bus = []) ∧
      (found.response.status = 500 ∧ found.store = s ∧ found.bus = []) := by
  intro id now s app body post get created found
  have hcreated : created.response.status = 500 := by decide +kernel
  have hfound : found.response.status = 500 := by decide +kernel
  have hfailed : 400 ≤ found.response.status := by
    rw [hfound]
    decide
  have hframe := handle_failed_frame .recording (.starting ⟨"users", "1"⟩) .plain id now id
  refine ⟨⟨hcreated, ?_⟩, ⟨hfound, ?_⟩⟩
  · exact (hframe post s []).2 rfl rfl
  · exact (hframe get s []).1 (.inl hfailed)

end UserDirectory.Http
