import UserDirectory.Http.Message
import UserDirectory.Proofs.Json.Text
import UserDirectory.Proofs.Uuid

/-!
# Proofs.Http.Rendering — failures on their way into responses

* `Making`: the ways in which a failure can come about.  It is raised inside any number of scopes,
  and texts are attached to it inside or outside of them.
* `Making.run_eq`: the failure has the code and the message that it was raised with, and the text
  that was attached last or else the identifier of the innermost scope; the scopes are left again.
* `Response.Renders`: a response that tells a failure and nothing else.
* `made_renders`: every failure is rendered so, unless the text attached to it cannot be the value
  of a header.
-/

namespace UserDirectory

/-! ## Making failures -/

/-- How a failure comes about. -/
inductive Making where
  | raise (code : ErrorCode) (message : String)
  | hidden
  | within (id : Uuid) (m : Making)
  | attach (text : String) (m : Making)
deriving DecidableEq, Repr

namespace Making

/-- The failure that comes about. -/
def run : Making → Traced DomainError
  | raise code message => DomainError.raise code message
  | hidden => DomainError.raiseHidden
  | within id m => Trace.within id m.run
  | attach text m => return (← m.run).withTrace text

/-- The code that the failure is raised with. -/
def code : Making → ErrorCode
  | raise code _ => code
  | hidden => .internal
  | within _ m => m.code
  | attach _ m => m.code

/-- The message that the failure is raised with. -/
def message : Making → String
  | raise _ message => message
  | hidden => "Internal server error"
  | within _ m => m.message
  | attach _ m => m.message

/-- The text that is attached last. -/
def attached : Making → Option String
  | raise _ _ => none
  | hidden => none
  | within _ m => m.attached
  | attach text _ => some text

/-- The identifier of the innermost scope around the place where the failure is raised, inside
scopes of which the first is the innermost. -/
def scope (ids : List Uuid) : Making → Option Uuid
  | raise _ _ => ids.head?
  | hidden => ids.head?
  | within id m => m.scope (id :: ids)
  | attach _ m => m.scope ids

/-- The text by which the request of the failure is told. -/
def trace (ids : List Uuid) (m : Making) : Option String :=
  m.attached.or ((m.scope ids).map Uuid.toString)

/-- **Failures keep what they were made with**, and all scopes are left again. -/
theorem run_eq (m : Making) (ids : List Uuid) :
    m.run.run ids = (⟨m.code, m.message, m.trace ids⟩, ids) := by
  induction m generalizing ids with
  | raise code message => rfl
  | hidden => rfl
  | within id m ih =>
    have hwithin : (within id m).run.run ids =
        ((m.run.run (id :: ids)).1, (m.run.run (id :: ids)).2.tail) := rfl
    rw [hwithin, ih (id :: ids)]
    rfl
  | attach text m ih =>
    have hattach : (attach text m).run.run ids =
        ((m.run.run ids).1.withTrace text, (m.run.run ids).2) := rfl
    rw [hattach, ih ids]
    rfl

end Making

/-! ## Texts of headers -/

/-- Identifiers can be the values of headers. -/
theorem Uuid.isHeaderText_toString (u : Uuid) : Http.Response.isHeaderText u.toString = true := by
  have hdigit : ∀ d < 16, 0x20 ≤ (Text.hexDigit d).toNat ∧ (Text.hexDigit d).toNat < 0x7F := by
    decide
  unfold Http.Response.isHeaderText Uuid.toString
  rw [String.toList_ofList, List.all_eq_true]
  intro c hc
  rcases hyphen_or_digit_of_mem_text hc with rfl | hc
  · rfl
  · obtain ⟨d, hd, rfl⟩ := Text.hexDigit_of_mem_fixedHex hc
    obtain ⟨hlow, hhigh⟩ := hdigit d hd
    simp only [Bool.or_eq_true, Bool.and_eq_true, decide_eq_true_eq, bne_iff_ne]
    exact .inr ⟨hlow, by omega⟩

namespace Http

namespace Response

/-- A response that tells a failure and nothing else: its code as the status, its message as the
one member of the body, and one text for its request or none. -/
structure Renders (r : Response) (code : ErrorCode) (message : String) (trace : Option String) :
    Prop where
  status : r.status = statusOf code
  body : Json.parse r.body.toList = .ok (.object [("error", .string message)])
  trace : r.trace = trace

/-- The body tells the message, whatever characters it has. -/
theorem parse_errorBody (message : String) :
    Json.parse (errorBody message).text.toList = .ok (.object [("error", .string message)]) :=
  Json.parse_text (.texts [("error", message)])

/-- A failure whose text can be the value of a header is rendered. -/
theorem renders_ofError {e : DomainError} (h : ∀ text, e.trace = some text → isHeaderText text) :
    (ofError e).Renders e.code e.message e.trace := by
  have hbody := parse_errorBody e.message
  unfold ofError
  cases htrace : e.trace with
  | none => exact ⟨rfl, hbody, rfl⟩
  | some text =>
    dsimp only
    rw [if_pos (h text htrace)]
    exact ⟨rfl, hbody, rfl⟩

end Response

/-- A text with a line break in it is attached to a failure: neither the status nor the text is
told. -/
theorem attached_line_break :
    let m : Making := .attach "a\nb" (.raise .notFound "user not found")
    let e := (m.run.run []).1
    ¬ (Response.ofError e).Renders .notFound "user not found" (some "a\nb") := by
  intro m e h
  exact absurd h.status (by decide)

/-- **Rendering a failure keeps its meaning.**  However a failure comes about, it has the code and
the message that it was raised with, and no scope is left over.  Unless the text that was attached
last cannot be the value of a header, its response has the status of its code, a body that reads as
its message, and the text that was attached last or else the identifier of the innermost scope. -/
theorem made_renders (m : Making) :
    ∃ e, m.run.run [] = (e, []) ∧ e.code = m.code ∧ e.message = m.message ∧
      ((∀ text, m.attached = some text → Response.isHeaderText text) →
        (Response.ofError e).Renders m.code m.message
          (m.attached.or ((m.scope []).map Uuid.toString))) := by
  refine ⟨_, m.run_eq [], rfl, rfl, ?_⟩
  intro hattached
  refine Response.renders_ofError fun text htext => ?_
  cases ha : m.attached with
  | some attached =>
    rw [Making.trace, ha, Option.some_or, Option.some.injEq] at htext
    rw [← htext]
    exact hattached attached ha
  | none =>
    rw [Making.trace, ha, Option.none_or, Option.map_eq_some_iff] at htext
    obtain ⟨id, -, rfl⟩ := htext
    exact id.isHeaderText_toString

/-- A failure in two scopes with a message that has to be escaped, and a text that is attached in
the outer one. -/
theorem made_renders_escaped :
    let m : Making := .within ⟨1, by decide⟩ (.attach "a\tb"
      (.within ⟨2, by decide⟩ (.raise .invalidRequest "\"\\\n\x01¿𝄞")))
    ∃ e, m.run.run [] = (e, []) ∧ (Response.ofError e).Renders .invalidRequest
      "\"\\\n\x01¿𝄞" (some "a\tb") := by
  intro m
  obtain ⟨e, hrun, -, -, hrenders⟩ := made_renders m
  refine ⟨e, hrun, hrenders ?_⟩
  intro text htext
  cases htext
  decide

end Http
end UserDirectory
