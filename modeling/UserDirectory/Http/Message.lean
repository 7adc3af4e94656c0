import UserDirectory.DomainError
import UserDirectory.Http.Target
import UserDirectory.Json.Value

/-!
# Http.Message — requests and responses

* `Request`, `Response`: what comes in and what goes out.
* `Response.json`, `Response.ofError`: responses with a JSON body.
-/

namespace UserDirectory.Http

/-- A request; path, query and body are as they were sent. -/
structure Request where
  method : String
  target : Target
  headers : List (String × String)
  body : List UInt8
deriving Repr

/-- A response, with the headers that it may have. -/
structure Response where
  status : Nat
  contentType : Option String
  cacheControl : Option String
  trace : Option String
  body : String
deriving DecidableEq, Repr

namespace Request

/-- The first value of a header; names are the same in either case. -/
def header? (r : Request) (name : String) : Option String :=
  (r.headers.find? fun h => h.1.toLower == name).map (·.2)

/-- Whether a text has printing characters of ASCII, blanks and tabs only. -/
def isPlain (s : String) : Bool :=
  s.toList.all fun c => c == '\t' || (0x20 ≤ c.toNat && c.toNat < 0x7F)

/-- The first value of a header, if it is plain. -/
def plainHeader? (r : Request) (name : String) : Option String := (r.header? name).filter isPlain

end Request

namespace Response

/-- A response without a body. -/
def bare (status : Nat) : Response := ⟨status, none, none, none, ""⟩

/-- The content type of JSON bodies. -/
def jsonType : String := "application/json"

/-- A response with a JSON body. -/
def json (status : Nat) (v : Json) : Response := ⟨status, some jsonType, none, none, v.text⟩

/-- The response for a path or a method that there is nothing for. -/
def nothing : Response := bare 404

/-- The status of a failure. -/
def statusOf : ErrorCode → Nat
  | .invalidRequest => 400
  | .notFound => 404
  | .internal => 500

/-- Whether a text can be the value of a header: it has no control characters but tabs. -/
def isHeaderText (s : String) : Bool :=
  s.toList.all fun c => c == '\t' || (0x20 ≤ c.toNat && c.toNat != 0x7F)

/-- The response when a header cannot be written. -/
def badHeader : Response :=
  ⟨500, some "text/plain; charset=utf-8", none, none, "failed to parse header value"⟩

/-- The body of a response to a failure. -/
def errorBody (message : String) : Json := .object [("error", .string message)]

/-- The response to a failure: its status, its message, and the identifier of its request. -/
def ofError (e : DomainError) : Response :=
  match e.trace with
  | none => json (statusOf e.code) (errorBody e.message)
  | some trace =>
    if isHeaderText trace then
      { json (statusOf e.code) (errorBody e.message) with trace := some trace }
    else badHeader

end Response
end UserDirectory.Http
