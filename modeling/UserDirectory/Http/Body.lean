import UserDirectory.Http.MediaType
import UserDirectory.Http.Message
import UserDirectory.Text.Unicode
import UserDirectory.User.Details

/-!
# Http.Body — the details in the body of a request

* `Coding.ofHeader`: the coding that a header names; a name that is none leaves a body as it is.
* `Bodies`: what the server knows about bodies besides: how they are decoded, and what it reads in
  bytes that are no text.
* `Bodies.readDetails`: the details in a body, or why it is refused.
-/

namespace UserDirectory.Http

/-! ## Codings -/

/-- How a body is coded. -/
inductive Coding where
  | identity
  | brotli
  | deflate
  | gzip
  | zstd
deriving DecidableEq, Repr

namespace Coding

/-- The coding with a name, in either case and with blanks around it. -/
def ofName? (name : List Char) : Option Coding :=
  match String.ofList ((Text.trim name).map Char.toLower) with
  | "identity" => some .identity
  | "br" => some .brotli
  | "deflate" => some .deflate
  | "gzip" => some .gzip
  | "zstd" => some .zstd
  | _ => none

/-- The coding that a header names; without a header, or with an unknown name, there is none. -/
def ofHeader (value : Option String) : Coding :=
  (value.bind fun name => ofName? name.toList).getD .identity

end Coding

/-- What a decoder hands on, and what it finds wrong in the end, if anything. -/
structure Decoded where
  bytes : List UInt8
  fault? : Option String
deriving DecidableEq, Repr

/-- What a server knows about bodies: the decoders of all codings but `identity`, and the details
that it reads in bytes that are no text, or the words for what is wrong with them.  Such bytes are
not refused for that alone: they may stand in a value that nothing is read from. -/
structure Bodies where
  decoder : Coding → List UInt8 → Decoded
  reader : List UInt8 → Except String Details

/-! ## Details -/

/-- The greatest number of bytes of a JSON body. -/
def maxBody : Nat := 2097152

/-- Why a JSON body is refused. -/
inductive BodyFault where
  | contentType
  | tooLarge (bytes : Nat)
  | coding (reason : String)
  | tooLong
  | json (reason : String)
deriving DecidableEq, Repr

/-- The words for a fault. -/
def BodyFault.message : BodyFault → String
  | .contentType => "Content type error"
  | .tooLarge n =>
    "JSON payload (" ++ n.repr ++ " bytes) is larger than allowed (limit: " ++ maxBody.repr
      ++ " bytes)."
  | .coding reason =>
    "Error that occur during reading payload: payload reached EOF before completing: Some("
      ++ reason ++ ")"
  | .tooLong => "JSON payload has exceeded limit (" ++ maxBody.repr ++ " bytes)."
  | .json reason => "Json deserialize error: " ++ reason

namespace Bodies

/-- A server that decodes nothing and reads texts only. -/
def plain : Bodies where
  decoder _ _ := ⟨[], some "Kind(Unsupported)"⟩
  reader _ := .error "invalid unicode code point"

variable (bodies : Bodies)

/-- A body without its coding. -/
def decode (c : Coding) (body : List UInt8) : Decoded :=
  match c with
  | .identity => ⟨body, none⟩
  | c => bodies.decoder c body

/-- The details in a body without its coding. -/
def details (body : List UInt8) : Except BodyFault Details :=
  match Text.ofOctets? body with
  | some t => (Details.ofText t).mapError fun f => .json (f.message t)
  | none => (bodies.reader body).mapError .json

/-- The details in the body of a request: its type is checked first, then its size, then its
coding, and how far it gets without the coding. -/
def readDetails (r : Request) : Except BodyFault Details :=
  let type := r.plainHeader? "content-type"
  if !(type.map MediaType.isJsonHeader).getD false then .error .contentType
  else if maxBody < r.body.length then .error (.tooLarge r.body.length)
  else
    let decoded := bodies.decode (Coding.ofHeader (r.plainHeader? "content-encoding")) r.body
    if maxBody < decoded.bytes.length then .error .tooLong
    else
      match decoded.fault? with
      | some reason => .error (.coding reason)
      | none => bodies.details decoded.bytes

end Bodies
end UserDirectory.Http
