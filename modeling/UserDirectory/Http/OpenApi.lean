import UserDirectory.Http.Route
import UserDirectory.Json.Value
import UserDirectory.Listing.Query

/-!
# Http.OpenApi — the description of the interface

`OpenApi.document` is an OpenAPI 3.1 document: the operations with their parameters, bodies and
responses, and the schemas of the values that they exchange.
-/

namespace UserDirectory.Http.OpenApi

/-! ## Schemas -/

/-- A text that may be described, be of a format and have an example. -/
structure TextSchema where
  format : Option String
  description : Option String
  example? : Option String

/-- A member that is present only if there is a text for it. -/
def optional (name : String) (text : Option String) : List (String × Json) :=
  (text.map fun t => (name, Json.string t)).toList

/-- The schema of a text. -/
def TextSchema.toJson (s : TextSchema) : Json :=
  .object (("type", .string "string") :: optional "format" s.format
    ++ optional "description" s.description ++ optional "example" s.example?)

/-- The schema of any text. -/
def anyText : Json := TextSchema.toJson ⟨none, none, none⟩

/-- The schema of a text with a description and an example. -/
def described (description : String) (ex : String) : Json :=
  TextSchema.toJson ⟨none, some description, some ex⟩

/-- The schema of a text of a format. -/
def formatted (format : String) (ex : String) : Json :=
  TextSchema.toJson ⟨some format, none, some ex⟩

/-- A schema by its name. -/
def ref (name : String) : Json :=
  .object [("$ref", .string ("#/components/schemas/" ++ name))]

/-- A list of names. -/
def names (ns : List String) : Json := .array (ns.map .string)

/-- The schema of an object; members that have to be there are named. -/
def objectOf (description : Option String) (required : List String)
    (properties : List (String × Json)) : Json :=
  .object (("type", .string "object") :: optional "description" description
    ++ (if required.isEmpty then [] else [("required", names required)])
    ++ [("properties", .object properties)])

/-- The schema of the details of an account. -/
def userDetails : Json :=
  objectOf
    (some ("Client-editable user fields as received from a request body.\n\n"
      ++ "Values are not validated on construction; run them through\n"
      ++ "[`validate_user_details`] before they reach the store."))
    []
    [("first_name", described "Given name." "Frank"),
      ("last_name", described "Family name." "Castle"),
      ("nickname", described "Public nickname." "punisher"),
      ("password", described "Opaque password string." "s3cr3t"),
      ("email", described "Mailbox address." "frank.castle@example.com"),
      ("country", described "Country code or name." "US")]

/-- An instant as an example. -/
def exampleTime : String := "2024-05-01T10:15:30.123Z"

/-- The schema of an account: its details, and what the service adds to them. -/
def user : Json :=
  .object [("allOf", .array [ref "UserDetails",
      objectOf none ["id", "created_at", "updated_at"]
        [("id", formatted "uuid" "3fa85f64-5717-4562-b3fc-2c963f66afa6"),
          ("created_at", formatted "date-time" exampleTime),
          ("updated_at", formatted "date-time" exampleTime)]]),
    ("description", .string ("Application user.\n\n## Invariants\n"
      ++ "- all six textual fields are non-empty and `email` is a valid mailbox.\n"
      ++ "- timestamps are truncated to millisecond precision.\n\n"
      ++ "Deserialisation enforces the same invariants, so a stored document that\n"
      ++ "violates them fails to decode."))]

/-- The schema of the body of a failure. -/
def errorBody : Json :=
  objectOf (some "JSON body returned for every failed request.") ["error"]
    [("error", described "Client-facing message." "user not found")]

/-- The schema of the verdict on readiness. -/
def readinessStatus : Json :=
  .object [("type", .string "string"), ("description", .string "Overall readiness verdict."),
    ("enum", names ["OK", "Unavailable"])]

/-- The schema of the name and the version of the service. -/
def componentInfo : Json :=
  objectOf (some "Name and version of the running service.") ["name", "version"]
    [("name", anyText), ("version", anyText)]

/-- The schema of a report on readiness. -/
def readinessReport : Json :=
  objectOf (some "Body returned by `GET /health/ready`.") ["status", "component", "failures"]
    [("status", ref "ReadinessStatus"), ("component", ref "ComponentInfo"),
      ("failures", .object [("type", .string "object"),
        ("description", .string "Failing checks keyed by name."),
        ("additionalProperties", anyText), ("propertyNames", anyText)])]

/-! ## Operations -/

/-- A response: its status, what it means, and the schema of its body. -/
structure ResponseDoc where
  status : Nat
  meaning : String
  body : Option Json

/-- What a request can be made for at a path. -/
structure Operation where
  method : String
  tag : String
  summary : String
  description : Option String
  id : String
  parameters : List Json
  body : Option Json
  responses : List ResponseDoc

/-- A JSON body with a schema. -/
def jsonContent (schema : Json) : Json :=
  .object [("application/json", .object [("schema", schema)])]

/-- A response as a member of the responses. -/
def ResponseDoc.member (r : ResponseDoc) : String × Json :=
  (r.status.repr,
    .object (("description", .string r.meaning)
      :: (r.body.map fun schema => ("content", jsonContent schema)).toList))

/-- The member for a body that has to be there. -/
def requestBody (schema : Json) : String × Json :=
  ("requestBody", .object [("content", jsonContent schema), ("required", .bool true)])

/-- An operation as a member of its path. -/
def Operation.member (o : Operation) : String × Json :=
  (o.method,
    .object ([("tags", names [o.tag]), ("summary", .string o.summary)]
      ++ optional "description" o.description
      ++ [("operationId", .string o.id)]
      ++ (if o.parameters.isEmpty then [] else [("parameters", .array o.parameters)])
      ++ (o.body.map requestBody).toList
      ++ [("responses", .object (o.responses.map ResponseDoc.member))]))

/-- The failures that an operation can end in, in ascending order. -/
def failures (notFound : Bool) : List ResponseDoc :=
  [⟨400, "Invalid request", some (ref "ErrorBody")⟩]
    ++ (if notFound then [⟨404, "Not found", some (ref "ErrorBody")⟩] else [])
    ++ [⟨500, "Internal server error", some (ref "ErrorBody")⟩]

/-- The parameter that names an account in a path. -/
def idParameter : Json :=
  .object [("name", .string "id"), ("in", .string "path"),
    ("description", .string "User identifier (UUID)"), ("required", .bool true),
    ("schema", anyText)]

/-- A parameter in the query of a listing. -/
def queryParameter (name description : String) (ex : Option String) : Json :=
  .object ([("name", .string name), ("in", .string "query"),
    ("description", .string description), ("required", .bool false), ("schema", anyText)]
      ++ optional "example" ex)

/-- The parameters of a listing. -/
def listParameters : List Json :=
  [queryParameter "pageSize" "Number of users per page (default 20, `0` means no limit)."
      (some "20"),
    queryParameter "page" "Zero-based page index (default 0)." (some "0"),
    queryParameter "sortBy" "`<field>.<asc|desc>`, e.g. `nickname.desc`."
      (some "last_name.asc"),
    queryParameter "first_name" "Exact-match first name." none,
    queryParameter "last_name" "Exact-match last name." none,
    queryParameter "nickname" "Exact-match nickname." none,
    queryParameter "email" "Exact-match email." none,
    queryParameter "country" "Exact-match country." none]

/-- Creating an account. -/
def createUser : Operation where
  method := "post"
  tag := "users"
  summary := "Create a user."
  description := none
  id := "createUser"
  parameters := []
  body := some (ref "UserDetails")
  responses := ⟨201, "User created", some (ref "User")⟩ :: failures false

/-- Listing accounts. -/
def listUsers : Operation where
  method := "get"
  tag := "users"
  summary := "List users with filtering, sorting and pagination."
  description := some ("# Examples\n```\nuse actix_web::App;\n"
    ++ "use user_service::inbound::http::users::list_users;\n\n"
    ++ "let app = App::new().service(list_users);\n```")
  id := "listUsers"
  parameters := listParameters
  body := none
  responses :=
    ⟨200, "Users", some (.object [("type", .string "array"), ("items", ref "User")])⟩
      :: failures false

/-- Reading an account. -/
def getUser : Operation where
  method := "get"
  tag := "users"
  summary := "Fetch one user."
  description := none
  id := "getUser"
  parameters := [idParameter]
  body := none
  responses := ⟨200, "User", some (ref "User")⟩ :: failures true

/-- Replacing the details of an account. -/
def updateUser : Operation where
  method := "put"
  tag := "users"
  summary := "Replace the editable fields of a user."
  description := some ("The body is validated before the path id is parsed, so a request that is\n"
    ++ "wrong in both places reports the body error.")
  id := "updateUser"
  parameters := [idParameter]
  body := some (ref "UserDetails")
  responses := ⟨204, "User updated", none⟩ :: failures true

/-- Deleting an account. -/
def deleteUser : Operation where
  method := "delete"
  tag := "users"
  summary := "Delete a user."
  description := none
  id := "deleteUser"
  parameters := [idParameter]
  body := none
  responses := ⟨204, "User deleted", none⟩ :: failures true

/-- Asking whether the service is ready. -/
def ready : Operation where
  method := "get"
  tag := "health"
  summary := "Readiness probe. Return 200 when the server is ready and its dependencies\n"
    ++ "answer; return 503 with the failing checks otherwise."
  description := none
  id := "ready"
  parameters := []
  body := none
  responses :=
    [⟨200, "Server is ready to handle traffic", some (ref "ReadinessReport")⟩,
      ⟨503, "Server is not ready", some (ref "ReadinessReport")⟩]

/-- Asking whether the service is alive. -/
def live : Operation where
  method := "get"
  tag := "health"
  summary := "Liveness probe. Return 200 while the process is marked alive and 503 once draining.\n"
    ++ "Call `HealthState::mark_unhealthy` before graceful shutdown to surface the drain early."
  description := none
  id := "live"
  parameters := []
  body := none
  responses := [⟨200, "Server is alive", none⟩, ⟨503, "Server is shutting down", none⟩]

/-! ## The document -/

/-- The operations at a place. -/
def pathItem (r : Route) (operations : List Operation) : String × Json :=
  (String.ofList r.pattern, .object (operations.map Operation.member))

/-- Something with a name and a description. -/
def tag (name description : String) : Json :=
  .object [("name", .string name), ("description", .string description)]

/-- The description of the interface. -/
def document : Json :=
  .object [("openapi", .string "3.1.0"),
    ("info", .object [("title", .string "User service API"),
      ("description",
        .string "CRUD interface for users, with readiness and liveness probes."),
      ("license", .object [("name", .string "")]), ("version", .string "0.1.0")]),
    ("servers", .array [.object [("url", .string "/"),
      ("description", .string "Relative to the deployment base URL")]]),
    ("paths", .object [pathItem .ready [ready], pathItem .live [live],
      pathItem .users [listUsers, createUser],
      pathItem (.user []) [getUser, updateUser, deleteUser]]),
    ("components", .object [("schemas", .object [("ComponentInfo", componentInfo),
      ("ErrorBody", errorBody), ("ReadinessReport", readinessReport),
      ("ReadinessStatus", readinessStatus), ("User", user), ("UserDetails", userDetails)])]),
    ("tags", .array [tag "users" "Operations related to users",
      tag "health" "Endpoints for health checks"])]

end UserDirectory.Http.OpenApi
