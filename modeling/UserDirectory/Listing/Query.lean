import UserDirectory.Json.Record
import UserDirectory.Listing.Field
import UserDirectory.Number
import UserDirectory.Text.Unicode
import UserDirectory.Url.Form

/-!
# Listing.Query — what a client asks a listing for

* `Params`: the eight parameters as texts, each of which may be absent.
* `Query`: the page, the sort and the filter that they ask for.
* `Params.ofForm`: the parameters among the names and values in the query of a URL.  Other names
  may be there and may repeat; a parameter may not.
* `Query.ofParams`: checks page size, page and sort, in this order; filters are taken as they are.
-/

namespace UserDirectory.Listing

/-- The texts that members have to equal; an absent one asks for nothing. -/
structure Filter where
  firstName : Option String
  lastName : Option String
  nickname : Option String
  email : Option String
  country : Option String
deriving DecidableEq, Repr

/-- The filter that asks for nothing. -/
def Filter.none : Filter := ⟨.none, .none, .none, .none, .none⟩

/-- The parameters of a listing as they were sent. -/
structure Params where
  pageSize : Option String
  page : Option String
  sortBy : Option String
  filter : Filter
deriving DecidableEq, Repr

/-- A page of a sorted and filtered listing. -/
structure Query where
  pageSize : Int
  page : Int
  sortField : String
  sortDirection : String
  filter : Filter
deriving DecidableEq, Repr

/-! ## Defaults -/

/-- The number of accounts on a page. -/
def defaultPageSize : Nat := 20

/-- The first page. -/
def defaultPage : Nat := 0

/-- The member by which a listing is sorted. -/
def defaultSortField : String := "last_name"

/-- The members by which a client may ask for a listing to be sorted. -/
def sortableFields : List String :=
  ["first_name", "last_name", "nickname", "password", "email", "country", "created_at",
    "updated_at"]

/-- The listing that no parameter asks for. -/
def Query.default : Query :=
  ⟨defaultPageSize, defaultPage, defaultSortField, "asc", .none⟩

/-! ## Faults -/

/-- What can be wrong with the parameters. -/
inductive ParamFault where
  | pageSizeNotNumber
  | pageSizeNegative
  | pageNotNumber
  | pageNegative
  | sortFormat
  | sortField
  | sortDirection
deriving DecidableEq, Repr

/-- The words for a fault. -/
def ParamFault.message : ParamFault → String
  | .pageSizeNotNumber => "pageSize query parameter has to be a number"
  | .pageSizeNegative => "pageSize query parameter has to be a positive number"
  | .pageNotNumber => "page query parameter has to be a number"
  | .pageNegative => "page query parameter has to be a positive number"
  | .sortFormat => "invalid sortBy query parameter format"
  | .sortField => "unsupported sorting field"
  | .sortDirection => "invalid sorting type"

/-! ## Reading parameters -/

/-- An integer of 64 bits, with or without a sign. -/
def int64? (t : List Char) : Option Int :=
  (Text.integer? (twoPow 64) t).filter (fitsSigned 64)

/-- A number that is not negative, or what stands for an absent one. -/
def readCount (default : Nat) (notNumber negative : ParamFault) :
    Option String → Except ParamFault Int
  | none => .ok default
  | some s =>
    match int64? s.toList with
    | none => .error notNumber
    | some v => if v < 0 then .error negative else .ok v

/-- A sort, written as the member, a point and the direction, in either case. -/
def readSort (s : String) : Except ParamFault (String × String) :=
  match (Text.lower s.toList).splitOn '.' with
  | [field, direction] =>
    let field := String.ofList field
    let direction := String.ofList direction
    if !sortableFields.contains field then .error .sortField
    else if direction ≠ "asc" ∧ direction ≠ "desc" then .error .sortDirection
    else .ok (field, direction)
  | _ => .error .sortFormat

/-- The listing that the parameters ask for. -/
def Query.ofParams (p : Params) : Except ParamFault Query := do
  let pageSize ← readCount defaultPageSize .pageSizeNotNumber .pageSizeNegative p.pageSize
  let page ← readCount defaultPage .pageNotNumber .pageNegative p.page
  let (field, direction) ←
    match p.sortBy with
    | some s => readSort s
    | none => .ok (Query.default.sortField, Query.default.sortDirection)
  return ⟨pageSize, page, field, direction, p.filter⟩

/-! ## Parameters as a record -/

namespace Params

/-- Parameters that are all absent. -/
def empty : Params := ⟨none, none, none, .none⟩

/-- A parameter by its name. -/
def field (name : String) (get : Params → Option String) (set : String → Params → Params) :
    Json.Field Params where
  name := name
  expected := "a string"
  isSet p := (get p).isSome
  set s p := .ok (set s p)

/-- A parameter that filters. -/
def filterField (f : FilterField) (get : Filter → Option String)
    (set : String → Filter → Filter) : Json.Field Params :=
  field f.name (fun p => get p.filter) fun s p => { p with filter := set s p.filter }

/-- The eight parameters in order. -/
def shape : Json.Shape Params where
  name := "ListUsersParams"
  fields :=
    [field "pageSize" Params.pageSize fun s p => { p with pageSize := some s },
      field "page" Params.page fun s p => { p with page := some s },
      field "sortBy" Params.sortBy fun s p => { p with sortBy := some s },
      filterField .firstName Filter.firstName fun s f => { f with firstName := some s },
      filterField .lastName Filter.lastName fun s f => { f with lastName := some s },
      filterField .nickname Filter.nickname fun s f => { f with nickname := some s },
      filterField .email Filter.email fun s f => { f with email := some s },
      filterField .country Filter.country fun s f => { f with country := some s }]
  needsMembers := false
  needsItems := true
  nullable := true
  empty := .empty

/-- The parameters that a value holds. -/
def ofJson (v : Json) : Except Json.Mismatch Params := shape.ofJson v

/-- Sets one parameter, unless the name is not one. -/
def setPair (p : Params) (name value : String) : Except Json.Mismatch Params :=
  match shape.field? name with
  | none => .ok p
  | some f =>
    if f.isSet p then .error (.repeated name) else (f.set value p).mapError .unreadable

/-- The parameters in the query of a URL. -/
def ofForm (t : List Char) : Except Json.Mismatch Params :=
  (Url.Form.pairs t).foldlM (fun p (name, value) =>
    p.setPair (String.ofList name) (String.ofList value)) .empty

end Params
end UserDirectory.Listing
