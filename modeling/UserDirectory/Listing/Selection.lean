import UserDirectory.Listing.Query
import UserDirectory.Number

/-!
# Listing.Selection — a listing as a store carries it out

* `Selection`: filters, sort and slice, all of them checked.
* `Selection.ofQuery`: the selection for a query; a query that was made from parameters always
  has one.
-/

namespace UserDirectory.Listing

/-- Filters in order, the sort, how many accounts are passed over, and how many follow at most. -/
structure Selection where
  filters : List (FilterField × String)
  sortField : SortField
  direction : Direction
  skip : Nat
  limit : Option Nat
deriving DecidableEq, Repr

/-- What can be wrong with a query. -/
inductive QueryFault where
  | sortFieldRequired
  | pageSizeNegative
  | pageNegative
  | sortFieldUnsupported
deriving DecidableEq, Repr

/-- The words for a fault. -/
def QueryFault.message : QueryFault → String
  | .sortFieldRequired => "sort field is required"
  | .pageSizeNegative => "page size cannot be negative number"
  | .pageNegative => "page cannot be negative number"
  | .sortFieldUnsupported => "unsupported sorting field"

/-- The filters that ask for something. -/
def Filter.pairs (f : Filter) : List (FilterField × String) :=
  [(.firstName, f.firstName), (.lastName, f.lastName), (.nickname, f.nickname),
    (.email, f.email), (.country, f.country)].filterMap fun (field, value) =>
      (value.filter (!·.isEmpty)).map (field, ·)

/-- The greatest number of accounts that can be passed over. -/
def maxSkip : Nat := twoPow 64 - 1

/-- The selection for a query.  A page size of 0 asks for all accounts, and any direction but
`desc` ascends. -/
def Selection.ofQuery (q : Query) : Except QueryFault Selection :=
  if q.sortField.isEmpty then .error .sortFieldRequired
  else if q.pageSize < 0 then .error .pageSizeNegative
  else if q.page < 0 then .error .pageNegative
  else
    match SortField.ofName? q.sortField with
    | none => .error .sortFieldUnsupported
    | some field =>
      .ok {
        filters := q.filter.pairs
        sortField := field
        direction := if q.sortDirection = "desc" then .descending else .ascending
        skip := min (q.page.toNat * q.pageSize.toNat) maxSkip
        limit := if q.pageSize = 0 then none else some q.pageSize.toNat }

end UserDirectory.Listing
