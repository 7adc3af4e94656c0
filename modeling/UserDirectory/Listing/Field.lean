/-!
# Listing.Field — the members by which accounts are sorted and filtered

* `SortField.name`, `FilterField.name`: the members' names in documents.
* `SortField.ofName?`: the member that a store sorts by for a name.
-/

namespace UserDirectory.Listing

/-- A member by which a listing can be sorted. -/
inductive SortField where
  | firstName
  | lastName
  | nickname
  | password
  | email
  | country
  | createdAt
  | updatedAt
deriving DecidableEq, Repr

namespace SortField

/-- The member's name. -/
def name : SortField → String
  | .firstName => "first_name"
  | .lastName => "last_name"
  | .nickname => "nickname"
  | .password => "password"
  | .email => "email"
  | .country => "country"
  | .createdAt => "created_at"
  | .updatedAt => "updated_at"

/-- The member with the name. -/
def ofName? : String → Option SortField
  | "first_name" => some .firstName
  | "last_name" => some .lastName
  | "nickname" => some .nickname
  | "password" => some .password
  | "email" => some .email
  | "country" => some .country
  | "created_at" => some .createdAt
  | "updated_at" => some .updatedAt
  | _ => none

end SortField

/-- A member by which a listing can be filtered. -/
inductive FilterField where
  | firstName
  | lastName
  | nickname
  | email
  | country
deriving DecidableEq, Repr

/-- The member's name. -/
def FilterField.name : FilterField → String
  | .firstName => "first_name"
  | .lastName => "last_name"
  | .nickname => "nickname"
  | .email => "email"
  | .country => "country"

/-- The direction of a sort. -/
inductive Direction where
  | ascending
  | descending
deriving DecidableEq, Repr

end UserDirectory.Listing
