import FederatedSearch.Engine.Page
import FederatedSearch.Exchange.Dataset
import FederatedSearch.Exchange.Expr
import FederatedSearch.Query.Plan

/-!
# Results and pages as JSON

What a search gives is exchanged as objects: results, hits, suggestions, proposals and pages.
-/

namespace FederatedSearch

open Json Query

/-! ### Results and hits -/

/-- The members of a result. -/
def Result.members (r : Result) : List (String × Json) :=
  [("backend_id", .nat r.backend), ("collection_id", .nat r.collection),
    ("record_id", .nat r.record), ("rank", .nat r.rank), ("kind", .text r.kind.name),
    ("title", orNull .text r.title)]

/-- **A result as JSON.** -/
def Result.toJson (r : Result) : Json := .object r.members

/-- A value of a hit as JSON. -/
def HitField.toJson (f : HitField) : Json :=
  .object [("meta_id", .nat f.place), ("name", .text f.name), ("value", .text f.value)]

/-- A value of a hit from JSON. -/
def HitField.ofJson? (j : Json) : Option HitField := do
  let f ← fields? ["meta_id", "name", "value"] j
  return ⟨← f.required "meta_id" (word? 64), ← f.required "name" text?, ← f.required "value" text?⟩

/-- **A hit as JSON.** -/
def FetchedHit.toJson (h : FetchedHit) : Json :=
  .object
    [("backend_id", .nat h.backend), ("record_id", .nat h.record),
      ("collection_id", orNull .nat h.collection), ("kind", .text h.kind.name),
      ("title", orNull .text h.title), ("fields", list HitField.toJson h.fields)]

/-- **A hit from JSON.** -/
def FetchedHit.ofJson? (j : Json) : Option FetchedHit := do
  let f ← fields? ["backend_id", "record_id", "collection_id", "kind", "title", "fields"] j
  return {
    backend := ← f.required "backend_id" (word? 32)
    record := ← f.required "record_id" (word? 64)
    collection := ← f.optional "collection_id" (word? 32)
    kind := ← f.required "kind" EntityKind.ofJson?
    title := ← f.optional "title" text?
    fields := ← f.required "fields" (list? HitField.ofJson?) }

/-- The values of a field in an excerpt, under their places. -/
def valuesToJson (values : List (Nat × String)) : Json :=
  .object (values.map fun (place, value) => (toString place, .text value))

/-- **An excerpt as JSON.** -/
def Excerpt.toJson (x : Excerpt) : Json :=
  .object (x.map fun (name, values) => (name, valuesToJson values))

/-! ### Proposals -/

namespace Query

/-- **A suggestion as JSON.** -/
def Suggestion.toJson (s : Suggestion) : Json :=
  .object
    [("original_term", .text s.term), ("proposed_value", .text s.proposed),
      ("hit_count", .nat s.hits)]

/-- A proposed value as JSON. -/
def ProposedQuery.toJson (q : ProposedQuery) : Json :=
  .object [("term", .text q.term), ("value", .text q.value), ("hits", .nat q.hits)]

/-- A proposed value from JSON. -/
def ProposedQuery.ofJson? (j : Json) : Option ProposedQuery := do
  let f ← fields? ["term", "value", "hits"] j
  return ⟨← f.required "term" text?, ← f.required "value" text?, ← f.required "hits" (word? 64)⟩

/-- The proposals for a word as JSON. -/
def TermProposal.toJson (t : TermProposal) : Json :=
  .object [("term", .text t.term), ("markup", .text t.markup)]

/-- The proposals for a word from JSON. -/
def TermProposal.ofJson? (j : Json) : Option TermProposal := do
  let f ← fields? ["term", "markup"] j
  return ⟨← f.required "term" text?, ← f.required "markup" text?⟩

/-- The proposals of a backend as JSON. -/
def ProposalGroup.toJson (g : ProposalGroup) : Json :=
  .object
    [("backend", .nat g.backend), ("name", .text g.name),
      ("terms", list TermProposal.toJson g.terms)]

/-- The proposals of a backend from JSON. -/
def ProposalGroup.ofJson? (j : Json) : Option ProposalGroup := do
  let f ← fields? ["backend", "name", "terms"] j
  return ⟨← f.required "backend" (word? 32), ← f.required "name" text?,
    ← f.required "terms" (list? TermProposal.ofJson?)⟩

/-- **All that is proposed, as JSON.** -/
def Proposals.toJson (p : Proposals) : Json :=
  .object
    [("query", .text p.query), ("queries", list ProposedQuery.toJson p.queries),
      ("groups", list ProposalGroup.toJson p.groups)]

/-- **All that is proposed, from JSON.** -/
def Proposals.ofJson? (j : Json) : Option Proposals := do
  let f ← fields? ["query", "queries", "groups"] j
  return ⟨← f.required "query" text?, ← f.required "queries" (list? ProposedQuery.ofJson?),
    ← f.required "groups" (list? ProposalGroup.ofJson?)⟩

end Query

/-! ### Pages -/

/-- **A page as JSON.** The hits that are available are all hits there are. -/
def Page.toJson (p : Page) : Json :=
  .object
    [("records", list Result.toJson p.records), ("query", .text p.query),
      ("duration", .real p.duration), ("offset", .nat p.offset), ("available", .nat p.total),
      ("total", .nat p.total), ("error", .text p.error),
      ("suggestions", list Query.Suggestion.toJson p.suggestions),
      ("proposals", orNull .text p.proposals)]

end FederatedSearch
