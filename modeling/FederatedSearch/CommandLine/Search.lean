import FederatedSearch.CommandLine.Command
import FederatedSearch.CommandLine.Format
import FederatedSearch.CommandLine.Output
import FederatedSearch.Engine.Search
import FederatedSearch.Exchange.Page

/-!
# Searching from the command line

The command that searches shows one page of results, with the highlighted values of some fields.

* `FederatedSearch.CommandLine.SearchReport`: what is shown.
* `FederatedSearch.CommandLine.QueryArguments.reportFrom`: a page of results, and where it starts.
-/

namespace FederatedSearch.CommandLine

/-! ### From arguments to a search -/

namespace QueryArguments

/-- The required status bits. -/
def statusFilter (q : QueryArguments) : StatusFilter :=
  q.status.foldl (fun f d => f.require d.bit d.backend d.value) .empty

/-- **The options of the search.** The dates apply to all date fields unless some are named. -/
def options (q : QueryArguments) (c : Config) (catalog : Catalog) : SearchOptions where
  recordType := q.recordType
  backends := q.backends
  collections := q.collections
  fields := q.fields
  dateFields := if q.dateFields.isEmpty then catalog.dateFields else q.dateFields
  minDate := q.minDate
  maxDate := q.maxDate
  status := q.statusFilter
  sortBy := q.sortBy
  sortOrder := q.order
  stemming := q.stemming
  locale := q.locale.getD c.search.defaultLocale
  mode := if q.group then .recordGroup else .document
  businessOn := q.business

/-- The number of results before the page, if it is a number of 64 bits. -/
def offset? (q : QueryArguments) (pageSize : Nat) : Option Nat :=
  let offset := (q.page - 1) * pageSize
  if offset ≤ maxRank then some offset else none

end QueryArguments

/-! ### Reports -/

/-- A result with its excerpt. -/
structure ShownResult where
  result : Result
  excerpt : Excerpt
  deriving Repr

/-- **The report of a search.** -/
structure SearchReport where
  page : Page
  /-- The number of the page, counted from one. -/
  number : Nat
  pageSize : Nat
  /-- The session of the search. -/
  session : Option String
  results : List ShownResult
  deriving Repr

/-- Search from the place `offset` on, and report the page. -/
def QueryArguments.reportFrom (q : QueryArguments) (pageSize offset : Nat) :
    Action Visit SearchReport := do
  let v ← Action.get
  let page ← Visit.search q.text offset pageSize (q.options v.engine.config v.engine.catalog)
  let v ← Action.get
  return {
    page
    number := max q.page 1
    pageSize
    session := v.caller.session
    results := page.records.map fun r => ⟨r, v.excerpt r.rank q.excerpt⟩ }

/-! ### As JSON -/

/-- A member that is left out for an empty list. -/
def unlessEmpty {α : Type} (name : String) (encode : List α → Json) (xs : List α) :
    List (String × Json) :=
  if xs.isEmpty then [] else [(name, encode xs)]

/-- A result with its excerpt as JSON. -/
def ShownResult.toJson (r : ShownResult) : Json :=
  .object (r.result.members ++ unlessEmpty "excerpt" Excerpt.toJson r.excerpt)

/-- **The report of a search as JSON.** -/
def SearchReport.toJson (r : SearchReport) : Json :=
  .object <|
    [("query", .text r.page.query), ("session", Json.orNull .text r.session),
      ("page", .nat r.number), ("per_page", .nat r.pageSize), ("offset", .nat r.page.offset),
      ("total", .nat r.page.total), ("duration", .real r.page.duration)] ++
    (if r.page.isSuccess then [] else [("error", .text r.page.error)]) ++
    [("records", .list ShownResult.toJson r.results),
      ("suggestions", .list Query.Suggestion.toJson r.page.suggestions)] ++
    (r.page.proposals.map fun panel => ("proposals", Json.text panel)).toList

/-! ### For readers -/

/-- What a record is, in a word. -/
def kindText : EntityKind → String
  | .record => "Record"
  | .story => "Story"

/-- The lines of an excerpt: a field and a value on each. -/
def excerptLines (x : Excerpt) : List String :=
  x.flatMap fun (name, values) => values.map fun (_, value) => "    " ++ name ++ ": " ++ value

/-- The lines of a result: its place counted from one, its title and where it is from, and then its
excerpt. -/
def ShownResult.lines (r : ShownResult) : List String :=
  let x := r.result
  let title := x.title.getD "(untitled)"
  let origin := s!"backend {x.backend}, collection {x.collection}, record {x.record}"
  s!"[{x.rank + 1}] {title} ({origin}, {kindText x.kind})" :: excerptLines r.excerpt

/-- The lines of the results of a page. -/
def SearchReport.resultLines (r : SearchReport) : List String :=
  if r.results.isEmpty then [s!"No results on page {r.number} ({r.page.total} total)"]
  else
    let first := r.page.offset + 1
    let last := r.page.offset + r.results.length
    [s!"Showing {first}-{last} of {r.page.total} result(s) in {durationText r.page.duration}:", ""]
      ++ r.results.flatMap (·.lines)

/-- The lines of the suggestions. -/
def suggestionLines (suggestions : List Query.Suggestion) : List String :=
  if suggestions.isEmpty then []
  else "" :: "Suggestions:" :: suggestions.map fun s => s!"  {s.term} -> {s.proposed} ({s.hits})"

/-- **The report of a search for readers.** When something went wrong, that is all there is. -/
def SearchReport.output (r : SearchReport) : Output :=
  if r.page.isSuccess then
    .ofLines (("Query: " ++ r.page.query) :: r.resultLines ++ suggestionLines r.page.suggestions ++
      match r.session with
      | none => []
      | some session => ["", "Session: " ++ session])
  else .ofRemarks ["Error: " ++ r.page.error]

end FederatedSearch.CommandLine
