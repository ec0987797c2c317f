import FederatedSearch.Engine.Basic
import FederatedSearch.Index.Fetch
import FederatedSearch.Query.Suggestion

/-!
# Pages

A page is a window of the hits of a session, together with the figures of the cached row and what
the thesauri propose. A hit whose record is gone is left out, but it keeps its rank: the records
after it have the same ranks as before.

* `FederatedSearch.FetchedHit.toResult?`: a hit as a result.
* `FederatedSearch.Page`: a page.
* `FederatedSearch.Server.page`: the window of a session as a page.
* `FederatedSearch.Visit.excerpt`: the highlighted values of one result.
-/

namespace FederatedSearch

/-! ### Results -/

/-- **A result**: a record with its place among all results, counted from zero. -/
structure Result where
  backend : Nat
  collection : Nat
  record : Nat
  rank : Nat
  kind : EntityKind
  title : Option String
  deriving DecidableEq, Repr

/-- **A hit as a result**, unless its record is gone or its collection is not one of its backend. -/
def FetchedHit.toResult? (h : FetchedHit) (c : Catalog) (rank : Nat) : Option Result :=
  match h.collection with
  | none => none
  | some collection =>
    if c.resolves h.backend collection then
      some ⟨h.backend, collection, h.record, rank, h.kind, h.title⟩
    else none

/-- The greatest place of a result. -/
def maxRank : Nat := Number.maxWord 64

/-- A place some way after another, not beyond the greatest. -/
def rankAfter (rank n : Nat) : Nat := min (rank + n) maxRank

/-- The results among some hits, of which the first has the given place. -/
def resultsFrom (c : Catalog) (offset : Nat) : Nat → List FetchedHit → List (Option Result)
  | _, [] => []
  | n, h :: rest => h.toResult? c (rankAfter offset n) :: resultsFrom c offset (n + 1) rest

/-- **The results among some hits**, of which the first has the place `offset`. -/
def resultsOf (c : Catalog) (offset : Nat) (hits : List FetchedHit) : List Result :=
  (resultsFrom c offset 0 hits).filterMap id

/-! ### Pages -/

/-- **A page of results.** -/
structure Page where
  records : List Result := []
  /-- The text that was searched for. -/
  query : String
  /-- The seconds that the search took. -/
  duration : Number.Binary64 := .zero false
  /-- The place of the first hit of the page. -/
  offset : Nat
  /-- The number of hits on all pages. -/
  total : Nat := 0
  /-- What went wrong; empty when nothing did. -/
  error : String := ""
  suggestions : List Query.Suggestion := []
  /-- The panel of proposals. -/
  proposals : Option String := none
  deriving DecidableEq, Repr

namespace Page

/-- The page of a search that gave nothing. -/
def failed (query : String) (offset : Nat) (error : String) : Page := { query, offset, error }

/-- Nothing went wrong. -/
def isSuccess (p : Page) : Bool := p.error.isEmpty

/-- The page of a row without results. -/
def ofRow (row : Row) (offset : Nat) : Page :=
  { query := row.query, duration := row.duration, offset, total := row.total }

end Page

/-- **The page of the hits of a session** from the place `offset` on, with the figures of its row.
When the hits cannot be had, the page says so. -/
def Server.page (s : Server) (session : String) (row : Row) (offset count : Nat)
    (language : Language) : Page :=
  match s.fetch? session (rankAfter offset 1) count none with
  | none => { Page.ofRow row offset with error := Message.unableToExecute.text language }
  | some hits => { Page.ofRow row offset with records := resultsOf s.catalog offset hits }

/-! ### Excerpts -/

/-- **An excerpt**: the values of some fields of a record, each with its place among the fields of
the record. -/
abbrev Excerpt := Table String (List (Nat × String))

/-- The values of a field of a hit with their places. -/
def FetchedHit.valuesOf (h : FetchedHit) (name : String) : List (Nat × String) :=
  (h.fields.filter (Text.sameAscii ·.name name)).map fun f => (f.place, f.value)

/-- Put the values of a field into an excerpt, if there are any. -/
def addToExcerpt (h : FetchedHit) (x : Excerpt) (name : String) : Excerpt :=
  match h.valuesOf name with
  | [] => x
  | values => Table.insert Text.cmpText name values x

/-- The excerpt of a hit with the values of some fields. -/
def FetchedHit.excerpt (h : FetchedHit) (names : List String) : Excerpt :=
  names.foldl (addToExcerpt h) []

/-- The excerpt of the hit at a place of a session, with highlighted values. -/
def Server.excerpt (s : Server) (session : String) (rank : Nat) (names : List String)
    (markers : Index.Markers) : Excerpt :=
  match s.fetch? session (rankAfter rank 1) 1 (some markers) with
  | some (h :: _) => h.excerpt names
  | _ => []

/-- The markers of highlighted words. -/
def Engine.markers (e : Engine) : Index.Markers :=
  ⟨e.config.search.highlightOpen, e.config.search.highlightClose⟩

/-- **The excerpt of a result** of the last search of a caller. -/
def Visit.excerpt (v : Visit) (rank : Nat) (names : List String) : Excerpt :=
  match v.caller.session with
  | none => []
  | some session => v.engine.server.excerpt session rank names v.engine.markers

end FederatedSearch
