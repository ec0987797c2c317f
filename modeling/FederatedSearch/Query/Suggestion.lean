import FederatedSearch.Query.Plan
import FederatedSearch.Wording

/-!
# Suggestions

What is proposed for a search is shown in two ways: as a list of values to search for instead, and
as a panel for a page. Nothing is shown when the text of the search is refused.

* `FederatedSearch.Query.suggestions`: the list.
* `FederatedSearch.Query.panel?`: the panel.
-/

namespace FederatedSearch.Query

/-- **A suggestion**: a value to search for in place of a word. -/
structure Suggestion where
  term : String
  proposed : String
  hits : Nat
  deriving DecidableEq, Repr

/-- **The suggestions of a search**, one for each proposed value. -/
def suggestions (r : Request) : List Suggestion :=
  if r.main.isSome then r.proposals.queries.map fun q => ⟨q.term, q.value, q.hits⟩ else []

/-! ### The panel -/

/-- The style of the first heading. -/
def firstHeadingStyle : String := " style=\"margin-top:0px;\""

/-- A heading of a level, the first of its kind with a style of its own. -/
def heading (level : String) (first : Bool) (text : String) : String :=
  "<h" ++ level ++ (if first then firstHeadingStyle else "") ++ ">" ++ Markup.escape text ++
    "</h" ++ level ++ ">"

/-- The proposals for several words, each under a heading. -/
def termsMarkup (language : Language) : Bool → List TermProposal → String
  | _, [] => ""
  | first, t :: rest =>
    heading "2" first ((Message.proposalsForTerm t.term).text language) ++ t.markup ++
      termsMarkup language false rest

/-- The proposals of several backends. A backend with proposals has a heading when `several`
backends take part; `first` says that no heading has been written yet. -/
def groupsMarkup (language : Language) (several : Bool) : Bool → List ProposalGroup → String
  | _, [] => ""
  | first, g :: rest =>
    let headed := several && !g.terms.isEmpty
    (if headed then heading "1" first ((Message.proposalsForBackend g.name).text language)
      else "") ++
      termsMarkup language true g.terms ++ groupsMarkup language several (first && !headed) rest

/-- **The panel of a search**, unless it would be blank. -/
def panel? (language : Language) (r : Request) : Option String :=
  let body := groupsMarkup language (1 < r.proposals.groups.length) true r.proposals.groups
  if r.main.isNone || Text.isBlankText body then none
  else some ("<div style='height:0px; overflow:hidden'>" ++ Markup.escape r.proposals.query ++
    "</div><div class='proposals'>" ++ body ++ "</div>")

end FederatedSearch.Query
