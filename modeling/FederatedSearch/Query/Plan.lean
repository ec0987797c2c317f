import FederatedSearch.Catalog
import FederatedSearch.Query.Clause
import FederatedSearch.Query.Expansion
import FederatedSearch.Query.Render
import FederatedSearch.Text.Escaped

/-!
# Plans

A search of several backends is planned before anything is executed: each backend gets a query of
its own, with the clauses of the options and the alternatives of its own thesaurus. The text
without clauses is compiled as well, for the suggestions that are shown to the caller.

* `FederatedSearch.Query.target`: what becomes of one backend.
* `FederatedSearch.Query.plan`: what becomes of a search.
-/

namespace FederatedSearch.Query

/-! ### Proposals -/

/-- A value proposed in place of a word of a query. -/
structure ProposedQuery where
  term : String
  value : String
  hits : Nat
  deriving DecidableEq, Repr

/-- What a thesaurus proposes for one word, ready for a page. -/
structure TermProposal where
  term : String
  markup : String
  deriving DecidableEq, Repr

/-- What the thesaurus of one backend proposes. -/
structure ProposalGroup where
  backend : Nat
  name : String
  terms : List TermProposal
  deriving DecidableEq, Repr

/-- **All that is proposed for a search**: the combined query as it is expanded, the proposed
values, and the groups by backend. -/
structure Proposals where
  query : String := ""
  queries : List ProposedQuery := []
  groups : List ProposalGroup := []
  deriving DecidableEq, Repr

/-- An alternative as an entry of a list in a page. -/
def alternativeMarkup (field : String) (a : Alternative) : String :=
  "<li><a class=\"proposal\" data-query=\"" ++ Markup.escape field ++ ":" ++
    Markup.escape a.value ++ "\">" ++ Markup.escape a.value ++ "</a> <span class=\"hits\">(" ++
    toString a.hits ++ ")</span></li>"

/-- What is proposed for a word that was replaced. -/
def TermExpansion.proposal (x : TermExpansion) : TermProposal :=
  ⟨x.term, "<ul class=\"thesaurus\">" ++
    String.join (x.alternatives.map (alternativeMarkup (x.field.getD "*"))) ++ "</ul>"⟩

/-- Put a proposed value at the end, unless it is proposed already. -/
def addProposal (qs : List ProposedQuery) (q : ProposedQuery) : List ProposedQuery :=
  if qs.any (·.value == q.value) then qs else qs ++ [q]

/-- **The values proposed for the words that were replaced**, each once. -/
def proposedQueries (log : List TermExpansion) : List ProposedQuery :=
  (log.flatMap fun x => x.alternatives.map fun a => ⟨x.term, a.value, a.hits⟩).foldl addProposal []

/-! ### One backend -/

/-- **What is executed on a backend**: its query and the collections that are searched. -/
structure Plan where
  backend : Nat
  collections : List Nat
  query : CompiledQuery
  deriving Repr

/-- What becomes of a backend that a search asks for. -/
inductive Target where
  /-- It is unknown, or none of its collections is authorized. -/
  | skipped
  /-- Its query is refused. -/
  | failed (backend : Nat) (error : SyntaxError)
  /-- Its query is executed as it stands. -/
  | planned (plan : Plan)
  /-- Its query is executed with the alternatives of a thesaurus. -/
  | expanded (plan : Plan) (group : ProposalGroup) (thesaurus : Thesaurus)

namespace Target

/-- The plan, if there is one. -/
def plan? : Target → Option Plan
  | .planned p => some p
  | .expanded p _ _ => some p
  | _ => none

/-- The backend and the refusal of its query, if it is refused. -/
def failure? : Target → Option (Nat × SyntaxError)
  | .failed backend e => some (backend, e)
  | _ => none

/-- The proposals of the thesaurus, if one was used. -/
def group? : Target → Option ProposalGroup
  | .expanded _ g _ => some g
  | _ => none

/-- The thesaurus that was used. -/
def thesaurus? : Target → Option Thesaurus
  | .expanded _ _ t => some t
  | _ => none

end Target

/-- **The query of a backend**, with the alternatives of its thesaurus when it asks for them and
the thesaurus can be had. -/
def targetOf (b : Backend) (thesaurus? : Nat → Option Thesaurus) (id : Nat)
    (collections : List Nat) (q : CompiledQuery) : Target :=
  match if q.needsThesaurus then thesaurus? id else none with
  | none => .planned ⟨id, collections, q⟩
  | some t =>
    .expanded ⟨id, collections, { q with tree := q.tree.expand [t] }⟩
      ⟨id, b.name, (q.tree.expansions [t]).map TermExpansion.proposal⟩ t

/-- **What becomes of one backend** of a search for a text. -/
def target (c : Catalog) (thesaurus? : Nat → Option Thesaurus) (o : SearchOptions)
    (text : String) (id : Nat) : Target :=
  match c.backend? id with
  | none => .skipped
  | some b =>
    let collections := c.authorized id o.collections
    if collections.isEmpty then .skipped
    else
      match compile (backendQueryText text o id) with
      | .error e => .failed id e
      | .ok q => targetOf b thesaurus? id collections q

/-! ### A search -/

/-- **A planned search.** -/
structure Request where
  /-- The text with the record type. -/
  text : String := ""
  /-- The text compiled without the clauses of the options, for suggestions only. -/
  main : Option CompiledQuery := none
  /-- What is executed, in order. -/
  plans : List Plan := []
  /-- The backends whose query is refused. -/
  failures : List (Nat × SyntaxError) := []
  /-- What is proposed. -/
  proposals : Proposals := {}
  deriving Repr

/-- The compiled text with the alternatives of some thesauri. -/
def expandMain (ts : List Thesaurus) (q : CompiledQuery) : CompiledQuery :=
  if q.needsThesaurus then { q with tree := q.tree.expand ts } else q

/-- What is replaced in the compiled text. -/
def mainExpansions (ts : List Thesaurus) (q : CompiledQuery) : List TermExpansion :=
  if q.needsThesaurus then q.tree.expansions ts else []

/-- **Plan a search** for a raw text on the backends of the options. -/
def plan (c : Catalog) (thesaurus? : Nat → Option Thesaurus) (raw : String)
    (o : SearchOptions) : Request :=
  let text := queryText raw o
  let targets := o.backends.map (target c thesaurus? o text)
  let thesauri := targets.filterMap Target.thesaurus?
  let compiled := (compile text).toOption
  let main := if thesauri.isEmpty then compiled else compiled.map (expandMain thesauri)
  let log := if thesauri.isEmpty then [] else (compiled.map (mainExpansions thesauri)).getD []
  { text
    main
    plans := targets.filterMap Target.plan?
    failures := targets.filterMap Target.failure?
    proposals :=
      { query := (main.map (·.tree.toText)).getD ""
        queries := proposedQueries log
        groups := targets.filterMap Target.group? } }

end FederatedSearch.Query
