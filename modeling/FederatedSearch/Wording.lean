import FederatedSearch.Text.Case

/-!
# Wording

The few messages that callers read, in English and in French.
-/

namespace FederatedSearch

/-- A language of messages. -/
inductive Language where
  | english
  | french
  deriving DecidableEq, Repr

/-- The language of a locale such as `fr`, `fr_FR` or `en-US`. Any that is not French is taken for
English. -/
def Language.ofLocale (locale : String) : Language :=
  let tag := locale.toList.takeWhile fun c => c != '_' && c != '-'
  if Text.sameAscii (.ofList tag) "fr" then .french else .english

/-- A message. -/
inductive Message where
  /-- A search gave no result on any backend. -/
  | unableToExecute
  /-- The label of results that are not sorted. -/
  | noSort
  /-- The label of a sort with the greatest first. -/
  | descending
  /-- The label of a sort with the least first. -/
  | ascending
  /-- The heading of the proposals of a backend. -/
  | proposalsForBackend (name : String)
  /-- The heading of the proposals for a word. -/
  | proposalsForTerm (term : String)
  deriving DecidableEq, Repr

/-- **The text of a message.** -/
def Message.text : Message → Language → String
  | .unableToExecute, .english => "Unable to execute query"
  | .unableToExecute, .french => "Impossible d'executer la requete"
  | .noSort, .english => "No sort"
  | .noSort, .french => "Pas de tri"
  | .descending, _ => "descendant"
  | .ascending, _ => "ascendant"
  | .proposalsForBackend name, .english => "Proposals for database " ++ name
  | .proposalsForBackend name, .french => "Propositions pour la base " ++ name
  | .proposalsForTerm term, .english => "Proposals for term \"" ++ term ++ "\""
  | .proposalsForTerm term, .french => "Propositions pour le terme \"" ++ term ++ "\""

end FederatedSearch
