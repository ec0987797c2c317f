import FederatedSearch.Query.Token

/-!
# Errors in a query

A query that is not in the language is refused with the place of the fault, in bytes, and its
cause. The wording of all causes is in one function.
-/

namespace FederatedSearch.Query

/-- **Why a query is refused.** -/
inductive SyntaxFault where
  /-- A quote has no partner. -/
  | unterminatedPhrase
  /-- Nothing but blanks. -/
  | emptyQuery
  /-- A closing parenthesis has no partner. -/
  | strayClose
  /-- The query ends where an operand has to come. -/
  | operandExpected
  /-- An opening parenthesis has no partner. -/
  | unbalanced
  /-- No operand starts with this token. -/
  | unexpected (found : TokenKind)
  /-- Another token, or the end, where a value has to come. -/
  | valueExpected (found : Option TokenKind)
  /-- Another token, or the end, where a list of fields has to come. -/
  | fieldListExpected (found : Option TokenKind)
  /-- Something other than a word in a list of fields. -/
  | fieldNameExpected
  /-- A list of fields goes on with neither `OR` nor a closing parenthesis. -/
  | unterminatedFieldList
  /-- The query has more characters than are allowed. -/
  | tooLong (limit : Nat)
  /-- A cause that the caller describes. -/
  | described (text : String)
  deriving DecidableEq, Repr

/-- The wording of a cause. -/
def SyntaxFault.message : SyntaxFault → String
  | .unterminatedPhrase => "unterminated quoted phrase"
  | .emptyQuery => "empty query"
  | .strayClose => "unexpected closing parenthesis"
  | .operandExpected => "expected an operand"
  | .unbalanced => "unbalanced parenthesis"
  | .unexpected found => "unexpected " ++ found.describe
  | .valueExpected none => "expected a value"
  | .valueExpected (some found) => "expected a value, found " ++ found.describe
  | .fieldListExpected none => "expected a field list after IN"
  | .fieldListExpected (some found) => "expected a field list, found " ++ found.describe
  | .fieldNameExpected => "expected a field name"
  | .unterminatedFieldList => "unterminated field list"
  | .tooLong limit => "query exceeds " ++ toString limit ++ " characters"
  | .described text => text

/-- **A refusal of a query**: the place of the fault and its cause. -/
structure SyntaxError where
  position : Nat
  fault : SyntaxFault
  deriving DecidableEq, Repr

end FederatedSearch.Query
