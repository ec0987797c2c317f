import FederatedSearch.Query.Expr

/-!
# The written form of an expression

An expression is written as a query. Composite operands stand between parentheses, so the written
form of a compiled tree reads back as the same tree.
-/

namespace FederatedSearch.Query.Expr

/-- An operand, between parentheses when it is composite. -/
def wrap (e : Expr) (text : List Char) : List Char :=
  if e.isComposite then '(' :: text ++ [')'] else text

/-- The names of fields with `OR` between them. -/
def joinFields (fields : List String) : List Char :=
  List.intercalate " OR ".toList (fields.map String.toList)

mutual

/-- **The written form**, as characters. -/
def render : Expr → List Char
  | .all => "all".toList
  | .term word => word.toList
  | .phrase text => '"' :: text.toList ++ ['"']
  | .compare field op value => field.toList ++ op.symbol.toList ++ value.toList
  | .vocabulary field word => (field.getD "*").toList ++ ':' :: word.toList
  | .and children => List.intercalate " AND ".toList (renderOperands children)
  | .or children => List.intercalate " OR ".toList (renderOperands children)
  | .except left right => wrap left left.render ++ " EXCEPT ".toList ++ wrap right right.render
  | .within inner fields => wrap inner inner.render ++ " IN (".toList ++ joinFields fields ++ [')']
  | .group inner => '(' :: inner.render ++ [')']

/-- The written forms of several operands. -/
def renderOperands : List Expr → List (List Char)
  | [] => []
  | e :: es => wrap e e.render :: renderOperands es

end

/-- **The written form.** -/
def toText (e : Expr) : String := .ofList e.render

end FederatedSearch.Query.Expr
