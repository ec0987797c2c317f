import FederatedSearch.SearchOptions
import FederatedSearch.Text.Alphanumeric
import FederatedSearch.Text.Blank

/-!
# Clauses

Search options become clauses that are appended to the text of a query. An empty query stands for
every record. A restriction to fields wraps all that is before it; the other clauses are joined to
it with `AND`.

* `FederatedSearch.queryText`: the text with the record type.
* `FederatedSearch.fieldClause?`, `FederatedSearch.dateClause?`: single clauses.
* `FederatedSearch.backendQueryText`: the text for one backend, with all clauses.
-/

namespace FederatedSearch

open Calendar

/-- The query that finds every record. -/
def matchAll : String := "all"

/-- **The text of a query with the record type that is asked for.** -/
def queryText (raw : String) (o : SearchOptions) : String :=
  let text := if Text.isBlankText raw then matchAll else raw
  match o.recordType with
  | none => text
  | some type => if type.isEmpty then text else text ++ " AND recordtype=" ++ type

/-- **The text that is searched for is never empty**: a blank one stands for every record. -/
theorem queryText_ne_empty (raw : String) (o : SearchOptions) : queryText raw o ≠ "" := by
  have htext : (if Text.isBlankText raw then matchAll else raw) ≠ "" := by
    split
    · decide
    · rename_i hblank
      rintro rfl
      exact hblank Text.isBlankText_empty
  simp only [queryText]
  cases o.recordType with
  | none => exact htext
  | some type =>
    dsimp only
    split
    · exact htext
    · simp [String.append_eq_empty_iff, htext]

/-! ### Names of fields -/

/-- A character of the name of a field in a clause. -/
def isFieldNameChar (c : Char) : Bool :=
  Text.isLetterOrNumber c || c == '_' || c == '.' || c == '-'

/-- **A name that may be written into a clause**: letters, numbers, underscores, dots and hyphens,
and at least one of them. -/
def isFieldName (name : String) : Bool := !name.isEmpty && name.toList.all isFieldNameChar

/-- The names among some that may be written into a clause. -/
def fieldNames (names : List String) : List String := names.filter isFieldName

/-! ### Clauses -/

/-- The restriction to fields, unless none of the names can be written. -/
def fieldClause? (fields : List String) : Option String :=
  match fieldNames fields with
  | [] => none
  | names => some ("IN (" ++ " OR ".intercalate names ++ ")")

/-- A date bound on some of the fields, unless none of the names can be written. -/
def dateClause? (fields : List String) (symbol : String) (date : Date) : Option String :=
  match fieldNames fields with
  | [] => none
  | names =>
    let parts := names.map fun name => name ++ " " ++ symbol ++ " " ++ date.toText
    some ("AND ( " ++ " OR ".intercalate parts ++ " )")

/-- The status bits that are required on a backend. -/
def statusClause? (status : StatusFilter) (backend : Nat) : Option String :=
  (status.bits? backend).map fun bits => "AND (recordstatus=" ++ bits ++ ")"

/-- The bound from below on dates. -/
def minDateClause? (o : SearchOptions) : Option String :=
  o.minDate.bind (dateClause? o.dateFields ">=")

/-- The bound from above on dates. -/
def maxDateClause? (o : SearchOptions) : Option String :=
  o.maxDate.bind (dateClause? o.dateFields "<=")

/-- The clauses of the options on a backend, in the order in which they are appended. -/
def clauses (o : SearchOptions) (backend : Nat) : List String :=
  [statusClause? o.status backend, fieldClause? o.fields, minDateClause? o,
    maxDateClause? o].filterMap id

/-- **The text of a query for one backend**: the base and the clauses after it. -/
def backendQueryText (base : String) (o : SearchOptions) (backend : Nat) : String :=
  (clauses o backend).foldl (fun text clause => text ++ " " ++ clause) base

end FederatedSearch
