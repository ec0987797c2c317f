import FederatedSearch.Calendar.Date
import FederatedSearch.StatusFilter

/-!
# Search options

What a caller asks for besides the text of a query: which backends and collections to search, which
fields, dates, status bits and record type a result must have, and how results are ordered.
-/

namespace FederatedSearch

open Calendar

/-- The direction of a sort. -/
inductive SortOrder where
  /-- The least first. -/
  | ascending
  /-- The greatest first. -/
  | descending
  deriving DecidableEq, Repr

/-- The mark of a direction in front of a sort specification. -/
def SortOrder.mark : SortOrder → Char
  | .ascending => '+'
  | .descending => '-'

/-- What is searched for. -/
inductive SearchMode where
  /-- Records of any kind. -/
  | document
  /-- Groups of records only. -/
  | recordGroup
  deriving DecidableEq, Repr

/-- **The options of a search.** -/
structure SearchOptions where
  /-- The only record type that is wanted. -/
  recordType : Option String := none
  /-- The backends to search, in order. -/
  backends : List Nat := []
  /-- The collections that the caller is authorized for. -/
  collections : List Nat := []
  /-- The fields that are looked at. -/
  fields : List String := []
  /-- The fields that the date bounds apply to. -/
  dateFields : List String := []
  /-- The earliest date. -/
  minDate : Option Date := none
  /-- The latest date. -/
  maxDate : Option Date := none
  /-- The required status bits. -/
  status : StatusFilter := .empty
  /-- The field that results are sorted by. -/
  sortBy : Option String := none
  /-- The direction of the sort. -/
  sortOrder : SortOrder := .descending
  /-- Words match by their stems. -/
  stemming : Bool := false
  /-- The language of stems and messages. -/
  locale : String := ""
  /-- What is searched for. -/
  mode : SearchMode := .document
  /-- The collections where business fields are searchable. -/
  businessOn : List Nat := []
  deriving DecidableEq, Repr

namespace SearchOptions

/-- The options of a caller that asks for nothing in particular, in English. -/
def standard : SearchOptions := { locale := "en" }

/-- A date bound is set. -/
def hasDateRange (o : SearchOptions) : Bool := o.minDate.isSome || o.maxDate.isSome

/-- **The sort specification**: the mark of the direction, a zero, and the field; empty when there
is no field. -/
def sortSpec (o : SearchOptions) : String :=
  match o.sortBy with
  | none => ""
  | some field => if field.isEmpty then "" else .ofList (o.sortOrder.mark :: '0' :: field.toList)

end SearchOptions

end FederatedSearch
