import FederatedSearch.Index.Record
import FederatedSearch.Index.Word
import FederatedSearch.Query.Expr

/-!
# Matching

The meaning of an expression on a record. A word is looked for in the values of the fields that
are searchable: those in the scope of the expression, but for business fields where these are not
enabled. A comparison looks at the values of its own field.

* `FederatedSearch.Index.Matcher`: a record with what is needed to search it.
* `FederatedSearch.Index.Matcher.holds`: an expression holds of the record.
-/

namespace FederatedSearch.Index

open Query

/-- **A record as it is searched.** -/
structure Matcher where
  /-- The backend of the record. -/
  backend : Backend
  /-- The record. -/
  record : Record
  /-- Business fields are searchable. -/
  business : Bool
  /-- The stems that words are compared by. -/
  stemmer : Option Stemmer

namespace Matcher

/-! ### Searchable values -/

/-- The field may be searched. -/
def mayLookAt (m : Matcher) (name : String) : Bool :=
  match m.backend.field? name with
  | none => true
  | some f => !f.business || m.business

/-- The field is in a scope: the fields of a restriction, or all fields. -/
def inScope (scope : Option (List String)) (name : String) : Bool :=
  match scope with
  | none => true
  | some names => names.any (Text.sameAscii · name)

/-- **The values that words are looked for in.** -/
def searchable (m : Matcher) (scope : Option (List String)) : List String :=
  (m.record.fields.filter fun f => m.mayLookAt f.name && inScope scope f.name).map (·.value)

/-! ### Leaves -/

/-- Some word of a searchable value matches the word. -/
def hasTerm (m : Matcher) (scope : Option (List String)) (word : String) : Bool :=
  (m.searchable scope).any fun value =>
    (words value).any fun w => wordMatches m.stemmer w (Text.lowercase word.toList)

/-- The words at the start of a text match a row of patterns. -/
def startsWith (stemmer : Option Stemmer) : List Word → List Word → Bool
  | [], _ => true
  | _ :: _, [] => false
  | p :: ps, w :: ws => wordMatches stemmer w p && startsWith stemmer ps ws

/-- The words at some place of a text match a row of patterns. -/
def hasRow (stemmer : Option Stemmer) (patterns : List Word) : List Word → Bool
  | [] => patterns.isEmpty
  | w :: ws => startsWith stemmer patterns (w :: ws) || hasRow stemmer patterns ws

/-- The words of a phrase stand in a row in a searchable value. A phrase without words is found
nowhere. -/
def hasPhrase (m : Matcher) (scope : Option (List String)) (phrase : String) : Bool :=
  let patterns := words phrase
  !patterns.isEmpty && (m.searchable scope).any fun value => hasRow m.stemmer patterns (words value)

/-- The bits of a status word agree with characters, the lowest bit first. A character other than
zero and one agrees with both values. -/
def bitsAgree (status : BitVec 64) : Nat → List Char → Bool
  | _, [] => true
  | bit, c :: cs =>
    (if c == '0' then !status.getLsbD bit else if c == '1' then status.getLsbD bit else true) &&
      bitsAgree status (bit + 1) cs

/-- **A status word agrees with a string of bits**, whose last character is the lowest bit. -/
def statusAgrees (status : BitVec 64) (bits : String) : Bool :=
  bitsAgree status 0 bits.toList.reverse

/-- The name of the field that stands for the status word. -/
def statusField : String := "recordstatus"

/-- The name of the field that stands for the record type. -/
def typeField : String := "recordtype"

/-- **A comparison holds of the record.** The status word agrees with the bits or it does not; a
record has one type; of any other field some value has to compare as asked. -/
def compares (m : Matcher) (field : String) (op : Comparison) (value : String) : Bool :=
  if Text.sameAscii field statusField then
    let agrees := statusAgrees m.record.status value
    if op == .ne then !agrees else agrees
  else if Text.sameAscii field typeField then
    op.accepts (Text.cmpChars (Text.lowercase m.record.type.toList) (Text.lowercase value.toList))
  else
    (m.record.values field).any fun v =>
      (compareValues (m.backend.kindOf field) v value).any op.accepts

/-! ### Expressions -/

mutual

/-- **The expression holds of the record**, when words are looked for in a scope. -/
def holds (m : Matcher) (scope : Option (List String)) : Expr → Bool
  | .all => true
  | .term word => m.hasTerm scope word
  | .phrase text => m.hasPhrase scope text
  | .compare field op value => m.compares field op value
  | .vocabulary none word => m.hasTerm scope word
  | .vocabulary (some field) word => m.hasTerm (some [field]) word
  | .and children => m.allHold scope children
  | .or children => m.someHold scope children
  | .except left right => m.holds scope left && !m.holds scope right
  | .within inner fields => m.holds (some fields) inner
  | .group inner => m.holds scope inner

/-- All of several expressions hold of the record. -/
def allHold (m : Matcher) (scope : Option (List String)) : List Expr → Bool
  | [] => true
  | e :: es => m.holds scope e && m.allHold scope es

/-- Some of several expressions holds of the record. -/
def someHold (m : Matcher) (scope : Option (List String)) : List Expr → Bool
  | [] => false
  | e :: es => m.holds scope e || m.someHold scope es

end

end Matcher

end FederatedSearch.Index
