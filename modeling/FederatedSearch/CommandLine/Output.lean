import FederatedSearch.Failure
import FederatedSearch.FileState

/-!
# Output

A command writes to two streams, or fails.
-/

namespace FederatedSearch.CommandLine

/-- **What a command writes**: its results, and remarks on errors. -/
structure Output where
  results : String := ""
  remarks : String := ""
  deriving DecidableEq, Repr

/-- The text of some lines. -/
def linesText (lines : List String) : String := .join (lines.map (· ++ "\n"))

/-- The output with some lines as results. -/
def Output.ofLines (lines : List String) : Output := { results := linesText lines }

/-- The output with some lines as remarks. -/
def Output.ofRemarks (lines : List String) : Output := { remarks := linesText lines }

/-- **Why a command fails.** -/
inductive Fault where
  /-- The engine fails. -/
  | failed (failure : Failure)
  /-- There is no place for the first result of the page. -/
  | pageOutOfRange (page : Nat)
  deriving DecidableEq, Repr

/-- The wording of a fault, as far as it does not carry the words of the system. -/
def Fault.message? : Fault → Option String
  | .failed failure => failure.message?
  | .pageOutOfRange page => some ("page " ++ toString page ++ " is out of range")

/-- **What a command leaves**: its output, and what is in the file of cached rows. -/
structure Ending where
  result : Except Fault Output
  /-- The path of the file and what is there, if rows are kept in a file. -/
  rowsFile : Option (String × FileState) := none

end FederatedSearch.CommandLine
