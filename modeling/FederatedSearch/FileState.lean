/-!
# Files

What a program finds at a path before it reads or writes there.
-/

namespace FederatedSearch

/-- **What is at a path.** -/
inductive FileState where
  /-- Nothing; a file can be made there. -/
  | missing
  /-- Nothing, and no file can be made there. -/
  | unmakeable
  /-- Something that is not a file. -/
  | notAFile
  /-- A file with a text. -/
  | text (contents : String)
  deriving DecidableEq, Repr

namespace FileState

/-- There is something at the path. -/
def isThere : FileState → Bool
  | .missing | .unmakeable => false
  | .notAFile | .text _ => true

/-- The text of the file, if there is one. -/
def contents? : FileState → Option String
  | .text contents => some contents
  | _ => none

end FileState

end FederatedSearch
