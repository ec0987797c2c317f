import FederatedSearch.Table

/-!
# Status filters

A filter on the status bits of records: for some bits, what their value has to be on each backend.
A bit may be declared without a requirement on any backend. Bits and backends are kept in
ascending order.

* `FederatedSearch.StatusFilter.require`, `FederatedSearch.StatusFilter.declare`: building one.
* `FederatedSearch.StatusFilter.lookup`: what it says of a bit on a backend.
* `FederatedSearch.StatusFilter.bits?`: the filter on one backend, as a string of bits.
-/

namespace FederatedSearch

/-! ### Filters -/

/-- **A filter on status bits**: for each bit that it declares, the value that the bit has to have
on some backends. -/
structure StatusFilter where
  entries : Table Nat (Table Nat Bool) := []
  deriving DecidableEq, Repr

namespace StatusFilter

/-- The filter that declares nothing. -/
def empty : StatusFilter := {}

/-- The filter declares no bit. -/
def isEmpty (f : StatusFilter) : Bool := f.entries.isEmpty

/-- What the filter requires of a bit, backend by backend. -/
def requirements (f : StatusFilter) (bit : Nat) : Table Nat Bool :=
  (Table.find? bit f.entries).getD []

/-- The filter that also requires a bit to have a value on a backend. -/
def require (f : StatusFilter) (bit backend : Nat) (value : Bool) : StatusFilter :=
  ⟨Table.insert compare bit (Table.insert compare backend value (f.requirements bit)) f.entries⟩

/-- The filter that also declares a bit. -/
def declare (f : StatusFilter) (bit : Nat) : StatusFilter :=
  ⟨Table.insert compare bit (f.requirements bit) f.entries⟩

/-- **What the filter says of a bit on a backend**: nothing, that the bit is declared without a
requirement there, or its value. -/
def lookup (f : StatusFilter) (bit backend : Nat) : Option (Option Bool) :=
  (Table.find? bit f.entries).map (Table.find? backend)

theorem lookup_require (f : StatusFilter) (bit backend : Nat) (value : Bool) :
    (f.require bit backend value).lookup bit backend = some (some value) := by
  have hcmp : ∀ a b : Nat, compare a b = .eq ↔ a = b := fun a b => Nat.compare_eq_eq
  simp [lookup, require, Table.find?_insert hcmp]

/-! ### Strings of bits -/

/-- The lowest bit that a filter can constrain. Those below it belong to the index. -/
def firstBit : Nat := 4

/-- The highest bit that a filter can constrain. -/
def lastBit : Nat := 32

/-- The character of a bit: its value, or `x` when it may have any. -/
def bitChar (f : StatusFilter) (backend bit : Nat) : Char :=
  if bit < firstBit then 'x'
  else match f.lookup bit backend with
    | some (some true) => '1'
    | some (some false) => '0'
    | _ => 'x'

/-- The characters of all bits, the highest first. -/
def bitChars (f : StatusFilter) (backend : Nat) : List Char :=
  (List.range (lastBit + 1)).reverse.map (f.bitChar backend)

/-- **The filter on one backend as a string of bits**, the lowest at the right and without the
free bits at the left; nothing when no bit is constrained. -/
def bits? (f : StatusFilter) (backend : Nat) : Option String :=
  match (f.bitChars backend).dropWhile (· == 'x') with
  | [] => none
  | chars => some (.ofList chars)

end StatusFilter

end FederatedSearch
