/-!
# Powers of two and of ten

The grids on which numbers are rounded are made of powers of two and of ten, and the bounds of
words are powers of two.
-/

namespace FederatedSearch.Number

/-- A power of two. -/
def twoTo (k : Nat) : Nat := Nat.pow 2 k

/-- A power of ten. -/
def tenTo (k : Nat) : Nat := Nat.pow 10 k

@[simp] theorem twoTo_zero : twoTo 0 = 1 := rfl

theorem twoTo_succ (k : Nat) : twoTo (k + 1) = twoTo k * 2 := rfl

theorem twoTo_pos (k : Nat) : 0 < twoTo k := Nat.pow_pos (by decide)

@[simp] theorem tenTo_zero : tenTo 0 = 1 := rfl

theorem tenTo_succ (k : Nat) : tenTo (k + 1) = tenTo k * 10 := rfl

theorem tenTo_pos (k : Nat) : 0 < tenTo k := Nat.pow_pos (by decide)

/-- The greatest value of a word of `bits` bits. -/
def maxWord (bits : Nat) : Nat := twoTo bits - 1

/-- The least integer of 64 bits with a sign. -/
def leastInt : Int := -(twoTo 63 : Int)

/-- The greatest integer of 64 bits with a sign. -/
def greatestInt : Int := maxWord 63

end FederatedSearch.Number
