import FederatedSearch.Index.Matching
import FederatedSearch.Proofs.Query.Words
import FederatedSearch.StatusFilter
import Mathlib.Data.List.TakeWhile

/-!
# Strings of status bits

A filter on status bits is sent as a string of bits, which is cut off above the highest bit that is
fixed, and read from its end. A status word agrees with the string exactly when each bit that the
filter fixes has its value. The bits that belong to the index are free in every string, so a record
that is flagged for indexing anew agrees with the same strings as before.

* `FederatedSearch.Index.Matcher.bitsAgree_iff`: agreement bit by bit.
* `FederatedSearch.StatusFilter.statusAgrees_bits?_iff`: what a string of bits asks for.
* `FederatedSearch.StatusFilter.bits?_exact`: **a string of bits says what the filter says**.
-/

namespace FederatedSearch

namespace Index.Matcher

/-- A bit agrees with a character of a string of bits. -/
def bitAgrees (value : Bool) (c : Char) : Bool :=
  if c == '0' then !value else if c == '1' then value else true

/-- A status word agrees with characters when each bit does. -/
theorem bitsAgree_iff {status : BitVec 64} {cs : List Char} {bit : Nat} :
    bitsAgree status bit cs = true ↔
      ∀ i c, cs[i]? = some c → bitAgrees (status.getLsbD (bit + i)) c = true := by
  induction cs generalizing bit with
  | nil => simp [bitsAgree]
  | cons c cs ih =>
    rw [bitsAgree, Bool.and_eq_true, ih]
    constructor
    · rintro ⟨hfirst, hrest⟩ i d hd
      rcases i with - | i
      · obtain rfl := Option.some.inj hd
        exact hfirst
      · rw [← Nat.add_assoc, Nat.add_right_comm]
        exact hrest i d hd
    · intro h
      refine ⟨h 0 c rfl, fun i d hd => ?_⟩
      have hi := h (i + 1) d hd
      rwa [← Nat.add_assoc, Nat.add_right_comm] at hi

end Index.Matcher

namespace StatusFilter

open Index.Matcher

variable {f : StatusFilter} {backend : Nat}

/-- The bit and its character agree when the bit has the value that is required of it, if the
filter can require one. -/
theorem bitAgrees_bitChar_iff {bit : Nat} {value : Bool} :
    bitAgrees value (f.bitChar backend bit) = true ↔
      (firstBit ≤ bit → ∀ v, f.lookup bit backend = some (some v) → value = v) := by
  unfold bitChar
  split
  · rename_i hlow
    simp [bitAgrees, Nat.not_le.2 hlow]
  · rename_i hlow
    rw [Nat.not_lt] at hlow
    split <;> rename_i hlookup
    · simp [bitAgrees, hlow, hlookup]
    · simp [bitAgrees, hlow, hlookup]
    · have hnone : ∀ v, f.lookup bit backend ≠ some (some v) := by
        intro v
        cases v <;> assumption
      simp [bitAgrees, hnone]

/-- The string of bits, without the characters that are cut off. -/
theorem toList_bits? : ((f.bits? backend).getD "").toList =
    (f.bitChars backend).dropWhile (· == 'x') := by
  unfold bits?
  split
  · rename_i h
    rw [h]
    rfl
  · rw [Option.getD_some, String.toList_ofList]

/-- The characters of all bits, the lowest first. -/
theorem reverse_bitChars_getElem? {i : Nat} {c : Char} :
    (f.bitChars backend).reverse[i]? = some c ↔ i ≤ lastBit ∧ f.bitChar backend i = c := by
  rw [bitChars, ← List.map_reverse, List.reverse_reverse, List.getElem?_map]
  by_cases hi : i < lastBit + 1
  · rw [List.getElem?_range hi]
    simp [Nat.le_of_lt_succ hi]
  · rw [List.getElem?_eq_none (by simpa using hi)]
    simp [show ¬ i ≤ lastBit by omega]

/-- **What a string of bits asks for**: a status word agrees with it when each bit that the filter
fixes on the backend has its value. -/
theorem statusAgrees_bits?_iff {status : BitVec 64} :
    statusAgrees status ((f.bits? backend).getD "") = true ↔
      ∀ bit v, firstBit ≤ bit → bit ≤ lastBit → f.lookup bit backend = some (some v) →
        status.getLsbD bit = v := by
  have hsplit : (f.bitChars backend).reverse =
      ((f.bitChars backend).dropWhile (· == 'x')).reverse ++
        ((f.bitChars backend).takeWhile (· == 'x')).reverse := by
    rw [← List.reverse_append, List.takeWhile_append_dropWhile]
  rw [statusAgrees, toList_bits?, bitsAgree_iff]
  simp only [Nat.zero_add]
  constructor
  · intro h bit v hfirst hlast hlookup
    refine bitAgrees_bitChar_iff.1 ?_ hfirst v hlookup
    have hget : (f.bitChars backend).reverse[bit]? = some (f.bitChar backend bit) :=
      reverse_bitChars_getElem?.2 ⟨hlast, rfl⟩
    rw [hsplit, List.getElem?_append] at hget
    split at hget
    · exact h bit _ hget
    · -- A character that was cut off stands for a free bit.
      have hfree := List.mem_takeWhile_imp (List.mem_reverse.1 (List.mem_of_getElem? hget))
      rw [beq_iff_eq] at hfree
      rw [hfree]
      rfl
  · intro h i c hc
    have hget : (f.bitChars backend).reverse[i]? = some c := by
      rw [hsplit, List.getElem?_append, if_pos (List.getElem?_eq_some_iff.1 hc).1]
      exact hc
    obtain ⟨hlast, rfl⟩ := reverse_bitChars_getElem?.1 hget
    exact bitAgrees_bitChar_iff.2 fun hfirst v hlookup => h i v hfirst hlast hlookup

/-! ### Flagged records -/

/-- To flag a record changes none of the bits that a filter can constrain. -/
theorem getLsbD_flagged (status : BitVec 64) {bit : Nat} (h : firstBit ≤ bit) :
    (Record.flagged status).getLsbD bit = status.getLsbD bit := by
  -- the bits that are cleared and set are all below the first one of a filter
  have hlow : ∀ n ≤ 7, (BitVec.ofNat 64 n).getLsbD bit = false := fun n hn => by
    have hpow : 2 ^ firstBit ≤ 2 ^ bit := Nat.pow_le_pow_right Nat.zero_lt_two h
    have hlt : n < 2 ^ bit := Nat.lt_of_le_of_lt hn (Nat.lt_of_lt_of_le (by decide) hpow)
    rw [BitVec.getLsbD_ofNat, Nat.testBit_lt_two_pow hlt, Bool.and_false]
  rw [Record.flagged, BitVec.getLsbD_or, BitVec.getLsbD_and, BitVec.getLsbD_not,
    hlow 7 (by decide), hlow 4 (by decide)]
  by_cases hbit : bit < 64
  · simp [hbit]
  · simp [BitVec.getLsbD_of_ge status bit (Nat.not_lt.1 hbit)]

/-- **A string of bits says exactly what the filter says of a backend.** A status word agrees with
it, or with the empty string when there is none, exactly when every bit from 4 to 32 that the filter
fixes on the backend has its value. The string is one word of a query. A record that is flagged for
indexing anew agrees with it if and only if it does so before. -/
theorem bits?_exact (f : StatusFilter) (backend : Nat) (status : BitVec 64) :
    (statusAgrees status ((f.bits? backend).getD "") = true ↔
      ∀ bit v, 4 ≤ bit → bit ≤ 32 → f.lookup bit backend = some (some v) →
        status.getLsbD bit = v) ∧
      (∀ bits, f.bits? backend = some bits → Query.scan bits = .ok [⟨0, .word bits⟩]) ∧
      statusAgrees (Record.flagged status) ((f.bits? backend).getD "") =
        statusAgrees status ((f.bits? backend).getD "") := by
  refine ⟨statusAgrees_bits?_iff, fun bits hbits => ?_, ?_⟩
  · rw [← ofWord_of_bits? hbits]
    exact Query.scan_of_isWordChar
      (mt String.toList_eq_nil_iff.2 (dropWhile_of_bits? hbits).2) (isWordChar_of_bits? hbits)
  · rw [Bool.eq_iff_iff, statusAgrees_bits?_iff, statusAgrees_bits?_iff]
    refine forall₂_congr fun bit v => forall_congr' fun hfirst => ?_
    rw [getLsbD_flagged status hfirst]

/-- The highest bit fixed on one backend and another one on a second backend, with a bit that is
only declared. -/
example :
    let f := (((StatusFilter.empty.require 32 1 true).require 5 1 false).require 4 2 true).declare 7
    f.bits? 1 = some "1xxxxxxxxxxxxxxxxxxxxxxxxxx0xxxxx" ∧ f.bits? 2 = some "1xxxx" ∧
      f.bits? 3 = none := by
  decide +kernel

end StatusFilter

end FederatedSearch
