import FederatedSearch.Index.Server

/-!
# The ids of sessions

A session is called by its number in hexadecimal digits, with zeros in front of them. Reading the
digits gives the number back, so sessions of different numbers have different ids.

* `FederatedSearch.hexNumber_toDigits`: the digits of a number say which number it is.
* `FederatedSearch.Server.sessionId_injective`: no two numbers share an id.
-/

namespace FederatedSearch

/-! ### Reading hexadecimal digits -/

/-- The value of a hexadecimal digit. -/
def hexValue (c : Char) : Nat := if c.toNat < 97 then c.toNat - 48 else c.toNat - 87

/-- **The number that hexadecimal digits spell.** -/
def hexNumber (ds : List Char) : Nat := ds.foldl (fun n c => 16 * n + hexValue c) 0

theorem hexValue_digitChar {n : Nat} (h : n < 16) : hexValue n.digitChar = n := by
  have hall : ∀ d : Fin 16, hexValue (Nat.digitChar d) = d := by decide
  exact hall ⟨n, h⟩

@[simp] theorem hexNumber_append_singleton (ds : List Char) (c : Char) :
    hexNumber (ds ++ [c]) = 16 * hexNumber ds + hexValue c := by
  simp [hexNumber]

/-- **The digits of a number say which number it is.** -/
theorem hexNumber_toDigits (n : Nat) : hexNumber (Nat.toDigits 16 n) = n := by
  induction n using Nat.strongRecOn with
  | ind n ih =>
    rcases Nat.lt_or_ge n 16 with h | h
    · rw [Nat.toDigits_of_lt_base h]
      simp [hexNumber, hexValue_digitChar h]
    · have hdiv : n / 16 < n := Nat.div_lt_self (by omega) (by omega)
      have hmod : n % 16 < 16 := Nat.mod_lt _ (by omega)
      rw [Nat.toDigits_of_base_le (by omega) h, hexNumber_append_singleton, ih _ hdiv,
        hexValue_digitChar hmod]
      omega

/-- Zeros in front of digits do not change the number. -/
theorem hexNumber_zeros (k : Nat) (ds : List Char) :
    hexNumber (List.replicate k '0' ++ ds) = hexNumber ds := by
  induction k with
  | zero => rfl
  | succ k ih =>
    rw [List.replicate_succ, List.cons_append]
    exact ih

/-! ### Ids -/

namespace Server

theorem toList_sessionId (n : Nat) :
    (sessionId n).toList = ['m', 'e', 'm', '-'] ++
      (List.replicate (8 - (Nat.toDigits 16 n).length) '0' ++ Nat.toDigits 16 n) :=
  String.toList_ofList.trans (List.append_assoc _ _ _)

/-- The number of a session can be read off its id. -/
theorem hexNumber_sessionId (n : Nat) : hexNumber ((sessionId n).toList.drop 4) = n := by
  rw [toList_sessionId]
  exact (hexNumber_zeros _ _).trans (hexNumber_toDigits n)

/-- **No two numbers share an id.** -/
theorem sessionId_injective : Function.Injective sessionId := by
  intro m n h
  rw [← hexNumber_sessionId m, ← hexNumber_sessionId n, h]

end Server

end FederatedSearch
