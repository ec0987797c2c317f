/-!
# The order of texts

Texts are ordered like words in a dictionary, character by character and by scalar value. The bytes
of their UTF-8 forms are ordered the same way.
-/

namespace FederatedSearch.Text

/-- The order of two lists of characters. -/
def cmpChars : List Char → List Char → Ordering
  | [], [] => .eq
  | [], _ :: _ => .lt
  | _ :: _, [] => .gt
  | a :: as, b :: bs => (compare a.toNat b.toNat).then (cmpChars as bs)

/-- **The order of texts.** -/
def cmpText (s t : String) : Ordering := cmpChars s.toList t.toList

@[simp] theorem cmpChars_self (cs : List Char) : cmpChars cs cs = .eq := by
  induction cs with
  | nil => rfl
  | cons c cs ih => simp [cmpChars, ih]

/-- Only equal lists of characters are level. -/
theorem eq_of_cmpChars {cs ds : List Char} (h : cmpChars cs ds = .eq) : cs = ds := by
  induction cs generalizing ds with
  | nil => cases ds with
    | nil => rfl
    | cons d ds => simp [cmpChars] at h
  | cons c cs ih => cases ds with
    | nil => simp [cmpChars] at h
    | cons d ds =>
      simp only [cmpChars, Ordering.then_eq_eq, Nat.compare_eq_eq] at h
      rw [ih h.2, Char.ext (UInt32.toNat_inj.1 h.1)]

theorem cmpText_eq_iff {s t : String} : cmpText s t = .eq ↔ s = t :=
  ⟨fun h => String.toList_inj.1 (eq_of_cmpChars h), fun h => by simp [h, cmpText]⟩

end FederatedSearch.Text
