import FederatedSearch.Proofs.Query.Composing

/-!
# Names that clauses are written with

The names of fields come from callers, and those that hold anything but letters, numbers,
underscores, dots and hyphens are left out of the clauses. What is left is scanned as one token
wherever it stands, so nothing of a name gets out of its place. But the token need not be a word: a
name that is spelled like a keyword is let through, and the clause that it is written into cannot be
read.

* `FederatedSearch.Query.Mentions`: a clause is written with a name.
* `FederatedSearch.Query.writable_iff`: the clauses can be read when no such name is a keyword.
* `FederatedSearch.Query.parse_backendQueryText_iff_no_keyword`: **which names keep a query
  readable**.
-/

namespace FederatedSearch.Query

variable {o : SearchOptions} {name : String}

/-- **A clause is written with a name**: the name can be written, and it is one of the fields that
are looked at, or one of the date fields while there is a bound on dates. -/
def Mentions (o : SearchOptions) (name : String) : Prop :=
  isFieldName name = true ∧
    (name ∈ o.fields ∨ name ∈ o.dateFields ∧ o.hasDateRange = true)

/-- A name that can be written is one token, whatever letters it has. -/
theorem scan_of_isFieldName (h : isFieldName name = true) :
    scan name = .ok [⟨0, .ofWord name⟩] := by
  simp only [isFieldName, Bool.and_eq_true, Bool.not_eq_true', List.all_eq_true] at h
  obtain ⟨hne, hchars⟩ := h
  exact scan_of_isWordChar (by simpa [String.isEmpty_iff] using hne)
    fun c hc => isWordChar_of_isFieldNameChar (hchars c hc)

/-- **The clauses can be read** when none is written with a keyword. -/
theorem writable_iff : Writable o ↔ ∀ name, Mentions o name → isKeyword name = false := by
  have hnames : ∀ (fields : List String) (name : String),
      name ∈ fieldNames fields ↔ name ∈ fields ∧ isFieldName name = true := fun fields name =>
    List.mem_filter
  constructor
  · rintro ⟨hfields, hmin, hmax⟩ name ⟨hname, hfield | ⟨hdate, hrange⟩⟩
    · exact hfields name ((hnames _ _).2 ⟨hfield, hname⟩)
    -- one of the two bounds is set, and the name is written into its clause
    · rcases Bool.or_eq_true_iff.1 hrange with hset | hset
      · exact hmin hset name ((hnames _ _).2 ⟨hdate, hname⟩)
      · exact hmax hset name ((hnames _ _).2 ⟨hdate, hname⟩)
  · intro h
    refine ⟨fun name hname => ?_, fun hset name hname => ?_, fun hset name hname => ?_⟩
    · obtain ⟨hfield, hwritten⟩ := (hnames _ _).1 hname
      exact h name ⟨hwritten, .inl hfield⟩
    · obtain ⟨hdate, hwritten⟩ := (hnames _ _).1 hname
      exact h name ⟨hwritten, .inr ⟨hdate, Bool.or_eq_true_iff.2 (.inl hset)⟩⟩
    · obtain ⟨hdate, hwritten⟩ := (hnames _ _).1 hname
      exact h name ⟨hwritten, .inr ⟨hdate, Bool.or_eq_true_iff.2 (.inr hset)⟩⟩

/-- **Which names keep a query readable.** Whatever names the options have, each that a clause is
written with is scanned as a single token. A query that can be read can be read with the clauses of
the options exactly when none of these tokens is a keyword, on every backend and with every status
filter and all dates. -/
theorem parse_backendQueryText_iff_no_keyword {base : String} (hbase : ∃ b, parse base = .ok b)
    (o : SearchOptions) (backend : Nat) :
    (∀ name, Mentions o name → scan name = .ok [⟨0, .ofWord name⟩]) ∧
      ((∃ e, parse (backendQueryText base o backend) = .ok e) ↔
        ∀ name, Mentions o name → isKeyword name = false) := by
  refine ⟨fun name hname => scan_of_isFieldName hname.1, ?_⟩
  rw [← writable_iff]
  constructor
  · rintro ⟨e, he⟩
    exact (parse_backendQueryText_eq_ok_iff.1 he).1
  · intro hwritable
    obtain ⟨b, hb⟩ := hbase
    exact ⟨_, parse_backendQueryText_eq_ok_iff.2 ⟨hwritable, b, hb, rfl⟩⟩

/-- A date field that is spelled like a keyword does no harm until there is a bound on dates. -/
theorem parse_backendQueryText_of_keyword :
    (∃ b, parse "sea" = .ok b) ∧
      (∃ e, parse (backendQueryText "sea"
        { fields := ["Größe", "two words"], dateFields := ["Or"] } 1) = .ok e) ∧
      ¬ ∃ e, parse (backendQueryText "sea"
        { fields := ["Größe", "two words"], dateFields := ["Or"],
          minDate := some ⟨2020, 1, 2, by decide⟩ } 1) = .ok e := by
  have hsea : ∃ b, parse "sea" = .ok b := isSome_toOption_iff.1 (by decide +kernel)
  have hwritten : ∀ name ∈ ["Größe", "two words"], isKeyword name = false := by decide
  refine ⟨hsea, ?_, ?_⟩
  · refine (parse_backendQueryText_iff_no_keyword hsea _ 1).2.2 ?_
    rintro name ⟨-, hfield | ⟨-, hrange⟩⟩
    · exact hwritten name hfield
    · cases hrange
  · intro hread
    have hnone := (parse_backendQueryText_iff_no_keyword hsea _ 1).2.1 hread "Or"
      ⟨by decide +kernel, .inr ⟨List.mem_cons_self, rfl⟩⟩
    revert hnone
    decide

/-- **A field that is spelled like a keyword makes a query unreadable**, though its name is let
through. -/
theorem not_forall_parse_backendQueryText :
    ¬ ∀ (base : String) (o : SearchOptions) (backend : Nat), (∃ b, parse base = .ok b) →
      ∃ e, parse (backendQueryText base o backend) = .ok e := by
  intro h
  have hread := isSome_toOption_iff.2 (h "sea" { fields := ["Title", "In"] } 1
    (isSome_toOption_iff.1 (by decide +kernel)))
  have hunread : (parse (backendQueryText "sea" { fields := ["Title", "In"] } 1)).toOption.isSome =
      false := by
    decide +kernel
  exact Bool.false_ne_true (hunread.symm.trans hread)

end FederatedSearch.Query
