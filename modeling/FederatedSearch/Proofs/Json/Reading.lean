import FederatedSearch.Proofs.Json.Scalar

/-!
# Values that are written over several lines and read

A value that is written over several lines is read as the same value, unless something in it cannot
be written at all, or is a number that is read as another one. Lists and objects are read by steps,
each of which takes an entry and looks at the bracket or comma after it; what is written of an entry
ends there, at whatever level of indentation it stands.

* `FederatedSearch.Json.IsLegible`: the values that are read as they are written.
* `FederatedSearch.Json.IsReadAgain`: a value is read again from its lines.
* `FederatedSearch.Json.ofText?_pretty`: **a legible value is read again**.
-/

namespace FederatedSearch.Json

open Number

/-! ### Legible values -/

mutual

/-- **A value that is read as it is written.** Nothing in it is broken, its integers have 64 bits,
and its other numbers are what is read from their written forms. -/
def IsLegible : Json → Prop
  | .broken => False
  | .integer n => leastInt ≤ n ∧ n ≤ maxWord 64
  | .real x => readNumber? (realText x).toList = some (.real x, [])
  | .array items => AreLegible items
  | .object members => AreLegibleMembers members
  | _ => True

/-- Several values that are read as they are written. -/
def AreLegible : List Json → Prop
  | [] => True
  | j :: rest => j.IsLegible ∧ AreLegible rest

/-- Several members whose values are read as they are written. -/
def AreLegibleMembers : List (String × Json) → Prop
  | [] => True
  | (_, j) :: rest => j.IsLegible ∧ AreLegibleMembers rest

end

theorem areLegibleMembers_iff {members : List (String × Json)} :
    AreLegibleMembers members ↔ ∀ m ∈ members, m.2.IsLegible := by
  induction members with
  | nil => simp [AreLegibleMembers]
  | cons m rest ih => simp [AreLegibleMembers, ih]

variable {cs rest after : List Char}

/-! ### Steps -/

/-- The value at the start of a text and the text after it. -/
def takeValue? (cs : List Char) : Option (Json × List Char) := (readValue? cs).map (·.1)

/-- The items up to the closing bracket of a list and the text after it. -/
def takeItems? (cs : List Char) : Option (List Json × List Char) := (readItems? cs).map (·.1)

/-- The members up to the closing brace of an object and the text after it. -/
def takeMembers? (cs : List Char) : Option (List (Option String × Json) × List Char) :=
  (readMembers? cs).map (·.1)

/-- A value that is no list and no object is read by itself. -/
theorem takeValue?_scalar {c : Char} {r : Json × List Char} (hcs : skipSpace cs = c :: rest)
    (hbracket : c ≠ '[') (hbrace : c ≠ '\x7b') (h : readScalar? (c :: rest) = some r)
    (hr : r.2.length < cs.length) : takeValue? cs = some r := by
  rw [takeValue?, readValue?]
  split
  · rename_i heq
    exact absurd (List.cons.inj (hcs.symm.trans heq)).1 hbracket
  · rename_i heq
    exact absurd (List.cons.inj (hcs.symm.trans heq)).1 hbrace
  · rw [hcs, h, Text.shorter?, dif_pos hr, Option.map_some]

/-- After a bracket the items follow, or the list ends. -/
theorem takeValue?_bracket (hcs : skipSpace cs = '[' :: rest) :
    takeValue? cs = match skipSpace rest with
      | ']' :: after => some (.array [], after)
      | _ => (takeItems? rest).map fun (items, after) => (.array items, after) := by
  rw [takeValue?, readValue?]
  split
  · rename_i heq
    obtain rfl := (List.cons.inj (hcs.symm.trans heq)).2
    split
    · rename_i heq'
      simp only [heq', Option.map_some]
    · rename_i hne
      split
      · rename_i heq'
        exact absurd heq' (hne _)
      · rw [takeItems?]
        cases readItems? _ <;> rfl
  · rename_i heq
    cases hcs.symm.trans heq
  · rename_i hne _
    exact absurd hcs (hne _)

/-- After a brace the members follow, or the object ends. -/
theorem takeValue?_brace (hcs : skipSpace cs = '\x7b' :: rest) :
    takeValue? cs = match skipSpace rest with
      | '\x7d' :: after => some (.object [], after)
      | _ => (takeMembers? rest).map fun (members, after) => (ofMembers members, after) := by
  rw [takeValue?, readValue?]
  split
  · rename_i heq
    cases hcs.symm.trans heq
  · rename_i heq
    obtain rfl := (List.cons.inj (hcs.symm.trans heq)).2
    split
    · rename_i heq'
      simp only [heq', Option.map_some]
    · rename_i hne
      split
      · rename_i heq'
        exact absurd heq' (hne _)
      · rw [takeMembers?]
        cases readMembers? _ <;> rfl
  · rename_i hne
    exact absurd hcs (hne _)

/-- After an item the list ends, or another one follows. -/
theorem takeItems?_of_value {j : Json} (hvalue : takeValue? cs = some (j, after)) :
    takeItems? cs = match skipSpace after with
      | ']' :: rest => some ([j], rest)
      | ',' :: rest => (takeItems? rest).map fun (items, last) => (j :: items, last)
      | _ => none := by
  obtain ⟨⟨_, hr⟩, hread, rfl⟩ := Option.map_eq_some_iff.1 hvalue
  rw [takeItems?, readItems?, hread]
  simp only [Option.bind_eq_bind, Option.bind_some]
  split
  · rename_i heq
    simp only [heq, Option.pure_def, Option.map_some]
  · rename_i heq
    simp only [heq, takeItems?]
    cases readItems? _ <;> rfl
  · rename_i hend hmore
    split
    · rename_i heq
      exact absurd heq (hend _)
    · rename_i heq
      exact absurd heq (hmore _)
    · rfl

/-- After a member the object ends, or another one follows. -/
theorem takeMembers?_of_value {name : Option String} {j : Json} {value : List Char}
    (hname : readName? cs = some (name, value)) (hshorter : value.length < cs.length)
    (hvalue : takeValue? value = some (j, after)) :
    takeMembers? cs = match skipSpace after with
      | '\x7d' :: rest => some ([(name, j)], rest)
      | ',' :: rest => (takeMembers? rest).map fun (members, last) => ((name, j) :: members, last)
      | _ => none := by
  obtain ⟨⟨_, hr⟩, hread, rfl⟩ := Option.map_eq_some_iff.1 hvalue
  rw [takeMembers?, readMembers?, hname, Text.shorter?, dif_pos hshorter]
  simp only [Option.bind_eq_bind, Option.bind_some, hread]
  split
  · rename_i heq
    simp only [heq, Option.pure_def, Option.map_some]
  · rename_i heq
    simp only [heq, takeMembers?]
    cases readMembers? _ <;> rfl
  · rename_i hend hmore
    split
    · rename_i heq
      exact absurd heq (hend _)
    · rename_i heq
      exact absurd heq (hmore _)
    · rfl

/-! ### Lines and entries -/

/-- The indent of a line is blank. -/
theorem isSpace_of_mem_lineBreak (level : Nat) :
    ∀ c ∈ (lineBreak level).toList, isSpace c = true := by
  intro c h
  rw [lineBreak, String.toList_ofList, List.mem_cons, List.mem_replicate] at h
  rcases h with rfl | ⟨-, rfl⟩ <;> decide

theorem toList_lineBreak (level : Nat) :
    (lineBreak level).toList = '\n' :: List.replicate (2 * level) ' ' :=
  String.toList_ofList

/-- What separates the entries of a block. -/
def separator (level : Nat) : List Char := ',' :: (lineBreak level).toList

/-- The entries of a block with what separates them, and what follows the last. -/
def entriesText (level : Nat) (entries : List String) : List Char :=
  List.intercalate (separator (level + 1)) (entries.map String.toList) ++ (lineBreak level).toList

theorem toList_block (level : Nat) (opening closing : String) {entries : List String}
    (h : entries ≠ []) :
    (block level opening closing entries).toList =
      opening.toList ++ ((lineBreak (level + 1)).toList ++
        (entriesText level entries ++ closing.toList)) := by
  rw [block, if_neg (by simpa using h)]
  simp [entriesText, separator, String.toList_intercalate]

theorem toList_block_nil (level : Nat) (opening closing : String) :
    (block level opening closing []).toList = opening.toList ++ closing.toList := by
  rw [block, if_pos List.isEmpty_nil, String.toList_append]

/-- A block starts as its opening does. -/
theorem exists_toList_block (level : Nat) (opening closing : String) (entries : List String) :
    ∃ cs, (block level opening closing entries).toList = opening.toList ++ cs := by
  rcases entries with - | ⟨entry, entries⟩
  · exact ⟨_, toList_block_nil level opening closing⟩
  · exact ⟨_, toList_block level opening closing (List.cons_ne_nil entry entries)⟩

theorem entriesText_singleton (level : Nat) (entry : String) :
    entriesText level [entry] = entry.toList ++ (lineBreak level).toList := by
  simp [entriesText]

theorem entriesText_cons_cons (level : Nat) (entry next : String) (entries : List String) :
    entriesText level (entry :: next :: entries) =
      entry.toList ++ (separator (level + 1) ++ entriesText level (next :: entries)) := by
  simp [entriesText, List.intercalate_cons_cons]

/-- The entries start as the first of them does. -/
theorem exists_cons_entriesText {c : Char} {ds : List Char} {entry : String}
    (h : entry.toList = c :: ds) (level : Nat) (entries : List String) :
    ∃ ds, entriesText level (entry :: entries) = c :: ds := by
  rcases entries with - | ⟨next, entries⟩
  · exact ⟨_, by rw [entriesText_singleton, h, List.cons_append]⟩
  · exact ⟨_, by rw [entriesText_cons_cons, h, List.cons_append]⟩

theorem endsNumber_lineBreak (level : Nat) (rest : List Char) :
    EndsNumber ((lineBreak level).toList ++ rest) := by
  rw [toList_lineBreak]
  rintro c ⟨⟩
  decide

theorem endsNumber_separator (level : Nat) (rest : List Char) :
    EndsNumber (separator level ++ rest) := by
  rintro c ⟨⟩
  decide

/-! ### Values that are read again -/

/-- A scalar is read after blanks. -/
theorem IsScalar.takeValue? {j : Json} (h : IsScalar j cs) {b : List Char}
    (hb : ∀ c ∈ b, isSpace c = true) (hrest : EndsNumber rest) :
    Json.takeValue? (b ++ (cs ++ rest)) = some (j, rest) := by
  have hread := h.read rest hrest
  obtain ⟨c, ds, rfl, hspace, hbracket, hbrace, -⟩ := h.exists_cons
  rw [List.cons_append] at hread ⊢
  refine takeValue?_scalar ?_ hbracket hbrace hread ?_
  · exact skipSpace_append_cons hb hspace _
  · simp only [List.length_append, List.length_cons]
    omega

/-- **The value is read again** from its lines, at any level, after blanks and before anything that
does not go on with a number. -/
structure IsReadAgain (j : Json) : Prop where
  exists_cons : ∀ level, ∃ c ds, (j.prettyAt level).toList = c :: ds ∧ isSpace c = false ∧ c ≠ ']'
  read : ∀ level b rest, (∀ c ∈ b, isSpace c = true) → EndsNumber rest →
    takeValue? (b ++ ((j.prettyAt level).toList ++ rest)) = some (j, rest)

theorem IsScalar.isReadAgain {j : Json} (h : IsScalar j cs)
    (hcs : ∀ level, (j.prettyAt level).toList = cs) : j.IsReadAgain := by
  refine ⟨fun level => ?_, fun level b rest hb hrest => ?_⟩
  · obtain ⟨c, ds, hcons, hspace, -, -, hend⟩ := h.exists_cons
    exact ⟨c, ds, (hcs level).trans hcons, hspace, hend⟩
  · rw [hcs]
    exact h.takeValue? hb hrest

theorem skipSpace_lineBreak (level : Nat) (rest : List Char) :
    skipSpace ((lineBreak level).toList ++ rest) = skipSpace rest :=
  skipSpace_append (isSpace_of_mem_lineBreak level)

/-- **The items of a list are read again**, up to its closing bracket. -/
theorem takeItems?_entriesText (level : Nat) (rest : List Char) {j : Json} {js : List Json}
    (h : ∀ k ∈ j :: js, k.IsReadAgain) :
    takeItems? ((lineBreak (level + 1)).toList ++
      (entriesText level (prettyItems (level + 1) (j :: js)) ++ ']' :: rest)) =
        some (j :: js, rest) := by
  induction js generalizing j with
  | nil =>
    have hvalue := (h j List.mem_cons_self).read (level + 1) _ ((lineBreak level).toList ++
      ']' :: rest) (isSpace_of_mem_lineBreak (level + 1)) (endsNumber_lineBreak level _)
    rw [prettyItems, prettyItems, entriesText_singleton, List.append_assoc,
      takeItems?_of_value hvalue, skipSpace_lineBreak, skipSpace_cons (by decide)]
    rfl
  | cons k js ih =>
    obtain ⟨hj, hrest⟩ := List.forall_mem_cons.1 h
    have hvalue := hj.read (level + 1) _ (separator (level + 1) ++
      (entriesText level (prettyItems (level + 1) (k :: js)) ++ ']' :: rest))
      (isSpace_of_mem_lineBreak (level + 1)) (endsNumber_separator (level + 1) _)
    rw [prettyItems, prettyItems, entriesText_cons_cons, List.append_assoc, List.append_assoc,
      ← prettyItems, takeItems?_of_value hvalue, separator, List.cons_append,
      skipSpace_cons (by decide)]
    simp only [ih hrest, Option.map_some]

/-- A member is read again: its name between quotes, a colon, a space and its value. -/
theorem takeMembers?_member (level : Nat) (name : String) {j : Json} (h : j.IsReadAgain)
    (hrest : EndsNumber rest) :
    takeMembers? ((lineBreak level).toList ++
      ((quoted name ++ ": " ++ j.prettyAt level).toList ++ rest)) = match skipSpace rest with
        | '\x7d' :: rest => some ([(some name, j)], rest)
        | ',' :: rest => (takeMembers? rest).map fun (members, last) =>
          ((some name, j) :: members, last)
        | _ => none := by
  have hspace : ∀ c ∈ [' '], isSpace c = true := by simp [isSpace]
  have hvalue := h.read level [' '] rest hspace hrest
  have hname := readName?_quoted (isSpace_of_mem_lineBreak level) name
    ([' '] ++ ((j.prettyAt level).toList ++ rest))
  have htext : (quoted name ++ ": " ++ j.prettyAt level).toList ++ rest =
      (quoted name).toList ++ ':' :: ([' '] ++ ((j.prettyAt level).toList ++ rest)) := by
    simp
  rw [htext]
  refine takeMembers?_of_value hname ?_ hvalue
  simp only [List.length_append, List.length_cons]
  omega

/-- **The members of an object are read again**, up to its closing brace. -/
theorem takeMembers?_entriesText (level : Nat) (rest : List Char) {m : String × Json}
    {ms : List (String × Json)} (h : ∀ k ∈ m :: ms, k.2.IsReadAgain) :
    takeMembers? ((lineBreak (level + 1)).toList ++
      (entriesText level (prettyMembers (level + 1) (m :: ms)) ++ '\x7d' :: rest)) =
        some ((m :: ms).map fun k => (some k.1, k.2), rest) := by
  induction ms generalizing m with
  | nil =>
    rw [prettyMembers, prettyMembers, entriesText_singleton, List.append_assoc,
      takeMembers?_member (level + 1) m.1 (h m List.mem_cons_self) (endsNumber_lineBreak level _),
      skipSpace_lineBreak, skipSpace_cons (by decide)]
    rfl
  | cons k ms ih =>
    obtain ⟨hm, hrest⟩ := List.forall_mem_cons.1 h
    rw [prettyMembers, prettyMembers, entriesText_cons_cons, List.append_assoc, List.append_assoc,
      ← prettyMembers, takeMembers?_member (level + 1) m.1 hm (endsNumber_separator (level + 1) _),
      separator, List.cons_append, skipSpace_cons (by decide)]
    simp only [ih hrest, Option.map_some, List.map_cons]

theorem ofMembers_map (members : List (String × Json)) :
    ofMembers (members.map fun m => (some m.1, m.2)) = .object members := by
  have hmap : (members.map fun m => (some m.1, m.2)).mapM
      (fun (m : Option String × Json) => m.1.map (·, m.2)) = some members := by
    induction members with
    | nil => rfl
    | cons m ms ih => simp [ih]
  simp only [ofMembers, hmap]

theorem toList_array_nil (level : Nat) :
    ((Json.array []).prettyAt level).toList = ['[', ']'] := by
  rw [prettyAt, prettyItems, toList_block_nil]
  rfl

/-- The lines of a list with items. -/
theorem toList_array_cons (level : Nat) (j : Json) (js : List Json) :
    ((Json.array (j :: js)).prettyAt level).toList = '[' :: ((lineBreak (level + 1)).toList ++
      (entriesText level (prettyItems (level + 1) (j :: js)) ++ [']'])) := by
  rw [prettyAt, toList_block level _ _ (by simp [prettyItems])]
  rfl

/-- **A list is read again** when its items are. -/
theorem isReadAgain_array {items : List Json} (h : ∀ j ∈ items, j.IsReadAgain) :
    (Json.array items).IsReadAgain := by
  rcases items with - | ⟨j, js⟩
  · refine ⟨fun level => ⟨'[', _, toList_array_nil level, by decide⟩, fun level b rest hb _ => ?_⟩
    have hopen := skipSpace_append_cons hb (c := '[') (by decide)
    rw [toList_array_nil, List.cons_append, takeValue?_bracket (hopen _), List.singleton_append,
      skipSpace_cons (by decide)]
    rfl
  · refine ⟨fun level => ⟨'[', _, toList_array_cons level j js, by decide⟩,
      fun level b rest hb _ => ?_⟩
    have hopen := skipSpace_append_cons hb (c := '[') (by decide)
    -- no closing bracket stands at the start of the first item
    obtain ⟨c, ds, hc, hspace, hend⟩ := (h j List.mem_cons_self).exists_cons (level + 1)
    obtain ⟨es, hes⟩ := exists_cons_entriesText hc level (prettyItems (level + 1) js)
    have hitems := takeItems?_entriesText level rest h
    rw [prettyItems, hes] at hitems
    rw [toList_array_cons, prettyItems, hes, List.cons_append, takeValue?_bracket (hopen _),
      List.append_assoc, List.append_assoc, List.singleton_append, skipSpace_lineBreak,
      List.cons_append, skipSpace_cons hspace, ← List.cons_append, hitems]
    simp [hend]

theorem toList_object_nil (level : Nat) :
    ((Json.object []).prettyAt level).toList = ['\x7b', '\x7d'] := by
  rw [prettyAt, prettyMembers, toList_block_nil]
  rfl

/-- The lines of an object with members. -/
theorem toList_object_cons (level : Nat) (m : String × Json) (ms : List (String × Json)) :
    ((Json.object (m :: ms)).prettyAt level).toList = '\x7b' :: ((lineBreak (level + 1)).toList ++
      (entriesText level (prettyMembers (level + 1) (m :: ms)) ++ ['\x7d'])) := by
  rw [prettyAt, toList_block level _ _ (by simp [prettyMembers])]
  rfl

/-- A member starts with the quote of its name. -/
theorem toList_member (level : Nat) (m : String × Json) :
    (quoted m.1 ++ ": " ++ m.2.prettyAt level).toList =
      '"' :: ((m.1.toList.flatMap escapeChar ++ ['"']) ++ (": " ++ m.2.prettyAt level).toList) := by
  rw [String.append_assoc, String.toList_append, toList_quoted, List.cons_append]

/-- **An object is read again** when the values of its members are. -/
theorem isReadAgain_object {members : List (String × Json)}
    (h : ∀ m ∈ members, m.2.IsReadAgain) : (Json.object members).IsReadAgain := by
  rcases members with - | ⟨m, ms⟩
  · refine ⟨fun level => ⟨'\x7b', _, toList_object_nil level, by decide⟩,
      fun level b rest hb _ => ?_⟩
    have hopen := skipSpace_append_cons hb (c := '\x7b') (by decide)
    rw [toList_object_nil, List.cons_append, takeValue?_brace (hopen _), List.singleton_append,
      skipSpace_cons (by decide)]
    rfl
  · refine ⟨fun level => ⟨'\x7b', _, toList_object_cons level m ms, by decide⟩,
      fun level b rest hb _ => ?_⟩
    have hopen := skipSpace_append_cons hb (c := '\x7b') (by decide)
    obtain ⟨es, hes⟩ := exists_cons_entriesText (toList_member (level + 1) m) level
      (prettyMembers (level + 1) ms)
    have hmembers := takeMembers?_entriesText level rest h
    rw [prettyMembers, hes] at hmembers
    rw [toList_object_cons, prettyMembers, hes, List.cons_append, takeValue?_brace (hopen _),
      List.append_assoc, List.append_assoc, List.singleton_append, skipSpace_lineBreak,
      List.cons_append, skipSpace_cons (by decide), ← List.cons_append, hmembers]
    exact congrArg (fun j => some (j, rest)) (ofMembers_map (m :: ms))

mutual

/-- **Every legible value is read again.** -/
theorem isReadAgain_of_isLegible : ∀ j : Json, j.IsLegible → j.IsReadAgain
  | .null, _ => isScalar_null.isReadAgain fun level => by rw [prettyAt]
  | .bool b, _ => (isScalar_bool b).isReadAgain fun level => by rw [prettyAt]
  | .integer n, h => by
    rw [IsLegible] at h
    exact (isScalar_number (readNumber?_toString h.1 h.2)).isReadAgain fun level => by
      rw [prettyAt]
  | .real x, h => by
    rw [IsLegible] at h
    exact (isScalar_number h).isReadAgain fun level => by rw [prettyAt]
  | .text s, _ => (isScalar_text s).isReadAgain fun level => by rw [prettyAt]
  | .array items, h => by
    rw [IsLegible] at h
    exact isReadAgain_array (areReadAgain_of_areLegible items h)
  | .object members, h => by
    rw [IsLegible] at h
    exact isReadAgain_object (areReadAgain_of_areLegibleMembers members h)
  | .broken, h => by
    rw [IsLegible] at h
    exact h.elim

theorem areReadAgain_of_areLegible : ∀ items : List Json, AreLegible items →
    ∀ j ∈ items, j.IsReadAgain
  | [], _ => by simp
  | j :: js, h => by
    rw [AreLegible] at h
    exact List.forall_mem_cons.2
      ⟨isReadAgain_of_isLegible j h.1, areReadAgain_of_areLegible js h.2⟩

theorem areReadAgain_of_areLegibleMembers : ∀ members : List (String × Json),
    AreLegibleMembers members → ∀ m ∈ members, m.2.IsReadAgain
  | [], _ => by simp
  | (_, j) :: ms, h => by
    rw [AreLegibleMembers] at h
    exact List.forall_mem_cons.2
      ⟨isReadAgain_of_isLegible j h.1, areReadAgain_of_areLegibleMembers ms h.2⟩

end

/-- **A legible value that is written over several lines is read again.** -/
theorem ofText?_pretty {j : Json} (h : j.IsLegible) : ofText? j.pretty = some j := by
  have hread := (isReadAgain_of_isLegible j h).read 0 [] [] (by simp) (by simp [EndsNumber])
  rw [List.nil_append, List.append_nil] at hread
  obtain ⟨⟨r, hr⟩, hvalue, rfl⟩ := Option.map_eq_some_iff.1 hread
  rw [ofText?, pretty, hvalue]
  rfl

end FederatedSearch.Json
