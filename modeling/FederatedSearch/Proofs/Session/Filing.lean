import FederatedSearch.Proofs.Calendar.Instant
import FederatedSearch.Proofs.Json.Reading
import FederatedSearch.Proofs.Session.Operating
import FederatedSearch.Proofs.Session.Upkeep

/-!
# Rows that are written to a file and read from it

A file is a store that reads back the rows whose parts are read as they are written. Texts are, and
so are the instants of the years 0 to 9999 and the numbers of 64 bits; of a duration it has to be
asked for, since its last bit may be read as another one. The rows that a cache writes by itself,
when a session is opened or nothing came of an execution, have no duration, so that only the rows of
executions have to be looked at.

* `FederatedSearch.Row.IsLegible`: the rows that are read as they are written.
* `FederatedSearch.Row.ofJson?_toJson`, `FederatedSearch.Row.readsBack_of_isLegible`: **a row, and a
  table of rows, is read back**.
* `FederatedSearch.Row.admits_isLegible`: the rows of no query.
* `FederatedSearch.Store.newFile_faithful`: a new file is a store that reads back legible rows.
* `FederatedSearch.Store.traceable_of_isLegible`: operations that put legible rows only.
-/

namespace FederatedSearch

open FederatedSearch.Action Calendar Number

/-! ### Rows -/

/-- An instant is read from its value. -/
theorem Calendar.Instant.ofJson?_toJson {t : Instant} (h : t.IsLegible) :
    Instant.ofJson? t.toJson = some t := by
  rw [Instant.ofJson?, Instant.toJson, Json.text?, Option.bind_some, Instant.ofText?_toText h]

namespace Row

/-- **The row is read from what is written of it**, part by part. -/
structure IsLegible (r : Row) : Prop where
  queryTime : r.queryTime.IsLegible
  lastAccess : r.lastAccess.IsLegible
  duration : (Json.real r.duration).IsLegible
  total : r.total ≤ maxWord 64

variable {r : Row} {rows : Table String Row} {now : Instant}

/-- A legible row is written as a legible value. -/
theorem isLegible_toJson (h : r.IsLegible) : r.toJson.IsLegible := by
  have htotal : (Json.nat r.total).IsLegible := by
    have hleast : leastInt ≤ 0 := by decide
    rw [Json.IsLegible]
    exact ⟨Int.le_trans hleast (Int.natCast_nonneg _), Int.ofNat_le.2 h.total⟩
  simp only [Row.toJson, Instant.toJson, Json.IsLegible, Json.AreLegibleMembers, true_and, and_true]
  exact ⟨h.duration, htotal⟩

/-- **A row is read from its value.** -/
theorem ofJson?_toJson (h : r.IsLegible) : ofJson? r.toJson = some r := by
  have hfields : Json.fields? memberNames r.toJson = some (.byName
      [("session_id", .text r.session), ("query", .text r.query),
        ("query_time", r.queryTime.toJson), ("duration", .real r.duration),
        ("total", .nat r.total), ("last_access", r.lastAccess.toJson)]) := rfl
  have htotal : Json.word? 64 (.nat r.total) = some r.total := by
    simp [Json.word?, h.total]
  simp [ofJson?, hfields, Json.Fields.required, Json.Fields.get?, Json.text?, Json.real?, htotal,
    Instant.ofJson?_toJson h.queryTime, Instant.ofJson?_toJson h.lastAccess]

/-- A duration of no time is read as it is written. -/
theorem isLegible_zero : (Json.real (.zero false)).IsLegible := by
  have htext : (Json.realText (.zero false)).toList = ['0', '.', '0'] := by decide +kernel
  have hzero : Json.Kept.toReal ⟨0, -1⟩ false = .zero false := by decide +kernel
  rw [Json.IsLegible, htext]
  exact congrArg (fun x => some (Json.ofReal x, [])) hzero

/-- **Rows of no query** are legible when they are written at a legible time. -/
theorem admits_isLegible (h : now.IsLegible) : Row.Admits IsLegible now where
  created _ := ⟨h, h, isLegible_zero, Nat.zero_le _⟩
  emptied _ hr := ⟨hr.queryTime, h, isLegible_zero, Nat.zero_le _⟩

/-! ### Tables -/

/-- The rows of a table are read from their values, in their order. -/
theorem mapM_ofJson? (h : ∀ id row, (id, row) ∈ rows → row.IsLegible) :
    (rows.map fun (key, row) => (key, row.toJson)).mapM
      (fun (key, j) => (ofJson? j).map (key, ·)) = some rows := by
  induction rows with
  | nil => rfl
  | cons p rest ih =>
    obtain ⟨id, row⟩ := p
    have hrow := ofJson?_toJson (h id row List.mem_cons_self)
    have hrest := ih fun id row hmem => h id row (List.mem_cons_of_mem _ hmem)
    simp only [List.map_cons, List.mapM_cons, hrow, hrest, Option.map_some, Option.bind_eq_bind,
      Option.bind_some, Option.pure_def]

/-- A table of rows is read from its value. -/
theorem tableOfJson?_tableToJson (h : TableOf IsLegible rows) :
    tableOfJson? (tableToJson rows) = some rows := by
  simp only [tableOfJson?, tableToJson, mapM_ofJson? h.kind, Option.bind_eq_bind, Option.bind_some,
    Option.pure_def]
  exact congrArg some (Table.foldl_insert_of_ascending h.ascending)

/-- The text of a table starts with a brace. -/
theorem isBlankText_tableText (rows : Table String Row) :
    Text.isBlankText (tableText rows) = false := by
  have htext : tableText rows = Json.block 0 "\x7b" "\x7d"
      (Json.prettyMembers 1 (rows.map fun (key, row) => (key, row.toJson))) := by
    rw [tableText, tableToJson, Json.pretty, Json.prettyAt]
  obtain ⟨cs, hcs⟩ := Json.exists_toList_block 0 "\x7b" "\x7d"
    (Json.prettyMembers 1 (rows.map fun (key, row) => (key, row.toJson)))
  have hbrace : Text.isBlankText "\x7b" = false := by decide
  rw [Text.isBlankText] at hbrace ⊢
  rw [htext, hcs, List.all_append, hbrace, Bool.false_and]

/-- **A table of legible rows is read back** from its text. -/
theorem readsBack_of_isLegible (h : TableOf IsLegible rows) : ReadsBack rows := by
  have hvalue : (tableToJson rows).IsLegible := by
    rw [tableToJson, Json.IsLegible, Json.areLegibleMembers_iff]
    intro m hm
    obtain ⟨⟨id, row⟩, hrow, rfl⟩ := List.mem_map.1 hm
    exact isLegible_toJson (h.kind id row hrow)
  rw [ReadsBack, tableOfText?, isBlankText_tableText, tableText, Json.ofText?_pretty hvalue,
    Option.bind_some, tableOfJson?_tableToJson h]
  rfl

end Row

/-! ### Stores -/

namespace Store

variable {P : Row → Prop} {s : Store} {f : FileState} {rows : Table String Row}

/-- **A file of legible rows** is a store that reads back what it is given. -/
theorem file_faithful_of_isLegible
    (h : ∀ rows, f.rows = .ok rows → Row.TableOf Row.IsLegible rows) :
    (file f).Faithful Row.IsLegible :=
  file_faithful h fun _ => Row.readsBack_of_isLegible

/-- **A new file** reads back legible rows. -/
theorem newFile_faithful (h : f.IsNew) : (file f).Faithful Row.IsLegible :=
  file_faithful_of_isLegible fun rows hrows => by
    obtain rfl := Except.ok.inj (h.holds.rows.symm.trans hrows)
    exact .nil _

/-! ### Operations -/

/-- **The operation puts a row of the kind**, or none. -/
def Operation.Puts (P : Row → Prop) : Operation → Prop
  | upsert row => P row
  | _ => True

/-- **A store that is faithful stays so.** -/
def StaysFaithful (P : Row → Prop) (s s' : Store) : Prop := s.Faithful P → s'.Faithful P

theorem StaysFaithful.refl (s : Store) : StaysFaithful P s s := id

theorem StaysFaithful.trans (s s' s'' : Store) (h : StaysFaithful P s s')
    (h' : StaysFaithful P s' s'') : StaysFaithful P s s'' :=
  h' ∘ h

/-- **An operation** that puts rows of the kind only leaves a faithful store faithful. -/
theorem Operation.perform_faithful {op : Operation} (hop : op.Puts P) :
    Along (StaysFaithful P) op.perform := by
  cases op with
  | get session | expired cutoff | list =>
    intro s
    rw [perform, map_look_apply]
    exact .refl s
  | upsert row =>
    rw [perform, map_eq_pure_bind]
    refine .bind .trans (.step .refl fun s s' hput hs => ?_) fun _ => .pure .refl _
    exact (hs.upsert hop hput).1
  | remove session =>
    rw [perform, map_eq_pure_bind]
    refine .bind .trans (.stepWith .refl fun s b s' hremove hs => ?_) fun _ => .pure .refl _
    exact (hs.remove hremove).1

/-- **Several operations** that put rows of the kind only leave a faithful store faithful. -/
theorem performAll_faithful {ops : List Operation} (hops : ∀ op ∈ ops, op.Puts P) :
    Along (StaysFaithful P) (performAll ops) := by
  rw [performAll]
  induction ops with
  | nil =>
    rw [List.mapM_nil]
    exact .pure .refl _
  | cons op ops ih =>
    obtain ⟨hop, hrest⟩ := List.forall_mem_cons.1 hops
    rw [List.mapM_cons]
    exact .bind .trans (Operation.perform_faithful hop) fun _ =>
      .bind .trans (ih hrest) fun _ => .pure .refl _

/-- **Operations that put legible rows only** lead to tables that are read back. -/
theorem traceable_of_isLegible (hrows : Row.TableOf Row.IsLegible rows) {ops : List Operation}
    (hops : ∀ op ∈ ops, op.Puts Row.IsLegible) : Traceable ops rows := by
  intro before hbefore rows' hled
  have hfaithful := performAll_faithful (fun op hop => hops op (hbefore.subset hop)) (memory rows)
    (memory_faithful hrows)
  rw [hled] at hfaithful
  exact Row.readsBack_of_isLegible (hfaithful.holds rows' rfl)

end Store

end FederatedSearch
