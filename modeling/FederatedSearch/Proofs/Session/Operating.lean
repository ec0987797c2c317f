import FederatedSearch.Engine.Start
import FederatedSearch.Proofs.Action
import FederatedSearch.Proofs.Session.Storing
import Mathlib.Data.List.Infix
import Mathlib.Logic.Function.Basic

/-!
# Operations on stores

A store is used by five operations: three look at its rows, and two change them. What an operation
gives, and which rows it leaves, depends on the rows of the store and not on where they are kept. So
a file gives the answers that memory would give, as long as every table that is written to it is
read back as it was; and since a store in a file keeps nothing else, it can be left and opened again
between any two operations.

* `FederatedSearch.Store.Operation`, `FederatedSearch.Store.performAll`: operations, one and many.
* `FederatedSearch.Config.sitting`: operations on a store that is opened for them on a disk.
* `FederatedSearch.Store.Operation.perform_file`: one operation on a file and in memory.
* `FederatedSearch.Config.sittings_answer_as_memory`: **a file refines memory**.
-/

namespace FederatedSearch

open FederatedSearch.Action Calendar

/-! ### Operations -/

namespace Store

/-- **An operation on a store.** -/
inductive Operation where
  /-- The row of a session is looked for. -/
  | get (session : String)
  /-- A row is put in place of the one of its session. -/
  | upsert (row : Row)
  /-- The row of a session is removed. -/
  | remove (session : String)
  /-- The sessions are listed whose rows were not written after a time. -/
  | expired (cutoff : Instant)
  /-- All rows are listed. -/
  | list
  deriving DecidableEq

/-- **What an operation gives.** -/
inductive Answer where
  /-- The row that was looked for, if there is one. -/
  | row (row? : Option Row)
  /-- Nothing. -/
  | done
  /-- Whether there was a row to remove. -/
  | removed (wasThere : Bool)
  /-- Some sessions. -/
  | sessions (ids : List String)
  /-- All rows. -/
  | rows (rows : List Row)
  deriving DecidableEq

/-- **Perform an operation.** -/
def Operation.perform : Operation → Action Store Answer
  | get session => Answer.row <$> Action.look (·.get? session)
  | upsert row => (fun _ => Answer.done) <$> Action.step (·.upsert row)
  | remove session => Answer.removed <$> Action.stepWith (·.remove session)
  | expired cutoff => Answer.sessions <$> Action.look (·.expired cutoff)
  | list => Answer.rows <$> Action.look (·.list)

/-- **Perform several operations**, one after the other. -/
def performAll (ops : List Operation) : Action Store (List Answer) := ops.mapM Operation.perform

/-- **The operation has nothing to change**: it looks at rows, or removes one that is not there. -/
def Operation.Looks (s : Store) : Operation → Prop
  | get _ | expired _ | list => True
  | remove session => s.get? session = .ok none
  | upsert _ => False

end Store

namespace Config

/-- The disk after a store of the configuration was used: the file of its rows is what the store
left of it. -/
def keep (c : Config) (disk : Disk) (s : Store) : Disk :=
  match c.rowsFile?, s with
  | some path, .file f => Function.update disk path f
  | _, _ => disk

/-- **Open the store of a configuration on a disk**, perform some operations and leave it. -/
def sitting (c : Config) (ops : List Store.Operation) : Action Disk (List Store.Answer) :=
  fun disk =>
    let (r, s) := Store.performAll ops (c.storeOn disk)
    (r, c.keep disk s)

end Config

/-! ### Looking at rows -/

namespace Store

variable {s : Store} {rows : Table String Row}

theorem get?_of_rows (h : s.rows = .ok rows) (session : String) :
    s.get? session = .ok (Table.find? session rows) := by
  rw [get?, h]
  rfl

theorem list_of_rows (h : s.rows = .ok rows) : s.list = .ok (rows.map (·.2)) := by
  rw [list, h]
  rfl

theorem expired_of_rows (h : s.rows = .ok rows) (cutoff : Instant) :
    s.expired cutoff = .ok (((rows.map (·.2)).filter (·.idleSince cutoff)).map (·.session)) := by
  rw [expired, list_of_rows h]
  rfl

theorem upsert_of_rows (h : s.rows = .ok rows) (row : Row) :
    s.upsert row = s.withRows (Table.insert Text.cmpText row.session row rows) := by
  rw [upsert, h]
  rfl

/-- **Removing a row that is not there** changes nothing. -/
theorem Operation.perform_remove_of_not_has {session : String} (h : s.rows = .ok rows)
    (hhas : Table.has session rows = false) :
    (Operation.remove session).perform s = (.ok (.removed false), s) := by
  have hremove : s.remove session = .ok (false, s) := by
    simp only [Store.remove, h, bind, Except.bind, hhas]
    rfl
  simp only [perform, map_apply, stepWith_apply, hremove]

/-- **Removing a row** writes the table without it. -/
theorem Operation.perform_remove_of_has {session : String} {s' : Store} (h : s.rows = .ok rows)
    (hhas : Table.has session rows = true)
    (hwrite : s.withRows (Table.erase session rows) = .ok s') :
    (Operation.remove session).perform s = (.ok (.removed true), s') := by
  have hremove : s.remove session = .ok (true, s') := by
    simp only [Store.remove, h, bind, Except.bind, hhas, if_true, hwrite]
    rfl
  simp only [perform, map_apply, stepWith_apply, hremove]

/-- Looking at a store leaves it as it is. -/
theorem map_look_apply {α : Type} (f : α → Answer) (g : Store → Except Failure α) (s : Store) :
    (f <$> Action.look g : Action Store Answer) s = ((g s).map f, s) := by
  simp only [map_apply, look_apply]
  cases g s <;> rfl

/-- **An operation that has nothing to change** leaves the store as it is. -/
theorem Operation.perform_of_looks {op : Operation} (h : op.Looks s) : (op.perform s).2 = s := by
  cases op with
  | upsert row => exact h.elim
  | remove session =>
    have hget : s.get? session = .ok none := h
    cases hrows : s.rows with
    | error e =>
      rw [get?, hrows] at hget
      cases hget
    | ok rows =>
      have hhas : Table.has session rows = false := by
        rw [get?_of_rows hrows] at hget
        rw [Table.has, Except.ok.inj hget]
        rfl
      rw [perform_remove_of_not_has hrows hhas]
  | get session | expired cutoff | list => rw [perform, map_look_apply]

end Store

/-! ### Tables that are read back -/

/-- **A table of rows is read back** from its text as it was. -/
def Row.ReadsBack (rows : Table String Row) : Prop :=
  Row.tableOfText? (Row.tableText rows) = some rows

instance (rows : Table String Row) : Decidable (Row.ReadsBack rows) :=
  inferInstanceAs (Decidable (_ = _))

/-- **A file holds a table of rows**, and can be written. -/
structure FileState.Holds (f : FileState) (rows : Table String Row) : Prop where
  rows : f.rows = .ok rows
  withRows : ∀ rows', f.withRows rows' = .ok (.text (Row.tableText rows'))

/-- **A new file**: it is missing, or blank. -/
inductive FileState.IsNew : FileState → Prop
  | missing : IsNew .missing
  | blank {contents : String} (h : Text.isBlankText contents = true) : IsNew (.text contents)

namespace FileState

/-- A new file holds no rows. -/
theorem IsNew.holds {f : FileState} (h : f.IsNew) : f.Holds [] := by
  cases h with
  | missing => exact ⟨rfl, fun _ => rfl⟩
  | blank hblank =>
    refine ⟨?_, fun _ => rfl⟩
    simp only [rows, Row.tableOfText?, hblank, if_true]

/-- A file holds a table that was written to it, if this is read back. -/
theorem holds_of_readsBack {rows : Table String Row} (h : Row.ReadsBack rows) :
    (text (Row.tableText rows)).Holds rows := by
  refine ⟨?_, fun _ => rfl⟩
  have hread : Row.tableOfText? (Row.tableText rows) = some rows := h
  simp only [FileState.rows, hread]

end FileState

/-! ### One operation -/

namespace Store

variable {f : FileState} {rows rows' : Table String Row} {op : Operation} {a : Answer}

/-- **Rows in the order of their sessions**, one for each. -/
def Ordered (rows : List Row) : Prop :=
  rows.Pairwise fun r r' => Text.cmpText r.session r'.session = .lt

/-- The rows of a table are in order. -/
theorem ordered_of_tableOf {P : Row → Prop} (h : Row.TableOf P rows) :
    Ordered (rows.map (·.2)) := by
  rw [Ordered, List.pairwise_map]
  refine h.ascending.imp_of_mem fun {p q} hp hq hlt => ?_
  rw [h.keyed p.1 p.2 hp, h.keyed q.1 q.2 hq]
  exact hlt

/-- **An operation in memory** succeeds. It leaves a table when it finds one, and then lists rows in
order. -/
theorem Operation.perform_memory (op : Operation) (rows : Table String Row) :
    ∃ a rows', op.perform (memory rows) = (.ok a, memory rows') ∧
      (Row.TableOf (fun _ => True) rows → Row.TableOf (fun _ => True) rows' ∧
        ∀ listed, a = .rows listed → Ordered listed) := by
  cases op with
  | get session | expired cutoff => exact ⟨_, rows, rfl, fun h => ⟨h, fun _ => nofun⟩⟩
  | list =>
    refine ⟨.rows (rows.map (·.2)), rows, rfl, fun h => ⟨h, fun listed hlisted => ?_⟩⟩
    cases hlisted
    exact ordered_of_tableOf h
  | upsert row => exact ⟨.done, _, rfl, fun h => ⟨h.insert trivial, fun _ => nofun⟩⟩
  | remove session =>
    cases hhas : Table.has session rows with
    | false =>
      exact ⟨_, rows, perform_remove_of_not_has rfl hhas, fun h => ⟨h, fun _ => nofun⟩⟩
    | true =>
      exact ⟨_, _, perform_remove_of_has rfl hhas rfl, fun h => ⟨h.erase session, fun _ => nofun⟩⟩

/-- **An operation on a file** that holds a table gives what it gives in memory, and the file holds
the table that is left there, if this is read back. -/
theorem Operation.perform_file (hf : f.Holds rows)
    (hop : op.perform (memory rows) = (.ok a, memory rows')) (hback : Row.ReadsBack rows') :
    ∃ f', op.perform (file f) = (.ok a, file f') ∧ f'.Holds rows' := by
  have hfile : (file f).rows = .ok rows := hf.rows
  cases op with
  | get session =>
    cases hop
    refine ⟨f, ?_, hf⟩
    simp only [perform, map_apply, look_apply, get?_of_rows hfile]
  | expired cutoff =>
    cases hop
    refine ⟨f, ?_, hf⟩
    simp only [perform, map_apply, look_apply, expired_of_rows hfile]
  | list =>
    cases hop
    refine ⟨f, ?_, hf⟩
    simp only [perform, map_apply, look_apply, list_of_rows hfile]
  | upsert row =>
    cases hop
    refine ⟨_, ?_, FileState.holds_of_readsBack hback⟩
    simp only [perform, map_apply, step_apply, upsert_of_rows hfile, withRows, hf.withRows]
    rfl
  | remove session =>
    have hmemory : (memory rows).rows = .ok rows := rfl
    cases hhas : Table.has session rows with
    | false =>
      -- there is nothing to remove, and neither store is written
      rw [perform_remove_of_not_has hmemory hhas] at hop
      cases hop
      exact ⟨f, perform_remove_of_not_has hfile hhas, hf⟩
    | true =>
      rw [perform_remove_of_has hmemory hhas rfl] at hop
      cases hop
      refine ⟨_, perform_remove_of_has hfile hhas ?_, FileState.holds_of_readsBack hback⟩
      rw [withRows, hf.withRows]
      rfl

/-! ### Many operations -/

/-- The first operation, and then the others. -/
theorem performAll_cons {s s' : Store} (h : op.perform s = (.ok a, s')) (ops : List Operation) :
    performAll (op :: ops) s = ((performAll ops s').1.map (a :: ·), (performAll ops s').2) := by
  simp only [performAll, List.mapM_cons, bind_apply, h]
  rcases List.mapM Operation.perform ops s' with ⟨_ | _, _⟩ <;> rfl

/-- Some operations, and then others. -/
theorem performAll_append {ops : List Operation} {s s' : Store} {as : List Answer}
    (h : performAll ops s = (.ok as, s')) (more : List Operation) :
    performAll (ops ++ more) s =
      ((performAll more s').1.map (as ++ ·), (performAll more s').2) := by
  simp only [performAll, List.mapM_append, bind_apply] at h ⊢
  rw [h]
  dsimp only
  rcases List.mapM Operation.perform more s' with ⟨_ | _, _⟩ <;> rfl

/-- **The tables that some operations lead to in memory** are read back. -/
def Traceable (ops : List Operation) (rows : Table String Row) : Prop :=
  ∀ before, before <+: ops → ∀ rows', (performAll before (memory rows)).2 = memory rows' →
    Row.ReadsBack rows'

/-- What several operations lead to is what the last ones lead to after the first. -/
theorem Traceable.of_append {ops more : List Operation} (h : Traceable (ops ++ more) rows)
    {as : List Answer} (hops : performAll ops (memory rows) = (.ok as, memory rows')) :
    Traceable more rows' := fun before hbefore rows'' hrows =>
  h (ops ++ before) ((List.prefix_append_right_inj ops).2 hbefore) rows'' <| by
    rw [performAll_append hops, hrows]

/-- **Several operations in memory** succeed. They leave a table when they find one, and then list
rows in order each time. -/
theorem performAll_memory (ops : List Operation) (rows : Table String Row) :
    ∃ as rows', performAll ops (memory rows) = (.ok as, memory rows') ∧
      (Row.TableOf (fun _ => True) rows → Row.TableOf (fun _ => True) rows' ∧
        ∀ listed, .rows listed ∈ as → Ordered listed) := by
  induction ops generalizing rows with
  | nil => exact ⟨[], rows, rfl, fun h => ⟨h, fun _ => nofun⟩⟩
  | cons op ops ih =>
    obtain ⟨a, rows₁, hop, hfirst⟩ := op.perform_memory rows
    obtain ⟨as, rows', hops, hrest⟩ := ih rows₁
    refine ⟨a :: as, rows', by rw [performAll_cons hop, hops]; rfl, fun h => ?_⟩
    obtain ⟨h₁, hlisted⟩ := hfirst h
    obtain ⟨h', hothers⟩ := hrest h₁
    refine ⟨h', fun listed hmem => ?_⟩
    rcases List.mem_cons.1 hmem with heq | hmem
    · exact hlisted listed heq.symm
    · exact hothers listed hmem

/-- **Several operations on a file** that holds a table give what they give in memory, when all
tables that they lead to there are read back. -/
theorem performAll_file {ops : List Operation} {as : List Answer} (hf : f.Holds rows)
    (htrace : Traceable ops rows)
    (hops : performAll ops (memory rows) = (.ok as, memory rows')) :
    ∃ f', performAll ops (file f) = (.ok as, file f') ∧ f'.Holds rows' := by
  induction ops generalizing f rows as with
  | nil =>
    cases hops
    exact ⟨f, rfl, hf⟩
  | cons op ops ih =>
    obtain ⟨a, rows₁, hop, -⟩ := op.perform_memory rows
    obtain ⟨as₁, rows₂, hrest, -⟩ := performAll_memory ops rows₁
    rw [performAll_cons hop, hrest] at hops
    cases hops
    have hone : performAll [op] (memory rows) = (.ok [a], memory rows₁) := performAll_cons hop []
    have hback := htrace [op] (List.prefix_append [op] ops) rows₁ (congrArg Prod.snd hone)
    obtain ⟨f₁, hfile, hf₁⟩ := Operation.perform_file hf hop hback
    have htail : Traceable ([op] ++ ops) rows := htrace
    obtain ⟨f', hfiles, hf'⟩ := ih hf₁ (htail.of_append hone) hrest
    exact ⟨f', by rw [performAll_cons hfile, hfiles]; rfl, hf'⟩

end Store

/-! ### Sittings -/

namespace Config

open Store

variable {c : Config} {path : String} {disk : Disk} {rows : Table String Row}

/-- **A sitting** at a file that holds a table gives what the operations give in memory. -/
theorem sitting_eq (hpath : c.rowsFile? = some path) (hdisk : (disk path).Holds rows)
    {ops : List Operation} (htrace : Traceable ops rows) {as : List Answer}
    {rows' : Table String Row} (hops : performAll ops (memory rows) = (.ok as, memory rows')) :
    ∃ disk', c.sitting ops disk = (.ok as, disk') ∧ (disk' path).Holds rows' := by
  obtain ⟨f, hfile, hf⟩ := performAll_file hdisk htrace hops
  have hstore : c.storeOn disk = file (disk path) := by rw [storeOn, hpath]
  refine ⟨Function.update disk path f, ?_, ?_⟩
  · simp only [sitting, hstore, hfile, keep, hpath]
  · rwa [Function.update_self]

/-- **Several sittings** at a file that holds a table give what the operations give in memory, where
rows are listed in order each time. -/
theorem sittings_eq (hpath : c.rowsFile? = some path) (hdisk : (disk path).Holds rows)
    (htable : Row.TableOf (fun _ => True) rows) {sittings : List (List Operation)}
    (htrace : Traceable sittings.flatten rows) :
    ∃ ass disk' rows', sittings.mapM c.sitting disk = (.ok ass, disk') ∧
      sittings.mapM performAll (memory rows) = (.ok ass, memory rows') ∧
        (disk' path).Holds rows' ∧ ∀ as ∈ ass, ∀ listed, .rows listed ∈ as → Ordered listed := by
  induction sittings generalizing disk rows with
  | nil => exact ⟨[], disk, rows, rfl, rfl, hdisk, fun _ => nofun⟩
  | cons ops sittings ih =>
    rw [List.flatten_cons] at htrace
    obtain ⟨as, rows₁, hops, hordered⟩ := performAll_memory ops rows
    obtain ⟨htable₁, hfirst⟩ := hordered htable
    obtain ⟨disk₁, hsitting, hdisk₁⟩ := sitting_eq hpath hdisk
      (fun before hbefore => htrace before (hbefore.trans (List.prefix_append ops _))) hops
    obtain ⟨ass, disk', rows', hsittings, hmemory, hdisk', hothers⟩ :=
      ih hdisk₁ htable₁ (htrace.of_append hops)
    refine ⟨as :: ass, disk', rows', ?_, ?_, hdisk', List.forall_mem_cons.2 ⟨hfirst, hothers⟩⟩
    · simp only [List.mapM_cons, bind_apply, hsitting, hsittings]
      rfl
    · simp only [List.mapM_cons, bind_apply, hops, hmemory]
      rfl

/-- **A file refines memory.** A configuration keeps its rows in a file, which is missing or blank at
first. Its store is opened on the disk, used and left, any number of times. When every table that the
operations lead to in memory is read back as it is written, all of them succeed on the file and give
what they give in memory, and the file holds the rows that are left there. Rows are listed in the
order of their sessions, one for each. An operation that has nothing to change leaves a file as it
is. -/
theorem sittings_answer_as_memory (hpath : c.rowsFile? = some path) (hnew : (disk path).IsNew)
    (sittings : List (List Operation)) (htrace : Traceable sittings.flatten []) :
    ∃ ass disk' rows,
      sittings.mapM c.sitting disk = (.ok ass, disk') ∧
      sittings.mapM performAll .empty = (.ok ass, memory rows) ∧
      (disk' path).rows = .ok rows ∧
      (∀ as ∈ ass, ∀ listed, .rows listed ∈ as → Ordered listed) ∧
      ∀ (f : FileState) (op : Operation), op.Looks (file f) → (op.perform (file f)).2 = file f := by
  obtain ⟨ass, disk', rows, hsittings, hmemory, hdisk', hordered⟩ :=
    sittings_eq hpath hnew.holds (.nil _) htrace
  exact ⟨ass, disk', rows, hsittings, hmemory, hdisk'.rows, hordered,
    fun f op => Operation.perform_of_looks⟩

/-- The row of a session in which something was found. -/
def seaRow : Row := (Row.created "a" ⟨0, 0⟩).executed "sea" ⟨60, 0⟩ (.zero false) 4

/-- Three sittings, of which the second does nothing. -/
def threeSittings : List (List Operation) :=
  [[.upsert seaRow, .list], [],
    [.get "a", .get "b", .expired ⟨1800, 0⟩, .remove "a", .remove "a", .list]]

theorem traceable_threeSittings : Traceable threeSittings.flatten [] := by
  have hback : ∀ rows ∈ [[], [("a", seaRow)]], Row.ReadsBack rows := by decide +kernel
  -- the row is there or it is not
  have hled : ∀ before ∈ threeSittings.flatten.inits,
      (performAll before (memory [])).2 ∈ [[], [("a", seaRow)]].map memory := by
    decide +kernel
  intro before hbefore rows hrows
  obtain ⟨rows', hmem, heq⟩ := List.mem_map.1 (hled before ((List.mem_inits _ _).2 hbefore))
  rw [hrows] at heq
  cases heq
  exact hback rows hmem

/-- A blank file is opened three times. The row that is put in the first sitting is found in the last
one, and removed there. -/
theorem sittings_answer_as_memory_of_three :
    ∃ (c : Config) (disk : Disk), c.rowsFile? = some "rows.json" ∧ (disk "rows.json").IsNew ∧
      Traceable threeSittings.flatten [] ∧
      ∃ left : Disk, threeSittings.mapM c.sitting disk =
        (.ok [[.done, .rows [seaRow]], [],
          [.row (some seaRow), .row none, .sessions ["a"], .removed true, .removed false,
            .rows []]], left) ∧
        (left "rows.json").rows = .ok [] := by
  obtain ⟨c, hc⟩ : ∃ c : Config, c = { cache := { store := .file, path := some "rows.json" } } :=
    ⟨_, rfl⟩
  obtain ⟨disk, hdisk⟩ : ∃ disk : Disk, disk = fun _ => .text " \n" := ⟨_, rfl⟩
  have hpath : c.rowsFile? = some "rows.json" := by
    rw [hc]
    rfl
  have hnew : (disk "rows.json").IsNew := by
    rw [hdisk]
    exact .blank (by decide)
  obtain ⟨ass, left, rows, hsittings, hmemory, hrows, -⟩ :=
    sittings_answer_as_memory hpath hnew threeSittings traceable_threeSittings
  have hanswers : threeSittings.mapM performAll .empty =
      (.ok [[.done, .rows [seaRow]], [],
        [.row (some seaRow), .row none, .sessions ["a"], .removed true, .removed false,
          .rows []]], memory []) := by
    rfl
  rw [hmemory] at hanswers
  cases hanswers
  exact ⟨c, disk, hpath, hnew, traceable_threeSittings, left, hsittings, hrows⟩

end Config

end FederatedSearch
