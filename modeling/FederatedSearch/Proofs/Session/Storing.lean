import FederatedSearch.Proofs.Text.Order
import FederatedSearch.Session.Store

/-!
# Stores that read back what they are given

Rows in memory stay as they are. Rows in a file are written as a text and read from it again with
every operation, so what comes back depends on how they are written. Where every table of rows of
some kind is read back as it was written, a store of such rows is a table like any other, be it in
memory or in a file.

* `FederatedSearch.Row.TableOf`: a table of rows of a kind.
* `FederatedSearch.Store.Faithful`: a store that reads back the tables of rows of a kind.
* `FederatedSearch.Store.Faithful.upsert`, `FederatedSearch.Store.Faithful.remove`: a row that is
  put or removed, and all others.
-/

namespace FederatedSearch

/-! ### Ascending tables -/

namespace Table

variable {κ α : Type} {cmp : κ → κ → Ordering} {key k : κ} {value v : α} {t : Table κ α}

/-- **The keys of the table ascend.** -/
def Ascending (cmp : κ → κ → Ordering) (t : Table κ α) : Prop :=
  t.Pairwise fun p q => cmp p.1 q.1 = .lt

/-- What is in a table after a value was put was put or was there before. -/
theorem mem_of_mem_insert (h : (k, v) ∈ insert cmp key value t) :
    k = key ∧ v = value ∨ (k, v) ∈ t := by
  induction t with
  | nil => simpa [insert] using h
  | cons p rest ih =>
    obtain ⟨l, w⟩ := p
    unfold insert at h
    split at h
    · simpa using h
    · rcases List.mem_cons.1 h with hkey | hrest
      · exact .inl (Prod.mk.inj hkey)
      · exact .inr (List.mem_cons_of_mem _ hrest)
    · rcases List.mem_cons.1 h with hfirst | hrest
      · exact .inr (hfirst ▸ List.mem_cons_self)
      · exact (ih hrest).imp_right (List.mem_cons_of_mem _)

/-- Putting a value keeps the keys ascending. -/
theorem Ascending.insert [Std.TransCmp cmp] (hcmp : ∀ a b, cmp a b = .eq ↔ a = b)
    (h : t.Ascending cmp) (key : κ) (value : α) : (t.insert cmp key value).Ascending cmp := by
  induction t with
  | nil => exact List.pairwise_singleton _ _
  | cons p rest ih =>
    obtain ⟨l, w⟩ := p
    obtain ⟨hfirst, hrest⟩ := List.pairwise_cons.1 h
    unfold Table.insert
    split
    · rename_i hlt
      refine List.pairwise_cons.2 ⟨fun q hq => ?_, h⟩
      rcases List.mem_cons.1 hq with rfl | hq
      · exact hlt
      · exact Std.TransCmp.lt_trans hlt (hfirst q hq)
    · rename_i heq
      obtain rfl := (hcmp _ _).1 heq
      exact List.pairwise_cons.2 ⟨hfirst, hrest⟩
    · rename_i hgt
      have hlt : cmp l key = .lt := Std.OrientedCmp.gt_iff_lt.1 hgt
      refine List.pairwise_cons.2 ⟨fun q hq => ?_, ih hrest⟩
      obtain ⟨k, v⟩ := q
      rcases mem_of_mem_insert hq with ⟨rfl, -⟩ | hq
      · exact hlt
      · exact hfirst _ hq

/-- A value that is put under a key after all others stands last. -/
theorem insert_of_forall_lt [Std.OrientedCmp cmp] (h : ∀ p ∈ t, cmp p.1 key = .lt) :
    t.insert cmp key value = t ++ [(key, value)] := by
  induction t with
  | nil => rfl
  | cons p rest ih =>
    obtain ⟨hfirst, hrest⟩ := List.forall_mem_cons.1 h
    have hgt : cmp key p.1 = .gt := Std.OrientedCmp.gt_iff_lt.2 hfirst
    rw [insert, hgt]
    dsimp only
    rw [ih hrest, List.cons_append]

/-- Values with ascending keys that are put into a table one after the other stand at its end. -/
theorem foldl_insert_of_append [Std.OrientedCmp cmp] {more : Table κ α}
    (h : (t ++ more).Ascending cmp) :
    more.foldl (fun t p => insert cmp p.1 p.2 t) t = t ++ more := by
  induction more generalizing t with
  | nil => rw [List.foldl_nil, List.append_nil]
  | cons p more ih =>
    have hbefore : ∀ q ∈ t, cmp q.1 p.1 = .lt :=
      fun q hq => (List.pairwise_append.1 h).2.2 q hq p List.mem_cons_self
    rw [List.append_cons] at h ⊢
    rw [List.foldl_cons, insert_of_forall_lt hbefore, ih h]

/-- **A table is put together again** when its values are put one after the other. -/
theorem foldl_insert_of_ascending [Std.OrientedCmp cmp] (h : t.Ascending cmp) :
    t.foldl (fun t p => insert cmp p.1 p.2 t) [] = t :=
  foldl_insert_of_append h

variable [DecidableEq κ]

theorem Ascending.erase (h : t.Ascending cmp) (key : κ) : (t.erase key).Ascending cmp :=
  h.filter _

/-- What is found in a table is in it. -/
theorem mem_of_find? (h : find? key t = some value) : (key, value) ∈ t := by
  induction t with
  | nil => cases h
  | cons p rest ih =>
    obtain ⟨l, w⟩ := p
    rw [find?_cons] at h
    split at h
    · rename_i hkey
      subst hkey
      exact Option.some.inj h ▸ List.mem_cons_self
    · exact List.mem_cons_of_mem _ (ih h)

end Table

/-! ### Tables of rows -/

/-- **A table of rows of a kind**: the keys ascend, and each row stands under its session. -/
structure Row.TableOf (P : Row → Prop) (rows : Table String Row) : Prop where
  ascending : rows.Ascending Text.cmpText
  keyed : ∀ id row, (id, row) ∈ rows → row.session = id
  kind : ∀ id row, (id, row) ∈ rows → P row

namespace Row.TableOf

variable {P : Row → Prop} {rows : Table String Row}

theorem nil (P : Row → Prop) : TableOf P [] :=
  ⟨.nil, fun _ _ h => (nomatch h), fun _ _ h => (nomatch h)⟩

theorem insert (h : TableOf P rows) {row : Row} (hrow : P row) :
    TableOf P (Table.insert Text.cmpText row.session row rows) := by
  refine ⟨h.ascending.insert (fun _ _ => Text.cmpText_eq_iff) _ _, fun id r hr => ?_,
    fun id r hr => ?_⟩
  · rcases Table.mem_of_mem_insert hr with ⟨rfl, rfl⟩ | hr
    · rfl
    · exact h.keyed id r hr
  · rcases Table.mem_of_mem_insert hr with ⟨-, rfl⟩ | hr
    · exact hrow
    · exact h.kind id r hr

theorem erase (h : TableOf P rows) (session : String) : TableOf P (Table.erase session rows) :=
  ⟨h.ascending.erase session, fun id r hr => h.keyed id r (List.mem_filter.1 hr).1,
    fun id r hr => h.kind id r (List.mem_filter.1 hr).1⟩

end Row.TableOf

/-! ### Faithful stores -/

namespace Store

/-- **A store of rows of a kind that reads back what it is given.** -/
structure Faithful (P : Row → Prop) (s : Store) : Prop where
  holds : ∀ rows, s.rows = .ok rows → Row.TableOf P rows
  reads : ∀ rows s', Row.TableOf P rows → s.withRows rows = .ok s' → s'.rows = .ok rows

variable {P : Row → Prop} {s s' : Store}

/-- Rows in memory are read back, whatever they are. -/
theorem memory_faithful {rows : Table String Row} (h : Row.TableOf P rows) :
    (memory rows).Faithful P := by
  refine ⟨fun rows' hrows => ?_, fun rows' s' _ hwrite => ?_⟩
  · obtain rfl := Except.ok.inj hrows
    exact h
  · obtain rfl := Except.ok.inj hwrite
    rfl

/-- Rows in a file are read back when their text is read as the table that it was written from. -/
theorem file_faithful {f : FileState} (hrows : ∀ rows, f.rows = .ok rows → Row.TableOf P rows)
    (htext : ∀ rows, Row.TableOf P rows → Row.tableOfText? (Row.tableText rows) = some rows) :
    (file f).Faithful P := by
  refine ⟨hrows, fun rows s' htable hwrite => ?_⟩
  have hread : FileState.rows (.text (Row.tableText rows)) = .ok rows := by
    simp only [FileState.rows, htext rows htable]
  cases f with
  | missing | text contents =>
    obtain rfl := Except.ok.inj hwrite
    exact hread
  | unmakeable | notAFile => cases hwrite

namespace Faithful

/-- **A table that is written** is read back, and the store stays faithful. -/
theorem withRows (h : s.Faithful P) {rows : Table String Row} (hrows : Row.TableOf P rows)
    (hwrite : s.withRows rows = .ok s') : s'.Faithful P ∧ s'.rows = .ok rows := by
  have hread := h.reads rows s' hrows hwrite
  refine ⟨⟨fun rows' hrows' => ?_, fun rows' s'' htable hwrite' => ?_⟩, hread⟩
  · rw [hread] at hrows'
    exact Except.ok.inj hrows' ▸ hrows
  · cases s with
    | memory old =>
      obtain rfl := Except.ok.inj hwrite
      obtain rfl := Except.ok.inj hwrite'
      rfl
    | file f =>
      -- what a file held before does not matter for what is written to it
      cases f with
      | missing | text contents =>
        obtain rfl := Except.ok.inj hwrite
        exact h.reads rows' s'' htable hwrite'
      | unmakeable | notAFile => cases hwrite

/-- **A row that is put** is found, and all others are as before. -/
theorem upsert (h : s.Faithful P) {row : Row} (hrow : P row) (hput : s.upsert row = .ok s') :
    s'.Faithful P ∧
      ∀ id, s'.get? id = if row.session = id then .ok (some row) else s.get? id := by
  cases hrows : s.rows with
  | error e =>
    simp only [Store.upsert, hrows] at hput
    cases hput
  | ok rows =>
    simp only [Store.upsert, hrows] at hput
    obtain ⟨hs', hread⟩ := h.withRows ((h.holds rows hrows).insert hrow) hput
    refine ⟨hs', fun id => ?_⟩
    have hfind := Table.find?_insert (fun _ _ => Text.cmpText_eq_iff) id row.session row rows
    simp only [Store.get?, hread, hrows]
    refine (congrArg Except.ok hfind).trans ?_
    split <;> rfl

/-- **A row that is removed** is gone, and all others are as before. -/
theorem remove (h : s.Faithful P) {session : String} {b : Bool}
    (hremove : s.remove session = .ok (b, s')) :
    s'.Faithful P ∧ ∀ id, s'.get? id = if session = id then .ok none else s.get? id := by
  cases hrows : s.rows with
  | error e =>
    simp only [Store.remove, hrows] at hremove
    cases hremove
  | ok rows =>
    simp only [Store.remove, hrows, bind, Except.bind] at hremove
    split at hremove
    · cases hwrite : s.withRows (Table.erase session rows) with
      | error e =>
        simp only [hwrite] at hremove
        cases hremove
      | ok t =>
        simp only [hwrite] at hremove
        obtain rfl : t = s' := (Prod.mk.inj (Except.ok.inj hremove)).2
        obtain ⟨ht, hread⟩ := h.withRows ((h.holds rows hrows).erase session) hwrite
        refine ⟨ht, fun id => ?_⟩
        simp only [Store.get?, hread, hrows]
        refine (congrArg Except.ok (Table.find?_erase id session rows)).trans ?_
        split <;> rfl
    · -- there is no such row, and nothing is written
      rename_i hhas
      obtain rfl : s = s' := (Prod.mk.inj (Except.ok.inj hremove)).2
      refine ⟨h, fun id => ?_⟩
      split
      · rename_i hid
        subst hid
        have hnone : Table.find? session rows = none := by simpa [Table.has] using hhas
        simp only [Store.get?, hrows, bind, Except.bind, hnone]
        rfl
      · rfl

/-- A row that is found is one of its session. -/
theorem get? (h : s.Faithful P) {id : String} {row : Row} (hrow : s.get? id = .ok (some row)) :
    row.session = id ∧ P row := by
  cases hrows : s.rows with
  | error e =>
    simp only [Store.get?, hrows] at hrow
    cases hrow
  | ok rows =>
    simp only [Store.get?, hrows] at hrow
    have hmem := Table.mem_of_find? (Except.ok.inj hrow)
    exact ⟨(h.holds rows hrows).keyed id row hmem, (h.holds rows hrows).kind id row hmem⟩

end Faithful

end Store

end FederatedSearch
