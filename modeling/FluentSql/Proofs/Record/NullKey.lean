import FluentSql.Proofs.Record.Addressing
import FluentSql.Proofs.Record.Looks
/-
# FluentSql.Proofs.Record.NullKey — which key columns of a record are null.

A record whose key columns are names looks its key up without changing anything, so what comes of it is known before
(`Scope.Answers`): the values of the key if none of them is null, and a refusal that names the null columns otherwise.
-/

namespace FluentSql

open Step (perform_bind_ok perform_bind_error)

/-- Where no item changes anything, each gives its result. -/
theorem Step.perform_mapM_ok {σ α β : Type} {f : α → Step σ β} {g : α → β} {items : List α} {s : σ}
    (h : ∀ item ∈ items, (f item).perform s = (.ok (g item), s)) :
    (items.mapM f).perform s = (.ok (items.map g), s) := by
  induction items with
  | nil => rfl
  | cons item items ih =>
      obtain ⟨hfirst, hrest⟩ := List.forall_mem_cons.1 h
      rw [List.mapM_cons, perform_bind_ok hfirst, perform_bind_ok (ih hrest)]
      rfl

/-- Null columns that are names are all told. -/
theorem Failure.ofNullColumns_eq {table : String} {columns : List Value}
    (hcolumns : ∀ column ∈ columns, ∃ name, column = .text name) :
    Failure.ofNullColumns table columns = .nullId table columns := by
  have hnone : columns.any (fun column => column.asText?.isNone) = false := by
    refine List.any_eq_false.2 fun column hcolumn => ?_
    obtain ⟨name, rfl⟩ := hcolumns column hcolumn
    exact Bool.false_ne_true
  rw [Failure.ofNullColumns, hnone, Bool.and_false, if_neg Bool.false_ne_true]

namespace Record

variable {E : Environment} {α β : Type} {s : Scope E}

/-- Wherever a record meets what it has in the scope, the action gives the result and leaves everything as it is. -/
def Scope.Answers (s : Scope E) (result : Except Failure α) (step : Record.Action E α) : Prop :=
  ∀ t : Scope E, t.Meets s.record s.number s.published →
    ∃ t', step.perform t = (result, t') ∧ t'.Meets s.record s.number s.published

namespace Scope.Answers

variable {result : Except Failure α}

theorem pure (a : α) : s.Answers (.ok a) (pure a : Record.Action E α) := fun t ht => ⟨t, rfl, ht⟩

theorem throw (failure : Failure) : s.Answers (.error failure) (throw failure : Record.Action E α) :=
  fun t ht => ⟨t, rfl, ht⟩

theorem bind_ok {step : Record.Action E β} {next : β → Record.Action E α} {b : β} (h : s.Answers (.ok b) step)
    (hnext : s.Answers result (next b)) : s.Answers result (step >>= next) := by
  intro t ht
  obtain ⟨t₁, hstep, ht₁⟩ := h t ht
  obtain ⟨t₂, hrest, ht₂⟩ := hnext t₁ ht₁
  exact ⟨t₂, (perform_bind_ok hstep).trans hrest, ht₂⟩

theorem bind_error {step : Record.Action E β} {next : β → Record.Action E α} {failure : Failure}
    (h : s.Answers (.error failure) step) : s.Answers (.error failure) (step >>= next) := by
  intro t ht
  obtain ⟨t', hstep, ht'⟩ := h t ht
  exact ⟨t', perform_bind_error hstep, ht'⟩

theorem bindCurrent {next : Record → Record.Action E α} (h : s.Answers result (next s.record)) :
    s.Answers result (current >>= next) := by
  intro t ht
  rw [perform_bindCurrent, ht.record]
  exact h t ht

theorem bindHeap {next : Heap → Record.Action E α} (h : s.Answers result (next s.published.heap)) :
    s.Answers result (heap >>= next) := by
  intro t ht
  have hheap : (heap : Record.Action E Heap).perform t = (.ok s.published.heap, t) := by
    rw [← ht.published]
    rfl
  rw [perform_bind_ok hheap]
  exact h t ht

theorem inWorld {action : FluentSql.Action E α} (h : action.perform s.published = (result, s.published)) :
    s.Answers result (inWorld action) := by
  intro t ht
  rw [← ht.published] at h
  have hback := ht.renewed (Heap.Drains.refl s.published.heap)
  rw [← ht.published] at hback
  exact ⟨t.renewed t.published, perform_inWorld h, ht.published ▸ hback⟩

theorem inHeap {step : Step Heap α} (h : step.perform s.published.heap = (result, s.published.heap)) :
    s.Answers result (inHeap step : Record.Action E α) := inWorld (Session.perform_inHeap h)

end Scope.Answers

/-! ## The value of the key -/

open Scope (Answers)

theorem answers_key : s.Answers (.ok s.key) (key : Record.Action E KeyColumns) := by
  refine Answers.bindCurrent ?_
  unfold Scope.key
  cases s.record.ownKey with
  | some own => exact Answers.pure own
  | none =>
      have hsettings : s.Answers (.ok (s.world.session.settingsOf s.record.connection))
          (inWorld (Connection.settings s.record.connection)) := by
        refine Answers.inWorld ?_
        rw [← s.session_published]
        rfl
      exact Answers.bind_ok hsettings (Answers.bindHeap (Answers.pure _))

/-- Fields of several names are found as they are, and null where there is none. -/
theorem perform_fieldsIn {columns : List Value} (hcolumns : ∀ column ∈ columns, ∃ name, column = .text name)
    (row : Row) (h : Heap) :
    (fieldsIn row (.list columns)).perform h =
      (.ok (Entries.ofPairs (columns.map fun column => (column, .ofOption (Entries.get? column row)))), h) := by
  have hget : (get : Step Heap Heap).perform h = (.ok h, h) := rfl
  have hitems : (liftM (h.items? (.list columns)) : Step Heap (List Value)).perform h = (.ok columns, h) := rfl
  refine perform_bind_ok ?_
  rw [Heap.forItems, perform_bind_ok hget, perform_bind_ok hitems]
  refine Step.perform_mapM_ok fun column hcolumn => ?_
  obtain ⟨name, rfl⟩ := hcolumns column hcolumn
  rfl

variable (hcolumns : ∀ column ∈ s.key.columns, ∃ name, column = .text name)
include hcolumns

theorem answers_keyValue : s.Answers (.ok s.keyValue) (keyValue : Record.Action E Value) := by
  refine Answers.bind_ok answers_key ?_
  unfold Scope.keyValue
  cases hkey : s.key with
  | single column =>
      obtain ⟨name, rfl⟩ := hcolumns column (by simp [hkey, KeyColumns.columns])
      exact Answers.bindCurrent (Answers.inHeap rfl)
  | compound columns =>
      rw [hkey] at hcolumns
      exact Answers.bindCurrent (Answers.inHeap (perform_bind_ok (perform_fieldsIn hcolumns _ _)))

/-- The values of the key are counted that are null. -/
theorem answers_nullKeyCount :
    s.Answers (.ok (s.keyParts.filter Value.isNull).length) (nullKeyCount : Record.Action E Nat) := by
  refine Answers.bind_ok (answers_keyValue hcolumns) (Answers.bindHeap ?_)
  unfold Scope.keyParts Heap.parts
  cases s.published.heap.entries? s.keyValue with
  | none =>
      dsimp only
      rw [List.filter_singleton]
      cases s.keyValue.isNull <;> exact Answers.pure _
  | some entries =>
      have hcount : (nullKeys entries).length = ((Entries.values entries).filter Value.isNull).length := by
        rw [nullKeys, Entries.values, List.filter_map, List.length_map, List.length_map]
        rfl
      exact hcount ▸ Answers.pure (nullKeys entries).length

omit hcolumns

/-! ## Null columns -/

/-- The null columns of the key, in its order and each of them once. -/
def Scope.nullColumns (s : Scope E) : List Value :=
  (KeyColumns.distinct s.key.columns).filter fun column => (s.valueOf column).isNull

theorem Scope.valueOf_congr (s : Scope E) {column other : Value} (h : column == other) :
    s.valueOf column = s.valueOf other := by
  rw [Scope.valueOf, Scope.valueOf, Entries.get?_congr h]

/-- A key of one column has its value for a part, and nothing in it. -/
theorem Scope.HasPlainKey.entries?_eq_none (hplain : s.HasPlainKey) {column : Value} (hkey : s.key = .single column) :
    s.published.heap.entries? (s.valueOf column) = none := by
  unfold Scope.valueOf
  cases hget : Entries.get? column s.record.changes.data with
  | none => rfl
  | some v => exact hplain column hkey v hget

theorem Scope.entries_keyValue {columns : List Value} (hkey : s.key = .compound columns) :
    s.published.heap.entries? s.keyValue =
      some ((KeyColumns.distinct columns).map fun column => (column, s.valueOf column)) := by
  rw [← KeyColumns.ofPairs_eq_map_distinct fun _ _ => s.valueOf_congr, Scope.keyValue, hkey]
  rfl

/-- The row is found by the values of the key columns. -/
theorem Scope.keyParts_eq (hplain : s.HasPlainKey) :
    s.keyParts = (KeyColumns.distinct s.key.columns).map s.valueOf := by
  rw [Scope.keyParts, Heap.parts]
  cases hkey : s.key with
  | single column =>
      have hvalue : s.keyValue = s.valueOf column := by rw [Scope.keyValue, hkey]
      rw [hvalue, hplain.entries?_eq_none hkey]
      rfl
  | compound columns =>
      rw [Scope.entries_keyValue hkey]
      exact List.map_map

/-- No column is null exactly if no value that the row is found by is. -/
theorem Scope.nullColumns_eq_nil_iff (hplain : s.HasPlainKey) :
    s.nullColumns = [] ↔ ∀ v ∈ s.keyParts, v.isNull = false := by
  rw [s.keyParts_eq hplain, Scope.nullColumns, List.filter_eq_nil_iff, List.forall_mem_map]
  refine forall₂_congr fun column _ => ?_
  rw [Bool.not_eq_true]

/-- The null columns are those that have no value, or null. -/
theorem Scope.mem_nullColumns_iff (hcolumns : ∀ column ∈ s.key.columns, ∃ name, column = .text name) {column : Value} :
    column ∈ s.nullColumns ↔ column ∈ s.key.columns ∧ (s.valueOf column).isNull = true := by
  rw [Scope.nullColumns, List.mem_filter]
  refine and_congr_left fun _ => ⟨KeyColumns.mem_distinct, fun hcolumn => ?_⟩
  obtain ⟨other, hother, hsame⟩ := KeyColumns.exists_mem_distinct hcolumn
  obtain ⟨name, rfl⟩ := hcolumns column hcolumn
  obtain ⟨name', rfl⟩ := hcolumns other (KeyColumns.mem_distinct hother)
  obtain rfl : name' = name := by simpa using hsame
  exact hother

/-! ## Refusing null columns -/

section

variable (hcolumns : ∀ column ∈ s.key.columns, ∃ name, column = .text name)

include hcolumns

theorem answers_refuseNull :
    s.Answers (.error (.nullId s.record.table s.nullColumns)) (refuseNull s.nullColumns : Record.Action E α) := by
  have hnames : ∀ column ∈ s.nullColumns, ∃ name, column = .text name := fun column h =>
    hcolumns column ((Scope.mem_nullColumns_iff hcolumns).1 h).1
  rw [← Failure.ofNullColumns_eq hnames]
  exact Answers.bindCurrent (Answers.throw _)

variable (hplain : s.HasPlainKey)
include hplain

/-- The value of a key is refused exactly if some column is null. -/
theorem answers_presentKeyValue :
    s.Answers (if s.nullColumns = [] then .ok s.keyValue else .error (.nullId s.record.table s.nullColumns))
      (presentKeyValue : Record.Action E Value) := by
  refine Answers.bind_ok (answers_keyValue hcolumns) (Answers.bindHeap ?_)
  cases hkey : s.key with
  | single column =>
      have hvalue : s.keyValue = s.valueOf column := by rw [Scope.keyValue, hkey]
      have hnull : s.nullColumns = if s.keyValue.isNull then [column] else [] := by
        rw [Scope.nullColumns, hkey, hvalue]
        exact (List.filter_singleton).trans (by cases (s.valueOf column).isNull <;> rfl)
      rw [hvalue, hplain.entries?_eq_none hkey, ← hvalue]
      dsimp only
      cases hisNull : s.keyValue.isNull with
      | false =>
          rw [hisNull, if_neg Bool.false_ne_true] at hnull
          rw [if_pos hnull, if_neg Bool.false_ne_true]
          exact Answers.pure _
      | true =>
          rw [hisNull, if_pos rfl] at hnull
          rw [if_neg (by rw [hnull]; exact List.cons_ne_nil _ _), if_pos rfl]
          refine Answers.bind_ok answers_key (Answers.bind_error ?_)
          have hcols : s.key.columns = s.nullColumns := by rw [hnull, hkey]; rfl
          rw [hcols]
          exact answers_refuseNull hcolumns
  | compound columns =>
      rw [Scope.entries_keyValue hkey]
      have hnull : nullKeys ((KeyColumns.distinct columns).map fun column => (column, s.valueOf column)) =
          s.nullColumns := by
        rw [Scope.nullColumns, hkey, nullKeys, List.filter_map, List.map_map]
        exact List.map_id _
      dsimp only
      rw [hnull]
      cases hempty : s.nullColumns with
      | nil => exact Answers.pure _
      | cons first rest =>
          have hne : s.nullColumns ≠ [] := by rw [hempty]; exact List.cons_ne_nil _ _
          have hrefused : (!s.nullColumns.isEmpty) = true := by rw [hempty]; rfl
          rw [← hempty, if_neg hne, if_pos hrefused]
          exact Answers.bind_error (answers_refuseNull hcolumns)

/-- **The values of the key are refused exactly if some column is null**, with the columns that are. -/
theorem answers_keyValues :
    s.Answers (if s.nullColumns = [] then .ok s.keyParts else .error (.nullId s.record.table s.nullColumns))
      (keyValues : Record.Action E (List Value)) := by
  have hpresent := answers_presentKeyValue hcolumns hplain
  by_cases hnull : s.nullColumns = []
  · rw [if_pos hnull] at hpresent ⊢
    refine Answers.bind_ok hpresent (Answers.bindHeap ?_)
    unfold Scope.keyParts Heap.parts
    cases s.published.heap.entries? s.keyValue <;> exact Answers.pure _
  · rw [if_neg hnull] at hpresent ⊢
    exact Answers.bind_error hpresent

end

end Record

end FluentSql
