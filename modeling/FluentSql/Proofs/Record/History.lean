import FluentSql.Proofs.Changes.Agreement
import FluentSql.Proofs.Changes.History
import FluentSql.Proofs.Record.NullKey
/-
# FluentSql.Proofs.Record.History — what a record writes after any history of edits.

Fields are written one by one or as the fields of a mapping, and what cannot be a field is refused and changes nothing.
So every run of edits of a record stands for a history of edits of single fields, which is known from what is in the
heap when the run starts. The next INSERT or UPDATE writes what this history leaves (`next_write_reflects_edits`).
-/

namespace FluentSql

open Changes (FieldEdit Reflects rightsOf)
open Step (Triple perform_bind_ok perform_bind_error)

/-- What can be looked up by stays so while streams are drained and records change. -/
theorem Heap.IsLike.isKey {h h' : Heap} (hl : h.IsLike h') (v : Value) : h'.isKey v = h.isKey v := by
  unfold Heap.isKey
  refine congrArg (Value.isKey · v) (funext fun id => ?_)
  rcases hl id with heq | ⟨rest, rest', hrest, hrest'⟩ | ⟨r, r', hr, hr'⟩
  · rw [heq]
  · rw [hrest, hrest']
  · rw [hr, hr']

namespace Changes

variable {c : Changes}

theorem setAll_eq_applyAll (c : Changes) (fields : Row) (asSql : Bool) :
    c.setAll fields asSql = c.applyAll ((fields.map fun e => FieldEdit.write e.1 e.2 asSql).map FieldEdit.edit) := by
  rw [List.map_map, applyAll, List.foldl_map]
  rfl

/-- The statement that writes right-hand sides to fields: the INSERT of a new row, or the UPDATE of the row with a
key. -/
def writing (r : Rendering) (table : String) (fields : List String) (rights : List Term) (keyColumns : List String)
    (keyValues : List Value) (isNew : Bool) : Sql :=
  if isNew then .ofTerms (insertTerms r table fields rights keyColumns)
  else
    let assignments := fields.zipWith (fun field right => r.quote field ++ " = " ++ right.text) rights
    { text := .text ("UPDATE " ++ r.quote table ++ " SET " ++ ", ".intercalate assignments ++ " " ++
        keyCondition (keyColumns.map r.quote))
      params := .positional (rights.filterMap Term.value? ++ keyValues) }

theorem insert_eq_writing (r : Rendering) (table : String) (fields keyColumns : List String)
    (keyValues : List Value) {returning : String}
    (hreturning : r.dialect.returnsIds = true → returning = ", ".intercalate (keyColumns.map r.quote)) :
    c.insert r table (fields.map r.quote) returning =
      writing r table fields c.terms keyColumns keyValues true := by
  have hsame : c.insert r table (fields.map r.quote) returning =
      c.insert r table (fields.map r.quote) (", ".intercalate (keyColumns.map r.quote)) := by
    rw [insert, insert]
    cases hreturns : r.dialect.returnsIds with
    | true => rw [hreturning hreturns]
    | false => rfl
  have htext : (c.insert r table (fields.map r.quote) (", ".intercalate (keyColumns.map r.quote))).text =
      .text (Term.textOf (insertTerms r table fields c.terms keyColumns)) := textOf_insertTerms rfl
  have hparams : (c.insert r table (fields.map r.quote) (", ".intercalate (keyColumns.map r.quote))).params =
      .positional ((insertTerms r table fields c.terms keyColumns).filterMap Term.value?) := by
    rw [values_insertTerms]
    rfl
  rw [hsame, writing, if_pos rfl]
  generalize c.insert r table (fields.map r.quote) (", ".intercalate (keyColumns.map r.quote)) = sql at htext hparams ⊢
  cases sql
  cases htext
  cases hparams
  rfl

theorem update_eq_writing (r : Rendering) (table : String) (fields keyColumns : List String) (keyValues : List Value) :
    c.update r table (fields.map r.quote) (keyColumns.map r.quote) keyValues =
      writing r table fields c.terms keyColumns keyValues false := by
  have hassigned : (fields.map r.quote).zipWith assignment c.terms =
      fields.zipWith (fun field right => r.quote field ++ " = " ++ right.text) c.terms := List.zipWith_map_left
  rw [update, writing, if_neg Bool.false_ne_true, values_terms, hassigned]
  dsimp only
  refine congrArg (fun text => ({ text := .text text, params := _ } : Sql)) (String.toList_inj.1 ?_)
  simp [String.intercalate_cons_cons]

end Changes

namespace Record

open Scope (Holds)

variable {E : Environment} {s t : Scope E} {history : List FieldEdit}

/-! ## Edits -/

/-- The edits of single fields that a step stands for: the fields of a mapping are written one by one, and what cannot
be a field is neither written nor removed. -/
def RowStep.edits (h : Heap) : RowStep → List FieldEdit
  | .save => []
  | .write key value asSql =>
    match h.entries? key with
    | some fields => fields.map fun e => .write e.1 e.2 asSql
    | none => if h.isKey key then [.write key value asSql] else []
  | .remove key => if h.isKey key then [.remove key] else []

/-- A scope whose record had no edits and has those of a history now. -/
structure Scope.HasHistory (s : Scope E) (history : List FieldEdit) (t : Scope E) : Prop where
  reflects : Reflects history t.record.changes
  isNew : t.record.changes.isNew = s.record.changes.isNew
  holds : Holds (fun _ => True) s { s.record with changes := t.record.changes } t

theorem hasHistory_self (hclean : s.record.changes.hasChanges = false) : s.HasHistory [] s :=
  ⟨Changes.reflects_nil hclean, rfl, holds_self (hasMarks_true _ _)⟩

/-- A scope that meets what another one has stands for the same history. -/
theorem Scope.HasHistory.of_meets (ht : s.HasHistory history t) {t' : Scope E}
    (hmeets : t'.Meets t.record t.number t.published) : s.HasHistory history t' := by
  obtain ⟨hreflects, hnew, hrecord, hheap, hsession, -⟩ := ht
  have hsame : t'.world.session = t.world.session := by
    rw [← t'.session_published, hmeets.published, t.session_published]
  refine ⟨?_, ?_, ?_, ?_, ?_, hasMarks_true _ _⟩
  · rwa [hmeets.record]
  · rwa [hmeets.record]
  · rwa [hmeets.record]
  · rwa [hmeets.published]
  · rwa [hsame]

/-- Changing the row adds to the history what the change stands for. -/
theorem Scope.HasHistory.edited (ht : s.HasHistory history t) {f : Changes → Changes} {more : List FieldEdit}
    (hnew : (f t.record.changes).isNew = t.record.changes.isNew)
    (hf : Reflects (history ++ more) (f t.record.changes)) :
    s.HasHistory (history ++ more) ((changeRow f : Record.Action E Unit).perform t).2 := by
  obtain ⟨-, hold, hrecord, hheap, hsession, -⟩ := ht
  refine ⟨hf, hnew.trans hold, ?_, ?_, hsession, hasMarks_true _ _⟩
  · show { t.record with changes := f t.record.changes } = { s.record with changes := f t.record.changes }
    rw [hrecord]
  · exact hheap.trans (t.isLike_published _)

/-- A change that is made to what can be a field, and not made to anything else. -/
theorem Scope.HasHistory.editedField (ht : s.HasHistory history t) {key : Value} {f : Changes → Changes}
    (edit : FieldEdit) (hnew : ∀ c, (f c).isNew = c.isNew) (hf : ∀ c, f c = c.apply edit.edit) :
    s.HasHistory (history ++ if s.published.heap.isKey key then [edit] else [])
      ((do inHeap (Heap.requireKey key); changeRow f : Record.Action E Unit).perform t).2 := by
  have hkey := ht.holds.heap.isKey key
  cases hcan : s.published.heap.isKey key with
  | false =>
      have hfails : (Heap.requireKey key).perform t.published.heap = (.error .notKey, t.published.heap) := by
        show (if !t.published.heap.isKey key then throw .notKey else pure () : Step Heap Unit).perform _ = _
        rw [hkey, hcan]
        rfl
      obtain ⟨t', hrun, hmeets⟩ := Scope.Answers.inHeap hfails t t.meets_self
      rw [perform_bind_error hrun, if_neg Bool.false_ne_true, List.append_nil]
      exact ht.of_meets hmeets
  | true =>
      have hpasses : (Heap.requireKey key).perform t.published.heap = (.ok (), t.published.heap) := by
        show (if !t.published.heap.isKey key then throw .notKey else pure () : Step Heap Unit).perform _ = _
        rw [hkey, hcan]
        rfl
      obtain ⟨t', hrun, hmeets⟩ := Scope.Answers.inHeap hpasses t t.meets_self
      rw [perform_bind_ok hrun, if_pos rfl]
      have ht' := ht.of_meets hmeets
      refine ht'.edited (hnew _) ?_
      rw [hf]
      exact ht'.reflects.apply edit

/-- Every step but a save adds the edits that it stands for. -/
theorem Scope.HasHistory.step (ht : s.HasHistory history t) {step : RowStep} (hstep : step ≠ .save) :
    s.HasHistory (history ++ step.edits s.published.heap) (step.action.perform t).2 := by
  cases step with
  | save => exact absurd rfl hstep
  | remove key => exact ht.editedField (.remove key) (fun _ => rfl) fun _ => rfl
  | write key value asSql =>
      have hentries := ht.holds.heap.entries? key
      have hheap : (heap : Record.Action E Heap).perform t = (.ok t.published.heap, t) := rfl
      simp only [RowStep.edits, RowStep.action, write]
      rw [perform_bind_ok hheap, hentries]
      cases s.published.heap.entries? key with
      | some fields =>
          refine ht.edited (Changes.isNew_setAll fields asSql _) ?_
          rw [Changes.setAll_eq_applyAll]
          exact ht.reflects.applyAll _
      | none => exact ht.editedField (.write key value asSql) (fun _ => rfl) fun _ => rfl

theorem hasHistory_after (ht : s.HasHistory history t) {steps : List RowStep}
    (hsteps : ∀ step ∈ steps, step ≠ .save) :
    s.HasHistory (history ++ steps.flatMap (RowStep.edits s.published.heap)) (after steps t) := by
  induction steps generalizing history t with
  | nil => rwa [List.flatMap_nil, List.append_nil]
  | cons step steps ih =>
      obtain ⟨hstep, hrest⟩ := List.forall_mem_cons.1 hsteps
      have hdone := ih (ht.step hstep) hrest
      rwa [List.append_assoc] at hdone

/-! ## The statement of a save -/

variable {P : String → Prop} {r : Rendering} {fields columns : List String}

/-- What is inlined is settled in a heap that is like the one that the record meets. -/
theorem triple_readyChanges_settled :
    Triple (Holds P s s.record) (readyChanges : Record.Action E Changes)
      (fun c s' => Holds P s s.record s' ∧
        ∃ h, s.published.heap.IsLike h ∧ c = s.record.changes.mapInlined h.settle) (Holds P s s.record) := by
  refine triple_bindCurrent fun s' hs' => triple_bindHeap fun t ht => Triple.pure ?_
  subst ht
  rintro _ rfl
  exact ⟨hs', _, hs'.heap, by rw [hs'.record]⟩

theorem triple_quotedAll_names (names : List String) :
    Triple (Holds P s s.record) (inHeap (quotedAll r (names.map .text)) : Record.Action E (List String))
      (fun written s' => Holds P s s.record s' ∧ written = names.map r.quote) (Holds P s s.record) := by
  refine triple_inAnyHeap fun h => ?_
  rintro _ rfl
  rw [perform_quotedAll]
  exact ⟨Heap.Drains.refl _, rfl⟩

theorem triple_returnedColumns_names (names : List String) :
    Triple (Holds P s s.record) (inHeap (returnedColumns r (names.map .text)) : Record.Action E String)
      (fun written s' => Holds P s s.record s' ∧
        (r.dialect.returnsIds = true → written = ", ".intercalate (names.map r.quote))) (Holds P s s.record) := by
  refine triple_inAnyHeap fun h => ?_
  rintro _ rfl
  cases hreturns : r.dialect.returnsIds with
  | true =>
      rw [perform_returnedColumns hreturns]
      exact ⟨Heap.Drains.refl _, fun _ => rfl⟩
  | false =>
      rw [returnedColumns, hreturns]
      exact ⟨Heap.Drains.refl _, fun htrue => absurd htrue Bool.false_ne_true⟩

/-- The statement writes the dirty fields of the record, with what is inlined settled in some heap that is like the one
that the record meets. -/
def Scope.Writes (s : Scope E) (r : Rendering) (fields columns : List String) (sql : Sql) : Prop :=
  ∃ h, s.published.heap.IsLike h ∧ sql = Changes.writing r s.record.table fields
    (s.record.changes.mapInlined h.settle).terms columns s.keyParts s.record.changes.isNew

section

variable (hfields : Entries.keys s.record.changes.dirty = fields.map .text) (hcolumns : s.key.columns = columns.map .text)
include hfields hcolumns

theorem triple_insertion_writes (hnew : s.record.changes.isNew = true) :
    Triple (Holds P s s.record) (insertion r s.key.columns)
      (fun sql _ => s.Writes r fields columns sql) (Holds P s s.record) := by
  refine Triple.bindKnown triple_readyChanges_settled ?_
  rintro _ ⟨h, hlike, rfl⟩
  rw [Changes.keys_mapInlined, hfields, hcolumns]
  refine Triple.bindKnown (triple_quotedAll_names fields) ?_
  rintro _ rfl
  refine Triple.bindKnown (triple_returnedColumns_names columns) fun returning hreturning => ?_
  refine triple_bindCurrent fun s' hs' => Triple.pure fun _ _ => ⟨h, hlike, ?_⟩
  rw [hs'.record, hnew]
  exact Changes.insert_eq_writing r _ fields columns s.keyParts hreturning

theorem triple_updating_writes (hold : s.record.changes.isNew = false) :
    Triple (Holds P s s.record) (updating r s.key.columns)
      (fun sql _ => s.Writes r fields columns sql) (Holds P s s.record) := by
  let voc : Vocabulary := ⟨fun _ => True, fun _ => True, fun _ => True, fun _ _ _ => trivial⟩
  have hnames : voc.Names s.key.columns := by
    rw [hcolumns]
    exact List.forall_mem_map.2 fun name _ => ⟨name, rfl, trivial⟩
  refine Triple.bindKnown (triple_keyValues_eq hnames) ?_
  rintro _ rfl
  refine Triple.bindKnown triple_readyChanges_settled ?_
  rintro _ ⟨h, hlike, rfl⟩
  rw [Changes.keys_mapInlined, hfields, hcolumns]
  refine Triple.bindKnown (triple_quotedAll_names fields) ?_
  rintro _ rfl
  refine Triple.bindKnown (triple_quotedAll_names columns) ?_
  rintro _ rfl
  refine triple_bindCurrent fun s' hs' => Triple.pure fun _ _ => ⟨h, hlike, ?_⟩
  rw [hs'.record, hold]
  exact Changes.update_eq_writing r _ fields columns s.keyParts

/-- Whatever a save sends writes the dirty fields. -/
theorem triple_statement_writes :
    Triple (· = s) (statement .save : Record.Action E (Option Sql))
      (fun sent _ => ∀ sql, sent = some sql →
        ∃ r s', (rendering : Record.Action E Rendering).perform s = (.ok r, s') ∧ s.Writes r fields columns sql)
      fun _ => True := by
  have hself : Holds (fun _ => True) s s.record s := holds_self (hasMarks_true _ _)
  have hpending : Triple (· = s) (pendingWrite : Record.Action E (Option (List Value × Sql)))
      (fun pending _ => ∀ columns' sql, pending = some (columns', sql) →
        ∃ r s', (rendering : Record.Action E Rendering).perform s = (.ok r, s') ∧ s.Writes r fields columns sql)
      (Holds (fun _ => True) s s.record) := by
    have hrendering : Triple (· = s) (rendering : Record.Action E Rendering)
        (fun r s' => Holds (fun _ => True) s s.record s' ∧
          ∃ s', (rendering : Record.Action E Rendering).perform s = (.ok r, s'))
        (Holds (fun _ => True) s s.record) :=
      (triple_rendering.withRun hself).post fun _ s' hs' => ⟨hs'.1.1, s', hs'.2⟩
    refine Triple.bind hrendering fun r => Triple.known ?_
    rintro ⟨rendered, hrendered⟩
    refine Triple.bindKnown triple_key ?_
    rintro _ rfl
    refine triple_bindCurrent fun s' hs' => ?_
    rw [hs'.record]
    have hstate : ∀ t, t = s' → Holds (fun _ => True) s s.record t := fun t ht => ht ▸ hs'
    dsimp only
    cases hnew : s.record.changes.isNew with
    | true =>
        rw [if_pos rfl]
        refine Triple.bind ((triple_insertion_writes hfields hcolumns hnew).pre hstate) fun sql => Triple.pure ?_
        rintro _ hsql _ _ ⟨⟩
        exact ⟨r, rendered, hrendered, hsql⟩
    | false =>
        rw [if_neg Bool.false_ne_true]
        split
        · refine Triple.bind ((triple_updating_writes hfields hcolumns hnew).pre hstate) fun sql => Triple.pure ?_
          rintro _ hsql _ _ ⟨⟩
          exact ⟨r, rendered, hrendered, hsql⟩
        · exact Triple.pure fun _ _ => nofun
  refine Triple.bind hpending.ifReturns fun pending => Triple.pure fun _ hsent => ?_
  rcases pending with _ | ⟨columns', sql⟩
  · exact nofun
  · rintro _ ⟨⟩
    exact hsent columns' sql rfl

end

/-- **The next write reflects the history of edits.** After any fields of a record without edits were written, as values
or as SQL text, and removed, in any order and any number of times, its dirty fields are what this history leaves, and
the values that are bound are those that the last edits write as values. Whatever a save sends then writes each dirty
field once, with the right-hand side that its last edit asks for. -/
theorem next_write_reflects_edits (hclean : s.record.changes.hasChanges = false) {steps : List RowStep}
    (hsteps : ∀ step ∈ steps, step ≠ .save) :
    let history := steps.flatMap (RowStep.edits s.published.heap)
    let t := after steps s
    let rights (settle : Value → Value) := rightsOf settle history (Entries.keys t.record.changes.dirty)
    Reflects history t.record.changes ∧
      (∀ settle, t.record.changes.boundValues = (rights settle).filterMap Term.value?) ∧
      ∀ fields columns : List String, Entries.keys t.record.changes.dirty = fields.map .text →
        t.key.columns = columns.map .text →
        ∀ sql t', (statement .save).perform t = (.ok (some sql), t') →
          ∃ r t₁ h, (rendering : Record.Action E Rendering).perform t = (.ok r, t₁) ∧ t.published.heap.IsLike h ∧
            sql = Changes.writing r t.record.table fields (rights h.settle) columns t.keyParts
              s.record.changes.isNew := by
  intro history t rights
  have ht : s.HasHistory history t := hasHistory_after (hasHistory_self hclean) hsteps
  refine ⟨ht.reflects, fun settle => ?_, fun fields columns hfields hcolumns sql t' hsent => ?_⟩
  · have hterms := ht.reflects.terms_eq settle
    rw [← Changes.boundValues_mapInlined _ settle, ← Changes.values_terms, hterms]
  · obtain ⟨r, t₁, hrendering, h, hlike, hsql⟩ :=
      (triple_statement_writes hfields hcolumns).of_ok rfl hsent sql rfl
    refine ⟨r, t₁, h, hrendering, hlike, ?_⟩
    rw [hsql, ht.isNew, ht.reflects.terms_eq]

/-- An article whose stock is written twice; its note is SQL text at first, is removed and comes back as a value, and
its shelf is written as SQL text in the end. -/
def restocking : List RowStep := [
  .write (.map [(.text "note", .text "NOW()"), (.text "shelf", .int 4)]) .null true,
  .write (.text "stock") (.int 5) false, .remove (.text "note"), .write (.list []) (.int 1) false,
  .write (.text "shelf") (.text "shelf + 1") true, .write (.text "stock") (.int 6) false,
  .write (.text "note") (.text "new") false]

theorem next_write_reflects_edits_restocking :
    let t := after restocking stock
    t.record.changes.boundValues = [.int 6, .text "new"] ∧
      ∃ r sql t', (statement .save).perform t = (.ok (some sql), t') ∧
        sql = Changes.writing r "orders" ["shelf", "stock", "note"]
          [.inlined "shelf + 1", .bound (.int 6), .bound (.text "new")] ["warehouse", "sku"]
          [.int 3, .text "K-7"] false := by
  intro t
  have hclean : stock.record.changes.hasChanges = false := rfl
  have hsteps : ∀ step ∈ restocking, step ≠ .save := by simp [restocking]
  obtain ⟨-, hbound, hwritten⟩ := next_write_reflects_edits hclean hsteps
  obtain ⟨sql, t', hsent⟩ : ∃ sql t', (statement .save).perform t = (.ok (some sql), t') := ⟨_, _, rfl⟩
  obtain ⟨r, t₁, h, -, -, hsql⟩ :=
    hwritten ["shelf", "stock", "note"] ["warehouse", "sku"] rfl rfl sql t' hsent
  exact ⟨hbound id, r, sql, t', hsent, hsql⟩

end Record

end FluentSql
