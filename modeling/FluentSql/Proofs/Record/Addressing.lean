import FluentSql.Proofs.Cache.Store
import FluentSql.Proofs.Record.Insertions
import FluentSql.Proofs.Record.Statements
/-
# FluentSql.Proofs.Record.Addressing — which row a record that was read and edited writes to.

The key of a record is read from its data, and writing a field changes the data. So an UPDATE or a DELETE
finds the row that was read as long as no edit of a key column is pending, unless it is the value that
the column has in the row (`addressesLoadedRow_iff`). A pending edit of a key column takes the place of the
row's value in the condition, also one that is SQL text.
-/

namespace FluentSql

open Step (Keeps Triple)

/-! ## The values of key columns -/

namespace KeyColumns

open Changes (includeField)

variable {f g : Value → Value} {columns kept : List Value}

/-- The columns, each of them once. -/
def distinct (columns : List Value) : List Value :=
  columns.foldl (fun kept column => includeField column kept) []

theorem put_includeField (hf : ∀ c d : Value, c == d → f c = f d) (column : Value) (kept : List Value) :
    Entries.put column (f column) (kept.map fun c => (c, f c)) =
      (includeField column kept).map fun c => (c, f c) := by
  induction kept with
  | nil => rfl
  | cons c kept ih =>
      by_cases hsame : c == column
      · have hcontains : (c :: kept).contains column = true := by simp [BEq.symm hsame]
        rw [includeField, if_pos hcontains, List.map_cons, Entries.put, if_pos hsame, hf c column hsame]
      · have hcontains : (c :: kept).contains column = kept.contains column := by
          simp [BEq.comm (a := column), hsame]
        rw [List.map_cons, Entries.put, if_neg hsame, ih, includeField, includeField, hcontains]
        split <;> rfl

/-- Values that depend on their columns alone are written once for each of them. -/
theorem ofPairs_eq_map_distinct (hf : ∀ c d : Value, c == d → f c = f d) (columns : List Value) :
    Entries.ofPairs (columns.map fun c => (c, f c)) = (distinct columns).map fun c => (c, f c) := by
  suffices main : ∀ kept : List Value,
      Entries.putAll (kept.map fun c => (c, f c)) (columns.map fun c => (c, f c)) =
        (columns.foldl (fun kept column => includeField column kept) kept).map fun c => (c, f c) from
    main []
  induction columns with
  | nil => exact fun _ => rfl
  | cons column columns ih =>
      intro kept
      have hcons : Entries.putAll (kept.map fun c => (c, f c))
          ((column :: columns).map fun c => (c, f c)) =
          Entries.putAll (Entries.put column (f column) (kept.map fun c => (c, f c)))
            (columns.map fun c => (c, f c)) := rfl
      rw [hcons, put_includeField hf, ih]
      rfl

theorem mem_of_mem_includeField {c column : Value} (h : c ∈ includeField column kept) :
    c ∈ kept ∨ c = column := by
  unfold includeField at h
  split at h
  · exact .inl h
  · exact (List.mem_append.1 h).imp_right List.mem_singleton.1

theorem mem_includeField_of_mem {c : Value} (h : c ∈ kept) (column : Value) :
    c ∈ includeField column kept := by
  unfold includeField
  split
  · exact h
  · exact List.mem_append_left _ h

theorem exists_mem_includeField (column : Value) (kept : List Value) :
    ∃ c ∈ includeField column kept, c == column := by
  unfold includeField
  split
  · rename_i hcontains
    obtain ⟨c, hc, hsame⟩ := List.contains_iff_exists_mem_beq.1 hcontains
    exact ⟨c, hc, BEq.symm hsame⟩
  · exact ⟨column, by simp, BEq.rfl⟩

theorem mem_distinct {column : Value} (h : column ∈ distinct columns) : column ∈ columns := by
  suffices main : ∀ kept, column ∈ columns.foldl (fun kept column => includeField column kept) kept →
      column ∈ kept ∨ column ∈ columns from (main [] h).resolve_left List.not_mem_nil
  clear h
  induction columns with
  | nil => exact fun _ h => .inl h
  | cons first columns ih =>
      intro kept h
      rcases ih _ h with hkept | hmem
      · rcases mem_of_mem_includeField hkept with hold | rfl
        · exact .inl hold
        · exact .inr List.mem_cons_self
      · exact .inr (List.mem_cons_of_mem _ hmem)

/-- A column that is left out is the same key as one that is kept. -/
theorem exists_mem_distinct {column : Value} (h : column ∈ columns) :
    ∃ c ∈ distinct columns, c == column := by
  suffices main : ∀ kept, (column ∈ columns ∨ ∃ c ∈ kept, c == column) →
      ∃ c ∈ columns.foldl (fun kept column => includeField column kept) kept, c == column from
    main [] (.inl h)
  clear h
  induction columns with
  | nil => exact fun _ h => h.resolve_left List.not_mem_nil
  | cons first columns ih =>
      intro kept h
      refine ih _ ?_
      rcases h with hmem | ⟨c, hc, hsame⟩
      · rcases List.mem_cons.1 hmem with rfl | hmem
        · exact .inr (exists_mem_includeField column kept)
        · exact .inl hmem
      · exact .inr ⟨c, mem_includeField_of_mem hc first, hsame⟩

/-- Two sets of values are equal exactly if they agree on each column. -/
theorem values_ofPairs_eq_iff (hf : ∀ c d : Value, c == d → f c = f d)
    (hg : ∀ c d : Value, c == d → g c = g d) (columns : List Value) :
    Entries.values (Entries.ofPairs (columns.map fun c => (c, f c))) =
        Entries.values (Entries.ofPairs (columns.map fun c => (c, g c))) ↔
      ∀ c ∈ columns, f c = g c := by
  rw [ofPairs_eq_map_distinct hf, ofPairs_eq_map_distinct hg, Entries.values, Entries.values,
    List.map_map, List.map_map, List.map_inj_left]
  constructor
  · intro h column hcolumn
    obtain ⟨c, hc, hsame⟩ := exists_mem_distinct hcolumn
    rw [← hf c column hsame, ← hg c column hsame]
    exact h c hc
  · exact fun h c hc => h c (mem_distinct hc)

end KeyColumns

/-- A row with edits: what a field is now is what was written last, or else what it was. -/
structure Changes.Overlays (row : Row) (c : Changes) : Prop where
  isNew : c.isNew = false
  data : ∀ field, Entries.get? field c.data =
    (Entries.get? field c.dirty).or (Entries.get? field row)

namespace Changes

theorem overlays_ofRow (row : Row) : (ofRow row).Overlays row := ⟨rfl, fun _ => rfl⟩

theorem Overlays.set {row : Row} {c : Changes} (h : c.Overlays row) (field value : Value)
    (asSql : Bool) : (c.set field value asSql).Overlays row := by
  refine ⟨h.isNew, fun other => ?_⟩
  simp only [Changes.set, Entries.get?_put, h.data]
  split <;> rfl

theorem Overlays.setAll {row : Row} {c : Changes} (h : c.Overlays row) (fields : Row) (asSql : Bool) :
    (c.setAll fields asSql).Overlays row := by
  unfold Changes.setAll
  induction fields generalizing c with
  | nil => exact h
  | cons e fields ih => exact ih (h.set e.1 e.2 asSql)

theorem keys_mapInlined (f : Value → Value) (c : Changes) :
    Entries.keys (c.mapInlined f).dirty = Entries.keys c.dirty := by
  rw [Entries.keys, Entries.keys, mapInlined, List.map_map]
  refine List.map_congr_left fun e _ => ?_
  rw [Function.comp_apply]
  split <;> rfl

theorem boundValues_mapInlined (c : Changes) (f : Value → Value) :
    (c.mapInlined f).boundValues = c.boundValues := by
  have hstep : ∀ dirty : Row, ((dirty.map fun e => if c.isInlined e.1 then (e.1, f e.2) else e).filter
      fun e => !c.isInlined e.1).map (·.2) = (dirty.filter fun e => !c.isInlined e.1).map (·.2) := by
    intro dirty
    induction dirty with
    | nil => rfl
    | cons e dirty ih => by_cases hinlined : c.isInlined e.1 <;> simp [hinlined, ih]
  exact hstep c.dirty

end Changes

namespace Request

/-- The values that the statement of a request binds in front of those that it finds the row by. -/
def assigned (c : Changes) : Request → List Value
  | .save => c.boundValues
  | _ => []

end Request

namespace Record

open Scope (Holds)

variable {E : Environment} {P : String → Prop} {s t : Scope E} {row : Row} {voc : Vocabulary}

/-! ## The values that a statement binds -/

theorem triple_updating_binds (hcolumns : voc.Names s.key.columns) (r : Rendering) (columns : List Value) :
    Triple (Holds P s s.record) (updating r columns)
      (fun sql _ => sql.params = .positional (s.record.changes.boundValues ++ s.keyParts))
      (Holds P s s.record) := by
  refine Triple.bindKnown (triple_keyValues_eq hcolumns) ?_
  rintro _ rfl
  refine Triple.bindKnown (R := fun c : Changes => c.boundValues = s.record.changes.boundValues)
    (I := Holds P s s.record) ?_ fun c hc => ?_
  · refine triple_bindCurrent fun s' hs' => triple_bindHeap fun t ht => Triple.pure ?_
    rintro _ rfl
    exact ⟨ht ▸ hs', by rw [hs'.record, Changes.boundValues_mapInlined]⟩
  · refine Triple.bind (keeps_inHeap fun h => keeps_quotedAll r _ h) fun fields => ?_
    refine Triple.bind (keeps_inHeap fun h => keeps_quotedAll r _ h) fun quoted => ?_
    refine triple_bindCurrent fun s' hs' => Triple.pure fun _ _ => ?_
    rw [Changes.update, hc]

/-- A delete finds the row by the values of the key columns, whether the record is new or not. -/
theorem triple_deletion_binds (hcolumns : voc.Names s.key.columns) :
    Triple (Holds P s s.record) (deletion : Record.Action E Sql)
      (fun sql _ => sql.params = .positional s.keyParts) (Holds P s s.record) := by
  refine Triple.bindKnown triple_rendering fun r _ => ?_
  refine Triple.bindKnown triple_key fun key _ => ?_
  refine Triple.bindKnown (triple_keyValues_eq hcolumns) ?_
  rintro _ rfl
  refine Triple.bind (keeps_inHeap fun h => keeps_quotedAll r _ h) fun quoted => ?_
  exact triple_bindCurrent fun s' hs' => Triple.pure fun _ _ => rfl

/-- A save or a delete of a record that is not new finds the row by the values of the key columns. -/
theorem triple_statement_binds (hcolumns : voc.Names s.key.columns) (hold : s.record.changes.isNew = false)
    {request : Request} (hrequest : request.WritesRow) :
    Triple (Holds P s s.record) (statement request)
      (fun sent _ => ∀ sql, sent = some sql →
        sql.params = .positional (request.assigned s.record.changes ++ s.keyParts))
      (Holds P s s.record) := by
  cases request with
  | rows => exact hrequest.elim
  | deleteMany => exact hrequest.elim
  | delete =>
      refine Triple.bind (triple_deletion_binds hcolumns) fun sql => Triple.pure fun _ hsql => ?_
      rintro _ ⟨⟩
      exact hsql
  | save =>
      refine Triple.bind (R := fun pending _ => ∀ columns sql, pending = some (columns, sql) →
        sql.params = .positional (s.record.changes.boundValues ++ s.keyParts)) ?_ fun pending => ?_
      · refine Triple.bindKnown triple_rendering fun r _ => ?_
        refine Triple.bindKnown triple_key fun key _ => ?_
        refine triple_bindCurrent fun s' hs' => ?_
        rw [hs'.record]
        simp only [hold, Bool.false_eq_true, if_false]
        split
        · refine Triple.bind ((triple_updating_binds hcolumns r _).pre fun t ht => ht ▸ hs') fun sql => ?_
          refine Triple.pure ?_
          rintro _ hsql _ _ ⟨⟩
          exact hsql
        · exact Triple.pure fun _ _ => by simp
      · refine Triple.pure fun _ hpending => ?_
        rcases pending with _ | ⟨columns, sql⟩
        · simp
        · rintro _ ⟨⟩
          exact hpending columns sql rfl

/-! ## Edits -/

/-- The step writes fields. -/
def RowStep.IsWrite : RowStep → Prop
  | .write _ _ _ => True
  | .save | .remove _ => False

/-- A scope whose record was read and has been edited since. -/
def Scope.HasEdits (s : Scope E) (row : Row) (t : Scope E) : Prop :=
  ∃ c : Changes, c.Overlays row ∧ Holds (fun _ => True) s { s.record with changes := c } t

theorem hasEdits_self (hloaded : s.record.changes = .ofRow row) : s.HasEdits row s :=
  ⟨s.record.changes, hloaded ▸ Changes.overlays_ofRow row, holds_self (hasMarks_true _ _)⟩

theorem keeps_write_hasEdits (key value : Value) (asSql : Bool) :
    Keeps (s.HasEdits row) (write key value asSql : Record.Action E Unit) := by
  refine Triple.of_states fun t ht => ?_
  obtain ⟨c, hc, ht⟩ := ht
  refine Triple.pre (P := Holds (fun _ => True) s { s.record with changes := c }) ?_ fun _ h => h ▸ ht
  refine triple_bindHeap fun t' ht' => ?_
  refine Triple.pre (P := Holds (fun _ => True) s { s.record with changes := c }) ?_ fun _ h => h ▸ ht'
  split
  · refine (triple_change rfl).consequence (fun _ h => h) (fun _ _ h => ⟨_, ?_, h⟩) fun _ h => ⟨c, hc, h⟩
    exact hc.setAll _ asSql
  · refine Triple.bind ((keeps_inHeap fun h => Heap.keeps_requireKey h key).consequence (fun _ h => h)
      (fun _ _ h => h) fun _ h => ⟨c, hc, h⟩) fun _ => ?_
    refine (triple_change rfl).consequence (fun _ h => h) (fun _ _ h => ⟨_, ?_, h⟩) fun _ h => ⟨c, hc, h⟩
    exact hc.set key value asSql

theorem hasEdits_after {edits : List RowStep} (hwrites : ∀ step ∈ edits, step.IsWrite)
    (ht : s.HasEdits row t) : s.HasEdits row (after edits t) := by
  induction edits generalizing t with
  | nil => exact ht
  | cons step edits ih =>
      obtain ⟨hstep, hrest⟩ := List.forall_mem_cons.1 hwrites
      cases step with
      | write key value asSql => exact ih hrest ((keeps_write_hasEdits key value asSql).leaves ht)
      | save => exact hstep.elim
      | remove key => exact hstep.elim

/-! ## The row that is found -/

theorem Scope.HasEdits.key_eq (ht : s.HasEdits row t) : t.key = s.key := by
  obtain ⟨c, -, hrecord, hheap, hsession, -⟩ := ht
  simp only [Scope.key, hrecord, hheap.keyOf, hsession.keyOf, table]

theorem Scope.HasEdits.parts_eq (ht : s.HasEdits row t) (v : Value) :
    t.published.heap.parts v = s.published.heap.parts v := by
  obtain ⟨c, -, -, hheap, -, -⟩ := ht
  simp only [Heap.parts, hheap.entries?]

theorem Scope.HasEdits.overlays (ht : s.HasEdits row t) : t.record.changes.Overlays row := by
  obtain ⟨c, hc, hrecord, -, -, -⟩ := ht
  rw [hrecord]
  exact hc

/-- The values of a column that a statement finds the row by. Only the value of a single column may be a
mapping, which has several. -/
def Scope.keyPartsOf (s : Scope E) (v : Value) : List Value :=
  match s.key with
  | .single _ => s.published.heap.parts v
  | .compound _ => [v]

/-- Whatever is pending for a key column is the value that the column has in the row that was read. -/
def Scope.KeepsKey (s t : Scope E) : Prop :=
  ∀ column ∈ s.key.columns, ∀ v, Entries.get? column t.record.changes.dirty = some v →
    s.keyPartsOf v = [s.valueOf column]

theorem Scope.HasEdits.valueOf_eq (ht : s.HasEdits row t) (hloaded : s.record.changes = .ofRow row)
    (column : Value) :
    t.valueOf column = (Entries.get? column t.record.changes.dirty).getD (s.valueOf column) := by
  have hrow : s.record.changes.data = row := by rw [hloaded]; rfl
  rw [Scope.valueOf, Scope.valueOf, ht.overlays.data, hrow]
  cases Entries.get? column t.record.changes.dirty with
  | none => rfl
  | some v => rfl

theorem Scope.HasEdits.keyParts_eq_iff (ht : s.HasEdits row t) (hloaded : s.record.changes = .ofRow row)
    (hplain : s.HasPlainKey) : t.keyParts = s.keyParts ↔ s.KeepsKey t := by
  unfold Scope.keyParts Scope.keyValue Scope.KeepsKey Scope.keyPartsOf
  rw [ht.key_eq, ht.parts_eq]
  cases hkey : s.key with
  | single column =>
      have hloadedParts : s.published.heap.parts (s.valueOf column) = [s.valueOf column] := by
        have hnone : s.published.heap.entries? (s.valueOf column) = none := by
          unfold Scope.valueOf
          cases hget : Entries.get? column s.record.changes.data with
          | none => rfl
          | some v => exact hplain column hkey v hget
        rw [Heap.parts, hnone]
      simp only [KeyColumns.columns, List.forall_mem_singleton, ht.valueOf_eq hloaded, hloadedParts]
      cases Entries.get? column t.record.changes.dirty with
      | none => simpa using hloadedParts
      | some v => simp
  | compound columns =>
      have hcongr : ∀ (u : Scope E) (c d : Value), c == d → u.valueOf c = u.valueOf d := fun u c d h => by
        rw [Scope.valueOf, Scope.valueOf, Entries.get?_congr h]
      have hiff := KeyColumns.values_ofPairs_eq_iff (hcongr t) (hcongr s) columns
      refine Iff.trans hiff ?_
      simp only [KeyColumns.columns, ht.valueOf_eq hloaded]
      refine forall₂_congr fun column _ => ?_
      cases Entries.get? column t.record.changes.dirty with
      | none => simp
      | some v => simp

/-- The statement of a request, sent after edits, finds the row by the values that the key columns had
before. -/
def AddressesLoadedRow (request : Request) (s t : Scope E) (sql : Sql) : Prop :=
  sql.params = .positional (request.assigned t.record.changes ++ s.keyParts)

/-- **An UPDATE or DELETE finds the row that was read unless an edit of its key is pending.** After any
fields were written, as values or as SQL text, the statement binds what the key columns are now. These are the
values of the row that was read exactly if whatever is pending for a key column is the value that it had. -/
theorem addressesLoadedRow_iff (hloaded : s.record.changes = .ofRow row)
    (hcolumns : ∀ column ∈ s.key.columns, ∃ name, column = .text name) (hplain : s.HasPlainKey)
    {edits : List RowStep} (hwrites : ∀ step ∈ edits, step.IsWrite) {request : Request}
    (hrequest : request.WritesRow) {sql : Sql} {t' : Scope E}
    (hsent : (statement request).perform (after edits s) = (.ok (some sql), t')) :
    sql.params = .positional
        (request.assigned (after edits s).record.changes ++ (after edits s).keyParts) ∧
      (AddressesLoadedRow request s (after edits s) sql ↔ s.KeepsKey (after edits s)) := by
  have ht : s.HasEdits row (after edits s) := hasEdits_after hwrites (hasEdits_self hloaded)
  let voc : Vocabulary := ⟨fun _ => True, fun _ => True, fun _ => True, fun _ _ _ => trivial⟩
  have hnames : voc.Names (after edits s).key.columns := by
    intro column hcolumn
    rw [ht.key_eq] at hcolumn
    obtain ⟨name, hname⟩ := hcolumns column hcolumn
    exact ⟨name, hname, trivial⟩
  have hbinds := (triple_statement_binds hnames ht.overlays.isNew hrequest).of_ok
    (holds_self (hasMarks_true _ _)) hsent sql rfl
  refine ⟨hbinds, ?_⟩
  rw [AddressesLoadedRow, hbinds, ← ht.keyParts_eq_iff hloaded hplain]
  simp

/-- A record that was read from a row, with the given key, on an outside that counts INSERTs. -/
def loadedOnCountingDesk (key : KeyColumns) (row : Row) : Scope .counting :=
  { onCountingDesk {} with
    record := { onTable "orders" "default" with changes := .ofRow row, ownKey := some key } }

/-- What is in stock of an article in a warehouse. -/
def stock : Scope .counting :=
  loadedOnCountingDesk (.compound [.text "warehouse", .text "sku"])
    [(.text "warehouse", .int 3), (.text "sku", .text "K-7"), (.text "stock", .int 5)]

/-- One piece is taken, and the article is written once more. -/
def taking : List RowStep := [
  .write (.text "stock") (.text "stock - 1") true,
  .write (.map [(.text "sku", .text "K-7"), (.text "note", .null)]) .null false]

theorem addressesLoadedRow_iff_taking :
    ∃ sql t', (statement .save).perform (after taking stock) = (.ok (some sql), t') ∧
      AddressesLoadedRow .save stock (after taking stock) sql := by
  obtain ⟨sql, t', hsent⟩ :
      ∃ sql t', (statement .save).perform (after taking stock) = (.ok (some sql), t') := ⟨_, _, rfl⟩
  have hkey : stock.key = .compound [.text "warehouse", .text "sku"] := rfl
  have hdirty : (after taking stock).record.changes.dirty =
      [(.text "stock", .text "stock - 1"), (.text "sku", .text "K-7"), (.text "note", .null)] := rfl
  have hnames : ∀ column ∈ stock.key.columns, ∃ name, column = .text name := by
    rw [hkey]
    exact List.forall_mem_cons.2 ⟨⟨"warehouse", rfl⟩, List.forall_mem_singleton.2 ⟨"sku", rfl⟩⟩
  have hplain : stock.HasPlainKey := by
    intro column hsingle
    rw [hkey] at hsingle
    cases hsingle
  have hkeeps : stock.KeepsKey (after taking stock) := by
    -- Only the second key column has a pending value, which is the one that it had.
    unfold Scope.KeepsKey Scope.keyPartsOf
    rw [hkey, hdirty]
    refine List.forall_mem_cons.2 ⟨?_, List.forall_mem_singleton.2 ?_⟩
    · rintro v ⟨⟩
    · rintro v ⟨⟩
      rfl
  have hwrites : ∀ step ∈ taking, step.IsWrite :=
    List.forall_mem_cons.2 ⟨trivial, List.forall_mem_singleton.2 trivial⟩
  have hsave : Request.save.WritesRow := trivial
  exact ⟨sql, t', hsent, (addressesLoadedRow_iff rfl hnames hplain hwrites hsave hsent).2.2 hkeeps⟩

/-- SQL text that is to be assigned to the key is bound as its value. -/
theorem not_addressesLoadedRow_of_expression :
    let s := loadedOnCountingDesk (.single (.text "id")) [(.text "id", .int 5), (.text "note", .text "new")]
    let t := after [.write (.text "id") (.text "id + 1") true] s
    ∃ sql t', (statement .save).perform t = (.ok (some sql), t') ∧
      sql.params = .positional [.text "id + 1"] ∧ ¬ AddressesLoadedRow .save s t sql := by
  refine ⟨_, _, rfl, rfl, fun h => ?_⟩
  have hvalues : [Value.text "id + 1"] = [.int 5] := Params.positional.inj h
  cases hvalues

end Record

end FluentSql
