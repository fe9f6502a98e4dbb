import FluentSql.Changes.Write
import FluentSql.Proofs.Query.Spelling
import FluentSql.Proofs.Query.Template
import FluentSql.Proofs.Record.Key
import FluentSql.Proofs.Record.Requests
/-
# FluentSql.Proofs.Record.Statements — the statements of a record are spelled.

Where no field is inlined, an INSERT has a slot for each dirty field, an UPDATE one for each dirty field and
for each key column, and a DELETE one for each key column. If there are fewer key values than key columns,
that is a surplus of slots.

So every statement that a record sends is spelled with the vocabulary of its query and of its row, with one
slot for each parameter. Only where the row is found by a key that repeats a column are there more slots
than parameters (`triple_statement`).
-/

namespace FluentSql.Changes

variable {voc : Vocabulary} {r : Rendering} {table : String} {c : Changes}

theorem terms_eq (h : c.inlined = []) : c.terms = c.dirty.map fun e => Term.bound e.2 := by
  have hterm : ∀ e, c.term e = .bound e.2 := by
    intro e
    simp [term, isInlined, h]
  exact List.map_congr_left fun e _ => hterm e

theorem boundValues_eq (h : c.inlined = []) : c.boundValues = c.dirty.map (·.2) := by
  have hall : c.dirty.filter (fun e => !c.isInlined e.1) = c.dirty :=
    List.filter_eq_self.2 fun e _ => by simp [isInlined, h]
  rw [boundValues, hall]

theorem spells_placeholders (h : c.inlined = []) :
    voc.Spells c.placeholders.text.toList c.dirty.length ∧ c.placeholders.bound = c.dirty.map (·.2) := by
  have hslots : voc.Spells (", ".intercalate (c.dirty.map fun _ => "?")).toList c.dirty.length :=
    Fragment.sum_map_one c.dirty ▸ Vocabulary.spells_string_intercalate ", "
      (voc.spells_ordinary _ (by decide)) fun _ _ => Vocabulary.spells_slot
  simp only [placeholders, terms_eq h, Placeholders.ofTerms, List.map_map]
  exact ⟨hslots, by simp [Function.comp_def, Term.value?]⟩

/-- Names that are written one by one have no slots. -/
theorem spells_names {names : List String} (glue : String) (hglue : voc.Spells glue.toList 0)
    (h : ∀ name ∈ names, voc.Spells name.toList 0) : voc.Spells (glue.intercalate names).toList 0 := by
  have hall : voc.Spells (glue.intercalate (names.map id)).toList (names.map fun _ => 0).sum :=
    Vocabulary.spells_string_intercalate glue hglue h
  rwa [List.map_id, List.map_const', List.sum_replicate_nat, Nat.mul_zero] at hall

/-- The condition on the key has a slot for each key column. -/
theorem spells_keyCondition {columns : List String} (h : ∀ name ∈ columns, voc.Spells name.toList 0) :
    voc.Spells (keyCondition columns).toList columns.length := by
  have hcolumn : ∀ name ∈ columns, voc.Spells (name ++ " = ?").toList 1 := by
    intro name hname
    have hend : voc.Spells " = ?".toList 1 :=
      (voc.spells_ordinary " = " (by decide)).append Vocabulary.spells_slot
    simpa using (h name hname).append hend
  have hall := Vocabulary.spells_string_intercalate " AND " (voc.spells_ordinary _ (by decide)) hcolumn
  rw [Fragment.sum_map_one] at hall
  simpa [keyCondition] using (voc.spells_ordinary "WHERE " (by decide)).append hall

theorem spells_insert (hinlined : c.inlined = []) (hmark : voc.marks r.mark) (htable : voc.names table)
    {fields : List String} (hfields : ∀ name ∈ fields, voc.Spells name.toList 0) {returning : String}
    (hreturning : voc.Spells returning.toList 0) :
    (c.insert r table fields returning).IsSpelled voc 0 := by
  have hplaceholders : voc.Spells c.placeholders.text.toList c.dirty.length ∧
      c.placeholders.bound = c.dirty.map (·.2) := spells_placeholders hinlined
  obtain ⟨hslots, hbound⟩ := hplaceholders
  refine ⟨_, _, rfl, ?_⟩
  rw [hbound, List.length_map, Nat.add_zero]
  have word : ∀ {s : String} {n : Nat}, voc.Spells s.toList n → voc.SpellsWords [s] n :=
    Vocabulary.spellsWords_singleton
  have hnames := spells_names ", " (voc.spells_ordinary _ (by decide)) hfields
  have hopen := voc.spells_ordinary "(" (by decide)
  have hclose := voc.spells_ordinary ")" (by decide)
  have hlist : voc.Spells ("(" ++ ", ".intercalate fields ++ ")").toList 0 := by
    simpa using (hopen.append hnames).append hclose
  have hvalues : voc.Spells ("(" ++ c.placeholders.text ++ ")").toList c.dirty.length := by
    simpa using (hopen.append hslots).append hclose
  have hquoted : voc.Spells (r.quote table).toList 0 := Vocabulary.spells_quoteName hmark htable
  have hfront := (word (voc.spells_ordinary "INSERT INTO" (by decide))).append
    ((word hquoted).append ((word hlist).append
      ((word (voc.spells_ordinary "VALUES" (by decide))).append (word hvalues))))
  have hback : voc.SpellsWords (if r.dialect.returnsIds then ["RETURNING " ++ returning] else []) 0 := by
    split
    · refine word ?_
      simpa using (voc.spells_ordinary "RETURNING " (by decide)).append hreturning
    · exact Vocabulary.spellsWords_nil
  simpa using (hfront.append hback).spells

theorem spells_update (hinlined : c.inlined = []) (hmark : voc.marks r.mark) (htable : voc.names table)
    {fields columns : List String} (hfields : ∀ name ∈ fields, voc.Spells name.toList 0)
    (hlength : fields.length = c.dirty.length) (hcolumns : ∀ name ∈ columns, voc.Spells name.toList 0)
    {keyValues : List Value} {surplus : Nat} (hvalues : keyValues.length + surplus = columns.length) :
    (c.update r table fields columns keyValues).IsSpelled voc surplus := by
  refine ⟨_, _, rfl, ?_⟩
  rw [List.length_append, boundValues_eq hinlined, List.length_map, Nat.add_assoc, hvalues]
  -- No field is inlined, so every assignment has its own slot.
  have hassignment : ∀ p ∈ fields.zip c.terms, voc.Spells (assignment p.1 p.2).toList 1 := by
    rintro ⟨name, term⟩ hp
    obtain ⟨hname, hterm⟩ := List.of_mem_zip hp
    rw [terms_eq hinlined] at hterm
    obtain ⟨e, -, rfl⟩ := List.mem_map.1 hterm
    have hend : voc.Spells " = ?".toList 1 :=
      (voc.spells_ordinary " = " (by decide)).append Vocabulary.spells_slot
    simpa [assignment, Term.text] using (hfields name hname).append hend
  have hall :
      voc.Spells (", ".intercalate (fields.zipWith assignment c.terms)).toList c.dirty.length := by
    have hterms : (fields.zip c.terms).length = c.dirty.length := by
      rw [List.length_zip, terms_eq hinlined, List.length_map, hlength, Nat.min_self]
    rw [← hterms, ← List.map_uncurry_zip_eq_zipWith, ← Fragment.sum_map_one]
    exact Vocabulary.spells_string_intercalate ", " (voc.spells_ordinary _ (by decide)) hassignment
  have hquoted : voc.Spells (r.quote table).toList 0 := Vocabulary.spells_quoteName hmark htable
  have hstart : voc.Spells ("UPDATE " ++ r.quote table ++ " SET").toList 0 := by
    simpa using ((voc.spells_ordinary "UPDATE " (by decide)).append hquoted).append
      (voc.spells_ordinary " SET" (by decide))
  have hwords := (Vocabulary.spellsWords_singleton hstart).append
    ((Vocabulary.spellsWords_singleton hall).append
      (Vocabulary.spellsWords_singleton (spells_keyCondition hcolumns)))
  simpa using hwords.spells

theorem spells_delete (hmark : voc.marks r.mark) (htable : voc.names table) {columns : List String}
    (hcolumns : ∀ name ∈ columns, voc.Spells name.toList 0) {keyValues : List Value} {surplus : Nat}
    (hvalues : keyValues.length + surplus = columns.length) :
    (delete r table columns keyValues).IsSpelled voc surplus := by
  refine ⟨_, _, rfl, ?_⟩
  rw [hvalues]
  have hquoted : voc.Spells (r.quote table).toList 0 := Vocabulary.spells_quoteName hmark htable
  have hstart := Vocabulary.spellsWords_singleton (voc.spells_ordinary "DELETE FROM" (by decide))
  have hwords := hstart.append
    ((Vocabulary.spellsWords_singleton hquoted).append
      (Vocabulary.spellsWords_singleton (spells_keyCondition hcolumns)))
  simpa using hwords.spells

end FluentSql.Changes

namespace FluentSql

open Step (Keeps Triple)

/-- The request writes the row of the record. -/
def Request.WritesRow : Request → Prop
  | .save | .delete => True
  | .rows | .deleteMany => False

/-- The statement of the request finds the row by its key. -/
def Request.FindsByKey (r : Record) : Request → Prop
  | .delete => True
  | .save => r.changes.isNew = false
  | .rows | .deleteMany => False

theorem Changes.mapInlined_eq_self {c : Changes} (h : c.inlined = []) (f : Value → Value) :
    c.mapInlined f = c := by
  have hsame : ∀ e : Value × Value, (if c.isInlined e.1 then (e.1, f e.2) else e) = e := by
    intro e
    simp [isInlined, h]
  simp [mapInlined, hsame]

variable {voc : Vocabulary}

/-- Where there is no row window, there is none to settle. -/
theorem Query.IsSpelled.ready_eq {q : Query} (h : q.IsSpelled voc) {name : Option Value}
    (hname : q.tableAlias = name) (f : Value → Value) :
    { q with tableAlias := name, limit := q.limit.map f, offset := q.offset.map f } = q := by
  obtain ⟨-, -, -, -, -, -, -, -, hlimit, hoffset, -⟩ := h
  cases q
  simp_all

/-- A list of names is quoted name by name. -/
theorem Identifier.quote?_list_of_names {columns : List Value} (h : voc.Names columns) {mark : String}
    (hmark : voc.marks mark) :
    ∃ written, quote? mark (.list columns) = .ok written ∧ voc.Spells written.toList 0 := by
  have hnames : ∃ names : List String, columns.mapM name? = .ok names ∧ ∀ name ∈ names, voc.names name := by
    induction columns with
    | nil => exact ⟨[], rfl, by simp⟩
    | cons column columns ih =>
        obtain ⟨name, rfl, hname⟩ := h column List.mem_cons_self
        obtain ⟨names, hmap, hall⟩ := ih fun c hc => h c (List.mem_cons_of_mem _ hc)
        refine ⟨name :: names, ?_, List.forall_mem_cons.2 ⟨hname, hall⟩⟩
        rw [List.mapM_cons, hmap]
        rfl
  obtain ⟨names, hmap, hall⟩ := hnames
  refine ⟨quoteNames mark names, ?_, ?_⟩
  · show (do .ok (quoteNames mark (← columns.mapM name?)) : Except Failure String) = _
    rw [hmap]
    rfl
  · refine Changes.spells_names ", " (voc.spells_ordinary _ (by decide)) fun written hwritten => ?_
    obtain ⟨name, hname, rfl⟩ := List.mem_map.1 hwritten
    exact Vocabulary.spells_quoteName hmark (hall name hname)

theorem Heap.settleAll_names {columns : List Value} (hcolumns : voc.Names columns) (h : Heap) :
    h.settleAll columns = columns := by
  have hsame : ∀ v ∈ columns, h.settle v = id v := by
    intro v hv
    obtain ⟨name, rfl, -⟩ := hcolumns v hv
    exact settle_eq_self h rfl
  rw [settleAll, List.map_congr_left hsame, List.map_id]

namespace Record

open Scope (Holds)

variable {E : Environment} {s : Scope E} {r : Rendering}

/-! ## Names -/

theorem triple_quotedAll {names : List Value} (hnames : voc.Names names) (hmark : voc.marks r.mark)
    (h : Heap) :
    Triple (· = h) (quotedAll r names)
      (fun written h' => h.Drains h' ∧ written.length = names.length ∧
        ∀ word ∈ written, voc.Spells word.toList 0) h.Drains := by
  refine (Triple.mapM (fun done (written : List String) h' => h.Drains h' ∧ written.length = done.length ∧
    ∀ word ∈ written, voc.Spells word.toList 0) fun done written name rest hsplit => ?_).pre ?_
  · obtain ⟨name, rfl, hname⟩ := hnames name (by simp [hsplit])
    refine Triple.of_states fun h' ⟨hd, hlength, hall⟩ => ?_
    refine Triple.bind ((Heap.triple_identifier_text h' name).consequence (fun _ hs => hs)
      (fun _ _ hs => hs) fun _ => False.elim) fun v => ?_
    refine Triple.lift ?_ ?_
    · rintro quoted hquoted _ ⟨rfl, rfl⟩
      cases hquoted
      refine ⟨hd, by simp [hlength], ?_⟩
      have hlast : voc.Spells (Identifier.quoteName r.mark name).toList 0 :=
        Vocabulary.spells_quoteName hmark hname
      simpa [or_imp, forall_and, hlast] using hall
    · rintro failure hquoted _ ⟨-, rfl⟩
      cases hquoted
  · rintro _ rfl
    exact ⟨Heap.Drains.refl _, rfl, by simp⟩

theorem triple_returnedColumns {columns : List Value} (hcolumns : voc.Names columns)
    (hmark : voc.marks r.mark) (h : Heap) :
    Triple (· = h) (returnedColumns r columns)
      (fun written h' => h.Drains h' ∧ voc.Spells written.toList 0) h.Drains := by
  unfold returnedColumns
  split
  · refine Triple.bindGet ?_
    rintro h rfl
    rw [Heap.settleAll_names hcolumns]
    obtain ⟨written, hwritten, hspelled⟩ := Identifier.quote?_list_of_names hcolumns hmark
    rw [hwritten]
    exact Triple.pure fun _ hs => ⟨hs ▸ Heap.Drains.refl _, hspelled⟩
  · exact Triple.pure fun _ hs => ⟨hs ▸ Heap.Drains.refl _, Vocabulary.spells_nil⟩

/-! ## The row -/

/-- The row of the record can be written with the vocabulary: its dirty fields and key columns are names,
and no field is inlined. The value of a key of one column is no mapping. -/
structure Scope.WritesPlainly (voc : Vocabulary) (s : Scope E) : Prop where
  inlined : s.record.changes.inlined = []
  dirty : voc.Names (Entries.keys s.record.changes.dirty)
  keyColumns : voc.Names s.key.columns
  keyValue : s.HasPlainKey

theorem triple_readyChanges {P : String → Prop} (hinlined : s.record.changes.inlined = []) :
    Triple (Holds P s s.record) (readyChanges : Record.Action E Changes)
      (fun changes s' => Holds P s s.record s' ∧ changes = s.record.changes) (Holds P s s.record) := by
  refine triple_bindCurrent fun s' hs' => ?_
  refine triple_bindHeap fun t ht => ?_
  subst ht
  refine Triple.pure ?_
  rintro _ rfl
  refine ⟨hs', ?_⟩
  rw [hs'.record, Changes.mapInlined_eq_self hinlined]

theorem triple_insertion_isSpelled (hplain : s.WritesPlainly voc) (htable : voc.names s.record.table)
    (hmark : voc.marks r.mark) :
    Triple (Holds voc.marks s s.record) (insertion r s.key.columns)
      (fun sql _ => sql.IsSpelled voc 0) (Holds voc.marks s s.record) := by
  refine Triple.bindKnown (triple_readyChanges hplain.inlined) ?_
  rintro _ rfl
  refine Triple.bindKnown (triple_inAnyHeap fun h => triple_quotedAll hplain.dirty hmark h) ?_
  rintro fields ⟨-, hfields⟩
  refine Triple.bindKnown (triple_inAnyHeap fun h => triple_returnedColumns hplain.keyColumns hmark h) ?_
  intro returning hreturning
  refine triple_bindCurrent fun s' hs' => Triple.pure fun _ _ => ?_
  rw [hs'.record]
  exact Changes.spells_insert hplain.inlined hmark htable hfields hreturning

/-- The statement has a slot without a parameter for each repetition of a key column. -/
def Scope.IsKeyed (voc : Vocabulary) (s : Scope E) (sql : Sql) : Prop :=
  ∃ surplus, sql.IsSpelled voc surplus ∧ (surplus = 0 ↔ s.key.columns.Nodup)

theorem triple_updating_isKeyed (hplain : s.WritesPlainly voc) (htable : voc.names s.record.table)
    (hmark : voc.marks r.mark) :
    Triple (Holds voc.marks s s.record) (updating r s.key.columns)
      (fun sql _ => s.IsKeyed voc sql) (Holds voc.marks s s.record) := by
  refine Triple.bindKnown (triple_keyValues hplain.keyColumns hplain.keyValue) ?_
  rintro values ⟨surplus, hsurplus, hnodup⟩
  refine Triple.bindKnown (triple_readyChanges hplain.inlined) ?_
  rintro _ rfl
  refine Triple.bindKnown (triple_inAnyHeap fun h => triple_quotedAll hplain.dirty hmark h) ?_
  rintro fields ⟨hlength, hfields⟩
  refine Triple.bindKnown (triple_inAnyHeap fun h => triple_quotedAll hplain.keyColumns hmark h) ?_
  rintro columns ⟨hcount, hcolumns⟩
  refine triple_bindCurrent fun s' hs' => Triple.pure fun _ _ => ⟨surplus, ?_, hnodup⟩
  rw [hs'.record]
  rw [Entries.keys, List.length_map] at hlength
  -- Each key column has a slot, but a column that is repeated has no value of its own.
  have hslots : values.length + surplus = columns.length := hsurplus.trans hcount.symm
  exact Changes.spells_update hplain.inlined hmark htable hfields hlength hcolumns hslots

theorem triple_deletion_isKeyed (hplain : s.WritesPlainly voc) (htable : voc.names s.record.table) :
    Triple (Holds voc.marks s s.record) (deletion : Record.Action E Sql)
      (fun sql _ => s.IsKeyed voc sql) (Holds voc.marks s s.record) := by
  refine Triple.bindKnown triple_rendering fun r hmark => ?_
  refine Triple.bindKnown triple_key ?_
  rintro _ rfl
  refine Triple.bindKnown (triple_keyValues hplain.keyColumns hplain.keyValue) ?_
  rintro values ⟨surplus, hsurplus, hnodup⟩
  refine Triple.bindKnown (triple_inAnyHeap fun h => triple_quotedAll hplain.keyColumns hmark h) ?_
  rintro columns ⟨hcount, hcolumns⟩
  refine triple_bindCurrent fun s' hs' => Triple.pure fun _ _ => ⟨surplus, ?_, hnodup⟩
  rw [hs'.record]
  exact Changes.spells_delete hmark htable hcolumns (hsurplus.trans hcount.symm)

theorem triple_pendingWrite_isSpelled (hplain : s.WritesPlainly voc) (htable : voc.names s.record.table) :
    Triple (Holds voc.marks s s.record) (pendingWrite : Record.Action E (Option (List Value × Sql)))
      (fun pending _ => ∀ columns sql, pending = some (columns, sql) →
        if s.record.changes.isNew then sql.IsSpelled voc 0 else s.IsKeyed voc sql)
      (Holds voc.marks s s.record) := by
  refine Triple.bindKnown triple_rendering fun r hmark => ?_
  refine Triple.bindKnown triple_key ?_
  rintro _ rfl
  refine triple_bindCurrent fun s' hs' => ?_
  have hsame : ∀ t, t = s' → Holds voc.marks s s.record t := fun t ht => ht ▸ hs'
  rw [hs'.record]
  by_cases hnew : s.record.changes.isNew = true
  · -- An INSERT has no condition, so its key does not matter.
    simp only [hnew, if_true]
    refine Triple.bind ((triple_insertion_isSpelled hplain htable hmark).pre hsame) fun sql => Triple.pure ?_
    rintro _ hsql _ _ ⟨⟩
    exact hsql
  · simp only [hnew, Bool.false_eq_true, if_false]
    split
    · refine Triple.bind ((triple_updating_isKeyed hplain htable hmark).pre hsame) fun sql => Triple.pure ?_
      rintro _ hsql _ _ ⟨⟩
      exact hsql
    · exact Triple.pure fun _ _ => by simp

/-! ## The query -/

/-- There is nothing to prepare in a query whose alias is a name. -/
theorem triple_readyQuery {P : String → Prop} (hquery : s.record.query.IsSpelled voc) :
    Triple (Holds P s s.record) (readyQuery : Record.Action E Query)
      (fun q s' => Holds P s s.record s' ∧ q = s.record.query) (Holds P s s.record) := by
  refine triple_bindCurrent fun s' hs' => ?_
  rw [hs'.record]
  refine triple_bindHeap fun t ht => ?_
  subst ht
  dsimp only
  split
  · rename_i v _ hname _ _
    obtain ⟨name, rfl, -⟩ := hquery.tableAlias v hname
    refine Triple.bindKnown (I := Holds P s s.record) (R := fun v => v = .text name) ?_ ?_
    · refine triple_inHeap hs' ?_
      refine (Heap.triple_identifier_text _ name).consequence (fun _ hs => hs) ?_ fun _ => False.elim
      rintro v _ ⟨rfl, hv⟩
      exact ⟨Heap.Drains.refl _, hv⟩
    · rintro _ rfl
      exact Triple.pure fun _ hu => ⟨hu, hquery.ready_eq hname _⟩
  · exact Triple.pure fun _ hs => ⟨hs ▸ hs', hquery.ready_eq rfl _⟩

theorem triple_compileSelect (hvoc : voc.HasSolidMarks) (hquery : s.record.query.IsSpelled voc) :
    Triple (Holds voc.marks s s.record) (compileSelect : Record.Action E Sql)
      (fun sql _ => sql.IsSpelled voc 0) (Holds voc.marks s s.record) := by
  refine Triple.bindKnown triple_rendering fun r hmark => ?_
  refine Triple.bindKnown (triple_readyQuery hquery) ?_
  rintro _ rfl
  obtain ⟨sql, hselect, hsql⟩ := Query.spells_select hvoc hquery hmark
  rw [hselect]
  exact Triple.pure fun _ _ => hsql

theorem triple_deletionOfMany (hvoc : voc.HasSolidMarks) (hquery : s.record.query.IsSpelled voc) :
    Triple (Holds voc.marks s s.record) (deletionOfMany : Record.Action E Sql)
      (fun sql _ => sql.IsSpelled voc 0) (Holds voc.marks s s.record) := by
  refine Triple.bindKnown triple_rendering fun r hmark => ?_
  refine triple_bindCurrent fun s' hs' => ?_
  rw [hs'.record]
  obtain ⟨sql, hdelete, hsql⟩ := Query.spells_deleteMany hvoc hquery hmark
  rw [hdelete]
  exact Triple.pure fun _ _ => hsql

/-! ## All requests -/

/-- **Every statement that a record sends is spelled, and has as many slots as parameters exactly if the
key columns that it finds its row by are all different.** -/
theorem triple_statement (hvoc : voc.HasSolidMarks) {request : Request}
    (hquery : s.record.query.IsSpelled voc) (hplain : request.WritesRow → s.WritesPlainly voc) :
    Triple (Holds voc.marks s s.record) (statement request)
      (fun sent _ => ∀ sql, sent = some sql → ∃ surplus, sql.IsSpelled voc surplus ∧
        (surplus = 0 ↔ (request.FindsByKey s.record → s.key.columns.Nodup)))
      (Holds voc.marks s s.record) := by
  have hfull : ∀ {sql : Sql} {request : Request}, ¬ request.FindsByKey s.record → sql.IsSpelled voc 0 →
      ∀ sent, some sql = some sent → ∃ surplus, sent.IsSpelled voc surplus ∧
        (surplus = 0 ↔ (request.FindsByKey s.record → s.key.columns.Nodup)) := by
    rintro sql request hkey hsql _ ⟨⟩
    exact ⟨0, hsql, by simp [hkey]⟩
  have hkeyed : ∀ {sql : Sql} {request : Request}, request.FindsByKey s.record → s.IsKeyed voc sql →
      ∀ sent, some sql = some sent → ∃ surplus, sent.IsSpelled voc surplus ∧
        (surplus = 0 ↔ (request.FindsByKey s.record → s.key.columns.Nodup)) := by
    rintro sql request hkey ⟨surplus, hsql, hsurplus⟩ _ ⟨⟩
    exact ⟨surplus, hsql, by simpa [hkey] using hsurplus⟩
  -- Statements about the query have all their parameters; those that find a row by its key have if
  -- no key column is repeated.
  cases request with
  | rows =>
      exact Triple.bind (triple_compileSelect hvoc hquery) fun sql => Triple.pure fun _ hsql =>
        hfull id hsql
  | deleteMany =>
      exact Triple.bind (triple_deletionOfMany hvoc hquery) fun sql => Triple.pure fun _ hsql =>
        hfull id hsql
  | delete =>
      exact Triple.bind (triple_deletion_isKeyed (hplain trivial) hquery.table) fun sql =>
        Triple.pure fun _ hsql => hkeyed trivial hsql
  | save =>
      refine Triple.bind (triple_pendingWrite_isSpelled (hplain trivial) hquery.table) fun pending =>
        Triple.pure fun _ hpending => ?_
      rcases pending with _ | ⟨columns, sql⟩
      · simp
      · have hsql := hpending columns sql rfl
        split at hsql
        · rename_i hnew
          exact hfull (by simpa [Request.FindsByKey] using hnew) hsql
        · rename_i hnew
          exact hkeyed (by simpa [Request.FindsByKey] using hnew) hsql

end Record

end FluentSql
