import FluentSql.Proofs.Connection.Failures
import FluentSql.Proofs.Connection.Quiet
import FluentSql.Proofs.Record.NullKey
import FluentSql.Proofs.Record.Refusals
/-
# FluentSql.Proofs.Record.NullRefusals — when a write is refused because key columns are null.

A delete finds its row by the key, and so does a save of a record that is edited and not new. The key is looked up before
the statement is written, so that a null column is refused while everything is as it was. Nothing else that a save or a
delete does looks at the key in that way, and so nothing else is refused (`refused_iff_null`).
-/

namespace FluentSql

open Step (NeverRefuses perform_bind_ok perform_bind_error)

namespace Record

variable {E : Environment} {α β : Type} {s : Scope E}

/-! ## What refuses no key -/

theorem neverRefuses_inWorld {action : FluentSql.Action E α} (h : action.NeverRefuses) :
    (inWorld action).NeverRefuses := NeverRefuses.onPart h

theorem neverRefuses_inHeap {step : Step Heap α} (h : step.NeverRefuses) :
    (inHeap step : Record.Action E α).NeverRefuses :=
  neverRefuses_inWorld (Connection.neverRefuses_inHeap h)

theorem neverRefuses_current : (current : Record.Action E Record).NeverRefuses :=
  NeverRefuses.get.bind fun _ => NeverRefuses.pure _

theorem neverRefuses_heap : (heap : Record.Action E Heap).NeverRefuses :=
  NeverRefuses.get.bind fun _ => NeverRefuses.pure _

theorem neverRefuses_key : (key : Record.Action E KeyColumns).NeverRefuses := by
  refine neverRefuses_current.bind fun r => ?_
  split
  · exact NeverRefuses.pure _
  · exact (neverRefuses_inWorld (Connection.neverRefuses_settings _)).bind fun _ =>
      neverRefuses_heap.bind fun _ => NeverRefuses.pure _

theorem neverRefuses_valueIn (row : Row) (key : Value) : (valueIn row key).NeverRefuses := by
  unfold valueIn
  split
  · exact NeverRefuses.pure _
  · refine NeverRefuses.bind (NeverRefuses.bind ?_ fun _ => NeverRefuses.pure _) fun _ => NeverRefuses.pure _
    exact Heap.neverRefuses_forItems
      (fun column => (Heap.neverRefuses_entryOf? column row).bind fun _ => NeverRefuses.pure _) key

theorem neverRefuses_valueAt (key : Value) : (valueAt key : Record.Action E Value).NeverRefuses :=
  neverRefuses_current.bind fun _ => neverRefuses_inHeap (neverRefuses_valueIn _ key)

theorem neverRefuses_nullKeyCount : (nullKeyCount : Record.Action E Nat).NeverRefuses := by
  refine NeverRefuses.bind (neverRefuses_key.bind fun key => ?_) fun value => neverRefuses_heap.bind fun h => ?_
  · split <;> exact neverRefuses_valueAt _
  · split <;> exact NeverRefuses.pure _

theorem neverRefuses_quotedAll (r : Rendering) (names : List Value) : (quotedAll r names).NeverRefuses :=
  NeverRefuses.mapM (fun name => (Heap.neverRefuses_identifier name).bind fun _ =>
    NeverRefuses.lift (Identifier.spares_quote? _ _)) names

theorem neverRefuses_returnedColumns (r : Rendering) (keyColumns : List Value) :
    (returnedColumns r keyColumns).NeverRefuses := by
  unfold returnedColumns
  split
  · exact NeverRefuses.get.bind fun _ => NeverRefuses.lift (Identifier.spares_quote? _ _)
  · exact NeverRefuses.pure _

theorem neverRefuses_readyChanges : (readyChanges : Record.Action E Changes).NeverRefuses :=
  neverRefuses_current.bind fun _ => neverRefuses_heap.bind fun _ => NeverRefuses.pure _

theorem neverRefuses_insertion (r : Rendering) (keyColumns : List Value) :
    (insertion r keyColumns : Record.Action E Sql).NeverRefuses :=
  neverRefuses_readyChanges.bind fun _ => (neverRefuses_inHeap (neverRefuses_quotedAll r _)).bind fun _ =>
    (neverRefuses_inHeap (neverRefuses_returnedColumns r keyColumns)).bind fun _ =>
      neverRefuses_current.bind fun _ => NeverRefuses.pure _

theorem neverRefuses_addFields (row : Value) : (addFields row : Record.Action E Unit).NeverRefuses := by
  refine neverRefuses_heap.bind fun h => ?_
  split
  · exact NeverRefuses.modify _
  · refine (neverRefuses_inHeap (Heap.neverRefuses_items row)).bind fun pairs => NeverRefuses.forM (fun pair => ?_) pairs
    exact (neverRefuses_inHeap (Heap.neverRefuses_pair pair)).bind fun _ => NeverRefuses.modify _

section

variable (hE : E.NeverRefuses)
include hE

theorem neverRefuses_executeWrite (sql : Sql) : (executeWrite sql : Record.Action E Statement).NeverRefuses := by
  have hclear : (autoClearCache : Record.Action E Unit).NeverRefuses := by
    refine neverRefuses_current.bind fun r => ?_
    refine (neverRefuses_inWorld (Connection.neverRefuses_settings _)).bind fun settings => ?_
    split
    · exact neverRefuses_inWorld (Connection.neverRefuses_clearCache hE _ _)
    · exact NeverRefuses.pure _
  exact neverRefuses_current.bind fun r =>
    (neverRefuses_inWorld (Connection.neverRefuses_execute hE _ _ _)).bind fun _ => hclear.bind fun _ =>
      NeverRefuses.pure _

theorem neverRefuses_fillKey (keyColumns : List Value) (statement : Statement) :
    (fillKey keyColumns statement : Record.Action E Unit).NeverRefuses := by
  refine neverRefuses_current.bind fun r => ?_
  refine (neverRefuses_inWorld (Connection.neverRefuses_dialect hE _)).bind fun dialect => ?_
  split
  · refine (neverRefuses_inWorld (Connection.neverRefuses_fetchRow hE statement)).bind fun row => ?_
    split
    · exact neverRefuses_addFields _
    · exact NeverRefuses.pure _
  · refine (neverRefuses_inWorld (Connection.neverRefuses_driver hE _)).bind fun d => ?_
    refine (neverRefuses_inWorld (Connection.neverRefuses_lastInsertId hE d)).bind fun id => ?_
    split
    · exact NeverRefuses.throw rfl
    · exact (neverRefuses_inHeap (Heap.neverRefuses_requireKey _)).bind fun _ => NeverRefuses.modify _

theorem neverRefuses_saveWith (keyColumns : List Value) (sql : Sql) :
    (saveWith keyColumns sql : Record.Action E Unit).NeverRefuses := by
  refine (neverRefuses_executeWrite hE sql).bind fun statement => neverRefuses_current.bind fun r => ?_
  extract_lets rest
  have hrest : ∀ u, (rest u).NeverRefuses := fun _ => NeverRefuses.modify _
  split
  · refine (NeverRefuses.modify _).bind fun _ => neverRefuses_nullKeyCount.bind fun count => ?_
    split
    · exact (neverRefuses_fillKey hE keyColumns statement).bind hrest
    · exact hrest ()
  · exact hrest ()

end

/-! ## Refusals -/

/-- The statement of the request has to find the row of the record by the key. -/
def Scope.NeedsKey (s : Scope E) : Request → Prop
  | .save => s.record.changes.isNew = false ∧ s.record.changes.hasChanges = true
  | .delete => True
  | .rows | .deleteMany => False

/-- From what the record meets in the scope, the action never fails because key columns are null. -/
def Scope.Spares (s : Scope E) (step : Record.Action E α) : Prop :=
  ∀ t : Scope E, t.Meets s.record s.number s.published → Failure.Spares (step.perform t).1

theorem Scope.Spares.of_neverRefuses {step : Record.Action E α} (h : step.NeverRefuses) : s.Spares step :=
  fun t _ => h t

theorem Scope.Spares.bind_ok {step : Record.Action E β} {next : β → Record.Action E α} {b : β}
    (h : s.Answers (.ok b) step) (hnext : s.Spares (next b)) : s.Spares (step >>= next) := by
  intro t ht
  obtain ⟨t', hstep, ht'⟩ := h t ht
  rw [perform_bind_ok hstep]
  exact hnext t' ht'

theorem Scope.Spares.bind {step : Record.Action E β} {next : β → Record.Action E α} (h : s.Spares step)
    (hnext : ∀ b, (next b).NeverRefuses) : s.Spares (step >>= next) := by
  intro t ht failure hfails
  rcases hrun : step.perform t with ⟨failure' | b, t'⟩
  · rw [perform_bind_error hrun] at hfails
    cases hfails
    exact h t ht failure (by rw [hrun])
  · rw [perform_bind_ok hrun] at hfails
    exact hnext b t' failure hfails

theorem Scope.Spares.bindCurrent {next : Record → Record.Action E α} (h : s.Spares (next s.record)) :
    s.Spares (current >>= next) := by
  intro t ht
  rw [perform_bindCurrent, ht.record]
  exact h t ht

open Scope (Answers Spares)

/-- Where the connection is ready, finding out how statements are written changes nothing at all. -/
theorem exists_answers_rendering (hready : s.world.session.IsReady s.record.connection) :
    ∃ result, s.Answers result (rendering : Record.Action E Rendering) := by
  rw [← s.session_published] at hready
  have hlooks := Connection.looks_rendering (E := E) hready
  obtain ⟨heap', -, hleaves⟩ := hlooks.leaves (w := s.published) rfl
  have hignores : Connection.IgnoresDrivers fun w : World E.State => w.heap = s.published.heap :=
    ⟨fun _ h => h, fun _ _ h => h⟩
  have hheap := (hignores.keeps_rendering s.record.connection).leaves (s := s.published) rfl
  rw [hleaves] at hheap
  obtain rfl : heap' = s.published.heap := hheap
  exact ⟨_, Answers.bindCurrent (Answers.inWorld (Prod.ext rfl hleaves))⟩

section

variable {r : Rendering} (hrendering : s.Answers (.ok r) (rendering : Record.Action E Rendering))
  (hcolumns : ∀ column ∈ s.key.columns, ∃ name, column = .text name) (hplain : s.HasPlainKey)
include hrendering hcolumns hplain

theorem answers_delete_of_null (hnull : s.nullColumns ≠ []) :
    s.Answers (.error (.nullId s.record.table s.nullColumns)) (delete : Record.Action E Unit) := by
  have hvalues := answers_keyValues hcolumns hplain
  rw [if_neg hnull] at hvalues
  exact Answers.bind_ok hrendering (Answers.bind_ok answers_key (Answers.bind_error hvalues))

theorem answers_save_of_null (hneeds : s.NeedsKey .save) (hnull : s.nullColumns ≠ []) :
    s.Answers (.error (.nullId s.record.table s.nullColumns)) (save : Record.Action E Unit) := by
  have hvalues := answers_keyValues hcolumns hplain
  rw [if_neg hnull] at hvalues
  obtain ⟨hold, hchanged⟩ := hneeds
  refine Answers.bind_ok hrendering (Answers.bind_ok answers_key (Answers.bindCurrent ?_))
  dsimp only
  rw [if_neg (by rw [hold]; exact Bool.false_ne_true), if_pos hchanged]
  exact Answers.bind_error (Answers.bind_error hvalues)

variable (hE : E.NeverRefuses)
include hE

theorem spares_delete (hwhole : s.nullColumns = []) : s.Spares (delete : Record.Action E Unit) := by
  have hvalues := answers_keyValues hcolumns hplain
  rw [if_pos hwhole] at hvalues
  refine Spares.bind_ok hrendering (Spares.bind_ok answers_key (Spares.bind_ok hvalues (Spares.of_neverRefuses ?_)))
  refine (neverRefuses_inHeap (neverRefuses_quotedAll r _)).bind fun quoted => neverRefuses_current.bind fun record => ?_
  exact (neverRefuses_executeWrite hE _).bind fun _ => NeverRefuses.pure _

theorem spares_save (hwhole : s.NeedsKey .save → s.nullColumns = []) : s.Spares (save : Record.Action E Unit) := by
  refine Spares.bind_ok hrendering (Spares.bind_ok answers_key (Spares.bindCurrent ?_))
  dsimp only
  split
  · exact .of_neverRefuses ((neverRefuses_insertion r _).bind fun sql => neverRefuses_saveWith hE _ sql)
  rename_i hold
  split
  · rename_i hchanged
    have hvalues := answers_keyValues hcolumns hplain
    rw [if_pos (hwhole ⟨Bool.not_eq_true _ ▸ hold, hchanged⟩)] at hvalues
    refine Spares.bind (Spares.bind_ok hvalues (.of_neverRefuses ?_)) fun sql => neverRefuses_saveWith hE _ sql
    exact neverRefuses_readyChanges.bind fun _ => (neverRefuses_inHeap (neverRefuses_quotedAll r _)).bind fun _ =>
      (neverRefuses_inHeap (neverRefuses_quotedAll r _)).bind fun _ => neverRefuses_current.bind fun _ =>
        NeverRefuses.pure _
  · exact .of_neverRefuses (NeverRefuses.pure _)

end

/-! ## Calls -/

/-- Everything is as it was, but that the dialect of the connection may have been made. -/
structure Scope.IsIntact (s s' : Scope E) : Prop where
  record : s'.record = s.record
  number : s'.number = s.number
  session : s.world.session.SameButDialects s'.world.session
  heap : s'.published.heap = s.published.heap
  outside : s'.world.outside = s.world.outside

/-- The key depends on the record, on its heap and on the settings only. -/
theorem Scope.key_congr {t : Scope E} (hrecord : t.record = s.record) (hheap : t.published.heap = s.published.heap)
    (hsettings : t.world.session.settings = s.world.session.settings) : t.key = s.key := by
  simp only [Scope.key, Session.settingsOf, hrecord, hheap, hsettings]

theorem startsByRendering_perform {call : Call} {request : Request} (hcall : call.request? = some request)
    (hrow : request.WritesRow) : StartsByRendering (perform call : Record.Action E Outcome) := by
  cases call <;> cases hcall <;> try exact hrow.elim
  · exact ⟨_, by
      simp only [perform, save, bind_assoc]
      rfl⟩
  · exact ⟨_, by
      simp only [perform, delete, bind_assoc]
      rfl⟩

/-- Where statements can be written, a call is refused or not as the null columns are. -/
theorem perform_of_answers_rendering {r : Rendering} (hE : E.NeverRefuses)
    (hrendering : s.Answers (.ok r) (rendering : Record.Action E Rendering))
    (hcolumns : ∀ column ∈ s.key.columns, ∃ name, column = .text name) (hplain : s.HasPlainKey) {call : Call}
    {request : Request} (hcall : call.request? = some request) (hrow : request.WritesRow) :
    (s.NeedsKey request → s.nullColumns ≠ [] →
      s.Answers (.error (.nullId s.record.table s.nullColumns)) (perform call : Record.Action E Outcome)) ∧
    ((s.NeedsKey request → s.nullColumns = []) → s.Spares (perform call : Record.Action E Outcome)) := by
  cases call <;> cases hcall <;> try exact hrow.elim
  · refine ⟨fun hneeds hnull => ?_, fun hwhole => ?_⟩
    · exact Answers.bind_error (answers_save_of_null hrendering hcolumns hplain hneeds hnull)
    · exact Spares.bind (spares_save hrendering hcolumns hplain hE hwhole) fun _ => NeverRefuses.pure _
  · refine ⟨fun _ hnull => ?_, fun hwhole => ?_⟩
    · exact Answers.bind_error (answers_delete_of_null hrendering hcolumns hplain hnull)
    · exact Spares.bind (spares_delete hrendering hcolumns hplain hE (hwhole trivial)) fun _ => NeverRefuses.pure _

/-- What the statement of a request binds to find the row. -/
theorem statement_binds_keyParts (hcolumns : ∀ column ∈ s.key.columns, ∃ name, column = .text name)
    {request : Request} (hrow : request.WritesRow) (hneeds : s.NeedsKey request) {sql : Sql} {t : Scope E}
    (hwritten : (statement request).perform s = (.ok (some sql), t)) :
    sql.params = .positional (request.assigned s.record.changes ++ s.keyParts) := by
  let voc : Vocabulary := ⟨fun _ => True, fun _ => True, fun _ => True, fun _ _ _ => trivial⟩
  have hnames : voc.Names s.key.columns := fun column hcolumn => (hcolumns column hcolumn).imp fun _ h => ⟨h, trivial⟩
  have hself : Scope.Holds (fun _ => True) s s.record s := holds_self (hasMarks_true _ _)
  cases request with
  | rows => exact hrow.elim
  | deleteMany => exact hrow.elim
  | save => exact (triple_statement_binds hnames hneeds.1 hrow).of_ok hself hwritten sql rfl
  | delete =>
      obtain ⟨_, hdeletion, ⟨⟩⟩ := perform_map_eq_ok hwritten
      exact (triple_deletion_binds hnames).of_ok hself hdeletion

/-- **A write is refused exactly if it has to find its row by a key with null columns**, and before anything happens. A
delete has to, and so does a save of a record that is edited and not new. The refusal tells the table and the null
columns, and everything is as it was then; otherwise the statement finds the row by values that are not null. -/
theorem refused_iff_null (hE : E.NeverRefuses) {d : Driver}
    (hd : Entries.get? s.record.connection s.world.session.drivers = some d) {r : Rendering} {t : Scope E}
    (hwritable : rendering.perform s = (.ok r, t))
    (hcolumns : ∀ column ∈ s.key.columns, ∃ name, column = .text name) (hplain : s.HasPlainKey) {call : Call}
    {request : Request} (hcall : call.request? = some request) (hrow : request.WritesRow) :
    ((∃ table columns s', (perform call).perform s = (.error (.nullId table columns), s')) ↔
        s.NeedsKey request ∧ s.nullColumns ≠ []) ∧
      (s.NeedsKey request → s.nullColumns ≠ [] → ∃ s', s.IsIntact s' ∧
        (perform call).perform s = (.error (.nullId s.record.table s.nullColumns), s')) ∧
      (s.NeedsKey request → s.nullColumns = [] → (∀ v ∈ s.keyParts, v.isNull = false) ∧
        ∀ sql s', (statement request).perform s = (.ok (some sql), s') →
          sql.params = .positional (request.assigned s.record.changes ++ s.keyParts)) := by
  have hstarts : StartsByRendering (rendering : Record.Action E Rendering) := ⟨pure, (bind_pure _).symm⟩
  rcases getsReady (s := s) hd with hfails | ⟨session, twin, hready, hsame, htwin, hperform⟩
  · obtain ⟨failure, t', hrun⟩ := hfails hstarts
    rw [hwritable] at hrun
    cases hrun
  -- The twin has the dialect, and everything else as the scope has it.
  have hsession : twin.world.session = session := by rw [← twin.session_published, htwin.published]
  have hheap : twin.published.heap = s.published.heap := by rw [htwin.published]
  have hkey : twin.key = s.key := by
    refine Scope.key_congr htwin.record hheap ?_
    obtain ⟨_, _, rfl⟩ := hsame
    rw [hsession]
  have hvalueOf : twin.valueOf = s.valueOf := funext fun column => by rw [Scope.valueOf, Scope.valueOf, htwin.record]
  have hnull : twin.nullColumns = s.nullColumns := by rw [Scope.nullColumns, Scope.nullColumns, hkey, hvalueOf]
  have hneeds : twin.NeedsKey request ↔ s.NeedsKey request := by
    cases request <;> simp only [Scope.NeedsKey, htwin.record]
  have hplain' : twin.HasPlainKey := by
    intro column hsingle value hvalue
    rw [hkey] at hsingle
    rw [htwin.record] at hvalue
    rw [hheap]
    exact hplain column hsingle value hvalue
  rw [← htwin.record, ← hsession] at hready
  obtain ⟨result, hrendering⟩ := exists_answers_rendering hready
  obtain ⟨t', hrun, -⟩ := hrendering twin twin.meets_self
  rw [← hperform hstarts, hwritable] at hrun
  obtain rfl : .ok r = result := congrArg Prod.fst hrun
  obtain ⟨hrefused, hspared⟩ := perform_of_answers_rendering hE hrendering (hkey ▸ hcolumns) hplain' hcall hrow
  rw [hneeds, hnull, htwin.record] at hrefused
  rw [hneeds, hnull] at hspared
  have hcalls := hperform (startsByRendering_perform (E := E) hcall hrow)
  have hintact : s.NeedsKey request → s.nullColumns ≠ [] → ∃ s', s.IsIntact s' ∧
      (perform call).perform s = (.error (.nullId s.record.table s.nullColumns), s') := by
    intro h hne
    obtain ⟨s', hfailed, hs'⟩ := hrefused h hne twin twin.meets_self
    rw [htwin.published] at hs'
    refine ⟨s', ⟨hs'.record.trans htwin.record, hs'.number.trans htwin.number, ?_, ?_, ?_⟩, hcalls.trans hfailed⟩
    · rw [← s'.session_published, hs'.published]
      exact hsame
    · rw [hs'.published]
    · rw [← s'.outside_published, hs'.published]
  refine ⟨⟨?_, ?_⟩, hintact, fun h hwhole => ⟨(Scope.nullColumns_eq_nil_iff hplain).1 hwhole, ?_⟩⟩
  · rintro ⟨table, columns, s', hfailed⟩
    by_contra hnot
    have hspares := hspared (fun h => by_contra fun hne => hnot ⟨h, hne⟩) twin twin.meets_self
    rw [← hcalls, hfailed] at hspares
    exact absurd (hspares _ rfl) (by simp [Failure.isNullId])
  · rintro ⟨h, hne⟩
    obtain ⟨s', -, hfailed⟩ := hintact h hne
    exact ⟨_, _, s', hfailed⟩
  · exact fun sql s' hwritten => statement_binds_keyParts hcolumns hrow h hwritten

/-- What is in stock of an article that is not known yet. -/
def unknownStock : Scope .counting :=
  loadedOnCountingDesk (.compound [.text "warehouse", .text "sku", .text "batch"])
    [(.text "warehouse", .int 3), (.text "batch", .null), (.text "stock", .int 5)]

theorem refused_iff_null_unknownStock :
    ∃ s', unknownStock.IsIntact s' ∧
      (perform .delete).perform unknownStock = (.error (.nullId "orders" [.text "sku", .text "batch"]), s') := by
  have hE : Environment.counting.NeverRefuses := by
    refine ⟨?_, ?_, ?_, ?_, fun _ _ => NeverRefuses.throw rfl⟩
    · rintro _ _ _ ⟨⟩
      rfl
    · rintro _ _ _ _ _ ⟨⟩
    · rintro _ _ _ _ ⟨⟩
    · rintro _ _ _ ⟨⟩
  have hcolumns : ∀ column ∈ unknownStock.key.columns, ∃ name, column = .text name :=
    List.forall_mem_cons.2 ⟨⟨"warehouse", rfl⟩, List.forall_mem_cons.2 ⟨⟨"sku", rfl⟩,
      List.forall_mem_singleton.2 ⟨"batch", rfl⟩⟩⟩
  have hplain : unknownStock.HasPlainKey := fun column hsingle => by cases hsingle
  have hnull : unknownStock.nullColumns = [.text "sku", .text "batch"] := rfl
  obtain ⟨r, t, hwritable⟩ : ∃ r t, (rendering : Record.Action .counting Rendering).perform unknownStock = (.ok r, t) :=
    ⟨_, _, rfl⟩
  have hcall : Call.request? .delete = some .delete := rfl
  have hrefused := (refused_iff_null hE rfl hwritable hcolumns hplain hcall trivial).2.1 trivial
  rw [hnull] at hrefused
  exact hrefused (List.cons_ne_nil _ _)

end Record

end FluentSql
