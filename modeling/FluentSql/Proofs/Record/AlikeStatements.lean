import FluentSql.Proofs.Record.Addressing
import FluentSql.Proofs.Record.AlikeEdits
/-
# FluentSql.Proofs.Record.AlikeStatements — alike records write the same texts.

Records that differ in the values they bind only ask for their rows, delete the rows of their query and insert
themselves with the same statements, as far as the text goes (`mirrors_compileSelect`, `mirrors_deletionOfMany`,
`mirrors_insertion`). So they do when they update or delete their own rows, unless one of them has no key: a key that
is null is refused, and whether it is null is said by the values.
-/

namespace FluentSql

open Step (Mirrors MirrorsUnless)

variable {h h' : Heap}

/-! ## Queries -/

namespace Query

/-- Queries that everything is in place in, which differ in the values of their fragments at most. The alias of the
table counts where it is written only. -/
structure WrittenAlike (q q' : Query) : Prop where
  table : q.table = q'.table
  tableAlias : q.raw = none → (Piece.texts? q.columns).isOk = true → q.tableAlias = q'.tableAlias
  columns : q.columns = q'.columns
  distinct : q.distinct = q'.distinct
  joins : q.joins.map Fragment.text = q'.joins.map Fragment.text
  wheres : q.wheres.map Fragment.text = q'.wheres.map Fragment.text
  havings : q.havings.map Fragment.text = q'.havings.map Fragment.text
  groupBy : q.groupBy = q'.groupBy
  orderBy : q.orderBy = q'.orderBy
  limit : q.limit = q'.limit
  offset : q.offset = q'.offset
  raw : q.raw.map Sql.text = q'.raw.map Sql.text

variable {q q' : Query} (r : Rendering)

theorem WrittenAlike.headClause_eq (hq : WrittenAlike q q') (hraw : q.raw = none) :
    headClause r q = headClause r q' := by
  rw [headClause, headClause, hq.limit, hq.distinct, ← hq.columns]
  have halias := hq.tableAlias hraw
  cases htexts : Piece.texts? q.columns with
  | error failure => rfl
  | ok texts =>
      rw [htexts] at halias
      rw [sourceText?, sourceText?, halias rfl, hq.table]

theorem WrittenAlike.conditionClause_eq (hq : WrittenAlike q q') (kind : ConditionKind) :
    conditionClause kind q = conditionClause kind q' := by
  cases kind with
  | whereClause => simp only [conditionClause, fragmentTexts, conditions, hq.wheres]
  | havingClause => simp only [conditionClause, fragmentTexts, conditions, hq.havings]

theorem WrittenAlike.clauses_eq (hq : WrittenAlike q q') (hraw : q.raw = none) : clauses r q = clauses r q' := by
  simp only [clauses, hq.headClause_eq r hraw, hq.conditionClause_eq, joinClause, fragmentTexts, hq.joins, hq.groupBy,
    hq.orderBy, limitClause, hq.limit, offsetClause, hq.offset]

/-- The text of a statement is that of its clauses. -/
theorem map_text_select (hraw : q.raw = none) :
    (q.select r).map Sql.text = (clauses r q).map fun all => Value.text (Text.joinNonBlank " " all) := by
  rw [select, hraw]
  cases clauses r q <;> rfl

/-- **The SELECT of a query is written without looking at values.** -/
theorem WrittenAlike.map_text_select_eq (hq : WrittenAlike q q') :
    (q.select r).map Sql.text = (q'.select r).map Sql.text := by
  have hraw := hq.raw
  cases hq₁ : q.raw <;> cases hq₂ : q'.raw <;> rw [hq₁, hq₂] at hraw
  · rw [map_text_select r hq₁, map_text_select r hq₂, hq.clauses_eq r hq₁]
  · cases hraw
  · cases hraw
  · rw [select, select, hq₁, hq₂]
    exact congrArg Except.ok (Option.some.inj hraw)

theorem map_text_deleteMany_eq (htable : q.table = q'.table)
    (hwheres : q.wheres.map Fragment.text = q'.wheres.map Fragment.text) :
    (q.deleteMany r).map Sql.text = (q'.deleteMany r).map Sql.text := by
  simp only [deleteMany, conditionClause, fragmentTexts, conditions, hwheres, htable]
  cases Piece.texts? (q'.wheres.map Fragment.text) <;> rfl

end Query

namespace Record

variable {E : Environment} {s s' : Scope E}

/-- The same text, whatever the parameters are. -/
def SameText (sql sql' : Sql) : Prop := sql.text = sql'.text

/-- Statements that are made without the state. -/
theorem mirrors_liftSql {made made' : Except Failure Sql} (hmade : made.map Sql.text = made'.map Sql.text) :
    Mirrors (Scope.Alike h h') SameText (liftM made : Record.Action E Sql) (liftM made') := by
  cases made <;> cases made'
  · cases hmade
    exact Mirrors.throw _
  · cases hmade
  · cases hmade
  · exact Mirrors.pure (Except.ok.inj hmade)

/-- The query with its limit and offset in place, and an alias. -/
def settled (g : Heap) (tableAlias : Option Value) (q : Query) : Query :=
  { q with tableAlias, limit := q.limit.map g.settle, offset := q.offset.map g.settle }

theorem map_settle_eq {n n' : Option Value} (hn : Option.Rel (h.Same h') n n') :
    n.map h.settle = n'.map h'.settle := by
  cases hn with
  | none => rw [Option.map_none, Option.map_none]
  | some hn => rw [Option.map_some, Option.map_some, hn.settle_eq]

theorem writtenAlike_settled {q q' : Query} (hq : Query.Alike h h' q q') {a a' : Option Value}
    (ha : q.raw = none → (Piece.texts? q.columns).isOk = true → a = a') :
    Query.WrittenAlike (settled h a q) (settled h' a' q') :=
  ⟨hq.table, ha, hq.columns, hq.distinct, hq.joins, hq.wheres, hq.havings, hq.groupBy, hq.orderBy,
    map_settle_eq hq.limit, map_settle_eq hq.offset, hq.raw⟩

/-- Alike queries are completed alike. -/
theorem mirrors_readyQuery :
    Mirrors (Scope.Alike h h') Query.WrittenAlike (readyQuery : Record.Action E Query) readyQuery := by
  refine mirrors_bindCurrent fun r r' hr => mirrors_bindHeap fun g g' hg hg' => ?_
  have hq := hr.query.retain hg.retains hg'.retains
  have hname := hr.query.tableAlias
  have hraw := hr.query.raw
  have htexts : Piece.texts? r'.query.columns = Piece.texts? r.query.columns := by rw [hr.query.columns]
  dsimp only
  rw [htexts]
  generalize hready : Piece.texts? r.query.columns = texts at *
  obtain ⟨_, ⟨_, tableAlias, _, _, _, _, _, _, _, _, _, _, raw⟩, _, _⟩ := r
  obtain ⟨_, ⟨_, tableAlias', _, _, _, _, _, _, _, _, _, _, raw'⟩, _, _⟩ := r'
  dsimp only at hname hraw hready ⊢
  cases hname with
  | none => exact Mirrors.pure (writtenAlike_settled hq fun _ _ => rfl)
  | some hname =>
      cases raw <;> cases raw'
      · cases texts with
        | error failure =>
            refine Mirrors.pure (writtenAlike_settled hq fun _ hok => ?_)
            rw [hready] at hok
            cases hok
        | ok texts =>
            refine Mirrors.bindEq (mirrors_looking fun f f' hf hf' => ?_) fun name =>
              Mirrors.pure (writtenAlike_settled hq fun _ _ => rfl)
            exact (hname.retain hf.retains hf'.retains).mirrors_identifier
      · cases hraw
      · cases hraw
      · exact Mirrors.pure (writtenAlike_settled hq fun hnone _ => by cases hnone)

/-- **The SELECT of alike records has the same text.** -/
theorem mirrors_compileSelect :
    Mirrors (Scope.Alike h h') SameText (compileSelect : Record.Action E Sql) compileSelect :=
  Mirrors.bindEq mirrors_rendering fun rendering => Mirrors.bind mirrors_readyQuery fun _ _ hq =>
    mirrors_liftSql (hq.map_text_select_eq rendering)

/-- **The DELETE of the rows of alike records has the same text.** -/
theorem mirrors_deletionOfMany :
    Mirrors (Scope.Alike h h') SameText (deletionOfMany : Record.Action E Sql) deletionOfMany :=
  Mirrors.bindEq mirrors_rendering fun rendering => mirrors_bindCurrent fun _ _ hr =>
    mirrors_liftSql (Query.map_text_deleteMany_eq rendering hr.query.table hr.query.wheres)

/-! ## Rows -/

theorem mirrors_quotedAll {g g' : Heap} (rendering : Rendering) {names names' : List Value}
    (hnames : List.Forall₂ (g.Same g') names names') :
    Mirrors (Heap.At g g') Eq (quotedAll rendering names) (quotedAll rendering names') := by
  have hall := Mirrors.mapM (I := Heap.At g g') (R := Eq) hnames fun name name' hname =>
    Mirrors.bindEq hname.mirrors_identifier fun identifier =>
      Mirrors.lift (Identifier.quote? rendering.mark identifier) fun _ _ => rfl
  rwa [List.forall₂_eq_eq_eq] at hall

theorem mirrors_inHeap_quotedAll (rendering : Rendering) {names names' : List Value}
    (hnames : List.Forall₂ (h.Same h') names names') :
    Mirrors (Scope.Alike h h') Eq (inHeap (quotedAll rendering names) : Record.Action E (List String))
      (inHeap (quotedAll rendering names')) :=
  mirrors_looking fun _ _ hg hg' =>
    mirrors_quotedAll rendering (hnames.imp fun _ _ hname => hname.retain hg.retains hg'.retains)

theorem mirrors_returnedColumns (rendering : Rendering) {columns columns' : List Value}
    (hcolumns : List.Forall₂ (h.Same h') columns columns') :
    Mirrors (Scope.Alike h h') Eq (inHeap (returnedColumns rendering columns) : Record.Action E String)
      (inHeap (returnedColumns rendering columns')) := by
  refine mirrors_looking fun g g' hg hg' => ?_
  unfold returnedColumns
  split
  · refine Heap.mirrors_bindGet ?_
    rw [Heap.settleAll_same (hcolumns.imp fun _ _ hcolumn => hcolumn.retain hg.retains hg'.retains)]
    exact Mirrors.lift _ fun _ _ => rfl
  · exact Mirrors.pure rfl

/-- Rows whose fields have the same names and are written the same in statements. -/
structure WrittenAlike (c c' : Changes) : Prop where
  isNew : c.isNew = c'.isNew
  names : List.Forall₂ (fun name name' => ∃ s, name = .text s ∧ name' = .text s) (Entries.keys c.dirty)
    (Entries.keys c'.dirty)
  terms : c.terms.map Term.text = c'.terms.map Term.text

/-- What is written of a row with its SQL text in place. -/
theorem map_text_terms_mapInlined (f : Value → Value) (c : Changes) : (c.mapInlined f).terms.map Term.text =
    c.dirty.map fun e => if c.isInlined e.1 then (f e.2).display else "?" := by
  have hterm : ∀ e : Value × Value,
      ((c.mapInlined f).term (if c.isInlined e.1 then (e.1, f e.2) else e)).text =
        if c.isInlined e.1 then (f e.2).display else "?" := by
    intro e
    have hinlined : ∀ field, (c.mapInlined f).isInlined field = c.isInlined field := fun _ => rfl
    by_cases he : c.isInlined e.1 = true
    · rw [if_pos he, if_pos he, Changes.term, hinlined, if_pos he, Term.text]
    · rw [if_neg he, if_neg he, Changes.term, hinlined, if_neg he, Term.text]
  rw [Changes.terms, Changes.mapInlined, List.map_map, List.map_map]
  exact List.map_congr_left fun e _ => hterm e

theorem writtenAlike_mapInlined {c c' : Changes} (hc : Changes.Alike h h' c c') :
    WrittenAlike (c.mapInlined h.settle) (c'.mapInlined h'.settle) := by
  have hinlined : ∀ field, c'.isInlined field = c.isInlined field := fun field => by
    rw [Changes.isInlined, Changes.isInlined, hc.inlined]
  refine ⟨hc.isNew, ?_, ?_⟩
  · rw [Changes.keys_mapInlined, Changes.keys_mapInlined, Entries.keys, Entries.keys]
    refine List.forall₂_map_left_iff.2 (List.forall₂_map_right_iff.2 (hc.dirty.fields.imp fun e e' he => ?_))
    cases he with
    | of => exact ⟨_, rfl, rfl⟩
  · rw [map_text_terms_mapInlined, map_text_terms_mapInlined]
    have hfields := hc.dirty.fields
    generalize c.dirty = row at hfields ⊢
    generalize c'.dirty = row' at hfields ⊢
    induction hfields with
    | nil => rw [List.map_nil, List.map_nil]
    | cons hfirst _ ih =>
        rw [List.map_cons, List.map_cons, ih]
        cases hfirst with
        | @of name v v' hv =>
            rw [hinlined]
            split
            · rename_i hin
              rw [(hv hin).settle_eq]
            · rfl

theorem mirrors_readyChanges :
    Mirrors (Scope.Alike h h') WrittenAlike (readyChanges : Record.Action E Changes) readyChanges :=
  mirrors_bindCurrent fun _ _ hr => mirrors_bindHeap fun _ _ hg hg' =>
    Mirrors.pure (writtenAlike_mapInlined (hr.changes.retain hg.retains hg'.retains))

theorem WrittenAlike.text_insert_eq {c c' : Changes} (hc : WrittenAlike c c') (rendering : Rendering) (table : String)
    (fields : List String) (returning : String) :
    (c.insert rendering table fields returning).text = (c'.insert rendering table fields returning).text := by
  have hplaceholders : c.placeholders.text = c'.placeholders.text := congrArg (", ".intercalate ·) hc.terms
  rw [Changes.insert, Changes.insert, hplaceholders]

theorem WrittenAlike.text_update_eq {c c' : Changes} (hc : WrittenAlike c c') (rendering : Rendering) (table : String)
    (fields columns : List String) (values values' : List Value) :
    (c.update rendering table fields columns values).text = (c'.update rendering table fields columns values').text := by
  have hassignments : ∀ c : Changes, fields.zipWith Changes.assignment c.terms =
      fields.zipWith (fun field text => field ++ " = " ++ text) (c.terms.map Term.text) := by
    intro c
    rw [List.zipWith_map_right]
    rfl
  rw [Changes.update, Changes.update, hassignments, hassignments, hc.terms]

theorem WrittenAlike.mirrors_fields {c c' : Changes} (hc : WrittenAlike c c') (rendering : Rendering) :
    Mirrors (Scope.Alike h h') Eq
      (inHeap (quotedAll rendering (Entries.keys c.dirty)) : Record.Action E (List String))
      (inHeap (quotedAll rendering (Entries.keys c'.dirty))) := by
  refine mirrors_inHeap_quotedAll rendering (hc.names.imp ?_)
  rintro _ _ ⟨name, rfl, rfl⟩
  exact .text name

/-- **The INSERT of alike records has the same text.** -/
theorem mirrors_insertion (rendering : Rendering) {columns columns' : List Value}
    (hcolumns : List.Forall₂ (h.Same h') columns columns') :
    Mirrors (Scope.Alike h h') SameText (insertion rendering columns : Record.Action E Sql)
      (insertion rendering columns') := by
  refine Mirrors.bind mirrors_readyChanges fun c c' hc => ?_
  refine Mirrors.bindEq (hc.mirrors_fields rendering) fun fields => ?_
  refine Mirrors.bindEq (mirrors_returnedColumns rendering hcolumns) fun returning => ?_
  refine mirrors_bindCurrent fun r r' hr => Mirrors.pure ?_
  rw [SameText, Record.table, Record.table, hr.query.table]
  exact hc.text_insert_eq rendering _ fields returning

/-! ## Keys -/

/-- The failure says that a key is null. -/
def IsNullKey (failure : Failure) : Prop := ∃ table columns, failure = .ofNullColumns table columns

theorem same_list {items items' : List Value} (hitems : List.Forall₂ (h.Same h') items items') :
    h.Same h' (.list items) (.list items') := by
  have hdata : ∃ data, h.AllReadAs items data ∧ h'.AllReadAs items' data := by
    induction hitems with
    | nil => exact ⟨[], rfl, rfl⟩
    | cons hfirst _ ih =>
        obtain ⟨first, hv, hv'⟩ := hfirst
        obtain ⟨rest, hrest, hrest'⟩ := ih
        exact ⟨first :: rest, ⟨_, _, rfl, hv, hrest⟩, ⟨_, _, rfl, hv', hrest'⟩⟩
  obtain ⟨data, hdata, hdata'⟩ := hdata
  exact ⟨.list data, ⟨items, .list, hdata⟩, ⟨items', .list, hdata'⟩⟩

theorem mirrors_valueAt {column column' : Value} (hcolumn : h.Same h' column column') :
    Mirrors (Scope.Alike h h') (fun _ _ => True) (valueAt column : Record.Action E Value) (valueAt column') :=
  mirrors_bindCurrent fun _ _ _ => mirrors_looking fun _ _ hg hg' => mirrors_valueIn hg hg' hcolumn _ _

/-- The values of the keys of alike records need not have anything to do with each other. -/
theorem mirrors_keyValue :
    Mirrors (Scope.Alike h h') (fun _ _ => True) (keyValue : Record.Action E Value) keyValue := by
  refine Mirrors.bind mirrors_key fun k k' hk => ?_
  cases hk with
  | single hcolumn => exact mirrors_valueAt (.of_asText? hcolumn)
  | compound hcolumns => exact mirrors_valueAt (same_list hcolumns)

/-- The value of the key that was found, no part of which may be null. -/
def presented (value : Value) : Record.Action E Value := do
  match (← heap).entries? value with
  | some entries => if !(nullKeys entries).isEmpty then refuseNull (nullKeys entries)
  | none => if value.isNull then refuseNull (← key).columns
  return value

theorem presentKeyValue_eq : (presentKeyValue : Record.Action E Value) = keyValue >>= presented := rfl

theorem endsIn_refuseNull {α : Type} (columns : List Value) (s : Scope E) :
    Step.EndsIn IsNullKey ((refuseNull columns : Record.Action E α).perform s) :=
  ⟨_, rfl, s.record.table, columns, rfl⟩

/-- A key that was found is refused, or left as it is. -/
theorem perform_presented (value : Value) (s : Scope E) :
    (presented value).perform s = (.ok value, s) ∨ Step.EndsIn IsNullKey ((presented value).perform s) := by
  have hheap : (heap : Record.Action E Heap).perform s = (.ok s.published.heap, s) := rfl
  rw [presented, Step.perform_bind_ok hheap]
  dsimp only
  split
  · split
    · exact .inr ((endsIn_refuseNull _ s).bind _)
    · exact .inl rfl
  · split
    · right
      -- The key is found once more, to name its columns.
      cases hown : s.record.ownKey with
      | some own =>
          rw [Step.perform_bind_ok (perform_key_of_ownKey_eq_some hown)]
          exact (endsIn_refuseNull _ _).bind _
      | none =>
          rw [Step.perform_bind_ok (perform_key_of_ownKey_eq_none hown)]
          exact (endsIn_refuseNull _ _).bind _
    · exact .inl rfl

/-- A key that is null is refused. Otherwise it has values. -/
theorem mirrorsUnless_keyValues :
    MirrorsUnless IsNullKey (Scope.Alike h h') (fun _ _ => True) (keyValues : Record.Action E (List Value))
      keyValues := by
  refine MirrorsUnless.bind (R := fun _ _ => True) ?_ fun value value' _ => ?_
  · rw [presentKeyValue_eq]
    refine Mirrors.bindUnless mirrors_keyValue fun value value' _ s s' hs => ?_
    rcases perform_presented value s with hpasses | hrefused
    · rcases perform_presented value' s' with hpasses' | hrefused'
      · rw [hpasses, hpasses']
        exact .inl ⟨trivial, hs⟩
      · exact .inr (.inr hrefused')
    · exact .inr (.inl hrefused)
  · refine (mirrors_bindHeap fun g g' _ _ => ?_).unless _
    split <;> split <;> exact Mirrors.pure trivial

/-- **The UPDATE of alike records has the same text**, if both have a key. -/
theorem mirrorsUnless_updating (rendering : Rendering) {columns columns' : List Value}
    (hcolumns : List.Forall₂ (h.Same h') columns columns') :
    MirrorsUnless IsNullKey (Scope.Alike h h') SameText (updating rendering columns : Record.Action E Sql)
      (updating rendering columns') := by
  refine MirrorsUnless.bind mirrorsUnless_keyValues fun values values' _ => Mirrors.unless ?_ _
  refine Mirrors.bind mirrors_readyChanges fun c c' hc => ?_
  refine Mirrors.bindEq (hc.mirrors_fields rendering) fun fields => ?_
  refine Mirrors.bindEq (mirrors_inHeap_quotedAll rendering hcolumns) fun quoted => ?_
  refine mirrors_bindCurrent fun r r' hr => Mirrors.pure ?_
  rw [SameText, Record.table, Record.table, hr.query.table]
  exact hc.text_update_eq rendering _ fields quoted values values'

/-- **The DELETE of alike records has the same text**, if both have a key. -/
theorem mirrorsUnless_deletion :
    MirrorsUnless IsNullKey (Scope.Alike h h') SameText (deletion : Record.Action E Sql) deletion := by
  refine Mirrors.bindUnless mirrors_rendering ?_
  rintro rendering _ rfl
  refine Mirrors.bindUnless mirrors_key fun k k' hk => ?_
  refine MirrorsUnless.bind mirrorsUnless_keyValues fun values values' _ => Mirrors.unless ?_ _
  refine Mirrors.bindEq (mirrors_inHeap_quotedAll rendering hk.columns) fun quoted => ?_
  refine mirrors_bindCurrent fun r r' hr => Mirrors.pure ?_
  rw [SameText, Record.table, Record.table, hr.query.table]
  rfl

/-! ## All statements -/

/-- No statement is sent by either, or statements with the same text. -/
def SameRequest (sql sql' : Option Sql) : Prop := sql.map Sql.text = sql'.map Sql.text

/-- No write is pending for either, or writes with the same text. -/
def SamePending (write write' : Option (List Value × Sql)) : Prop :=
  SameRequest (write.map (·.2)) (write'.map (·.2))

theorem samePending_some {columns columns' : List Value} {sql sql' : Sql} (hsql : SameText sql sql') :
    SamePending (some (columns, sql)) (some (columns', sql')) :=
  congrArg some hsql

/-- The INSERT of a record, with its key columns. -/
def pendingInsertion : Record.Action E (Option (List Value × Sql)) := do
  let rendering ← rendering
  let keyColumns := (← key).columns
  return some (keyColumns, ← insertion rendering keyColumns)

/-- A record that is new is inserted. -/
theorem perform_pendingWrite_of_isNew (hnew : s.record.changes.isNew = true) :
    (pendingWrite : Record.Action E _).perform s = pendingInsertion.perform s := by
  have hholds := Record.holds_self (P := fun _ => True) (hasMarks_true s.record.connection s.world.session)
  have hrendering := triple_rendering (E := E) (P := fun _ => True) (s := s) (r := s.record)
  rw [pendingWrite, pendingInsertion]
  cases hrun : (rendering : Record.Action E Rendering).perform s with
  | mk result t =>
      cases result with
      | error failure => rw [Step.perform_bind_error hrun, Step.perform_bind_error hrun]
      | ok r =>
          rw [Step.perform_bind_ok hrun, Step.perform_bind_ok hrun]
          have hkey := triple_key t (hrendering.of_ok hholds hrun).1
          cases hfound : (key : Record.Action E KeyColumns).perform t with
          | mk result u =>
              rw [hfound] at hkey
              cases result with
              | error failure => rw [Step.perform_bind_error hfound, Step.perform_bind_error hfound]
              | ok k =>
                  rw [Step.perform_bind_ok hfound, Step.perform_bind_ok hfound, perform_bindCurrent, hkey.1.record,
                    if_pos hnew]

/-- Alike records are inserted alike. -/
theorem mirrors_pendingInsertion :
    Mirrors (Scope.Alike h h') SamePending (pendingInsertion : Record.Action E _) pendingInsertion :=
  Mirrors.bindEq mirrors_rendering fun rendering => Mirrors.bind mirrors_key fun _ _ hk =>
    Mirrors.bind (mirrors_insertion rendering hk.columns) fun _ _ hsql => Mirrors.pure (samePending_some hsql)

theorem mirrorsUnless_pendingWrite :
    MirrorsUnless IsNullKey (Scope.Alike h h') SamePending (pendingWrite : Record.Action E _) pendingWrite := by
  refine Mirrors.bindUnless mirrors_rendering ?_
  rintro rendering _ rfl
  refine Mirrors.bindUnless mirrors_key fun k k' hk => ?_
  refine Mirrors.bindUnless (R := Record.Alike h h') (mirrors_bindCurrent fun _ _ hr => Mirrors.pure hr) fun r r' hr => ?_
  have hchanges : r'.changes.hasChanges = r.changes.hasChanges := by
    have hempty := isEmpty_eq_of_map_eq (Heap.keys_eq_of_sameField hr.changes.dirty.fields)
    rw [Changes.hasChanges, Changes.hasChanges, hempty, hr.changes.inlined]
  dsimp only
  rw [← hr.changes.isNew, hchanges]
  split
  · refine (mirrors_insertion rendering hk.columns).bindUnless fun _ _ hsql => ?_
    exact Mirrors.unless (Mirrors.pure (samePending_some hsql)) _
  · split
    · refine (mirrorsUnless_updating rendering hk.columns).bind fun _ _ hsql => ?_
      exact Mirrors.unless (Mirrors.pure (samePending_some hsql)) _
    · exact Mirrors.unless (Mirrors.pure (show SamePending none none from rfl)) _

/-- The request looks for the row of the record by its key. -/
def Scope.FindsRow (s : Scope E) : Request → Prop
  | .rows | .deleteMany => False
  | .save => s.record.changes.isNew = false
  | .delete => True

/-- The request is refused as the key of the row is null. -/
def Scope.LacksKey (request : Request) (s : Scope E) : Prop :=
  s.FindsRow request ∧ Step.EndsIn IsNullKey ((statement request).perform s)

/-- **Alike records write statements with the same text**, or fail alike to write them, unless the row of one of them
is to be found by a key that is null. -/
theorem endAlike_statement (hs : Scope.Alike h h' s s') (request : Request) (hkey : ¬ s.LacksKey request)
    (hkey' : ¬ s'.LacksKey request) :
    Step.EndAlike (Scope.Alike h h') SameRequest ((statement request).perform s) ((statement request).perform s') := by
  have hsome : ∀ sql sql' : Sql, SameText sql sql' → SameRequest (some sql) (some sql') :=
    fun _ _ hsql => congrArg some hsql
  -- Where the row is found by its key, neither is refused.
  have hfound (hfinds : s.FindsRow request) (hfinds' : s'.FindsRow request)
      (hmirrors : MirrorsUnless IsNullKey (Scope.Alike h h') SameRequest (statement request : Record.Action E _)
        (statement request)) : Step.EndAlike (Scope.Alike h h') SameRequest ((statement request).perform s)
          ((statement request).perform s') := by
    rcases hmirrors s s' hs with hends | hrefused | hrefused
    · exact hends
    · exact absurd ⟨hfinds, hrefused⟩ hkey
    · exact absurd ⟨hfinds', hrefused⟩ hkey'
  cases request with
  | rows => exact Mirrors.map mirrors_compileSelect hsome s s' hs
  | deleteMany => exact Mirrors.map mirrors_deletionOfMany hsome s s' hs
  | delete => exact hfound trivial trivial (MirrorsUnless.map mirrorsUnless_deletion hsome)
  | save =>
      have hsame := hs.record.changes.isNew
      cases hnew : s.record.changes.isNew with
      | false => exact hfound hnew (hsame.symm.trans hnew) (MirrorsUnless.map mirrorsUnless_pendingWrite fun _ _ hwrite => hwrite)
      | true =>
          have hmirrors : Mirrors (Scope.Alike h h') SameRequest
              (Option.map (·.2) <$> pendingInsertion : Record.Action E _) (Option.map (·.2) <$> pendingInsertion) :=
            Mirrors.map mirrors_pendingInsertion fun _ _ hwrite => hwrite
          have hinsert (t : Scope E) (ht : t.record.changes.isNew = true) : (statement .save).perform t =
              (Option.map (·.2) <$> pendingInsertion : Record.Action E _).perform t := by
            rw [statement, map_eq_pure_bind, map_eq_pure_bind, Step.perform_bind, Step.perform_bind,
              perform_pendingWrite_of_isNew ht]
          rw [hinsert s hnew, hinsert s' (hsame.symm.trans hnew)]
          exact hmirrors s s' hs

end Record

end FluentSql
