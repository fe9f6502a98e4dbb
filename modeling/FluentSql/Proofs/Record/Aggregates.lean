import FluentSql.Proofs.Connection.Detached
import FluentSql.Proofs.Connection.Naming
import FluentSql.Proofs.Database.Readings
/-
# FluentSql.Proofs.Record.Aggregates — what an aggregate leaves of the builder and of the row.

An aggregate takes the result columns away, selects itself, reads one row, and puts the columns back. The reading is
guarded: however it ends, the columns come back, and of the rest of the record nothing has changed but the limit
(`aggregate_leaves`). The selection before it is not. If the name of the aggregate is the first that has to be quoted and
there is no mark for it, the call fails with no columns left (`columns_aggregate_of_losesColumns`).
-/

namespace FluentSql

open Step (Keeps Triple perform_bind_ok perform_bind_error)

/-- The functions of the caller may do anything, except to what the heap keeps under a number, if there is one. -/
def Environment.LeavesAlone (E : Environment) (number : Option Nat) : Prop :=
  ∀ id, number = some id → ∀ hook call (w : World E.State),
    ((E.call hook call).perform w).2.heap.cell? id = w.heap.cell? id

namespace Record

open Connection (IsDetached)

variable {E : Environment} {α β : Type} {number : Option Nat} {kept : Bool} {r : Record}

/-! ## A record and its cell -/

/-- The heap keeps the record under the number, or nothing. -/
def Stored (number : Option Nat) (kept : Bool) (r : Record) (w : World E.State) : Prop :=
  ∀ id, number = some id → w.heap.cell? id = if kept then some (.record r) else none

/-- The scope is that of the record. It is told whether the heap keeps anything under the number of the scope. -/
structure Scope.Is (number : Option Nat) (kept : Bool) (r : Record) (s : Scope E) : Prop where
  numbered : s.number = number
  record : s.record = r
  kept : ∀ id, number = some id → (s.world.heap.cell? id).isSome = kept

theorem Scope.is_self (s : Scope E) : s.Is s.number (s.number.bind s.world.heap.cell?).isSome s.record where
  numbered := rfl
  record := rfl
  kept id hid := by rw [hid, Option.bind_some]

theorem isDetached_stored : IsDetached (Stored (E := E) number kept r) where
  heap := by
    intro w h hd hw id hid
    have hcell := hw id hid
    cases kept with
    | true => exact hd.cell?_record hcell
    | false =>
        rcases hd id with hsame | ⟨rest, -, hrest, -⟩
        · exact hsame.trans hcell
        · rw [hcell] at hrest
          cases hrest
  session _ _ hw := hw
  state _ _ hw := hw

theorem keeps_stored_call (halone : E.LeavesAlone number) (hook : Hook) (call : HookCall) :
    Keeps (Stored number kept r) (E.call hook call) := by
  intro w hw
  have hcell : Stored number kept r ((E.call hook call).perform w).2 :=
    fun id hid => (halone id hid hook call w).trans (hw id hid)
  rcases hrun : (E.call hook call).perform w with ⟨_ | _, w'⟩ <;> rw [hrun] at hcell <;> exact hcell

namespace Scope.Is

theorem published {s : Scope E} (hs : s.Is number kept r) : Stored number kept r s.published := by
  intro id hid
  have hkept := hs.kept id hid
  cases hcell : s.world.heap.cell? id with
  | some cell =>
      rw [hcell] at hkept
      subst hkept
      rw [Scope.cell?_published (hs.numbered.trans hid) hcell, hs.record]
      rfl
  | none =>
      rw [hcell] at hkept
      subst hkept
      simp only [Scope.published, hs.numbered.trans hid, Heap.replace_of_cell?_eq_none hcell]
      exact hcell

theorem renewed {s : Scope E} (hs : s.Is number kept r) {w : World E.State} (hw : Stored number kept r w) :
    (s.renewed w).Is number kept r := by
  have hrenewed : s.renewed w = { s with world := w } := by
    unfold Scope.renewed
    split
    · rename_i record hrecord
      obtain ⟨id, hid, hcell⟩ := Option.bind_eq_some_iff.1 hrecord
      rw [hw id (hs.numbered.symm.trans hid)] at hcell
      cases kept <;> cases hcell
      rw [← hs.record]
    · rfl
  rw [hrenewed]
  refine ⟨hs.numbered, hs.record, fun id hid => ?_⟩
  rw [hw id hid]
  cases kept <;> rfl

end Scope.Is

/-! ## Steps of a record that stays -/

theorem triple_is_inWorld {action : FluentSql.Action E α} {K : World E.State → Prop}
    (h : Triple (Stored number kept r) action (fun _ w => Stored number kept r w ∧ K w) (Stored number kept r)) :
    Triple (Scope.Is number kept r) (inWorld action) (fun _ s => s.Is number kept r ∧ K s.world)
      (Scope.Is number kept r) := by
  refine Triple.of_states fun s hs => Triple.onPart s h hs.published (fun _ w hw => ?_) fun _ hw => hs.renewed hw
  rw [Scope.world_renewed]
  exact ⟨hs.renewed hw.1, hw.2⟩

theorem keeps_is_inWorld {action : FluentSql.Action E α} (h : Keeps (Stored number kept r) action) :
    Keeps (Scope.Is number kept r) (inWorld action) :=
  (triple_is_inWorld (K := fun _ => True) (h.post fun _ _ hw => ⟨hw, trivial⟩)).post fun _ _ hs => hs.1

theorem triple_is_bindCurrent {next : Record → Record.Action E β} {Q : β → Scope E → Prop} {F : Scope E → Prop}
    (h : Triple (Scope.Is number kept r) (next r) Q F) :
    Triple (Scope.Is number kept r) (current >>= next) Q F :=
  triple_bindCurrent fun _ hs => hs.record ▸ h.pre fun _ hsame => hsame ▸ hs

theorem triple_is_changeQuery (f : Query → Query) {F : Scope E → Prop} :
    Triple (Scope.Is number kept r) (changeQuery f : Record.Action E Unit)
      (fun _ => Scope.Is number kept { r with query := f r.query }) F :=
  Triple.modify fun _ hs => ⟨hs.numbered, hs.record ▸ rfl, hs.kept⟩

theorem keeps_is_heap : Keeps (Scope.Is number kept r) (heap : Record.Action E Heap) := fun _ hs => hs

theorem keeps_is_quote (identifier : Value) :
    Keeps (Scope.Is number kept r) (quote identifier : Record.Action E String) :=
  triple_is_bindCurrent (keeps_is_inWorld (isDetached_stored.keeps_quote _ identifier))

theorem keeps_is_compileSelect : Keeps (Scope.Is number kept r) (compileSelect : Record.Action E Sql) := by
  have hrendering : Keeps (Scope.Is number kept r) (rendering : Record.Action E Rendering) :=
    triple_is_bindCurrent (keeps_is_inWorld (isDetached_stored.ignoresDrivers.keeps_rendering _))
  refine Keeps.bind hrendering fun rendering => Keeps.bind ?_ fun q => Keeps.lift _
  refine triple_is_bindCurrent (Keeps.bind keeps_is_heap fun h => ?_)
  dsimp only
  split
  · refine Keeps.bind (keeps_is_inWorld ?_) fun _ => Keeps.pure _
    exact isDetached_stored.keeps_inHeap fun h => Heap.keeps_identifier h _
  · exact Keeps.pure _

theorem keeps_is_ofRow (row : Value) : Keeps (Scope.Is number kept r) (ofRow row : Record.Action E Record) := by
  refine triple_is_bindCurrent ?_
  refine Keeps.bind (Keeps.bind (keeps_is_inWorld (isDetached_stored.ignoresDrivers.keeps_driver _)) fun _ =>
    Keeps.pure _) fun _ => ?_
  exact Keeps.bind (keeps_is_inWorld (isDetached_stored.keeps_rowOf row)) fun _ => Keeps.pure _

/-! ## Reading one row -/

/-- The record with a limit of one. -/
def limitedToOne (r : Record) : Record := { r with query := { r.query with limit := some (.int 1) } }

/-- The scope is that of the record, but for the result columns. -/
def Scope.IsButColumns (number : Option Nat) (kept : Bool) (r : Record) (s : Scope E) : Prop :=
  ∃ columns usesDefaultColumns,
    s.Is number kept { r with query := { r.query with columns, usesDefaultColumns } }

/-- What leaves every record alone leaves the columns alone, whatever they are. -/
theorem keeps_isButColumns {step : Record.Action E α} (h : ∀ r, Keeps (Scope.Is number kept r) step) :
    Keeps (Scope.IsButColumns number kept r) step := by
  rintro s ⟨columns, usesDefaultColumns, hs⟩
  have hstep : Triple (Scope.Is number kept { r with query := { r.query with columns, usesDefaultColumns } }) step
      (fun _ => Scope.IsButColumns number kept r) (Scope.IsButColumns number kept r) :=
    (h _).consequence (fun _ hs => hs) (fun _ _ hs => ⟨_, _, hs⟩) fun _ hs => ⟨_, _, hs⟩
  exact hstep s hs

theorem triple_isButColumns_changeQuery (f : Query → Query) (r' : Record) {F : Scope E → Prop}
    (h : ∀ columns usesDefaultColumns, ∃ columns' usesDefaultColumns',
      { r with query := f { r.query with columns := columns, usesDefaultColumns := usesDefaultColumns } } =
        { r' with query := { r'.query with columns := columns', usesDefaultColumns := usesDefaultColumns' } }) :
    Triple (Scope.IsButColumns number kept r) (changeQuery f : Record.Action E Unit)
      (fun _ => Scope.IsButColumns number kept r') F := by
  rintro s ⟨columns, usesDefaultColumns, hs⟩
  obtain ⟨columns', usesDefaultColumns', hsame⟩ := h columns usesDefaultColumns
  have hchanged := triple_is_changeQuery f (F := F) s hs
  exact ⟨columns', usesDefaultColumns', hsame ▸ hchanged⟩

theorem keeps_isButColumns_firstOf (rows : List Value) :
    Keeps (Scope.IsButColumns number kept r) (firstOf rows : Record.Action E (Option Record)) := by
  cases rows with
  | nil => exact Keeps.pure _
  | cons row rows => exact Keeps.bind (keeps_isButColumns fun _ => keeps_is_ofRow row) fun _ => Keeps.pure _

theorem keeps_isButColumns_gather (halone : E.LeavesAlone number) (sql : Sql) :
    Keeps (Scope.IsButColumns number kept r) (gather sql : Record.Action E (List Value)) := by
  refine Triple.bind (R := fun _ => Scope.IsButColumns number kept r)
    (keeps_isButColumns fun _ => triple_is_bindCurrent (Keeps.pure _)) fun asks => ?_
  refine Keeps.bind (keeps_isButColumns fun _ => keeps_is_inWorld ?_) fun rows => Keeps.bind ?_ fun _ => Keeps.pure _
  · exact isDetached_stored.keeps_read (keeps_stored_call halone) _ _ _ _
  · -- The reading goes back to the default columns by itself.
    exact triple_isButColumns_changeQuery Query.resetColumns r fun _ _ => ⟨_, _, rfl⟩

/-- Reading one row sets the limit, and may go back to the default columns. -/
theorem triple_findOne_null (halone : E.LeavesAlone number) :
    Triple (Scope.IsButColumns number kept r) (findOne .null : Record.Action E (Option Record))
      (fun _ => Scope.IsButColumns number kept r.limitedToOne) (Scope.IsButColumns number kept r.limitedToOne) := by
  rw [findOne_eq]
  refine Triple.bind ?_ fun sql => Keeps.bind (keeps_isButColumns_gather halone sql) keeps_isButColumns_firstOf
  refine Triple.bind (R := fun _ => Scope.IsButColumns number kept r.limitedToOne) ?_ fun _ =>
    keeps_isButColumns fun _ => keeps_is_compileSelect
  exact triple_isButColumns_changeQuery (fun q => { q with limit := some (.int 1) }) _ fun _ _ => ⟨_, _, rfl⟩

/-! ## Selecting the aggregate -/

/-- No name can be quoted on behalf of the record: there is no mark for it. -/
def Scope.HasNoMark (s : Scope E) : Prop :=
  ∃ failure,
    ((Connection.quoteMark s.record.connection : FluentSql.Action E String).perform s.world).1 = .error failure

/-- A name is quoted, if there is a mark for it. -/
theorem quote_text_fails_iff_hasNoMark (name : String) (s : Scope E) :
    (∃ failure, ((quote (.text name) : Record.Action E String).perform s).1 = .error failure) ↔ s.HasNoMark := by
  rw [Scope.HasNoMark, ← Connection.quoteMark_besideHeap s.session_published s.outside_published]
  exact Connection.quote_text_fails_iff name s.published

/-- What was quoted leaves no doubt that there is a mark. -/
theorem triple_quote_hasMark (identifier : Value) :
    Triple (Scope.Is number kept r) (quote identifier : Record.Action E String)
      (fun _ s => s.Is number kept r ∧ ¬ s.HasNoMark) (Scope.Is number kept r) := by
  refine triple_is_bindCurrent ?_
  have hkept : Keeps (Stored number kept r) (Connection.quote r.connection identifier : FluentSql.Action E String) :=
    isDetached_stored.keeps_quote _ identifier
  have hknown : Triple (Stored number kept r) (Connection.quote r.connection identifier : FluentSql.Action E String)
      (fun _ w => w.session.KnowsMark r.connection) fun _ => True :=
    (Connection.triple_quote_knowsMark identifier).pre fun _ _ => trivial
  have hboth := (hkept.and hknown).consequence (fun _ hw => hw) (fun _ _ hw => hw) fun _ hw => hw.1
  refine (triple_is_inWorld hboth).post fun _ s hs => ⟨hs.1, ?_⟩
  rintro ⟨failure, hfails⟩
  obtain ⟨mark, hmark⟩ := Connection.perform_quoteMark_of_knowsMark (E := E) hs.2
  rw [hs.1.record, hmark] at hfails
  cases hfails

/-- The record without result columns. -/
def withoutColumns (r : Record) : Record :=
  { r with query := { r.query with columns := [], usesDefaultColumns := false } }

/-- Selects an expression under the name of an aggregate and nothing else, and gives the query that it was. -/
def selectOnly (expression name : String) : Record.Action E Query := do
  let saved := (← current).query
  changeQuery fun q => { q with columns := [], usesDefaultColumns := false }
  selectExpr (.text expression) (.text name)
  return saved

theorem selectAggregate_eq (aggregation : Aggregation) (column : Value) :
    (Reading.selectAggregate aggregation column : Record.Action E Query) =
      aggregateArgument column >>= fun argument =>
        selectOnly (aggregation.function ++ "(" ++ argument ++ ")") aggregation.column := rfl

/-- The name is the only thing that may fail, after the columns have gone. -/
theorem perform_selectOnly (expression name : String) (s : Scope E) :
    (selectOnly expression name : Record.Action E Query).perform s =
      (quote (.text name) >>= fun quoted => changeQuery (·.addColumn (.text (expression ++ " AS " ++ quoted))) >>=
        fun _ => pure s.record.query).perform { s with record := s.record.withoutColumns } := by
  have hshown : (displayed (.text expression) : Record.Action E String).perform
      { s with record := s.record.withoutColumns } =
        (.ok expression, { s with record := s.record.withoutColumns }) := by
    show (Except.ok (Heap.settle _ (.text expression)).display, _) = _
    rw [Heap.settle_eq_self _ rfl]
    rfl
  show ((displayed (.text expression) >>= fun shown => addNamed shown (.text name)) >>= fun _ =>
    pure s.record.query : Record.Action E Query).perform { s with record := s.record.withoutColumns } = _
  rw [bind_assoc, perform_bind_ok hshown, addNamed, bind_assoc]

/-- The columns give way to the aggregate. They are gone if it cannot be named. -/
theorem triple_selectOnly (expression name : String) :
    Triple (Scope.Is number kept r) (selectOnly expression name : Record.Action E Query)
      (fun saved s => saved = r.query ∧ s.IsButColumns number kept r) (Scope.Is number kept r.withoutColumns) := by
  intro s hs
  have hcleared : Scope.Is number kept r.withoutColumns { s with record := s.record.withoutColumns } :=
    ⟨hs.numbered, congrArg withoutColumns hs.record, hs.kept⟩
  have hrest : Triple (Scope.Is number kept r.withoutColumns) (quote (.text name) >>= fun quoted =>
        changeQuery (·.addColumn (.text (expression ++ " AS " ++ quoted))) >>= fun _ => pure s.record.query)
      (fun saved t => saved = r.query ∧ Scope.IsButColumns (E := E) number kept r t)
      (Scope.Is number kept r.withoutColumns) := by
    refine Triple.bind (keeps_is_quote _) fun quoted => Triple.bind (triple_is_changeQuery _) fun _ => ?_
    exact Triple.pure fun t ht => ⟨congrArg query hs.record, _, _, ht⟩
  rw [perform_selectOnly]
  exact hrest _ hcleared

theorem selectOnly_fails_iff_hasNoMark (expression name : String) (s : Scope E) :
    (∃ failure, ((selectOnly expression name : Record.Action E Query).perform s).1 = .error failure) ↔
      s.HasNoMark := by
  refine Iff.trans ?_ (quote_text_fails_iff_hasNoMark name { s with record := s.record.withoutColumns })
  rw [perform_selectOnly, Step.perform_bind]
  rcases (quote (.text name) : Record.Action E String).perform { s with record := s.record.withoutColumns }
    with ⟨failure | quoted, t⟩
  · exact ⟨fun _ => ⟨failure, rfl⟩, fun _ => ⟨failure, rfl⟩⟩
  · constructor <;> rintro ⟨failure, hfails⟩ <;> cases hfails

/-- The call loses the result columns: they are gone when the name of the aggregate is quoted, which is the first name
that is, and there is no mark for it. -/
def LosesColumns (column : Value) (s : Scope E) : Prop := column = .text "*" ∧ s.HasNoMark

/-- Selecting an aggregate fails before anything has changed, or not at all, unless the columns are lost. -/
theorem triple_selectAggregate {s : Scope E} (hs : s.Is number kept r) (aggregation : Aggregation) {column : Value}
    (hnamed : ¬ LosesColumns column s) :
    Triple (· = s) (Reading.selectAggregate aggregation column : Record.Action E Query)
      (fun saved t => saved = r.query ∧ t.IsButColumns number kept r) (Scope.Is number kept r) := by
  have hargument : Triple (· = s) (aggregateArgument column : Record.Action E String)
      (fun _ t => t.Is number kept r ∧ ¬ t.HasNoMark) (Scope.Is number kept r) := by
    unfold aggregateArgument
    split
    · refine Triple.pure ?_
      rintro _ rfl
      exact ⟨hs, fun hmark => hnamed ⟨rfl, hmark⟩⟩
    · exact (triple_quote_hasMark column).pre fun _ hsame => hsame ▸ hs
  rw [selectAggregate_eq]
  refine Triple.bind hargument fun argument t ⟨ht, hmark⟩ => ?_
  have hselect := triple_selectOnly (aggregation.function ++ "(" ++ argument ++ ")") aggregation.column t ht
  rcases hrun : (selectOnly _ aggregation.column : Record.Action E Query).perform t with ⟨failure | saved, t'⟩
  · exact (hmark ((selectOnly_fails_iff_hasNoMark _ _ t).1 ⟨failure, congrArg Prod.fst hrun⟩)).elim
  · rw [hrun] at hselect
    exact hselect

/-! ## The aggregate -/

/-- An aggregate ends with the reading of one row, after which the columns are put back; what it makes of the row changes
nothing. -/
theorem leaves_aggregate (aggregation : Aggregation) (column : Value) (s : Scope E) :
    ((aggregate aggregation column : Record.Action E Value).perform s).2 =
      match (Reading.selectAggregate aggregation column : Record.Action E Query).perform s with
      | (.ok saved, t) => ((findOne .null : Record.Action E (Option Record)).perform t).2.withColumns saved
      | (.error _, t) => t := by
  rw [aggregate_eq, Step.perform_bind]
  rcases (Reading.selectAggregate aggregation column : Record.Action E Query).perform s with ⟨failure | saved, t⟩
  · rfl
  · dsimp only
    rw [Step.perform_bind, Step.perform_andThenAlways]
    rcases (findOne .null : Record.Action E (Option Record)).perform t with ⟨failure | found, t'⟩
    · rfl
    · cases found with
      | none => rfl
      | some read =>
          simp only [aggregateIn, coerced_eq]
          rfl

/-- The limit that an aggregate leaves: one if the aggregate could be selected, so that its query is issued. -/
def Scope.limitAfter (aggregation : Aggregation) (column : Value) (s : Scope E) : Option Value :=
  match ((Reading.selectAggregate aggregation column : Record.Action E Query).perform s).1 with
  | .ok _ => some (.int 1)
  | .error _ => s.record.query.limit

/-- **An aggregate leaves the builder and the row as they were, but for the limit.** However the call ends, the result
columns come back, and whether they are the default ones, whatever the functions of the caller do to the record. Nothing
else of it changes unless they change it. -/
theorem aggregate_leaves (aggregation : Aggregation) (column : Value) (s : Scope E)
    (hnamed : ¬ LosesColumns column s) :
    let t := ((aggregate aggregation column : Record.Action E Value).perform s).2
    (t.record.query.columns = s.record.query.columns ∧
      t.record.query.usesDefaultColumns = s.record.query.usesDefaultColumns) ∧
    (E.LeavesAlone s.number → t.record =
      { s.record with query := { s.record.query with limit := s.limitAfter aggregation column } }) := by
  have hselect := triple_selectAggregate s.is_self aggregation hnamed
  rw [leaves_aggregate, Scope.limitAfter]
  rcases hrun : (Reading.selectAggregate aggregation column : Record.Action E Query).perform s
    with ⟨failure | saved, t⟩
  · have ht := hselect.of_error rfl hrun
    dsimp only
    rw [ht.record]
    exact ⟨⟨rfl, rfl⟩, fun _ => rfl⟩
  · obtain ⟨rfl, ht⟩ := hselect.of_ok rfl hrun
    refine ⟨⟨rfl, rfl⟩, fun halone => ?_⟩
    obtain ⟨_, _, hread⟩ := (triple_findOne_null halone).leaves ht
    dsimp only [Scope.withColumns]
    rw [hread.record]
    rfl

/-- Edited prices, with a column and a condition, on a connection whose logger always fails. -/
def editedPrices : Scope .jotting where
  record :=
    { connection := "main"
      query :=
        { table := "prices"
          columns := [.text "\x60name\x60"]
          usesDefaultColumns := false
          wheres := [⟨.text "\x60open\x60 = ?", [.int 1]⟩] }
      changes := { data := [(.text "name", .text "tea")], dirty := [(.text "name", .text "tea")] } }
  world :=
    { session :=
        { settings := [("main", { quoteMark := some "\x60", logging := true, logger := some ⟨0⟩ })]
          drivers := [("main", ⟨.native "mysql", ⟨0⟩⟩)] }
      heap := {}
      outside := [] }

/-- The logger fails when the highest price is read, which leaves a limit behind and nothing else. -/
theorem aggregate_leaves_editedPrices :
    let run := (aggregate .max (.text "price") : Record.Action .jotting Value).perform editedPrices
    run.1.toOption.isNone ∧ run.2.record =
      { editedPrices.record with query := { editedPrices.record.query with limit := some (.int 1) } } := by
  have hnamed : ¬ LosesColumns (.text "price") editedPrices := by
    rintro ⟨hcolumn, -⟩
    exact absurd (Value.text.inj hcolumn) (by decide)
  have hleaves := (aggregate_leaves .max (.text "price") editedPrices hnamed).2
  exact ⟨by decide +kernel, hleaves fun _ _ _ _ _ => rfl⟩

/-- **Where the columns are lost, nothing is read, and the record is left without columns.** -/
theorem columns_aggregate_of_losesColumns (aggregation : Aggregation) (column : Value) (s : Scope E)
    (hloses : LosesColumns column s) :
    ((aggregate aggregation column : Record.Action E Value).perform s).2.record = s.record.withoutColumns := by
  obtain ⟨rfl, hmark⟩ := hloses
  have hargument : (aggregateArgument (.text "*") : Record.Action E String) = pure "*" := rfl
  have hselect := triple_selectOnly (aggregation.function ++ "(" ++ "*" ++ ")") aggregation.column s s.is_self
  obtain ⟨failure, hfails⟩ :=
    (selectOnly_fails_iff_hasNoMark (aggregation.function ++ "(" ++ "*" ++ ")") aggregation.column s).2 hmark
  rw [leaves_aggregate, selectAggregate_eq, hargument, pure_bind]
  rcases hrun : (selectOnly _ aggregation.column : Record.Action E Query).perform s with ⟨failure | saved, t⟩
  · rw [hrun] at hselect
    exact hselect.record
  · rw [hrun] at hfails
    cases hfails

/-- Notes on a connection whose driver has a dialect without a mark. -/
def oddNotes : Scope .jotting where
  record := .onTable "notes" "main"
  world :=
    { session :=
        { knownDialects := [("odd", { kind := "Odd", name := some "odd" })]
          drivers := [("main", ⟨.native "odd", ⟨0⟩⟩)] }
      heap := {}
      outside := [] }

/-- Counting the notes fails, and the columns do not come back. -/
theorem count_loses_columns_oddNotes :
    let t := ((aggregate .count (.text "*") : Record.Action .jotting Value).perform oddNotes).2
    ¬ (t.record.query.columns = oddNotes.record.query.columns ∧
      t.record.query.usesDefaultColumns = oddNotes.record.query.usesDefaultColumns) := by
  decide +kernel

end Record

end FluentSql
