import FluentSql.Proofs.Database.Current
import FluentSql.Record.Call
/-
# FluentSql.Proofs.Database.Readings — every reading gets the rows that the database would give now.

A reading compiles a statement, and makes its outcome of the rows that it gets for it. While the kept reads
are current, it gets the rows that the database gives for the statement in its present state
(`perform_reading`), and it leaves them current as every other call does (`stands_perform`). So no interleaving
of readings and writes through records makes a reading give rows of another state
(`reading_gives_present_rows`).
-/

namespace FluentSql

open Step (Keeps Triple perform_bind_ok perform_bind_error)

namespace Record

variable {E : Environment}

/-! ## Readings -/

/-- The record of a row that a record reads. -/
def ofRead (r : Record) (row : Row) : Record :=
  { onTable r.table r.connection with changes := .ofRow row, ownKey := r.ownKey }

/-- The calls that read from the database. -/
inductive Reading where
  | one (id : Value)
  | many
  | resultSet
  | array
  | aggregate (aggregation : Aggregation) (column : Value)

namespace Reading

def call : Reading → Call
  | .one id => .findOne id
  | .many => .findMany
  | .resultSet => .findResultSet
  | .array => .findArray
  | .aggregate aggregation column => .aggregate aggregation column

/-- Selects an aggregate instead of the columns that were chosen before, and gives the query that it was. -/
def selectAggregate (aggregation : Aggregation) (column : Value) : Record.Action E Query := do
  let argument ← aggregateArgument column
  let saved := (← current).query
  changeQuery fun q => { q with columns := [], usesDefaultColumns := false }
  selectExpr (.text (aggregation.function ++ "(" ++ argument ++ ")")) (.text aggregation.column)
  return saved

/-- The statement that a reading compiles, with what it does to the record before. -/
def seek : Reading → Record.Action E Sql
  | .one id => do
    if !id.isNull then
      keyIs .whereClause id
    build (.limit (.int 1))
    compileSelect
  | .many => do
    let _ ← givesResultSet
    compileSelect
  | .resultSet | .array => compileSelect
  | .aggregate aggregation column => do
    let _ ← selectAggregate aggregation column
    build (.limit (.int 1))
    compileSelect

/-- What a record makes of the rows that a reading gets. -/
def outcome (r : Record) (givesResultSet : Bool) (rows : List Row) : Reading → Outcome
  | .one _ => .record (rows.head?.map r.ofRead)
  | .many => if givesResultSet then .resultSet (rows.map r.ofRead) else .records (rows.map r.ofRead)
  | .resultSet => .resultSet (rows.map r.ofRead)
  | .array => .value (.list (rows.map .map))
  | .aggregate aggregation _ =>
    match rows with
    | [] => .value (.int 0)
    | row :: _ => .value (Aggregate.coerce (.ofOption (Entries.get? (.text aggregation.column) row)))

end Reading

/-- The scope that a call leaves, whether it fails or not. -/
def Scope.after (call : Call) (s : Scope E) : Scope E := ((perform call).perform s).2

/-- The rows of a statement. -/
def gather (sql : Sql) : Record.Action E (List Value) := do
  let r ← current
  let rows ← inWorld (Connection.read r.connection sql.text sql.params.toValue (.text r.table))
  changeQuery Query.resetColumns
  return rows

/-- The record of the first row. -/
def firstOf : List Value → Record.Action E (Option Record)
  | [] => return none
  | row :: _ => return some (← ofRow row)

/-- The aggregate in the record of the row that has it. -/
def aggregateIn (aggregation : Aggregation) : Option Record → Record.Action E Value
  | none => return .int 0
  | some r => coerced (.ofOption (Entries.get? (.text aggregation.column) r.changes.data))

/-- The scope with the columns of a query in place of those of the record. -/
def Scope.withColumns (saved : Query) (s : Scope E) : Scope E :=
  { s with
    record.query.columns := saved.columns
    record.query.usesDefaultColumns := saved.usesDefaultColumns }

theorem rows_eq : (rows : Record.Action E (List Value)) = compileSelect >>= gather := rfl

theorem coerced_eq (v : Value) : (coerced v : Record.Action E Value) = pure (Aggregate.coerce v) := by
  cases v <;> rfl

/-- Reading one row compiles its statement first, and looks at nothing else afterwards but the rows. -/
theorem findOne_eq (id : Value) :
    (findOne id : Record.Action E (Option Record)) =
      (Reading.one id).seek >>= fun sql => gather sql >>= firstOf := by
  dsimp only [findOne, Reading.seek, rows_eq]
  split
  · simp only [bind_assoc]
    rfl
  · simp only [bind_assoc]
    rfl

theorem findMany_eq :
    (findMany : Record.Action E (List Record)) =
      compileSelect >>= fun sql => gather sql >>= fun rows => rows.mapM ofRow := by
  rw [findMany, rows_eq, bind_assoc]

theorem aggregate_eq (aggregation : Aggregation) (column : Value) :
    (aggregate aggregation column : Record.Action E Value) =
      Reading.selectAggregate aggregation column >>= fun saved =>
        (findOne .null).andThenAlways (Scope.withColumns saved) >>= aggregateIn aggregation := by
  simp only [aggregate, Reading.selectAggregate, bind_assoc, pure_bind]
  rfl

theorem aggregateIn_head? (aggregation : Aggregation) (column : Value) (givesResultSet : Bool) (r : Record)
    (rows : List Row) :
    (aggregateIn aggregation (rows.head?.map r.ofRead) >>= fun v => pure (.value v) :
      Record.Action E Outcome) = pure ((Reading.aggregate aggregation column).outcome r givesResultSet rows) := by
  cases rows with
  | nil => rfl
  | cons row rows =>
      show (coerced _ >>= _) = _
      rw [coerced_eq]
      rfl

/-! ## What reads look at -/

/-- Whether reads give result sets is looked up in the settings. -/
theorem perform_givesResultSet (s : Scope E) :
    givesResultSet.perform s =
      (.ok (s.world.session.settingsOf s.record.connection).returnResultSets, s.republished) := by
  have hsettings : (Connection.settings s.record.connection : FluentSql.Action E Settings).perform s.published =
      (.ok (s.world.session.settingsOf s.record.connection), s.published) := by
    rw [← s.session_published]
    rfl
  rw [givesResultSet, perform_bindCurrent, perform_bind_ok (perform_inWorld_of_same hsettings)]
  rfl

section

variable {s : Scope E} {d : Driver} (hd : Entries.get? s.record.connection s.world.session.drivers = some d)
include hd

/-- Where a driver is registered, a mapping becomes the record of its entries, and nothing else happens. -/
theorem perform_ofRow {v : Value} {row : Row} (hv : s.published.heap.entries? v = some row) :
    (ofRow v).perform s = (.ok (s.record.ofRead row), s.republished) := by
  have hdriver : (Connection.driver s.record.connection : FluentSql.Action E Driver).perform s.published =
      (.ok d, s.published) := by
    rw [Connection.driver, Session.perform_bindCurrent, s.session_published, hd]
    rfl
  have hrow : (rowOf v : FluentSql.Action E Row).perform s.republished.published =
      (.ok row, s.republished.published) :=
    perform_rowOf_of_entries? (s.published_republished.symm ▸ hv)
  have hlooks : (discard <| inWorld (Connection.driver s.record.connection) : Record.Action E Unit).perform s =
      (.ok (), s.republished) := perform_bind_ok (perform_inWorld_of_same hdriver)
  rw [ofRow, perform_bindCurrent, perform_bind_ok hlooks, perform_bind_ok (perform_inWorld_of_same hrow),
    s.republished_republished]
  rfl

theorem perform_mapM_ofRow {found : List Value} {rows : List Row}
    (hrows : List.Forall₂ (fun v row => s.published.heap.entries? v = some row) found rows) :
    ∃ t, (found.mapM ofRow).perform s = (.ok (rows.map s.record.ofRead), t) ∧ (t = s ∨ t = s.republished) := by
  induction found generalizing s rows with
  | nil =>
      cases hrows
      exact ⟨s, rfl, .inl rfl⟩
  | cons v found ih =>
      obtain ⟨row, rows, hrow, hrest, rfl⟩ := List.forall₂_cons_left_iff.1 hrows
      have hd' : Entries.get? s.republished.record.connection s.republished.world.session.drivers = some d :=
        s.session_published.symm ▸ hd
      obtain ⟨t, hrun, ht⟩ := ih (s := s.republished) hd' (by rwa [s.published_republished])
      refine ⟨t, ?_, .inr (ht.elim id (·.trans s.republished_republished))⟩
      rw [List.mapM_cons, perform_bind_ok (perform_ofRow hd hrow), perform_bind_ok hrun]
      rfl

end

namespace IsFrame

variable {connection : String} {I : Scope E → Prop} (hI : IsFrame connection I)
include hI

theorem keeps_givesResultSet : Keeps I (givesResultSet : Record.Action E Bool) :=
  Keeps.bind hI.keeps_current fun _ => Keeps.bind (hI.keeps_settings _) fun _ => Keeps.pure _

theorem keeps_aggregateArgument (column : Value) :
    Keeps I (aggregateArgument column : Record.Action E String) := by
  unfold aggregateArgument
  split
  · exact Keeps.pure _
  · exact hI.keeps_quote column

theorem keeps_selectAggregate (aggregation : Aggregation) (column : Value) :
    Keeps I (Reading.selectAggregate aggregation column : Record.Action E Query) := by
  refine Keeps.bind (hI.keeps_aggregateArgument column) fun argument => Keeps.bind hI.keeps_current fun r => ?_
  exact Keeps.bind (hI.keeps_changeQuery _) fun _ =>
    Keeps.bind (hI.keeps_selectExpr _ _) fun _ => Keeps.pure _

theorem keeps_seek (reading : Reading) : Keeps I (reading.seek : Record.Action E Sql) := by
  have hlimited : Keeps I (do build (.limit (.int 1)); compileSelect : Record.Action E Sql) :=
    Keeps.bind (hI.keeps_build _) fun _ => hI.keeps_compileSelect
  cases reading with
  | one id =>
      dsimp only [Reading.seek]
      split
      · exact Keeps.bind (hI.keeps_keyIs _ id) fun _ => hlimited
      · exact hlimited
  | many => exact Keeps.bind hI.keeps_givesResultSet fun _ => hI.keeps_compileSelect
  | resultSet => exact hI.keeps_compileSelect
  | array => exact hI.keeps_compileSelect
  | aggregate aggregation column => exact Keeps.bind (hI.keeps_selectAggregate _ _) fun _ => hlimited

end IsFrame

end Record

namespace Database

open Record (IsFrame Reading Outcome Scope gather perform_inWorld)
open Record.Scope (Sees)

variable {kind : DriverKind} {db : Database kind} {digest : String → String} {connection : String}
  {reads : Heap → String → Params → Prop} {s : Scope (db.environment digest)} {α : Type}

/-- What is kept of the reads of the connection is current, and the database is in a state. -/
abbrev StandsIn (db : Database kind) (digest : String → String) (reads : Heap → String → Params → Prop)
    (connection : String) (state : db.State) : Scope (db.environment digest) → Prop :=
  Sees connection fun s o => db.IsCurrent digest reads connection s o.1 ∧ o.1 = state

theorem StandsIn.stands {state : db.State} (hs : StandsIn db digest reads connection state s) :
    Stands db digest reads connection s := ⟨hs.ofConnection, hs.property.1⟩

theorem Stands.standsIn (hs : Stands db digest reads connection s) :
    StandsIn db digest reads connection s.world.outside.1 s := ⟨hs.ofConnection, hs.property, rfl⟩

theorem isFrame_standsIn {state : db.State} : IsFrame connection (StandsIn db digest reads connection state) :=
  Sees.isFrame (fun _ _ h => h.1.registered) fun _ _ _ h hstays => ⟨h.1.stays hstays, h.2⟩

/-! ## What the database would give -/

/-- The rows that the database gives in its present state for the statement that a step compiles, with the record
that asks for them. -/
def found (db : Database kind) (seek : Record.Action (db.environment digest) Sql)
    (s : Scope (db.environment digest)) : Except Failure (Record × List Row) :=
  match seek.perform s with
  | (.error failure, _) => .error failure
  | (.ok sql, t) =>
    (db.rowsOf sql.text.display sql.params s.world.outside.1).map fun rows => (t.record, rows)

theorem found_of_error {seek : Record.Action (db.environment digest) Sql} {failure : Failure}
    {t : Scope (db.environment digest)} (hrun : seek.perform s = (.error failure, t)) :
    db.found seek s = .error failure := by
  rw [found, hrun]

theorem found_of_ok {seek : Record.Action (db.environment digest) Sql} {sql : Sql}
    {t : Scope (db.environment digest)} (hrun : seek.perform s = (.ok sql, t)) {text : String}
    (htext : sql.text = .text text) :
    db.found seek s =
      (db.rowsOf text sql.params s.world.outside.1).map fun rows => (t.record, rows) := by
  have hshown : sql.text.display = text := by rw [htext]; rfl
  rw [found, hrun, ← hshown]

theorem found_bind_error {β : Type} {before : Record.Action (db.environment digest) β}
    {seek : β → Record.Action (db.environment digest) Sql} {failure : Failure}
    {t : Scope (db.environment digest)} (hrun : before.perform s = (.error failure, t)) :
    db.found (before >>= seek) s = .error failure :=
  found_of_error (perform_bind_error hrun)

/-- What is done before the statement is compiled does not move the database. -/
theorem found_bind_ok {β : Type} {before : Record.Action (db.environment digest) β}
    {seek : β → Record.Action (db.environment digest) Sql} {b : β} {t : Scope (db.environment digest)}
    (hrun : before.perform s = (.ok b, t)) (hstate : t.world.outside.1 = s.world.outside.1) :
    db.found (before >>= seek) s = db.found (seek b) t := by
  rw [found, found, perform_bind_ok hrun, hstate]

/-- What a reading gives if its rows are those of the database in its present state. -/
def result (db : Database kind) (reading : Reading) (s : Scope (db.environment digest)) :
    Except Failure Outcome :=
  (db.found reading.seek s).map fun found =>
    reading.outcome found.1 (s.world.session.settingsOf s.record.connection).returnResultSets found.2

/-- The statement that a step compiles, if it does, is one of some reads. -/
def Seeks (reads : Heap → String → Params → Prop) {E : Environment} (seek : Record.Action E Sql) (s : Scope E) :
    Prop :=
  ∀ sql t, seek.perform s = (.ok sql, t) →
    ∃ text, sql.text = .text text ∧ reads t.published.heap text sql.params

theorem Seeks.after {E : Environment} {β : Type} {before : Record.Action E β} {seek : β → Record.Action E Sql}
    {b : β} {s t : Scope E} (h : Seeks reads (before >>= seek) s) (hrun : before.perform s = (.ok b, t)) :
    Seeks reads (seek b) t :=
  fun sql t' hseek => h sql t' ((perform_bind_ok hrun).trans hseek)

/-! ## Rows and records -/

/-- The rows of a read are the rows of the database. -/
theorem perform_gather (hdigest : Function.Injective digest) (hreads : db.IsReadBy reads)
    (hs : Stands db digest reads connection s) {sql : Sql} {text : String} (htext : sql.text = .text text)
    (hread : reads s.published.heap text sql.params) :
    ∃ t, Stands db digest reads connection t ∧ t.record.ofRead = s.record.ofRead ∧
      (gather sql).perform s =
        ((db.rowsOf text sql.params s.world.outside.1).map fun rows => rows.map .map, t) := by
  obtain ⟨session, cursors, hcurrent, hrun⟩ :=
    perform_read hdigest hreads hs.published hread (.text s.record.table)
  rw [s.outside_published] at hcurrent hrun
  rw [← htext, ← hs.ofConnection] at hrun
  let after : World (db.environment digest).State :=
    { s.published with session := session, outside := (s.world.outside.1, cursors) }
  have hd : s.published.heap.Drains after.heap := Heap.Drains.refl _
  have hafter : Stands db digest reads connection (s.renewed after) := hs.renewed hd hcurrent
  have hrecord : (s.renewed after).record = s.record := (Scope.renewed_eq hd).1
  rw [gather, Record.perform_bindCurrent]
  cases hrows : db.rowsOf text sql.params s.world.outside.1 with
  | error failure =>
      rw [hrows] at hrun
      exact ⟨_, hafter, congrArg Record.ofRead hrecord, perform_bind_error (perform_inWorld hrun)⟩
  | ok rows =>
      rw [hrows] at hrun
      rw [perform_bind_ok (perform_inWorld hrun)]
      have hreset := (IsFrame.keeps_changeQuery isFrame_stands Query.resetColumns).leaves hafter
      refine ⟨_, hreset, ?_, rfl⟩
      exact congrArg (fun r : Record => { r with query := r.query.resetColumns }.ofRead) hrecord

theorem Stands.republished (hs : Stands db digest reads connection s) :
    Stands db digest reads connection s.republished :=
  s.renewed_published ▸ hs.renewed (Heap.Drains.refl _) hs.published

theorem Stands.driver (hs : Stands db digest reads connection s) :
    ∃ d, Entries.get? s.record.connection s.world.session.drivers = some d := by
  rw [hs.ofConnection]
  exact hs.property.registered

theorem forall₂_entries?_map (h : Heap) (rows : List Row) :
    List.Forall₂ (fun v row => h.entries? v = some row) (rows.map .map) rows := by
  rw [List.forall₂_map_left_iff]
  exact List.forall₂_same.2 fun _ _ => rfl

/-! ## Readings -/

/-- What is made of the rows of a statement that a step compiles is made of the rows of the database. -/
theorem perform_seek_gather (hdigest : Function.Injective digest) (hreads : db.IsReadBy reads)
    (hs : Stands db digest reads connection s) {seek : Record.Action (db.environment digest) Sql}
    (hkeeps : ∀ I, IsFrame connection I → Keeps I seek) (hseeks : Seeks reads seek s)
    {next : List Value → Record.Action (db.environment digest) α} (finish : (Row → Record) → List Row → α)
    (hnext : ∀ t, Stands db digest reads connection t → ∀ rows : List Row,
      ∃ t', Stands db digest reads connection t' ∧
        (next (rows.map .map)).perform t = (.ok (finish t.record.ofRead rows), t')) :
    ∃ t, Stands db digest reads connection t ∧
      (seek >>= fun sql => gather sql >>= next).perform s =
        ((db.found seek s).map fun found => finish found.1.ofRead found.2, t) := by
  have hkept : Keeps (StandsIn db digest reads connection s.world.outside.1) seek := hkeeps _ isFrame_standsIn
  rcases hrun : seek.perform s with ⟨result, t⟩
  cases result with
  | error failure =>
      have ht := hkept.of_error hs.standsIn hrun
      rw [found_of_error hrun]
      exact ⟨t, ht.stands, perform_bind_error hrun⟩
  | ok sql =>
      have ht := hkept.of_ok hs.standsIn hrun
      obtain ⟨text, htext, hread⟩ := hseeks sql t hrun
      obtain ⟨t', ht', hofRead, hgather⟩ := perform_gather hdigest hreads ht.stands htext hread
      rw [ht.property.2] at hgather
      rw [found_of_ok hrun htext, perform_bind_ok hrun]
      cases hrows : db.rowsOf text sql.params s.world.outside.1 with
      | error failure =>
          rw [hrows] at hgather
          exact ⟨t', ht', perform_bind_error hgather⟩
      | ok rows =>
          rw [hrows] at hgather
          obtain ⟨t'', ht'', hnext⟩ := hnext t' ht' rows
          rw [hofRead] at hnext
          exact ⟨t'', ht'', (perform_bind_ok hgather).trans hnext⟩

section

variable (hdigest : Function.Injective digest) (hreads : db.IsReadBy reads)
  (hs : Stands db digest reads connection s)
include hdigest hreads hs

theorem perform_findOne (id : Value) (hseeks : Seeks reads (Reading.one id).seek s) :
    ∃ t, Stands db digest reads connection t ∧
      (Record.findOne id).perform s =
        ((db.found (Reading.one id).seek s).map fun found => found.2.head?.map found.1.ofRead, t) := by
  rw [Record.findOne_eq]
  refine perform_seek_gather hdigest hreads hs (fun _ hI => hI.keeps_seek _) hseeks
    (fun ofRead rows => rows.head?.map ofRead) fun t ht rows => ?_
  cases rows with
  | nil => exact ⟨t, ht, rfl⟩
  | cons row rows =>
      obtain ⟨d, hd⟩ := ht.driver
      exact ⟨_, ht.republished, perform_bind_ok (Record.perform_ofRow hd rfl)⟩

theorem perform_rows (hseeks : Seeks reads Record.compileSelect s) :
    ∃ t, Stands db digest reads connection t ∧
      Record.rows.perform s =
        ((db.found Record.compileSelect s).map fun found => found.2.map .map, t) := by
  have hsplit : (Record.rows : Record.Action (db.environment digest) (List Value)) =
      Record.compileSelect >>= fun sql => gather sql >>= pure := by
    simp only [Record.rows_eq, bind_pure]
  rw [hsplit]
  exact perform_seek_gather hdigest hreads hs (fun _ hI => hI.keeps_compileSelect) hseeks
    (fun _ rows => rows.map Value.map) fun t ht rows => ⟨t, ht, rfl⟩

theorem perform_findMany (hseeks : Seeks reads Record.compileSelect s) :
    ∃ t, Stands db digest reads connection t ∧
      Record.findMany.perform s =
        ((db.found Record.compileSelect s).map fun found => found.2.map found.1.ofRead, t) := by
  rw [Record.findMany_eq]
  refine perform_seek_gather hdigest hreads hs (fun _ hI => hI.keeps_compileSelect) hseeks
    (fun ofRead rows => rows.map ofRead) fun t ht rows => ?_
  obtain ⟨d, hd⟩ := ht.driver
  obtain ⟨t', hrun, ht'⟩ := Record.perform_mapM_ofRow hd (forall₂_entries?_map _ rows)
  refine ⟨t', ?_, hrun⟩
  rcases ht' with rfl | rfl
  · exact ht
  · exact ht.republished

/-- An aggregate reads one row, and puts the columns back that were chosen before. -/
theorem perform_aggregate (aggregation : Record.Aggregation) (column : Value)
    (hseeks : Seeks reads (Reading.aggregate aggregation column).seek s) :
    ∃ t, Stands db digest reads connection t ∧
      (Record.perform (.aggregate aggregation column)).perform s =
        (db.result (.aggregate aggregation column) s, t) := by
  have hseek : (Reading.aggregate aggregation column).seek =
      (Reading.selectAggregate aggregation column :
        Record.Action (db.environment digest) Query) >>= fun _ => (Reading.one .null).seek := rfl
  have hkept : Keeps (StandsIn db digest reads connection s.world.outside.1)
      (Reading.selectAggregate aggregation column) := IsFrame.keeps_selectAggregate isFrame_standsIn _ _
  rw [result, Record.perform, Record.aggregate_eq, hseek]
  rw [hseek] at hseeks
  rcases hrun : (Reading.selectAggregate aggregation column).perform s with ⟨failure | saved, t⟩
  · refine ⟨t, (hkept.of_error hs.standsIn hrun).stands, ?_⟩
    rw [found_bind_error hrun]
    exact perform_bind_error (perform_bind_error hrun)
  · have ht := hkept.of_ok hs.standsIn hrun
    obtain ⟨t', ht', hone⟩ := perform_findOne hdigest hreads ht.stands .null (hseeks.after hrun)
    have hread : ((Record.findOne .null).andThenAlways (Scope.withColumns saved)).perform t =
        ((db.found (Reading.one .null).seek t).map fun found => found.2.head?.map found.1.ofRead,
          t'.withColumns saved) := by
      rw [Step.perform_andThenAlways, hone]
    refine ⟨t'.withColumns saved, IsFrame.record isFrame_stands _ _ ht' ht'.ofConnection, ?_⟩
    rw [found_bind_ok hrun ht.property.2, bind_assoc, perform_bind_ok hrun, bind_assoc]
    rcases hfound : db.found (Reading.one .null).seek t with failure | ⟨r, rows⟩
    · rw [hfound] at hread
      exact perform_bind_error hread
    · rw [hfound] at hread
      rw [perform_bind_ok hread]
      exact congrArg (fun step => step.perform (t'.withColumns saved))
        (Record.aggregateIn_head? aggregation column _ r rows)

omit hdigest hreads hs in
theorem perform_bind_map {β γ : Type} {result : Except Failure α} {f : α → β}
    {action : Record.Action (db.environment digest) β} {t : Scope (db.environment digest)}
    (hrun : action.perform s = (result.map f, t)) (g : β → γ) :
    (action >>= fun b => pure (g b)).perform s = (result.map fun a => g (f a), t) := by
  cases result with
  | error failure => exact perform_bind_error hrun
  | ok a => exact perform_bind_ok hrun

/-- **A reading gives what it makes of the rows that the database gives now, and leaves what is kept current.** -/
theorem perform_reading (reading : Reading) (hseeks : Seeks reads reading.seek s) :
    ∃ t, Stands db digest reads connection t ∧
      (Record.perform reading.call).perform s = (db.result reading s, t) := by
  cases reading with
  | one id =>
      obtain ⟨t, ht, hrun⟩ := perform_findOne hdigest hreads hs id hseeks
      exact ⟨t, ht, perform_bind_map hrun Outcome.record⟩
  | many =>
      have hgives := Record.perform_givesResultSet s
      have hstate : s.republished.world.outside = s.world.outside := s.outside_published
      obtain ⟨t', ht', hrun⟩ := perform_findMany hdigest hreads hs.republished (hseeks.after hgives)
      refine ⟨t', ht', ?_⟩
      rw [result, Reading.seek, found_bind_ok hgives (congrArg Prod.fst hstate)]
      rw [Reading.call, Record.perform, perform_bind_ok hgives]
      cases (s.world.session.settingsOf s.record.connection).returnResultSets with
      | true => exact perform_bind_map hrun Outcome.resultSet
      | false => exact perform_bind_map hrun Outcome.records
  | resultSet =>
      obtain ⟨t, ht, hrun⟩ := perform_findMany hdigest hreads hs hseeks
      exact ⟨t, ht, perform_bind_map hrun Outcome.resultSet⟩
  | array =>
      obtain ⟨t, ht, hrun⟩ := perform_rows hdigest hreads hs hseeks
      exact ⟨t, ht, perform_bind_map hrun fun rows => Outcome.value (.list rows)⟩
  | aggregate aggregation column => exact perform_aggregate hdigest hreads hs aggregation column hseeks

end

/-! ## Runs -/

/-- The statement of a call that reads, if it compiles one, is one of some reads. Calls that do not read are
within any reads. -/
def Within (reads : Heap → String → Params → Prop) {E : Environment} (call : Record.Call) (s : Scope E) : Prop :=
  ∀ reading : Reading, reading.call = call → Seeks reads reading.seek s

/-- Every call leaves what is kept of reads current. -/
theorem stands_perform (hdigest : Function.Injective digest) (hreads : db.IsReadBy reads) (call : Record.Call)
    (hs : Stands db digest reads connection s) (hwithin : Within reads call s) :
    Stands db digest reads connection (s.after call) := by
  have hI : IsFrame connection (Stands db digest reads connection) := isFrame_stands
  have hreading : ∀ reading : Reading, reading.call = call →
      Stands db digest reads connection (s.after call) := by
    rintro reading rfl
    obtain ⟨t, ht, hrun⟩ := perform_reading hdigest hreads hs reading (hwithin reading rfl)
    rw [Scope.after, hrun]
    exact ht
  have hcalled : ∀ {β : Type} {action : Record.Action (db.environment digest) β} (finish : β → Outcome),
      Keeps (Stands db digest reads connection) action →
      Stands db digest reads connection ((action >>= fun b => pure (finish b)).perform s).2 :=
    fun finish hkeeps => (Keeps.bind hkeeps fun _ => Keeps.pure _).leaves hs
  cases call with
  | build call => exact hcalled _ (hI.keeps_build call)
  | create data => exact hcalled _ (hI.keeps_create data)
  | hydrate data => exact hcalled _ (hI.keeps_hydrate data)
  | forceAllDirty => exact hcalled _ (hI.keeps_changeRow _)
  | useKey key => exact hcalled _ (hI.keeps_useKey key)
  | write key value asSql => exact hcalled _ (hI.keeps_write key value asSql)
  | findOne id => exact hreading (.one id) rfl
  | findMany => exact hreading .many rfl
  | findResultSet => exact hreading .resultSet rfl
  | findArray => exact hreading .array rfl
  | aggregate aggregation column => exact hreading (.aggregate aggregation column) rfl
  | compileSelect => exact hcalled _ hI.keeps_compileSelect
  | valueAt key => exact hcalled _ (hI.keeps_valueAt key)
  | dataAt names => exact hcalled _ (hI.keeps_dataAt names)
  | isDirty key =>
      refine Triple.leaves (Keeps.bind hI.keeps_current fun r => ?_) hs
      exact Keeps.bind (hI.keeps_inHeap fun h => Heap.keeps_hasKey h key _) fun _ => Keeps.pure _
  | isNew => exact hcalled _ hI.keeps_current
  | keyValue disallowNull =>
      refine Triple.leaves (Keeps.bind (hI.keeps_inWorld fun _ _ _ => Connection.keeps_isTrue _) fun refused => ?_)
        hs
      split
      · exact Keeps.bind hI.keeps_presentKeyValue fun _ => Keeps.pure _
      · exact Keeps.bind hI.keeps_keyValue fun _ => Keeps.pure _
  | nullKeyCount => exact hcalled _ hI.keeps_nullKeyCount
  | save => exact hcalled _ keeps_save
  | delete => exact hcalled _ keeps_delete
  | deleteMany => exact hcalled _ keeps_deleteMany

/-- The sessions that calls of records of the connection lead to, with what lies outside of them, if all that the
calls read are some reads. What the heap holds between two calls, and which record is called, is up to the
caller. -/
inductive Reached (reads : Heap → String → Params → Prop) (connection : String) {E : Environment}
    (session : Session) (outside : E.State) : Session → E.State → Prop
  | start : Reached reads connection session outside session outside
  | call (call : Record.Call) (s : Scope E) :
      Reached reads connection session outside s.world.session s.world.outside →
      s.record.connection = connection → Within reads call s →
      Reached reads connection session outside (s.after call).world.session (s.after call).world.outside

/-- Whatever was read and written, what is kept of reads is current. -/
theorem isCurrent_of_reached (hdigest : Function.Injective digest) (hreads : db.IsReadBy reads)
    {session session' : Session} {outside outside' : (db.environment digest).State}
    (hserves : session.Serves connection kind) (hempty : session.memory = [])
    (hreached : Reached reads connection session outside session' outside') :
    db.IsCurrent digest reads connection session' outside'.1 := by
  induction hreached with
  | start =>
      refine ⟨hserves, fun key v hkept => ?_⟩
      rw [hempty] at hkept
      cases hkept
  | call call s hbefore hconnection hwithin ih =>
      exact (stands_perform hdigest hreads call ⟨hconnection, ih⟩ hwithin).property

/-- **However readings and writes are interleaved, a reading gives the rows of the present state.** -/
theorem reading_gives_present_rows (hdigest : Function.Injective digest) (hreads : db.IsReadBy reads)
    {session : Session} {outside : (db.environment digest).State} (hserves : session.Serves connection kind)
    (hempty : session.memory = [])
    (hreached : Reached reads connection session outside s.world.session s.world.outside)
    (hconnection : s.record.connection = connection) (reading : Reading) (hseeks : Seeks reads reading.seek s) :
    ((Record.perform reading.call).perform s).1 = db.result reading s := by
  have hcurrent := isCurrent_of_reached hdigest hreads hserves hempty hreached
  obtain ⟨t, -, hrun⟩ := perform_reading hdigest hreads ⟨hconnection, hcurrent⟩ reading hseeks
  rw [hrun]

/-- A database that counts the statements that come with parameters, and answers the others with their number. -/
def counting : Database (.native "mysql") where
  State := Nat
  ask _ params n :=
    match params with
    | some (.list []) => .ok (⟨none, [[(.text "writes", .int n)]], -1, .null⟩, n)
    | _ => .ok (⟨none, [], 1, .null⟩, n + 1)
  insertId _ := .ok .null

/-- An edited record that reads from the database that counts. -/
def editedNote : Scope (counting.environment id) where
  record :=
    { connection := "main"
      query := { table := "notes", raw := some ⟨.text "SELECT * FROM notes", .positional []⟩ }
      changes :=
        { data := [(.text "id", .int 1), (.text "text", .text "late")]
          dirty := [(.text "text", .text "late")] } }
  world :=
    { session :=
        { settings := [("main", { quoteMark := some "\x60", caching := true, cachingAutoClear := true })]
          drivers := [("main", ⟨.native "mysql", ⟨0⟩⟩)]
          dialects := [("main", ⟨0, .generic "mysql"⟩)] }
      heap := {}
      outside := ((0 : Nat), []) }

/-- What was read before a write is not read again after it. -/
theorem reading_gives_present_rows_editedNote :
    ((Record.perform .findArray).perform ((editedNote.after .findArray).after .save)).1 =
      .ok (.value (.list [.map [(.text "writes", .int 1)]])) := by
  let plain (_ : Heap) (_ : String) (params : Params) : Prop := params = .positional []
  have hreads : counting.IsReadBy plain := by
    refine ⟨?_, ?_⟩
    · rintro _ _ _ state _ state' rfl hanswer
      cases hanswer
      rfl
    · rintro _ _ _ _ _ rfl rfl - state
      rfl
  have hserves : editedNote.world.session.Serves "main" (.native "mysql") :=
    ⟨⟨rfl, rfl, rfl⟩, ⟨⟨0⟩, rfl⟩, rfl, rfl, List.Pairwise.nil⟩
  have hseeks : ∀ s : Scope (counting.environment id),
      (Record.compileSelect.perform s).1 = .ok ⟨.text "SELECT * FROM notes", .positional []⟩ →
      Seeks plain Reading.array.seek s := by
    intro s hcompiled sql t hrun
    have hsame : (Except.ok sql : Except Failure Sql) = .ok ⟨.text "SELECT * FROM notes", .positional []⟩ :=
      (congrArg Prod.fst hrun).symm.trans hcompiled
    cases hsame
    exact ⟨_, rfl, rfl⟩
  have hread : Within plain .findArray editedNote := by
    intro reading hcall
    cases reading <;> cases hcall
    exact hseeks editedNote rfl
  have hsave : Within plain .save (editedNote.after .findArray) := by
    intro reading hcall
    cases reading <;> cases hcall
  have hreached := Reached.call .save (editedNote.after .findArray)
    (.call .findArray editedNote .start rfl hread) rfl hsave
  exact reading_gives_present_rows Function.injective_id hreads hserves rfl hreached rfl .array (hseeks _ rfl)

end Database

end FluentSql
