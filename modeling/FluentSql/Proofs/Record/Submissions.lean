import FluentSql.Proofs.Connection.Journal
import FluentSql.Proofs.Database.Readings
import FluentSql.Proofs.Record.Makeup
import FluentSql.Proofs.Record.Requests
/-
# FluentSql.Proofs.Record.Submissions — the statement that a call of a record submits.

A step is silent if it breaks no quiet property. A step submits what another one asks for, if the statement that the
other one finds accounts for all that the step does to the journal and the log (`Submits`). Silent steps before it and
behind it do not matter, so it is enough to say what is asked for up to the point where a statement is executed.

A call that reads submits the statement that it compiles if the cache misses it, a call that writes submits the
statement of its request, and other calls submit nothing (`Call.asks`). Everything else that calls do is silent.
-/

namespace FluentSql

open Step (Keeps Triple perform_bind_ok perform_bind_error)
open Connection (IsQuiet)

variable {E : Environment} {σ τ α β : Type}

namespace Step

/-- What a step finds, if it does not fail. -/
def found? (ask : Step σ (Option α)) (s : σ) : Option α := ((ask.perform s).1.toOption).join

theorem found?_bind_ok {step : Step σ β} {ask : β → Step σ (Option α)} {b : β} {s s' : σ}
    (hrun : step.perform s = (.ok b, s')) : found? (step >>= ask) s = found? (ask b) s' := by
  rw [found?, perform_bind_ok hrun, found?]

theorem found?_bind_error {step : Step σ β} {ask : β → Step σ (Option α)} {failure : Failure} {s s' : σ}
    (hrun : step.perform s = (.error failure, s')) : found? (step >>= ask) s = none := by
  rw [found?, perform_bind_error hrun]
  rfl

theorem found?_onPart (get : σ → τ) (set : τ → σ → σ) (ask : Step τ (Option α)) (s : σ) :
    found? (onPart get set ask) s = found? ask (get s) := rfl

end Step

open Step (found? found?_bind_ok found?_bind_error)

/-- The step breaks no quiet property of the world. -/
structure Silent (world : σ → World E.State) (step : Step σ α) : Prop where
  keeps : ∀ {J : World E.State → Prop}, IsQuiet J → Keeps (fun s => J (world s)) step

/-- The submission that another step finds, if it finds one, accounts for what the step does. -/
def Submits (journal : Journal E) (world : σ → World E.State) (ask : Step σ (Option (Submission E)))
    (step : Step σ α) : Prop :=
  ∀ s w, journal.Accounts w [] (world s) → (∀ q ∈ found? ask s, q.IsPlain) →
    journal.Accounts w (found? ask s).toList (world (step.perform s).2)

namespace Silent

variable {world : σ → World E.State} {step : Step σ α}

theorem pure (a : α) : Silent world (pure a : Step σ α) := ⟨fun _ => Keeps.pure a⟩

theorem throw (failure : Failure) : Silent world (throw failure : Step σ α) := ⟨fun _ => Keeps.throw failure⟩

theorem bind {next : α → Step σ β} (h : Silent world step) (hnext : ∀ a, Silent world (next a)) :
    Silent world (step >>= next) := ⟨fun hJ => Keeps.bind (h.keeps hJ) fun a => (hnext a).keeps hJ⟩

theorem map {f : α → β} (h : Silent world step) : Silent world (f <$> step) := by
  rw [map_eq_pure_bind]
  exact h.bind fun _ => pure _

theorem mapM {f : α → Step σ β} {items : List α} (h : ∀ item ∈ items, Silent world (f item)) :
    Silent world (items.mapM f) := ⟨fun hJ => Keeps.mapM fun item hitem => (h item hitem).keeps hJ⟩

end Silent

namespace Submits

variable {journal : Journal E} {world : σ → World E.State} {step : Step σ α}

/-- A silent step submits nothing. -/
theorem of_silent (hundisturbed : journal.Undisturbed) (h : Silent world step) :
    Submits journal world (pure none) step := fun _ w hs _ =>
  (h.keeps (Journal.isQuiet_accounts hundisturbed w [])).leaves hs

/-- What is done silently before does not matter. -/
theorem bind (hundisturbed : journal.Undisturbed) (h : Silent world step)
    {ask : α → Step σ (Option (Submission E))} {next : α → Step σ β}
    (hnext : ∀ a, Submits journal world (ask a) (next a)) :
    Submits journal world (step >>= ask) (step >>= next) := by
  intro s w hs hplain
  have hkept := h.keeps (Journal.isQuiet_accounts hundisturbed w [])
  rcases hrun : step.perform s with ⟨failure | a, s'⟩
  · rw [found?_bind_error hrun, perform_bind_error hrun]
    exact hkept.of_error hs hrun
  · rw [found?_bind_ok hrun] at hplain ⊢
    rw [perform_bind_ok hrun]
    exact hnext a s' w (hkept.of_ok hs hrun) hplain

/-- What is done silently afterwards does not matter. -/
theorem andThen (hundisturbed : journal.Undisturbed) {ask : Step σ (Option (Submission E))}
    (h : Submits journal world ask step) {next : α → Step σ β} (hnext : ∀ a, Silent world (next a)) :
    Submits journal world ask (step >>= next) := by
  intro s w hs hplain
  have haccounts := h s w hs hplain
  rcases hrun : step.perform s with ⟨failure | a, s'⟩ <;> rw [hrun] at haccounts
  · rwa [perform_bind_error hrun]
  · rw [perform_bind_ok hrun]
    exact ((hnext a).keeps (Journal.isQuiet_accounts hundisturbed w _)).leaves haccounts

/-- What is changed at the end does not matter if it is no part of the world. -/
theorem andThenAlways {ask : Step σ (Option (Submission E))} (h : Submits journal world ask step) {change : σ → σ}
    (hchange : ∀ s, world (change s) = world s) : Submits journal world ask (step.andThenAlways change) := by
  intro s w hs hplain
  rw [Step.perform_andThenAlways, hchange]
  exact h s w hs hplain

/-- A step on a part of the state submits what it does there, if the worlds of both have the same quiet properties. -/
theorem onPart (hundisturbed : journal.Undisturbed) {part : τ → World E.State} {get : σ → τ} {set : τ → σ → σ}
    {ask : Step τ (Option (Submission E))} {step : Step τ α} (h : Submits journal part ask step)
    (hget : ∀ {J : World E.State → Prop}, IsQuiet J → ∀ s, J (world s) → J (part (get s)))
    (hset : ∀ {J : World E.State → Prop}, IsQuiet J → ∀ s t, J (part t) → J (world (set t s))) :
    Submits journal world (Step.onPart get set ask) (Step.onPart get set step) := by
  intro s w hs hplain
  have hquiet := Journal.isQuiet_accounts hundisturbed w
  rw [Step.perform_onPart, Step.found?_onPart]
  exact hset (hquiet _) s _ (h (get s) w (hget (hquiet []) s hs) hplain)

end Submits

namespace Connection

open Session (inHeap)

variable {journal : Journal E} (hundisturbed : journal.Undisturbed)

/-- A statement of a connection, to be executed now. -/
def submission (connection : String) (sql params : Value) : Action E (Option (Submission E)) := do
  return some ⟨connection, sql, params, ← get⟩

/-- The statement of a read, to be executed now unless the cache has its rows. -/
def submissionOfRead (connection : String) (sql params table : Value) : Action E (Option (Submission E)) := do
  match ← consult connection sql params table with
  | .found _ => return none
  | .missing _ => submission connection sql params

include hundisturbed

theorem submits_execute (connection : String) (sql params : Value) :
    Submits journal id (submission connection sql params) (execute connection sql params) := by
  intro s w hs hplain
  have hq : Submission.IsPlain ⟨connection, sql, params, s⟩ := hplain _ rfl
  have haccounts := (accounts_execute hundisturbed hq).leaves (s := s) rfl
  exact hs.trans haccounts

omit hundisturbed in
theorem silent_fetchAll (statement : Statement) :
    Silent id (fetchAll statement : Action E (List Value)) := ⟨fun hJ => hJ.keeps_fetch statement none⟩

/-- A read submits its statement if it misses the cache. -/
theorem submits_read (connection : String) (sql params table : Value) :
    Submits journal id (submissionOfRead connection sql params table) (read connection sql params table) := by
  have hfresh : Submits journal id (submission connection sql params) (readFresh connection sql params) :=
    (submits_execute hundisturbed connection sql params).andThen hundisturbed silent_fetchAll
  rw [read_eq]
  refine Submits.bind hundisturbed ⟨fun hJ => hJ.keeps_consult connection sql params table⟩ fun consulted => ?_
  cases consulted with
  | found rows => exact Submits.of_silent hundisturbed ⟨fun hJ => hJ.keeps_inHeap _⟩
  | missing place =>
      cases place with
      | none => exact hfresh
      | some kept =>
          refine hfresh.andThen hundisturbed fun rows => ?_
          refine Silent.bind ⟨fun hJ => hJ.keeps_copyOfRows rows⟩ fun copies => ?_
          exact Silent.bind ⟨fun hJ => hJ.keeps_keep _ _ _ _ _⟩ fun _ => Silent.pure rows

end Connection

end FluentSql

namespace FluentSql

open Connection (IsQuiet)

namespace Record

open Step (Keeps Triple)

variable {E : Environment} {α β : Type}

/-! ## Silence -/

/-- The actions that break no quiet property. Nothing is known of their results. -/
def silently : ActionFamily E := fun _ action R => (∀ a, R a) ∧ Silent id action

theorem covers_silently : Covers (fun _ => True) (silently (E := E)) where
  onHeap step _ := ⟨fun _ => trivial, ⟨fun hJ => hJ.keeps_inHeap step⟩⟩
  onLength v := ⟨fun _ => trivial, ⟨fun _ => Connection.keeps_length v⟩⟩
  onRow data := ⟨fun _ => trivial, ⟨fun hJ => hJ.keeps_rowOf data⟩⟩
  onSettings _ := ⟨fun _ => trivial, ⟨fun _ => Keeps.bind (Session.keeps_settings _) fun _ => Keeps.pure _⟩⟩
  onQuote _ identifier := ⟨fun _ => trivial, ⟨fun hJ => hJ.keeps_quote _ identifier⟩⟩
  onRendering _ := ⟨fun _ => trivial, ⟨fun hJ => hJ.ignoresDrivers.keeps_rendering _⟩⟩

/-- A record that is published in the heap breaks no quiet property. -/
theorem quiet_published {J : World E.State → Prop} (hJ : IsQuiet J) (s : Scope E) (hs : J s.world) :
    J s.published := by
  unfold Scope.published
  split
  · exact hJ.heap _ hs
  · exact hs

theorem silent_inWorld {action : FluentSql.Action E α} (h : Silent id action) :
    Silent Scope.world (inWorld action) := by
  refine ⟨fun hJ => Triple.of_states fun s hs => ?_⟩
  refine Triple.onPart s (h.keeps hJ) (quiet_published hJ s hs) ?_ ?_
  · exact fun _ w hw => (s.world_renewed w).symm ▸ hw
  · exact fun w hw => (s.world_renewed w).symm ▸ hw

/-- What is made of silent actions is silent. -/
theorem silent_madeOf {step : Record.Action E α} (h : MadeOf (fun _ => True) silently step) :
    Silent Scope.world step := by
  refine ⟨fun hJ => h.keeps (fun _ _ => trivial) (fun _ _ hs _ => hs) fun haction => ?_⟩
  exact ((silent_inWorld haction.2).keeps hJ).post fun a _ hs => ⟨hs, haction.1 a⟩

theorem silent_changeQuery (f : Query → Query) : Silent Scope.world (changeQuery f : Record.Action E Unit) :=
  silent_madeOf (Covers.madeOf_changeQuery f)

theorem silent_changeRow (f : Changes → Changes) : Silent Scope.world (changeRow f : Record.Action E Unit) :=
  silent_madeOf (Covers.madeOf_changeRow f)

theorem silent_current : Silent Scope.world (current : Record.Action E Record) := silent_madeOf MadeOf.current

theorem silent_settings (connection : String) :
    Silent Scope.world (inWorld (Connection.settings connection) : Record.Action E Settings) :=
  silent_inWorld ⟨fun _ => Session.keeps_settings connection⟩

theorem silent_ofRow (row : Value) : Silent Scope.world (ofRow row : Record.Action E Record) := by
  refine Silent.bind silent_current fun r => ?_
  refine Silent.bind (Silent.map (silent_inWorld ⟨fun hJ => hJ.ignoresDrivers.keeps_driver _⟩)) fun _ => ?_
  exact Silent.bind (silent_inWorld ⟨fun hJ => hJ.keeps_rowOf row⟩) fun _ => Silent.pure _

theorem silent_autoClearCache : Silent Scope.world (autoClearCache : Record.Action E Unit) := by
  refine Silent.bind silent_current fun r => Silent.bind (silent_settings _) fun settings => ?_
  split
  · exact silent_inWorld ⟨fun hJ => hJ.keeps_clearCache _ _⟩
  · exact Silent.pure ()

theorem silent_fillKey (keyColumns : List Value) (statement : Statement) :
    Silent Scope.world (fillKey keyColumns statement : Record.Action E Unit) := by
  refine Silent.bind silent_current fun r => ?_
  refine Silent.bind (silent_inWorld ⟨fun hJ => hJ.ignoresDrivers.keeps_dialect _⟩) fun dialect => ?_
  split
  · refine Silent.bind (silent_inWorld ⟨fun hJ => hJ.keeps_fetchRow statement⟩) fun row => ?_
    split
    · exact silent_madeOf (covers_silently.madeOf_addFields _)
    · exact Silent.pure ()
  · refine Silent.bind (silent_inWorld ⟨fun hJ => hJ.ignoresDrivers.keeps_driver _⟩) fun d => ?_
    refine Silent.bind (silent_inWorld ⟨fun hJ => hJ.keeps_lastInsertId d⟩) fun id => ?_
    split
    · exact Silent.throw _
    · refine Silent.bind (silent_inWorld ⟨fun hJ => hJ.keeps_inHeap _⟩) fun _ => ?_
      exact silent_changeRow _

theorem silent_finishSave (keyColumns : List Value) (statement : Statement) :
    Silent Scope.world (finishSave keyColumns statement : Record.Action E Unit) := by
  refine Silent.bind silent_current fun r => ?_
  extract_lets finishing
  have hfinishing : ∀ u, Silent Scope.world (finishing u : Record.Action E Unit) := fun _ => silent_changeRow _
  split
  · refine Silent.bind (silent_changeRow _) fun _ => ?_
    refine Silent.bind (silent_madeOf covers_silently.madeOf_nullKeyCount) fun count => ?_
    split
    · exact Silent.bind (silent_fillKey keyColumns statement) hfinishing
    · exact hfinishing ()
  · exact hfinishing ()

theorem silent_pendingWrite : Silent Scope.world (pendingWrite : Record.Action E (Option (List Value × Sql))) := by
  refine Silent.bind (silent_madeOf covers_silently.madeOf_rendering) fun rendering => ?_
  refine Silent.bind (silent_madeOf covers_silently.madeOf_key) fun key => Silent.bind silent_current fun r => ?_
  dsimp only
  split
  · exact Silent.bind (silent_madeOf (covers_silently.madeOf_insertion _ _)) fun _ => Silent.pure _
  · split
    · exact Silent.bind (silent_madeOf (covers_silently.madeOf_updating _ _)) fun _ => Silent.pure _
    · exact Silent.pure none

theorem silent_deletion : Silent Scope.world (deletion : Record.Action E Sql) := by
  refine Silent.bind (silent_madeOf covers_silently.madeOf_rendering) fun rendering => ?_
  refine Silent.bind (silent_madeOf covers_silently.madeOf_key) fun key => ?_
  refine Silent.bind (silent_madeOf covers_silently.madeOf_keyValues) fun values => ?_
  refine Silent.bind (silent_inWorld ⟨fun hJ => hJ.keeps_inHeap _⟩) fun columns => ?_
  exact Silent.bind silent_current fun _ => Silent.pure _

theorem silent_deletionOfMany : Silent Scope.world (deletionOfMany : Record.Action E Sql) := by
  refine Silent.bind (silent_madeOf covers_silently.madeOf_rendering) fun rendering => ?_
  exact Silent.bind silent_current fun r => silent_madeOf (MadeOf.lift _)

theorem silent_selectAggregate (aggregation : Aggregation) (column : Value) :
    Silent Scope.world (Reading.selectAggregate aggregation column : Record.Action E Query) := by
  have hargument : Silent Scope.world (aggregateArgument column : Record.Action E String) := by
    unfold aggregateArgument
    split
    · exact Silent.pure _
    · exact silent_madeOf (covers_silently.madeOf_quote column)
  refine Silent.bind hargument fun argument => Silent.bind silent_current fun saved => ?_
  refine Silent.bind (silent_changeQuery _) fun _ => ?_
  exact Silent.bind (silent_madeOf (covers_silently.madeOf_selectExpr _ _)) fun _ => Silent.pure _

theorem silent_seekOne (id : Value) : Silent Scope.world ((Reading.one id).seek : Record.Action E Sql) := by
  have hlimited : Silent Scope.world (do build (.limit (.int 1)); compileSelect : Record.Action E Sql) :=
    Silent.bind (silent_madeOf (covers_silently.madeOf_build _)) fun _ =>
      silent_madeOf covers_silently.madeOf_compileSelect
  dsimp only [Reading.seek]
  split
  · exact Silent.bind (silent_madeOf (covers_silently.madeOf_keyIs _ id)) fun _ => hlimited
  · exact hlimited

/-! ## What is asked for -/

/-- The statement of a record, to be executed now unless the cache has its rows. -/
def readSubmission (sql : Sql) : Record.Action E (Option (Submission E)) := do
  let r ← current
  inWorld (Connection.submissionOfRead r.connection sql.text sql.params.toValue (.text r.table))

/-- The statement of a record, to be executed now. -/
def writeSubmission (sql : Sql) : Record.Action E (Option (Submission E)) := do
  let r ← current
  inWorld (Connection.submission r.connection sql.text sql.params.toValue)

/-- What a call asks for: its record looks the statement up that it compiles, or sends the statement of a request. -/
def Call.asks : Call → Record.Action E (Option (Submission E))
  | .findOne id => (Reading.one id).seek >>= readSubmission
  | .findMany => givesResultSet >>= fun _ => Record.compileSelect >>= readSubmission
  | .findResultSet | .findArray => Record.compileSelect >>= readSubmission
  | .aggregate aggregation column =>
    Reading.selectAggregate aggregation column >>= fun _ => (Reading.one .null).seek >>= readSubmission
  | .save => do
    match ← pendingWrite with
    | some (_, sql) => writeSubmission sql
    | none => return none
  | .delete => deletion >>= writeSubmission
  | .deleteMany => deletionOfMany >>= writeSubmission
  | _ => return none

variable {journal : Journal E} (hundisturbed : journal.Undisturbed)
include hundisturbed

theorem submits_inWorld {ask : FluentSql.Action E (Option (Submission E))} {action : FluentSql.Action E α}
    (h : Submits journal id ask action) : Submits journal Scope.world (inWorld ask) (inWorld action) :=
  h.onPart hundisturbed (fun hJ s hs => quiet_published hJ s hs) fun _ s w hw => (s.world_renewed w).symm ▸ hw

theorem submits_gather (sql : Sql) :
    Submits journal Scope.world (readSubmission sql) (gather sql : Record.Action E (List Value)) := by
  refine Submits.bind hundisturbed silent_current fun r => ?_
  refine Submits.andThen hundisturbed (submits_inWorld hundisturbed
    (Connection.submits_read hundisturbed _ _ _ _)) fun rows => ?_
  exact Silent.bind (silent_changeQuery _) fun _ => Silent.pure rows

theorem submits_rows :
    Submits journal Scope.world (compileSelect >>= readSubmission) (rows : Record.Action E (List Value)) :=
  Submits.bind hundisturbed (silent_madeOf covers_silently.madeOf_compileSelect) fun sql =>
    submits_gather hundisturbed sql

theorem submits_findMany :
    Submits journal Scope.world (compileSelect >>= readSubmission) (findMany : Record.Action E (List Record)) :=
  (submits_rows hundisturbed).andThen hundisturbed fun _ => Silent.mapM fun row _ => silent_ofRow row

theorem submits_findOne (id : Value) :
    Submits journal Scope.world ((Reading.one id).seek >>= readSubmission)
      (findOne id : Record.Action E (Option Record)) := by
  rw [findOne_eq]
  refine Submits.bind hundisturbed (silent_seekOne id) fun sql => ?_
  refine (submits_gather hundisturbed sql).andThen hundisturbed fun rows => ?_
  cases rows with
  | nil => exact Silent.pure none
  | cons row rows => exact Silent.bind (silent_ofRow row) fun _ => Silent.pure _

theorem submits_aggregate (aggregation : Aggregation) (column : Value) :
    Submits journal Scope.world
      (Reading.selectAggregate aggregation column >>= fun _ => (Reading.one .null).seek >>= readSubmission)
      (aggregate aggregation column : Record.Action E Value) := by
  rw [aggregate_eq]
  refine Submits.bind hundisturbed (silent_selectAggregate aggregation column) fun saved => ?_
  have hfound : Submits journal Scope.world ((Reading.one .null).seek >>= readSubmission)
      ((findOne .null).andThenAlways (Scope.withColumns saved) : Record.Action E (Option Record)) :=
    (submits_findOne hundisturbed .null).andThenAlways fun _ => rfl
  refine hfound.andThen hundisturbed fun found => ?_
  cases found with
  | none => exact Silent.pure _
  | some r =>
      dsimp only [aggregateIn]
      rw [coerced_eq]
      exact Silent.pure _

theorem submits_executeWrite (sql : Sql) :
    Submits journal Scope.world (writeSubmission sql) (executeWrite sql : Record.Action E Statement) := by
  refine Submits.bind hundisturbed silent_current fun r => ?_
  refine Submits.andThen hundisturbed (submits_inWorld hundisturbed
    (Connection.submits_execute hundisturbed _ _ _)) fun statement => ?_
  exact Silent.bind silent_autoClearCache fun _ => Silent.pure statement

theorem submits_saveWith (keyColumns : List Value) (sql : Sql) :
    Submits journal Scope.world (writeSubmission sql) (saveWith keyColumns sql : Record.Action E Unit) :=
  (submits_executeWrite hundisturbed sql).andThen hundisturbed (silent_finishSave keyColumns)

theorem submits_save : Submits journal Scope.world Call.save.asks (save : Record.Action E Unit) := by
  rw [save_eq]
  refine Submits.bind hundisturbed silent_pendingWrite fun pending => ?_
  cases pending with
  | none => exact Submits.of_silent hundisturbed (Silent.pure ())
  | some pending => exact submits_saveWith hundisturbed pending.1 pending.2

theorem submits_delete : Submits journal Scope.world Call.delete.asks (delete : Record.Action E Unit) := by
  rw [delete_eq]
  exact Submits.bind hundisturbed silent_deletion fun sql =>
    (submits_executeWrite hundisturbed sql).andThen hundisturbed fun _ => Silent.pure ()

theorem submits_deleteMany :
    Submits journal Scope.world Call.deleteMany.asks (deleteMany : Record.Action E Unit) := by
  rw [deleteMany_eq]
  exact Submits.bind hundisturbed silent_deletionOfMany fun sql =>
    (submits_executeWrite hundisturbed sql).andThen hundisturbed fun _ => Silent.pure ()

/-- **A call submits what it asks for**, and whatever else it does is silent. -/
theorem submits_perform (call : Call) :
    Submits journal Scope.world call.asks (perform call : Record.Action E Outcome) := by
  have hcovers := covers_silently (E := E)
  have hsilent : ∀ {α : Type} {step : Record.Action E α} {outcome : α → Outcome},
      Silent Scope.world step → Submits journal Scope.world (pure none) (do return outcome (← step)) :=
    fun h => Submits.of_silent hundisturbed (h.bind fun _ => Silent.pure _)
  cases call with
  | findOne id => exact (submits_findOne hundisturbed id).andThen hundisturbed fun _ => Silent.pure _
  | findMany =>
      have hgives : Silent Scope.world (givesResultSet : Record.Action E Bool) :=
        Silent.bind silent_current fun r => Silent.bind (silent_settings _) fun _ => Silent.pure _
      refine Submits.bind hundisturbed hgives fun gives => ?_
      cases gives <;> exact (submits_findMany hundisturbed).andThen hundisturbed fun _ => Silent.pure _
  | findResultSet => exact (submits_findMany hundisturbed).andThen hundisturbed fun _ => Silent.pure _
  | findArray => exact (submits_rows hundisturbed).andThen hundisturbed fun _ => Silent.pure _
  | aggregate aggregation column =>
      exact (submits_aggregate hundisturbed aggregation column).andThen hundisturbed fun _ => Silent.pure _
  | save => exact (submits_save hundisturbed).andThen hundisturbed fun _ => Silent.pure _
  | delete => exact (submits_delete hundisturbed).andThen hundisturbed fun _ => Silent.pure _
  | deleteMany => exact (submits_deleteMany hundisturbed).andThen hundisturbed fun _ => Silent.pure _
  | build call => exact hsilent (silent_madeOf (hcovers.madeOf_build call))
  | create data => exact hsilent (silent_madeOf (hcovers.madeOf_create data))
  | hydrate data => exact hsilent (silent_madeOf (hcovers.madeOf_hydrate data))
  | forceAllDirty => exact hsilent (silent_changeRow _)
  | useKey key => exact hsilent (silent_madeOf (hcovers.madeOf_useKey key))
  | write key value asSql => exact hsilent (silent_madeOf (hcovers.madeOf_write key value asSql))
  | compileSelect => exact hsilent (silent_madeOf hcovers.madeOf_compileSelect)
  | valueAt key => exact hsilent (silent_madeOf (hcovers.madeOf_valueAt key))
  | dataAt names => exact hsilent (silent_madeOf (hcovers.madeOf_dataAt names))
  | isDirty key =>
      refine Submits.of_silent hundisturbed (Silent.bind silent_current fun r => ?_)
      exact Silent.bind (silent_inWorld ⟨fun hJ => hJ.keeps_inHeap _⟩) fun _ => Silent.pure _
  | isNew => exact Submits.of_silent hundisturbed (Silent.bind silent_current fun _ => Silent.pure _)
  | keyValue disallowNull =>
      refine Submits.of_silent hundisturbed ?_
      refine Silent.bind (silent_inWorld ⟨fun _ => Connection.keeps_isTrue disallowNull⟩) fun counts => ?_
      split
      · exact Silent.bind (silent_madeOf hcovers.madeOf_presentKeyValue) fun _ => Silent.pure _
      · exact Silent.bind (silent_madeOf hcovers.madeOf_keyValue) fun _ => Silent.pure _
  | nullKeyCount => exact hsilent (silent_madeOf hcovers.madeOf_nullKeyCount)

end Record

end FluentSql
