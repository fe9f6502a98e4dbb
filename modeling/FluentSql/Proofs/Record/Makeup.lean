import FluentSql.Record.Call
import FluentSql.Proofs.Connection.Ledger
import FluentSql.Proofs.Connection.Options
import FluentSql.Proofs.Record.Building
import FluentSql.Proofs.Record.Saving
/-
# FluentSql.Proofs.Record.Makeup — what the actions of a record are made of.

Whatever a record does is put together from looks at the record, changes of it, and a dozen actions of its
connection (`madeOf_perform`). So what every one of these does, every call of a record does, and how a call goes
on after it looked at something plays no part.
-/

namespace FluentSql.Record

open Step (Keeps Triple)

variable {E : Environment} {α β : Type}

/-- Actions in a world, with what is known of their results. -/
abbrev ActionFamily (E : Environment) : Type 1 :=
  (α : Type) → FluentSql.Action E α → (α → Prop) → Prop

/-- An action of a record of some connection that is made of actions of a family. The record may be looked at
and changed at any time, but never moves to another connection. -/
inductive MadeOf (C : String → Prop) (A : ActionFamily E) : {α : Type} → Record.Action E α → Prop
  | pure {α : Type} (a : α) : MadeOf C A (pure a)
  | throw {α : Type} (failure : Failure) : MadeOf C A (throw failure : Record.Action E α)
  | bind {α β : Type} {step : Record.Action E α} {next : α → Record.Action E β}
      (h : MadeOf C A step) (hnext : ∀ a, MadeOf C A (next a)) :
      MadeOf C A (step >>= next)
  | bindCurrent {β : Type} {next : Record → Record.Action E β}
      (hnext : ∀ r : Record, C r.connection → MadeOf C A (next r)) :
      MadeOf C A (current >>= next)
  | heap : MadeOf C A heap
  | change {f : Record → Record} (hf : ∀ r : Record, (f r).connection = r.connection) :
      MadeOf C A (change f)
  | bindInWorld {α β : Type} {action : FluentSql.Action E α} {R : α → Prop} {next : α → Record.Action E β}
      (h : A α action R) (hnext : ∀ a, R a → MadeOf C A (next a)) :
      MadeOf C A (inWorld action >>= next)
  /-- The record is changed at the end on every path. -/
  | restoring {α : Type} {step : Record.Action E α} {f : Record → Record} (h : MadeOf C A step)
      (hf : ∀ r : Record, (f r).connection = r.connection) :
      MadeOf C A (step.andThenAlways fun s => { s with record := f s.record })

namespace MadeOf

variable {C : String → Prop} {A : ActionFamily E}

theorem current : MadeOf C A (current : Record.Action E Record) := by
  have h : MadeOf C A (Record.current >>= fun r => (Pure.pure r : Record.Action E Record)) :=
    bindCurrent fun r _ => pure r
  rwa [bind_pure] at h

theorem inWorld {action : FluentSql.Action E α} {R : α → Prop} (h : A α action R) :
    MadeOf C A (inWorld action) := by
  have hbind : MadeOf C A (Record.inWorld action >>= fun a => (Pure.pure a : Record.Action E α)) :=
    bindInWorld h fun a _ => pure a
  rwa [bind_pure] at hbind

theorem lift (result : Except Failure α) : MadeOf C A (liftM result : Record.Action E α) := by
  cases result with
  | ok a => exact pure a
  | error failure => exact throw failure

theorem forM {items : List α} {f : α → Record.Action E PUnit}
    (h : ∀ item ∈ items, MadeOf C A (f item)) : MadeOf C A (items.forM f) := by
  induction items with
  | nil => exact pure ()
  | cons item items ih =>
      exact bind (h item List.mem_cons_self) fun _ =>
        ih fun other hother => h other (List.mem_cons_of_mem _ hother)

theorem mapM {items : List α} {f : α → Record.Action E β}
    (h : ∀ item ∈ items, MadeOf C A (f item)) : MadeOf C A (items.mapM f) := by
  induction items with
  | nil =>
      rw [List.mapM_nil]
      exact pure []
  | cons item items ih =>
      rw [List.mapM_cons]
      refine bind (h item List.mem_cons_self) fun b => ?_
      exact bind (ih fun other hother => h other (List.mem_cons_of_mem _ hother)) fun _ => pure _

/-- **What changes of the record and the actions of the family keep, every action made of them keeps.** -/
theorem keeps {step : Record.Action E α} (h : MadeOf C A step) {I : Scope E → Prop}
    (hconnection : ∀ s, I s → C s.record.connection)
    (hrecord : ∀ s (r : Record), I s → r.connection = s.record.connection → I { s with record := r })
    (hworld : ∀ {α : Type} {action : FluentSql.Action E α} {R : α → Prop}, A α action R →
      Triple I (Record.inWorld action) (fun a s => I s ∧ R a) I) : Keeps I step := by
  induction h with
  | pure a => exact Keeps.pure a
  | throw failure => exact Keeps.throw failure
  | bind _ _ ih ihnext => exact Keeps.bind ih ihnext
  | bindCurrent _ ihnext =>
      exact Record.triple_bindCurrent fun s hs => (ihnext s.record (hconnection s hs)).pre fun _ ht => ht ▸ hs
  | heap => exact fun _ hs => hs
  | change hf => exact Triple.modify fun s hs => hrecord s _ hs (hf s.record)
  | bindInWorld h _ ihnext => exact Triple.bindKnown (hworld h) ihnext
  | @restoring _ step f _ hf ih =>
      intro s hs
      have hleft := ih.leaves hs
      rw [Step.perform_andThenAlways]
      rcases hrun : step.perform s with ⟨result, s'⟩
      rw [hrun] at hleft
      cases result <;> exact hrecord s' _ hleft (hf s'.record)

end MadeOf

/-! ## Going through values -/

theorem keeps_placeholders (h : Heap) (inlined : Value) (fields : List (Value × Value)) :
    Keeps h.Drains (placeholders inlined fields) := by
  refine Keeps.bind (Keeps.mapM fun field _ => ?_) fun _ => Keeps.pure _
  refine Keeps.bind (Heap.keeps_contains h _ _) fun found => ?_
  split
  · exact Keeps.bind Keeps.get fun _ => Keeps.pure _
  · exact Keeps.pure _

theorem keeps_columnsOf (h : Heap) (argument : Value) : Keeps h.Drains (columnsOf argument) := by
  refine Keeps.bind Keeps.get fun current => ?_
  split
  · exact Keeps.pure _
  · exact Keeps.pure _
  · exact Keeps.bind (Heap.keeps_items h argument) fun _ => Keeps.pure _

theorem keeps_keyParts (h : Heap) (columns : List Value) (id : Value) :
    Keeps h.Drains (keyParts columns id) := by
  refine Keeps.bind (Keeps.mapM fun column _ => ?_) fun _ => Keeps.pure _
  exact Keeps.bind (keeps_partOf h id column) fun _ => Keeps.pure _

theorem keeps_rawParams (h : Heap) (params : Value) : Keeps h.Drains (rawParams params) := by
  unfold rawParams
  split
  · exact Keeps.pure _
  · exact Connection.keeps_params h params

/-! ## Families of actions -/

/-- A family with the actions of connections that writing statements down takes. The settings are looked at for everything
but functions of the cache. -/
structure Covers (C : String → Prop) (A : ActionFamily E) : Prop where
  onHeap : ∀ {α : Type} (step : Step Heap α), (∀ h : Heap, Keeps h.Drains step) →
    A _ (Session.inHeap step) fun _ => True
  onLength : ∀ v, A _ (Connection.length v) fun _ => True
  onRow : ∀ data, A _ (rowOf data) fun _ => True
  onSettings : ∀ {c}, C c → A _ (do return (← Connection.settings c).withCacheHooks {}) fun _ => True
  onQuote : ∀ {c}, C c → ∀ identifier, A _ (Connection.quote c identifier) fun _ => True
  onRendering : ∀ {c}, C c → A _ (Connection.rendering c) fun _ => True

/-- A family with all actions of connections. What is known of a driver is enough to ask it for the number of
its last insertion. -/
structure CoversAll (C : String → Prop) (A : ActionFamily E) : Prop extends Covers C A where
  onTruth : ∀ v, A _ (Connection.isTrue v) fun _ => True
  onFetchRow : ∀ statement, A _ (Connection.fetchRow statement) fun _ => True
  onDialect : ∀ {c}, C c → A _ (Connection.dialect c) fun _ => True
  onDriver : ∀ {c}, C c → ∃ R : Driver → Prop, A _ (Connection.driver c) R ∧
    ∀ d, R d → A _ (Connection.lastInsertId d) fun _ => True
  onExecute : ∀ {c}, C c → ∀ sql params, A _ (Connection.execute c sql params) fun _ => True
  onRead : ∀ {c}, C c → ∀ sql params table, A _ (Connection.read c sql params table) fun _ => True
  onClearCache : ∀ {c}, C c → ∀ table, A _ (Connection.clearCache table c) fun _ => True

namespace Covers

variable {C : String → Prop} {A : ActionFamily E} (hA : Covers C A)
include hA

/-! ## The record and its world -/

omit hA in
theorem madeOf_changeQuery (f : Query → Query) : MadeOf C A (changeQuery f : Record.Action E Unit) :=
  .change fun _ => rfl

omit hA in
theorem madeOf_changeRow (f : Changes → Changes) : MadeOf C A (changeRow f : Record.Action E Unit) :=
  .change fun _ => rfl

theorem madeOf_inHeap {step : Step Heap α} (h : ∀ h : Heap, Keeps h.Drains step) :
    MadeOf C A (inHeap step : Record.Action E α) := .inWorld (hA.onHeap step h)

omit hA in
theorem madeOf_displayed (v : Value) : MadeOf C A (displayed v : Record.Action E String) :=
  .bind .heap fun _ => .pure _

theorem madeOf_quote (identifier : Value) : MadeOf C A (quote identifier : Record.Action E String) := by
  refine .bindCurrent fun r hr => ?_
  exact .inWorld (hA.onQuote hr identifier)

theorem madeOf_rendering : MadeOf C A (rendering : Record.Action E Rendering) := by
  refine .bindCurrent fun r hr => ?_
  exact .inWorld (hA.onRendering hr)

/-- Actions that go on from the settings, and not from functions of the cache. -/
theorem madeOf_bindSettings {c : String} (hc : C c) {next : Settings → Record.Action E β}
    (hplain : ∀ s : Settings, next s = next (s.withCacheHooks {})) (h : ∀ s, MadeOf C A (next s)) :
    MadeOf C A (inWorld (Connection.settings c) >>= next) := by
  have heq : inWorld (Connection.settings c) >>= next =
      inWorld (do return (← Connection.settings c).withCacheHooks {}) >>= next := by
    funext s
    exact congrFun (hplain _) _
  rw [heq]
  exact MadeOf.bind (.inWorld (hA.onSettings hc)) h

/-! ## The row -/

theorem madeOf_hydrate (data : Value) : MadeOf C A (hydrate data : Record.Action E Unit) :=
  MadeOf.bind (.inWorld (hA.onRow data)) fun _ => madeOf_changeRow _

theorem madeOf_create (data : Value) : MadeOf C A (create data : Record.Action E Unit) := by
  refine MadeOf.bind (madeOf_changeRow _) fun _ => ?_
  split
  · exact MadeOf.pure _
  · exact MadeOf.bind (hA.madeOf_hydrate data) fun _ => madeOf_changeRow _

theorem madeOf_write (key value : Value) (asSql : Bool) :
    MadeOf C A (write key value asSql : Record.Action E Unit) := by
  refine MadeOf.bind MadeOf.heap fun h => ?_
  split
  · exact madeOf_changeRow _
  · exact MadeOf.bind (hA.madeOf_inHeap fun h => Heap.keeps_requireKey h key) fun _ => madeOf_changeRow _

theorem madeOf_valueAt (key : Value) : MadeOf C A (valueAt key : Record.Action E Value) :=
  MadeOf.bind MadeOf.current fun _ => hA.madeOf_inHeap fun h => keeps_valueIn h _ key

theorem madeOf_dataAt (names : List Value) : MadeOf C A (dataAt names : Record.Action E Row) := by
  refine MadeOf.bind MadeOf.current fun r => ?_
  split
  · exact MadeOf.pure _
  · exact hA.madeOf_inHeap fun h => Keeps.filterM fun e _ => Heap.keeps_contains h e.1 _

/-! ## The key -/

theorem madeOf_useKey (key : Value) : MadeOf C A (useKey key : Record.Action E Unit) := by
  unfold useKey
  split
  · exact MadeOf.change fun _ => rfl
  · exact MadeOf.change fun _ => rfl
  · exact MadeOf.bind (hA.madeOf_inHeap fun h => Heap.keeps_items h _) fun _ => MadeOf.change fun _ => rfl

theorem madeOf_key : MadeOf C A (key : Record.Action E KeyColumns) := by
  refine .bindCurrent fun r hr => ?_
  split
  · exact MadeOf.pure _
  · exact hA.madeOf_bindSettings hr (fun _ => rfl) fun _ => MadeOf.bind MadeOf.heap fun _ => MadeOf.pure _

theorem madeOf_keyValue : MadeOf C A (keyValue : Record.Action E Value) := by
  refine MadeOf.bind hA.madeOf_key fun key => ?_
  split <;> exact hA.madeOf_valueAt _

theorem madeOf_nullKeyCount : MadeOf C A (nullKeyCount : Record.Action E Nat) := by
  refine MadeOf.bind hA.madeOf_keyValue fun value => MadeOf.bind MadeOf.heap fun h => ?_
  split <;> exact MadeOf.pure _

omit hA in
theorem madeOf_refuseNull (columns : List Value) : MadeOf C A (refuseNull columns : Record.Action E α) :=
  MadeOf.bind MadeOf.current fun _ => MadeOf.throw _

theorem madeOf_presentKeyValue : MadeOf C A (presentKeyValue : Record.Action E Value) := by
  refine MadeOf.bind hA.madeOf_keyValue fun value => MadeOf.bind MadeOf.heap fun h => ?_
  split
  · split
    · exact MadeOf.bind (madeOf_refuseNull _) fun _ => MadeOf.pure _
    · exact MadeOf.pure _
  · split
    · exact MadeOf.bind hA.madeOf_key fun _ => MadeOf.bind (madeOf_refuseNull _) fun _ => MadeOf.pure _
    · exact MadeOf.pure _

theorem madeOf_keyValues : MadeOf C A (keyValues : Record.Action E (List Value)) := by
  refine MadeOf.bind hA.madeOf_presentKeyValue fun value => MadeOf.bind MadeOf.heap fun h => ?_
  split <;> exact MadeOf.pure _

/-! ## Conditions -/

omit hA in
theorem madeOf_addCondition (kind : ConditionKind) (fragment : Fragment) :
    MadeOf C A (addCondition kind fragment : Record.Action E Unit) := madeOf_changeQuery _

omit hA in
theorem madeOf_columnsWith (column value : Value) :
    MadeOf C A (columnsWith column value : Record.Action E (List (Value × Value))) :=
  MadeOf.bind MadeOf.heap fun _ => MadeOf.pure _

theorem madeOf_qualified (column : Value) : MadeOf C A (qualified column : Record.Action E Value) := by
  refine MadeOf.bind MadeOf.current fun r => ?_
  dsimp only
  split
  · exact MadeOf.pure _
  · refine MadeOf.bind (hA.madeOf_inHeap fun h => Heap.keeps_contains h _ column) fun found => ?_
    split
    · exact MadeOf.pure _
    · exact MadeOf.bind (madeOf_displayed _) fun _ => MadeOf.bind (madeOf_displayed _) fun _ => MadeOf.pure _

theorem madeOf_compareAll (kind : ConditionKind) (operator : String) (pairs : List (Value × Value)) :
    MadeOf C A (compareAll kind operator pairs : Record.Action E Unit) := by
  refine MadeOf.forM fun pair _ => ?_
  refine MadeOf.bind (hA.madeOf_qualified _) fun column => MadeOf.bind (hA.madeOf_quote column) fun quoted => ?_
  exact MadeOf.bind MadeOf.heap fun _ => madeOf_addCondition kind _

theorem madeOf_amongAll (kind : ConditionKind) (operator : String) (inlined : Value)
    (pairs : List (Value × Value)) :
    MadeOf C A (amongAll kind operator inlined pairs : Record.Action E Unit) := by
  refine MadeOf.forM fun pair _ => ?_
  refine MadeOf.bind (hA.madeOf_inHeap fun h => ?_) fun written => ?_
  · exact Keeps.bind (keeps_candidates h _) fun fields => keeps_placeholders h inlined fields
  · exact MadeOf.bind (hA.madeOf_quote _) fun _ => madeOf_addCondition kind _

theorem madeOf_testedColumns (column : Value) :
    MadeOf C A (testedColumns column : Record.Action E (List Value)) := by
  unfold testedColumns
  split
  · exact MadeOf.pure _
  · exact hA.madeOf_inHeap fun h => Heap.keeps_items h column

theorem madeOf_operatorFor (operator column : Value) :
    MadeOf C A (operatorFor operator column : Record.Action E String) := by
  refine MadeOf.bind MadeOf.heap fun h => ?_
  split
  · exact MadeOf.pure _
  · exact madeOf_displayed _
  · refine MadeOf.bind (hA.madeOf_inHeap fun h => Heap.keeps_entryOf? h column _) fun found => ?_
    split
    · exact madeOf_displayed _
    · exact MadeOf.pure _
  · split <;> exact MadeOf.throw _
  · exact MadeOf.throw _

theorem madeOf_groupComparison (operator : Value) (pair : Value × Value) :
    MadeOf C A (groupComparison operator pair : Record.Action E Comparison) :=
  MadeOf.bind (hA.madeOf_operatorFor operator _) fun _ => MadeOf.bind (hA.madeOf_quote _) fun _ => MadeOf.pure _

omit hA in
theorem madeOf_groupEntries (group : Value) :
    MadeOf C A (groupEntries group : Record.Action E (List (Value × Value))) := by
  refine MadeOf.bind MadeOf.heap fun h => ?_
  split
  · exact MadeOf.pure _
  · exact MadeOf.throw _

theorem madeOf_anyOfGroups (kind : ConditionKind) (groups : List (List (Value × Value))) :
    MadeOf C A (anyOfGroups kind groups : Record.Action E Unit) := by
  refine MadeOf.bind (MadeOf.mapM fun group _ => ?_) fun _ => madeOf_addCondition kind _
  exact MadeOf.mapM fun pair _ => hA.madeOf_groupComparison _ pair

theorem madeOf_condition (kind : ConditionKind) (call : ConditionCall) :
    MadeOf C A (condition kind call : Record.Action E Unit) := by
  cases call with
  | verbatim text values => exact MadeOf.bind MadeOf.heap fun _ => madeOf_addCondition kind _
  | compare operator column value =>
      exact MadeOf.bind (madeOf_columnsWith column value) fun _ => hA.madeOf_compareAll kind operator _
  | among operator column values inlined =>
      refine MadeOf.bind MadeOf.heap fun h => ?_
      extract_lets adding
      have hadding : ∀ u, MadeOf C A (adding u : Record.Action E Unit) := fun _ =>
        MadeOf.bind (madeOf_columnsWith column values) fun _ => hA.madeOf_amongAll kind operator inlined _
      split
      · exact MadeOf.bind (hA.madeOf_inHeap fun h => Heap.keeps_requireKey h column) hadding
      · exact hadding ()
  | check operator column =>
      refine MadeOf.bind (hA.madeOf_testedColumns column) fun columns => MadeOf.forM fun column _ => ?_
      exact MadeOf.bind (hA.madeOf_quote column) fun _ => madeOf_addCondition kind _
  | anyOf groups operator =>
      refine MadeOf.bind MadeOf.heap fun h => MadeOf.bind (MadeOf.lift _) fun all => ?_
      refine MadeOf.bind (MadeOf.mapM fun group _ => ?_) fun _ => madeOf_addCondition kind _
      refine MadeOf.bind (hA.madeOf_inHeap fun h => Heap.keeps_skip h groups 1) fun _ => ?_
      refine MadeOf.bind (madeOf_groupEntries group) fun entries => ?_
      exact MadeOf.mapM fun pair _ => hA.madeOf_groupComparison operator pair

/-! ## Builder calls -/

theorem madeOf_addNamed (column : String) (asName : Value) :
    MadeOf C A (addNamed column asName : Record.Action E Unit) :=
  MadeOf.bind (hA.madeOf_quote asName) fun _ => madeOf_changeQuery _

theorem madeOf_select (column asName : Value) : MadeOf C A (select column asName : Record.Action E Unit) := by
  refine MadeOf.bind (hA.madeOf_quote column) fun quoted => ?_
  split
  · exact madeOf_changeQuery _
  · exact hA.madeOf_addNamed quoted asName

theorem madeOf_selectExpr (text asName : Value) :
    MadeOf C A (selectExpr text asName : Record.Action E Unit) := by
  unfold selectExpr
  split
  · exact madeOf_changeQuery _
  · exact MadeOf.bind (madeOf_displayed text) fun shown => hA.madeOf_addNamed shown asName

theorem madeOf_allColumnsOf (arguments : List Value) :
    MadeOf C A (allColumnsOf arguments : Record.Action E (List (Value × Value))) := by
  refine MadeOf.bind (hA.madeOf_inHeap fun h => ?_) fun _ => MadeOf.pure _
  exact Keeps.mapM fun argument _ => keeps_columnsOf h argument

theorem madeOf_joinConstraint (constraint : Value) :
    MadeOf C A (joinConstraint constraint : Record.Action E String) := by
  unfold joinConstraint
  split
  · exact MadeOf.pure _
  · refine MadeOf.bind (.inWorld (hA.onLength constraint))
      fun length => ?_
    extract_lets writing
    have hwriting : ∀ u, MadeOf C A (writing u : Record.Action E String) := by
      intro u
      refine MadeOf.bind (hA.madeOf_inHeap fun h => Heap.keeps_items h constraint) fun items => ?_
      split
      · refine MadeOf.bind (hA.madeOf_quote _) fun first => MadeOf.bind (madeOf_displayed _) fun word => ?_
        exact MadeOf.bind (hA.madeOf_quote _) fun _ => MadeOf.pure _
      · exact MadeOf.throw _
    split
    · exact MadeOf.bind MadeOf.heap fun _ => MadeOf.bind (MadeOf.throw _) hwriting
    · exact hwriting ()

theorem madeOf_joinTarget (table : String) (asName : Value) :
    MadeOf C A (joinTarget table asName : Record.Action E String) := by
  unfold joinTarget
  split
  · exact MadeOf.pure _
  · exact MadeOf.bind (hA.madeOf_quote asName) fun _ => MadeOf.pure _

theorem madeOf_join (kind : JoinKind) (table constraint asName : Value) :
    MadeOf C A (join kind table constraint asName : Record.Action E Unit) := by
  refine MadeOf.bind (hA.madeOf_quote table) fun quoted => ?_
  refine MadeOf.bind (hA.madeOf_joinTarget quoted asName) fun target => ?_
  exact MadeOf.bind (hA.madeOf_joinConstraint constraint) fun _ => madeOf_changeQuery _

theorem madeOf_rawJoin (table constraint asName params : Value) :
    MadeOf C A (rawJoin table constraint asName params : Record.Action E Unit) := by
  refine MadeOf.bind (madeOf_displayed table) fun shown => ?_
  refine MadeOf.bind (hA.madeOf_joinTarget shown asName) fun target => ?_
  refine MadeOf.bind (hA.madeOf_joinConstraint constraint) fun condition => ?_
  exact MadeOf.bind (hA.madeOf_inHeap fun h => Heap.keeps_items h params) fun _ => madeOf_changeQuery _

theorem madeOf_keyIs (kind : ConditionKind) (id : Value) :
    MadeOf C A (keyIs kind id : Record.Action E Unit) := by
  refine MadeOf.bind hA.madeOf_key fun key => ?_
  split
  · exact hA.madeOf_condition kind _
  · exact MadeOf.bind (hA.madeOf_inHeap fun h => keeps_keyParts h _ id) fun _ => hA.madeOf_compareAll kind _ _

omit hA in
theorem madeOf_inlinedFields : MadeOf C A (inlinedFields : Record.Action E Value) :=
  MadeOf.bind MadeOf.current fun _ => MadeOf.pure _

theorem madeOf_keyIn (ids : Value) : MadeOf C A (keyIn ids : Record.Action E Unit) := by
  refine MadeOf.bind hA.madeOf_key fun key => ?_
  split
  · refine MadeOf.bind (hA.madeOf_inHeap fun h => Heap.keeps_items h ids) fun items => ?_
    exact MadeOf.bind madeOf_inlinedFields fun _ => hA.madeOf_condition _ _
  · refine MadeOf.bind (hA.madeOf_inHeap fun h => ?_) fun groups => hA.madeOf_anyOfGroups _ groups
    exact Heap.keeps_forItems h ids fun id => keeps_keyParts h _ id

theorem madeOf_build (call : BuilderCall) : MadeOf C A (build call : Record.Action E Unit) := by
  cases call with
  | select column asName => exact hA.madeOf_select column asName
  | selectExpr text asName => exact hA.madeOf_selectExpr text asName
  | selectMany columns =>
      exact MadeOf.bind (hA.madeOf_allColumnsOf columns) fun _ => MadeOf.forM fun e _ => hA.madeOf_select e.1 e.2
  | selectManyExpr texts =>
      exact MadeOf.bind (hA.madeOf_allColumnsOf texts) fun _ =>
        MadeOf.forM fun e _ => hA.madeOf_selectExpr e.1 e.2
  | distinct => exact madeOf_changeQuery fun q => { q with distinct := true }
  | tableAlias asName => exact madeOf_changeQuery fun q => { q with tableAlias := asName.toOption }
  | join kind table constraint asName => exact hA.madeOf_join kind table constraint asName
  | rawJoin table constraint asName params => exact hA.madeOf_rawJoin table constraint asName params
  | condition kind call => exact hA.madeOf_condition kind call
  | among kind operator column values =>
      exact MadeOf.bind madeOf_inlinedFields fun _ => hA.madeOf_condition kind _
  | keyIs kind id => exact hA.madeOf_keyIs kind id
  | keyIn ids => exact hA.madeOf_keyIn ids
  | groupBy column => exact MadeOf.bind (hA.madeOf_quote column) fun _ => madeOf_changeQuery _
  | groupByExpr text => exact madeOf_changeQuery _
  | orderBy column descending => exact MadeOf.bind (hA.madeOf_quote column) fun _ => madeOf_changeQuery _
  | orderByExpr text => exact madeOf_changeQuery _
  | limit n => exact madeOf_changeQuery fun q => { q with limit := n.toOption }
  | offset n => exact madeOf_changeQuery fun q => { q with offset := n.toOption }
  | raw text params =>
      exact MadeOf.bind (hA.madeOf_inHeap fun h => keeps_rawParams h params) fun _ => madeOf_changeQuery _

/-! ## Statements -/

theorem madeOf_readyQuery : MadeOf C A (readyQuery : Record.Action E Query) := by
  refine MadeOf.bind MadeOf.current fun r => MadeOf.bind MadeOf.heap fun h => ?_
  dsimp only
  split
  · exact MadeOf.bind (hA.madeOf_inHeap fun h => Heap.keeps_identifier h _) fun _ => MadeOf.pure _
  · exact MadeOf.pure _

theorem madeOf_compileSelect : MadeOf C A (compileSelect : Record.Action E Sql) :=
  MadeOf.bind hA.madeOf_rendering fun _ => MadeOf.bind hA.madeOf_readyQuery fun _ => MadeOf.lift _

omit hA in
theorem madeOf_readyChanges : MadeOf C A (readyChanges : Record.Action E Changes) :=
  MadeOf.bind MadeOf.current fun _ => MadeOf.bind MadeOf.heap fun _ => MadeOf.pure _

theorem madeOf_addFields (row : Value) : MadeOf C A (addFields row : Record.Action E Unit) := by
  refine MadeOf.bind MadeOf.heap fun h => ?_
  split
  · exact madeOf_changeRow _
  · refine MadeOf.bind (hA.madeOf_inHeap fun h => Heap.keeps_items h row) fun pairs => ?_
    refine MadeOf.forM fun pair _ => ?_
    exact MadeOf.bind (hA.madeOf_inHeap fun h => Heap.keeps_pair h pair) fun _ => madeOf_changeRow _

theorem madeOf_insertion (r : Rendering) (keyColumns : List Value) :
    MadeOf C A (insertion r keyColumns : Record.Action E Sql) := by
  refine MadeOf.bind madeOf_readyChanges fun changes => ?_
  refine MadeOf.bind (hA.madeOf_inHeap fun h => keeps_quotedAll r _ h) fun fields => ?_
  refine MadeOf.bind (hA.madeOf_inHeap fun h => keeps_returnedColumns r keyColumns h) fun returning => ?_
  exact MadeOf.bind MadeOf.current fun _ => MadeOf.pure _

theorem madeOf_updating (r : Rendering) (keyColumns : List Value) :
    MadeOf C A (updating r keyColumns : Record.Action E Sql) := by
  refine MadeOf.bind hA.madeOf_keyValues fun values => MadeOf.bind madeOf_readyChanges fun changes => ?_
  refine MadeOf.bind (hA.madeOf_inHeap fun h => keeps_quotedAll r _ h) fun fields => ?_
  refine MadeOf.bind (hA.madeOf_inHeap fun h => keeps_quotedAll r keyColumns h) fun columns => ?_
  exact MadeOf.bind MadeOf.current fun _ => MadeOf.pure _

end Covers

namespace CoversAll

variable {C : String → Prop} {A : ActionFamily E} (hA : CoversAll C A)
include hA

/-! ## Reading -/

theorem madeOf_rows : MadeOf C A (rows : Record.Action E (List Value)) := by
  refine MadeOf.bind hA.toCovers.madeOf_compileSelect fun sql => .bindCurrent fun r hr => ?_
  exact MadeOf.bind (.inWorld (hA.onRead hr _ _ _)) fun _ =>
    MadeOf.bind (Covers.madeOf_changeQuery _) fun _ => MadeOf.pure _

theorem madeOf_ofRow (row : Value) : MadeOf C A (ofRow row : Record.Action E Record) := by
  refine .bindCurrent fun r hr => ?_
  obtain ⟨R, hdriver, -⟩ := hA.onDriver hr
  exact MadeOf.bind (MadeOf.bind (.inWorld hdriver) fun _ => MadeOf.pure _) fun _ =>
    MadeOf.bind (.inWorld (hA.onRow row)) fun _ => MadeOf.pure _

theorem madeOf_findMany : MadeOf C A (findMany : Record.Action E (List Record)) :=
  MadeOf.bind hA.madeOf_rows fun _ => MadeOf.mapM fun row _ => hA.madeOf_ofRow row

theorem madeOf_findOne (id : Value) : MadeOf C A (findOne id : Record.Action E (Option Record)) := by
  unfold findOne
  extract_lets seeking
  have hseeking : ∀ u, MadeOf C A (seeking u : Record.Action E (Option Record)) := by
    intro u
    refine MadeOf.bind (hA.toCovers.madeOf_build _) fun _ => MadeOf.bind hA.madeOf_rows fun rows => ?_
    split
    · exact MadeOf.pure _
    · exact MadeOf.bind (hA.madeOf_ofRow _) fun _ => MadeOf.pure _
  split
  · exact MadeOf.bind (hA.toCovers.madeOf_keyIs _ id) hseeking
  · exact hseeking ()

theorem madeOf_givesResultSet : MadeOf C A (givesResultSet : Record.Action E Bool) := by
  refine .bindCurrent fun r hr => ?_
  exact hA.toCovers.madeOf_bindSettings hr (fun _ => rfl) fun _ => MadeOf.pure _

theorem madeOf_aggregate (aggregation : Aggregation) (column : Value) :
    MadeOf C A (aggregate aggregation column : Record.Action E Value) := by
  have hargument : MadeOf C A (aggregateArgument column : Record.Action E String) := by
    unfold aggregateArgument
    split
    · exact MadeOf.pure _
    · exact hA.toCovers.madeOf_quote column
  refine MadeOf.bind hargument fun argument => MadeOf.bind MadeOf.current fun saved => ?_
  refine MadeOf.bind (Covers.madeOf_changeQuery _) fun _ => ?_
  refine MadeOf.bind (hA.toCovers.madeOf_selectExpr _ _) fun _ => ?_
  refine MadeOf.bind ?_ fun found => ?_
  · exact MadeOf.restoring (f := fun r => { r with query := { r.query with
      columns := saved.query.columns, usesDefaultColumns := saved.query.usesDefaultColumns } })
      (hA.madeOf_findOne .null) fun _ => rfl
  · split
    · exact MadeOf.pure _
    · unfold coerced
      split
      · exact MadeOf.pure _
      · exact MadeOf.lift _

/-! ## Writing -/

theorem madeOf_executeWrite (sql : Sql) : MadeOf C A (executeWrite sql : Record.Action E Statement) := by
  refine .bindCurrent fun r hr => ?_
  refine MadeOf.bind (.inWorld (hA.onExecute hr _ _)) fun statement => MadeOf.bind ?_ fun _ => MadeOf.pure _
  refine .bindCurrent fun r hr => ?_
  refine hA.toCovers.madeOf_bindSettings hr (fun _ => rfl) fun settings => ?_
  split
  · exact .inWorld (hA.onClearCache hr _)
  · exact MadeOf.pure _

theorem madeOf_fillKey (keyColumns : List Value) (statement : Statement) :
    MadeOf C A (fillKey keyColumns statement : Record.Action E Unit) := by
  refine .bindCurrent fun r hr => ?_
  refine MadeOf.bind (.inWorld (hA.onDialect hr)) fun dialect => ?_
  split
  · refine MadeOf.bind (.inWorld (hA.onFetchRow statement)) fun row => ?_
    split
    · exact hA.toCovers.madeOf_addFields _
    · exact MadeOf.pure _
  · obtain ⟨R, hdriver, hlast⟩ := hA.onDriver hr
    refine .bindInWorld hdriver fun d hd => MadeOf.bind (.inWorld (hlast d hd)) fun id => ?_
    split
    · exact MadeOf.throw _
    · exact MadeOf.bind (hA.toCovers.madeOf_inHeap fun h => Heap.keeps_requireKey h _) fun _ =>
        Covers.madeOf_changeRow _

theorem madeOf_saveWith (keyColumns : List Value) (sql : Sql) :
    MadeOf C A (saveWith keyColumns sql : Record.Action E Unit) := by
  refine MadeOf.bind (hA.madeOf_executeWrite sql) fun statement => MadeOf.bind MadeOf.current fun r => ?_
  extract_lets finishing
  have hfinishing : ∀ u, MadeOf C A (finishing u : Record.Action E Unit) := fun _ =>
    Covers.madeOf_changeRow _
  split
  · refine MadeOf.bind (Covers.madeOf_changeRow _) fun _ => ?_
    refine MadeOf.bind hA.toCovers.madeOf_nullKeyCount fun count => ?_
    split
    · exact MadeOf.bind (hA.madeOf_fillKey keyColumns statement) hfinishing
    · exact hfinishing ()
  · exact hfinishing ()

theorem madeOf_save : MadeOf C A (save : Record.Action E Unit) := by
  refine MadeOf.bind hA.toCovers.madeOf_rendering fun rendering => ?_
  refine MadeOf.bind hA.toCovers.madeOf_key fun key => MadeOf.bind MadeOf.current fun r => ?_
  dsimp only
  split
  · exact MadeOf.bind (hA.toCovers.madeOf_insertion rendering _) fun sql => hA.madeOf_saveWith _ sql
  · split
    · exact MadeOf.bind (hA.toCovers.madeOf_updating rendering _) fun sql => hA.madeOf_saveWith _ sql
    · exact MadeOf.pure _

theorem madeOf_delete : MadeOf C A (delete : Record.Action E Unit) := by
  refine MadeOf.bind hA.toCovers.madeOf_rendering fun rendering => ?_
  refine MadeOf.bind hA.toCovers.madeOf_key fun key => MadeOf.bind hA.toCovers.madeOf_keyValues fun values => ?_
  refine MadeOf.bind (hA.toCovers.madeOf_inHeap fun h => keeps_quotedAll rendering _ h) fun columns => ?_
  refine MadeOf.bind MadeOf.current fun r => ?_
  exact MadeOf.bind (hA.madeOf_executeWrite _) fun _ => MadeOf.pure _

theorem madeOf_deleteMany : MadeOf C A (deleteMany : Record.Action E Unit) := by
  refine MadeOf.bind hA.toCovers.madeOf_rendering fun rendering => MadeOf.bind MadeOf.current fun r => ?_
  refine MadeOf.bind (MadeOf.lift _) fun sql => ?_
  exact MadeOf.bind (hA.madeOf_executeWrite sql) fun _ => MadeOf.pure _

/-! ## All calls -/

/-- **Every call of a record is made of actions of its connection.** -/
theorem madeOf_perform (call : Call) : MadeOf C A (perform call : Record.Action E Outcome) := by
  have hbase := hA.toCovers
  cases call with
  | build call => exact MadeOf.bind (hbase.madeOf_build call) fun _ => MadeOf.pure _
  | create data => exact MadeOf.bind (hbase.madeOf_create data) fun _ => MadeOf.pure _
  | hydrate data => exact MadeOf.bind (hbase.madeOf_hydrate data) fun _ => MadeOf.pure _
  | forceAllDirty => exact MadeOf.bind (Covers.madeOf_changeRow _) fun _ => MadeOf.pure _
  | useKey key => exact MadeOf.bind (hbase.madeOf_useKey key) fun _ => MadeOf.pure _
  | write key value asSql => exact MadeOf.bind (hbase.madeOf_write key value asSql) fun _ => MadeOf.pure _
  | findOne id => exact MadeOf.bind (hA.madeOf_findOne id) fun _ => MadeOf.pure _
  | findMany =>
      refine MadeOf.bind hA.madeOf_givesResultSet fun gives => ?_
      split <;> exact MadeOf.bind hA.madeOf_findMany fun _ => MadeOf.pure _
  | findResultSet => exact MadeOf.bind hA.madeOf_findMany fun _ => MadeOf.pure _
  | findArray => exact MadeOf.bind hA.madeOf_rows fun _ => MadeOf.pure _
  | aggregate aggregation column =>
      exact MadeOf.bind (hA.madeOf_aggregate aggregation column) fun _ => MadeOf.pure _
  | compileSelect => exact MadeOf.bind hbase.madeOf_compileSelect fun _ => MadeOf.pure _
  | valueAt key => exact MadeOf.bind (hbase.madeOf_valueAt key) fun _ => MadeOf.pure _
  | dataAt names => exact MadeOf.bind (hbase.madeOf_dataAt names) fun _ => MadeOf.pure _
  | isDirty key =>
      refine MadeOf.bind MadeOf.current fun r => ?_
      exact MadeOf.bind (hbase.madeOf_inHeap fun h => Heap.keeps_hasKey h key _) fun _ => MadeOf.pure _
  | isNew => exact MadeOf.bind MadeOf.current fun _ => MadeOf.pure _
  | keyValue disallowNull =>
      refine MadeOf.bind (.inWorld (hA.onTruth disallowNull)) fun counts => ?_
      split
      · exact MadeOf.bind hbase.madeOf_presentKeyValue fun _ => MadeOf.pure _
      · exact MadeOf.bind hbase.madeOf_keyValue fun _ => MadeOf.pure _
  | nullKeyCount => exact MadeOf.bind hbase.madeOf_nullKeyCount fun _ => MadeOf.pure _
  | save => exact MadeOf.bind hA.madeOf_save fun _ => MadeOf.pure _
  | delete => exact MadeOf.bind hA.madeOf_delete fun _ => MadeOf.pure _
  | deleteMany => exact MadeOf.bind hA.madeOf_deleteMany fun _ => MadeOf.pure _

end CoversAll

end FluentSql.Record
