import FluentSql.Proofs.Connection.Registering
import FluentSql.Proofs.Connection.Detached
import FluentSql.Proofs.Operation
import FluentSql.Proofs.Record.Makeup
/-
# FluentSql.Proofs.Operation.Upkeep — properties of sessions that statements keep.

Reading, writing and executing statements changes nothing of how statements are written, except that a driver
may be opened and a dialect made for it. So a property of what decides how statements are written, which opening
drivers and making dialects keeps, is kept by everything that connections and their records do
(`keeps_callRecord`), provided that the functions of the caller do nothing else.
-/

namespace FluentSql

open Step (Keeps Triple)

namespace Connection

open Session (change inHeap outside)

variable {E : Environment} {α : Type}

/-! ## What a connection and its records do -/

namespace IgnoresStatements

variable {P : World E.State → Prop}

theorem keeps_dialect {connection : String} (hmade : Keeps P (madeDialect connection)) :
    Keeps P (dialect connection : Action E Dialect) := Keeps.bind hmade fun _ => Keeps.pure _

theorem keeps_quoteMark {connection : String} (hdriver : Keeps P (driver connection))
    (hmade : Keeps P (madeDialect connection)) : Keeps P (quoteMark connection : Action E String) :=
  keeps_quoteMark_of hdriver (keeps_dialect hmade)

theorem keeps_rendering {connection : String} (hdriver : Keeps P (driver connection))
    (hmade : Keeps P (madeDialect connection)) : Keeps P (rendering connection : Action E Rendering) :=
  keeps_rendering_of (keeps_dialect hmade) (keeps_quoteMark hdriver hmade)

/-- The actions that keep a property of the world. Nothing is known of their results. -/
def sustained (E : Environment) (P : World E.State → Prop) : Record.ActionFamily E := fun _ action R =>
  (∀ a, R a) ∧ Keeps P action

variable (hP : IgnoresStatements P) (hcall : ∀ hook call, Keeps P (E.call hook call))
include hP hcall

theorem coversAll {C : String → Prop} (hdriver : ∀ {c}, C c → Keeps P (driver c))
    (hmade : ∀ {c}, C c → Keeps P (madeDialect c)) : Record.CoversAll C (sustained E P) where
  onHeap _ hstep := ⟨fun _ => trivial, hP.streams.keeps_inHeap hstep⟩
  onLength v := ⟨fun _ => trivial, Connection.keeps_length v⟩
  onRow data := ⟨fun _ => trivial, hP.streams.keeps_rowOf data⟩
  onSettings _ := ⟨fun _ => trivial, Keeps.bind (Session.keeps_settings _) fun _ => Keeps.pure _⟩
  onQuote hc identifier :=
    ⟨fun _ => trivial, hP.streams.keeps_quote_of (keeps_quoteMark (hdriver hc) (hmade hc)) identifier⟩
  onRendering hc := ⟨fun _ => trivial, keeps_rendering (hdriver hc) (hmade hc)⟩
  onTruth v := ⟨fun _ => trivial, Connection.keeps_isTrue v⟩
  onFetchRow _ := ⟨fun _ => trivial, hP.streams.keeps_fetchRow_of (hP.keeps_fetched _ _)⟩
  onDialect hc := ⟨fun _ => trivial, keeps_dialect (hmade hc)⟩
  onDriver hc := ⟨fun _ => True, ⟨fun _ => trivial, hdriver hc⟩, fun d _ => ⟨fun _ => trivial, hP.keeps_lastInsertId d⟩⟩
  onExecute hc sql params := ⟨fun _ => trivial, hP.keeps_execute hcall (hdriver hc) sql params⟩
  onRead hc sql params table := ⟨fun _ => trivial, hP.keeps_read hcall (hdriver hc) sql params table⟩
  onClearCache _ table := ⟨fun _ => trivial, hP.keeps_clearCache hcall table _⟩

/-- Whatever record it is and whatever happens to it, a call keeps a property that has nothing to do with the heap. -/
theorem keeps_act (hheap : ∀ {w} heap, P w → P { w with heap := heap })
    (hdriver : ∀ connection, Keeps P (driver connection)) (hmade : ∀ connection, Keeps P (madeDialect connection))
    (id : Nat) (r : Record) (call : Record.Call) :
    Keeps P (Record.act id r (Record.perform call) : Action E Record.Outcome) := by
  have hpublished : ∀ {s : Record.Scope E}, P s.world → P s.published := by
    intro s hs
    unfold Record.Scope.published
    split
    · exact hheap _ hs
    · exact hs
  have hcall : Keeps (fun s : Record.Scope E => P s.world) (Record.perform call) := by
    have hmadeOf := (hP.coversAll hcall (C := fun _ => True) (fun _ => hdriver _) fun _ => hmade _).madeOf_perform call
    refine hmadeOf.keeps (fun _ _ => trivial) (fun _ _ hs _ => hs) ?_
    intro α action R haction
    refine Triple.of_states fun s hs => Triple.onPart s haction.2 (hpublished hs) ?_ ?_
    · exact fun a w hw => ⟨(congrArg P (s.world_renewed w)).mpr hw, haction.1 a⟩
    · exact fun w hw => (congrArg P (s.world_renewed w)).mpr hw
  exact Triple.of_states fun w hw => Triple.onPart w hcall hw (fun _ s hs => hpublished hs) fun s hs => hpublished hs

end IgnoresStatements

/-- What the caller gets of the outcome of a call only takes room in the heap. -/
theorem keeps_shareOutcome_of {P : World E.State → Prop} (hheap : ∀ {w} heap, P w → P { w with heap := heap })
    (self : Value) (outcome : Record.Outcome) : Keeps P (Object.shareOutcome self outcome : Action E Value) := by
  have hnew : ∀ rs : List Record, Keeps P (rs.mapM Object.newRecord : Action E (List Value)) :=
    fun _ => Keeps.mapM fun _ _ => Session.keeps_inHeap_any hheap _
  match outcome with
  | .itself | .value _ | .record none => exact Keeps.pure _
  | .record (some r) => exact Session.keeps_inHeap_any hheap _
  | .records rs => exact Keeps.bind (hnew rs) fun _ => Keeps.pure _
  | .resultSet rs => exact Keeps.bind (hnew rs) fun _ => Session.keeps_inHeap_any hheap _
  | .sql sql => exact Keeps.bind (Session.keeps_inHeap_any hheap _) fun _ => Session.keeps_inHeap_any hheap _

/-- A call of a record does what the record does, and gives the caller the outcome. -/
theorem keeps_callRecord_of {P : World E.State → Prop} (hheap : ∀ {w} heap, P w → P { w with heap := heap })
    {connection : String} {number : Nat} {asked : Record.Call}
    (hact : ∀ w (r : Record), P w → w.heap.cell? number = some (.record r) → r.connection = connection →
      Triple (· = w) (Record.act number r (Record.perform asked) : Action E Record.Outcome) (fun _ => P) P) :
    Keeps P (Operation.callRecord connection number asked : Action E Value) := by
  refine Triple.bindGet fun w hw => ?_
  split
  · rename_i r hr
    split
    · rename_i hconnection
      exact Triple.bind (hact w r hw hr hconnection) fun _ => keeps_shareOutcome_of hheap _ _
    · exact Triple.throw fun _ ht => ht ▸ hw
  · exact Triple.throw fun _ ht => ht ▸ hw

/-- Whatever record is called, such a property is kept that has nothing to do with the heap either. -/
theorem IgnoresStatements.keeps_callRecord {P : World E.State → Prop} (hP : IgnoresStatements P)
    (hcall : ∀ hook call, Keeps P (E.call hook call)) (hheap : ∀ {w} heap, P w → P { w with heap := heap })
    (hdriver : ∀ connection, Keeps P (driver connection)) (hmade : ∀ connection, Keeps P (madeDialect connection))
    (connection : String) (number : Nat) (asked : Record.Call) :
    Keeps P (Operation.callRecord connection number asked : Action E Value) :=
  keeps_callRecord_of hheap fun _ r hw _ _ =>
    (hP.keeps_act hcall hheap hdriver hmade number r asked).pre fun _ ht => ht ▸ hw

/-! ## Options -/

section

variable {P : World E.State → Prop} {connection : String} (hheap : ∀ {w} heap, P w → P { w with heap := heap })
  (hset : ∀ {w} settings, P w → P { w with session := w.session.withSettings connection settings })
include hheap hset

/-- A property that has nothing to do with the heap and with what is set on the connection. -/
theorem keeps_configure_of (key : Value) (value : Option Value) :
    Keeps P (configure connection key value : Action E Unit) := by
  have hone : ∀ key value, Keeps P (configureOne connection key value : Action E Unit) := by
    intro key value
    refine Keeps.bind Keeps.get fun _ => Keeps.bind (Keeps.lift _) fun setting => ?_
    refine Keeps.bind (Session.keeps_inHeap_any hheap _) fun given => ?_
    refine Keeps.bind (Session.keeps_settings connection) fun settings => ?_
    split
    · exact Session.triple_change fun _ hw => hset _ hw
    · exact Keeps.throw _
  refine Keeps.bind Keeps.get fun w => ?_
  split
  · exact Keeps.forM fun e _ => hone e.1 e.2
  · exact hone _ _
  · exact hone _ _

theorem keeps_setting_of (key : Value) : Keeps P (setting connection key : Action E Value) := by
  refine Keeps.bind Keeps.get fun _ => Keeps.bind (Keeps.lift _) fun setting => ?_
  refine Keeps.bind (Session.keeps_settings connection) fun settings => ?_
  refine Keeps.bind (Session.keeps_inHeap_any hheap _) fun value => ?_
  exact Keeps.bind (Session.triple_change fun _ hw => hset _ hw) fun _ => Keeps.pure _

omit hheap hset in
theorem keeps_allSettings_of : Keeps P (allSettings connection : Action E Value) := by
  refine Keeps.bind (Session.keeps_settings connection) fun settings => Keeps.bind Keeps.get fun w => ?_
  exact Keeps.bind (Keeps.mapM fun _ _ => Keeps.bind (Keeps.lift _) fun _ => Keeps.pure _) fun _ => Keeps.pure _

/-- Whatever is asked of a connection keeps such a property, if registering and looking for drivers does, and forgetting
the driver is not what is asked. -/
theorem IgnoresStatements.keeps_perform (hP : IgnoresStatements P) (hcall : ∀ hook call, Keeps P (E.call hook call))
    (hdriver : Keeps P (driver connection)) (hmade : Keeps P (madeDialect connection))
    (hregister : ∀ d, Keeps P (registerDriver connection d))
    (hrecord : ∀ number asked, Keeps P (Operation.callRecord connection number asked))
    {operation : Operation} (hstays : operation ≠ .setDriver none) :
    Keeps P (operation.perform connection : Action E Operation.Answer) := by
  match operation with
  | .configure key value => exact Keeps.bind (keeps_configure_of hheap hset key value) fun _ => Keeps.pure _
  | .setting key => exact Keeps.bind (keeps_setting_of hheap hset key) fun _ => Keeps.pure _
  | .allSettings => exact Keeps.bind keeps_allSettings_of fun _ => Keeps.pure _
  | .setDriver (some d) => exact Keeps.bind (hregister d) fun _ => Keeps.pure _
  | .setDriver none => exact absurd rfl hstays
  | .driver => exact Keeps.bind hdriver fun _ => Keeps.pure _
  | .rendering => exact Keeps.bind (keeps_rendering hdriver hmade) fun _ => Keeps.pure _
  | .quote identifier =>
      exact Keeps.bind (hP.streams.keeps_quote_of (keeps_quoteMark hdriver hmade) identifier) fun _ => Keeps.pure _
  | .forTable table =>
      refine Keeps.bind (Keeps.bind (Keeps.bind hdriver fun _ => Keeps.pure _) fun _ => ?_) fun _ => Keeps.pure _
      exact Session.keeps_inHeap_any hheap _
  | .call number asked => exact Keeps.bind (hrecord number asked) fun _ => Keeps.pure _
  | .execute sql params => exact Keeps.bind (hP.keeps_execute hcall hdriver sql params) fun _ => Keeps.pure _
  | .clearCache table => exact Keeps.bind (hP.keeps_clearCache hcall table connection) fun _ => Keeps.pure _
  | .queryLog => exact Keeps.bind Session.keeps_current fun _ => Keeps.pure _
  | .lastQuery => exact Keeps.bind Session.keeps_current fun _ => Keeps.pure _

end

/-! ## Properties of sessions -/

/-- A property of how sessions write statements, which looking for drivers and dialects keeps. -/
structure IsUpkept (E : Environment) (K : Session → Prop) : Prop where
  likewise : ∀ s s', s.WritesLike s' → K s → K s'
  driver : ∀ connection, Keeps (fun w : World E.State => K w.session) (driver connection)
  madeDialect : ∀ connection, Keeps (fun w : World E.State => K w.session) (madeDialect connection)

/-- The functions of the caller set no options, and register and forget no drivers: every property that is kept by
looking for drivers and dialects they keep too. They may execute statements of their own. -/
def SparesSettings (E : Environment) : Prop :=
  ∀ K, IsUpkept E K → ∀ hook call, Keeps (fun w : World E.State => K w.session) (E.call hook call)

namespace IsUpkept

variable {K : Session → Prop}

theorem keeps_inHeap (step : Step Heap α) :
    Keeps (fun w : World E.State => K w.session) (inHeap step : Action E α) :=
  Session.keeps_inHeap_any (fun _ hw => hw) step

theorem keeps_outside (transition : E.State → Except Failure α × E.State) :
    Keeps (fun w : World E.State => K w.session) (outside transition) := Session.keeps_outside fun hw => hw

theorem ignoresStreams : IgnoresStreams fun w : World E.State => K w.session := fun _ _ _ hw => hw

variable (hK : IsUpkept E K)
include hK

theorem ignoresStatements : IgnoresStatements fun w : World E.State => K w.session where
  streams := ignoresStreams
  session hl hw := hK.likewise _ _ hl hw
  sending _ _ _ _ hw := hw
  fetching _ _ _ hw := hw
  reporting _ _ hw := hw

/-! ## How statements are written -/

theorem keeps_quoteMark (connection : String) :
    Keeps (fun w : World E.State => K w.session) (quoteMark connection : Action E String) :=
  IgnoresStatements.keeps_quoteMark (hK.driver connection) (hK.madeDialect connection)

theorem keeps_quote (connection : String) (identifier : Value) :
    Keeps (fun w : World E.State => K w.session) (quote connection identifier : Action E String) :=
  ignoresStreams.keeps_quote_of (hK.keeps_quoteMark connection) identifier

theorem keeps_rendering (connection : String) :
    Keeps (fun w : World E.State => K w.session) (rendering connection : Action E Rendering) :=
  IgnoresStatements.keeps_rendering (hK.driver connection) (hK.madeDialect connection)

/-! ## Reading and writing -/

variable (hspares : SparesSettings E)
include hspares

theorem keeps_execute (connection : String) (sql params : Value) :
    Keeps (fun w : World E.State => K w.session) (execute connection sql params : Action E Statement) :=
  hK.ignoresStatements.keeps_execute (hspares K hK) (hK.driver connection) sql params

theorem keeps_clearCache (table : Value) (connection : String) :
    Keeps (fun w : World E.State => K w.session) (clearCache table connection : Action E Unit) :=
  hK.ignoresStatements.keeps_clearCache (hspares K hK) table connection

/-! ## Records -/

theorem keeps_callRecord (connection : String) (number : Nat) (asked : Record.Call) :
    Keeps (fun w : World E.State => K w.session)
      (Operation.callRecord connection number asked : Action E Value) :=
  hK.ignoresStatements.keeps_callRecord (hspares K hK) (fun _ hw => hw) hK.driver hK.madeDialect connection number
    asked

end IsUpkept

end Connection

end FluentSql
