import FluentSql.Proofs.Connection.Looks
import FluentSql.Proofs.Record.Makeup
/-
# FluentSql.Proofs.Record.Frame — what records do without executing statements.

Most of what a record does neither executes statements nor touches the cache: it builds its query, edits its
row, looks at its key and writes statements down. All of this keeps every property of the scope that
changes of the record and idle worlds keep (`IsFrame`).
-/

namespace FluentSql

open Step (Keeps Triple)

/-- The text of the statement is a text. -/
def Sql.IsText (sql : Sql) : Prop := ∃ text, sql.text = .text text

namespace Record

variable {E : Environment} {α : Type} {connection : String} {I : Scope E → Prop}

/-- A property of the scopes of a connection that changes of the record keep, and idle worlds. -/
structure IsFrame (connection : String) (I : Scope E → Prop) : Prop where
  ofConnection : ∀ s, I s → s.record.connection = connection
  driver : ∀ s, I s → ∃ d, Entries.get? connection s.world.session.drivers = some d
  record : ∀ s r, I s → r.connection = connection → I { s with record := r }
  world : ∀ s w, I s → s.published.Idles w → I (s.renewed w)

namespace IsFrame

variable (hI : IsFrame connection I)
include hI

/-! ## The record and its world -/

theorem triple_current :
    Triple I (current : Record.Action E Record) (fun r s => I s ∧ r.connection = connection) I :=
  fun s hs => ⟨hs, hI.ofConnection s hs⟩

theorem keeps_change {f : Record → Record} (hf : ∀ r : Record, (f r).connection = r.connection) :
    Keeps I (change f : Record.Action E Unit) :=
  Triple.modify fun s hs => hI.record s _ hs ((hf s.record).trans (hI.ofConnection s hs))

theorem keeps_changeQuery (f : Query → Query) : Keeps I (changeQuery f : Record.Action E Unit) :=
  hI.keeps_change fun _ => rfl

theorem keeps_changeRow (f : Changes → Changes) : Keeps I (changeRow f : Record.Action E Unit) :=
  hI.keeps_change fun _ => rfl

theorem keeps_inWorld {action : FluentSql.Action E α}
    (h : ∀ (w : World E.State) d, Entries.get? connection w.session.drivers = some d → Keeps w.Idles action) :
    Keeps I (inWorld action) := by
  refine Triple.of_states fun s hs => ?_
  obtain ⟨d, hd⟩ := hI.driver s hs
  rw [← Scope.session_published] at hd
  have hstart : Triple (· = s.published) action (fun _ => s.published.Idles) s.published.Idles :=
    (h s.published d hd).pre fun _ hw => hw ▸ World.Idles.refl _
  exact Triple.onPart s hstart rfl (fun _ w hw => hI.world s w hs hw) fun w hw => hI.world s w hs hw

theorem keeps_inHeap {step : Step Heap α} (h : ∀ h : Heap, Keeps h.Drains step) :
    Keeps I (inHeap step : Record.Action E α) :=
  hI.keeps_inWorld fun _ _ _ => Connection.keeps_inHeap h

theorem keeps_quote (identifier : Value) : Keeps I (quote identifier : Record.Action E String) := by
  refine Triple.bindKnown hI.triple_current ?_
  rintro r rfl
  exact hI.keeps_inWorld fun _ _ hd => Connection.keeps_quote_of_registered hd identifier

theorem keeps_rendering : Keeps I (rendering : Record.Action E Rendering) := by
  refine Triple.bindKnown hI.triple_current ?_
  rintro r rfl
  exact hI.keeps_inWorld fun _ _ hd => Connection.keeps_rendering_of_registered hd

theorem keeps_settings (connection : String) :
    Keeps I (inWorld (Connection.settings connection) : Record.Action E Settings) :=
  hI.keeps_inWorld fun _ _ _ => Session.keeps_settings connection

theorem keeps_current : Keeps I (current : Record.Action E Record) :=
  hI.triple_current.post fun _ _ hs => hs.1

/-! ## What is made of actions that idle -/

/-- The actions that idle where the connection has its driver. Nothing is known of their results. -/
def idle (connection : String) : ActionFamily E := fun _ action R =>
  (∀ a, R a) ∧ ∀ (w : World E.State) d, Entries.get? connection w.session.drivers = some d → Keeps w.Idles action

omit hI in
theorem covers_idle : Covers (· = connection) (idle (E := E) connection) where
  onHeap _ h := ⟨fun _ => trivial, fun _ _ _ => Connection.keeps_inHeap h⟩
  onLength v := ⟨fun _ => trivial, fun _ _ _ => Connection.keeps_length v⟩
  onRow data := ⟨fun _ => trivial, fun _ _ _ => Connection.keeps_rowOf data⟩
  onSettings _ := ⟨fun _ => trivial, fun _ _ _ => Keeps.bind (Session.keeps_settings _) fun _ => Keeps.pure _⟩
  onQuote hc identifier :=
    ⟨fun _ => trivial, fun _ _ hd => Connection.keeps_quote_of_registered (hc ▸ hd) identifier⟩
  onRendering hc := ⟨fun _ => trivial, fun _ _ hd => Connection.keeps_rendering_of_registered (hc ▸ hd)⟩

/-- What is made of actions that idle keeps the property. -/
theorem keeps_madeOf {step : Record.Action E α} (h : MadeOf (· = connection) (idle connection) step) :
    Keeps I step := by
  refine h.keeps hI.ofConnection ?_ ?_
  · exact fun s r hs hr => hI.record s r hs (hr.trans (hI.ofConnection s hs))
  · exact fun haction => (hI.keeps_inWorld haction.2).post fun a _ hs => ⟨hs, haction.1 a⟩

theorem keeps_create (data : Value) : Keeps I (create data : Record.Action E Unit) :=
  hI.keeps_madeOf (Covers.madeOf_create covers_idle data)

theorem keeps_hydrate (data : Value) : Keeps I (hydrate data : Record.Action E Unit) :=
  hI.keeps_madeOf (Covers.madeOf_hydrate covers_idle data)

theorem keeps_write (key value : Value) (asSql : Bool) :
    Keeps I (write key value asSql : Record.Action E Unit) :=
  hI.keeps_madeOf (Covers.madeOf_write covers_idle key value asSql)

theorem keeps_valueAt (key : Value) : Keeps I (valueAt key : Record.Action E Value) :=
  hI.keeps_madeOf (Covers.madeOf_valueAt covers_idle key)

theorem keeps_dataAt (names : List Value) : Keeps I (dataAt names : Record.Action E Row) :=
  hI.keeps_madeOf (Covers.madeOf_dataAt covers_idle names)

theorem keeps_useKey (key : Value) : Keeps I (useKey key : Record.Action E Unit) :=
  hI.keeps_madeOf (Covers.madeOf_useKey covers_idle key)

theorem keeps_key : Keeps I (key : Record.Action E KeyColumns) :=
  hI.keeps_madeOf (Covers.madeOf_key covers_idle)

theorem keeps_keyValue : Keeps I (keyValue : Record.Action E Value) :=
  hI.keeps_madeOf (Covers.madeOf_keyValue covers_idle)

theorem keeps_nullKeyCount : Keeps I (nullKeyCount : Record.Action E Nat) :=
  hI.keeps_madeOf (Covers.madeOf_nullKeyCount covers_idle)

theorem keeps_presentKeyValue : Keeps I (presentKeyValue : Record.Action E Value) :=
  hI.keeps_madeOf (Covers.madeOf_presentKeyValue covers_idle)

theorem keeps_keyValues : Keeps I (keyValues : Record.Action E (List Value)) :=
  hI.keeps_madeOf (Covers.madeOf_keyValues covers_idle)

theorem keeps_selectExpr (text asName : Value) : Keeps I (selectExpr text asName : Record.Action E Unit) :=
  hI.keeps_madeOf (Covers.madeOf_selectExpr covers_idle text asName)

theorem keeps_keyIs (kind : ConditionKind) (id : Value) : Keeps I (keyIs kind id : Record.Action E Unit) :=
  hI.keeps_madeOf (Covers.madeOf_keyIs covers_idle kind id)

theorem keeps_build (call : BuilderCall) : Keeps I (build call : Record.Action E Unit) :=
  hI.keeps_madeOf (Covers.madeOf_build covers_idle call)

theorem keeps_compileSelect : Keeps I (compileSelect : Record.Action E Sql) :=
  hI.keeps_madeOf (Covers.madeOf_compileSelect covers_idle)

theorem keeps_addFields (row : Value) : Keeps I (addFields row : Record.Action E Unit) :=
  hI.keeps_madeOf (Covers.madeOf_addFields covers_idle row)

omit hI in
theorem keeps_readyChanges : Keeps I (readyChanges : Record.Action E Changes) :=
  fun _ hs => hs

/-! ## Statements -/

theorem triple_insertion_isText (r : Rendering) (keyColumns : List Value) :
    Triple I (insertion r keyColumns : Record.Action E Sql) (fun sql s => I s ∧ sql.IsText) I := by
  refine Triple.bind keeps_readyChanges fun changes => ?_
  refine Triple.bind (hI.keeps_inHeap fun h => keeps_quotedAll r _ h) fun fields => ?_
  refine Triple.bind (hI.keeps_inHeap fun h => keeps_returnedColumns r keyColumns h) fun returning => ?_
  exact Triple.bind hI.keeps_current fun _ => Triple.pure fun _ hs => ⟨hs, _, rfl⟩

theorem triple_updating_isText (r : Rendering) (keyColumns : List Value) :
    Triple I (updating r keyColumns : Record.Action E Sql) (fun sql s => I s ∧ sql.IsText) I := by
  refine Triple.bind hI.keeps_keyValues fun values => Triple.bind keeps_readyChanges fun changes => ?_
  refine Triple.bind (hI.keeps_inHeap fun h => keeps_quotedAll r _ h) fun fields => ?_
  refine Triple.bind (hI.keeps_inHeap fun h => keeps_quotedAll r keyColumns h) fun columns => ?_
  exact Triple.bind hI.keeps_current fun _ => Triple.pure fun _ hs => ⟨hs, _, rfl⟩

/-- What a save sends is a text. -/
theorem triple_pendingWrite_isText :
    Triple I (pendingWrite : Record.Action E _)
      (fun pending s => I s ∧ ∀ keyColumns sql, pending = some (keyColumns, sql) → sql.IsText) I := by
  have hsome : ∀ (keyColumns : List Value) (sql : Sql) (s : Scope E), I s ∧ sql.IsText →
      I s ∧ ∀ keyColumns' sql', some (keyColumns, sql) = some (keyColumns', sql') → sql'.IsText := by
    rintro keyColumns sql s ⟨hs, hsql⟩
    refine ⟨hs, ?_⟩
    rintro _ _ ⟨⟩
    exact hsql
  refine Triple.bind hI.keeps_rendering fun rendering => Triple.bind hI.keeps_key fun key => ?_
  refine Triple.bind hI.keeps_current fun r => ?_
  dsimp only
  split
  · exact Triple.bind (hI.triple_insertion_isText rendering _) fun sql => Triple.pure (hsome _ sql)
  · split
    · exact Triple.bind (hI.triple_updating_isText rendering _) fun sql => Triple.pure (hsome _ sql)
    · exact Triple.pure fun _ hs => ⟨hs, by simp⟩

theorem triple_deletion_isText :
    Triple I (deletion : Record.Action E Sql) (fun sql s => I s ∧ sql.IsText) I := by
  refine Triple.bind hI.keeps_rendering fun r => Triple.bind hI.keeps_key fun key => ?_
  refine Triple.bind hI.keeps_keyValues fun values => ?_
  refine Triple.bind (hI.keeps_inHeap fun h => keeps_quotedAll r key.columns h) fun columns => ?_
  exact Triple.bind hI.keeps_current fun _ => Triple.pure fun _ hs => ⟨hs, _, rfl⟩

theorem triple_deletionOfMany_isText :
    Triple I (deletionOfMany : Record.Action E Sql) (fun sql s => I s ∧ sql.IsText) I := by
  refine Triple.bind hI.keeps_rendering fun r => Triple.bind hI.keeps_current fun record => ?_
  refine Triple.lift (fun sql hsql s hs => ⟨hs, ?_⟩) fun _ _ _ hs => hs
  unfold Query.deleteMany at hsql
  cases hwheres : record.query.conditionClause .whereClause with
  | error failure =>
      rw [hwheres] at hsql
      cases hsql
  | ok wheres =>
      rw [hwheres] at hsql
      cases hsql
      exact ⟨_, rfl⟩

end IsFrame

/-! ## Frames of what a record sees -/

/-- The record is of the connection, and the session and what lies outside have a property. -/
structure Scope.Sees (connection : String) (P : Session → E.State → Prop) (s : Scope E) : Prop where
  ofConnection : s.record.connection = connection
  property : P s.world.session s.world.outside

variable {P P' : Session → E.State → Prop}

theorem Scope.Sees.published {s : Scope E} (hs : s.Sees connection P) :
    P s.published.session s.published.outside := by
  rw [s.session_published, s.outside_published]
  exact hs.property

theorem Scope.Sees.renewed {s : Scope E} (hs : s.Sees connection P) {w : World E.State}
    (hd : s.published.heap.Drains w.heap) (hw : P' w.session w.outside) : (s.renewed w).Sees connection P' := by
  refine ⟨(congrArg Record.connection (Scope.renewed_eq hd).1).trans hs.ofConnection, ?_⟩
  rw [s.world_renewed]
  exact hw

theorem Scope.Sees.isFrame (hdriver : ∀ s o, P s o → ∃ d, Entries.get? connection s.drivers = some d)
    (hstays : ∀ s s' o, P s o → s.Stays s' → P s' o) : IsFrame connection (Scope.Sees (E := E) connection P) where
  ofConnection _ hs := hs.ofConnection
  driver _ hs := hdriver _ _ hs.property
  record _ _ hs hr := ⟨hr, hs.property⟩
  world _ _ hs hw := hs.renewed hw.heap (hw.outside ▸ hstays _ _ _ hs.published hw.session)

/-- What happens in the world and drains streams at most leaves the record as it is. -/
theorem Scope.Sees.triple_inWorld {action : FluentSql.Action E α} {Q : α → Prop}
    (h : ∀ w, P w.session w.outside → Triple (· = w) action
      (fun a w' => (w.heap.Drains w'.heap ∧ P' w'.session w'.outside) ∧ Q a)
      (fun w' => w.heap.Drains w'.heap ∧ P w'.session w'.outside)) :
    Triple (Scope.Sees connection P) (inWorld action) (fun a s => s.Sees connection P' ∧ Q a)
      (Scope.Sees connection P) := by
  refine Triple.of_states fun s hs => Triple.onPart s (h s.published hs.published) rfl ?_ ?_
  · rintro a w ⟨⟨hd, hw⟩, hQ⟩
    exact ⟨hs.renewed hd hw, hQ⟩
  · rintro w ⟨hd, hw⟩
    exact hs.renewed hd hw

end Record

end FluentSql
