import FluentSql.Proofs.Connection.Executing
import FluentSql.Proofs.Record.NullKey
import FluentSql.Proofs.Record.Requests
/-
# FluentSql.Proofs.Record.FilledKey — what a save of a new record makes of its data.

A save looks at the key once its INSERT was executed. Nothing is filled in where no part of the key is null. Otherwise the
database is asked: the row that the statement returns is laid over the data, or, on dialects that return none, the
number that the driver reports goes to the first column of the key, whether that column was the null one or not
(`save_fills`). So a value that was supplied for the first column is lost if another column is null.
-/

namespace FluentSql

open Step (Keeps Triple perform_bind_ok)

namespace Record

open Scope (Holds Visits)

variable {E : Environment} {α : Type} {s t : Scope E} {c : Changes} {statement : Statement}

/-- No value that the row is found by is null. -/
def Scope.HasWholeKey (s : Scope E) : Prop := ∀ v ∈ s.keyParts, v.isNull = false

/-- The data have in the second scope what they have in the first, but for key columns that are null there. -/
def Scope.KeepsSupplied (s s' : Scope E) : Prop :=
  ∀ field, (∀ column ∈ s.key.columns, (column == field) = true → (s.valueOf column).isNull = false) →
    Entries.get? field s'.record.changes.data = Entries.get? field s.record.changes.data

/-- The action gave the result, and nothing has changed in the session or outside since. -/
def Scope.Got (t : Scope E) (action : FluentSql.Action E α) (a : α) : Prop :=
  ∃ w w', action.perform w = (.ok a, w') ∧ w'.session = t.world.session ∧ w'.outside = t.world.outside

/-- A record whose statement was executed. It may have other changes by now. -/
structure Scope.HasSent (s : Scope E) (c : Changes) (statement : Statement) (t : Scope E) : Prop
    extends Holds (fun _ => True) s { s.record with changes := c } t where
  driver : ∃ d, Entries.get? s.record.connection t.world.session.drivers = some d
  last : t.world.session.lastStatement = some statement

/-! ## The key -/

theorem Scope.Holds.keyParts_eq {P : String → Prop} (h : Holds P s { s.record with changes := c } t)
    (hdata : c.data = s.record.changes.data) : t.key = s.key ∧ t.keyParts = s.keyParts := by
  have hkey : t.key = s.key := by
    simp only [Scope.key, h.record, h.heap.keyOf, h.session.keyOf, table]
  have hvalueOf : t.valueOf = s.valueOf := funext fun column => by rw [Scope.valueOf, Scope.valueOf, h.record, hdata]
  have hvalue : t.keyValue = s.keyValue := by rw [Scope.keyValue, Scope.keyValue, hkey, hvalueOf]
  refine ⟨hkey, ?_⟩
  rw [Scope.keyParts, Scope.keyParts, hvalue, Heap.parts, Heap.parts, h.heap.entries?]

/-- Writing to a column that was null keeps what was supplied, and so does writing what stands there already. -/
theorem keepsSupplied_put_iff {first id : Value} (hfirst : first ∈ s.key.columns) {s' : Scope E}
    (hdata : s'.record.changes.data = Entries.put first id s.record.changes.data) :
    s.KeepsSupplied s' ↔ (s.valueOf first).isNull = true ∨
      Entries.get? first s'.record.changes.data = Entries.get? first s.record.changes.data := by
  constructor
  · intro hkeeps
    by_cases hnull : (s.valueOf first).isNull = true
    · exact .inl hnull
    · refine .inr (hkeeps first fun column _ hsame => ?_)
      rw [s.valueOf_congr hsame, ← Bool.not_eq_true]
      exact hnull
  · intro h field hfield
    by_cases hsame : (field == first) = true
    · have hsupplied := hfield first hfirst (BEq.symm hsame)
      have hkept := h.resolve_left (by rw [hsupplied]; exact Bool.false_ne_true)
      rw [Entries.get?_congr hsame, Entries.get?_congr hsame, hkept]
    · rw [hdata, Entries.get?_put_of_ne (Bool.not_eq_true _ ▸ hsame)]

/-! ## Executing the statement -/

theorem Scope.HasSent.renewed (ht : s.HasSent c statement t) {w : World E.State}
    (hw : t.published.Remains w) : s.HasSent c statement (t.renewed w) := by
  have hself : Visits (fun _ => True) s.record.connection t.published t.published :=
    ⟨.refl _, .refl _, hasMarks_true _ _⟩
  have hvisits := Connection.visits_of_remains hself hw
  have hsession := hw.session
  rw [t.session_published] at hsession
  refine ⟨ht.toHolds.renewed hvisits, ?_, ?_⟩
  · rw [t.world_renewed, hsession.drivers]
    exact ht.driver
  · rw [t.world_renewed, hsession.lastStatement]
    exact ht.last

theorem Scope.HasSent.of_meets (ht : s.HasSent c statement t) {t' : Scope E}
    (hmeets : t'.Meets t.record t.number t.published) : s.HasSent c statement t' := by
  have hsession : t'.world.session = t.world.session := by
    rw [← t'.session_published, hmeets.published, t.session_published]
  refine ⟨⟨hmeets.record.trans ht.record, ?_, ?_, hasMarks_true _ _⟩, ?_, ?_⟩
  · rw [hmeets.published]
    exact ht.heap
  · rw [hsession]
    exact ht.session
  · rw [hsession]
    exact ht.driver
  · rw [hsession]
    exact ht.last

theorem triple_changeRow_hasSent (f : Changes → Changes) :
    Triple (s.HasSent c statement) (changeRow f : Record.Action E Unit) (fun _ => s.HasSent (f c) statement)
      fun _ => True := by
  intro t ht
  have hchanged := triple_change (E := E) (f := fun r => { r with changes := f r.changes }) rfl t ht.toHolds
  exact ⟨hchanged, ht.driver, ht.last⟩

theorem keeps_hasSent_inWorld {action : FluentSql.Action E α} (h : ∀ w : World E.State, Keeps w.Remains action) :
    Keeps (s.HasSent c statement) (inWorld action) :=
  Triple.of_states fun t ht => Triple.onPart t (h t.published) (.refl _) (fun _ _ hw => ht.renewed hw)
    fun _ hw => ht.renewed hw

theorem triple_executeWrite_hasSent (hE : E.TellsOutside) (sql : Sql) :
    Triple (Holds (fun _ => True) s s.record) (executeWrite sql : Record.Action E Statement)
      (fun statement => s.HasSent s.record.changes statement) fun _ => True := by
  refine triple_bindCurrent fun t ht => ?_
  rw [ht.record]
  refine Triple.bind (R := fun statement => s.HasSent s.record.changes statement) ?_ fun statement => ?_
  · refine Triple.onPart t (Connection.triple_execute hE sql.text sql.params.toValue) rfl ?_ fun _ _ => trivial
    intro statement w hw
    refine ⟨ht.renewed hw.toVisits, ?_, ?_⟩
    · rw [t.world_renewed]
      exact hw.driver
    · rw [t.world_renewed]
      exact hw.last
  · have hclear : Keeps (s.HasSent s.record.changes statement) (autoClearCache : Record.Action E Unit) := by
      refine triple_bindCurrent fun t ht => Triple.pre ?_ fun _ h => h ▸ ht
      refine Keeps.bind (keeps_hasSent_inWorld fun w => Session.keeps_settings _) fun settings => ?_
      split
      · exact keeps_hasSent_inWorld fun w => Connection.keeps_remains_clearCache hE _ _
      · exact Keeps.pure _
    exact Triple.bind hclear.ifReturns fun _ => Triple.pure fun _ h => h

/-! ## Filling the key -/

/-- What the database gave was filled in: on dialects that return rows the fields of the row, if there is one, and on
others the number that the driver reported, under the first key column. -/
def Scope.IsFilled (s : Scope E) (columns : List Value) (statement : Statement) (data : Row) (t : Scope E) : Prop :=
  ∃ made, Entries.get? s.record.connection t.world.session.dialects = some made ∧
    (made.dialect.returnsIds = true → ∃ row, t.Got (Connection.fetchRow statement) row ∧
      (row = none → t.record.changes.data = data) ∧
      ∀ given fields, row = some given → s.published.heap.entries? given = some fields →
        t.record.changes.data = Entries.putAll data fields) ∧
    (made.dialect.returnsIds = false → ∃ d id first rest,
      Entries.get? s.record.connection t.world.session.drivers = some d ∧ t.Got (Connection.lastInsertId d) id ∧
      columns = first :: rest ∧ t.record.changes.data = Entries.put first id data)

/-- The dialect is found, and remembered. -/
theorem triple_dialect_hasSent :
    Triple (s.HasSent c statement) (inWorld (Connection.dialect s.record.connection) : Record.Action E Dialect)
      (fun D t => s.HasSent c statement t ∧
        ∃ made, Entries.get? s.record.connection t.world.session.dialects = some made ∧ made.dialect = D)
      fun _ => True := by
  refine Triple.of_states fun t ht => ?_
  obtain ⟨d, hd⟩ := ht.driver
  rw [← t.session_published] at hd
  refine Triple.onPart t (Connection.triple_dialect_of_registered hd) rfl ?_ fun _ _ => trivial
  rintro D w ⟨⟨session, ⟨dialects, count, hsession⟩, hw⟩, made, hmade, hD⟩
  rw [t.session_published] at hsession
  have hvisits : Visits (fun _ => True) s.record.connection t.published w := by
    subst hw hsession
    rw [← t.session_published]
    exact ⟨.refl _, ⟨fun _ _ h => h, fun _ _ _ => rfl⟩, hasMarks_true _ _⟩
  have hworld : (t.renewed w).world.session = { t.world.session with dialects := dialects, dialectCount := count } := by
    rw [t.world_renewed, hw, ← hsession]
  refine ⟨⟨ht.toHolds.renewed hvisits, ?_, ?_⟩, made, ?_, hD⟩
  · rw [hworld]
    exact ht.driver
  · rw [hworld]
    exact ht.last
  · rw [t.world_renewed]
    exact hmade

/-- What is fetched, or reported, was got in the world that is left. -/
theorem triple_inWorld_got (ht : s.HasSent c statement t) {action : FluentSql.Action E α}
    (h : ∀ w : World E.State, Keeps w.Remains action) :
    Triple (· = t) (inWorld action)
      (fun a t' => s.HasSent c statement t' ∧ t'.Got action a ∧ t.world.session.SameButTraffic t'.world.session)
      fun _ => True := by
  have hkeeps := (h t.published).of_state (.refl t.published)
  refine Triple.onPart t (hkeeps.withRun rfl) rfl ?_ fun _ _ => trivial
  rintro a w ⟨hw, hgot⟩
  have hsession := hw.session
  rw [t.session_published] at hsession
  refine ⟨ht.renewed hw, ⟨t.published, w, hgot, ?_, ?_⟩, ?_⟩
  · rw [t.world_renewed]
  · rw [t.world_renewed]
  · rw [t.world_renewed]
    exact hsession

/-- What a record does with values happens neither in the session nor outside. -/
theorem keeps_world_inHeap {session : Session} {o : E.State} (step : Step Heap α) :
    Keeps (fun t : Scope E => t.world.session = session ∧ t.world.outside = o) (inHeap step : Record.Action E α) := by
  rintro t ⟨rfl, rfl⟩
  rcases hrun : step.perform t.published.heap with ⟨result, h⟩
  rw [show (inHeap step : Record.Action E α).perform t = _ from perform_inWorld (Session.perform_inHeap hrun)]
  cases result <;> exact ⟨by rw [t.world_renewed]; exact t.session_published,
    by rw [t.world_renewed]; exact t.outside_published⟩

theorem keeps_world_addFields {session : Session} {o : E.State} (row : Value) :
    Keeps (fun t : Scope E => t.world.session = session ∧ t.world.outside = o)
      (addFields row : Record.Action E Unit) := by
  refine triple_bindHeap fun t ht => Triple.pre ?_ fun _ h => h ▸ ht
  split
  · exact fun _ h => h
  · refine Keeps.bind (keeps_world_inHeap _) fun pairs => Keeps.forM fun pair _ => ?_
    exact Keeps.bind (keeps_world_inHeap _) fun _ _ h => h

/-- A row that is a mapping is laid over the data. -/
theorem triple_addFields (ht : s.HasSent c statement t) (row : Value) :
    Triple (· = t) (addFields row : Record.Action E Unit)
      (fun _ t' => t'.world.session = t.world.session ∧ t'.world.outside = t.world.outside ∧
        ∀ fields, s.published.heap.entries? row = some fields →
          t'.record.changes.data = Entries.putAll c.data fields) fun _ => True := by
  have hworld := (keeps_world_addFields (E := E) row).of_state (s := t) ⟨rfl, rfl⟩
  have hdata : Triple (· = t) (addFields row : Record.Action E Unit) (fun _ t' =>
      ∀ fields, s.published.heap.entries? row = some fields →
        t'.record.changes.data = Entries.putAll c.data fields) fun _ => True := by
    refine triple_bindHeap ?_
    rintro u rfl
    have hentries : u.published.heap.entries? row = s.published.heap.entries? row := ht.heap.entries? row
    rw [hentries]
    cases s.published.heap.entries? row with
    | none => exact Triple.anything.post fun _ _ _ fields hfields => by cases hfields
    | some fields =>
        refine Triple.modify ?_
        rintro u rfl _ ⟨⟩
        show Entries.putAll u.record.changes.data fields = Entries.putAll c.data fields
        rw [ht.record]
  exact (hworld.and hdata).consequence (fun _ h => h) (fun _ _ h => ⟨h.1.1, h.1.2, h.2⟩) fun _ _ => trivial

theorem Scope.Got.of_eq {action : FluentSql.Action E α} {a : α} (h : t.Got action a) {t' : Scope E}
    (hsession : t'.world.session = t.world.session) (houtside : t'.world.outside = t.world.outside) :
    t'.Got action a := by
  obtain ⟨w, w', hrun, hw, ho⟩ := h
  exact ⟨w, w', hrun, hw.trans hsession.symm, ho.trans houtside.symm⟩

/-- On a dialect that returns rows, the row of the statement is filled in. -/
theorem triple_fillRow (ht : s.HasSent c statement t) {made : MadeDialect}
    (hmade : Entries.get? s.record.connection t.world.session.dialects = some made)
    (hreturns : made.dialect.returnsIds = true) (columns : List Value) :
    Triple (· = t)
      (do
        match ← inWorld (Connection.fetchRow statement) with
        | some row => addFields row
        | none => pure () : Record.Action E Unit)
      (fun _ => s.IsFilled columns statement c.data) fun _ => True := by
  have hnot : made.dialect.returnsIds ≠ false := by rw [hreturns]; exact Bool.noConfusion
  refine Triple.bind (triple_inWorld_got ht fun w => Connection.keeps_remains_fetchRow statement) fun row => ?_
  refine Triple.of_states fun t₁ ht₁ => ?_
  obtain ⟨hsent, hgot, htraffic⟩ := ht₁
  have hmade₁ : Entries.get? s.record.connection t₁.world.session.dialects = some made := by
    rw [htraffic.dialects]
    exact hmade
  cases row with
  | none =>
      refine Triple.pure ?_
      rintro _ rfl
      refine ⟨made, hmade₁, fun _ => ⟨none, hgot, fun _ => ?_, fun _ _ h => by cases h⟩, fun h => absurd h hnot⟩
      rw [hsent.record]
  | some row =>
      refine (triple_addFields hsent row).post ?_
      rintro _ t₂ ⟨hsession, houtside, hdata⟩
      refine ⟨made, hsession ▸ hmade₁, fun _ => ⟨some row, hgot.of_eq hsession houtside, nofun, ?_⟩,
        fun h => absurd h hnot⟩
      rintro _ fields ⟨⟩ hfields
      exact hdata fields hfields

/-- On a dialect that returns none, the number that the driver reports is. -/
theorem triple_fillId (ht : s.HasSent c statement t) {made : MadeDialect}
    (hmade : Entries.get? s.record.connection t.world.session.dialects = some made)
    (hreturns : made.dialect.returnsIds = false) (columns : List Value) :
    Triple (· = t)
      (do
        let driver ← inWorld (Connection.driver s.record.connection)
        let id ← inWorld (Connection.lastInsertId driver)
        match columns with
        | [] => throw .outOfRange
        | column :: _ =>
          inHeap (Heap.requireKey column)
          changeRow fun c => { c with data := Entries.put column id c.data } : Record.Action E Unit)
      (fun _ => s.IsFilled columns statement c.data) fun _ => True := by
  have hnot : made.dialect.returnsIds ≠ true := by rw [hreturns]; exact Bool.noConfusion
  obtain ⟨d, hd⟩ := ht.driver
  have hdriver : (inWorld (Connection.driver s.record.connection) : Record.Action E Driver).perform t =
      (.ok d, t.renewed t.published) :=
    perform_inWorld (Connection.perform_driver (by rw [t.session_published]; exact hd))
  have hsent := ht.renewed (.refl t.published)
  have hsession : (t.renewed t.published).world.session = t.world.session := by
    rw [t.world_renewed, t.session_published]
  intro u hu
  subst u
  rw [perform_bind_ok hdriver]
  refine Triple.bind (triple_inWorld_got hsent fun w => Connection.keeps_remains_lastInsertId d) (fun id => ?_)
    (t.renewed t.published) rfl
  refine Triple.of_states fun t₁ ht₁ => ?_
  obtain ⟨hsent₁, hgot, htraffic⟩ := ht₁
  rw [hsession] at htraffic
  cases columns with
  | nil => exact Triple.throw fun _ _ => trivial
  | cons first rest =>
      have hworld : Triple (· = t₁) (inHeap (Heap.requireKey first) : Record.Action E Unit)
          (fun _ t₂ => (t₂.world.session = t₁.world.session ∧ t₂.world.outside = t₁.world.outside) ∧
            s.HasSent c statement t₂) fun _ => True := by
        have hkeeps := (keeps_world_inHeap (E := E) (Heap.requireKey first)).of_state (s := t₁) ⟨rfl, rfl⟩
        have hsent₂ := Keeps.of_state (keeps_hasSent_inWorld fun w =>
          Connection.ignoresStreams_remains.keeps_inHeap fun h => Heap.keeps_requireKey h first) hsent₁
        exact (hkeeps.and hsent₂).consequence (fun _ h => h) (fun _ _ h => h) fun _ _ => trivial
      refine Triple.bind hworld fun _ => Triple.modify ?_
      rintro t₂ ⟨⟨hsession₂, houtside₂⟩, hsent₂⟩
      refine ⟨made, ?_, fun h => absurd h hnot, fun _ => ⟨d, id, first, rest, ?_, hgot.of_eq hsession₂ houtside₂, rfl, ?_⟩⟩
      · show Entries.get? s.record.connection t₂.world.session.dialects = some made
        rw [hsession₂, htraffic.dialects]
        exact hmade
      · show Entries.get? s.record.connection t₂.world.session.drivers = some d
        rw [hsession₂, htraffic.drivers]
        exact hd
      · show Entries.put first id t₂.record.changes.data = Entries.put first id c.data
        rw [hsent₂.record]

theorem triple_fillKey (columns : List Value) :
    Triple (s.HasSent c statement) (fillKey columns statement : Record.Action E Unit)
      (fun _ => s.IsFilled columns statement c.data) fun _ => True := by
  refine triple_bindCurrent fun t ht => ?_
  rw [ht.record]
  refine Triple.bind (triple_dialect_hasSent.pre fun u (hu : u = t) => hu ▸ ht) fun D => ?_
  refine Triple.of_states fun t₁ ht₁ => ?_
  obtain ⟨hsent, made, hmade, rfl⟩ := ht₁
  cases hreturns : made.dialect.returnsIds with
  | true =>
      rw [if_pos rfl]
      exact triple_fillRow hsent hmade hreturns columns
  | false =>
      rw [if_neg Bool.false_ne_true]
      exact triple_fillId hsent hmade hreturns columns

/-! ## Saving -/

/-- The data of a new record after its save: as they were if the key was whole, and filled in otherwise. -/
def Scope.IsCompleted (s : Scope E) (columns : List Value) (statement : Statement) (t : Scope E) : Prop :=
  (s.HasWholeKey → t.record.changes.data = s.record.changes.data) ∧
    (¬ s.HasWholeKey → s.IsFilled columns statement s.record.changes.data t)

/-- Edits that are forgotten were none of the data. -/
theorem triple_markClean (columns : List Value) :
    Triple (s.IsCompleted columns statement) (changeRow Changes.markClean : Record.Action E Unit)
      (fun _ => s.IsCompleted columns statement) fun _ => True :=
  Triple.modify fun _ ht => ht

theorem hasWholeKey_iff_count : (s.keyParts.filter Value.isNull).length = 0 ↔ s.HasWholeKey := by
  rw [List.length_eq_zero_iff, List.filter_eq_nil_iff]
  simp only [Bool.not_eq_true]
  rfl

section

variable (hcolumns : ∀ column ∈ s.key.columns, ∃ name, column = .text name)
include hcolumns

/-- The null parts of the key are those that it had before the statement. -/
theorem triple_nullKeyCount_hasSent (hdata : c.data = s.record.changes.data) :
    Triple (s.HasSent c statement) (nullKeyCount : Record.Action E Nat)
      (fun count t => s.HasSent c statement t ∧ (count = 0 ↔ s.HasWholeKey)) fun _ => True := by
  intro t ht
  obtain ⟨hkey, hparts⟩ := ht.toHolds.keyParts_eq hdata
  rw [← hkey] at hcolumns
  obtain ⟨t', hcount, hmeets⟩ := answers_nullKeyCount hcolumns t t.meets_self
  rw [hcount, hparts]
  exact ⟨ht.of_meets hmeets, hasWholeKey_iff_count⟩

theorem triple_finishSave_completes (hnew : s.record.changes.isNew = true) (columns : List Value) :
    Triple (s.HasSent s.record.changes statement) (finishSave columns statement : Record.Action E Unit)
      (fun _ => s.IsCompleted columns statement) fun _ => True := by
  refine triple_bindCurrent fun t ht => ?_
  extract_lets rest
  have hrest : ∀ u, Triple (s.IsCompleted columns statement) (rest u) (fun _ => s.IsCompleted columns statement)
      fun _ => True := fun _ => triple_markClean columns
  have hisNew : t.record.changes.isNew = true := by rw [ht.record]; exact hnew
  rw [if_pos hisNew]
  refine Triple.bind ((triple_changeRow_hasSent _).pre fun u (hu : u = t) => hu ▸ ht) fun _ => ?_
  refine Triple.bindKnown (triple_nullKeyCount_hasSent hcolumns rfl) fun count hcount => ?_
  by_cases hzero : count = 0
  · rw [if_neg (not_not.2 hzero)]
    refine (hrest ()).pre fun u hu => ⟨fun _ => ?_, fun h => absurd (hcount.1 hzero) h⟩
    rw [hu.record]
  · rw [if_pos hzero]
    refine Triple.bind (triple_fillKey columns) fun u => (hrest u).pre fun v hv => ?_
    exact ⟨fun h => absurd (hcount.2 h) hzero, fun _ => hv⟩

omit hcolumns in
/-- The statement of a new record comes with the columns of its key. -/
theorem triple_pendingWrite_new (hnew : s.record.changes.isNew = true) :
    Triple (Holds (fun _ => True) s s.record) (pendingWrite : Record.Action E (Option (List Value × Sql)))
      (fun pending t => Holds (fun _ => True) s s.record t ∧ ∃ sql, pending = some (s.key.columns, sql))
      fun _ => True := by
  refine Triple.bindKnown triple_rendering.ifReturns fun r _ => ?_
  refine Triple.bindKnown triple_key.ifReturns fun key hkey => ?_
  refine triple_bindCurrent fun t ht => ?_
  have hisNew : t.record.changes.isNew = true := by rw [ht.record]; exact hnew
  dsimp only
  rw [if_pos hisNew]
  refine Triple.bind (R := fun _ => Holds (fun _ => True) s s.record) ?_ fun sql =>
    Triple.pure fun u hu => ⟨hu, sql, by rw [hkey]⟩
  refine Triple.pre (P := Holds (fun _ => True) s s.record) ?_ fun u hu => hu ▸ ht
  have hready : Keeps (Holds (fun _ => True) s s.record) (readyChanges : Record.Action E Changes) :=
    triple_bindCurrent fun u hu => triple_bindHeap fun v hv => Triple.pure fun _ h => h ▸ hv ▸ hu
  refine Triple.bind hready.ifReturns fun changes => ?_
  refine Triple.bind (keeps_inHeap fun h => keeps_quotedAll r _ h).ifReturns fun fields => ?_
  refine Triple.bind (keeps_inHeap fun h => keeps_returnedColumns r _ h).ifReturns fun returning => ?_
  exact triple_bindCurrent fun u hu => Triple.pure fun _ h => h ▸ hu

/-- **What a save of a new record makes of its data.** They are what they were if no part of the key was null. If one
was, the row that the statement returned is laid over them on dialects that return rows; on others the number that the
driver reported goes to the first key column. What was supplied is kept then exactly if this column was null, or has
that number already. -/
theorem save_fills (hE : E.TellsOutside) (hnew : s.record.changes.isNew = true) {s' : Scope E}
    (hsave : save.perform s = (.ok (), s')) :
    (s.HasWholeKey → s'.record.changes.data = s.record.changes.data) ∧
      (¬ s.HasWholeKey → ∃ statement, s.IsFilled s.key.columns statement s.record.changes.data s') ∧
      (¬ s.HasWholeKey → ∀ made, Entries.get? s.record.connection s'.world.session.dialects = some made →
        made.dialect.returnsIds = false → ∃ first ∈ s.key.columns, s.key.columns.head? = some first ∧
          (s.KeepsSupplied s' ↔ (s.valueOf first).isNull = true ∨
            Entries.get? first s'.record.changes.data = Entries.get? first s.record.changes.data)) := by
  have hcompletes : Triple (Holds (fun _ => True) s s.record) (save : Record.Action E Unit)
      (fun _ t => ∃ statement, s.IsCompleted s.key.columns statement t) fun _ => True := by
    rw [save_eq]
    refine Triple.bindKnown (triple_pendingWrite_new hnew) ?_
    rintro _ ⟨sql, rfl⟩
    refine Triple.bind (triple_executeWrite_hasSent hE sql) fun statement => ?_
    exact (triple_finishSave_completes hcolumns hnew s.key.columns).post fun _ _ h => ⟨statement, h⟩
  obtain ⟨statement, hwhole, hfilled⟩ := hcompletes.of_ok (holds_self (hasMarks_true _ _)) hsave
  refine ⟨hwhole, fun h => ⟨statement, hfilled h⟩, fun h made hmade hreturns => ?_⟩
  obtain ⟨made', hmade', -, hid⟩ := hfilled h
  obtain rfl : made = made' := Option.some.inj (hmade.symm.trans hmade')
  obtain ⟨d, id, first, rest, -, -, hcolumnsEq, hdata⟩ := hid hreturns
  have hfirst : first ∈ s.key.columns := by rw [hcolumnsEq]; exact List.mem_cons_self
  exact ⟨first, hfirst, by rw [hcolumnsEq]; rfl, keepsSupplied_put_iff hfirst hdata⟩

end

/-- A new order with the given data and key, on an outside that numbers INSERTs. -/
def newOrder (key : KeyColumns) (data : Row) : Scope .counting :=
  { onCountingDesk {} with
    record := { onTable "orders" "default" with changes := { isNew := true, data, dirty := data }, ownKey := some key } }

/-- The key of an order that the database is to number. -/
def numberedOrder : KeyColumns := .compound [.text "number", .text "customer"]

theorem save_fills_numberedOrder :
    let s := newOrder numberedOrder [(.text "customer", .int 5), (.text "total", .int 3)]
    ∃ s', save.perform s = (.ok (), s') ∧ s.KeepsSupplied s' ∧ (s'.valueOf (.text "number") == .int 1) = true := by
  intro s
  have hE : Environment.counting.TellsOutside := fun _ _ w _ => ⟨w.outside, rfl⟩
  have hcolumns : ∀ column ∈ s.key.columns, ∃ name, column = .text name :=
    List.forall_mem_cons.2 ⟨⟨"number", rfl⟩, List.forall_mem_singleton.2 ⟨"customer", rfl⟩⟩
  have hhalf : ¬ s.HasWholeKey := fun hwhole => by
    have hnull : Value.null ∈ s.keyParts := List.mem_cons_self
    exact absurd (hwhole _ hnull) Bool.noConfusion
  have hok : ((save : Record.Action .counting Unit).perform s).1.isOk = true := by decide +kernel
  have hnumber : (((save : Record.Action .counting Unit).perform s).2.valueOf (.text "number") == .int 1) = true := by
    decide +kernel
  have hreturns : (Entries.get? "default" ((save : Record.Action .counting Unit).perform s).2.world.session.dialects).all
      (fun made => !made.dialect.returnsIds) = true := by decide +kernel
  rcases hsave : (save : Record.Action .counting Unit).perform s with ⟨failure | _, s'⟩ <;>
    rw [hsave] at hok hnumber hreturns
  · cases hok
  obtain ⟨-, hfilled, hkeeps⟩ := save_fills hcolumns hE rfl hsave
  obtain ⟨-, made, hmade, -⟩ := hfilled hhalf
  have hnone : made.dialect.returnsIds = false := by
    have hmade' : Entries.get? "default" s'.world.session.dialects = some made := hmade
    rw [hmade', Option.all_some] at hreturns
    simpa using hreturns
  obtain ⟨first, -, hfirst, hkept⟩ := hkeeps hhalf made hmade hnone
  obtain rfl : .text "number" = first := Option.some.inj hfirst
  exact ⟨s', rfl, hkept.2 (.inl rfl), hnumber⟩

/-- The number of the database takes the place of a key column that was supplied, and the null column stays null. -/
theorem not_keepsSupplied_of_half_key :
    let s := newOrder (.compound [.text "customer", .text "number"]) [(.text "customer", .int 5), (.text "total", .int 3)]
    ∃ s', save.perform s = (.ok (), s') ∧ ¬ s.KeepsSupplied s' ∧
      (s'.valueOf (.text "customer") == .int 1) = true ∧ (s'.valueOf (.text "number")).isNull = true := by
  intro s
  have hok : ((save : Record.Action .counting Unit).perform s).1.isOk = true := by decide +kernel
  have hcustomer : (((save : Record.Action .counting Unit).perform s).2.valueOf (.text "customer") == .int 1) = true := by
    decide +kernel
  have hnumber : (((save : Record.Action .counting Unit).perform s).2.valueOf (.text "number")).isNull = true := by
    decide +kernel
  rcases hsave : (save : Record.Action .counting Unit).perform s with ⟨failure | _, s'⟩ <;>
    rw [hsave] at hok hcustomer hnumber
  · cases hok
  refine ⟨s', rfl, fun hkeeps => ?_, hcustomer, hnumber⟩
  have hsupplied : ∀ column ∈ s.key.columns, (column == .text "customer") = true →
      (s.valueOf column).isNull = false := by
    refine List.forall_mem_cons.2 ⟨fun _ => rfl, List.forall_mem_singleton.2 fun hsame => ?_⟩
    rw [Value.text_beq_text] at hsame
    exact absurd hsame (by decide)
  have hkept : s'.valueOf (.text "customer") = .int 5 := by
    rw [Scope.valueOf, hkeeps _ hsupplied]
    rfl
  rw [hkept] at hcustomer
  exact absurd hcustomer (by decide)

end Record

end FluentSql
