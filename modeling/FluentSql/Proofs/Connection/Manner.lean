import FluentSql.Proofs.Connection.Mirror
/-
# FluentSql.Proofs.Connection.Manner — how a connection writes, whether it is open yet or not.

The driver of a connection is opened when it is first needed, and its dialect is made then. If opening always ends in
the same way, it makes no difference when that is: the connection has a manner of writing all the time
(`Connection.manner`), with a mark and a rendering, or a failure in their place. Asking for the mark gives the one of
this manner, and leaves a connection of the same manner (`IsSteady.perform_quoteMark`).
-/

namespace FluentSql

theorem Entries.erase_of_get?_eq_none {κ α : Type} [BEq κ] {key : κ} {entries : Entries κ α}
    (hnone : get? key entries = none) : erase key entries = entries := by
  induction entries with
  | nil => rfl
  | cons e rest ih =>
      rw [get?] at hnone
      split at hnone
      · cases hnone
      · rename_i hne
        rw [erase, if_neg hne, ih hnone]

namespace Connection

open Session (current change outside inHeap)
open Step (perform_bind_ok perform_bind_error)

variable {E : Environment} {connection : String} {w w' w'' : World E.State}

/-! ## The manner of a connection -/

/-- What the connection string of a connection opens. -/
def openingOf (connection : String) (s : Session) : Opening :=
  Opening.ofString (s.settingsOf connection).connectionString

/-- The kind of the driver that opening gives now, or how opening fails. -/
def openedKind (E : Environment) (opening : Opening) (o : E.State) : Except Failure DriverKind :=
  (E.connect opening o).1.map fun opened => (opening.driver opened).kind

/-- The connection has a driver, or opening one ends in the same way at any time. There is no dialect without a
driver. -/
structure IsSteady (connection : String) (w : World E.State) : Prop where
  opens : Entries.get? connection w.session.drivers = none → ∀ o o',
    openedKind E (openingOf connection w.session) o = openedKind E (openingOf connection w.session) o'
  undecided : Entries.get? connection w.session.drivers = none →
    Entries.get? connection w.session.dialects = none

/-- The kind of the driver that the connection has or will get. -/
def driverKind (connection : String) (w : World E.State) : Except Failure DriverKind :=
  match Entries.get? connection w.session.drivers with
  | some d => .ok d.kind
  | none => openedKind E (openingOf connection w.session) w.outside

/-- The dialect that the connection has or will get. -/
def prospect (connection : String) (w : World E.State) : Except Failure Dialect :=
  match Entries.get? connection w.session.dialects with
  | some made => .ok made.dialect
  | none => (driverKind connection w).bind fun kind => w.session.knownDialects.create kind.dialectName

/-- The mark that is configured, or else that of a dialect. -/
def markOf (prospect : Except Failure Dialect) : Option String → Except Failure String
  | some mark => if mark.isEmpty then prospect.map Dialect.quoteMark else .ok mark
  | none => prospect.map Dialect.quoteMark

/-- How a connection writes, and what else it looks at while a query is built: the keys of tables and the stores. -/
structure Manner where
  dialect : Except Failure Dialect
  mark : Except Failure String
  limitStyle : Except Failure LimitStyle
  keyColumns : Value
  keyOverrides : Value
  memory : Cache.Store
  givenStores : List Cache.Store

/-- The manner of a connection. -/
def manner (connection : String) (w : World E.State) : Manner :=
  let settings := w.session.settingsOf connection
  let dialect := prospect connection w
  { dialect
    mark := markOf dialect settings.quoteMark
    limitStyle := dialect.map fun D => settings.limitStyle.getD D.limitStyle
    keyColumns := settings.keyColumns
    keyOverrides := settings.keyOverrides
    memory := w.session.memory
    givenStores := w.session.givenStores }

/-- How statements are written in a manner. -/
def Manner.rendering (m : Manner) : Except Failure Rendering :=
  m.dialect.bind fun D => m.mark.bind fun mark => m.limitStyle.map fun style => ⟨D, mark, style⟩

/-- One world comes from another by looking for the driver and the dialect of a connection, which writes in the same
manner in both. -/
structure Resolves (connection : String) (w w' : World E.State) : Prop where
  heap : w'.heap = w.heap
  steady : IsSteady connection w'
  manner : Connection.manner connection w' = Connection.manner connection w

theorem Resolves.refl (hw : IsSteady connection w) : Resolves connection w w := ⟨rfl, hw, rfl⟩

theorem Resolves.trans (h : Resolves connection w w') (h' : Resolves connection w' w'') : Resolves connection w w'' :=
  ⟨h'.heap.trans h.heap, h'.steady, h'.manner.trans h.manner⟩

theorem Resolves.prospect_eq (h : Resolves connection w w') : prospect connection w' = prospect connection w :=
  congrArg Manner.dialect h.manner

theorem IsSteady.withHeap (hw : IsSteady connection w) (h : Heap) : IsSteady connection { w with heap := h } :=
  ⟨hw.opens, hw.undecided⟩

/-! ## Making dialects -/

theorem prospect_of_dialects_eq_none {d : Driver} (hnone : Entries.get? connection w.session.dialects = none)
    (hd : Entries.get? connection w.session.drivers = some d) :
    prospect connection w = w.session.knownDialects.create d.kind.dialectName := by
  rw [prospect, hnone, driverKind, hd]
  rfl

/-- The dialect that the connection will get is made. -/
theorem resolves_withDialect {D : Dialect}
    (hdriver : Entries.get? connection w.session.drivers ≠ none) (hD : prospect connection w = .ok D) :
    Resolves connection w { w with session := w.session.withDialect connection D } := by
  have hprospect : prospect connection { w with session := w.session.withDialect connection D } = .ok D := by
    simp [prospect, Session.withDialect]
  refine ⟨rfl, ⟨fun hnone => absurd hnone hdriver, fun hnone => absurd hnone hdriver⟩, ?_⟩
  rw [manner, manner, hprospect, hD]
  rfl

/-- What is configured already is not taken from the dialect. -/
theorem markOf_detecting (D : Dialect) (settings : Settings) :
    markOf (.ok D) (settings.detecting D).quoteMark = markOf (.ok D) settings.quoteMark := by
  cases hmark : settings.quoteMark with
  | none => simp [Settings.detecting, hmark, markOf, Except.map]
  | some mark => simp [Settings.detecting, hmark]

theorem limitStyle_detecting (D : Dialect) (settings : Settings) :
    (settings.detecting D).limitStyle.getD D.limitStyle = settings.limitStyle.getD D.limitStyle := by
  cases hstyle : settings.limitStyle <;> simp [Settings.detecting, hstyle]

/-- A driver that is registered decides about the dialect, even if there is none for it. -/
theorem IsSteady.prospect_registered (hw : IsSteady connection w)
    (hnone : Entries.get? connection w.session.drivers = none) (d : Driver) (o : E.State) :
    prospect connection { w with session := w.session.registered connection d, outside := o } =
      w.session.knownDialects.create d.kind.dialectName := by
  rw [Session.registered]
  cases hD : w.session.knownDialects.create d.kind.dialectName with
  | error failure =>
      have herased : Entries.get? connection (w.session.withDriver connection d).dialects = none := by
        rw [Session.withDriver, Entries.erase_of_get?_eq_none (hw.undecided hnone)]
        exact hw.undecided hnone
      exact (prospect_of_dialects_eq_none herased (by simp [Session.withDriver])).trans hD
  | ok D => simp [prospect, Session.withSettings, Session.withDialect]

/-- The driver that was opened is registered, with its dialect if there is one. -/
theorem IsSteady.resolves_registered {d : Driver} (hw : IsSteady connection w)
    (hnone : Entries.get? connection w.session.drivers = none) (hd : driverKind connection w = .ok d.kind)
    (o : E.State) :
    Resolves connection w { w with session := w.session.registered connection d, outside := o } := by
  have hcreate : prospect connection w = w.session.knownDialects.create d.kind.dialectName := by
    rw [prospect, hw.undecided hnone, hd]
    rfl
  have hdriver : Entries.get? connection (w.session.registered connection d).drivers ≠ none := by
    simp [Session.drivers_registered, Entries.get?_put_self]
  refine ⟨rfl, ⟨fun h => absurd h hdriver, fun h => absurd h hdriver⟩, ?_⟩
  rw [manner, manner, hw.prospect_registered hnone d o, hcreate, Session.registered]
  cases hD : w.session.knownDialects.create d.kind.dialectName with
  | error failure => rfl
  | ok D =>
      dsimp only
      rw [Session.settingsOf_withSettings_self, markOf_detecting]
      simp only [Except.map, limitStyle_detecting]
      rfl

/-! ## Looking for the driver -/

theorem perform_registerDriver (other : String) (d : Driver) (w : World E.State) :
    (registerDriver other d : Action E Unit).perform w =
      ((w.session.knownDialects.create d.kind.dialectName).map fun _ => (),
        { w with session := w.session.registered other d }) := by
  rw [registerDriver, perform_bindChange, Session.registered]
  cases hcreate : w.session.knownDialects.create d.kind.dialectName with
  | error failure =>
      have hmade := perform_makeDialect_error (w := { w with session := w.session.withDriver other d }) other hcreate
      exact perform_bind_error hmade
  | ok D =>
      have hmade := perform_makeDialect_ok (w := { w with session := w.session.withDriver other d }) other hcreate
      exact perform_bind_ok hmade

/-- A world in which opening the driver has failed. -/
theorem IsSteady.resolves_outside (hw : IsSteady connection w)
    (hnone : Entries.get? connection w.session.drivers = none) (o : E.State) :
    Resolves connection w { w with outside := o } := by
  have hprospect : prospect connection { w with outside := o } = prospect connection w := by
    simp only [prospect, driverKind, hnone, hw.opens hnone o w.outside]
  refine ⟨rfl, ⟨hw.opens, hw.undecided⟩, ?_⟩
  rw [manner, manner, hprospect]

/-- Looking for the driver fails as the dialect will, or finds one for which this dialect is made. -/
theorem IsSteady.perform_driver (hw : IsSteady connection w) :
    ∃ w', Resolves connection w w' ∧
      ((∃ failure, (driver connection : Action E Driver).perform w = (.error failure, w') ∧
          prospect connection w = .error failure) ∨
        ∃ d, (driver connection : Action E Driver).perform w = (.ok d, w') ∧
          Entries.get? connection w'.session.drivers = some d ∧
          (Entries.get? connection w.session.dialects = none →
            w'.session.knownDialects.create d.kind.dialectName = prospect connection w)) := by
  cases hd : Entries.get? connection w.session.drivers with
  | some d =>
      refine ⟨w, .refl hw, .inr ⟨d, ?_, hd, fun hnone => (prospect_of_dialects_eq_none hnone hd).symm⟩⟩
      rw [driver, Session.perform_bindCurrent, hd]
      rfl
  | none =>
      have hdialects := hw.undecided hd
      have hkind : driverKind connection w = openedKind E (openingOf connection w.session) w.outside := by
        rw [driverKind, hd]
      rcases hconnect : E.connect (openingOf connection w.session) w.outside with ⟨result, o⟩
      have houtside := Session.perform_outside hconnect
      have hrun : (driver connection : Action E Driver).perform w =
          ((outside (E.connect (openingOf connection w.session)) : Action E Opened) >>= fun opened => do
            registerDriver connection ((openingOf connection w.session).driver opened)
            return (openingOf connection w.session).driver opened).perform w := by
        rw [driver, Session.perform_bindCurrent, hd]
        rfl
      rw [openedKind, hconnect] at hkind
      cases result with
      | error failure =>
          refine ⟨_, hw.resolves_outside hd o, .inl ⟨failure, hrun.trans (perform_bind_error houtside), ?_⟩⟩
          rw [prospect, hdialects, hkind]
          rfl
      | ok opened =>
          let d := (openingOf connection w.session).driver opened
          have hresolves := hw.resolves_registered (d := d) hd hkind o
          have hregister := perform_registerDriver connection d { w with outside := o }
          have hprospect : w.session.knownDialects.create d.kind.dialectName = prospect connection w := by
            rw [prospect, hdialects, hkind]
            rfl
          refine ⟨_, hresolves, ?_⟩
          rw [hrun, perform_bind_ok houtside]
          cases hcreate : w.session.knownDialects.create d.kind.dialectName with
          | error failure =>
              rw [hcreate] at hregister
              exact .inl ⟨failure, perform_bind_error hregister, hprospect.symm.trans hcreate⟩
          | ok D =>
              rw [hcreate] at hregister
              refine .inr ⟨d, perform_bind_ok hregister, ?_, fun _ => ?_⟩
              · rw [Session.drivers_registered, Entries.get?_put_self]
              · rw [Session.knownDialects_registered, hprospect]

/-! ## How the connection writes -/

theorem IsSteady.perform_dialect (hw : IsSteady connection w) :
    ∃ w', (dialect connection : Action E Dialect).perform w = ((manner connection w).dialect, w') ∧
      Resolves connection w w' := by
  suffices hmade : ∃ result w', (madeDialect connection : Action E MadeDialect).perform w = (result, w') ∧
      result.map MadeDialect.dialect = prospect connection w ∧ Resolves connection w w' by
    obtain ⟨result, w', hrun, hresult, hresolves⟩ := hmade
    refine ⟨w', ?_, hresolves⟩
    show _ = (prospect connection w, w')
    rw [← hresult, dialect]
    cases result with
    | error failure => exact perform_bind_error hrun
    | ok made => exact perform_bind_ok hrun
  cases hdialect : Entries.get? connection w.session.dialects with
  | some made =>
      refine ⟨.ok made, w, ?_, by rw [prospect, hdialect]; rfl, .refl hw⟩
      rw [madeDialect, Session.perform_bindCurrent, hdialect]
      rfl
  | none =>
      have hrun : (madeDialect connection : Action E MadeDialect).perform w =
          ((driver connection : Action E Driver) >>= makeDialect connection).perform w := by
        rw [madeDialect, Session.perform_bindCurrent, hdialect]
      obtain ⟨w', hresolves, ⟨failure, hdriver, hfails⟩ | ⟨d, hdriver, hd⟩⟩ := hw.perform_driver
      · exact ⟨_, w', hrun.trans (perform_bind_error hdriver), by rw [hfails]; rfl, hresolves⟩
      · rw [hrun, perform_bind_ok hdriver]
        have hcreate := hd.2 hdialect
        cases hprospect : prospect connection w with
        | error failure =>
            rw [hprospect] at hcreate
            exact ⟨_, w', perform_makeDialect_error connection hcreate, rfl, hresolves⟩
        | ok D =>
            rw [hprospect] at hcreate
            have hmade := resolves_withDialect (by simp [hd.1]) (hresolves.prospect_eq.trans hprospect)
            exact ⟨_, _, perform_makeDialect_ok connection hcreate, rfl, hresolves.trans hmade⟩

/-- The mark of the dialect, whatever is configured. -/
theorem IsSteady.perform_dialectMark (hw : IsSteady connection w) :
    ∃ w', (do return (← dialect connection).quoteMark : Action E String).perform w =
      ((prospect connection w).map Dialect.quoteMark, w') ∧ Resolves connection w w' := by
  obtain ⟨w', hrun, hresolves⟩ := hw.perform_dialect
  refine ⟨w', ?_, hresolves⟩
  change (dialect connection).perform w = (prospect connection w, w') at hrun
  cases hprospect : prospect connection w with
  | error failure =>
      rw [hprospect] at hrun
      exact perform_bind_error hrun
  | ok D =>
      rw [hprospect] at hrun
      exact perform_bind_ok hrun

/-- **A connection gives the mark of its manner, and keeps its manner.** -/
theorem IsSteady.perform_quoteMark (hw : IsSteady connection w) :
    ∃ w', (quoteMark connection : Action E String).perform w = ((manner connection w).mark, w') ∧
      Resolves connection w w' := by
  rw [quoteMark, perform_bindSettings]
  extract_lets afterDriver
  have hafter : ∀ (u : PUnit) (w : World E.State), IsSteady connection w →
      ∃ w', (afterDriver u).perform w = ((manner connection w).mark, w') ∧ Resolves connection w w' := by
    intro u w hw
    show ∃ w', (settings connection >>= _ : Action E String).perform w = _ ∧ _
    rw [perform_bindSettings]
    show ∃ w', _ = (markOf (prospect connection w) (w.session.settingsOf connection).quoteMark, w') ∧ _
    cases hmark : (w.session.settingsOf connection).quoteMark with
    | none => exact hw.perform_dialectMark
    | some mark =>
        dsimp only
        rw [markOf]
        split
        · exact hw.perform_dialectMark
        · exact ⟨w, rfl, .refl hw⟩
  split
  · rename_i hmark
    obtain ⟨w', hresolves, ⟨failure, hdriver, hfails⟩ | ⟨d, hdriver, -⟩⟩ := hw.perform_driver
    · refine ⟨w', ?_, hresolves⟩
      have hnone : (w.session.settingsOf connection).quoteMark = none := by simpa using hmark
      have hfailure : (manner connection w).mark = .error failure := by
        show markOf (prospect connection w) (w.session.settingsOf connection).quoteMark = _
        rw [hnone, hfails]
        rfl
      rw [hfailure]
      exact perform_bind_error (perform_bind_error hdriver)
    · obtain ⟨w'', hrun, hresolves'⟩ := hafter ⟨⟩ w' hresolves.steady
      have hdiscard : (discard (driver connection) : Action E PUnit).perform w = (.ok ⟨⟩, w') :=
        perform_bind_ok hdriver
      refine ⟨w'', ?_, hresolves.trans hresolves'⟩
      rw [perform_bind_ok hdiscard, hrun, hresolves.manner]
  · exact hafter () w hw

/-- **A connection writes statements in its manner.** -/
theorem IsSteady.perform_rendering (hw : IsSteady connection w) :
    ∃ w', (rendering connection : Action E Rendering).perform w = ((manner connection w).rendering, w') ∧
      Resolves connection w w' := by
  obtain ⟨w', hdialect, hresolves⟩ := hw.perform_dialect
  obtain ⟨w'', hmark, hresolves'⟩ := hresolves.steady.perform_quoteMark
  rw [hresolves.manner] at hmark
  have hall := hresolves.trans hresolves'
  rw [rendering, Manner.rendering]
  cases hD : (manner connection w).dialect with
  | error failure =>
      rw [hD] at hdialect
      exact ⟨w', perform_bind_error hdialect, hresolves⟩
  | ok D =>
      rw [hD] at hdialect
      rw [perform_bind_ok hdialect]
      cases hM : (manner connection w).mark with
      | error failure =>
          rw [hM] at hmark
          exact ⟨w'', perform_bind_error hmark, hall⟩
      | ok mark =>
          rw [hM] at hmark
          refine ⟨w'', ?_, hall⟩
          rw [perform_bind_ok hmark, perform_bindSettings]
          have hstyle : (manner connection w).limitStyle =
              .ok ((w''.session.settingsOf connection).limitStyle.getD D.limitStyle) := by
            have hD'' : (manner connection w'').dialect = .ok D := by rw [hall.manner, hD]
            rw [← hall.manner]
            exact congrArg (Except.map _) hD''
          rw [hstyle]
          rfl

end Connection

end FluentSql
