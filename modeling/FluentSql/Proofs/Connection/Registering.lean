import FluentSql.Connection.Drivers
import FluentSql.Proofs.Session.Action
/-
# FluentSql.Proofs.Connection.Registering — what registering a driver changes.

A driver takes the place of the one before it and of its dialect. If there is a dialect for it, the dialect is made
and fills in the mark and the limit style where nothing stands (`Session.registered`).
-/

namespace FluentSql

open Step (Keeps Triple)

/-! ## Sessions with something else in place -/

/-- The session with another driver of a connection, which has no dialect yet. -/
def Session.withDriver (connection : String) (d : Driver) (s : Session) : Session :=
  { s with
    dialects := Entries.erase connection s.dialects
    drivers := Entries.put connection d s.drivers }

/-- The session with a new dialect of a connection. -/
def Session.withDialect (connection : String) (D : Dialect) (s : Session) : Session :=
  { s with
    dialects := Entries.put connection ⟨s.dialectCount, D⟩ s.dialects
    dialectCount := s.dialectCount + 1 }

/-- The session with other settings of a connection. -/
def Session.withSettings (connection : String) (settings : Settings) (s : Session) : Session :=
  { s with settings := Entries.put connection settings s.settings }

/-- The settings with what a dialect has where nothing stands. -/
def Settings.detecting (D : Dialect) (settings : Settings) : Settings :=
  { settings with
    quoteMark := settings.quoteMark <|> some D.quoteMark
    limitStyle := settings.limitStyle <|> some D.limitStyle }

/-- What registering a driver makes of a session. -/
def Session.registered (connection : String) (d : Driver) (s : Session) : Session :=
  match s.knownDialects.create d.kind.dialectName with
  | .ok D =>
    ((s.withDriver connection d).withDialect connection D).withSettings connection
      ((s.settingsOf connection).detecting D)
  | .error _ => s.withDriver connection d

namespace Session

variable {connection other : String} {s : Session}

theorem settingsOf_withSettings_self (settings : Settings) :
    (s.withSettings connection settings).settingsOf connection = settings := by
  simp [withSettings, settingsOf]

theorem settingsOf_withSettings_of_ne (hne : other ≠ connection) (settings : Settings) :
    (s.withSettings connection settings).settingsOf other = s.settingsOf other := by
  simp [withSettings, settingsOf, Entries.get?_put_of_ne (beq_false_of_ne hne)]

theorem drivers_registered (d : Driver) : (s.registered other d).drivers = Entries.put other d s.drivers := by
  unfold registered
  split <;> rfl

theorem knownDialects_registered (d : Driver) : (s.registered other d).knownDialects = s.knownDialects := by
  unfold registered
  split <;> rfl

end Session

namespace Connection

open Session (change)

variable {E : Environment}

/-! ## Making dialects and registering drivers -/

theorem perform_makeDialect_ok {d : Driver} {D : Dialect} {w : World E.State} (other : String)
    (hD : w.session.knownDialects.create d.kind.dialectName = .ok D) :
    (makeDialect other d : Action E MadeDialect).perform w =
      (.ok ⟨w.session.dialectCount, D⟩, { w with session := w.session.withDialect other D }) := by
  rw [makeDialect, Session.perform_bindCurrent, hD]
  rfl

theorem perform_makeDialect_error {d : Driver} {failure : Failure} {w : World E.State} (other : String)
    (hnone : w.session.knownDialects.create d.kind.dialectName = .error failure) :
    (makeDialect other d : Action E MadeDialect).perform w = (.error failure, w) := by
  rw [makeDialect, Session.perform_bindCurrent, hnone]
  rfl

theorem perform_bindChange {α : Type} (f : Session → Session) (next : Unit → Action E α) (w : World E.State) :
    (change f >>= next).perform w = (next ()).perform { w with session := f w.session } := rfl

/-- Registering a driver changes the session only, whether there is a dialect for the driver or not. -/
theorem leaves_registerDriver (other : String) (d : Driver) (w : World E.State) :
    ((registerDriver other d : Action E Unit).perform w).2 =
      { w with session := w.session.registered other d } := by
  rw [registerDriver, perform_bindChange, Session.registered]
  cases hcreate : w.session.knownDialects.create d.kind.dialectName with
  | error failure =>
      have hmade := perform_makeDialect_error (w := { w with session := w.session.withDriver other d })
        other hcreate
      exact congrArg Prod.snd (Step.perform_bind_error hmade)
  | ok D =>
      have hmade := perform_makeDialect_ok (w := { w with session := w.session.withDriver other d })
        other hcreate
      exact congrArg Prod.snd (Step.perform_bind_ok hmade)

/-! ## What looking for drivers and dialects keeps -/

variable {P : World E.State → Prop} {connection : String}

/-- The driver of a connection is registered already, or it is opened and registered. Opening it may fail. -/
theorem triple_driver_of
    (hopened : ∀ w opening opened o, P w → Entries.get? connection w.session.drivers = none →
      E.connect opening w.outside = (.ok opened, o) →
      P { w with session := w.session.registered connection (opening.driver opened), outside := o })
    (hrefused : ∀ w opening failure o, P w → E.connect opening w.outside = (.error failure, o) →
      P { w with outside := o }) :
    Triple P (driver connection) (fun d w => P w ∧ Entries.get? connection w.session.drivers = some d) P := by
  refine Session.triple_bindCurrent fun w hw => ?_
  split
  · rename_i d hd
    exact Triple.pure fun _ ht => ht ▸ ⟨hw, hd⟩
  · rename_i hnone
    refine triple_bindSettings ?_
    rintro w rfl
    let opening := Opening.ofString (w.session.settingsOf connection).connectionString
    refine Triple.bind (R := fun opened w' => ∃ o, E.connect opening w.outside = (.ok opened, o) ∧
      w' = { w with outside := o }) (Session.triple_outside ?_ ?_) ?_
    · rintro _ opened o rfl hrun
      exact ⟨o, hrun, rfl⟩
    · rintro _ failure o rfl hrun
      exact hrefused _ _ _ _ hw hrun
    · rintro opened w' ⟨o, hrun, rfl⟩
      have hP := hopened _ _ _ _ hw hnone hrun
      have hleft := leaves_registerDriver connection (opening.driver opened) { w with outside := o }
      rw [Step.perform_bind]
      rcases hregister : (registerDriver connection _ : Action E Unit).perform _ with ⟨result, w''⟩
      rw [hregister] at hleft
      obtain rfl : w'' = _ := hleft
      cases result with
      | error failure => exact hP
      | ok _ =>
          refine ⟨hP, ?_⟩
          rw [Session.drivers_registered]
          exact Entries.get?_put_self _ _ _

/-- The dialect of a connection was made already, or it is made for the driver. -/
theorem keeps_madeDialect_of
    (hdriver : Triple P (driver connection) (fun d w => P w ∧ Entries.get? connection w.session.drivers = some d) P)
    (hmade : ∀ w d D, P w → Entries.get? connection w.session.drivers = some d →
      w.session.knownDialects.create d.kind.dialectName = .ok D →
      P { w with session := w.session.withDialect connection D }) : Keeps P (madeDialect connection) := by
  refine Session.triple_bindCurrent fun w hw => ?_
  split
  · exact Triple.pure fun _ ht => ht ▸ hw
  · refine Triple.bind (hdriver.pre fun _ ht => ht ▸ hw) fun d => ?_
    rintro w' ⟨hw', hd⟩
    cases hcreate : w'.session.knownDialects.create d.kind.dialectName with
    | error failure =>
        rw [perform_makeDialect_error connection hcreate]
        exact hw'
    | ok D =>
        rw [perform_makeDialect_ok connection hcreate]
        exact hmade w' d D hw' hd hcreate

/-- However registering a driver ends, it leaves the session with the driver. -/
theorem keeps_registerDriver_of {d : Driver}
    (h : ∀ w, P w → P { w with session := w.session.registered connection d }) :
    Keeps P (registerDriver connection d) := by
  intro w hw
  have hP := h w hw
  rw [← leaves_registerDriver] at hP
  rcases hrun : (registerDriver connection d : Action E Unit).perform w with ⟨result, w'⟩
  rw [hrun] at hP
  cases result <;> exact hP

end Connection

end FluentSql
