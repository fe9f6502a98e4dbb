import FluentSql.Proofs.Connection.Looks
import FluentSql.Proofs.Connection.Quiet
import FluentSql.Proofs.Record.Scope
/-
# FluentSql.Proofs.Connection.Executing — what executing a statement leaves alone.

A statement that is executed over a driver becomes the last one, and may be logged and empty a cache. Everything else of
a session remains (`Session.SameButTraffic`), and so do the values that the heap keeps, as long as the functions of the
caller that are told of the statement touch nothing but what lies outside (`Environment.TellsOutside`).
-/

namespace FluentSql

open Step (Keeps Triple)

/-- Whether a function of the caller is called to be told of a statement, or of a cache that is cleared after it. -/
def HookCall.tells : HookCall → Bool
  | .log _ | .clearCache _ _ => true
  | _ => false

/-- The functions of the caller that are told of statements touch nothing but what lies outside. -/
def Environment.TellsOutside (E : Environment) : Prop :=
  ∀ hook call (w : World E.State), call.tells = true → ∃ o, ((E.call hook call).perform w).2 = { w with outside := o }

/-- The sessions differ at most in what databases reported, in what was logged, and in what is kept of reads. -/
structure Session.SameButTraffic (s s' : Session) : Prop where
  settings : s'.settings = s.settings
  drivers : s'.drivers = s.drivers
  dialects : s'.dialects = s.dialects
  lastStatement : s'.lastStatement = s.lastStatement

theorem Session.SameButTraffic.refl (s : Session) : s.SameButTraffic s := ⟨rfl, rfl, rfl, rfl⟩

theorem Session.SameButTraffic.trans {s s' s'' : Session} (h : s.SameButTraffic s') (h' : s'.SameButTraffic s'') :
    s.SameButTraffic s'' :=
  ⟨h'.settings.trans h.settings, h'.drivers.trans h.drivers, h'.dialects.trans h.dialects,
    h'.lastStatement.trans h.lastStatement⟩

/-- From one world to another there was traffic with databases, and nothing else happened. -/
structure World.Remains {σ : Type} (w w' : World σ) : Prop where
  heap : w.heap.Drains w'.heap
  session : w.session.SameButTraffic w'.session

theorem World.Remains.refl {σ : Type} (w : World σ) : w.Remains w := ⟨.refl _, .refl _⟩

namespace Connection

open Session (current change inHeap outside callHook)

variable {E : Environment} {α : Type} {w : World E.State} {connection : String} {d : Driver}

/-! ## Traffic -/

theorem ignoresStreams_remains : IgnoresStreams (World.Remains w) := fun _ _ hd hw' => ⟨hw'.heap.trans hd, hw'.session⟩

theorem keeps_remains_change {f : Session → Session} (hf : ∀ s : Session, s.SameButTraffic (f s)) :
    Keeps w.Remains (change f : Action E Unit) :=
  Session.triple_change fun w' hw' => ⟨hw'.heap, hw'.session.trans (hf w'.session)⟩

theorem keeps_remains_outside (transition : E.State → Except Failure α × E.State) :
    Keeps w.Remains (outside transition : Action E α) :=
  Session.keeps_outside fun hw => ⟨hw.heap, hw.session⟩

theorem keeps_remains_driver (hd : Entries.get? connection w.session.drivers = some d) :
    Keeps w.Remains (driver connection : Action E Driver) := by
  intro w' hw'
  rw [perform_driver (hw'.session.drivers ▸ hd)]
  exact hw'

theorem keeps_remains_send (d : Driver) (sql params : Value) :
    Keeps w.Remains (send d sql params : Action E Statement) :=
  ignoresStreams_remains.keeps_send_of (fun _ _ => keeps_remains_outside _)
    (fun _ => keeps_remains_change fun _ => ⟨rfl, rfl, rfl, rfl⟩) sql params

theorem keeps_remains_fetchRow (statement : Statement) :
    Keeps w.Remains (fetchRow statement : Action E (Option Value)) :=
  ignoresStreams_remains.keeps_fetchRow_of (keeps_remains_outside _)

theorem keeps_remains_lastInsertId (d : Driver) : Keeps w.Remains (lastInsertId d : Action E Value) :=
  keeps_lastInsertId_of (keeps_remains_outside _)

section

variable (hE : E.TellsOutside)
include hE

theorem keeps_remains_callHook (hook : Hook) {call : HookCall} (hcall : call.tells = true) :
    Keeps w.Remains (callHook hook call : Action E Value) := by
  intro w' hw'
  obtain ⟨o, hleaves⟩ := hE hook call w' hcall
  rcases hrun : (callHook hook call : Action E Value).perform w' with ⟨result, w''⟩
  obtain rfl : w'' = { w' with outside := o } := (congrArg Prod.snd hrun).symm.trans hleaves
  cases result <;> exact ⟨hw'.heap, hw'.session⟩

theorem keeps_remains_logQuery (hd : Entries.get? connection w.session.drivers = some d) (sql params : Value) :
    Keeps w.Remains (logQuery connection sql params : Action E Unit) :=
  ignoresStreams_remains.keeps_logQuery_of (keeps_remains_driver hd)
    (fun _ => keeps_remains_change fun _ => ⟨rfl, rfl, rfl, rfl⟩) (fun _ _ => keeps_remains_callHook hE _ rfl) sql params

theorem keeps_remains_clearCache (table : Value) (connection : String) :
    Keeps w.Remains (clearCache table connection : Action E Unit) :=
  ignoresStreams_remains.keeps_clearCache_of
    (keeps_putStore_of (fun _ => keeps_remains_change fun _ => ⟨rfl, rfl, rfl, rfl⟩)
      fun _ _ => keeps_remains_change fun _ => ⟨rfl, rfl, rfl, rfl⟩)
    fun _ => keeps_remains_callHook hE _ rfl

end

/-! ## Executing -/

open Record.Scope (Visits)

/-- Looking for the driver of a connection finds the one that is registered then. -/
theorem triple_driver_registers :
    Triple (· = w) (driver connection : Action E Driver)
      (fun d w' => Visits (fun _ => True) connection w w' ∧ Entries.get? connection w'.session.drivers = some d)
      fun _ => True := by
  have hopens : Triple (· = w) (driver connection : Action E Driver)
      (fun _ => Visits (fun _ => True) connection w) fun _ => True := by
    refine (keeps_driver (P := fun _ => True) (w := w)).consequence ?_ ?_ fun _ _ => trivial
    · rintro _ rfl
      exact Opens.taking ⟨rfl, fun _ _ hJ => hJ, .refl _⟩
    · exact fun _ w' h => .of_opensWith h.opensWith
  have hregister : ∀ d, Triple (fun _ => True) (registerDriver connection d : Action E Unit)
      (fun _ w' => Entries.get? connection w'.session.drivers = some d) fun _ => True := by
    intro d w' _
    have hleaves := leaves_registerDriver (E := E) connection d w'
    rcases hrun : (registerDriver connection d : Action E Unit).perform w' with ⟨_ | _, w''⟩
    · trivial
    · rw [hrun] at hleaves
      obtain rfl : w'' = _ := hleaves
      show Entries.get? connection (w'.session.registered connection d).drivers = some d
      rw [Session.drivers_registered]
      exact Entries.get?_put_self _ _ _
  have hregistered : Triple (· = w) (driver connection : Action E Driver)
      (fun d w' => Entries.get? connection w'.session.drivers = some d) fun _ => True := by
    refine Session.triple_bindCurrent ?_
    rintro w rfl
    split
    · rename_i d hd
      exact Triple.pure fun _ h => h ▸ hd
    · refine Triple.bind Triple.anything fun settings => Triple.bind Triple.anything fun opened => ?_
      exact Triple.bind (hregister _) fun _ => Triple.pure fun _ h => h
  exact (hopens.and hregistered).consequence (fun _ h => h) (fun _ _ h => h) fun _ _ => trivial

/-- A statement was executed over a driver that is still registered, and values are what they were. -/
structure HasExecuted (connection : String) (statement : Statement) (w w' : World E.State) : Prop
    extends Visits (fun _ => True) connection w w' where
  driver : ∃ d, Entries.get? connection w'.session.drivers = some d
  last : w'.session.lastStatement = some statement

theorem visits_of_remains {w' w'' : World E.State} (h : Visits (fun _ => True) connection w w')
    (hremains : w'.Remains w'') : Visits (fun _ => True) connection w w'' := by
  have hsettings : ∀ connection, w''.session.settingsOf connection = w'.session.settingsOf connection := fun other => by
    rw [Session.settingsOf, Session.settingsOf, hremains.session.settings]
  refine ⟨h.heap.trans hremains.heap, ⟨fun other mark hmark => ?_, fun other heap table => ?_⟩,
    Record.hasMarks_true _ _⟩
  · rw [hsettings]
    exact h.session.quoteMark other mark hmark
  · rw [hsettings]
    exact h.session.keyOf other heap table

theorem HasExecuted.of_remains {statement : Statement} {w' w'' : World E.State}
    (h : HasExecuted connection statement w w') (hremains : w'.Remains w'') :
    HasExecuted connection statement w w'' :=
  ⟨visits_of_remains h.toVisits hremains, hremains.session.drivers ▸ h.driver,
    hremains.session.lastStatement ▸ h.last⟩

theorem triple_execute (hE : E.TellsOutside) (sql params : Value) :
    Triple (· = w) (execute connection sql params : Action E Statement)
      (fun statement => HasExecuted connection statement w) fun _ => True := by
  refine Triple.bind triple_driver_registers fun d => Triple.of_states fun w₁ hw₁ => ?_
  obtain ⟨hvisits, hd⟩ := hw₁
  have hsend : Triple (· = w₁) (send d sql params : Action E Statement) (fun _ => w₁.Remains) fun _ => True :=
    (keeps_remains_send d sql params).consequence (fun _ h => h ▸ .refl _) (fun _ _ h => h) fun _ _ => trivial
  refine Triple.bind hsend fun statement => ?_
  refine Triple.bind (R := fun _ w₂ => HasExecuted connection statement w w₂ ∧
      Entries.get? connection w₂.session.drivers = some d) (Session.triple_change fun w₂ hw₂ => ?_) fun _ => ?_
  · have hd₂ : Entries.get? connection w₂.session.drivers = some d := hw₂.session.drivers ▸ hd
    have hvisits₂ := visits_of_remains hvisits hw₂
    exact ⟨⟨⟨hvisits₂.heap, ⟨hvisits₂.session.quoteMark, hvisits₂.session.keyOf⟩, Record.hasMarks_true _ _⟩,
      ⟨d, hd₂⟩, rfl⟩, hd₂⟩
  · refine Triple.of_states fun w₃ hw₃ => ?_
    obtain ⟨hexecuted, hd₃⟩ := hw₃
    refine Triple.bind (R := fun _ => w₃.Remains) ?_ fun _ => Triple.pure fun _ h => hexecuted.of_remains h
    exact (keeps_remains_logQuery hE hd₃ sql params).consequence (fun _ h => h ▸ .refl _) (fun _ _ h => h) fun _ _ =>
      trivial

/-! ## The dialect of a registered driver -/

/-- A connection with a driver finds its dialect, and changes nothing else. -/
theorem triple_dialect_of_registered (hd : Entries.get? connection w.session.drivers = some d) :
    Triple (· = w) (dialect connection : Action E Dialect)
      (fun D w' => (∃ session, w.session.SameButDialects session ∧ w' = { w with session }) ∧
        ∃ made, Entries.get? connection w'.session.dialects = some made ∧ made.dialect = D) fun _ => True := by
  refine Triple.bind (R := fun made w' => (∃ session, w.session.SameButDialects session ∧ w' = { w with session }) ∧
      Entries.get? connection w'.session.dialects = some made) ?_ fun made => Triple.pure fun w' h => ⟨h.1, made, h.2, rfl⟩
  refine Session.triple_bindCurrent ?_
  rintro w rfl
  split
  · rename_i made hmade
    exact Triple.pure fun _ h => ⟨⟨w.session, .refl _, h⟩, h ▸ hmade⟩
  · rintro w rfl
    rw [Step.perform_bind_ok (perform_driver hd)]
    cases hD : w.session.knownDialects.create d.kind.dialectName with
    | error failure =>
        rw [perform_makeDialect_error connection hD]
        trivial
    | ok D =>
        rw [perform_makeDialect_ok connection hD]
        exact ⟨⟨_, ⟨_, _, rfl⟩, rfl⟩, Entries.get?_put_self _ _ _⟩

end Connection

end FluentSql
