import FluentSql.Proofs.Operation.Detection
/-
# FluentSql.Proofs.Operation.Drivers — drivers are opened once, and dialects are theirs.

Looking for a dialect looks for the driver, which may be opened and registered, and registering a driver looks for its
dialect. Each of these can fail half-way, and then one of the two maps has an entry that the other has not. Whatever is
asked of a session, and however it ends, a dialect that was made is the one of the driver that is registered
(`Session.FitsDrivers`), and a connection opens a driver only if it has none, which it then keeps until somebody forgets
it (`Openings.OpensOnce`).
-/

namespace FluentSql

open Step (Keeps Triple)

/-! ## Requests -/

/-- What can be asked of a session: something of a connection, or of all of them. -/
inductive SessionOperation where
  | of (connection : String) (operation : Operation)
  | dialect (connection : String)
  /-- The identifier mark. -/
  | quoteMark (connection : String)
  | resetDrivers
  | resetSettings
  | reset
  deriving Repr, Inhabited

namespace SessionOperation

variable {E : Environment}

/-- Does what is asked. -/
def perform : SessionOperation → Action E Unit
  | .of connection operation => do discard <| (operation.perform connection)
  | .dialect connection => do discard <| Connection.dialect connection
  | .quoteMark connection => do discard <| Connection.quoteMark connection
  | .resetDrivers => Session.resetDrivers
  | .resetSettings => Session.resetSettings
  | .reset => Session.reset

/-- What is left, whether it fails or not. -/
def leaves (w : World E.State) (asked : SessionOperation) : World E.State := (asked.perform.perform w).2

/-- What several requests leave. -/
def leavesAll (run : List SessionOperation) (w : World E.State) : World E.State := run.foldl leaves w

/-- The connection that something is asked of. -/
def connection? : SessionOperation → Option String
  | .of connection _ | .dialect connection | .quoteMark connection => some connection
  | .resetDrivers | .resetSettings | .reset => none

/-- The driver of a connection is to be forgotten. -/
def Forgets (connection : String) : SessionOperation → Prop
  | .of other (.setDriver none) => other = connection
  | .resetDrivers | .reset => True
  | _ => False

end SessionOperation

/-- What has nothing to do with the heap and with settings is kept by everything that is asked of a connection and its
records, if registering drivers, looking for them and making dialects keeps it. -/
theorem Connection.IgnoresStatements.keeps_of {E : Environment} {P : World E.State → Prop}
    (hP : IgnoresStatements P) (hheap : ∀ {w} heap, P w → P { w with heap := heap })
    (hset : ∀ other {w} settings, P w → P { w with session := w.session.withSettings other settings })
    (hcall : ∀ hook call, Keeps P (E.call hook call)) (hdriver : ∀ other, Keeps P (driver other))
    (hmade : ∀ other, Keeps P (madeDialect other)) (hregister : ∀ other d, Keeps P (registerDriver other d))
    (connection : String) {operation : Operation} (hstays : operation ≠ .setDriver none) :
    Keeps P (SessionOperation.of connection operation).perform :=
  Keeps.bind (hP.keeps_perform hheap (hset connection) hcall (hdriver connection) (hmade connection)
    (hregister connection) (hP.keeps_callRecord hcall hheap hdriver hmade connection) hstays) fun _ => Keeps.pure _

/-! ## Dialects -/

/-- The dialects that were made are those that the table has for the drivers that are registered. -/
structure Session.FitsDrivers (table : Dialects) (s : Session) : Prop where
  knownDialects : s.knownDialects = table
  dialect : ∀ connection made, Entries.get? connection s.dialects = some made →
    ∃ d, Entries.get? connection s.drivers = some d ∧ table.create d.kind.dialectName = .ok made.dialect
  distinctDrivers : s.drivers.Distinct
  distinctDialects : s.dialects.Distinct

namespace Session.FitsDrivers

variable {table : Dialects} {s s' : Session}

theorem likewise (h : s.FitsDrivers table) (hdrivers : s'.drivers = s.drivers) (hdialects : s'.dialects = s.dialects)
    (hknown : s'.knownDialects = s.knownDialects) : s'.FitsDrivers table where
  knownDialects := hknown.trans h.knownDialects
  dialect := by
    rw [hdialects, hdrivers]
    exact h.dialect
  distinctDrivers := hdrivers ▸ h.distinctDrivers
  distinctDialects := hdialects ▸ h.distinctDialects

/-- Where dialects fit, each connection has a history, if nobody asks which. -/
theorem accords (h : s.FitsDrivers table) (connection : String) : ∃ o, s.Accords connection o := by
  let settings := s.settingsOf connection
  refine ⟨⟨.ofChoice settings.quoteMark, .ofChoice settings.limitStyle⟩, (Origin.value_ofChoice _).symm,
    (Origin.value_ofChoice _).symm, ?_, h.distinctDrivers, h.distinctDialects⟩
  rw [h.knownDialects]
  exact h.dialect connection

theorem of_accords (hknown : s.knownDialects = table) (h : ∀ connection, ∃ o, s.Accords connection o) :
    s.FitsDrivers table := by
  obtain ⟨_, hsome⟩ := h "default"
  refine ⟨hknown, fun connection made hmade => ?_, hsome.distinctDrivers, hsome.distinctDialects⟩
  obtain ⟨_, haccords⟩ := h connection
  exact hknown ▸ haccords.dialect made hmade

theorem registered (h : s.FitsDrivers table) (other : String) (d : Driver) :
    (s.registered other d).FitsDrivers table := by
  refine of_accords ((Session.knownDialects_registered d).trans h.knownDialects) fun connection => ?_
  obtain ⟨o, haccords⟩ := h.accords connection
  by_cases hother : connection = other
  · subst hother
    exact ⟨_, haccords.registered d⟩
  · exact ⟨o, haccords.registered_of_ne hother d⟩

theorem withDialect (h : s.FitsDrivers table) {other : String} {d : Driver} {D : Dialect}
    (hd : Entries.get? other s.drivers = some d) (hD : s.knownDialects.create d.kind.dialectName = .ok D) :
    (s.withDialect other D).FitsDrivers table := by
  refine of_accords h.knownDialects fun connection => ?_
  obtain ⟨o, haccords⟩ := h.accords connection
  exact ⟨o, haccords.withDialect hd hD⟩

theorem withoutDriver (h : s.FitsDrivers table) (other : String) :
    Session.FitsDrivers table { s with
      dialects := Entries.erase other s.dialects
      drivers := Entries.erase other s.drivers } := by
  refine of_accords h.knownDialects fun connection => ?_
  obtain ⟨o, haccords⟩ := h.accords connection
  exact ⟨o, haccords.withoutDriver other⟩

theorem withoutDrivers (hknown : s.knownDialects = table) (hdrivers : s.drivers = []) (hdialects : s.dialects = []) :
    s.FitsDrivers table where
  knownDialects := hknown
  dialect connection made hmade := by simp [hdialects] at hmade
  distinctDrivers := hdrivers ▸ .nil
  distinctDialects := hdialects ▸ .nil

end Session.FitsDrivers

namespace Connection

variable {E : Environment} {table : Dialects}

theorem triple_driver_fitsDrivers (connection : String) :
    Triple (fun w : World E.State => w.session.FitsDrivers table) (driver connection)
      (fun d w => w.session.FitsDrivers table ∧ Entries.get? connection w.session.drivers = some d)
      (fun w => w.session.FitsDrivers table) :=
  triple_driver_of (fun _ _ _ _ hw _ _ => hw.registered connection _) fun _ _ _ _ hw _ => hw

theorem keeps_madeDialect_fitsDrivers (connection : String) :
    Keeps (fun w : World E.State => w.session.FitsDrivers table) (madeDialect connection) :=
  keeps_madeDialect_of (triple_driver_fitsDrivers connection) fun _ _ _ hw hd hD => hw.withDialect hd hD

theorem keeps_driver_fitsDrivers (connection : String) :
    Keeps (fun w : World E.State => w.session.FitsDrivers table) (driver connection) :=
  (triple_driver_fitsDrivers connection).post fun _ _ h => h.1

theorem ignoresStatements_fitsDrivers :
    IgnoresStatements fun w : World E.State => w.session.FitsDrivers table where
  streams _ _ _ hw := hw
  session hl hw := hw.likewise hl.drivers hl.dialects hl.knownDialects
  sending _ _ _ _ hw := hw
  fetching _ _ _ hw := hw
  reporting _ _ hw := hw

/-- **Whatever is asked of a session, the dialects fit the drivers after it, also if it fails.** -/
theorem keeps_fitsDrivers
    (hcall : ∀ hook call, Keeps (fun w : World E.State => w.session.FitsDrivers table) (E.call hook call))
    (asked : SessionOperation) : Keeps (fun w : World E.State => w.session.FitsDrivers table) asked.perform := by
  have hdriver : ∀ connection, Keeps (fun w : World E.State => w.session.FitsDrivers table)
      (Connection.driver connection) := keeps_driver_fitsDrivers
  have hmade : ∀ connection, Keeps (fun w : World E.State => w.session.FitsDrivers table)
      (Connection.madeDialect connection) := keeps_madeDialect_fitsDrivers
  have hof : ∀ connection {operation}, operation ≠ .setDriver none →
      Keeps (fun w : World E.State => w.session.FitsDrivers table) (SessionOperation.of connection operation).perform :=
    fun connection _ hstays => ignoresStatements_fitsDrivers.keeps_of (fun _ hw => hw)
      (fun _ _ _ hw => hw.likewise rfl rfl rfl) hcall hdriver hmade
      (fun other d => keeps_registerDriver_of fun _ hw => hw.registered other d) connection hstays
  match asked with
  | .of connection (.setDriver none) => exact Triple.modify fun _ hw => hw.withoutDriver connection
  | .of connection (.setDriver (some d)) => exact hof connection nofun
  | .of connection (.configure _ _) | .of connection (.setting _) | .of connection .allSettings
  | .of connection .driver | .of connection .rendering | .of connection (.quote _) | .of connection (.forTable _)
  | .of connection (.call _ _) | .of connection (.execute _ _) | .of connection (.clearCache _)
  | .of connection .queryLog | .of connection .lastQuery => exact hof connection nofun
  | .dialect connection => exact Keeps.bind (IgnoresStatements.keeps_dialect (hmade connection)) fun _ => Keeps.pure _
  | .quoteMark connection =>
      exact Keeps.bind (IgnoresStatements.keeps_quoteMark (hdriver connection) (hmade connection)) fun _ =>
        Keeps.pure _
  | .resetDrivers => exact Triple.modify fun _ hw => .withoutDrivers hw.knownDialects rfl rfl
  | .resetSettings => exact Triple.modify fun _ hw => hw.likewise rfl rfl rfl
  | .reset => exact Triple.modify fun _ hw => .withoutDrivers hw.knownDialects rfl rfl

/-- The dialect that a connection gives is that of its driver. -/
theorem triple_dialect_fitsDrivers (connection : String) :
    Triple (fun w : World E.State => w.session.FitsDrivers table) (dialect connection)
      (fun D w => w.session.FitsDrivers table ∧ ∃ d, Entries.get? connection w.session.drivers = some d ∧
        table.create d.kind.dialectName = .ok D) (fun w => w.session.FitsDrivers table) := by
  refine Triple.bind (R := fun made w => w.session.FitsDrivers table ∧
    ∃ d, Entries.get? connection w.session.drivers = some d ∧
      table.create d.kind.dialectName = .ok made.dialect) ?_ fun _ => Triple.pure fun _ ht => ht
  refine Session.triple_bindCurrent fun w hw => ?_
  split
  · rename_i made hmade
    exact Triple.pure fun _ ht => ht ▸ ⟨hw, hw.dialect connection made hmade⟩
  · refine Triple.bind ((triple_driver_fitsDrivers connection).pre fun _ ht => ht ▸ hw) fun d => ?_
    rintro w' ⟨hw', hd⟩
    cases hcreate : w'.session.knownDialects.create d.kind.dialectName with
    | error failure =>
        rw [perform_makeDialect_error connection hcreate]
        exact hw'
    | ok D =>
        rw [perform_makeDialect_ok connection hcreate]
        exact ⟨hw'.withDialect hd hcreate, d, hd, hw'.knownDialects ▸ hcreate⟩

/-- A driver that is registered stays while the connection is asked how it writes. -/
theorem keeps_quoteMark_ofDriver {connection : String} {d : Driver} :
    Keeps (fun w : World E.State => Entries.get? connection w.session.drivers = some d)
      (quoteMark connection : Action E String) := by
  have hdriver : Triple (fun w : World E.State => Entries.get? connection w.session.drivers = some d)
      (driver connection) (fun d' w => Entries.get? connection w.session.drivers = some d ∧
        Entries.get? connection w.session.drivers = some d')
      fun w => Entries.get? connection w.session.drivers = some d :=
    triple_driver_of (fun _ _ _ _ hw hnone _ => by simp [hw] at hnone) fun _ _ _ _ hw _ => hw
  exact IgnoresStatements.keeps_quoteMark (hdriver.post fun _ _ h => h.1)
    (keeps_madeDialect_of hdriver fun _ _ _ hw _ _ => hw)

/-- Statements are written in the dialect of the driver. -/
theorem triple_rendering_fitsDrivers (connection : String) :
    Triple (fun w : World E.State => w.session.FitsDrivers table) (rendering connection)
      (fun r w => ∃ d, Entries.get? connection w.session.drivers = some d ∧
        table.create d.kind.dialectName = .ok r.dialect) (fun _ => True) := by
  refine Triple.bind (triple_dialect_fitsDrivers connection).ifReturns fun D => ?_
  refine Triple.of_states fun w hw => ?_
  obtain ⟨-, d, hd, hD⟩ := hw
  refine Triple.bind ((keeps_quoteMark_ofDriver (d := d)).of_state hd) fun mark => ?_
  refine Triple.bind (Session.keeps_settings connection).ifReturns fun settings => ?_
  exact Triple.pure fun _ ht => ⟨d, ht, hD⟩

end Connection

/-! ## Opening drivers -/

/-- A count of the drivers that were opened from connection strings. -/
structure Openings (E : Environment) where
  count : E.State → Nat
  opened : ∀ opening s reached s', E.connect opening s = (.ok reached, s') → count s' = count s + 1
  refused : ∀ opening s failure s', E.connect opening s = (.error failure, s') → count s' = count s
  execute : ∀ link text params s, count (E.execute link text params s).2 = count s
  fetch : ∀ cursor number s, count (E.fetch cursor number s).2 = count s
  insertId : ∀ link s, count (E.insertId link s).2 = count s

namespace Openings

variable {E : Environment} (openings : Openings E) (connection : String)

/-- How many drivers are still to be opened for the connection: one if it has none. -/
def due (w : World E.State) : Nat := if (Entries.get? connection w.session.drivers).isSome then 0 else 1

/-- From one world to another the driver of the connection was opened at most, and only if it was due, and it was not
forgotten. -/
structure OpensOnce (w w' : World E.State) : Prop where
  counted : openings.count w.outside ≤ openings.count w'.outside
  due : openings.count w'.outside + due connection w' ≤ openings.count w.outside + due connection w

/-- The functions of the caller open the driver of the connection at most, if it has none, and do not forget it; and
they move none of its records to another connection. -/
structure IsUndisturbed : Prop where
  call : ∀ hook call (w : World E.State), openings.OpensOnce connection w ((E.call hook call).perform w).2
  record : ∀ id hook call, Keeps (fun w : World E.State => ∃ r, w.heap.cell? id = some (.record r) ∧
    r.connection = connection) (E.call hook call)

/-- How many drivers were opened while something was asked of the connection. -/
def during : List SessionOperation → World E.State → Nat
  | [], _ => 0
  | asked :: rest, w =>
    (if asked.connection? = some connection then
      openings.count (asked.leaves w).outside - openings.count w.outside
    else 0) + during rest (asked.leaves w)

variable {openings connection} {w₀ w w' : World E.State} {number : Option Nat}

namespace OpensOnce

theorem refl (w : World E.State) : openings.OpensOnce connection w w := ⟨Nat.le_refl _, Nat.le_refl _⟩

theorem trans {w'' : World E.State} (h : openings.OpensOnce connection w w')
    (h' : openings.OpensOnce connection w' w'') : openings.OpensOnce connection w w'' :=
  ⟨Nat.le_trans h.counted h'.counted, Nat.le_trans h'.due h.due⟩

/-- Nothing happened to the drivers, and none was opened. -/
theorem of_same (hcount : openings.count w'.outside = openings.count w.outside)
    (hdrivers : w'.session.drivers = w.session.drivers) : openings.OpensOnce connection w w' :=
  ⟨Nat.le_of_eq hcount.symm, Nat.le_of_eq (by rw [hcount, Openings.due, Openings.due, hdrivers])⟩

/-- A driver that is registered is not forgotten. -/
theorem isSome (h : openings.OpensOnce connection w w')
    (hdriver : (Entries.get? connection w.session.drivers).isSome) :
    (Entries.get? connection w'.session.drivers).isSome := by
  have hdue := h.due
  have hcounted := h.counted
  by_contra hnone
  simp only [Openings.due, hdriver, hnone, if_true, if_false] at hdue
  omega

end OpensOnce

theorem due_registered (d : Driver) (o : E.State) :
    due connection { w with session := w.session.registered connection d, outside := o } = 0 := by
  simp [due, Session.drivers_registered, Entries.get?_put_self]

/-- The world follows one where at most the driver of the connection was still to be opened. If a record is concerned,
it is one of the connection. -/
structure Follows (openings : Openings E) (connection : String) (number : Option Nat) (w₀ w : World E.State) :
    Prop where
  once : openings.OpensOnce connection w₀ w
  record : ∀ id, number = some id → ∃ r, w.heap.cell? id = some (.record r) ∧ r.connection = connection

/-- Nothing is to be known of the heap. -/
theorem OpensOnce.follows (h : openings.OpensOnce connection w₀ w) : openings.Follows connection none w₀ w :=
  ⟨h, fun _ hid => by cases hid⟩

theorem Follows.withHeap (h : openings.Follows connection none w₀ w) (heap : Heap) :
    openings.Follows connection none w₀ { w with heap := heap } := by
  have honce : openings.OpensOnce connection w₀ { w with heap := heap } := h.once.trans (.of_same rfl rfl)
  exact honce.follows

theorem Follows.of_same (h : openings.Follows connection number w₀ w)
    (hcount : openings.count w'.outside = openings.count w.outside)
    (hdrivers : w'.session.drivers = w.session.drivers) (hheap : w'.heap = w.heap) :
    openings.Follows connection number w₀ w' :=
  ⟨h.once.trans (.of_same hcount hdrivers), hheap ▸ h.record⟩

open Connection

theorem ignoresStatements_follows : IgnoresStatements (openings.Follows connection number w₀) where
  streams w h hd hw := by
    refine ⟨hw.once.trans (.of_same rfl rfl), fun id hid => ?_⟩
    obtain ⟨r, hr, hconnection⟩ := hw.record id hid
    exact ⟨r, hd.cell?_record hr, hconnection⟩
  session hl hw := hw.of_same rfl hl.drivers rfl
  sending link text params _ hw := hw.of_same (openings.execute link text params _) rfl rfl
  fetching cursor count _ hw := hw.of_same (openings.fetch cursor count _) rfl rfl
  reporting link _ hw := hw.of_same (openings.insertId link _) rfl rfl

theorem triple_driver_follows :
    Triple (openings.Follows connection number w₀) (driver connection)
      (fun d w => openings.Follows connection number w₀ w ∧ Entries.get? connection w.session.drivers = some d)
      (openings.Follows connection number w₀) := by
  refine triple_driver_of (fun w opening opened o hw hnone hrun => ?_) fun w opening failure o hw hrun => ?_
  · have hcount := openings.opened _ _ _ _ hrun
    refine ⟨hw.once.trans ⟨hcount ▸ Nat.le_succ _, ?_⟩, hw.record⟩
    rw [due_registered, hcount]
    simp [due, hnone]
  · exact hw.of_same (openings.refused _ _ _ _ hrun) rfl rfl

theorem keeps_driver_follows : Keeps (openings.Follows connection number w₀) (driver connection) :=
  triple_driver_follows.post fun _ _ h => h.1

theorem keeps_madeDialect_follows : Keeps (openings.Follows connection number w₀) (madeDialect connection) :=
  keeps_madeDialect_of triple_driver_follows fun _ _ _ hw _ _ => hw.of_same rfl rfl rfl

theorem keeps_registerDriver_follows (d : Driver) :
    Keeps (openings.Follows connection number w₀) (registerDriver connection d) :=
  keeps_registerDriver_of fun w hw =>
    ⟨hw.once.trans ⟨Nat.le_refl _, by rw [due_registered]; exact Nat.add_le_add_left (Nat.zero_le _) _⟩, hw.record⟩

section

variable (hundisturbed : openings.IsUndisturbed connection)
include hundisturbed

theorem keeps_call_follows (hook : Hook) (call : HookCall) :
    Keeps (openings.Follows connection number w₀) (E.call hook call) := by
  intro w hw
  have honce := hw.once.trans (hundisturbed.call hook call w)
  have hrecord : ∀ id, number = some id → ∃ r, ((E.call hook call).perform w).2.heap.cell? id = some (.record r) ∧
      r.connection = connection := fun id hid => (hundisturbed.record id hook call).leaves (hw.record id hid)
  rcases hrun : (E.call hook call).perform w with ⟨result, w'⟩
  rw [hrun] at honce hrecord
  cases result <;> exact ⟨honce, hrecord⟩

/-- A record of the connection asks for no other driver, whatever it is called for. -/
theorem triple_act_follows {id : Nat} {r : Record} (hr : r.connection = connection) (asked : Record.Call) :
    Triple (fun w => openings.Follows connection none w₀ w ∧ (w.heap.cell? id).isSome)
      (Record.act id r (Record.perform asked) : Action E Record.Outcome)
      (fun _ => openings.Follows connection none w₀) (openings.Follows connection none w₀) := by
  let InScope (s : Record.Scope E) : Prop :=
    s.number = some id ∧ s.record.connection = connection ∧ openings.OpensOnce connection w₀ s.world ∧
      (s.world.heap.cell? id).isSome
  have hpublished : ∀ s, InScope s → openings.Follows connection (some id) w₀ s.published := by
    rintro s ⟨hnumber, hconnection, honce, hcell⟩
    obtain ⟨cell, hcell⟩ := Option.isSome_iff_exists.1 hcell
    refine ⟨honce.trans (.of_same (congrArg openings.count s.outside_published)
      (congrArg Session.drivers s.session_published)), ?_⟩
    rintro _ ⟨⟩
    exact ⟨s.record, Record.Scope.cell?_published hnumber hcell, hconnection⟩
  have hrenewed : ∀ s w, InScope s → openings.Follows connection (some id) w₀ w → InScope (s.renewed w) := by
    rintro s w ⟨hnumber, -, -, -⟩ hw
    obtain ⟨r', hr', hconnection⟩ := hw.record id rfl
    have heq : s.renewed w = { s with world := w, record := r' } := by
      simp [Record.Scope.renewed, hnumber, hr']
    rw [heq]
    exact ⟨hnumber, hconnection, hw.once, by simp [hr']⟩
  have hignores : IgnoresStatements (openings.Follows connection (some id) w₀) := ignoresStatements_follows
  have hmadeOf := (hignores.coversAll (keeps_call_follows hundisturbed) (C := (· = connection))
    (fun hc => hc ▸ keeps_driver_follows) fun hc => hc ▸ keeps_madeDialect_follows).madeOf_perform asked
  have hcall : Keeps InScope (Record.perform asked) := by
    refine hmadeOf.keeps (fun s hs => hs.2.1) ?_ ?_
    · rintro s r' ⟨hnumber, hconnection, honce, hcell⟩ hr'
      exact ⟨hnumber, hr'.trans hconnection, honce, hcell⟩
    · intro α action R haction
      refine Triple.of_states fun s hs => Triple.onPart s haction.2 (hpublished s hs) ?_ ?_
      · exact fun a w hw => ⟨hrenewed s w hs hw, haction.1 a⟩
      · exact fun w hw => hrenewed s w hs hw
  refine Triple.of_states fun w hw => Triple.onPart w hcall ⟨rfl, hr, hw.1.once, hw.2⟩ ?_ ?_
  · exact fun _ s hs => (hpublished s hs).once.follows
  · exact fun s hs => (hpublished s hs).once.follows

end

/-- A request to the connection opens its driver at most, and only if it has none. -/
theorem opensOnce_leaves (hundisturbed : openings.IsUndisturbed connection) {asked : SessionOperation}
    (hasked : asked.connection? = some connection) (hstays : ¬ asked.Forgets connection) (w : World E.State) :
    openings.OpensOnce connection w (asked.leaves w) := by
  have hstart : openings.Follows connection none w w := OpensOnce.follows (.refl w)
  have hdialect : Keeps (openings.Follows connection none w) (madeDialect connection) := keeps_madeDialect_follows
  suffices main : Keeps (openings.Follows connection none w) asked.perform from (main.leaves hstart).once
  match asked, hasked with
  | .of _ operation, rfl =>
      refine Keeps.bind (IgnoresStatements.keeps_perform (fun heap hw => hw.withHeap heap)
        (fun _ hw => hw.of_same rfl rfl rfl) ignoresStatements_follows (keeps_call_follows hundisturbed)
        keeps_driver_follows hdialect keeps_registerDriver_follows ?_ ?_) fun _ => Keeps.pure _
      · intro number asked
        refine keeps_callRecord_of (fun heap hw => hw.withHeap heap) fun w r hw hr hown => ?_
        exact (triple_act_follows hundisturbed hown asked).pre fun _ ht => ht ▸ ⟨hw, by simp [hr]⟩
      · rintro rfl
        exact hstays rfl
  | .dialect _, rfl => exact Keeps.bind (IgnoresStatements.keeps_dialect hdialect) fun _ => Keeps.pure _
  | .quoteMark _, rfl =>
      exact Keeps.bind (IgnoresStatements.keeps_quoteMark keeps_driver_follows hdialect) fun _ => Keeps.pure _

/-- A driver that is registered stays until it is to be forgotten, whatever is asked of whatever connection. -/
theorem keeps_isSome (hundisturbed : openings.IsUndisturbed connection) {asked : SessionOperation}
    (hstays : ¬ asked.Forgets connection) :
    Keeps (fun w : World E.State => (Entries.get? connection w.session.drivers).isSome) asked.perform := by
  let P (w : World E.State) : Prop := (Entries.get? connection w.session.drivers).isSome
  have hregistered : ∀ other d (w : World E.State), P w → P { w with session := w.session.registered other d } := by
    intro other d w hw
    simp only [P, Session.drivers_registered]
    by_cases hother : connection = other
    · simp [hother, Entries.get?_put_self]
    · rwa [Entries.get?_put_of_ne (beq_false_of_ne hother)]
  have hdriver : ∀ other, Triple P (driver other)
      (fun d w => P w ∧ Entries.get? other w.session.drivers = some d) P := fun other =>
    triple_driver_of (fun w _ _ _ hw _ _ => hregistered other _ w hw) fun _ _ _ _ hw _ => hw
  have hmade : ∀ other, Keeps P (madeDialect other) := fun other =>
    keeps_madeDialect_of (hdriver other) fun _ _ _ hw _ _ => hw
  have hignores : IgnoresStatements P := by
    refine ⟨fun _ _ _ hw => hw, fun hl hw => ?_, fun _ _ _ _ hw => hw, fun _ _ _ hw => hw, fun _ _ hw => hw⟩
    simp only [P, hl.drivers]
    exact hw
  have hcall : ∀ hook call, Keeps P (E.call hook call) := by
    intro hook call w hw
    have hleft := (hundisturbed.call hook call w).isSome hw
    rcases hrun : (E.call hook call).perform w with ⟨result, w'⟩
    rw [hrun] at hleft
    cases result <;> exact hleft
  match asked with
  | .of other operation =>
      by_cases hforget : operation = .setDriver none
      · subst hforget
        have hne : (connection == other) = false := beq_false_of_ne (Ne.symm hstays)
        exact Triple.modify fun w hw => by rwa [Entries.get?_erase_of_ne hne]
      · exact hignores.keeps_of (fun _ hw => hw) (fun _ _ _ hw => hw) hcall
          (fun other => (hdriver other).post fun _ _ h => h.1) hmade
          (fun other d => keeps_registerDriver_of (hregistered other d)) other hforget
  | .dialect other => exact Keeps.bind (IgnoresStatements.keeps_dialect (hmade other)) fun _ => Keeps.pure _
  | .quoteMark other =>
      exact Keeps.bind (IgnoresStatements.keeps_quoteMark ((hdriver other).post fun _ _ h => h.1) (hmade other))
        fun _ => Keeps.pure _
  | .resetSettings => exact Triple.modify fun _ hw => hw
  | .resetDrivers | .reset => exact absurd trivial hstays

/-- **While the driver of a connection is not to be forgotten, no driver is opened for it if it has one, and else one at
most.** -/
theorem during_le_due (hundisturbed : openings.IsUndisturbed connection) (run : List SessionOperation)
    (hstays : ∀ asked ∈ run, ¬ asked.Forgets connection) (w : World E.State) :
    openings.during connection run w + due connection (SessionOperation.leavesAll run w) ≤ due connection w := by
  induction run generalizing w with
  | nil => exact Nat.le_of_eq (Nat.zero_add _)
  | cons asked rest ih =>
      have hfirst := hstays asked List.mem_cons_self
      have hrest := ih (fun other hother => hstays other (List.mem_cons_of_mem _ hother)) (asked.leaves w)
      simp only [during, SessionOperation.leavesAll, List.foldl_cons] at hrest ⊢
      split
      · rename_i hasked
        have honce := opensOnce_leaves hundisturbed hasked hfirst w
        have hdue := honce.due
        have hcounted := honce.counted
        omega
      · have hkept : due connection (asked.leaves w) ≤ due connection w := by
          unfold due
          cases hdriver : (Entries.get? connection w.session.drivers).isSome with
          | false => split <;> simp
          | true =>
              have hstill : (Entries.get? connection (asked.leaves w).session.drivers).isSome :=
                (keeps_isSome hundisturbed hfirst).leaves hdriver
              simp [hstill]
        omega

end Openings

/-- **After every run of requests, failing ones included, the dialects that were made are those of the drivers that are
registered, and statements are written in the dialect of the current driver. While the driver of a connection is not to
be forgotten, at most one driver is opened for it, and none if it has one.** -/
theorem dialects_fit_and_drivers_open_once {E : Environment} (openings : Openings E) {table : Dialects}
    (hcall : ∀ hook call, Keeps (fun w : World E.State => w.session.FitsDrivers table) (E.call hook call))
    {w : World E.State} (hw : w.session.FitsDrivers table) (run : List SessionOperation) :
    (SessionOperation.leavesAll run w).session.FitsDrivers table ∧
      (∀ connection r w', (Connection.rendering connection : Action E Rendering).perform
          (SessionOperation.leavesAll run w) = (.ok r, w') →
        ∃ d, Entries.get? connection w'.session.drivers = some d ∧
          table.create d.kind.dialectName = .ok r.dialect) ∧
      ∀ connection, openings.IsUndisturbed connection → (∀ asked ∈ run, ¬ asked.Forgets connection) →
        openings.during connection run w ≤
          if (Entries.get? connection w.session.drivers).isSome then 0 else 1 := by
  have hfits : (SessionOperation.leavesAll run w).session.FitsDrivers table := by
    induction run generalizing w with
    | nil => exact hw
    | cons asked rest ih => exact ih ((Connection.keeps_fitsDrivers hcall asked).leaves hw)
  refine ⟨hfits, fun connection r w' hrun => ?_, fun connection hundisturbed hstays => ?_⟩
  · exact (Connection.triple_rendering_fitsDrivers connection).of_ok hfits hrun
  · exact Nat.le_trans (Nat.le_add_right _ _) (Openings.during_le_due hundisturbed run hstays w)

/-- An outside with database files, but without a toolkit, that counts the files it opens. -/
def Environment.filing : Environment where
  State := Nat
  digest text := text
  connect
    | .file _, s => (.ok ⟨⟨s⟩, "sqlite", "qmark"⟩, s + 1)
    | .engine _ _, s => (.error (.database "no toolkit"), s)
  execute _ _ _ s := (.ok ⟨0, none, 0, .null⟩, s)
  fetch _ _ s := (.ok [], s)
  insertId _ s := (.ok .null, s)
  call _ _ := pure .null

/-- What it counts. -/
def Openings.filing : Openings .filing where
  count s := s
  opened
    | .file _, _, _, _, hrun => by cases hrun; rfl
    | .engine _ _, _, _, _, hrun => by cases hrun
  refused
    | .file _, _, _, _, hrun => by cases hrun
    | .engine _ _, _, _, _, hrun => by cases hrun; rfl
  execute _ _ _ _ := rfl
  fetch _ _ _ := rfl
  insertId _ _ := rfl

/-- A connection is refused at first. Then it gets a file, and is asked for more than once. -/
def visits : List SessionOperation := [
  .of "default" (.configure (.text "mysql://host/db") none),
  .dialect "default",
  .of "default" (.configure (.text "sqlite:a.db") none),
  .of "default" .rendering,
  .of "other" .driver,
  .of "default" (.execute (.text "VACUUM") .null),
  .quoteMark "default"]

/-- One file is opened for it. -/
theorem dialects_fit_and_drivers_open_once_visits :
    (SessionOperation.leavesAll visits (E := .filing) { outside := (0 : Nat) }).session.FitsDrivers .standard ∧
      Openings.filing.during "default" visits { outside := (0 : Nat) } = 1 := by
  have hcall : ∀ hook call, Keeps (fun w : World Nat => w.session.FitsDrivers .standard)
      (Environment.filing.call hook call) := fun _ _ => Keeps.pure Value.null
  have hundisturbed : Openings.filing.IsUndisturbed "default" :=
    ⟨fun _ _ w => Openings.OpensOnce.refl w, fun _ _ _ => Keeps.pure Value.null⟩
  obtain ⟨hfits, -, honce⟩ := dialects_fit_and_drivers_open_once Openings.filing hcall
    (w := { outside := (0 : Nat) }) (.withoutDrivers rfl rfl rfl) visits
  refine ⟨hfits, Nat.le_antisymm (honce "default" hundisturbed ?_) ?_⟩
  · simp [visits, SessionOperation.Forgets]
  · decide

end FluentSql
