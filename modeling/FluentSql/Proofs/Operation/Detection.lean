import FluentSql.Proofs.Cache.Store
import FluentSql.Proofs.Connection.Options
import FluentSql.Proofs.Connection.Registering
import FluentSql.Proofs.Operation.Upkeep
import FluentSql.Proofs.Record.Balance
/-
# FluentSql.Proofs.Operation.Detection — where the mark and the limit style of a connection come from.

Registering a driver writes the mark and the limit style of its dialect into the settings, unless something
stands there already. What stands there was chosen by the caller or detected from a driver, and the settings do
not say which. So the history is carried along (`Origins`), and decides whether statements are written as the
caller chose, or else as the dialect of the registered driver has it (`follows_driver_iff`): they are, as long as no
other driver was detected before, or its dialect writes alike.
-/

namespace FluentSql

open Step (Keeps Triple)

/-! ## Origins -/

/-- What an optional setting is set to, and where it comes from. -/
inductive Origin (α : Type) where
  | absent
  /-- The caller has set it. -/
  | chosen (a : α)
  /-- It is that of the dialect of a driver. -/
  | detected (a : α)
  deriving Repr, DecidableEq

namespace Origin

variable {α : Type}

/-- What the setting is set to. -/
def value : Origin α → Option α
  | absent => none
  | chosen a => some a
  | detected a => some a

/-- What the caller has set it to. -/
def chosen? : Origin α → Option α
  | chosen a => some a
  | _ => none

/-- What was detected. -/
def detected? : Origin α → Option α
  | detected a => some a
  | _ => none

/-- The caller sets it, or takes back what it was set to. -/
def ofChoice : Option α → Origin α
  | none => absent
  | some a => chosen a

/-- What a dialect has is detected where nothing stands. -/
def detect (a : α) : Origin α → Origin α
  | absent => detected a
  | origin => origin

@[simp] theorem value_ofChoice (choice : Option α) : (ofChoice choice).value = choice := by
  cases choice <;> rfl

@[simp] theorem value_detect (a : α) (origin : Origin α) :
    (origin.detect a).value = (origin.value <|> some a) := by
  cases origin <;> rfl

end Origin

/-- Where the mark and the limit style of a connection come from. -/
structure Origins where
  mark : Origin String := .absent
  style : Origin LimitStyle := .absent
  deriving Repr, DecidableEq

namespace Origins

/-- A dialect is detected. -/
def detect (D : Dialect) (o : Origins) : Origins := ⟨o.mark.detect D.quoteMark, o.style.detect D.limitStyle⟩

/-- A driver is registered. Nothing is detected if there is no dialect for it. -/
def register (known : Dialects) (d : Driver) (o : Origins) : Origins :=
  match known.create d.kind.dialectName with
  | .ok D => o.detect D
  | .error _ => o

/-- From one session to another the driver of the connection was opened, or it was not. -/
def opened (connection : String) (s s' : Session) (o : Origins) : Origins :=
  match Entries.get? connection s.drivers, Entries.get? connection s'.drivers with
  | none, some d => o.register s'.knownDialects d
  | _, _ => o

/-- The caller has set the option of a name; the settings are those after that. -/
def choose (name : String) (settings : Settings) (o : Origins) : Origins :=
  if name = "identifier_quote_character" then { o with mark := .ofChoice settings.quoteMark }
  else if name = "limit_clause_style" then { o with style := .ofChoice settings.limitStyle }
  else o

variable {E : Environment}

/-- The caller sets options of the connection one after the other, up to one that is rejected. -/
def chooseAll (connection : String) : List (Value × Value) → World E.State → Origins → Origins
  | [], _, o => o
  | e :: rest, w, o =>
    match (Connection.configureOne connection e.1 e.2 : Action E Unit).perform w with
    | (.ok (), w') =>
      chooseAll connection rest w' (o.choose (e.1.asText?.getD "") (w'.session.settingsOf connection))
    | (.error _, _) => o

/-- The options that a mapping names, or one option. -/
def named (h : Heap) (key : Value) (value : Option Value) : List (Value × Value) :=
  match h.entries? key, value with
  | some entries, _ => entries
  | none, some value => [(key, value)]
  | none, none => [(.text "connection_string", key)]

/-- What an operation on some connection makes of the origins of one. -/
def after (connection : String) (w : World E.State) (other : String) (operation : Operation)
    (o : Origins) : Origins :=
  match operation with
  | .configure key value => if other = connection then chooseAll connection (named w.heap key value) w o else o
  | .setDriver none => o
  | .setDriver (some d) => if other = connection then o.register w.session.knownDialects d else o
  | operation => o.opened connection w.session ((operation.perform other : Action E _).perform w).2.session

end Origins

/-- Nothing of a connection stands in the session. -/
structure Session.IsUntouched (connection : String) (s : Session) : Prop where
  mark : (s.settingsOf connection).quoteMark = none
  style : (s.settingsOf connection).limitStyle = none
  dialect : Entries.get? connection s.dialects = none
  distinctDrivers : s.drivers.Distinct
  distinctDialects : s.dialects.Distinct

/-- The worlds that are reached by operations on any connections and by forgetting all drivers or all settings,
with the origins of one connection. -/
inductive Reached {E : Environment} (connection : String) : World E.State → Origins → Prop
  | start {w : World E.State} (h : w.session.IsUntouched connection) : Reached connection w {}
  | operation {w : World E.State} {o : Origins} (h : Reached connection w o) (other : String)
      (operation : Operation) :
      Reached connection ((operation.perform other : Action E _).perform w).2
        (o.after connection w other operation)
  | resetDrivers {w : World E.State} {o : Origins} (h : Reached connection w o) :
      Reached connection ((Session.resetDrivers : Action E Unit).perform w).2 o
  | resetSettings {w : World E.State} {o : Origins} (h : Reached connection w o) :
      Reached connection ((Session.resetSettings : Action E Unit).perform w).2 {}

/-- The mark that a dialect quotes with if one was set, or none. An empty mark counts as none. -/
def Dialect.markFor (D : Dialect) : Option String → String
  | some mark => if mark.isEmpty then D.quoteMark else mark
  | none => D.quoteMark

/-! ## Sessions with a history -/

/-- The settings of the connection are those of the origins, and a dialect that was made is that of the driver. -/
structure Session.Accords (connection : String) (o : Origins) (s : Session) : Prop where
  mark : (s.settingsOf connection).quoteMark = o.mark.value
  style : (s.settingsOf connection).limitStyle = o.style.value
  dialect : ∀ made, Entries.get? connection s.dialects = some made →
    ∃ d, Entries.get? connection s.drivers = some d ∧
      s.knownDialects.create d.kind.dialectName = .ok made.dialect
  distinctDrivers : s.drivers.Distinct
  distinctDialects : s.dialects.Distinct

namespace Session

variable {connection other : String} {o : Origins} {s s' : Session}

theorem IsUntouched.accords (h : s.IsUntouched connection) : s.Accords connection {} where
  mark := h.mark
  style := h.style
  dialect made hmade := by simp [h.dialect] at hmade
  distinctDrivers := h.distinctDrivers
  distinctDialects := h.distinctDialects

namespace Accords

theorem likewise (h : s.Accords connection o) (hl : s.WritesLike s') : s'.Accords connection o := by
  have hsettings : s'.settingsOf connection = s.settingsOf connection := by
    simp only [settingsOf, hl.settings]
  refine ⟨hsettings ▸ h.mark, hsettings ▸ h.style, ?_, hl.drivers ▸ h.distinctDrivers,
    hl.dialects ▸ h.distinctDialects⟩
  rw [hl.dialects, hl.drivers, hl.knownDialects]
  exact h.dialect

theorem withDriver (h : s.Accords connection o) (other : String) (d : Driver) :
    (s.withDriver other d).Accords connection o := by
  refine ⟨h.mark, h.style, fun made hmade => ?_, h.distinctDrivers.put other d,
    h.distinctDialects.erase other⟩
  by_cases hother : connection = other
  · -- The dialect of the earlier driver is gone.
    subst hother
    have hgone : Entries.get? connection (s.withDriver connection d).dialects = none :=
      Entries.get?_erase_self h.distinctDialects connection
    simp [hgone] at hmade
  · have hne : (connection == other) = false := beq_false_of_ne hother
    have hsame : Entries.get? connection (s.withDriver other d).dialects =
        Entries.get? connection s.dialects := Entries.get?_erase_of_ne hne _
    obtain ⟨own, hown, hcreate⟩ := h.dialect made (hsame ▸ hmade)
    exact ⟨own, (Entries.get?_put_of_ne hne _ _).trans hown, hcreate⟩

theorem withoutDriver (h : s.Accords connection o) (other : String) :
    (Session.Accords connection o { s with
      dialects := Entries.erase other s.dialects
      drivers := Entries.erase other s.drivers }) := by
  refine ⟨h.mark, h.style, fun made hmade => ?_, h.distinctDrivers.erase other,
    h.distinctDialects.erase other⟩
  by_cases hother : connection = other
  · subst hother
    simp [Entries.get?_erase_self h.distinctDialects connection] at hmade
  · have hne : (connection == other) = false := beq_false_of_ne hother
    rw [Entries.get?_erase_of_ne hne] at hmade
    obtain ⟨own, hown, hcreate⟩ := h.dialect made hmade
    exact ⟨own, (Entries.get?_erase_of_ne hne _).trans hown, hcreate⟩

theorem withDialect (h : s.Accords connection o) {d : Driver} {D : Dialect}
    (hd : Entries.get? other s.drivers = some d)
    (hD : s.knownDialects.create d.kind.dialectName = .ok D) :
    (s.withDialect other D).Accords connection o := by
  refine ⟨h.mark, h.style, fun made hmade => ?_, h.distinctDrivers, h.distinctDialects.put _ _⟩
  by_cases hother : connection = other
  · subst hother
    simp only [Session.withDialect, Entries.get?_put_self, Option.some.injEq] at hmade
    subst hmade
    exact ⟨d, hd, hD⟩
  · have hsame : Entries.get? connection (s.withDialect other D).dialects =
        Entries.get? connection s.dialects := Entries.get?_put_of_ne (beq_false_of_ne hother) _ _
    exact h.dialect made (hsame ▸ hmade)

theorem withSettings (h : s.Accords connection o) {o' : Origins} {settings : Settings}
    (hmark : settings.quoteMark = o'.mark.value) (hstyle : settings.limitStyle = o'.style.value) :
    (s.withSettings connection settings).Accords connection o' := by
  refine ⟨?_, ?_, h.dialect, h.distinctDrivers, h.distinctDialects⟩
  · rw [settingsOf_withSettings_self, hmark]
  · rw [settingsOf_withSettings_self, hstyle]

theorem withSettings_of_ne (h : s.Accords connection o) (hne : connection ≠ other) (settings : Settings) :
    (s.withSettings other settings).Accords connection o := by
  refine ⟨?_, ?_, h.dialect, h.distinctDrivers, h.distinctDialects⟩
  · rw [settingsOf_withSettings_of_ne hne, h.mark]
  · rw [settingsOf_withSettings_of_ne hne, h.style]

/-- **A driver that is registered is detected where nothing stands in the settings.** -/
theorem registered (h : s.Accords connection o) (d : Driver) :
    (s.registered connection d).Accords connection (o.register s.knownDialects d) := by
  have hdriver := h.withDriver connection d
  unfold Session.registered Origins.register
  cases hD : s.knownDialects.create d.kind.dialectName with
  | error failure => exact hdriver
  | ok D =>
      have hdialect := hdriver.withDialect (Entries.get?_put_self connection d s.drivers) hD
      refine hdialect.withSettings ?_ ?_
      · simp [Settings.detecting, Origins.detect, h.mark]
      · simp [Settings.detecting, Origins.detect, h.style]

theorem registered_of_ne (h : s.Accords connection o) (hne : connection ≠ other) (d : Driver) :
    (s.registered other d).Accords connection o := by
  have hdriver := h.withDriver other d
  unfold Session.registered
  cases hD : s.knownDialects.create d.kind.dialectName with
  | error failure => exact hdriver
  | ok D =>
      have hdialect := hdriver.withDialect (Entries.get?_put_self other d s.drivers) hD
      exact hdialect.withSettings_of_ne hne _

end Accords

end Session

namespace Connection

open Session (current change outside)

variable {E : Environment} {connection : String}

/-- What holds of the session before a connection was asked for something, and after it: drivers may have been
opened meanwhile, and dialects made. -/
structure Evolves (connection : String) (before : Session) (o : Origins) (s : Session) : Prop where
  knownDialects : s.knownDialects = before.knownDialects
  accords : s.Accords connection (o.opened connection before s)
  driver : ∀ d, Entries.get? connection before.drivers = some d → Entries.get? connection s.drivers = some d

variable {before s : Session} {o : Origins}

theorem Evolves.refl (h : s.Accords connection o) : Evolves connection s o s := by
  refine ⟨rfl, ?_, fun _ hd => hd⟩
  unfold Origins.opened
  cases Entries.get? connection s.drivers <;> exact h

theorem Evolves.likewise (h : Evolves connection before o s) {s' : Session} (hl : s.WritesLike s') :
    Evolves connection before o s' := by
  have hopened : o.opened connection before s' = o.opened connection before s := by
    simp only [Origins.opened, hl.drivers, hl.knownDialects]
  refine ⟨hl.knownDialects.trans h.knownDialects, ?_, fun d hd => ?_⟩
  · rw [hopened]
    exact h.accords.likewise hl
  · rw [hl.drivers]
    exact h.driver d hd

theorem Evolves.withDialect (h : Evolves connection before o s) {other : String} {d : Driver} {D : Dialect}
    (hd : Entries.get? other s.drivers = some d)
    (hD : s.knownDialects.create d.kind.dialectName = .ok D) :
    Evolves connection before o (s.withDialect other D) :=
  ⟨h.knownDialects, h.accords.withDialect hd hD, h.driver⟩

/-- Opening the driver of a connection that has none. -/
theorem Evolves.registered (h : Evolves connection before o s) {other : String}
    (hnone : Entries.get? other s.drivers = none) (d : Driver) :
    Evolves connection before o (s.registered other d) := by
  by_cases hother : connection = other
  · subst hother
    have hbefore : Entries.get? connection before.drivers = none := by
      cases hd : Entries.get? connection before.drivers with
      | none => rfl
      | some d => simp [h.driver d hd] at hnone
    have haccords : s.Accords connection o := by
      have hstill := h.accords
      simpa only [Origins.opened, hbefore, hnone] using hstill
    refine ⟨(Session.knownDialects_registered d).trans h.knownDialects, ?_, by simp [hbefore]⟩
    have hopened : o.opened connection before (s.registered connection d) = o.register s.knownDialects d := by
      simp only [Origins.opened, hbefore, Session.drivers_registered, Entries.get?_put_self,
        Session.knownDialects_registered]
    rw [hopened]
    exact haccords.registered d
  · have hdrivers : Entries.get? connection (s.registered other d).drivers =
        Entries.get? connection s.drivers := by
      rw [Session.drivers_registered]
      exact Entries.get?_put_of_ne (beq_false_of_ne hother) _ _
    refine ⟨(Session.knownDialects_registered d).trans h.knownDialects, ?_, fun own hown => ?_⟩
    · have hopened : o.opened connection before (s.registered other d) = o.opened connection before s := by
        simp only [Origins.opened, hdrivers, Session.knownDialects_registered]
      rw [hopened]
      exact h.accords.registered_of_ne hother d
    · exact hdrivers.trans (h.driver own hown)

/-- The connection has its driver after looking for it. -/
theorem triple_driver_evolves (other : String) :
    Triple (fun w : World E.State => Evolves connection before o w.session) (driver other)
      (fun d w => Evolves connection before o w.session ∧ Entries.get? other w.session.drivers = some d)
      (fun w => Evolves connection before o w.session) :=
  triple_driver_of (fun _ _ _ _ hw hnone _ => hw.registered hnone _) fun _ _ _ _ hw _ => hw

theorem triple_madeDialect_evolves (other : String) :
    Keeps (fun w : World E.State => Evolves connection before o w.session) (madeDialect other) :=
  keeps_madeDialect_of (triple_driver_evolves other) fun _ _ _ hw hd hcreate => hw.withDialect hd hcreate

/-- **However the connection is asked, it evolves by drivers that are opened and dialects that are made.** -/
theorem isUpkept_evolves : IsUpkept E (Evolves connection before o) where
  likewise _ _ hl h := h.likewise hl
  driver other := (triple_driver_evolves other).post fun _ _ h => h.1
  madeDialect other := triple_madeDialect_evolves other

end Connection

/-! ## Setting options -/

namespace Connection

variable {E : Environment} {connection : String}

variable {o : Origins} {before : Session}

/-- An option that is accepted changes the settings of its connection, and one that is rejected nothing. -/
theorem triple_configureOne (other : String) (key value : Value) (w : World E.State) :
    Triple (· = w) (configureOne other key value : Action E Unit)
      (fun _ w' => ∃ setting ∈ Setting.all, key.asText?.getD "" = setting.name ∧
        ∃ given changed, setting.write? given (w.session.settingsOf other) = some changed ∧
          w'.session = w.session.withSettings other changed)
      (fun w' => w'.session = w.session) := by
  refine Triple.bindGet ?_
  rintro w rfl
  refine Triple.bindKnown (I := fun w' => w'.session = w.session)
    (R := fun setting => setting ∈ Setting.all ∧ key.asText?.getD "" = setting.name) (Triple.lift ?_ ?_)
    fun setting hsetting => ?_
  · rintro setting hnamed _ rfl
    exact ⟨rfl, Setting.named?_eq_ok hnamed⟩
  · rintro failure _ _ rfl
    rfl
  · refine Triple.bind (R := fun _ (w' : World E.State) => w'.session = w.session)
      (IsUpkept.keeps_inHeap (K := fun s => s = w.session) _) fun given => ?_
    refine triple_bindSettings fun w' hw' => ?_
    split
    · rename_i changed hchanged
      refine Session.triple_change ?_
      rintro _ rfl
      rw [hw'] at hchanged
      exact ⟨setting, hsetting.1, hsetting.2, given, changed, hchanged, by rw [hw']; rfl⟩
    · exact Triple.throw fun _ ht => ht ▸ hw'

/-- **What the caller sets is chosen, and what is set beside it stays what it was.** -/
theorem Accords.choose {s : Session} (h : s.Accords connection o) {setting : Setting}
    (hsetting : setting ∈ Setting.all) {given : SettingValue} {changed : Settings}
    (hchanged : setting.write? given (s.settingsOf connection) = some changed) :
    (s.withSettings connection changed).Accords connection (o.choose setting.name changed) := by
  obtain ⟨hmark, hstyle⟩ := Setting.spares_of_write hsetting hchanged
  refine h.withSettings ?_ ?_
  · unfold Origins.choose
    split
    · exact (Origin.value_ofChoice _).symm
    · rename_i hne
      split <;> exact (hmark hne).trans h.mark
  · unfold Origins.choose
    split
    · rename_i heq
      exact (hstyle (by simp [heq])).trans h.style
    · split
      · exact (Origin.value_ofChoice _).symm
      · rename_i hne
        exact (hstyle hne).trans h.style

theorem accords_chooseAll (pairs : List (Value × Value)) :
    ∀ (w : World E.State) (o : Origins), w.session.Accords connection o →
      ((pairs.forM fun e => configureOne connection e.1 e.2 : Action E Unit).perform w).2.session.Accords
        connection (Origins.chooseAll connection pairs w o) := by
  induction pairs with
  | nil => exact fun w o h => h
  | cons e pairs ih =>
      intro w o h
      have hone := triple_configureOne (E := E) connection e.1 e.2 w w rfl
      show (Step.perform (configureOne connection e.1 e.2 >>= fun _ => pairs.forM fun e =>
        configureOne connection e.1 e.2) w).2.session.Accords connection _
      rw [Origins.chooseAll]
      rcases hrun : (configureOne connection e.1 e.2 : Action E Unit).perform w with ⟨result, w'⟩
      rw [hrun] at hone
      cases result with
      | error failure =>
          rw [Step.perform_bind_error hrun]
          exact hone.symm ▸ h
      | ok _ =>
          obtain ⟨setting, hsetting, hname, given, changed, hchanged, hsession⟩ := hone
          rw [Step.perform_bind_ok hrun]
          refine ih w' _ ?_
          rw [hname, hsession, Session.settingsOf_withSettings_self]
          exact Accords.choose h hsetting hchanged

theorem perform_configure (key : Value) (value : Option Value) (w : World E.State) :
    (configure connection key value : Action E Unit).perform w =
      ((Origins.named w.heap key value).forM fun e => configureOne connection e.1 e.2 : Action E Unit).perform w := by
  have hsingle : ∀ e : Value × Value,
      ([e].forM fun e => configureOne connection e.1 e.2 : Action E Unit) = configureOne connection e.1 e.2 :=
    fun e => bind_pure (configureOne connection e.1 e.2 : Action E PUnit)
  have hget : (get : Action E (World E.State)).perform w = (.ok w, w) := rfl
  rw [configure, Step.perform_bind_ok hget]
  unfold Origins.named
  cases w.heap.entries? key with
  | some entries => rfl
  | none =>
      cases value with
      | some value => exact (congrArg (Step.perform · w) (hsingle (key, value))).symm
      | none => exact (congrArg (Step.perform · w) (hsingle (.text "connection_string", key))).symm

/-- The settings of one connection say nothing of another. -/
theorem keeps_configure_of_ne {other : String} (hne : connection ≠ other) (key : Value) (value : Option Value) :
    Keeps (fun w : World E.State => w.session.Accords connection o) (configure other key value) := by
  have hone : ∀ key value, Keeps (fun w : World E.State => w.session.Accords connection o)
      (configureOne other key value) := by
    intro key value
    refine Triple.of_states fun w hw => (triple_configureOne other key value w).consequence (fun _ h => h) ?_ ?_
    · rintro _ w' ⟨_, _, _, _, _, _, hsession⟩
      exact hsession.symm ▸ hw.withSettings_of_ne hne _
    · exact fun w' hsession => hsession.symm ▸ hw
  refine Keeps.bind Keeps.get fun w => ?_
  split
  · exact Keeps.forM fun e _ => hone e.1 e.2
  · exact hone _ _
  · exact hone _ _

/-- Reading an option keeps the value where the caller can reach it, and this is no mark and no style. -/
theorem Evolves.keepShared {s : Session} (h : Evolves connection before o s) {other : String}
    {setting : Setting} (hsetting : setting ∈ Setting.all) (v : Value) :
    Evolves connection before o (s.withSettings other (setting.keepShared v (s.settingsOf other))) := by
  obtain ⟨hmark, hstyle⟩ := Setting.spares_of_keepShared hsetting v (s.settingsOf other)
  refine ⟨h.knownDialects, ?_, h.driver⟩
  show Session.Accords connection (o.opened connection before s) _
  by_cases hother : connection = other
  · subst hother
    exact h.accords.withSettings (hmark.trans h.accords.mark) (hstyle.trans h.accords.style)
  · exact h.accords.withSettings_of_ne hother _

theorem keeps_setting (other : String) (key : Value) :
    Keeps (fun w : World E.State => Evolves connection before o w.session) (setting other key) := by
  refine Keeps.bind Keeps.get fun w => ?_
  refine Triple.bindKnown (I := fun w : World E.State => Evolves connection before o w.session)
    (R := fun setting => setting ∈ Setting.all) ?_ fun setting hsetting => ?_
  · exact Triple.lift (fun _ hnamed _ hw => ⟨hw, (Setting.named?_eq_ok hnamed).1⟩) fun _ _ _ hw => hw
  · refine triple_bindSettings fun w' hw' => ?_
    refine Triple.bind (R := fun _ (t : World E.State) => t.session = w'.session) ?_ fun value => ?_
    · refine ((IsUpkept.keeps_inHeap (K := fun s => s = w'.session) _).consequence (fun t ht => by rw [ht])
        (fun _ _ ht => ht) fun t ht => ?_)
      exact ht.symm ▸ hw'
    · refine Triple.bind (R := fun _ (t : World E.State) => Evolves connection before o t.session) ?_
        fun _ => Keeps.pure _
      refine Session.triple_change fun t ht => ?_
      show Evolves connection before o (t.session.withSettings other _)
      rw [ht]
      exact hw'.keepShared hsetting value

theorem keeps_allSettings (other : String) :
    Keeps (fun w : World E.State => Evolves connection before o w.session) (allSettings other) := by
  refine Keeps.bind (Session.keeps_settings other) fun settings => Keeps.bind Keeps.get fun w => ?_
  refine Keeps.bind (Keeps.mapM fun setting _ => ?_) fun _ => Keeps.pure _
  exact Keeps.bind (Keeps.lift _) fun _ => Keeps.pure _

/-- Everything that is asked of a connection but setting options and drivers. -/
theorem keeps_asking (hspares : SparesSettings E) (other : String) {operation : Operation}
    (hconfigure : ∀ key value, operation ≠ .configure key value) (hset : ∀ d, operation ≠ .setDriver d) :
    Keeps (fun w : World E.State => Evolves connection before o w.session)
      (operation.perform other : Action E Operation.Answer) := by
  have hK : IsUpkept E (Evolves connection before o) := isUpkept_evolves
  match operation with
  | .configure key value => exact absurd rfl (hconfigure key value)
  | .setDriver d => exact absurd rfl (hset d)
  | .setting key => exact Keeps.bind (keeps_setting other key) fun _ => Keeps.pure _
  | .allSettings => exact Keeps.bind (keeps_allSettings other) fun _ => Keeps.pure _
  | .driver => exact Keeps.bind (hK.driver other) fun _ => Keeps.pure _
  | .rendering => exact Keeps.bind (hK.keeps_rendering other) fun _ => Keeps.pure _
  | .quote identifier => exact Keeps.bind (hK.keeps_quote other identifier) fun _ => Keeps.pure _
  | .forTable table =>
      refine Keeps.bind (Keeps.bind (Keeps.bind (hK.driver other) fun _ => Keeps.pure _) fun _ => ?_)
        fun _ => Keeps.pure _
      exact IsUpkept.keeps_inHeap _
  | .call number asked => exact Keeps.bind (hK.keeps_callRecord hspares other number asked) fun _ => Keeps.pure _
  | .execute sql params => exact Keeps.bind (hK.keeps_execute hspares other sql params) fun _ => Keeps.pure _
  | .clearCache table => exact Keeps.bind (hK.keeps_clearCache hspares table other) fun _ => Keeps.pure _
  | .queryLog => exact Keeps.bind Session.keeps_current fun _ => Keeps.pure _
  | .lastQuery => exact Keeps.bind Session.keeps_current fun _ => Keeps.pure _

/-- A step that gives nothing of its own leaves what it leaves. -/
theorem leaves_discarding {α β : Type} (step : Action E α) (b : β) (w : World E.State) :
    ((step >>= fun _ => pure b).perform w).2 = (step.perform w).2 := by
  rw [Step.perform_bind]
  rcases step.perform w with ⟨result, w'⟩
  cases result <;> rfl

/-- **One operation: the session accords with the origins before it and after it.** -/
theorem accords_operation (hspares : SparesSettings E) {w : World E.State} (h : w.session.Accords connection o)
    (other : String) (operation : Operation) :
    ((operation.perform other : Action E Operation.Answer).perform w).2.session.Accords connection
      (o.after connection w other operation) := by
  have hasking : (∀ key value, operation ≠ .configure key value) → (∀ d, operation ≠ .setDriver d) →
      ((operation.perform other : Action E Operation.Answer).perform w).2.session.Accords connection
        (o.opened connection w.session
          ((operation.perform other : Action E Operation.Answer).perform w).2.session) := by
    intro hconfigure hset
    have hevolves : Evolves connection w.session o w.session := Evolves.refl h
    exact ((keeps_asking hspares other hconfigure hset).leaves hevolves).accords
  match operation with
  | .configure key value =>
      have hleft := leaves_discarding (configure other key value : Action E Unit) Operation.Answer.nothing w
      rw [Operation.perform, hleft, Origins.after]
      split
      · rename_i heq
        subst heq
        rw [perform_configure]
        exact accords_chooseAll _ w o h
      · rename_i hne
        exact (keeps_configure_of_ne (Ne.symm hne) key value).leaves h
  | .setDriver (some d) =>
      have hleft := leaves_discarding (registerDriver other d : Action E Unit) Operation.Answer.nothing w
      rw [Operation.perform, hleft, leaves_registerDriver, Origins.after]
      split
      · rename_i heq
        subst heq
        exact h.registered d
      · rename_i hne
        exact h.registered_of_ne (Ne.symm hne) d
  | .setDriver none => exact h.withoutDriver other
  | .setting _ | .allSettings | .driver | .rendering | .quote _ | .forTable _ | .call _ _ | .execute _ _
  | .clearCache _ | .queryLog | .lastQuery => exact hasking nofun nofun

/-- **Every run: the session accords with the origins.** -/
theorem accords_of_reached (hspares : SparesSettings E) {w : World E.State} (h : Reached connection w o) :
    w.session.Accords connection o := by
  induction h with
  | start hstart => exact hstart.accords
  | operation _ other operation ih => exact accords_operation hspares ih other operation
  | resetDrivers _ ih => exact ⟨ih.mark, ih.style, fun _ hmade => (by cases hmade), .nil, .nil⟩
  | resetSettings _ ih => exact ⟨rfl, rfl, ih.dialect, ih.distinctDrivers, ih.distinctDialects⟩

/-! ## How the statements of a connection are written -/

/-- The connection has a driver with a dialect, and certain settings. -/
structure HasDialect (connection : String) (D : Dialect) (settings : Settings) (s : Session) : Prop where
  driver : ∃ d, Entries.get? connection s.drivers = some d ∧
    s.knownDialects.create d.kind.dialectName = .ok D
  made : ∀ made, Entries.get? connection s.dialects = some made → made.dialect = D
  settings : s.settingsOf connection = settings

variable {D : Dialect} {own : Settings}

theorem triple_driver_of_dialect :
    Triple (fun w : World E.State => HasDialect connection D own w.session) (driver connection)
      (fun d w => HasDialect connection D own w.session ∧
        w.session.knownDialects.create d.kind.dialectName = .ok D) fun _ => False := by
  refine Session.triple_bindCurrent fun w hw => ?_
  obtain ⟨d, hd, hD⟩ := hw.driver
  rw [hd]
  exact Triple.pure fun _ ht => ht ▸ ⟨hw, hD⟩

theorem triple_dialect_of_dialect :
    Triple (fun w : World E.State => HasDialect connection D own w.session) (dialect connection)
      (fun found w => HasDialect connection D own w.session ∧ found = D) fun _ => False := by
  refine Triple.bind (R := fun made (w : World E.State) => HasDialect connection D own w.session ∧
    made.dialect = D) ?_ fun made => Triple.pure fun _ ht => ht
  refine Session.triple_bindCurrent fun w hw => ?_
  split
  · rename_i made hmade
    exact Triple.pure fun _ ht => ht ▸ ⟨hw, hw.made made hmade⟩
  · refine Triple.bind (triple_driver_of_dialect.pre fun _ ht => ht ▸ hw) fun d => ?_
    rintro w' ⟨hw', hD⟩
    rw [perform_makeDialect_ok connection hD]
    refine ⟨⟨hw'.driver, fun made hmade => ?_, hw'.settings⟩, rfl⟩
    simp only [Session.withDialect, Entries.get?_put_self, Option.some.injEq] at hmade
    rw [← hmade]

theorem triple_quoteMark_of_dialect :
    Triple (fun w : World E.State => HasDialect connection D own w.session) (quoteMark connection)
      (fun mark w => HasDialect connection D own w.session ∧
        mark = D.markFor own.quoteMark) fun _ => False := by
  have ofDialect : Triple (fun w : World E.State => HasDialect connection D own w.session)
      (do return (← dialect connection).quoteMark : Action E String)
      (fun mark w => HasDialect connection D own w.session ∧ mark = D.quoteMark) fun _ => False :=
    Triple.bindKnown triple_dialect_of_dialect fun found hfound =>
      Triple.pure fun _ ht => ⟨ht, congrArg Dialect.quoteMark hfound⟩
  refine triple_bindSettings fun w hw => ?_
  rw [hw.settings]
  refine Triple.pre (P := fun w => HasDialect connection D own w.session) ?_ fun _ ht => ht ▸ hw
  extract_lets afterDriver
  have hafter : ∀ u, Triple (fun w : World E.State => HasDialect connection D own w.session) (afterDriver u)
      (fun mark w => HasDialect connection D own w.session ∧
        mark = D.markFor own.quoteMark) fun _ => False := by
    intro u
    refine triple_bindSettings fun w hw => ?_
    rw [hw.settings]
    refine Triple.pre (P := fun w => HasDialect connection D own w.session) ?_ fun _ ht => ht ▸ hw
    cases own.quoteMark with
    | none => exact ofDialect
    | some mark =>
        dsimp only [Dialect.markFor]
        split
        · exact ofDialect
        · exact Triple.pure fun _ ht => ⟨ht, rfl⟩
  split
  · refine Triple.bind ?_ hafter
    exact Triple.bind triple_driver_of_dialect fun _ => Triple.pure fun _ ht => ht.1
  · exact hafter ()

theorem triple_rendering_of_dialect :
    Triple (fun w : World E.State => HasDialect connection D own w.session) (rendering connection)
      (fun r _ => r = ⟨D, D.markFor own.quoteMark,
        own.limitStyle.getD D.limitStyle⟩) fun _ => False := by
  refine Triple.bindKnown triple_dialect_of_dialect fun found hfound => ?_
  refine Triple.bindKnown triple_quoteMark_of_dialect fun mark hmark => ?_
  refine triple_bindSettings fun w hw => Triple.pure fun _ _ => ?_
  rw [hfound, hmark, hw.settings]

/-- **Whenever a driver is registered, statements are written in its dialect. Mark and limit style are those that
the caller chose, or else those of the dialect, exactly if what was detected before, if anything was, is that
of the dialect too.** -/
theorem follows_driver_iff (hspares : SparesSettings E) {w : World E.State} (hw : Reached connection w o)
    {d : Driver} (hd : Entries.get? connection w.session.drivers = some d)
    (hD : w.session.knownDialects.create d.kind.dialectName = .ok D) :
    ∃ r w', (rendering connection : Action E Rendering).perform w = (.ok r, w') ∧ r.dialect = D ∧
      (r.mark = D.markFor o.mark.chosen? ↔
        ∀ mark, o.mark.detected? = some mark → mark ≠ "" → mark = D.quoteMark) ∧
      (r.limitStyle = o.style.chosen?.getD D.limitStyle ↔
        ∀ style, o.style.detected? = some style → style = D.limitStyle) := by
  have haccords := accords_of_reached hspares hw
  have hdialect : HasDialect connection D (w.session.settingsOf connection) w.session := by
    refine ⟨⟨d, hd, hD⟩, fun made hmade => ?_, rfl⟩
    obtain ⟨d', hd', hcreate⟩ := haccords.dialect made hmade
    rw [Option.some.inj (hd'.symm.trans hd), hD] at hcreate
    exact (Except.ok.inj hcreate).symm
  have hrendering := triple_rendering_of_dialect w hdialect
  rcases hrun : (rendering connection : Action E Rendering).perform w with ⟨result, w'⟩
  rw [hrun] at hrendering
  cases result with
  | error failure => exact hrendering.elim
  | ok r =>
      obtain rfl : r = _ := hrendering
      refine ⟨_, w', rfl, rfl, ?_, ?_⟩
      · rw [haccords.mark]
        cases o.mark with
        | absent => simp [Origin.value, Origin.chosen?, Origin.detected?]
        | chosen mark => simp [Origin.value, Origin.chosen?, Origin.detected?]
        | detected mark =>
            by_cases hempty : mark = "" <;>
              simp [Origin.value, Origin.chosen?, Origin.detected?, Dialect.markFor, hempty]
      · rw [haccords.style]
        cases o.style <;> simp [Origin.value, Origin.chosen?, Origin.detected?]

/-- A desk with nothing registered. -/
def newDesk : World Environment.quiet.State := { outside := () }

theorem untouched_newDesk : newDesk.session.IsUntouched "default" := ⟨rfl, rfl, rfl, .nil, .nil⟩

/-- What several operations on one connection leave. -/
def desk (operations : List Operation) : World Environment.quiet.State :=
  operations.foldl (fun w operation =>
    ((operation.perform "default" : Action .quiet Operation.Answer).perform w).2) newDesk

/-- A driver of the caller for a dialect. -/
def driverFor (dialectName : String) : Driver := ⟨.native dialectName, ⟨0⟩⟩

/-- The dialect of the second driver. -/
def postgres : Dialect where
  name := "postgres"
  label := "PostgresDialect()"
  quoteMark := "\x22"
  returnsIds := true
  driverNames := ["pgsql", "postgres", "postgresql"]

/-- One driver comes after another, and the caller chose the mark in between. -/
def chosenDesk : World Environment.quiet.State :=
  desk [.setDriver (some (driverFor "mysql")),
    .configure (.text "identifier_quote_character") (some (.text "!")),
    .setDriver (some (driverFor "pgsql"))]

theorem reached_chosenDesk : Reached "default" chosenDesk ⟨.chosen "!", .detected .limit⟩ :=
  .operation (.operation (.operation (.start untouched_newDesk) "default" _) "default" _) "default" _

/-- What the caller chose is in force, and the limit style happens to be that of both dialects. -/
theorem follows_driver_iff_chosenDesk :
    ∃ r w', (rendering "default" : Action .quiet Rendering).perform chosenDesk = (.ok r, w') ∧
      r.dialect = postgres ∧ r.mark = "!" ∧ r.limitStyle = .limit := by
  have hspares : SparesSettings .quiet := fun _ _ _ _ => Keeps.pure Value.null
  obtain ⟨r, w', hrun, hdialect, hmark, hstyle⟩ :=
    follows_driver_iff hspares reached_chosenDesk (d := driverFor "pgsql") (D := postgres) rfl rfl
  refine ⟨r, w', hrun, hdialect, hmark.2 ?_, hstyle.2 ?_⟩
  · exact fun mark hmark => by cases hmark
  · exact fun style hstyle => by cases hstyle; rfl

/-- One driver comes after another, and the caller chose nothing. -/
def swappedDesk : World Environment.quiet.State :=
  desk [.setDriver (some (driverFor "mysql")), .setDriver (some (driverFor "pgsql"))]

/-- The mark of the first driver stays. -/
theorem not_follows_driver_of_swap :
    Reached "default" swappedDesk ⟨.detected "\x60", .detected .limit⟩ ∧
      Entries.get? "default" swappedDesk.session.drivers = some (driverFor "pgsql") ∧
      swappedDesk.session.knownDialects.create (driverFor "pgsql").kind.dialectName = .ok postgres ∧
      ∃ r w', (rendering "default" : Action .quiet Rendering).perform swappedDesk = (.ok r, w') ∧
        r.mark ≠ postgres.quoteMark := by
  refine ⟨.operation (.operation (.start untouched_newDesk) "default" _) "default" _, rfl, rfl,
    ⟨postgres, "\x60", .limit⟩, _, rfl, by decide⟩

end Connection

end FluentSql
