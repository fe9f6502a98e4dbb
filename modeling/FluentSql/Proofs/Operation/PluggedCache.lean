import FluentSql.Proofs.Connection.Journal
import FluentSql.Proofs.Connection.PluggedCache
import FluentSql.Proofs.Operation.Pairing
/-
# FluentSql.Proofs.Operation.PluggedCache — functions of the caller make no difference to a run.

Whether a connection keeps its reads in the built-in store or through functions that are plugged in, every operation
gives the same (`mirrors_perform_plugged`), and so does every run (`cacheHooks_make_no_difference`): everything that is
read has the same rows, and the databases receive the same statements in the same order.
-/

namespace FluentSql

open Step (Keeps Mirrors perform_bind_ok)
open Connection (IsPairing KeepsAlike isPairing_isPlugged)

variable {E : Environment} {connection : String}

/-! ## Operations that have nothing to do with the functions -/

/-- The operation neither sets nor shows functions for the cache. Options are called by their names. -/
def Operation.SparesCacheHooks : Operation → Prop
  | .configure key _ | .setting key => ∃ name, key = .text name ∧ name ∉ Setting.cacheHookNames
  | .allSettings => False
  | _ => True

section

variable {P : Type} {f : Hook → HookCall → Step (Heap × P) Value} {hooks : CacheHooks} {era : Nat}
variable {Kept : Cache.Store → P → Cache.Store → Prop} {numbers : Set Nat} (hE : E.LogsBeside connection)
include hE

namespace Connection

open Session (current change inHeap)

omit hE in
/-- The settings are those of the second world with the functions. -/
theorem mirrors_settings_plugged :
    Mirrors (World.IsPlugged connection hooks era Kept numbers)
      (fun s s' => s = s'.withCacheHooks hooks ∧ s'.hasCacheHooks = false)
      (settings connection : Action (E.withCacheFunctions f) Settings)
      (settings connection : Action (E.withCacheFunctions f) Settings) :=
  fun _ _ hw => ⟨⟨hw.settings, hw.plain⟩, hw⟩

omit hE in
theorem mirrors_putSettings {settings : Settings} (hplain : settings.withCacheHooks {} = settings) :
    Mirrors (World.IsPlugged connection hooks era Kept numbers) Eq
      (putSettings connection (settings.withCacheHooks hooks) : Action (E.withCacheFunctions f) Unit)
      (putSettings connection settings : Action (E.withCacheFunctions f) Unit) :=
  fun _ _ hw => ⟨rfl, hw.withSettings _ (by rw [← hplain]; rfl)⟩

theorem mirrors_configureOne {name : String} (hname : name ∉ Setting.cacheHookNames) (value : Value) :
    Mirrors (World.IsPlugged connection hooks era Kept numbers) Eq
      (configureOne connection (.text name) value : Action (E.withCacheFunctions f) Unit)
      (configureOne connection (.text name) value : Action (E.withCacheFunctions f) Unit) := by
  have hI : IsPairing (E := E.withCacheFunctions f) connection _ (World.IsPlugged connection hooks era Kept) :=
    isPairing_isPlugged hE
  refine hI.mirrors_bindNamed _ fun {setting} hsetting hnamed => ?_
  have hignores := Setting.ignores_cacheHooks hsetting (show setting.name ∉ _ from hnamed ▸ hname)
  refine Mirrors.bindEq (hI.mirrors_examined hsetting value) fun given => ?_
  refine Mirrors.bind mirrors_settings_plugged ?_
  rintro _ settings ⟨rfl, hplain⟩
  have hempty := (hignores {} settings).2.1 given
  rw [Settings.withCacheHooks_eq_self hplain] at hempty
  rw [(hignores hooks settings).2.1 given]
  cases hwrite : setting.write? given settings with
  | none => exact Mirrors.throw _
  | some changed =>
      rw [hwrite] at hempty
      exact mirrors_putSettings (Option.some.inj hempty).symm

theorem mirrors_configure {name : String} (hname : name ∉ Setting.cacheHookNames) (value : Option Value) :
    Mirrors (World.IsPlugged connection hooks era Kept numbers) Eq
      (configure connection (.text name) value : Action (E.withCacheFunctions f) Unit)
      (configure connection (.text name) value : Action (E.withCacheFunctions f) Unit) := by
  cases value with
  | some value => exact Mirrors.bindGet fun _ _ _ => mirrors_configureOne hE hname value
  | none => exact Mirrors.bindGet fun _ _ _ => mirrors_configureOne hE (by decide) _

theorem mirrors_setting {name : String} (hname : name ∉ Setting.cacheHookNames) :
    Mirrors (World.IsPlugged connection hooks era Kept numbers) Eq
      (setting connection (.text name) : Action (E.withCacheFunctions f) Value)
      (setting connection (.text name) : Action (E.withCacheFunctions f) Value) := by
  have hI : IsPairing (E := E.withCacheFunctions f) connection _ (World.IsPlugged connection hooks era Kept) :=
    isPairing_isPlugged hE
  refine hI.mirrors_bindNamed _ fun {setting} hsetting hnamed => ?_
  have hignores := Setting.ignores_cacheHooks hsetting (show setting.name ∉ _ from hnamed ▸ hname)
  refine Mirrors.bind mirrors_settings_plugged ?_
  rintro _ settings ⟨rfl, hplain⟩
  rw [(hignores hooks settings).1]
  refine Mirrors.bindEq (hI.mirrors_inHeap fun _ => Heap.keeps_suits_share _) fun value => ?_
  have hempty := (hignores {} settings).2.2 value
  rw [Settings.withCacheHooks_eq_self hplain] at hempty
  rw [(hignores hooks settings).2.2 value]
  exact Mirrors.bindEq (mirrors_putSettings hempty.symm) fun _ => Mirrors.pure rfl

end Connection

/-! ## One operation -/

open Connection in
/-- Worlds with and without functions are a pairing in which everything is done alike but options. -/
theorem isFullPairing_isPlugged (h : KeepsAlike (E := E) f connection hooks era Kept) :
    IsFullPairing (E := E.withCacheFunctions f) connection (fun _ => True)
      (World.IsPlugged connection hooks era Kept) where
  toIsPairing := isPairing_isPlugged hE
  reads := h.mirrors_read hE
  clears := h.mirrors_clearCache
  forgets _ _ hw := ⟨rfl, hw.change
    (f := fun s => { s with
      dialects := Entries.erase connection s.dialects
      drivers := Entries.erase connection s.drivers })
    ⟨fun _ _ _ => rfl, fun _ => rfl, fun _ => rfl, fun _ => rfl, fun _ => rfl⟩⟩
  sameLog hw := congrArg (QueryLog.of connection) (hw.sameBeside Session.log fun _ _ _ => rfl)

/-- **An operation gives the same with functions and without.** -/
theorem mirrors_perform_plugged (h : KeepsAlike (E := E) f connection hooks era Kept) {operation : Operation}
    (hspares : operation.SparesCacheHooks) :
    Mirrors (World.IsPlugged connection hooks era Kept numbers) Eq
      (operation.perform connection : Action (E.withCacheFunctions f) Operation.Answer)
      (operation.perform connection : Action (E.withCacheFunctions f) Operation.Answer) := by
  refine Operation.mirrors_perform (isFullPairing_isPlugged hE h) (fun _ _ => trivial) fun hoptions => ?_
  match operation, hoptions, hspares with
  | .configure _ value, _, ⟨name, rfl, hname⟩ =>
      exact Mirrors.bindEq (Connection.mirrors_configure hE hname value) fun _ => Mirrors.pure rfl
  | .setting _, _, ⟨name, rfl, hname⟩ =>
      exact Mirrors.bindEq (Connection.mirrors_setting hE hname) fun _ => Mirrors.pure rfl

end

/-! ## Runs -/

namespace Operation

/-- One operation after the other, whether it fails or not: what each of them gives, with the heap as it is then, and the
world at the end. -/
def run (connection : String) : List Operation → World E.State → List (Except Failure Answer × Heap) × World E.State
  | [], w => ([], w)
  | operation :: rest, w =>
    let done := (operation.perform connection : Action E Answer).perform w
    let later := run connection rest done.2
    ((done.1, done.2.heap) :: later.1, later.2)

/-- The induction is on what is asked for: after every operation the worlds are a pair again. -/
theorem run_plugged {P : Type} {f : Hook → HookCall → Step (Heap × P) Value} {hooks : CacheHooks} {era : Nat}
    {Kept : Cache.Store → P → Cache.Store → Prop} (hE : E.LogsBeside connection)
    (h : KeepsAlike (E := E) f connection hooks era Kept) {asked : List Operation}
    (hspares : ∀ operation ∈ asked, operation.SparesCacheHooks) {w w' : World (E.withCacheFunctions f).State}
    (hw : World.IsPlugged connection hooks era Kept ∅ w w') :
    (run connection asked w).1 = (run connection asked w').1 ∧
      (run connection asked w).2.outside.1 = (run connection asked w').2.outside.1 := by
  induction asked generalizing w w' with
  | nil => exact ⟨rfl, hw.outside⟩
  | cons operation asked ih =>
      obtain ⟨hfirst, hrest⟩ := List.forall_mem_cons.1 hspares
      obtain ⟨hresult, hafter⟩ := (mirrors_perform_plugged hE h hfirst w w' hw).same
      obtain ⟨hlater, hend⟩ := ih hrest hafter
      refine ⟨?_, hend⟩
      rw [run, run, hlater, hresult, hafter.heap.1]

end Operation

/-! ## With functions and without -/

/-- The databases with a list of the statements that they are sent, in order. -/
abbrev Environment.transcribed (E : Environment) : Environment where
  State := E.State × List Sent
  digest := E.digest
  connect opening := inFirst (E.connect opening)
  execute link text params s :=
    ((E.execute link text params s.1).1, (E.execute link text params s.1).2, s.2 ++ [⟨link, text, params⟩])
  fetch cursor count := inFirst (E.fetch cursor count)
  insertId link := inFirst (E.insertId link)
  call hook call :=
    Step.onPart (fun w : World (E.State × List Sent) => ⟨w.session, w.heap, w.outside.1⟩)
      (fun u w => ⟨u.session, u.heap, u.outside, w.outside.2⟩) (E.call hook call)

theorem Environment.LogsBeside.transcribed (hE : E.LogsBeside connection) : E.transcribed.LogsBeside connection := by
  intro hook query
  obtain ⟨f, hcall, hkeeps⟩ := hE hook query
  refine ⟨Step.onPart (fun u => (u.1, u.2.1)) (fun v u => (v.1, v.2, u.2.2)) f, ?_, fun numbers u hu => ?_⟩
  · have hlog : E.transcribed.call hook (.log query) =
        Step.onPart (fun w : World (E.State × List Sent) => (⟨w.session, w.heap, w.outside.1⟩ : World E.State))
          (fun u w => ⟨u.session, u.heap, u.outside, w.outside.2⟩) (E.call hook (.log query)) := rfl
    rw [hlog, hcall]
    rfl
  · have hleft := (hkeeps numbers).leaves (s := (u.1, u.2.1)) hu
    rw [Step.perform_onPart]
    cases (f.perform (u.1, u.2.1)).1 <;> exact hleft

/-- The connection has no functions for its cache and no cache but the built-in store, and nobody else has one in
hand. -/
structure World.CachesPlainly {σ : Type} (connection : String) (w : World σ) : Prop where
  hooks : (w.session.settingsOf connection).hasCacheHooks = false
  chosen : Entries.get? connection w.session.chosenStores = none
  noCache : ∀ id cache, w.heap.cell? id ≠ some (.cache cache)

/-- The world with the state of functions. -/
def World.beside {P : Type} (f : Hook → HookCall → Step (Heap × P) Value) (p : P) (w : World E.State) :
    World (E.withCacheFunctions f).State :=
  ⟨w.session, w.heap, w.outside, p⟩

/-- The world with functions configured for the cache of a connection. -/
def World.withCacheHooks {σ : Type} (connection : String) (hooks : CacheHooks) (w : World σ) : World σ :=
  { w with
    session := w.session.withSettings connection ((w.session.settingsOf connection).withCacheHooks hooks) }

/-- It makes no difference to a run whether functions are configured for the cache: every operation gives the same, with
the same in the heap at that time, and the databases are sent the same statements in the same order. -/
structure CacheHooks.MakeNoDifference {P : Type} {f : Hook → HookCall → Step (Heap × P) Value} (hooks : CacheHooks)
    (connection : String) (asked : List Operation) (w : World (E.transcribed.withCacheFunctions f).State) : Prop where
  gives : (Operation.run connection asked (w.withCacheHooks connection hooks)).1 = (Operation.run connection asked w).1
  databases : (Operation.run connection asked (w.withCacheHooks connection hooks)).2.outside.1.1 =
    (Operation.run connection asked w).2.outside.1.1
  sent : (Operation.run connection asked (w.withCacheHooks connection hooks)).2.outside.1.2 =
    (Operation.run connection asked w).2.outside.1.2

/-- **Functions of the caller can take the place of the built-in store without a difference.** Functions for all four
operations that keep reads in a map as the built-in store does, starting from a map that holds what it does, make no
difference to any run of reads, writes and clearings, nor does a function for clearing alone that only watches. -/
theorem cacheHooks_make_no_difference (hE : E.LogsBeside connection) {asked : List Operation}
    (hspares : ∀ operation ∈ asked, operation.SparesCacheHooks) {w : World E.transcribed.State}
    (hw : w.CachesPlainly connection) :
    (∀ (map : Cache.Store) (create check store clear : Hook), map.HoldsAlike connection w.session.memory →
      CacheHooks.MakeNoDifference ⟨some create, some check, some store, some clear⟩ connection asked
        (w.beside (fun _ => Cache.overMap E.digest) map)) ∧
      ∀ {P : Type} (f : Hook → HookCall → Step (Heap × P) Value) (p : P) (clear : Hook), Cache.IsObserver (f clear) →
        CacheHooks.MakeNoDifference { clearCache := some clear } connection asked (w.beside f p) := by
  have hstart : ∀ {P : Type} (f : Hook → HookCall → Step (Heap × P) Value) (p : P) (hooks : CacheHooks)
      (Kept : Cache.Store → P → Cache.Store → Prop), Kept w.session.memory p w.session.memory →
      World.IsPlugged connection hooks w.session.era Kept ∅ ((w.beside f p).withCacheHooks connection hooks)
        (w.beside f p) := by
    intro P f p hooks Kept hkept
    refine ⟨rfl, ?_, hw.hooks, rfl, hw.chosen, hkept, rfl, rfl, hw.noCache, nofun⟩
    exact Session.settingsOf_withSettings_self _
  have hdifference : ∀ {P : Type} (f : Hook → HookCall → Step (Heap × P) Value) (p : P) (hooks : CacheHooks)
      (Kept : Cache.Store → P → Cache.Store → Prop), Kept w.session.memory p w.session.memory →
      KeepsAlike (E := E.transcribed) f connection hooks w.session.era Kept →
      hooks.MakeNoDifference connection asked (w.beside f p) := by
    intro P f p hooks Kept hkept halike
    obtain ⟨hgives, houtside⟩ := Operation.run_plugged hE.transcribed halike hspares (hstart f p hooks Kept hkept)
    exact ⟨hgives, congrArg Prod.fst houtside, congrArg Prod.snd houtside⟩
  constructor
  · intro map create check store clear hmap
    exact hdifference _ map _ _ hmap (Connection.keepsAlike_overMap create check store clear)
  · intro P f p clear hf
    exact hdifference f p _ (fun memory _ memory' => memory = memory') rfl (Connection.keepsAlike_observer hf)

/-- A database with one tea in it. Functions that log do nothing. -/
def Environment.oneTea : Environment where
  State := Unit
  digest := id
  connect _ s := (.error .noMember, s)
  execute _ _ _ s := (.ok ⟨0, none, 1, .int 7⟩, s)
  fetch _ _ s := (.ok [.map [(.text "id", .int 1), (.text "name", .text "Assam")]], s)
  insertId _ s := (.ok (.int 7), s)
  call _ _ := pure .null

/-- A connection that caches its reads and clears its cache after writes, with a query of all teas and another tea that
is new. -/
def World.teaTable : World Environment.oneTea.transcribed.State where
  session :=
    { settings := [("default", { caching := true, cachingAutoClear := true })]
      drivers := [("default", ⟨.native "mysql", ⟨1⟩⟩)] }
  heap := ⟨[.record (.onTable "tea" "default"), .record (.onTable "tea" "default")]⟩
  outside := ((), [])

/-- Reads with a write among them that clears the cache, and one that does not. -/
def Operation.amongTeas : List Operation :=
  [.call 0 .findArray, .call 0 .findArray,
    .call 1 (.create (.map [(.text "name", .text "Ceylon")])), .call 1 .save, .call 0 .findArray,
    .configure (.text "caching_auto_clear") (some (.bool false)),
    .call 1 (.write (.text "name") (.text "Darjeeling") false), .call 1 .save, .call 0 .findArray,
    .clearCache .null, .call 0 .findArray]

/-- A function that counts how often it is called. -/
def Cache.counting (_ : Hook) (_ : HookCall) : Step (Heap × Nat) Value := do
  modify fun u => (u.1, u.2 + 1)
  return .null

/-- The statements that the databases are sent among the teas. -/
def World.sentAmongTeas {P : Type} {f : Hook → HookCall → Step (Heap × P) Value} (hooks : CacheHooks)
    (w : World (Environment.oneTea.transcribed.withCacheFunctions f).State) : List Sent :=
  (Operation.run "default" Operation.amongTeas (w.withCacheHooks "default" hooks)).2.outside.1.2

/-- A map of the caller takes the place of the built-in store, or clearings are counted. -/
theorem cacheHooks_make_no_difference_amongTeas :
    ((World.teaTable.beside (fun _ => Cache.overMap Environment.oneTea.digest) []).sentAmongTeas
      ⟨some ⟨2⟩, some ⟨3⟩, some ⟨4⟩, some ⟨5⟩⟩).map (fun sent => sent.text.display) =
        ["SELECT * FROM `tea`", "INSERT INTO `tea` (`name`) VALUES (?)", "SELECT * FROM `tea`",
          "UPDATE `tea` SET `name` = ? WHERE `id` = ?", "SELECT * FROM `tea`"] ∧
      ((World.teaTable.beside Cache.counting 0).sentAmongTeas { clearCache := some ⟨5⟩ }).map
        (fun sent => sent.text.display) =
        ["SELECT * FROM `tea`", "INSERT INTO `tea` (`name`) VALUES (?)", "SELECT * FROM `tea`",
          "UPDATE `tea` SET `name` = ? WHERE `id` = ?", "SELECT * FROM `tea`"] := by
  have hlogs : Environment.oneTea.LogsBeside "default" := fun _ _ => ⟨pure .null, rfl, fun _ => Keeps.pure _⟩
  have hspares : ∀ operation ∈ Operation.amongTeas, operation.SparesCacheHooks := by
    simp [Operation.amongTeas, Operation.SparesCacheHooks, Setting.cacheHookNames]
  have hplain : World.teaTable.CachesPlainly "default" := by
    refine ⟨rfl, rfl, fun id cache => ?_⟩
    match id with
    | 0 | 1 => nofun
    | _ + 2 => nofun
  obtain ⟨hmap, hobserver⟩ := cacheHooks_make_no_difference hlogs hspares hplain
  have hfirst := (hmap [] ⟨2⟩ ⟨3⟩ ⟨4⟩ ⟨5⟩ ⟨rfl, .nil, .nil⟩).sent
  have hsecond := (hobserver Cache.counting 0 ⟨5⟩ fun _ _ u => ⟨.null, u.2 + 1, rfl⟩).sent
  rw [World.sentAmongTeas, World.sentAmongTeas, hfirst, hsecond]
  constructor <;> decide +kernel

end FluentSql
