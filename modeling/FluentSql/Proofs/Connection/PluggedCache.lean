import FluentSql.Proofs.Connection.CachedReads
import FluentSql.Proofs.Connection.Pairing
/-
# FluentSql.Proofs.Connection.PluggedCache — functions of the caller in place of the built-in store.

Functions that are configured for the operations of a cache see what they are called with, and have a state of their
own beside what lies outside (`Environment.withCacheFunctions`). There are two ways to plug them in so that nobody can
tell: functions for all four operations that keep reads in a map of the caller as the built-in store does
(`Cache.overMap`), or a function for clearing alone that only watches. In worlds with and without them the connection
then does alike (`isPairing_isPlugged`), finds the same rows and keeps them (`KeepsAlike.mirrors_read`), and clears them
(`KeepsAlike.mirrors_clearCache`).
-/

namespace FluentSql

open Step (Keeps Mirrors EndAlike perform_bind_ok)

/-! ## Functions for the operations of a cache -/

/-- What happens in the first of two parts. -/
def Environment.inFirst {σ P α : Type} (f : σ → Except Failure α × σ) (s : σ × P) : Except Failure α × (σ × P) :=
  ((f s.1).1, (f s.1).2, s.2)

/-- The environment with functions of the caller for the operations of a cache. They see the heap and a state of their
own. Functions that log see what they always see. -/
abbrev Environment.withCacheFunctions (E : Environment) {P : Type} (f : Hook → HookCall → Step (Heap × P) Value) :
    Environment where
  State := E.State × P
  digest := E.digest
  connect opening := inFirst (E.connect opening)
  execute link text params := inFirst (E.execute link text params)
  fetch cursor count := inFirst (E.fetch cursor count)
  insertId link := inFirst (E.insertId link)
  call hook call :=
    match call with
    | .log query =>
      Step.onPart (fun w : World (E.State × P) => ⟨w.session, w.heap, w.outside.1⟩)
        (fun u w => ⟨u.session, u.heap, u.outside, w.outside.2⟩) (E.call hook (.log query))
    | call =>
      Step.onPart (fun w : World (E.State × P) => (w.heap, w.outside.2))
        (fun u w => { w with heap := u.1, outside := (w.outside.1, u.2) }) (f hook call)

/-- The functions of the caller that log look at the heap and at what lies outside, but not at the session, and change
nothing else. They neither put a cache into the heap nor take a record of the connection away. -/
def Environment.LogsBeside (connection : String) (E : Environment) : Prop :=
  ∀ hook query, ∃ f : Step (Heap × E.State) Value,
    E.call hook (.log query) =
        Step.onPart (fun w => (w.heap, w.outside)) (fun u w => { w with heap := u.1, outside := u.2 }) f ∧
      ∀ numbers, Keeps (fun u => u.1.Suits connection numbers) f

namespace Cache

/-- The default key of a read. -/
def defaultKey (digest : String → String) (query params : Value) : Step Heap Value := do
  let params ← Heap.params params
  let h ← get
  return .text (key digest (h.settle query).display (h.settleParams params))

/-- Does something with the heap. -/
def inHeap {P α : Type} (step : Step Heap α) : Step (Heap × P) α := Step.onPart Prod.fst (fun h u => (h, u.2)) step

/-- The functions of a caller who keeps reads in a map in the way of the built-in store. -/
def overMap (digest : String → String) : HookCall → Step (Heap × Store) Value
  | .createKey query params _ _ => inHeap (defaultKey digest query params)
  | .checkCache key _ connection => do
    inHeap (do Heap.requireKey connection; Heap.requireKey key)
    return .ofOption ((← get).2.get? key connection)
  | .storeResult key rows _ connection => do
    inHeap (Heap.requireKey connection)
    modify fun u => (u.1, u.2.prepare connection)
    inHeap (Heap.requireKey key)
    modify fun u => (u.1, u.2.put key rows connection)
    return .null
  | .clearCache _ connection => do
    if !(← get).2.isEmpty then inHeap (Heap.requireKey connection)
    modify fun u => (u.1, u.2.clear connection)
    return .null
  | .log _ => return .null

/-- A function for clearing that only watches: it neither fails nor changes the heap. -/
def IsObserver {P : Type} (f : HookCall → Step (Heap × P) Value) : Prop :=
  ∀ table connection u, ∃ v p, (f (.clearCache table connection)).perform u = (.ok v, (u.1, p))

/-- The stores hold the same for the connection. -/
structure Store.HoldsAlike (connection : String) (store other : Store) : Prop where
  shelf : store.shelf (.text connection) = other.shelf (.text connection)
  distinct : Entries.Distinct store
  distinct' : Entries.Distinct other

namespace Store.HoldsAlike

variable {connection : String} {store other : Store}

theorem keeping (h : store.HoldsAlike connection other) (key rows : Value) :
    ((store.prepare (.text connection)).put key rows (.text connection)).HoldsAlike connection
      ((other.prepare (.text connection)).put key rows (.text connection)) where
  shelf := by rw [shelf_put_self, shelf_put_self, shelf_prepare_self, shelf_prepare_self, h.shelf]
  distinct := (h.distinct.put _ _).put _ _
  distinct' := (h.distinct'.put _ _).put _ _

theorem clear (h : store.HoldsAlike connection other) :
    (store.clear (.text connection)).HoldsAlike connection (other.clear (.text connection)) where
  shelf := by rw [shelf_clear_self h.distinct, shelf_clear_self h.distinct']
  distinct := h.distinct.erase _
  distinct' := h.distinct'.erase _

end Store.HoldsAlike

end Cache

theorem Session.inHeap_bind {E : Environment} {α β : Type} (step : Step Heap α) (next : α → Step Heap β) :
    (Session.inHeap (step >>= next) : Action E β) = Session.inHeap step >>= fun a => Session.inHeap (next a) := by
  funext w
  change (Session.inHeap (step >>= next) : Action E β).perform w = Step.perform (Session.inHeap step >>= _) w
  rw [Step.perform_bind, Session.inHeap, Session.inHeap, Step.perform_onPart, Step.perform_onPart, Step.perform_bind]
  rcases step.perform w.heap with ⟨_ | a, h⟩ <;> rfl

/-! ## Worlds with and without functions -/

/-- Two worlds: in the first one functions are configured for the cache of a connection, in the second one there are none,
and its reads are kept in the memory of the session. `Kept` says how what is kept in the first world, in its memory and by
the functions, goes with the memory of the second one. Nothing else is different. -/
structure World.IsPlugged {σ P : Type} (connection : String) (hooks : CacheHooks) (era : Nat)
    (Kept : Cache.Store → P → Cache.Store → Prop) (numbers : Set Nat) (w w' : World (σ × P)) : Prop where
  session : w.session = { w'.session with settings := w.session.settings, memory := w.session.memory }
  settings : w.session.settingsOf connection = (w'.session.settingsOf connection).withCacheHooks hooks
  plain : (w'.session.settingsOf connection).hasCacheHooks = false
  era : w'.session.era = era
  chosen : Entries.get? connection w'.session.chosenStores = none
  kept : Kept w.session.memory w.outside.2 w'.session.memory
  outside : w.outside.1 = w'.outside.1
  heap : w.heap.SuitAlike connection numbers w'.heap

/-- A change of a session that has nothing to do with settings, nor with what is kept of reads, and where. -/
structure Session.LeavesReads (f : Session → Session) : Prop where
  commutes : ∀ (s : Session) settings memory, f { s with settings, memory } = { f s with settings, memory }
  settings : ∀ s : Session, (f s).settings = s.settings
  memory : ∀ s : Session, (f s).memory = s.memory
  earlierSettings : ∀ s : Session, (f s).earlierSettings = s.earlierSettings
  chosenStores : ∀ s : Session, (f s).chosenStores = s.chosenStores

namespace World.IsPlugged

variable {σ P : Type} {connection : String} {hooks : CacheHooks} {era : Nat}
variable {Kept : Cache.Store → P → Cache.Store → Prop} {numbers : Set Nat} {w w' : World (σ × P)}

theorem withHeap {more : Set Nat} {heap heap' : Heap} (hw : IsPlugged connection hooks era Kept numbers w w')
    (hheap : heap.SuitAlike connection more heap') :
    IsPlugged connection hooks era Kept more { w with heap } { w' with heap := heap' } :=
  ⟨hw.session, hw.settings, hw.plain, hw.era, hw.chosen, hw.kept, hw.outside, hheap⟩

theorem change (hw : IsPlugged connection hooks era Kept numbers w w') {f : Session → Session}
    (hf : Session.LeavesReads f) :
    IsPlugged connection hooks era Kept numbers { w with session := f w.session }
      { w' with session := f w'.session } where
  session := by
    rw [hf.settings, hf.memory, ← hf.commutes, ← hw.session]
  settings := by
    rw [Session.settingsOf, Session.settingsOf, hf.settings, hf.settings]
    exact hw.settings
  plain := by
    rw [Session.settingsOf, hf.settings]
    exact hw.plain
  era := by
    rw [Session.era, hf.earlierSettings]
    exact hw.era
  chosen := by
    rw [hf.chosenStores]
    exact hw.chosen
  kept := by
    rw [hf.memory, hf.memory]
    exact hw.kept
  outside := hw.outside
  heap := hw.heap

theorem withSettings (hw : IsPlugged connection hooks era Kept numbers w w') (settings : Settings)
    (hplain : settings.hasCacheHooks = false) :
    IsPlugged connection hooks era Kept numbers
      { w with session := w.session.withSettings connection (settings.withCacheHooks hooks) }
      { w' with session := w'.session.withSettings connection settings } where
  session := congrArg
    (fun s : Session => s.withSettings connection (settings.withCacheHooks hooks)) hw.session
  settings := by rw [Session.settingsOf_withSettings_self, Session.settingsOf_withSettings_self]
  plain := by rwa [Session.settingsOf_withSettings_self]
  era := hw.era
  chosen := hw.chosen
  kept := hw.kept
  outside := hw.outside
  heap := hw.heap

/-- The sessions have in common all that is neither a setting nor kept of reads. -/
theorem sameBeside {β : Type} (hw : IsPlugged connection hooks era Kept numbers w w') (read : Session → β)
    (hread : ∀ (s : Session) settings memory, read { s with settings, memory } = read s) :
    read w.session = read w'.session := by
  rw [hw.session, hread]

end World.IsPlugged

namespace Connection

open Session (current change inHeap outside callHook)

variable {E : Environment} {P : Type} {f : Hook → HookCall → Step (Heap × P) Value} {connection : String}
variable {hooks : CacheHooks} {era : Nat} {Kept : Cache.Store → P → Cache.Store → Prop} {numbers : Set Nat} {α : Type}

/-- What lies outside has no part in the functions, and happens alike. -/
theorem mirrors_inFirst (g : E.State → Except Failure α × E.State) :
    Mirrors (World.IsPlugged connection hooks era Kept numbers) Eq
      (outside (Environment.inFirst g) : Action (E.withCacheFunctions f) α)
      (outside (Environment.inFirst g) : Action (E.withCacheFunctions f) α) := by
  intro w w' hw
  have hrun : ∀ u : World (E.State × P),
      (outside (Environment.inFirst g) : Action (E.withCacheFunctions f) α).perform u =
        ((g u.outside.1).1, { u with outside := ((g u.outside.1).2, u.outside.2) }) := fun _ => rfl
  rw [hrun, hrun, hw.outside]
  have hleft : World.IsPlugged connection hooks era Kept numbers
      { w with outside := ((g w'.outside.1).2, w.outside.2) }
      { w' with outside := ((g w'.outside.1).2, w'.outside.2) } :=
    ⟨hw.session, hw.settings, hw.plain, hw.era, hw.chosen, hw.kept, rfl, hw.heap⟩
  cases (g w'.outside.1).1 <;> exact ⟨rfl, hleft⟩

/-- A function that logs does not see the session. -/
theorem mirrors_log (hE : E.LogsBeside connection) (hook : Hook) (query : Value) :
    Mirrors (World.IsPlugged connection hooks era Kept numbers) Eq
      (callHook hook (.log query) : Action (E.withCacheFunctions f) Value)
      (callHook hook (.log query) : Action (E.withCacheFunctions f) Value) := by
  obtain ⟨g, hcall, hkeeps⟩ := hE hook query
  intro w w' hw
  have hrun : ∀ u : World (E.State × P), (callHook hook (.log query) :
      Action (E.withCacheFunctions f) Value).perform u =
        ((g.perform (u.heap, u.outside.1)).1,
          { u with
            heap := (g.perform (u.heap, u.outside.1)).2.1
            outside := ((g.perform (u.heap, u.outside.1)).2.2, u.outside.2) }) := by
    intro u
    have hlog : (E.withCacheFunctions f).call hook (.log query) =
        Step.onPart (fun w : World (E.State × P) => (⟨w.session, w.heap, w.outside.1⟩ : World E.State))
          (fun u w => ⟨u.session, u.heap, u.outside, w.outside.2⟩) (E.call hook (.log query)) := rfl
    rw [callHook, hlog, hcall]
    rfl
  have hleaves := (hkeeps numbers).leaves (s := (w.heap, w.outside.1)) hw.heap.2
  rw [hrun, hrun, ← hw.heap.1, ← hw.outside]
  have hleft : World.IsPlugged connection hooks era Kept numbers
      { w with
        heap := (g.perform (w.heap, w.outside.1)).2.1
        outside := ((g.perform (w.heap, w.outside.1)).2.2, w.outside.2) }
      { w' with
        heap := (g.perform (w.heap, w.outside.1)).2.1
        outside := ((g.perform (w.heap, w.outside.1)).2.2, w'.outside.2) } :=
    ⟨hw.session, hw.settings, hw.plain, hw.era, hw.chosen, hw.kept, rfl, rfl, hleaves⟩
  cases (g.perform (w.heap, w.outside.1)).1 <;> exact ⟨rfl, hleft⟩

/-- Worlds with and without functions have in common what decides how a connection writes its statements. -/
theorem isCommon_isPlugged (numbers : Set Nat) :
    IsCommon (E := E.withCacheFunctions f) connection (fun _ => True) (Heap.SuitAlike connection numbers)
      (World.IsPlugged connection hooks era Kept numbers) where
  sameSettings hw := by rw [hw.settings, Settings.withCacheHooks_withCacheHooks]
  sameKnownDialects hw := hw.sameBeside Session.knownDialects fun _ _ _ => rfl
  sameDriver hw := congrArg (Entries.get? connection) (hw.sameBeside Session.drivers fun _ _ _ => rfl)
  owned _ _ := trivial
  sameDialect hw :=
    congrArg (fun dialects => (Entries.get? connection dialects).map MadeDialect.dialect)
      (hw.sameBeside Session.dialects fun _ _ _ => rfl)
  opens opening := (mirrors_inFirst (E.connect opening)).mono fun _ _ h => ⟨h, trivial⟩
  sameHeap hw := hw.heap
  withHeap hw hheap := hw.withHeap hheap
  withDriver _ hw := hw.change ⟨fun _ _ _ => rfl, fun _ => rfl, fun _ => rfl, fun _ => rfl, fun _ => rfl⟩
  withDialect _ hw := hw.change ⟨fun _ _ _ => rfl, fun _ => rfl, fun _ => rfl, fun _ => rfl, fun _ => rfl⟩
  withSettings {w w'} D hw := by
    rw [hw.settings]
    exact hw.withSettings ((w'.session.settingsOf connection).detecting D) hw.plain

/-- **Worlds with and without functions are a pairing.** -/
theorem isPairing_isPlugged (hE : E.LogsBeside connection) :
    IsPairing (E := E.withCacheFunctions f) connection (fun _ => True)
      (World.IsPlugged connection hooks era Kept) where
  common := isCommon_isPlugged
  withHeap hw hheap := hw.withHeap hheap
  executes _ _ _ := mirrors_inFirst _
  fetches _ _ := mirrors_inFirst _
  inserts _ := mirrors_inFirst _
  logs hook query := mirrors_log hE hook query
  sameLastRowId _ hw := hw.sameBeside (Session.lastRowId _) fun _ _ _ => rfl
  withLastRowId {_ _ _ d} id _ hw := hw.change
    (f := fun s => { s with lastRowIds := (d.link, id) :: s.lastRowIds.filter (·.1 != d.link) })
    ⟨fun _ _ _ => rfl, fun _ => rfl, fun _ => rfl, fun _ => rfl, fun _ => rfl⟩
  withLastStatement statement hw := hw.change (f := fun s => { s with lastStatement := some statement })
    ⟨fun _ _ _ => rfl, fun _ => rfl, fun _ => rfl, fun _ => rfl, fun _ => rfl⟩
  withLog query hw := hw.change (f := fun s => { s with log := s.log.record connection query })
    ⟨fun _ _ _ => rfl, fun _ => rfl, fun _ => rfl, fun _ => rfl, fun _ => rfl⟩

/-! ## Reading through functions and through the built-in store -/

theorem cacheKey_builtin (query params table holder : Value) :
    (cacheKey .builtin query params table holder : Action E Value) =
      inHeap (Cache.defaultKey E.digest query params) := by
  rw [Cache.defaultKey, Session.inHeap_bind]
  rfl

/-- In worlds with and without functions every operation of the cache does alike, whether there is a function for it or
not. -/
structure KeepsAlike (f : Hook → HookCall → Step (Heap × P) Value) (connection : String) (hooks : CacheHooks) (era : Nat)
    (Kept : Cache.Store → P → Cache.Store → Prop) : Prop where
  any : hooks.isAny = true
  keys : ∀ {numbers} query params table, Mirrors (World.IsPlugged connection hooks era Kept numbers)
    (fun key key' => key = key' ∧ ∃ text, key = .text text)
    (cacheKey (.hooks connection era) query params table (.text connection) : Action (E.withCacheFunctions f) Value)
    (cacheKey .builtin query params table (.text connection) : Action (E.withCacheFunctions f) Value)
  finds : ∀ {numbers} key table, Mirrors (World.IsPlugged connection hooks era Kept numbers) Eq
    (lookUp (.hooks connection era) (.text key) table (.text connection) : Action (E.withCacheFunctions f) Value)
    (lookUp .builtin (.text key) table (.text connection) : Action (E.withCacheFunctions f) Value)
  keeps : ∀ {numbers} key rows table, Mirrors (World.IsPlugged connection hooks era Kept numbers) Eq
    (keep (.hooks connection era) (.text key) rows table (.text connection) : Action (E.withCacheFunctions f) Unit)
    (keep .builtin (.text key) rows table (.text connection) : Action (E.withCacheFunctions f) Unit)
  clears : ∀ {numbers} table, Mirrors (World.IsPlugged connection hooks era Kept numbers) Eq
    (clear (.hooks connection era) table (.text connection) : Action (E.withCacheFunctions f) Unit)
    (clear .builtin table (.text connection) : Action (E.withCacheFunctions f) Unit)

namespace KeepsAlike

/-- The functions are the cache in the first world, and the built-in store is in the second one. -/
theorem mirrors_cacheOf (hany : hooks.isAny = true) :
    Mirrors (World.IsPlugged connection hooks era Kept numbers)
      (fun cache cache' => cache = .hooks connection era ∧ cache' = .builtin)
      (cacheOf connection : Action (E.withCacheFunctions f) CacheRef)
      (cacheOf connection : Action (E.withCacheFunctions f) CacheRef) := by
  refine IsCommon.mirrors_bindCurrent (E := E.withCacheFunctions f) fun w w' hw => ?_
  rw [hw.sameBeside Session.chosenStores fun _ _ _ => rfl, hw.chosen]
  refine IsCommon.mirrors_bindCurrent (E := E.withCacheFunctions f) fun w w' hw => ?_
  rw [hw.sameBeside Session.era fun _ _ _ => rfl, hw.era, hw.settings, hw.plain,
    Settings.hasCacheHooks_withCacheHooks, hany]
  exact Mirrors.pure ⟨rfl, rfl⟩

variable (h : KeepsAlike (E := E) f connection hooks era Kept) (hE : E.LogsBeside connection)
include h hE

/-- **A read gives the same rows with functions and without**, from the cache or from the database. -/
theorem mirrors_read (sql params table : Value) :
    Mirrors (World.IsPlugged connection hooks era Kept numbers) Eq
      (read connection sql params table : Action (E.withCacheFunctions f) (List Value))
      (read connection sql params table : Action (E.withCacheFunctions f) (List Value)) := by
  have hI : IsPairing (E := E.withCacheFunctions f) connection _ (World.IsPlugged connection hooks era Kept) :=
    isPairing_isPlugged hE
  refine (hI.common numbers).mirrors_bindSettings (fun _ => rfl) (fun _ => rfl) fun settings => ?_
  split
  · refine Mirrors.bind (mirrors_cacheOf h.any) ?_
    rintro _ _ ⟨rfl, rfl⟩
    refine Mirrors.bind (h.keys sql params table) ?_
    rintro _ _ ⟨rfl, key, rfl⟩
    refine Mirrors.bindEq (h.finds key table) fun found => ?_
    split
    · refine Mirrors.bindEq (hI.mirrors_readFresh sql params) fun rows => ?_
      refine Mirrors.bindEq (hI.mirrors_copyOfRows rows) fun copies => ?_
      exact Mirrors.bindEq (h.keeps key _ table) fun _ => Mirrors.pure rfl
    · exact hI.mirrors_found found
  · exact hI.mirrors_readFresh sql params

omit hE in
theorem mirrors_clearCache (table : Value) :
    Mirrors (World.IsPlugged connection hooks era Kept numbers) Eq
      (clearCache table connection : Action (E.withCacheFunctions f) Unit)
      (clearCache table connection : Action (E.withCacheFunctions f) Unit) := by
  have hcontainer : Mirrors (World.IsPlugged connection hooks era Kept numbers) Eq
      (refuseContainer connection : Action (E.withCacheFunctions f) Unit)
      (refuseContainer connection : Action (E.withCacheFunctions f) Unit) := by
    refine IsCommon.mirrors_bindCurrent (E := E.withCacheFunctions f) fun w w' hw => ?_
    rw [hw.sameBeside Session.chosenStores fun _ _ _ => rfl, hw.chosen]
    exact Mirrors.pure rfl
  refine Mirrors.bindEq hcontainer fun _ => Mirrors.bind (mirrors_cacheOf h.any) ?_
  rintro _ _ ⟨rfl, rfl⟩
  exact h.clears table

end KeepsAlike

/-! ## The two ways to plug functions in -/

/-- The keys of reads are the default ones in both worlds. -/
theorem mirrors_defaultKey (query params : Value) :
    Mirrors (World.IsPlugged connection hooks era Kept numbers) (fun key key' => key = key' ∧ ∃ text, key = .text text)
      (inHeap (Cache.defaultKey E.digest query params) : Action (E.withCacheFunctions f) Value)
      (inHeap (Cache.defaultKey E.digest query params) : Action (E.withCacheFunctions f) Value) := by
  refine (isCommon_isPlugged numbers).mirrors_inHeap ?_
  have hparams : Mirrors (Heap.SuitAlike connection numbers) Eq (Heap.params params) (Heap.params params) :=
    Heap.mirrors_same (Heap.keeps_suits_of_drains fun h => keeps_params h params)
  refine Mirrors.bindEq hparams fun given => Mirrors.bindGet ?_
  rintro h _ ⟨rfl, -⟩
  exact Mirrors.pure ⟨rfl, _, rfl⟩

/-- The functions of the current era are those that are configured now. -/
theorem perform_hookOf_now {w : World E.State} (hera : w.session.era = era) (select : Settings → Option Hook) :
    (hookOf (.hooks connection era) select : Action E (Option Hook)).perform w =
      (.ok (select (w.session.settingsOf connection)), w) := by
  have hnow : w.session.settingsIn era connection = w.session.settingsOf connection := by
    rw [Session.settingsIn, List.getElem?_eq_none (Nat.le_of_eq hera)]
  rw [hookOf, Session.perform_bindCurrent, hnow]
  rfl

section

variable {w w' : World (E.State × P)} (hw : World.IsPlugged connection hooks era Kept numbers w w')
include hw

theorem perform_hookOf_plugged (select : Settings → Option Hook) :
    (hookOf (.hooks connection era) select : Action (E.withCacheFunctions f) (Option Hook)).perform w =
      (.ok (select ((w'.session.settingsOf connection).withCacheHooks hooks)), w) := by
  rw [perform_hookOf_now (E := E.withCacheFunctions f) ((hw.sameBeside Session.era fun _ _ _ => rfl).trans hw.era),
    hw.settings]

/-- Clearing goes on from the memory to the function, if there is one. -/
theorem perform_clear_plugged (table : Value) :
    (clear (.hooks connection era) table (.text connection) : Action (E.withCacheFunctions f) Unit).perform w =
      (match hooks.clearCache with
        | some hook => discard <| callHook hook (.clearCache table (.text connection))
        | none => pure () : Action (E.withCacheFunctions f) Unit).perform
          { w with session := w.session.clearing connection } := by
  have hstore : (store (.hooks connection era) : Action (E.withCacheFunctions f) Cache.Store).perform w =
      (.ok w.session.memory, w) := rfl
  have hput : (putStore (.hooks connection era) (w.session.memory.clear (.text connection)) :
      Action (E.withCacheFunctions f) Unit).perform w = (.ok (), { w with session := w.session.clearing connection }) :=
    rfl
  have hhook : (hookOf (.hooks connection era) Settings.clearCache :
      Action (E.withCacheFunctions f) (Option Hook)).perform { w with session := w.session.clearing connection } =
        (.ok hooks.clearCache, { w with session := w.session.clearing connection }) := by
    rw [perform_hookOf_now ((hw.sameBeside Session.era fun _ _ _ => rfl).trans hw.era)]
    exact congrArg (fun s : Settings => (Except.ok s.clearCache, _)) hw.settings
  -- The name of a connection can always be looked up by, so it does not matter whether the store is empty.
  have hkey : (inHeap (Heap.requireKey (.text connection)) : Action (E.withCacheFunctions f) Unit) = pure () := rfl
  rw [clear, perform_bind_ok hstore]
  extract_lets dropping
  rw [hkey, pure_bind, ite_self]
  exact (perform_bind_ok hput).trans (perform_bind_ok hhook)

/-- The worlds with something else kept in them. -/
theorem isPlugged_keeping (memory : Cache.Store) {memory' : Cache.Store} (p p' : P) (hkept : Kept memory p memory') :
    World.IsPlugged connection hooks era Kept numbers
      { w with session := { w.session with memory }, outside := (w.outside.1, p) }
      { w' with session := { w'.session with memory := memory' }, outside := (w'.outside.1, p') } where
  session := congrArg (fun s : Session => { s with memory }) hw.session
  settings := hw.settings
  plain := hw.plain
  era := hw.era
  chosen := hw.chosen
  kept := hkept
  outside := hw.outside
  heap := hw.heap

end

/-- **Functions for all four operations can take the place of the built-in store.** -/
theorem keepsAlike_overMap (create check store clear : Hook) :
    KeepsAlike (E := E) (fun _ => Cache.overMap E.digest) connection ⟨some create, some check, some store, some clear⟩
      era fun _ map memory => map.HoldsAlike connection memory where
  any := rfl
  keys query params table := by
    rw [cacheKey_builtin]
    intro w w' hw
    rw [cacheKey, perform_bind_ok (perform_hookOf_plugged hw _)]
    exact mirrors_defaultKey query params w w' hw
  finds key table w w' hw := by
    have hfinds : (lookUp (.hooks connection era) (.text key) table (.text connection) :
        Action (E.withCacheFunctions fun _ => Cache.overMap E.digest) Value).perform w =
          (.ok (.ofOption (w.outside.2.get? (.text key) (.text connection))), w) := by
      rw [lookUp, perform_bind_ok (perform_hookOf_plugged hw _)]
      rfl
    rw [hfinds, perform_lookUp, Cache.Store.get?, Cache.Store.get?, hw.kept.shelf]
    exact ⟨rfl, hw⟩
  keeps key rows table w w' hw := by
    have hkeeps : (keep (.hooks connection era) (.text key) rows table (.text connection) :
        Action (E.withCacheFunctions fun _ => Cache.overMap E.digest) Unit).perform w =
          (.ok (), { w with outside :=
            (w.outside.1, (w.outside.2.prepare (.text connection)).put (.text key) rows (.text connection)) }) := by
      rw [keep, perform_bind_ok (perform_hookOf_plugged hw _)]
      rfl
    rw [hkeeps, perform_keep]
    exact ⟨rfl, isPlugged_keeping hw w.session.memory _ w'.outside.2 (hw.kept.keeping _ _)⟩
  clears table w w' hw := by
    have hclears : (Connection.clear (.hooks connection era) table (.text connection) :
        Action (E.withCacheFunctions fun _ => Cache.overMap E.digest) Unit).perform w =
          (.ok (), { w with
            session := w.session.clearing connection
            outside := (w.outside.1, w.outside.2.clear (.text connection)) }) := by
      rw [perform_clear_plugged hw]
      obtain ⟨session, heap, o, map⟩ := w
      cases map <;> rfl
    rw [hclears, perform_clear_builtin]
    exact ⟨rfl, isPlugged_keeping hw _ _ w'.outside.2 hw.kept.clear⟩

/-- **A function for clearing that only watches leaves everything to the built-in store.** -/
theorem keepsAlike_observer {clear : Hook} (hf : Cache.IsObserver (f clear)) :
    KeepsAlike (E := E) f connection { clearCache := some clear } era fun memory _ memory' => memory = memory' where
  any := rfl
  keys query params table w w' hw := by
    have hkey : (cacheKey (.hooks connection era) query params table (.text connection) :
        Action (E.withCacheFunctions f) Value).perform w =
          (cacheKey .builtin query params table (.text connection) : Action (E.withCacheFunctions f) Value).perform w := by
      rw [cacheKey, perform_bind_ok (perform_hookOf_plugged hw _)]
      rfl
    rw [hkey, cacheKey_builtin]
    exact mirrors_defaultKey query params w w' hw
  finds key table w w' hw := by
    have hfinds : (lookUp (.hooks connection era) (.text key) table (.text connection) :
        Action (E.withCacheFunctions f) Value).perform w =
          (.ok (.ofOption (w.session.memory.get? (.text key) (.text connection))), w) := by
      rw [lookUp, perform_bind_ok (perform_hookOf_plugged hw _)]
      rfl
    rw [hfinds, perform_lookUp, hw.kept]
    exact ⟨rfl, hw⟩
  keeps key rows table w w' hw := by
    have hkeeps : (keep (.hooks connection era) (.text key) rows table (.text connection) :
        Action (E.withCacheFunctions f) Unit).perform w =
          (.ok (), { w with session := w.session.keeping (.text key) rows connection }) := by
      rw [keep, perform_bind_ok (perform_hookOf_plugged hw _)]
      rfl
    rw [hkeeps, perform_keep]
    exact ⟨rfl, isPlugged_keeping hw _ w.outside.2 w'.outside.2 (by rw [hw.kept])⟩
  clears table w w' hw := by
    obtain ⟨v, p, hwatches⟩ := hf table (.text connection) (w.heap, w.outside.2)
    have hclears : (Connection.clear (.hooks connection era) table (.text connection) :
        Action (E.withCacheFunctions f) Unit).perform w =
          (.ok (), { w with session := w.session.clearing connection, outside := (w.outside.1, p) }) := by
      rw [perform_clear_plugged hw]
      have hcall : (callHook clear (.clearCache table (.text connection)) :
          Action (E.withCacheFunctions f) Value).perform { w with session := w.session.clearing connection } =
            (.ok v, { w with session := w.session.clearing connection, outside := (w.outside.1, p) }) := by
        change (((f clear (.clearCache table (.text connection))).perform (w.heap, w.outside.2)).1, _) = _
        rw [hwatches]
      exact perform_bind_ok hcall
    rw [hclears, perform_clear_builtin]
    exact ⟨rfl, isPlugged_keeping hw _ _ w'.outside.2 (by rw [hw.kept])⟩

end Connection

end FluentSql
