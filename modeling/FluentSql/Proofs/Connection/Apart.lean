import FluentSql.Proofs.Cache.Store
import FluentSql.Proofs.Connection.Pairing
/-
# FluentSql.Proofs.Connection.Apart — what connections do is apart from one another.

A session keeps everything by the names of connections, except the rows that databases inserted last, which it keeps
by link, and the store, which has a shelf for each connection. So two sessions may have all that belongs to one
connection in common, whatever they hold for the others (`Session.AgreesOn`). An action on behalf of a connection is
apart (`IsApart`) if it does the same in two such sessions, and leaves everything of the others as it was. Statements
and cached reads are (`isPairing_isBeside`, `isApart_read`), provided that nobody looks at the store as a whole and that
the functions of the caller are.
-/

namespace FluentSql

open Step (Keeps Triple Mirrors)

/-! ## What belongs to a connection -/

/-- The sessions hold the same for a connection. Links belong to connections. -/
structure Session.AgreesOn (owner : Link → String) (connection : String) (s s' : Session) : Prop where
  settings : s.settingsOf connection = s'.settingsOf connection
  earlierSettings : s.earlierSettings = s'.earlierSettings
  knownDialects : s.knownDialects = s'.knownDialects
  driver : Entries.get? connection s.drivers = Entries.get? connection s'.drivers
  dialect : (Entries.get? connection s.dialects).map MadeDialect.dialect =
    (Entries.get? connection s'.dialects).map MadeDialect.dialect
  lastRowId : ∀ link, owner link = connection → s.lastRowId link = s'.lastRowId link
  shelf : s.memory.shelf (.text connection) = s'.memory.shelf (.text connection)
  log : s.log.of connection = s'.log.of connection

/-- Every connection of the session has links of its own, and keeps its reads in the store of the session. -/
structure Session.IsDivided (owner : Link → String) (s : Session) : Prop where
  distinctDrivers : s.drivers.Distinct
  distinctDialects : s.dialects.Distinct
  distinctShelves : Entries.Distinct s.memory
  owned : ∀ connection d, Entries.get? connection s.drivers = some d → owner d.link = connection
  chosenStores : s.chosenStores = []

namespace Session

variable {owner : Link → String} {connection other : String} {s s' s'' : Session}

namespace AgreesOn

theorem refl (s : Session) : s.AgreesOn owner connection s :=
  ⟨rfl, rfl, rfl, rfl, rfl, fun _ _ => rfl, rfl, rfl⟩

theorem symm (h : s.AgreesOn owner connection s') : s'.AgreesOn owner connection s :=
  ⟨h.settings.symm, h.earlierSettings.symm, h.knownDialects.symm, h.driver.symm, h.dialect.symm,
    fun link hlink => (h.lastRowId link hlink).symm, h.shelf.symm, h.log.symm⟩

theorem trans (h : s.AgreesOn owner connection s') (h' : s'.AgreesOn owner connection s'') :
    s.AgreesOn owner connection s'' :=
  ⟨h.settings.trans h'.settings, h.earlierSettings.trans h'.earlierSettings,
    h.knownDialects.trans h'.knownDialects, h.driver.trans h'.driver, h.dialect.trans h'.dialect,
    fun link hlink => (h.lastRowId link hlink).trans (h'.lastRowId link hlink), h.shelf.trans h'.shelf,
    h.log.trans h'.log⟩

end AgreesOn

/-- A change that is made for one connection. What it makes of two sessions that agree on the connection agrees on
it too, and nothing of the others is changed. -/
structure ChangesOnly (owner : Link → String) (connection : String) (f g : Session → Session) : Prop where
  divided : ∀ s : Session, s.IsDivided owner → (f s).IsDivided owner
  divided' : ∀ s : Session, s.IsDivided owner → (g s).IsDivided owner
  agrees : ∀ s s' : Session, s.IsDivided owner → s'.IsDivided owner → s.AgreesOn owner connection s' →
    (f s).AgreesOn owner connection (g s')
  spares : ∀ other ≠ connection, ∀ s : Session, s.AgreesOn owner other (f s)
  spares' : ∀ other ≠ connection, ∀ s : Session, s.AgreesOn owner other (g s)

/-- A change that is made alike in both sessions. -/
theorem ChangesOnly.of_same {f : Session → Session}
    (divided : ∀ s : Session, s.IsDivided owner → (f s).IsDivided owner)
    (agrees : ∀ s s' : Session, s.IsDivided owner → s'.IsDivided owner → s.AgreesOn owner connection s' →
      (f s).AgreesOn owner connection (f s'))
    (spares : ∀ other ≠ connection, ∀ s : Session, s.AgreesOn owner other (f s)) :
    ChangesOnly owner connection f f :=
  ⟨divided, divided, agrees, spares, spares⟩

theorem changesOnly_withDriver {d : Driver} (hd : owner d.link = connection) :
    ChangesOnly owner connection (withDriver connection d) (withDriver connection d) := by
  refine .of_same (fun s hs => ?_) (fun s s' hs hs' h => ?_) fun other hother s => ?_
  · refine ⟨hs.distinctDrivers.put _ _, hs.distinctDialects.erase _, hs.distinctShelves, ?_, hs.chosenStores⟩
    intro other d' hd'
    by_cases hother : other = connection
    · subst hother
      simp only [withDriver, Entries.get?_put_self, Option.some.injEq] at hd'
      exact hd' ▸ hd
    · simp only [withDriver, Entries.get?_put_of_ne (beq_false_of_ne hother)] at hd'
      exact hs.owned other d' hd'
  · refine ⟨h.settings, h.earlierSettings, h.knownDialects, ?_, ?_, h.lastRowId, h.shelf, h.log⟩
    · simp [withDriver]
    · simp [withDriver, Entries.get?_erase_self hs.distinctDialects,
        Entries.get?_erase_self hs'.distinctDialects]
  · have hne := beq_false_of_ne hother
    refine ⟨rfl, rfl, rfl, ?_, ?_, fun _ _ => rfl, rfl, rfl⟩
    · simp [withDriver, Entries.get?_put_of_ne hne]
    · simp [withDriver, Entries.get?_erase_of_ne hne]

theorem changesOnly_withoutDriver :
    ChangesOnly owner connection
      (fun s => { s with
        dialects := Entries.erase connection s.dialects
        drivers := Entries.erase connection s.drivers })
      (fun s => { s with
        dialects := Entries.erase connection s.dialects
        drivers := Entries.erase connection s.drivers }) := by
  refine .of_same (fun s hs => ?_) (fun s s' hs hs' h => ?_) fun other hother s => ?_
  · refine ⟨hs.distinctDrivers.erase _, hs.distinctDialects.erase _, hs.distinctShelves, ?_, hs.chosenStores⟩
    intro other d' hd'
    by_cases hother : other = connection
    · subst hother
      simp [Entries.get?_erase_self hs.distinctDrivers] at hd'
    · rw [Entries.get?_erase_of_ne (beq_false_of_ne hother)] at hd'
      exact hs.owned other d' hd'
  · refine ⟨h.settings, h.earlierSettings, h.knownDialects, ?_, ?_, h.lastRowId, h.shelf, h.log⟩
    · simp [Entries.get?_erase_self hs.distinctDrivers, Entries.get?_erase_self hs'.distinctDrivers]
    · simp [Entries.get?_erase_self hs.distinctDialects, Entries.get?_erase_self hs'.distinctDialects]
  · have hne := beq_false_of_ne hother
    refine ⟨rfl, rfl, rfl, ?_, ?_, fun _ _ => rfl, rfl, rfl⟩
    · simp [Entries.get?_erase_of_ne hne]
    · simp [Entries.get?_erase_of_ne hne]

theorem changesOnly_withDialect (D : Dialect) :
    ChangesOnly owner connection (withDialect connection D) (withDialect connection D) := by
  refine .of_same (fun s hs => ?_) (fun s s' _ _ h => ?_) fun other hother s => ?_
  · exact ⟨hs.distinctDrivers, hs.distinctDialects.put _ _, hs.distinctShelves, hs.owned, hs.chosenStores⟩
  · refine ⟨h.settings, h.earlierSettings, h.knownDialects, h.driver, ?_, h.lastRowId, h.shelf, h.log⟩
    simp [withDialect]
  · refine ⟨rfl, rfl, rfl, rfl, ?_, fun _ _ => rfl, rfl, rfl⟩
    simp [withDialect, Entries.get?_put_of_ne (beq_false_of_ne hother)]

theorem changesOnly_withSettings (settings : Settings) :
    ChangesOnly owner connection (withSettings connection settings) (withSettings connection settings) := by
  refine .of_same (fun s hs => ?_) (fun s s' _ _ h => ?_) fun other hother s => ?_
  · exact ⟨hs.distinctDrivers, hs.distinctDialects, hs.distinctShelves, hs.owned, hs.chosenStores⟩
  · refine ⟨?_, h.earlierSettings, h.knownDialects, h.driver, h.dialect, h.lastRowId, h.shelf, h.log⟩
    rw [settingsOf_withSettings_self, settingsOf_withSettings_self]
  · refine ⟨?_, rfl, rfl, rfl, rfl, fun _ _ => rfl, rfl, rfl⟩
    rw [settingsOf_withSettings_of_ne hother]

/-- The number of the row that was inserted last over a link of the connection. -/
theorem changesOnly_lastRowId {link : Link} (hlink : owner link = connection) (id : Value) :
    ChangesOnly owner connection
      (fun s => { s with lastRowIds := (link, id) :: s.lastRowIds.filter (·.1 != link) })
      (fun s => { s with lastRowIds := (link, id) :: s.lastRowIds.filter (·.1 != link) }) := by
  have hlast : ∀ (s : Session) (wanted : Link),
      lastRowId wanted { s with lastRowIds := (link, id) :: s.lastRowIds.filter (·.1 != link) } =
        if link = wanted then id else s.lastRowId wanted := by
    intro s wanted
    by_cases hwanted : link = wanted
    · simp [lastRowId, hwanted]
    · simp only [lastRowId, hwanted, if_false, List.find?_cons, beq_false_of_ne hwanted, List.find?_filter]
      congr 2
      refine congrArg (List.find? · s.lastRowIds) (funext fun e => ?_)
      by_cases he : e.1 = wanted
      · simp [he, Ne.symm hwanted]
      · simp [he]
  refine .of_same (fun s hs => ?_) (fun s s' _ _ h => ?_) fun other hother s => ?_
  · exact ⟨hs.distinctDrivers, hs.distinctDialects, hs.distinctShelves, hs.owned, hs.chosenStores⟩
  · refine ⟨h.settings, h.earlierSettings, h.knownDialects, h.driver, h.dialect, fun wanted hwanted => ?_,
      h.shelf, h.log⟩
    rw [hlast, hlast, h.lastRowId wanted hwanted]
  · refine ⟨rfl, rfl, rfl, rfl, rfl, fun wanted hwanted => ?_, rfl, rfl⟩
    have hne : link ≠ wanted := by
      rintro rfl
      exact hother (hwanted.symm.trans hlink)
    rw [hlast, if_neg hne]

theorem changesOnly_lastStatement (statement : Statement) :
    ChangesOnly owner connection (fun s => { s with lastStatement := some statement })
      (fun s => { s with lastStatement := some statement }) := by
  refine .of_same (fun s hs => ?_) (fun s s' _ _ h => ?_) fun other _ s => ?_
  · exact ⟨hs.distinctDrivers, hs.distinctDialects, hs.distinctShelves, hs.owned, hs.chosenStores⟩
  · exact ⟨h.settings, h.earlierSettings, h.knownDialects, h.driver, h.dialect, h.lastRowId, h.shelf, h.log⟩
  · exact ⟨rfl, rfl, rfl, rfl, rfl, fun _ _ => rfl, rfl, rfl⟩

theorem changesOnly_log (query : Value) :
    ChangesOnly owner connection (fun s => { s with log := s.log.record connection query })
      (fun s => { s with log := s.log.record connection query }) := by
  refine .of_same (fun s hs => ?_) (fun s s' _ _ h => ?_) fun other hother s => ?_
  · exact ⟨hs.distinctDrivers, hs.distinctDialects, hs.distinctShelves, hs.owned, hs.chosenStores⟩
  · refine ⟨h.settings, h.earlierSettings, h.knownDialects, h.driver, h.dialect, h.lastRowId, h.shelf, ?_⟩
    rw [QueryLog.of_record_self, QueryLog.of_record_self, h.log]
  · refine ⟨rfl, rfl, rfl, rfl, rfl, fun _ _ => rfl, rfl, ?_⟩
    rw [QueryLog.of_record_of_ne hother]

end Session

/-! ## Actions on behalf of a connection -/

/-- Two worlds in the course of an action on behalf of a connection, which started with two sessions: they agree on
the connection, and have left everything of the others as it was. -/
structure World.IsBeside {σ : Type} (owner : Link → String) (connection : String) (numbers : Set Nat)
    (s₀ s₀' : Session) (w w' : World σ) : Prop where
  agrees : w.session.AgreesOn owner connection w'.session
  outside : w.outside = w'.outside
  heap : w.heap.SuitAlike connection numbers w'.heap
  divided : w.session.IsDivided owner
  divided' : w'.session.IsDivided owner
  spares : ∀ other ≠ connection, s₀.AgreesOn owner other w.session
  spares' : ∀ other ≠ connection, s₀'.AgreesOn owner other w'.session

/-- What the action does depends on what belongs to the connection, and changes nothing of the others. -/
def IsApart {E : Environment} {α : Type} (owner : Link → String) (connection : String) (R : α → α → Prop)
    (action : Action E α) : Prop :=
  ∀ numbers s₀ s₀', Mirrors (World.IsBeside owner connection numbers s₀ s₀') R action action

/-- What lies outside belongs to a connection: its databases open links of the connection, and the functions of
the caller keep to it. -/
structure Environment.BelongsTo (owner : Link → String) (connection : String) (E : Environment) : Prop where
  connects : ∀ {opening s opened s'}, E.connect opening s = (.ok opened, s') → owner opened.link = connection
  calls : ∀ hook call, IsApart owner connection Eq (E.call hook call)

theorem World.IsBeside.withHeap {σ : Type} {owner : Link → String} {connection : String} {numbers more : Set Nat}
    {s₀ s₀' : Session} {w w' : World σ} (h : World.IsBeside owner connection numbers s₀ s₀' w w') {heap heap' : Heap}
    (hheap : heap.SuitAlike connection more heap') :
    World.IsBeside owner connection more s₀ s₀' { w with heap } { w' with heap := heap' } :=
  ⟨h.agrees, h.outside, hheap, h.divided, h.divided', h.spares, h.spares'⟩

theorem World.IsBeside.withOutside {σ : Type} {owner : Link → String} {connection : String} {numbers : Set Nat}
    {s₀ s₀' : Session} {w w' : World σ} (h : World.IsBeside owner connection numbers s₀ s₀' w w') (o : σ) :
    World.IsBeside owner connection numbers s₀ s₀' { w with outside := o } { w' with outside := o } :=
  ⟨h.agrees, rfl, h.heap, h.divided, h.divided', h.spares, h.spares'⟩

theorem World.IsBeside.change {σ : Type} {owner : Link → String} {connection : String} {numbers : Set Nat}
    {s₀ s₀' : Session} {w w' : World σ} (h : World.IsBeside owner connection numbers s₀ s₀' w w') {f g : Session → Session}
    (hfg : Session.ChangesOnly owner connection f g) :
    World.IsBeside owner connection numbers s₀ s₀' { w with session := f w.session } { w' with session := g w'.session } where
  agrees := hfg.agrees _ _ h.divided h.divided' h.agrees
  outside := h.outside
  heap := h.heap
  divided := hfg.divided _ h.divided
  divided' := hfg.divided' _ h.divided'
  spares other hother := (h.spares other hother).trans (hfg.spares other hother _)
  spares' other hother := (h.spares' other hother).trans (hfg.spares' other hother _)

namespace Connection

open Session (current change inHeap outside callHook)

variable {E : Environment} {owner : Link → String} {connection : String} {α β : Type}
variable {numbers : Set Nat} {s₀ s₀' : Session}

/-- What happens outside happens alike where connections agree. -/
theorem mirrors_outside_isBeside (f : E.State → Except Failure α × E.State) :
    Mirrors (World.IsBeside owner connection numbers s₀ s₀') Eq (outside f) (outside f) :=
  (mirrors_outside (fun h => h.outside) (fun _ h => h.withOutside _) (P := fun _ => True) fun _ _ _ _ => trivial).mono
    fun _ _ h => h.1

section

variable (hE : E.BelongsTo owner connection)
include hE

/-- Worlds that agree on a connection have in common what decides how it writes its statements. -/
theorem isCommon_isBeside (numbers : Set Nat) (s₀ s₀' : Session) :
    IsCommon connection (fun d => owner d.link = connection) (Heap.SuitAlike connection numbers)
      (fun w w' : World E.State => World.IsBeside owner connection numbers s₀ s₀' w w') where
  sameSettings h := by rw [h.agrees.settings]
  sameKnownDialects h := h.agrees.knownDialects
  sameDriver h := h.agrees.driver
  owned h hd := h.divided'.owned _ _ hd
  sameDialect h := h.agrees.dialect
  opens opening := mirrors_outside (fun h => h.outside) (fun _ h => h.withOutside _) fun s opened s' hrun => by
    have howner := hE.connects hrun
    cases opening <;> exact howner
  sameHeap h := h.heap
  withHeap h hheap := h.withHeap hheap
  withDriver hd h := h.change (Session.changesOnly_withDriver hd)
  withDialect D h := h.change (Session.changesOnly_withDialect D)
  withSettings {w w'} D h := by
    rw [← h.agrees.settings]
    exact h.change (Session.changesOnly_withSettings _)

/-- Worlds that agree on a connection are a pairing. -/
theorem isPairing_isBeside (s₀ s₀' : Session) :
    IsPairing connection (fun d => owner d.link = connection)
      (fun numbers (w w' : World E.State) => World.IsBeside owner connection numbers s₀ s₀' w w') where
  common numbers := isCommon_isBeside hE numbers s₀ s₀'
  withHeap h hheap := h.withHeap hheap
  executes _ _ _ := mirrors_outside_isBeside _
  fetches _ _ := mirrors_outside_isBeside _
  inserts _ := mirrors_outside_isBeside _
  logs hook _ := hE.calls hook _ _ s₀ s₀'
  sameLastRowId hd h := h.agrees.lastRowId _ hd
  withLastRowId id hd h := h.change (Session.changesOnly_lastRowId hd id)
  withLastStatement statement h := h.change (Session.changesOnly_lastStatement statement)
  withLog query h := h.change (Session.changesOnly_log query)

omit hE in
theorem isApart_settings : IsApart owner connection Eq (settings connection : Action E Settings) :=
  fun _ _ _ _ _ h => ⟨h.agrees.settings, h⟩

/-! ## The store -/

/-- The cache keeps the reads of the connection in the store of the session. -/
def KeepsFor (connection : String) : CacheRef → Prop
  | .builtin => True
  | .hooks other _ => other = connection
  | .given _ => False

omit hE in
theorem isApart_cacheOf :
    IsApart owner connection (fun cache cache' => cache = cache' ∧ KeepsFor connection cache)
      (cacheOf connection : Action E CacheRef) := by
  intro numbers s₀ s₀'
  refine IsCommon.mirrors_bindCurrent fun w w' hw => ?_
  rw [hw.divided.chosenStores, hw.divided'.chosenStores]
  refine IsCommon.mirrors_bindCurrent fun w w' hw => ?_
  rw [hw.agrees.settings, Session.era, Session.era, hw.agrees.earlierSettings]
  split
  · exact Mirrors.pure ⟨rfl, rfl⟩
  · exact Mirrors.pure ⟨rfl, trivial⟩

omit hE in
theorem isApart_refuseContainer :
    IsApart owner connection Eq (refuseContainer connection : Action E Unit) := by
  intro numbers s₀ s₀'
  refine IsCommon.mirrors_bindCurrent fun w w' hw => ?_
  rw [hw.divided.chosenStores, hw.divided'.chosenStores]
  exact Mirrors.pure rfl

omit hE in
theorem isApart_hookOf {cache : CacheRef} (hcache : KeepsFor connection cache)
    (select : Settings → Option Hook) :
    IsApart owner connection Eq (hookOf cache select : Action E (Option Hook)) := by
  intro numbers s₀ s₀'
  match cache, hcache with
  | .builtin, _ => exact Mirrors.pure rfl
  | .hooks _ era, rfl =>
      refine IsCommon.mirrors_bindCurrent fun w w' hw => Mirrors.pure ?_
      simp only [Session.settingsIn, hw.agrees.settings, hw.agrees.earlierSettings]

/-- Two stores that keep the same for the connection, and for the others what two sessions keep. -/
structure SharesShelf (connection : String) (s₀ s₀' : Session) (kept kept' : Cache.Store) : Prop where
  same : kept.shelf (.text connection) = kept'.shelf (.text connection)
  distinct : Entries.Distinct kept
  distinct' : Entries.Distinct kept'
  spares : ∀ other ≠ connection, s₀.memory.shelf (.text other) = kept.shelf (.text other)
  spares' : ∀ other ≠ connection, s₀'.memory.shelf (.text other) = kept'.shelf (.text other)

namespace SharesShelf

variable {kept kept' : Cache.Store}

omit hE in
/-- A change of the shelf of the connection. -/
theorem map (h : SharesShelf connection s₀ s₀' kept kept') {f : Cache.Store → Cache.Store}
    {g : Cache.Shelf → Cache.Shelf} (hdistinct : ∀ store, Entries.Distinct store → Entries.Distinct (f store))
    (hself : ∀ store : Cache.Store, Entries.Distinct store →
      (f store).shelf (.text connection) = g (store.shelf (.text connection)))
    (hne : ∀ store : Cache.Store, ∀ other ≠ connection,
      (f store).shelf (.text other) = store.shelf (.text other)) :
    SharesShelf connection s₀ s₀' (f kept) (f kept') where
  same := by rw [hself kept h.distinct, hself kept' h.distinct', h.same]
  distinct := hdistinct kept h.distinct
  distinct' := hdistinct kept' h.distinct'
  spares other hother := by rw [hne kept other hother, h.spares other hother]
  spares' other hother := by rw [hne kept' other hother, h.spares' other hother]

omit hE in
theorem prepare (h : SharesShelf connection s₀ s₀' kept kept') :
    SharesShelf connection s₀ s₀' (kept.prepare (.text connection)) (kept'.prepare (.text connection)) := by
  refine h.map (g := id) (fun _ hd => hd.put _ _) (fun store _ => store.shelf_prepare_self _)
    fun store other hother => ?_
  · have hne : (Value.text other == .text connection) = false := by simpa using hother
    rw [Cache.Store.prepare, Cache.Store.shelf, Entries.get?_put_of_ne hne, ← Cache.Store.shelf]

omit hE in
theorem put (h : SharesShelf connection s₀ s₀' kept kept') (key rows : Value) :
    SharesShelf connection s₀ s₀' (kept.put key rows (.text connection))
      (kept'.put key rows (.text connection)) := by
  refine h.map (g := Entries.put key rows) (fun _ hd => hd.put _ _) (fun store _ => store.shelf_put_self key rows _)
    fun store other hother => ?_
  · have hne : (Value.text other == .text connection) = false := by simpa using hother
    rw [Cache.Store.put, Cache.Store.shelf, Entries.get?_put_of_ne hne, ← Cache.Store.shelf]

omit hE in
theorem clear (h : SharesShelf connection s₀ s₀' kept kept') :
    SharesShelf connection s₀ s₀' (kept.clear (.text connection)) (kept'.clear (.text connection)) := by
  refine h.map (g := fun _ => []) (fun _ hd => hd.erase _) (fun store hd => Cache.Store.shelf_clear_self hd _)
    fun store other hother => ?_
  · have hne : (Value.text other == .text connection) = false := by simpa using hother
    rw [Cache.Store.clear, Cache.Store.shelf, Entries.get?_erase_of_ne hne, ← Cache.Store.shelf]

end SharesShelf

omit hE in
theorem mirrors_store {cache : CacheRef} (hcache : KeepsFor connection cache) :
    Mirrors (World.IsBeside owner connection numbers s₀ s₀') (SharesShelf connection s₀ s₀')
      (store cache : Action E Cache.Store) (store cache) := by
  refine IsCommon.mirrors_bindCurrent fun w w' hw => ?_
  have hmemory : SharesShelf connection s₀ s₀' w.session.memory w'.session.memory :=
    ⟨hw.agrees.shelf, hw.divided.distinctShelves, hw.divided'.distinctShelves,
      fun other hother => (hw.spares other hother).shelf, fun other hother => (hw.spares' other hother).shelf⟩
  cases cache with
  | given id => exact hcache.elim
  | builtin => exact Mirrors.pure hmemory
  | hooks other era => exact Mirrors.pure hmemory

omit hE in
theorem mirrors_putStore {cache : CacheRef} (hcache : KeepsFor connection cache) {kept kept' : Cache.Store}
    (h : SharesShelf connection s₀ s₀' kept kept') :
    Mirrors (World.IsBeside owner connection numbers s₀ s₀') (fun _ _ => True) (putStore cache kept : Action E Unit)
      (putStore cache kept') := by
  have hchange : Mirrors (World.IsBeside owner connection numbers s₀ s₀') (fun _ _ => True)
      (change fun s => { s with memory := kept } : Action E Unit) (change fun s => { s with memory := kept' }) := by
    refine IsCommon.mirrors_change fun w w' hw => ?_
    have hagrees := hw.agrees
    have hdivided := hw.divided
    have hdivided' := hw.divided'
    refine ⟨?_, hw.outside, hw.heap, ?_, ?_, fun other hother => ?_, fun other hother => ?_⟩
    · exact ⟨hagrees.settings, hagrees.earlierSettings, hagrees.knownDialects, hagrees.driver, hagrees.dialect,
        hagrees.lastRowId, h.same, hagrees.log⟩
    · exact ⟨hdivided.distinctDrivers, hdivided.distinctDialects, h.distinct, hdivided.owned,
        hdivided.chosenStores⟩
    · exact ⟨hdivided'.distinctDrivers, hdivided'.distinctDialects, h.distinct', hdivided'.owned,
        hdivided'.chosenStores⟩
    · have hspares := hw.spares other hother
      exact ⟨hspares.settings, hspares.earlierSettings, hspares.knownDialects, hspares.driver, hspares.dialect,
        hspares.lastRowId, h.spares other hother, hspares.log⟩
    · have hspares := hw.spares' other hother
      exact ⟨hspares.settings, hspares.earlierSettings, hspares.knownDialects, hspares.driver, hspares.dialect,
        hspares.lastRowId, h.spares' other hother, hspares.log⟩
  cases cache with
  | given id => exact hcache.elim
  | builtin => exact hchange
  | hooks other era => exact hchange

/-! ## Reading through the store -/

omit hE in
theorem inHeap_requireKey_text (s : String) :
    (inHeap (Heap.requireKey (.text s)) : Action E Unit) = pure () := rfl

theorem isApart_clearCache (table : Value) :
    IsApart owner connection Eq (clearCache table connection : Action E Unit) := by
  intro numbers s₀ s₀'
  refine Mirrors.bindEq (isApart_refuseContainer numbers s₀ s₀') fun _ => ?_
  refine Mirrors.bind (isApart_cacheOf numbers s₀ s₀') ?_
  rintro cache _ ⟨rfl, hcache⟩
  refine Mirrors.bind (mirrors_store hcache) fun kept kept' hkept => ?_
  extract_lets dropping dropping'
  have hdropping : Mirrors (World.IsBeside owner connection numbers s₀ s₀') Eq (dropping ()) (dropping' ()) := by
    refine Mirrors.bind (mirrors_putStore hcache hkept.clear) fun _ _ _ => ?_
    refine Mirrors.bindEq (isApart_hookOf hcache _ numbers s₀ s₀') fun hook => ?_
    split
    · exact Mirrors.bindEq (hE.calls _ _ numbers s₀ s₀') fun _ => Mirrors.pure rfl
    · exact Mirrors.pure rfl
  -- The name of a connection can always be looked up by, so it does not matter who looks.
  rw [inHeap_requireKey_text, pure_bind, pure_bind, ite_self, ite_self]
  exact hdropping

theorem isApart_cacheKey {cache : CacheRef} (hcache : KeepsFor connection cache)
    (query params table : Value) :
    IsApart owner connection Eq (cacheKey cache query params table (.text connection) : Action E Value) := by
  intro numbers s₀ s₀'
  have hI := isPairing_isBeside hE s₀ s₀'
  refine Mirrors.bindEq (isApart_hookOf hcache _ numbers s₀ s₀') fun hook => ?_
  split
  · exact hE.calls _ _ numbers s₀ s₀'
  · refine Mirrors.bindEq (hI.mirrors_goingThrough fun h => keeps_params h params) fun given => ?_
    exact hI.mirrors_bindHeap (fun _ => rfl) fun heap _ => Mirrors.pure
      (a := Value.text (Cache.key E.digest (heap.settle query).display (Heap.settleParams heap given))) rfl

theorem isApart_lookUp {cache : CacheRef} (hcache : KeepsFor connection cache) (key table : Value) :
    IsApart owner connection Eq (lookUp cache key table (.text connection) : Action E Value) := by
  intro numbers s₀ s₀'
  have hI := isPairing_isBeside hE s₀ s₀'
  refine Mirrors.bindEq (isApart_hookOf hcache _ numbers s₀ s₀') fun hook => ?_
  split
  · exact hE.calls _ _ numbers s₀ s₀'
  · refine Mirrors.bindEq (hI.mirrors_goingThrough fun h => ?_) fun _ => ?_
    · exact Keeps.bind (Heap.keeps_requireKey h _) fun _ => Heap.keeps_requireKey h key
    · refine Mirrors.bind (mirrors_store hcache) fun kept kept' hkept => Mirrors.pure ?_
      simp only [Cache.Store.get?, hkept.same]

theorem isApart_keep {cache : CacheRef} (hcache : KeepsFor connection cache) (key rows table : Value) :
    IsApart owner connection Eq (keep cache key rows table (.text connection) : Action E Unit) := by
  intro numbers s₀ s₀'
  have hI := isPairing_isBeside hE s₀ s₀'
  refine Mirrors.bindEq (isApart_hookOf hcache _ numbers s₀ s₀') fun hook => ?_
  split
  · exact Mirrors.bindEq (hE.calls _ _ numbers s₀ s₀') fun _ => Mirrors.pure rfl
  · refine Mirrors.bindEq (hI.mirrors_goingThrough fun h => Heap.keeps_requireKey h _) fun _ => ?_
    refine Mirrors.bind (mirrors_store hcache) fun kept kept' hkept => ?_
    refine Mirrors.bind (mirrors_putStore hcache hkept.prepare) fun _ _ _ => ?_
    refine Mirrors.bindEq (hI.mirrors_goingThrough fun h => Heap.keeps_requireKey h key) fun _ => ?_
    refine Mirrors.bind (mirrors_store hcache) fun kept kept' hkept => ?_
    exact (mirrors_putStore hcache (hkept.put key rows)).mono fun _ _ _ => rfl

theorem isApart_read (sql params table : Value) :
    IsApart owner connection Eq (read connection sql params table : Action E (List Value)) := by
  intro numbers s₀ s₀'
  have hI := isPairing_isBeside hE s₀ s₀'
  refine Mirrors.bindEq (isApart_settings numbers s₀ s₀') fun settings => ?_
  split
  · refine Mirrors.bind (isApart_cacheOf numbers s₀ s₀') ?_
    rintro cache _ ⟨rfl, hcache⟩
    refine Mirrors.bindEq (isApart_cacheKey hE hcache sql params table numbers s₀ s₀') fun key => ?_
    refine Mirrors.bindEq (isApart_lookUp hE hcache key table numbers s₀ s₀') fun found => ?_
    split
    · refine Mirrors.bindEq (hI.mirrors_readFresh sql params) fun rows => ?_
      refine Mirrors.bindEq (hI.mirrors_copyOfRows rows) fun copies => ?_
      exact Mirrors.bindEq (isApart_keep hE hcache key _ table numbers s₀ s₀') fun _ => Mirrors.pure rfl
    · exact hI.mirrors_found found
  · exact hI.mirrors_readFresh sql params

end

end Connection

end FluentSql
