import FluentSql.Connection.Reads
import FluentSql.Proofs.Cache.Store
import FluentSql.Proofs.Heap.Drains
import FluentSql.Proofs.Session.Action
/-
# FluentSql.Proofs.Connection.CachedReads — reads of a connection with caching on and the built-in store.

Such a read is found in the memory of the session, or else it is executed and kept there
(`perform_read`). Its key is made of its statement and of its parameters, with everything in place that they
refer to. Whatever is done to execute it leaves the memory alone.
-/

namespace FluentSql

open Step (Keeps Triple perform_bind_ok)

namespace Session

/-- The reads of the connection are kept in the memory of the session. -/
structure CachesReads (connection : String) (s : Session) : Prop where
  caching : (s.settingsOf connection).caching = true
  hooks : (s.settingsOf connection).hasCacheHooks = false
  chosen : Entries.get? connection s.chosenStores = none

/-- One session comes from another without a change in what is kept of reads, and where. The settings of
connections may differ in how statements are written. -/
structure KeepsReads (s s' : Session) : Prop where
  memory : s'.memory = s.memory
  chosenStores : s'.chosenStores = s.chosenStores
  settings : ∀ connection, ∃ mark style, s'.settingsOf connection =
    { s.settingsOf connection with quoteMark := mark, limitStyle := style }

theorem KeepsReads.refl (s : Session) : s.KeepsReads s := ⟨rfl, rfl, fun _ => ⟨_, _, rfl⟩⟩

theorem KeepsReads.trans {s s' s'' : Session} (h : s.KeepsReads s') (h' : s'.KeepsReads s'') :
    s.KeepsReads s'' := by
  refine ⟨h'.memory.trans h.memory, h'.chosenStores.trans h.chosenStores, fun connection => ?_⟩
  obtain ⟨mark, style, hsettings⟩ := h.settings connection
  obtain ⟨mark', style', hsettings'⟩ := h'.settings connection
  exact ⟨mark', style', by rw [hsettings', hsettings]⟩

theorem CachesReads.of_keepsReads {connection : String} {s s' : Session} (h : s.CachesReads connection)
    (hkeeps : s.KeepsReads s') : s'.CachesReads connection := by
  obtain ⟨mark, style, hsettings⟩ := hkeeps.settings connection
  refine ⟨?_, ?_, ?_⟩
  · rw [hsettings]
    exact h.caching
  · rw [hsettings]
    exact h.hooks
  · rw [hkeeps.chosenStores]
    exact h.chosen

/-- The session with rows kept under a key of a connection. -/
def keeping (key rows : Value) (connection : String) (s : Session) : Session :=
  { s with memory := (s.memory.prepare (.text connection)).put key rows (.text connection) }

/-- What is kept of a connection after something was kept of it. -/
theorem get?_keeping_self (key other rows : Value) (connection : String) (s : Session) :
    (s.keeping key rows connection).memory.get? other (.text connection) =
      if key == other then some rows else s.memory.get? other (.text connection) := by
  rw [keeping, Cache.Store.get?_put, Cache.Store.get?_prepare]

theorem get?_keeping_of_ne {connection other : String} (h : other ≠ connection) (key wanted rows : Value)
    (s : Session) :
    (s.keeping key rows connection).memory.get? wanted (.text other) =
      s.memory.get? wanted (.text other) := by
  have hother : (Value.text other == .text connection) = false := by
    rw [Value.text_beq_text]
    exact beq_eq_false_iff_ne.2 h
  rw [keeping, Cache.Store.get?_put_of_ne hother, Cache.Store.get?_prepare]

/-- The session with nothing kept of a connection. -/
def clearing (connection : String) (s : Session) : Session :=
  { s with memory := s.memory.clear (.text connection) }

end Session

namespace Connection

open Session (CachesReads current change inHeap outside callHook)

variable {E : Environment} {connection : String} {w : World E.State}

/-! ## Looking up and keeping -/

theorem perform_cacheOf (h : w.session.CachesReads connection) :
    (cacheOf connection : Action E CacheRef).perform w = (.ok .builtin, w) := by
  rw [cacheOf, Session.perform_bindCurrent, h.chosen]
  dsimp only
  rw [defaultCache, Session.perform_bindCurrent, h.hooks]
  rfl

theorem perform_hookOf_builtin (select : Settings → Option Hook) :
    (hookOf .builtin select : Action E (Option Hook)).perform w = (.ok none, w) := rfl

theorem perform_params (params : Params) (h : Heap) :
    (Heap.params params.toValue).perform h = (.ok params, h) := by
  cases params <;> rfl

/-- The key under which a read is kept. -/
def readKey (E : Environment) (h : Heap) (sql : Value) (params : Params) : Value :=
  .text (Cache.key E.digest (h.settle sql).display (h.settleParams params))

theorem perform_cacheKey (sql : Value) (params : Params) (table holder : Value) :
    (cacheKey .builtin sql params.toValue table holder : Action E Value).perform w =
      (.ok (readKey E w.heap sql params), w) := by
  rw [cacheKey, perform_bind_ok (perform_hookOf_builtin _)]
  dsimp only
  rw [perform_bind_ok (Session.perform_inHeap (perform_params params w.heap))]
  rfl

theorem perform_lookUp (key : String) (table : Value) :
    (lookUp .builtin (.text key) table (.text connection) : Action E Value).perform w =
      (.ok (.ofOption (w.session.memory.get? (.text key) (.text connection))), w) := by
  rw [lookUp, perform_bind_ok (perform_hookOf_builtin _)]
  rfl

theorem perform_keep (key : String) (rows table : Value) :
    (keep .builtin (.text key) rows table (.text connection) : Action E Unit).perform w =
      (.ok (), { w with session := w.session.keeping (.text key) rows connection }) := by
  rw [keep, perform_bind_ok (perform_hookOf_builtin _)]
  rfl

/-! ## Copying and clearing -/

/-- Rows that are mappings are their entries. -/
theorem mapM_entries?_map (h : Heap) (rows : List Row) :
    (rows.map Value.map).mapM h.entries? = some rows := by
  induction rows with
  | nil => rfl
  | cons row rows ih =>
      rw [List.map_cons, List.mapM_cons, ih]
      rfl

/-- Copies of rows that are mappings have their entries. -/
theorem perform_copies {rows : List Value} {contents : List Row}
    (hrows : rows.mapM w.heap.entries? = some contents) :
    (rows.mapM copyOfRow : Action E (List Value)).perform w = (.ok (contents.map .map), w) := by
  induction rows generalizing contents with
  | nil =>
      obtain rfl : [] = contents := by simpa using hrows
      rfl
  | cons row rows ih =>
      rw [List.mapM_cons] at hrows ⊢
      obtain ⟨entries, hentries, hrest⟩ := Option.bind_eq_some_iff.1 hrows
      obtain ⟨others, hothers, hcontents⟩ := Option.bind_eq_some_iff.1 hrest
      obtain rfl : entries :: others = contents := by simpa using hcontents
      have hcopy : (copyOfRow row : Action E Value).perform w = (.ok (.map entries), w) :=
        perform_bind_ok (Session.perform_inHeap (Heap.perform_row_of_entries? hentries))
      rw [perform_bind_ok hcopy, perform_bind_ok (ih hothers)]
      rfl

/-- Copying rows changes nothing but what is left of streams. -/
theorem keeps_copies (rows : List Value) :
    Keeps (fun w' => w.heap.Drains w'.heap) (rows.mapM copyOfRow : Action E (List Value)) := by
  refine Keeps.mapM fun row _ => Keeps.bind ?_ fun _ => Keeps.pure _
  refine Triple.of_states fun w' hw' => ?_
  exact Session.triple_inHeap w' rfl ((Heap.keeps_row w.heap row).pre fun h hh => hh ▸ hw')
    (fun _ _ h => h) fun _ h => h

theorem perform_clear_builtin (table : Value) (w : World E.State) :
    (clear .builtin table (.text connection) : Action E Unit).perform w =
      (.ok (), { w with session := w.session.clearing connection }) := by
  have hstore : (store .builtin : Action E Cache.Store).perform w = (.ok w.session.memory, w) := rfl
  rw [clear, perform_bind_ok hstore]
  cases w.session.memory.isEmpty <;> rfl

theorem perform_clearCache (h : w.session.CachesReads connection) (table : Value) :
    (clearCache table connection : Action E Unit).perform w =
      (.ok (), { w with session :=
        { w.session with memory := w.session.memory.clear (.text connection) } }) := by
  have hcontainer : (refuseContainer connection : Action E Unit).perform w = (.ok (), w) := by
    rw [refuseContainer, Session.perform_bindCurrent, h.chosen]
    rfl
  rw [clearCache, perform_bind_ok hcontainer, perform_bind_ok (perform_cacheOf h)]
  exact perform_clear_builtin table w

/-! ## A read -/

/-- Executes a read and keeps its rows. -/
def readAndKeep (connection : String) (sql params table key : Value) : Action E (List Value) := do
  let rows ← readFresh connection sql params
  keep .builtin key (.list (← rows.mapM copyOfRow)) table (.text connection)
  return rows

/-- A read is found in the memory of the session, or executed and kept there. -/
theorem perform_read (h : w.session.CachesReads connection) (sql : Value) (params : Params)
    (table : Value) :
    (read connection sql params.toValue table : Action E (List Value)).perform w =
      match Value.ofOption (w.session.memory.get? (readKey E w.heap sql params) (.text connection)) with
      | .null => (readAndKeep connection sql params.toValue table (readKey E w.heap sql params)).perform w
      | found => (inHeap (Heap.forItems found fun row => do
          return .map (← Heap.row row)) : Action E (List Value)).perform w := by
  rw [read, perform_bindSettings, h.caching, if_pos rfl, perform_bind_ok (perform_cacheOf h),
    perform_bind_ok (perform_cacheKey ..), readKey, perform_bind_ok (perform_lookUp ..)]
  generalize Value.ofOption _ = found
  cases found <;> rfl

/-- Rows that are kept are given as they are. -/
theorem perform_found (rows : List Row) :
    (inHeap (Heap.forItems (.list (rows.map .map)) fun row => do
      return .map (← Heap.row row)) : Action E (List Value)).perform w = (.ok (rows.map .map), w) := by
  refine Session.perform_inHeap ?_
  -- Nothing is taken from a list, and a mapping has its entries as a row.
  have hall : ∀ (kept : Value) (hkept : ∃ items, kept = .list items) (rows : List Row),
      ((rows.map Value.map).mapM fun row => do
        Heap.skip kept 1
        return Value.map (← Heap.row row) : Step Heap (List Value)).perform w.heap =
          (.ok (rows.map .map), w.heap) := by
    rintro _ ⟨items, rfl⟩ rows
    induction rows with
    | nil => rfl
    | cons row rows ih =>
        rw [List.map_cons, List.mapM_cons]
        have hfirst : (do
            Heap.skip (.list items) 1
            return Value.map (← Heap.row (.map row)) : Step Heap Value).perform w.heap =
              (.ok (.map row), w.heap) := rfl
        rw [perform_bind_ok hfirst, perform_bind_ok ih]
        rfl
  exact hall _ ⟨_, rfl⟩ rows

theorem read_of_kept (h : w.session.CachesReads connection) (sql : Value) (params : Params) (table : Value)
    {rows : List Row}
    (hkept : w.session.memory.get? (readKey E w.heap sql params) (.text connection) =
      some (.list (rows.map .map))) :
    (read connection sql params.toValue table : Action E (List Value)).perform w =
      (.ok (rows.map .map), w) := by
  rw [perform_read h, hkept]
  exact perform_found rows

theorem read_of_not_kept (h : w.session.CachesReads connection) (sql : Value) (params : Params)
    (table : Value)
    (hkept : w.session.memory.get? (readKey E w.heap sql params) (.text connection) = none) :
    (read connection sql params.toValue table : Action E (List Value)).perform w =
      (readAndKeep connection sql params.toValue table (readKey E w.heap sql params)).perform w := by
  rw [perform_read h, hkept]
  rfl

end Connection

end FluentSql
