import FluentSql.Proofs.Connection.Deduplication
import FluentSql.Proofs.Connection.Executing
import FluentSql.Proofs.Operation.Upkeep
/-
# FluentSql.Proofs.Connection.Sources — where the rows of a read come from.

A read is told apart by what gave its rows (`readFrom`): a driver that was asked, or the cache. That changes
nothing of the read (`readFrom_snd`). The driver that was asked is the one that is registered for the connection when the
read has ended, and of what is kept of reads nothing changes before its rows are kept (`triple_answer`).
-/

namespace FluentSql

open Step (Keeps Triple perform_bind_ok perform_bind_error)

namespace Connection

open Session (CachesReads current change inHeap outside callHook)

variable {E : Environment} {α β : Type} {connection : String} {w : World E.State}

/-! ## Reads with their sources -/

/-- What gave the rows of a read. -/
inductive Source where
  /-- A driver, with copies of the rows that it handed out. -/
  | driver (d : Driver) (copies : List Row)
  | cache

/-- The rows of a statement that is executed now, with the driver that handed them out. -/
def answer (connection : String) (sql params : Value) : Action E (Driver × List Value) := do
  let d ← driver connection
  let statement ← send d sql params
  change fun s => { s with lastStatement := some statement }
  logQuery connection sql params
  return (d, ← fetchAll statement)

/-- Executes a read and keeps its rows, with their source. -/
def answerAndKeep (connection : String) (sql params table key : Value) : Action E (Source × List Value) := do
  let (d, rows) ← answer connection sql params
  let copies ← rows.mapM fun row => inHeap (Heap.row row)
  keep .builtin key (.list (copies.map .map)) table (.text connection)
  return (.driver d copies, rows)

/-- The rows of a read through the built-in store, with their source. -/
def readFrom (connection : String) (sql params table : Value) : Action E (Source × List Value) := do
  let key ← cacheKey .builtin sql params table (.text connection)
  match ← lookUp .builtin key table (.text connection) with
  | .null => answerAndKeep connection sql params table key
  | found => return (.cache, ← inHeap (Heap.forItems found fun row => do return .map (← Heap.row row)))

theorem readFresh_eq (sql params : Value) :
    (readFresh connection sql params : Action E (List Value)) = Prod.snd <$> answer connection sql params := by
  simp [readFresh, execute, answer]

/-- Copies are made row by row. -/
theorem mapM_copyOfRow (rows : List Value) :
    (rows.mapM copyOfRow : Action E (List Value)) =
      List.map Value.map <$> rows.mapM fun row => inHeap (Heap.row row) := by
  induction rows with
  | nil => simp
  | cons row rows ih => simp [List.mapM_cons, copyOfRow, ih]

theorem readAndKeep_eq (sql params table key : Value) :
    (readAndKeep connection sql params table key : Action E (List Value)) =
      Prod.snd <$> answerAndKeep connection sql params table key := by
  simp [readAndKeep, answerAndKeep, readFresh_eq, mapM_copyOfRow]

/-- **Telling what gave its rows changes nothing of a read.** -/
theorem perform_read_eq (h : w.session.CachesReads connection) (sql params table : Value) :
    (read connection sql params table : Action E (List Value)).perform w =
      (((readFrom connection sql params table).perform w).1.map Prod.snd,
        ((readFrom connection sql params table).perform w).2) := by
  rw [← Step.perform_map, read, perform_bindSettings, h.caching, if_pos rfl, perform_bind_ok (perform_cacheOf h),
    readFrom, map_bind]
  congr 2
  funext key
  rw [map_bind]
  congr 1
  funext found
  cases found
  case null => exact readAndKeep_eq sql params table key
  all_goals
    rw [map_bind, bind_congr fun _ => map_pure _ _]
    exact (bind_pure _).symm

/-! ## What executing leaves alone -/

/-- A property of sessions that does not look at what databases reported and at what was logged. -/
def IgnoresReports (K : Session → Prop) : Prop :=
  ∀ s ids last log, K s → K { s with lastRowIds := ids, lastStatement := last, log := log }

namespace IgnoresReports

variable {K : Session → Prop} (hK : IgnoresReports K)
include hK

theorem keeps_change {f : Session → Session}
    (hf : ∀ s, ∃ ids last log, f s = { s with lastRowIds := ids, lastStatement := last, log := log }) :
    Keeps (fun w : World E.State => K w.session) (change f : Action E Unit) := by
  refine Session.triple_change fun w hw => ?_
  obtain ⟨ids, last, log, hs⟩ := hf w.session
  rw [hs]
  exact hK _ _ _ _ hw

theorem keeps_send (d : Driver) (sql params : Value) :
    Keeps (fun w : World E.State => K w.session) (send d sql params : Action E Statement) :=
  IsUpkept.ignoresStreams.keeps_send_of (fun _ _ => IsUpkept.keeps_outside _)
    (fun _ => hK.keeps_change fun _ => ⟨_, _, _, rfl⟩) sql params

variable (hspares : E.SparesSessions)
include hspares

theorem keeps_logQuery
    (hdriver : Keeps (fun w : World E.State => K w.session) (driver connection : Action E Driver))
    (sql params : Value) :
    Keeps (fun w : World E.State => K w.session) (logQuery connection sql params : Action E Unit) := by
  have hcall : ∀ hook call, Keeps (fun w : World E.State => K w.session) (callHook hook call : Action E Value) := by
    intro hook call w hw
    have hsession : ((callHook hook call : Action E Value).perform w).2.session = w.session := hspares hook call w
    rcases hrun : (callHook hook call : Action E Value).perform w with ⟨_ | _, w'⟩ <;> rw [hrun] at hsession
    all_goals
      show K w'.session
      rw [hsession]
      exact hw
  exact IsUpkept.ignoresStreams.keeps_logQuery_of hdriver (fun _ => hK.keeps_change fun _ => ⟨_, _, _, rfl⟩)
    (fun _ _ => hcall _ _) sql params

end IgnoresReports

/-- What is kept of reads has nothing to do with drivers. -/
theorem ignoresDrivers_memory (memory : Cache.Store) :
    IgnoresDrivers (E := E) fun w => w.session.memory = memory where
  session hs hw := by
    obtain ⟨_, _, _, _, rfl⟩ := hs
    exact hw
  connect _ _ hw := hw

/-- Asking a driver for rows changes nothing of what is kept of reads, and the driver is the one that is registered
when it has answered. -/
theorem triple_answer (hspares : E.SparesSessions) (memory : Cache.Store) (sql params : Value) :
    Triple (fun w => w.session.memory = memory) (answer connection sql params : Action E (Driver × List Value))
      (fun given w => w.session.memory = memory ∧ Entries.get? connection w.session.drivers = some given.1)
      fun w => w.session.memory = memory := by
  have hkeeps : Keeps (fun w : World E.State => w.session.memory = memory) (driver connection : Action E Driver) :=
    (ignoresDrivers_memory memory).keeps_driver connection
  have hregistered : Triple (fun w => w.session.memory = memory) (driver connection : Action E Driver)
      (fun d w => Entries.get? connection w.session.drivers = some d) fun _ => True := by
    refine Triple.of_states fun w _ => ?_
    exact (triple_driver_registers (w := w)).post fun _ _ h => h.2
  refine Triple.bind ((Triple.and hkeeps hregistered).consequence (fun _ h => h) (fun _ _ h => h) fun _ h => h.1)
    fun d => ?_
  -- From here on the driver stays registered.
  have hK : IgnoresReports fun s => s.memory = memory ∧ Entries.get? connection s.drivers = some d :=
    fun _ _ _ _ h => h
  have hdriver : Keeps (fun w : World E.State => w.session.memory = memory ∧
      Entries.get? connection w.session.drivers = some d) (driver connection : Action E Driver) := by
    intro w hw
    rw [perform_driver hw.2]
    exact hw
  refine Triple.bind ((hK.keeps_send d sql params).consequence (fun _ h => h) (fun _ _ h => h) fun _ h => h.1)
    fun statement => ?_
  refine Triple.bind ((hK.keeps_change fun _ => ⟨_, _, _, rfl⟩).consequence (fun _ h => h) (fun _ _ h => h)
    fun _ h => h.1) fun _ => ?_
  refine Triple.bind ((hK.keeps_logQuery hspares hdriver sql params).consequence (fun _ h => h) (fun _ _ h => h)
    fun _ h => h.1) fun _ => ?_
  have hfetch : Keeps (fun w : World E.State => w.session.memory = memory ∧
      Entries.get? connection w.session.drivers = some d) (fetchAll statement : Action E (List Value)) :=
    IgnoresStreams.keeps_fetch_of (fun _ _ _ hw => hw) (Session.keeps_outside fun hw => hw)
  refine Triple.bind (hfetch.consequence (fun _ h => h) (fun _ _ h => h) fun _ h => h.1) fun rows => ?_
  exact Triple.pure fun _ h => h

/-! ## What a read does -/

/-- The read that is asked for, and the heap when its parameters were gone through; none if they cannot be. -/
def reading? (connection : String) (sql params : Value) (h : Heap) : Option (Read × Heap) :=
  match (Heap.params params).perform h with
  | (.ok given, h) => some (⟨connection, (h.settle sql).display, h.settleParams given⟩, h)
  | (.error _, _) => none

theorem perform_cacheKey_of_reading? {sql params : Value} {r : Read} {h : Heap}
    (hreading : reading? connection sql params w.heap = some (r, h)) (table : Value) :
    (cacheKey .builtin sql params table (.text connection) : Action E Value).perform w =
      (.ok (r.key E.digest), { w with heap := h }) := by
  unfold reading? at hreading
  rw [cacheKey, perform_bind_ok (perform_hookOf_builtin _)]
  rcases hrun : (Heap.params params).perform w.heap with ⟨_ | given, h'⟩ <;> rw [hrun] at hreading
  · cases hreading
  · cases hreading
    rw [perform_bind_ok (Session.perform_inHeap hrun)]
    rfl

/-- Parameters that cannot be gone through make the read fail, and nothing but the heap has changed. -/
theorem perform_readFrom_of_not_reading? {sql params : Value} (hreading : reading? connection sql params w.heap = none)
    (table : Value) :
    ∃ failure h, (readFrom connection sql params table : Action E (Source × List Value)).perform w =
      (.error failure, { w with heap := h }) := by
  unfold reading? at hreading
  rcases hrun : (Heap.params params).perform w.heap with ⟨failure | given, h⟩ <;> rw [hrun] at hreading
  · refine ⟨failure, h, ?_⟩
    rw [readFrom, cacheKey, bind_assoc, perform_bind_ok (perform_hookOf_builtin _)]
    dsimp only
    rw [bind_assoc, perform_bind_error (Session.perform_inHeap hrun)]
  · cases hreading

theorem connection_of_reading? {sql params : Value} {r : Read} {h h' : Heap}
    (hreading : reading? connection sql params h = some (r, h')) : r.connection = connection := by
  unfold reading? at hreading
  split at hreading
  · cases hreading
    rfl
  · cases hreading

/-- A read is found in the memory of the session, or a driver is asked. -/
theorem perform_readFrom {sql params : Value} {r : Read} {h : Heap}
    (hreading : reading? connection sql params w.heap = some (r, h)) (table : Value) :
    (readFrom connection sql params table : Action E (Source × List Value)).perform w =
      match Value.ofOption (w.session.memory.get? (r.key E.digest) (.text connection)) with
      | .null => (answerAndKeep connection sql params table (r.key E.digest)).perform { w with heap := h }
      | found => (do return (.cache, ← inHeap (Heap.forItems found fun row => do return .map (← Heap.row row))) :
          Action E (Source × List Value)).perform { w with heap := h } := by
  rw [readFrom, perform_bind_ok (perform_cacheKey_of_reading? hreading table), Read.key,
    perform_bind_ok (perform_lookUp ..)]
  generalize Value.ofOption _ = found
  cases found <;> rfl

/-- Rows that are kept are given as they are. -/
theorem readFrom_of_kept {sql params : Value} {r : Read} {h : Heap}
    (hreading : reading? connection sql params w.heap = some (r, h)) (table : Value) {rows : List Row}
    (hkept : w.session.memory.get? (r.key E.digest) (.text connection) = some (.list (rows.map .map))) :
    (readFrom connection sql params table : Action E (Source × List Value)).perform w =
      (.ok (.cache, rows.map .map), { w with heap := h }) := by
  rw [perform_readFrom hreading, hkept]
  exact perform_bind_ok (perform_found rows)

/-- **A read that is not kept asks the driver that is registered when it has answered**, and copies of its rows are kept
afterwards. If that fails nothing is kept. -/
theorem triple_answerAndKeep (hspares : E.SparesSessions) (connection : String) (memory : Cache.Store)
    (sql params table : Value) (key : String) :
    Triple (fun w => w.session.memory = memory)
      (answerAndKeep connection sql params table (.text key) : Action E (Source × List Value))
      (fun given w => ∃ d copies, given.1 = .driver d copies ∧ Entries.get? connection w.session.drivers = some d ∧
        w.session.memory =
          (memory.prepare (.text connection)).put (.text key) (.list (copies.map .map)) (.text connection))
      fun w => w.session.memory = memory := by
  refine Triple.bind (triple_answer hspares memory sql params) fun given => ?_
  obtain ⟨d, rows⟩ := given
  let K : Session → Prop := fun s => s.memory = memory ∧ Entries.get? connection s.drivers = some d
  have hcopies : Keeps (fun w : World E.State => K w.session)
      (rows.mapM fun row => inHeap (Heap.row row) : Action E (List Row)) :=
    Keeps.mapM fun row _ => IsUpkept.keeps_inHeap _
  refine Triple.bind (hcopies.consequence (fun _ h => h) (fun _ _ h => h) fun _ h => h.1) fun copies => ?_
  intro w hw
  rw [perform_bind_ok (perform_keep ..)]
  exact ⟨d, copies, rfl, hw.2, by rw [Session.keeping, hw.1]⟩

end Connection

end FluentSql
