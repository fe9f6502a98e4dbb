import FluentSql.Proofs.Cache.KeyText
import FluentSql.Proofs.Database.Machine
import FluentSql.Proofs.Record.Frame
/-
# FluentSql.Proofs.Database.Current — when what is kept of reads is what the database would answer.

The reads that are kept of a connection are current if each has the rows that the database gives for it in its
present state (`Database.IsCurrent`). A read of the connection keeps that, and gets the rows that the
database gives for it now, whether they are found or fetched (`perform_read`). A write breaks it until the
connection is cleared.

A write that the database refuses changes nothing, and one that it accepts is followed by a clearing that cannot
fail: no function of the caller is called in between. So saving and deleting keep the reads of the connection
current, whatever they fail with afterwards (`keeps_save`, `keeps_delete`, `keeps_deleteMany`).
-/

namespace FluentSql

open Step (perform_bind_ok perform_bind_error)

/-- The connection has a driver of a kind, keeps its reads in the built-in store, clears them after writes, and
tells no function of the caller of its statements. -/
structure Session.Serves (connection : String) (kind : DriverKind) (s : Session) : Prop
    extends s.CachesReads connection where
  driver : ∃ link, Entries.get? connection s.drivers = some ⟨kind, link⟩
  clears : (s.settingsOf connection).cachingAutoClear = true
  logger : (s.settingsOf connection).logger = none
  distinct : Entries.Distinct s.memory

theorem Session.Serves.registered {connection : String} {kind : DriverKind} {s : Session}
    (h : s.Serves connection kind) : ∃ d, Entries.get? connection s.drivers = some d :=
  let ⟨link, hd⟩ := h.driver
  ⟨⟨kind, link⟩, hd⟩

theorem Session.Serves.stays {connection : String} {kind : DriverKind} {s s' : Session}
    (h : s.Serves connection kind) (hstays : s.Stays s') : s'.Serves connection kind := by
  obtain ⟨mark, style, hsettings⟩ := hstays.settings connection
  refine ⟨h.toCachesReads.of_keepsReads hstays.toKeepsReads, hstays.drivers ▸ h.driver, ?_, ?_, ?_⟩
  · rw [hsettings]
    exact h.clears
  · rw [hsettings]
    exact h.logger
  · rw [hstays.memory]
    exact h.distinct

namespace Database

variable {kind : DriverKind} {db : Database kind} {digest : String → String} {connection : String}
  {s s' : Session} {state : db.State} {reads : Heap → String → Params → Prop}

/-! ## Kept reads -/

/-- Some reads, each with the heap that its parameters refer to, leave the database as it is, and two of them
with one statement get the same rows if their parameters, with everything in place, look alike. -/
structure IsReadBy (db : Database kind) (reads : Heap → String → Params → Prop) : Prop where
  unchanged : ∀ {h sql params state answer state'}, reads h sql params →
    db.answer sql params state = .ok (answer, state') → state' = state
  alike : ∀ {h h' sql params params'}, reads h sql params → reads h' sql params' →
    (h.settleParams params).LooksLike (h'.settleParams params') →
    ∀ state, db.rowsOf sql params state = db.rowsOf sql params' state

/-- What is kept of the connection are reads with the rows that the database gives for them. -/
structure IsCurrent (db : Database kind) (digest : String → String) (reads : Heap → String → Params → Prop)
    (connection : String) (s : Session) (state : db.State) : Prop
    extends s.Serves connection kind where
  kept : ∀ key v, s.memory.get? (.text key) (.text connection) = some v →
    ∃ h sql params rows, key = Cache.key digest sql (Heap.settleParams h params) ∧ reads h sql params ∧
      db.rowsOf sql params state = .ok rows ∧ v = .list (rows.map .map)

theorem IsCurrent.stays (h : db.IsCurrent digest reads connection s state) (hstays : s.Stays s') :
    db.IsCurrent digest reads connection s' state := by
  refine ⟨h.toServes.stays hstays, fun key v hkept => ?_⟩
  rw [hstays.memory] at hkept
  exact h.kept key v hkept

/-- A session that keeps nothing is current in every state. -/
theorem IsCurrent.cleared (h : s.Serves connection kind) (state : db.State) :
    db.IsCurrent digest reads connection { s with memory := s.memory.clear (.text connection) } state := by
  have hcaches : ({ s with memory := s.memory.clear (.text connection) } : Session).CachesReads connection :=
    ⟨h.caching, h.hooks, h.chosen⟩
  refine ⟨⟨hcaches, h.driver, h.clears, h.logger, h.distinct.erase _⟩, fun key v hkept => ?_⟩
  rw [Cache.Store.get?_clear_self h.distinct] at hkept
  cases hkept

theorem IsCurrent.keeping (h : db.IsCurrent digest reads connection s state) {heap : Heap} {sql : String}
    {params : Params} (hread : reads heap sql params) {rows : List Row}
    (hrows : db.rowsOf sql params state = .ok rows) :
    db.IsCurrent digest reads connection (s.keeping (.text (Cache.key digest sql (heap.settleParams params)))
      (.list (rows.map .map)) connection) state := by
  refine ⟨⟨⟨h.caching, h.hooks, h.chosen⟩, h.driver, h.clears, h.logger, (h.distinct.put _ _).put _ _⟩,
    fun key v hkept => ?_⟩
  rw [Session.get?_keeping_self] at hkept
  split at hkept
  · rename_i hkey
    rw [Value.text_beq_text, beq_iff_eq] at hkey
    cases hkept
    exact ⟨heap, sql, params, rows, hkey.symm, hread, hrows, rfl⟩
  · exact h.kept key v hkept

/-! ## Reading -/

/-- **A read of a connection whose kept reads are current gets the rows that the database gives for it.** -/
theorem perform_read (hdigest : Function.Injective digest) (hreads : db.IsReadBy reads)
    {w : World (db.environment digest).State}
    (h : db.IsCurrent digest reads connection w.session w.outside.1) {sql : String} {params : Params}
    (hread : reads w.heap sql params) (table : Value) :
    ∃ session cursors, db.IsCurrent digest reads connection session w.outside.1 ∧
      (Connection.read connection (.text sql) params.toValue table :
        Action (db.environment digest) (List Value)).perform w =
      ((db.rowsOf sql params w.outside.1).map fun rows => rows.map .map,
        { w with session := session, outside := (w.outside.1, cursors) }) := by
  obtain ⟨link, hd⟩ := h.driver
  have hcaches := h.toCachesReads
  cases hkept : w.session.memory.get? (Connection.readKey (db.environment digest) w.heap (.text sql) params)
      (.text connection) with
  | some v =>
      -- The digest tells which read was kept.
      obtain ⟨h', sql', params', rows, hkey, hread', hrows, rfl⟩ := h.kept _ v hkept
      obtain ⟨rfl, halike⟩ := (Cache.keyText_eq_iff _ _ _ _).1 (hdigest hkey)
      have hnow : db.rowsOf sql params w.outside.1 = .ok rows := (hreads.alike hread hread' halike _).trans hrows
      rw [Connection.read_of_kept hcaches (.text sql) params table hkept, hnow]
      exact ⟨w.session, w.outside.2, h, rfl⟩
  | none =>
      rw [Connection.read_of_not_kept hcaches (.text sql) params table hkept]
      cases hanswer : db.answer sql params w.outside.1 with
      | error failure =>
          have hnow : db.rowsOf sql params w.outside.1 = .error failure := by rw [rowsOf, hanswer]; rfl
          have hrefused : (Connection.readFresh connection (.text sql) params.toValue :
              Action (db.environment digest) (List Value)).perform w = (.error failure, w) :=
            perform_bind_error (perform_execute_of_error hd hanswer)
          rw [Connection.readAndKeep, perform_bind_error hrefused, hnow]
          exact ⟨w.session, w.outside.2, h, rfl⟩
      | ok answered =>
          obtain ⟨answer, state⟩ := answered
          obtain rfl := hreads.unchanged hread hanswer
          have hnow : db.rowsOf sql params w.outside.1 = .ok answer.found := by rw [rowsOf, hanswer]; rfl
          obtain ⟨session, cursors, hstays, hfresh⟩ := perform_readFresh_of_ok hd h.logger hanswer
          rw [Connection.readAndKeep, perform_bind_ok hfresh,
            perform_bind_ok (Connection.perform_copies (Connection.mapM_entries?_map _ answer.found)),
            Connection.readKey, perform_bind_ok (Connection.perform_keep ..), hnow]
          exact ⟨_, cursors, (h.stays hstays).keeping hread hnow, rfl⟩

end Database

end FluentSql

namespace FluentSql.Database

open Record (Scope IsFrame)
open Record.Scope (Sees)
open Step (Keeps Triple perform_bind_ok perform_bind_error)

variable {kind : DriverKind} {db : Database kind} {digest : String → String} {connection : String}
  {reads : Heap → String → Params → Prop} {α : Type}

/-- The record is of the connection, and what is kept of its reads is current. -/
abbrev Stands (db : Database kind) (digest : String → String) (reads : Heap → String → Params → Prop)
    (connection : String) : Scope (db.environment digest) → Prop :=
  Sees connection fun s o => db.IsCurrent digest reads connection s o.1

theorem isFrame_stands : IsFrame connection (Stands db digest reads connection) :=
  Sees.isFrame (fun _ _ h => h.registered) fun _ _ _ h hstays => h.stays hstays

/-! ## Executing a write -/

/-- A connection that is cleared after a write keeps nothing, whatever the write did. -/
theorem triple_autoClearCache :
    Triple (Sees connection fun s (_ : (db.environment digest).State) => s.Serves connection kind)
      Record.autoClearCache (fun _ => Stands db digest reads connection) (Stands db digest reads connection) := by
  intro s hs
  have hpublished := hs.published
  have hsettings : (Record.inWorld (Connection.settings s.record.connection)).perform s =
      (.ok (s.published.session.settingsOf s.record.connection), s.renewed s.published) :=
    Record.perform_inWorld rfl
  rw [Record.autoClearCache, Record.perform_bindCurrent, perform_bind_ok hsettings, hs.ofConnection,
    if_pos hpublished.clears]
  have hagain : (s.renewed s.published).Sees connection fun s _ => s.Serves connection kind :=
    hs.renewed (Heap.Drains.refl _) hpublished
  rw [Record.perform_inWorld (Connection.perform_clearCache hagain.published.toCachesReads _)]
  exact hagain.renewed (Heap.Drains.refl _) (.cleared hagain.published _)

theorem keeps_executeWrite {sql : Sql} (hsql : sql.IsText) :
    Keeps (Stands db digest reads connection) (Record.executeWrite sql) := by
  obtain ⟨text, params⟩ := sql
  obtain ⟨text, rfl⟩ := hsql
  refine Triple.bindKnown (IsFrame.triple_current isFrame_stands) ?_
  rintro r rfl
  refine Triple.bind (R := fun _ => Sees r.connection fun s _ => s.Serves r.connection kind) ?_ fun statement =>
    Triple.bind triple_autoClearCache fun _ => Triple.pure fun _ hs => hs
  refine (Sees.triple_inWorld (Q := fun _ => True) fun w hw => ?_).post fun _ _ hs => hs.1
  obtain ⟨link, hd⟩ := hw.driver
  rintro _ rfl
  cases hanswer : db.answer text params _ with
  | error failure =>
      rw [perform_execute_of_error hd hanswer]
      exact ⟨Heap.Drains.refl _, hw⟩
  | ok answered =>
      obtain ⟨session, hstays, hexecute⟩ := perform_execute_of_ok hd hw.logger hanswer
      rw [hexecute]
      exact ⟨⟨Heap.Drains.refl _, hw.toServes.stays hstays⟩, trivial⟩

/-! ## After the statement -/

theorem keeps_inWorld {action : Action (db.environment digest) α}
    (h : ∀ h : Heap, Keeps (fun w => h.Drains w.heap ∧ db.IsCurrent digest reads connection w.session w.outside.1)
      action) : Keeps (Stands db digest reads connection) (Record.inWorld action) := by
  refine (Sees.triple_inWorld (Q := fun _ => True) fun w hw => ?_).post fun _ _ hs => hs.1
  refine (h w.heap).consequence ?_ (fun _ _ h => ⟨h, trivial⟩) fun _ h => h
  rintro _ rfl
  exact ⟨Heap.Drains.refl _, hw⟩

/-- What happens outside and leaves the database as it is. -/
theorem keeps_outside (h : Heap)
    {transition : (db.environment digest).State → Except Failure α × (db.environment digest).State}
    (hstate : ∀ s, (transition s).2.1 = s.1) :
    Keeps (fun w : World (db.environment digest).State =>
      h.Drains w.heap ∧ db.IsCurrent digest reads connection w.session w.outside.1)
      (Session.outside transition) := by
  have hleft : ∀ s result s', transition s = (result, s') → s'.1 = s.1 := by
    intro s result s' hrun
    rw [← hstate s, hrun]
  refine Session.triple_outside (fun w a s hw hrun => ⟨hw.1, ?_⟩) fun w failure s hw hrun => ⟨hw.1, ?_⟩
  · exact hleft _ _ _ hrun ▸ hw.2
  · exact hleft _ _ _ hrun ▸ hw.2

/-- Fetching rows leaves the database as it is. -/
theorem keeps_fetchRow (statement : Statement) :
    Keeps (Stands db digest reads connection) (Record.inWorld (Connection.fetchRow statement)) := by
  refine keeps_inWorld fun h => ?_
  have hstreams : Connection.IgnoresStreams fun w : World (db.environment digest).State =>
      h.Drains w.heap ∧ db.IsCurrent digest reads connection w.session w.outside.1 :=
    fun _ _ hd hw => ⟨hw.1.trans hd, hw.2⟩
  exact hstreams.keeps_fetchRow_of (keeps_outside h fun _ => rfl)

theorem keeps_lastInsertId (d : Driver) :
    Keeps (Stands db digest reads connection) (Record.inWorld (Connection.lastInsertId d)) :=
  keeps_inWorld fun h => Connection.keeps_lastInsertId_of (keeps_outside h fun _ => rfl)

theorem keeps_fillKey (keyColumns : List Value) (statement : Statement) :
    Keeps (Stands db digest reads connection) (Record.fillKey keyColumns statement) := by
  have hI : IsFrame connection (Stands db digest reads connection) := isFrame_stands
  refine Triple.bindKnown hI.triple_current ?_
  rintro r rfl
  refine Keeps.bind (hI.keeps_inWorld fun _ _ hd => Connection.keeps_dialect_of_registered hd) fun dialect => ?_
  split
  · refine Keeps.bind (keeps_fetchRow statement) fun row => ?_
    split
    · exact hI.keeps_addFields _
    · exact Keeps.pure _
  · refine Keeps.bind (hI.keeps_inWorld fun _ _ hd => Connection.keeps_driver_of_registered hd) fun d => ?_
    refine Keeps.bind (keeps_lastInsertId d) fun id => ?_
    split
    · exact Keeps.throw _
    · exact Keeps.bind (hI.keeps_inHeap fun h => Heap.keeps_requireKey h _) fun _ => hI.keeps_changeRow _

theorem keeps_saveWith (keyColumns : List Value) {sql : Sql} (hsql : sql.IsText) :
    Keeps (Stands db digest reads connection) (Record.saveWith keyColumns sql) := by
  have hI : IsFrame connection (Stands db digest reads connection) := isFrame_stands
  refine Keeps.bind (keeps_executeWrite hsql) fun statement => Keeps.bind hI.keeps_current fun r => ?_
  split
  · refine Keeps.bind (hI.keeps_changeRow _) fun _ => Keeps.bind hI.keeps_nullKeyCount fun nulls => ?_
    split
    · exact Keeps.bind (keeps_fillKey keyColumns statement) fun _ => hI.keeps_changeRow _
    · exact hI.keeps_changeRow _
  · exact hI.keeps_changeRow _

/-! ## Calls -/

theorem keeps_save : Keeps (Stands db digest reads connection) Record.save := by
  rw [Record.save_eq]
  refine Triple.bindKnown (IsFrame.triple_pendingWrite_isText isFrame_stands) fun pending hpending => ?_
  split
  · exact keeps_saveWith _ (hpending _ _ rfl)
  · exact Keeps.pure _

theorem keeps_delete : Keeps (Stands db digest reads connection) Record.delete := by
  rw [Record.delete_eq]
  refine Triple.bindKnown (IsFrame.triple_deletion_isText isFrame_stands) fun sql hsql => ?_
  exact Keeps.bind (keeps_executeWrite hsql) fun _ => Keeps.pure _

theorem keeps_deleteMany : Keeps (Stands db digest reads connection) Record.deleteMany := by
  rw [Record.deleteMany_eq]
  refine Triple.bindKnown (IsFrame.triple_deletionOfMany_isText isFrame_stands) fun sql hsql => ?_
  exact Keeps.bind (keeps_executeWrite hsql) fun _ => Keeps.pure _

end FluentSql.Database
