import FluentSql.Proofs.Connection.Ledger
import FluentSql.Proofs.Record.Key
import FluentSql.Proofs.Record.Requests
import FluentSql.Record.Write
/-
# FluentSql.Proofs.Record.Saving — how many INSERTs a record is sent in.

A scope has a standing: whether its record is new, and how many INSERTs the ledger counts. Everything
that saving does keeps the standing, but for three steps: the statement that is sent, and the two changes
of the record behind it.

A save of a new record sends one INSERT. The record stops being new after the statement was accepted, but
only when the statement has also been logged and the cache cleared, and these may call functions of the
caller that fail. Such a save is interrupted: the INSERT was accepted, and the record is still new.

So the accepted INSERTs and the newness of the record together count the interrupted saves, over any run
of saves and edits.
-/

namespace FluentSql.Record

open Step (Keeps Triple)

variable {E : Environment} {ledger : Ledger E} {number : Option Nat} {isNew : Bool} {count : Nat}
  {α : Type}

/-- The record of the scope is new or not, the ledger counts so many INSERTs, and the heap keeps a record
under the number of the scope, if there is one. -/
structure Standing (ledger : Ledger E) (number : Option Nat) (isNew : Bool) (count : Nat)
    (s : Scope E) : Prop where
  numbered : s.number = number
  isNew : s.record.changes.isNew = isNew
  count : ledger.inserts s.world.outside = count
  kept : ∀ id, number = some id → ∃ r, s.world.heap.cell? id = some (.record r)

/-! ## In the world and back -/

theorem Standing.published {s : Scope E} (hs : Standing ledger number isNew count s) :
    ledger.Stands number isNew count s.published := by
  refine ⟨?_, fun id hid => ?_⟩
  · rw [Scope.outside_published]
    exact hs.count
  · obtain ⟨r, hr⟩ := hs.kept id hid
    exact ⟨s.record, Scope.cell?_published (hs.numbered.trans hid) hr, hs.isNew⟩

theorem Standing.renewed {s : Scope E} {before : Nat} (hs : Standing ledger number isNew before s)
    {w : World E.State} (hw : ledger.Stands number isNew count w) :
    Standing ledger number isNew count (s.renewed w) := by
  cases hnumber : number with
  | none =>
      have hrenewed : s.renewed w = { s with world := w } := by
        simp only [Scope.renewed, hs.numbered.trans hnumber]
        rfl
      rw [hrenewed]
      exact ⟨hs.numbered.trans hnumber, hs.isNew, hw.count, by simp⟩
  | some id =>
      -- The scope sees the record that the world keeps under its number, whoever changed it.
      obtain ⟨r, hr, hnew⟩ := hw.record id hnumber
      have hrenewed : s.renewed w = { s with world := w, record := r } := by
        simp only [Scope.renewed, hs.numbered.trans hnumber, Option.bind_some, hr]
      rw [hrenewed]
      refine ⟨hs.numbered.trans hnumber, hnew, hw.count, ?_⟩
      rintro id' hid'
      cases hid'
      exact ⟨r, hr⟩

theorem triple_inWorld_standing {after : Nat} {action : FluentSql.Action E α}
    (h : Triple (ledger.Stands number isNew count) action
      (fun _ => ledger.Stands number isNew after) (ledger.Stands number isNew count)) :
    Triple (Standing ledger number isNew count) (inWorld action)
      (fun _ => Standing ledger number isNew after) (Standing ledger number isNew count) :=
  Triple.of_states fun s hs =>
    Triple.onPart s h hs.published (fun _ _ hw => hs.renewed hw) fun _ hw => hs.renewed hw

theorem keeps_inWorld {action : FluentSql.Action E α}
    (h : Keeps (ledger.Stands number isNew count) action) :
    Keeps (Standing ledger number isNew count) (inWorld action) :=
  triple_inWorld_standing h

theorem keeps_inHeap_standing {step : Step Heap α} (h : ∀ h : Heap, Keeps h.Drains step) :
    Keeps (Standing ledger number isNew count) (inHeap step : Record.Action E α) :=
  keeps_inWorld (Ledger.keeps_inHeap h)

theorem keeps_current : Keeps (Standing ledger number isNew count) (current : Record.Action E Record) :=
  Keeps.bind Keeps.get fun _ => Keeps.pure _

theorem keeps_heap : Keeps (Standing ledger number isNew count) (heap : Record.Action E Heap) :=
  Keeps.bind Keeps.get fun _ => Keeps.pure _

/-- Editing the row makes it new or not as the edit does. -/
theorem triple_changeRow {f : Changes → Changes} {after : Bool}
    (hf : ∀ c : Changes, c.isNew = isNew → (f c).isNew = after) :
    Triple (Standing ledger number isNew count) (changeRow f : Record.Action E Unit)
      (fun _ => Standing ledger number after count) (Standing ledger number after count) :=
  Triple.modify fun s hs => ⟨hs.numbered, hf s.record.changes hs.isNew, hs.count, hs.kept⟩

theorem keeps_changeRow {f : Changes → Changes} (hf : ∀ c : Changes, (f c).isNew = c.isNew) :
    Keeps (Standing ledger number isNew count) (changeRow f : Record.Action E Unit) :=
  triple_changeRow fun c hc => (hf c).trans hc

/-! ## The key -/

theorem keeps_rendering :
    Keeps (Standing ledger number isNew count) (rendering : Record.Action E Rendering) :=
  Keeps.bind keeps_current fun _ => keeps_inWorld (Ledger.ignoresDrivers_stands.keeps_rendering _)

theorem keeps_key : Keeps (Standing ledger number isNew count) (key : Record.Action E KeyColumns) := by
  refine Keeps.bind keeps_current fun r => ?_
  split
  · exact Keeps.pure _
  · refine Keeps.bind (keeps_inWorld (Session.keeps_settings _)) fun settings => ?_
    exact Keeps.bind keeps_heap fun _ => Keeps.pure _

theorem keeps_valueAt (key : Value) :
    Keeps (Standing ledger number isNew count) (valueAt key : Record.Action E Value) :=
  Keeps.bind keeps_current fun _ => keeps_inHeap_standing fun h => keeps_valueIn h _ key

theorem keeps_keyValue :
    Keeps (Standing ledger number isNew count) (keyValue : Record.Action E Value) := by
  refine Keeps.bind keeps_key fun key => ?_
  split <;> exact keeps_valueAt _

theorem keeps_nullKeyCount :
    Keeps (Standing ledger number isNew count) (nullKeyCount : Record.Action E Nat) := by
  refine Keeps.bind keeps_keyValue fun value => ?_
  refine Keeps.bind keeps_heap fun h => ?_
  split <;> exact Keeps.pure _

theorem keeps_refuseNull (columns : List Value) :
    Keeps (Standing ledger number isNew count) (refuseNull columns : Record.Action E α) :=
  Keeps.bind keeps_current fun _ => Keeps.throw _

theorem keeps_presentKeyValue :
    Keeps (Standing ledger number isNew count) (presentKeyValue : Record.Action E Value) := by
  refine Keeps.bind keeps_keyValue fun value => ?_
  refine Keeps.bind keeps_heap fun h => ?_
  split
  · split
    · exact Keeps.bind (keeps_refuseNull _) fun _ => Keeps.pure _
    · exact Keeps.pure _
  · split
    · refine Keeps.bind keeps_key fun key => ?_
      exact Keeps.bind (keeps_refuseNull _) fun _ => Keeps.pure _
    · exact Keeps.pure _

theorem keeps_keyValues :
    Keeps (Standing ledger number isNew count) (keyValues : Record.Action E (List Value)) := by
  refine Keeps.bind keeps_presentKeyValue fun value => ?_
  refine Keeps.bind keeps_heap fun h => ?_
  split <;> exact Keeps.pure _

end FluentSql.Record

namespace FluentSql

open Step (Keeps Triple)

/-! ## The statements of a save -/

theorem startsWith_of_prefix {start s : String} (h : start.toList <+: s.toList) :
    Ledger.StartsWith start (.text s) := by
  obtain ⟨rest, hrest⟩ := h
  exact ⟨rest, by rw [hrest, String.ofList_toList]⟩

theorem Changes.startsWith_insert (r : Rendering) (table : String) (fields : List String)
    (returning : String) (c : Changes) :
    Ledger.StartsWith "INSERT INTO " (c.insert r table fields returning).text := by
  refine startsWith_of_prefix ?_
  rw [List.cons_append, List.cons_append, String.toList_intercalate, List.map_cons, List.map_cons,
    List.intercalate_cons_cons]
  exact ⟨_, by rw [show "INSERT INTO ".toList = "INSERT INTO".toList ++ " ".toList by decide]⟩

theorem Changes.startsWith_update (r : Rendering) (table : String) (fields keyColumns : List String)
    (keyValues : List Value) (c : Changes) :
    Ledger.StartsWith "UPDATE " (c.update r table fields keyColumns keyValues).text := by
  refine startsWith_of_prefix ?_
  rw [String.toList_intercalate, List.map_cons, List.map_cons, List.intercalate_cons_cons,
    String.toList_append, String.toList_append, List.append_assoc, List.append_assoc, List.append_assoc]
  exact List.prefix_append _ _

namespace Record

variable {E : Environment} {ledger : Ledger E} {number : Option Nat} {isNew : Bool} {count : Nat}
  {α : Type}

theorem keeps_quotedAll (r : Rendering) (names : List Value) (h : Heap) :
    Keeps h.Drains (quotedAll r names) :=
  Keeps.mapM fun name _ => Keeps.bind (Heap.keeps_identifier h name) fun _ => Keeps.lift _

theorem keeps_returnedColumns (r : Rendering) (keyColumns : List Value) (h : Heap) :
    Keeps h.Drains (returnedColumns r keyColumns) := by
  unfold returnedColumns
  split
  · exact Keeps.bind Keeps.get fun _ => Keeps.lift _
  · exact Keeps.pure _

theorem keeps_readyChanges :
    Keeps (Standing ledger number isNew count) (readyChanges : Record.Action E Changes) :=
  Keeps.bind keeps_current fun _ => Keeps.bind keeps_heap fun _ => Keeps.pure _

theorem triple_insertion (r : Rendering) (keyColumns : List Value) :
    Triple (Standing ledger number isNew count) (insertion r keyColumns)
      (fun sql s => Standing ledger number isNew count s ∧ Ledger.StartsWith "INSERT INTO " sql.text)
      (Standing ledger number isNew count) := by
  refine Triple.bind keeps_readyChanges fun changes => ?_
  refine Triple.bind (keeps_inHeap_standing fun h => keeps_quotedAll r _ h) fun fields => ?_
  refine Triple.bind (keeps_inHeap_standing fun h => keeps_returnedColumns r keyColumns h)
    fun returning => ?_
  refine Triple.bind keeps_current fun record => ?_
  exact Triple.pure fun s hs => ⟨hs, changes.startsWith_insert r record.table fields returning⟩

theorem triple_updating (r : Rendering) (keyColumns : List Value) :
    Triple (Standing ledger number isNew count) (updating r keyColumns)
      (fun sql s => Standing ledger number isNew count s ∧ Ledger.StartsWith "UPDATE " sql.text)
      (Standing ledger number isNew count) := by
  refine Triple.bind keeps_keyValues fun values => ?_
  refine Triple.bind keeps_readyChanges fun changes => ?_
  refine Triple.bind (keeps_inHeap_standing fun h => keeps_quotedAll r _ h) fun fields => ?_
  refine Triple.bind (keeps_inHeap_standing fun h => keeps_quotedAll r keyColumns h) fun columns => ?_
  refine Triple.bind keeps_current fun record => ?_
  exact Triple.pure fun s hs => ⟨hs, changes.startsWith_update r record.table fields columns values⟩

/-! ## Acceptance and interruption -/

/-- Sends a statement and remembers it as the last one. -/
def accept (connection : String) (sql : Sql) : FluentSql.Action E Statement := do
  let driver ← Connection.driver connection
  let statement ← Connection.send driver sql.text sql.params.toValue
  Session.change fun s => { s with lastStatement := some statement }
  return statement

/-- Executing a statement is sending it and logging it then. -/
theorem execute_eq (connection : String) (sql : Sql) :
    (Connection.execute connection sql.text sql.params.toValue : FluentSql.Action E Statement) = (do
      let statement ← accept connection sql
      Connection.logQuery connection sql.text sql.params.toValue
      return statement) := by
  simp only [Connection.execute, accept, bind_assoc, pure_bind]

/-- Whether the database accepts a statement of the record. -/
def isAccepted (sql : Sql) (s : Scope E) : Bool :=
  ((accept s.record.connection sql).perform s.published).1.isOk

/-- Whether a statement of the record is accepted, but executing it fails: then the query log or the
cache failed behind it. -/
def isCutShort (sql : Sql) (s : Scope E) : Bool :=
  isAccepted sql s && !((executeWrite sql).perform s).1.isOk

/-- Whether a save of the record is interrupted: its INSERT is accepted and cut short. -/
def isInterrupted (s : Scope E) : Bool :=
  s.record.changes.isNew &&
    match (pendingWrite.perform s) with
    | (.ok (some (_, sql)), s') => isCutShort sql s'
    | _ => false

/-- What cuts an accepted statement short is the query log, or the cache behind it. -/
theorem isCutShort_iff {sql : Sql} {s : Scope E} :
    isCutShort sql s = true ↔ ∃ statement w,
      (accept s.record.connection sql).perform s.published = (.ok statement, w) ∧
      ((∃ failure w', (Connection.logQuery s.record.connection sql.text sql.params.toValue).perform w =
          (.error failure, w')) ∨
        ∃ w', (Connection.logQuery s.record.connection sql.text sql.params.toValue).perform w =
            (.ok (), w') ∧
          ∃ failure s', autoClearCache.perform (s.renewed w') = (.error failure, s')) := by
  have hexecute : (executeWrite sql).perform s =
      (inWorld (accept s.record.connection sql >>= fun statement => do
          Connection.logQuery s.record.connection sql.text sql.params.toValue
          return statement) >>= fun statement => do
        autoClearCache
        return statement : Record.Action E Statement).perform s := by
    rw [executeWrite, perform_bindCurrent, execute_eq]
  rw [isCutShort, isAccepted, hexecute, Step.perform_bind, inWorld, Step.perform_onPart,
    Step.perform_bind]
  rcases haccept : (accept s.record.connection sql).perform s.published with ⟨failure | statement, w⟩
  · -- A statement that was refused is not cut short.
    constructor
    · intro h
      exact absurd h (by simp [Except.isOk, Except.toBool])
    · rintro ⟨_, _, ⟨⟩, -⟩
  · simp only [Step.perform_bind]
    rcases hlog : (Connection.logQuery s.record.connection sql.text sql.params.toValue).perform w with
      ⟨failure | _, w'⟩
    · constructor
      · intro _
        exact ⟨statement, w, rfl, Or.inl ⟨failure, w', hlog⟩⟩
      · intro _
        rfl
    · simp only [Step.perform_pure]
      rcases hclear : autoClearCache.perform (s.renewed w') with ⟨failure | _, s'⟩
      · constructor
        · intro _
          exact ⟨statement, w, rfl, Or.inr ⟨w', hlog, failure, s', hclear⟩⟩
        · intro _
          rfl
      · -- Nothing failed, so neither can have.
        constructor
        · intro h
          exact absurd h (by simp [Except.isOk, Except.toBool])
        · rintro ⟨_, _, ⟨⟩, ⟨_, _, hfailed⟩ | ⟨_, hlogged, _, _, hfailed⟩⟩
          · rw [hlog] at hfailed
            cases hfailed
          · rw [hlog] at hlogged
            cases hlogged
            rw [hclear] at hfailed
            cases hfailed

theorem triple_accept {sql : Sql} {counts : Bool} (hsql : Ledger.Announces sql.text counts)
    (connection : String) :
    Triple (ledger.Stands number isNew count) (accept connection sql)
      (fun _ => ledger.Stands number isNew (count + counts.toNat)) (ledger.Stands number isNew count) := by
  refine Triple.bind (Ledger.ignoresDrivers_stands.keeps_driver connection) fun driver => ?_
  refine Triple.bind (Ledger.triple_send hsql driver _) fun statement => ?_
  refine Triple.bind (R := fun _ => ledger.Stands number isNew (count + counts.toNat)) ?_
    fun _ => Triple.pure fun _ hs => hs
  exact Session.triple_change fun _ hs => ⟨hs.count, hs.record⟩

theorem triple_execute (hundisturbed : ledger.Undisturbed number) {sql : Sql} {counts : Bool}
    (hsql : Ledger.Announces sql.text counts) {connection : String} {w : World E.State}
    (hw : ledger.Stands number isNew count w) {accepted : Bool}
    (haccepted : ((accept connection sql).perform w).1.isOk = accepted) :
    Triple (· = w) (Connection.execute connection sql.text sql.params.toValue)
      (fun _ w' => accepted = true ∧ ledger.Stands number isNew (count + counts.toNat) w')
      (ledger.Stands number isNew (if accepted then count + counts.toNat else count)) := by
  have htriple : Triple (ledger.Stands number isNew count) (accept connection sql)
      (fun _ => ledger.Stands number isNew (count + counts.toNat))
      (ledger.Stands number isNew count) := triple_accept hsql connection
  have haccept := htriple w hw
  rw [execute_eq]
  rintro _ rfl
  rw [Step.perform_bind]
  rcases hrun : (accept connection sql).perform _ with ⟨result, w'⟩
  rw [hrun] at haccept haccepted
  cases result with
  | error failure =>
      obtain rfl : accepted = false := haccepted.symm
      exact haccept
  | ok statement =>
      -- Whatever fails from here on, the statement is counted already.
      obtain rfl : accepted = true := haccepted.symm
      have hlog : Keeps (ledger.Stands number isNew (count + counts.toNat))
          (Connection.logQuery connection sql.text sql.params.toValue) :=
        Ledger.keeps_logQuery hundisturbed connection sql.text sql.params.toValue
      refine Triple.bind hlog (fun _ => Triple.pure ?_) w' haccept
      exact fun _ hs => ⟨rfl, hs⟩

theorem keeps_autoClearCache (hundisturbed : ledger.Undisturbed number) :
    Keeps (Standing ledger number isNew count) (autoClearCache : Record.Action E Unit) := by
  refine Keeps.bind keeps_current fun r => ?_
  refine Keeps.bind (keeps_inWorld (Session.keeps_settings _)) fun settings => ?_
  split
  · exact keeps_inWorld (Ledger.keeps_clearCache hundisturbed _ _)
  · exact Keeps.pure ()

/-- A statement that is executed was accepted; one that failed may have been. -/
theorem triple_executeWrite (hundisturbed : ledger.Undisturbed number) {sql : Sql} {counts : Bool}
    (hsql : Ledger.Announces sql.text counts) {s : Scope E}
    (hs : Standing ledger number isNew count s) :
    Triple (· = s) (executeWrite sql)
      (fun _ s' => isAccepted sql s = true ∧ Standing ledger number isNew (count + counts.toNat) s')
      (Standing ledger number isNew (if isAccepted sql s then count + counts.toNat else count)) := by
  refine triple_bindCurrent fun s' hs' => ?_
  subst hs'
  have hexecute : Triple (· = s'.published) _ _ _ := triple_execute hundisturbed hsql hs.published
    (rfl : ((accept s'.record.connection sql).perform s'.published).1.isOk = isAccepted sql s')
  refine Triple.bindKnown (I := Standing ledger number isNew (count + counts.toNat))
    (R := fun _ => isAccepted sql s' = true) ?_ fun statement haccepted => ?_
  · refine Triple.onPart s' hexecute rfl ?_ fun _ hw => hs.renewed hw
    rintro _ w ⟨haccepted, hw⟩
    exact ⟨hs.renewed hw, haccepted⟩
  · rw [if_pos haccepted]
    have hclear : Keeps (Standing ledger number isNew (count + counts.toNat))
        (autoClearCache : Record.Action E Unit) := keeps_autoClearCache hundisturbed
    exact Triple.bind hclear fun _ => Triple.pure fun _ hs => ⟨haccepted, hs⟩

/-! ## After the statement -/

theorem keeps_addFields (row : Value) :
    Keeps (Standing ledger number isNew count) (addFields row : Record.Action E Unit) := by
  have add : ∀ fields : Row, Keeps (Standing ledger number isNew count)
      (changeRow fun c => { c with data := Entries.putAll c.data fields } : Record.Action E Unit) :=
    fun _ => keeps_changeRow fun _ => rfl
  refine Keeps.bind keeps_heap fun h => ?_
  split
  · exact add _
  · refine Keeps.bind (keeps_inHeap_standing fun h => Heap.keeps_items h row) fun pairs => ?_
    refine Keeps.forM fun pair _ => ?_
    exact Keeps.bind (keeps_inHeap_standing fun h => Heap.keeps_pair h pair) fun _ => add _

theorem keeps_fillKey (keyColumns : List Value) (statement : Statement) :
    Keeps (Standing ledger number isNew count)
      (fillKey keyColumns statement : Record.Action E Unit) := by
  refine Keeps.bind keeps_current fun r => ?_
  refine Keeps.bind (keeps_inWorld (Ledger.ignoresDrivers_stands.keeps_dialect _)) fun dialect => ?_
  split
  · refine Keeps.bind (keeps_inWorld (Ledger.keeps_fetchRow statement)) fun row => ?_
    split
    · exact keeps_addFields _
    · exact Keeps.pure ()
  · refine Keeps.bind (keeps_inWorld (Ledger.ignoresDrivers_stands.keeps_driver _)) fun driver => ?_
    refine Keeps.bind (keeps_inWorld (Ledger.keeps_lastInsertId driver)) fun id => ?_
    split
    · exact Keeps.throw _
    · refine Keeps.bind (keeps_inHeap_standing fun h => Heap.keeps_requireKey h _) fun _ => ?_
      exact keeps_changeRow fun _ => rfl

/-- How a record may stand after a step: as before, or inserted and no longer new. If the step was an
interrupted save, the record was inserted and is still new. -/
def Moves (ledger : Ledger E) (number : Option Nat) (isNew : Bool) (count : Nat) (interrupted : Bool)
    (s : Scope E) : Prop :=
  if interrupted then isNew = true ∧ Standing ledger number true (count + 1) s
  else Standing ledger number isNew count s ∨
    isNew = true ∧ Standing ledger number false (count + 1) s

theorem Moves.stays {s : Scope E} (hs : Standing ledger number isNew count s) :
    Moves ledger number isNew count false s := Or.inl hs

/-- A row that was not new is not new after it was saved. -/
theorem triple_saveWith_old (hundisturbed : ledger.Undisturbed number) (keyColumns : List Value)
    {sql : Sql} (hsql : Ledger.Announces sql.text false) :
    Keeps (Standing ledger number false count) (saveWith keyColumns sql : Record.Action E Unit) := by
  have hclean : Keeps (Standing ledger number false count)
      (changeRow Changes.markClean : Record.Action E Unit) := keeps_changeRow fun _ => rfl
  have hexecute : Keeps (Standing ledger number false count)
      (executeWrite sql : Record.Action E Statement) := by
    refine Triple.of_states fun s hs => (triple_executeWrite hundisturbed hsql hs).consequence ?_ ?_ ?_
    · exact fun _ h => h
    · exact fun _ _ h => h.2
    · intro s' hs'
      rwa [Bool.toNat_false, Nat.add_zero, ite_self] at hs'
  refine Keeps.bind hexecute fun statement => ?_
  -- A row that is not new has its key, and there is nothing to fetch.
  refine triple_bindCurrent fun s hs => ?_
  rw [if_neg (by simp [hs.isNew])]
  refine hclean.pre ?_
  rintro _ rfl
  exact hs

/-- A new row is sent in an INSERT. It is not new any more if the statement was accepted, unless the
statement was cut short. -/
theorem triple_saveWith_new (hundisturbed : ledger.Undisturbed number) (keyColumns : List Value)
    {sql : Sql} (hsql : Ledger.Announces sql.text true) {s : Scope E}
    (hs : Standing ledger number true count s) :
    Triple (· = s) (saveWith keyColumns sql : Record.Action E Unit)
      (fun _ => Moves ledger number true count (isCutShort sql s))
      (Moves ledger number true count (isCutShort sql s)) := by
  intro s₀ hs₀
  subst s₀
  have hexecute := triple_executeWrite hundisturbed hsql hs s rfl
  rw [saveWith, Step.perform_bind]
  rcases hrun : (executeWrite sql).perform s with ⟨result, s'⟩
  rw [hrun] at hexecute
  cases result with
  | error failure =>
      have hcut : isCutShort sql s = isAccepted sql s := by
        rw [isCutShort, hrun]
        exact Bool.and_true _
      rw [hcut]
      cases haccepted : isAccepted sql s with
      | false =>
          rw [haccepted] at hexecute
          exact Or.inl hexecute
      | true =>
          rw [haccepted] at hexecute
          exact ⟨rfl, hexecute⟩
  | ok statement =>
      have hcut : isCutShort sql s = false := by
        rw [isCutShort, hrun]
        exact Bool.and_false _
      have hclean : Keeps (Standing ledger number false (count + 1))
          (changeRow Changes.markClean : Record.Action E Unit) := keeps_changeRow fun _ => rfl
      have hmoves : ∀ s', Standing ledger number false (count + 1) s' →
          Moves ledger number true count (isCutShort sql s) s' := by
        intro s' hs'
        rw [hcut]
        exact Or.inr ⟨rfl, hs'⟩
      refine Triple.consequence (P := Standing ledger number true (count + 1))
        (Q := fun _ => Standing ledger number false (count + 1)) ?_ (fun _ h => h) (fun _ => hmoves)
        hmoves s' hexecute.2
      refine triple_bindCurrent fun s' hs' => ?_
      rw [if_pos hs'.isNew]
      -- The row stops being new before the key is filled in, so a fetch that fails is no interruption.
      refine Triple.bind (R := fun _ => Standing ledger number false (count + 1)) ?_ fun _ => ?_
      · have hold : ∀ c : Changes, c.isNew = true → { c with isNew := false }.isNew = false :=
          fun _ _ => rfl
        refine (triple_changeRow hold).pre ?_
        rintro _ rfl
        exact hs'
      · refine Triple.bind keeps_nullKeyCount fun nulls => ?_
        split
        · exact Triple.bind (keeps_fillKey keyColumns statement) fun _ => hclean
        · exact hclean

/-! ## A save -/

/-- What the statement of a save starts with. -/
def verb (isNew : Bool) : String := if isNew then "INSERT INTO " else "UPDATE "

theorem announces_of_verb {sql : Value} (h : Ledger.StartsWith (verb isNew) sql) : Ledger.Announces sql isNew := by
  cases isNew with
  | true => exact Ledger.announces_insert h
  | false => exact Ledger.announces_update h

/-- The statement of a new row is an INSERT, and that of another row an UPDATE. -/
theorem triple_pendingWrite :
    Triple (Standing ledger number isNew count) (pendingWrite : Record.Action E _)
      (fun pending s => Standing ledger number isNew count s ∧
        ∀ keyColumns sql, pending = some (keyColumns, sql) → Ledger.StartsWith (verb isNew) sql.text)
      (Standing ledger number isNew count) := by
  refine Triple.bind keeps_rendering fun rendering => ?_
  refine Triple.bind keeps_key fun keyColumns => ?_
  refine triple_bindCurrent fun s hs => ?_
  have hkept : ∀ s', s' = s → Standing ledger number isNew count s' := by
    rintro _ rfl
    exact hs
  by_cases hnew : s.record.changes.isNew = true
  · obtain rfl : isNew = true := hs.isNew.symm.trans hnew
    rw [if_pos hnew]
    refine Triple.bind ((triple_insertion rendering keyColumns.columns).pre hkept) fun sql => ?_
    refine Triple.pure fun s' hs' => ⟨hs'.1, ?_⟩
    rintro _ _ ⟨⟩
    exact hs'.2
  · obtain rfl : isNew = false := hs.isNew.symm.trans (by simpa using hnew)
    rw [if_neg hnew]
    split
    · refine Triple.bind ((triple_updating rendering keyColumns.columns).pre hkept) fun sql => ?_
      refine Triple.pure fun s' hs' => ⟨hs'.1, ?_⟩
      rintro _ _ ⟨⟩
      exact hs'.2
    · exact Triple.pure fun s' hs' => ⟨hkept s' hs', by simp⟩

theorem moves_save (hundisturbed : ledger.Undisturbed number) {s : Scope E}
    (hs : Standing ledger number isNew count s) :
    Moves ledger number isNew count (isInterrupted s) (save.perform s).2 := by
  have hpending := (triple_pendingWrite (E := E)) s hs
  rw [save_eq, Step.perform_bind, isInterrupted, hs.isNew]
  -- Only a save that comes to a statement can be interrupted.
  rcases hrun : pendingWrite.perform s with ⟨_ | (_ | ⟨keyColumns, sql⟩), s'⟩ <;> rw [hrun] at hpending
  case error =>
      rw [Bool.and_false]
      exact Moves.stays hpending
  case ok.none =>
      rw [Bool.and_false]
      exact Moves.stays hpending.1
  case ok.some =>
      obtain ⟨hs', hannounces⟩ := hpending
      have hsql := announces_of_verb (hannounces keyColumns sql rfl)
      cases isNew with
      | false =>
          exact Moves.stays ((triple_saveWith_old hundisturbed keyColumns hsql).leaves hs')
      | true =>
          exact (triple_saveWith_new hundisturbed keyColumns hsql hs').leaves rfl

end Record

end FluentSql
