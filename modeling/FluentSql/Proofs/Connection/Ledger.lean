import FluentSql.Proofs.Connection.Marks
import FluentSql.Proofs.Literal.Inert
/-
# FluentSql.Proofs.Connection.Ledger — what reaches the outside while a record is saved.

A ledger counts the INSERTs that databases accepted. Looking for drivers, looking at settings, logging and
clearing caches send no statement, and they meet the records in the heap but do not touch them; the
functions of the caller are assumed to behave likewise. So none of them changes the count, or whether a
record is new, however it ends.
-/

namespace FluentSql

open Step (Keeps Triple)

/-- The statement is an INSERT by the look of it. -/
def isInsert : Value → Bool
  | .text s => "INSERT INTO ".toList.isPrefixOf s.toList
  | _ => false

/-- A count of the INSERTs that the databases outside accepted. A statement is accepted if executing it
does not fail. -/
structure Ledger (E : Environment) where
  inserts : E.State → Nat
  connect : ∀ opening s, inserts (E.connect opening s).2 = inserts s
  fetch : ∀ cursor count s, inserts (E.fetch cursor count s).2 = inserts s
  insertId : ∀ link s, inserts (E.insertId link s).2 = inserts s
  accepted : ∀ link text params s reply s', E.execute link text params s = (.ok reply, s') →
    inserts s' = inserts s + (isInsert text).toNat
  refused : ∀ link text params s failure s', E.execute link text params s = (.error failure, s') →
    inserts s' = inserts s

/-- The ledger counts so many INSERTs, and the heap keeps a record under the number, if there is one,
that is new or not. -/
structure Ledger.Stands {E : Environment} (ledger : Ledger E) (number : Option Nat) (isNew : Bool)
    (count : Nat) (w : World E.State) : Prop where
  count : ledger.inserts w.outside = count
  record : ∀ id, number = some id →
    ∃ r, w.heap.cell? id = some (.record r) ∧ r.changes.isNew = isNew

/-- The functions of the caller may fail, but they neither send INSERTs nor change whether the record of
the number is new. -/
def Ledger.Undisturbed {E : Environment} (ledger : Ledger E) (number : Option Nat) : Prop :=
  ∀ isNew count hook call, Keeps (ledger.Stands number isNew count) (E.call hook call)

/-- An outside that counts the INSERTs it accepts, where the functions of the caller always fail. -/
def Environment.counting : Environment where
  State := Nat
  digest text := text
  connect _ s := (.error .badArguments, s)
  execute _ text _ s := (.ok ⟨0, none, 0, .null⟩, s + (isInsert text).toNat)
  fetch _ _ s := (.ok [], s)
  insertId _ s := (.ok (.int s), s)
  call _ _ := throw (.database "hook failed")

/-- What it counts. -/
def Ledger.counting : Ledger .counting where
  inserts s := s
  connect _ _ := rfl
  fetch _ _ _ := rfl
  insertId _ _ := rfl
  accepted := by
    rintro _ _ _ _ _ _ ⟨⟩
    rfl
  refused := by
    rintro _ _ _ _ _ _ ⟨⟩

theorem Ledger.undisturbed_counting (number : Option Nat) : Ledger.counting.Undisturbed number :=
  fun _ _ _ _ => Keeps.throw _

namespace Ledger

open Session (current change inHeap outside callHook)

variable {E : Environment} {ledger : Ledger E} {number : Option Nat} {isNew : Bool} {count : Nat}
  {α : Type}

/-! ## The parts of a world -/

theorem Stands.drained {w : World E.State} (hw : ledger.Stands number isNew count w) {h : Heap}
    (hd : w.heap.Drains h) : ledger.Stands number isNew count { w with heap := h } := by
  refine ⟨hw.count, fun id hid => ?_⟩
  obtain ⟨r, hr, hnew⟩ := hw.record id hid
  exact ⟨r, hd.cell?_record hr, hnew⟩

theorem ignoresStreams_stands : Connection.IgnoresStreams (ledger.Stands number isNew count) :=
  fun _ _ hd hw => hw.drained hd

theorem keeps_inHeap {step : Step Heap α} (h : ∀ h : Heap, Keeps h.Drains step) :
    Keeps (ledger.Stands number isNew count) (inHeap step : Action E α) := ignoresStreams_stands.keeps_inHeap h

theorem keeps_change (f : Session → Session) :
    Keeps (ledger.Stands number isNew count) (change f : Action E Unit) :=
  Session.triple_change fun _ hw => ⟨hw.count, hw.record⟩

/-- Something outside that is no statement. -/
theorem keeps_outside {transition : E.State → Except Failure α × E.State}
    (h : ∀ s, ledger.inserts (transition s).2 = ledger.inserts s) :
    Keeps (ledger.Stands number isNew count) (outside transition : Action E α) :=
  Session.keeps_outside fun hw => ⟨(h _).trans hw.count, hw.record⟩

theorem ignoresDrivers_stands : Connection.IgnoresDrivers (ledger.Stands number isNew count) where
  session _ hw := ⟨hw.count, hw.record⟩
  connect opening _ hw := ⟨(ledger.connect opening _).trans hw.count, hw.record⟩

/-! ## Statements -/

/-- A statement whose text starts with a given one. -/
def StartsWith (start : String) (sql : Value) : Prop :=
  ∃ rest, sql = .text (String.ofList (start.toList ++ rest))

theorem isInsert_of_startsWith_insert {sql : Value} (h : StartsWith "INSERT INTO " sql) :
    isInsert sql = true := by
  obtain ⟨rest, rfl⟩ := h
  simp only [isInsert, String.toList_ofList]
  exact List.isPrefixOf_iff_prefix.2 (List.prefix_append _ _)

theorem isInsert_of_startsWith_update {sql : Value} (h : StartsWith "UPDATE " sql) :
    isInsert sql = false := by
  obtain ⟨rest, rfl⟩ := h
  simp [isInsert, List.isPrefixOf]

theorem startsWith_restyle {start : String} (hstart : start.toList.all Literal.isOrdinary = true)
    (hpercent : '%' ∉ start.toList) {sql : Value} (h : StartsWith start sql) (style : ParamStyle)
    (heap : Heap) :
    ∃ sql', (Connection.restyle style sql).perform heap = (.ok sql', heap) ∧ StartsWith start sql' := by
  obtain ⟨rest, rfl⟩ := h
  have hrestyled : ∀ style : ParamStyle, StartsWith start (.text (String.ofList
      (style.restyle (String.ofList (start.toList ++ rest)).toList))) := by
    intro style
    exact ⟨style.restyle rest, by rw [String.toList_ofList, ParamStyle.restyle_append hstart hpercent]⟩
  cases style with
  | positional => exact ⟨_, rfl, rest, rfl⟩
  | percent => exact ⟨_, rfl, hrestyled .percent⟩
  | numbered => exact ⟨_, rfl, hrestyled .numbered⟩
  | named => exact ⟨_, rfl, hrestyled .named⟩

/-- However a statement is prepared for its driver, it starts as before. -/
theorem triple_prepare {start : String} (hstart : start.toList.all Literal.isOrdinary = true)
    (hpercent : '%' ∉ start.toList) {sql : Value} (hsql : StartsWith start sql) (kind : DriverKind)
    (params : Value) (h : Heap) :
    Triple h.Drains (Connection.prepare kind sql params)
      (fun sent h' => h.Drains h' ∧ StartsWith start sent.1) h.Drains := by
  cases kind with
  | native name => exact Triple.pure fun _ hs => ⟨hs, hsql⟩
  | sqlite =>
      refine Triple.bind (Connection.keeps_params h params) fun given => ?_
      cases given <;> exact Triple.pure fun _ hs => ⟨hs, hsql⟩
  | toolkit name style =>
      refine Triple.bind (Connection.keeps_params h params) fun given => ?_
      match given with
      | .named entries => exact Triple.pure fun _ hs => ⟨hs, hsql⟩
      | .positional [] => exact Triple.pure fun _ hs => ⟨hs, hsql⟩
      | .positional (v :: values) =>
          refine Triple.bind (R := fun sql' h' => h.Drains h' ∧ StartsWith start sql') ?_
            fun sql' => Triple.pure fun _ hs => hs
          intro h' hd
          obtain ⟨sql', hrun, hsql'⟩ := startsWith_restyle hstart hpercent hsql (.ofName style) h'
          rw [hrun]
          exact ⟨hd, hsql'⟩

/-- A statement starts so that it is an INSERT, or none, however it is prepared. -/
def Announces (sql : Value) (counts : Bool) : Prop :=
  ∃ start : String, start.toList.all Literal.isOrdinary = true ∧ '%' ∉ start.toList ∧
    StartsWith start sql ∧ ∀ sql', StartsWith start sql' → isInsert sql' = counts

theorem announces_insert {sql : Value} (h : StartsWith "INSERT INTO " sql) : Announces sql true :=
  ⟨"INSERT INTO ", by decide, by decide, h, fun _ => isInsert_of_startsWith_insert⟩

theorem announces_update {sql : Value} (h : StartsWith "UPDATE " sql) : Announces sql false :=
  ⟨"UPDATE ", by decide, by decide, h, fun _ => isInsert_of_startsWith_update⟩

/-- A statement that is sent is counted if it is accepted and an INSERT. -/
theorem triple_send {sql : Value} {counts : Bool} (hsql : Announces sql counts) (driver : Driver)
    (params : Value) :
    Triple (ledger.Stands number isNew count) (Connection.send driver sql params)
      (fun _ => ledger.Stands number isNew (count + counts.toNat))
      (ledger.Stands number isNew count) := by
  obtain ⟨start, hstart, hpercent, hsql, hcounts⟩ := hsql
  -- What is sent is not the statement itself but a restyled one, which starts as it does.
  refine Triple.bindKnown (I := ledger.Stands number isNew count)
    (R := fun sent => StartsWith start sent.1) ?_ fun sent htext => ?_
  · refine Triple.of_states fun w hw => ?_
    have hprepare := (triple_prepare hstart hpercent hsql driver.kind params w.heap).pre
      fun s (hs : s = w.heap) => hs ▸ Heap.Drains.refl _
    refine Session.triple_inHeap w rfl hprepare ?_ fun _ hd => hw.drained hd
    rintro sent h' ⟨hd, hsent⟩
    exact ⟨hw.drained hd, hsent⟩
  · obtain ⟨text, sent⟩ := sent
    refine Triple.bind (R := fun _ => ledger.Stands number isNew (count + counts.toNat))
      (Session.triple_outside ?_ ?_) fun reply => ?_
    · intro w reply s hw hrun
      refine ⟨?_, hw.record⟩
      rw [ledger.accepted _ _ _ _ _ _ hrun, hw.count, hcounts text htext]
    · intro w failure s hw hrun
      exact ⟨(ledger.refused _ _ _ _ _ _ hrun).trans hw.count, hw.record⟩
    · have hchange : ∀ f : Session → Session,
          Triple (ledger.Stands number isNew (count + counts.toNat)) (change f : Action E Unit)
            (fun _ => ledger.Stands number isNew (count + counts.toNat))
            (ledger.Stands number isNew count) :=
        fun _ => Session.triple_change fun _ hw => ⟨hw.count, hw.record⟩
      generalize driver.kind = kind
      cases kind with
      | native name => exact Triple.pure fun _ hs => hs
      | sqlite => exact Triple.bind (hchange _) fun _ => Triple.pure fun _ hs => hs
      | toolkit name style => exact Triple.bind (hchange _) fun _ => Triple.pure fun _ hs => hs

/-! ## Logging, clearing caches and fetching -/

theorem keeps_putStore (cache : CacheRef) (store : Cache.Store) :
    Keeps (ledger.Stands number isNew count) (Connection.putStore cache store : Action E Unit) :=
  Connection.keeps_putStore_of (fun _ => keeps_change _) (fun _ _ => keeps_change _) cache store

theorem keeps_fetchRow (statement : Statement) :
    Keeps (ledger.Stands number isNew count)
      (Connection.fetchRow statement : Action E (Option Value)) :=
  ignoresStreams_stands.keeps_fetchRow_of (keeps_outside (ledger.fetch _ _))

theorem keeps_lastInsertId (driver : Driver) :
    Keeps (ledger.Stands number isNew count) (Connection.lastInsertId driver : Action E Value) :=
  Connection.keeps_lastInsertId_of (keeps_outside (ledger.insertId _))

variable (hundisturbed : ledger.Undisturbed number)
include hundisturbed

theorem keeps_callHook (hook : Hook) (call : HookCall) :
    Keeps (ledger.Stands number isNew count) (callHook hook call) :=
  hundisturbed isNew count hook call

theorem keeps_logQuery (connection : String) (sql params : Value) :
    Keeps (ledger.Stands number isNew count) (Connection.logQuery connection sql params) :=
  ignoresStreams_stands.keeps_logQuery_of (ignoresDrivers_stands.keeps_driver connection) (fun _ => keeps_change _)
    (fun _ _ => keeps_callHook hundisturbed _ _) sql params

theorem keeps_clearCache (table : Value) (connection : String) :
    Keeps (ledger.Stands number isNew count) (Connection.clearCache table connection) :=
  ignoresStreams_stands.keeps_clearCache_of keeps_putStore fun _ => keeps_callHook hundisturbed _ _

end Ledger

end FluentSql
