import FluentSql.Proofs.Connection.Consulting
/-
# FluentSql.Proofs.Connection.Quiet — what neither executes statements nor logs them.

A property of worlds is quiet (`IsQuiet`) if it speaks of the log and of what databases have accepted only, so that
nothing breaks it but a statement that is sent or logged. Whatever else connections and records do keeps such a
property: opening drivers, writing statements down, asking caches and filling them, fetching rows, setting options.
-/

namespace FluentSql

open Step (Keeps Triple)

/-- A property of worlds that statements break when they are accepted or logged, and nothing else does. The functions
of the caller are supposed to keep it. -/
structure Connection.IsQuiet {E : Environment} (J : World E.State → Prop) : Prop where
  heap : ∀ {w} h, J w → J { w with heap := h }
  session : ∀ {w} {s : Session}, s.log = w.session.log → J w → J { w with session := s }
  connect : ∀ opening {w}, J w → J { w with outside := (E.connect opening w.outside).2 }
  fetch : ∀ cursor count {w}, J w → J { w with outside := (E.fetch cursor count w.outside).2 }
  insertId : ∀ link {w}, J w → J { w with outside := (E.insertId link w.outside).2 }
  call : ∀ hook call, Keeps J (E.call hook call)

theorem Connection.IsQuiet.ignoresDrivers {E : Environment} {J : World E.State → Prop} (hJ : IsQuiet J) :
    IgnoresDrivers J where
  session hs hw := by
    obtain ⟨_, _, _, _, rfl⟩ := hs
    exact hJ.session rfl hw
  connect := hJ.connect

namespace Connection

open Session (current change inHeap outside callHook)

variable {E : Environment} {α : Type}

namespace IsQuiet

variable {J : World E.State → Prop} (hJ : IsQuiet J)
include hJ

/-! ## The parts of a world -/

theorem keeps_inHeap (step : Step Heap α) : Keeps J (inHeap step : Action E α) :=
  Session.keeps_inHeap_any (fun _ hw => hJ.heap _ hw) step

theorem keeps_change {f : Session → Session} (hf : ∀ s : Session, (f s).log = s.log) :
    Keeps J (change f : Action E Unit) :=
  Session.triple_change fun w hw => hJ.session (hf w.session) hw

theorem keeps_putSettings (connection : String) (settings : Settings) :
    Keeps J (putSettings connection settings : Action E Unit) := hJ.keeps_change fun _ => rfl

theorem ignoresStreams : IgnoresStreams J := fun _ h _ hw => hJ.heap h hw

theorem keeps_quote (connection : String) (identifier : Value) :
    Keeps J (quote connection identifier : Action E String) :=
  hJ.ignoresStreams.keeps_quote_of (hJ.ignoresDrivers.keeps_quoteMark connection) identifier

theorem keeps_configureOne (connection : String) (key value : Value) :
    Keeps J (configureOne connection key value : Action E Unit) := by
  refine Keeps.bind Keeps.get fun w => Keeps.bind (Keeps.lift _) fun setting => ?_
  refine Keeps.bind (hJ.keeps_inHeap _) fun given => Keeps.bind (Session.keeps_settings connection) fun settings => ?_
  split
  · exact hJ.keeps_putSettings connection _
  · exact Keeps.throw _

theorem keeps_configure (connection : String) (key : Value) (value : Option Value) :
    Keeps J (configure connection key value : Action E Unit) := by
  refine Keeps.bind Keeps.get fun w => ?_
  split
  · exact Keeps.forM fun e _ => hJ.keeps_configureOne connection e.1 e.2
  · exact hJ.keeps_configureOne connection _ _
  · exact hJ.keeps_configureOne connection _ _

theorem keeps_setting (connection : String) (key : Value) :
    Keeps J (setting connection key : Action E Value) := by
  refine Keeps.bind Keeps.get fun w => Keeps.bind (Keeps.lift _) fun setting => ?_
  refine Keeps.bind (Session.keeps_settings connection) fun settings => Keeps.bind (hJ.keeps_inHeap _) fun value => ?_
  exact Keeps.bind (hJ.keeps_putSettings connection _) fun _ => Keeps.pure _

omit hJ in
theorem keeps_allSettings (connection : String) : Keeps J (allSettings connection : Action E Value) := by
  refine Keeps.bind (Session.keeps_settings connection) fun settings => Keeps.bind Keeps.get fun w => ?_
  refine Keeps.bind (Keeps.mapM fun setting _ => ?_) fun _ => Keeps.pure _
  exact Keeps.bind (Keeps.lift _) fun _ => Keeps.pure _

/-! ## Rows -/

theorem keeps_fetch (statement : Statement) (count : Option Nat) :
    Keeps J (Connection.fetch statement count : Action E (List Value)) :=
  hJ.ignoresStreams.keeps_fetch_of (Session.keeps_outside fun hw => hJ.fetch _ _ hw)

theorem keeps_fetchRow (statement : Statement) : Keeps J (fetchRow statement : Action E (Option Value)) :=
  hJ.ignoresStreams.keeps_fetchRow_of (Session.keeps_outside fun hw => hJ.fetch _ _ hw)

theorem keeps_lastInsertId (d : Driver) : Keeps J (lastInsertId d : Action E Value) :=
  keeps_lastInsertId_of (Session.keeps_outside fun hw => hJ.insertId _ hw)

theorem keeps_copyOfRows (rows : List Value) : Keeps J (rows.mapM copyOfRow : Action E (List Value)) :=
  hJ.ignoresStreams.keeps_copyOfRows rows

theorem keeps_rowOf (data : Value) : Keeps J (Record.rowOf data : Action E Row) := hJ.ignoresStreams.keeps_rowOf data

/-! ## Stores -/

theorem keeps_putStore (cache : CacheRef) (kept : Cache.Store) :
    Keeps J (putStore cache kept : Action E Unit) :=
  keeps_putStore_of (fun _ => hJ.keeps_change fun _ => rfl) (fun _ _ => hJ.keeps_change fun _ => rfl) cache kept

theorem keeps_consult (connection : String) (sql params table : Value) :
    Keeps J (consult connection sql params table : Action E Consulted) :=
  hJ.ignoresStreams.keeps_consult_of (fun _ => hJ.call _ _) fun _ _ => hJ.call _ _

theorem keeps_keep (cache : CacheRef) (key rows table connection : Value) :
    Keeps J (keep cache key rows table connection : Action E Unit) :=
  hJ.ignoresStreams.keeps_keep_of (hJ.keeps_putStore cache) fun _ => hJ.call _ _

theorem keeps_clearCache (table : Value) (connection : String) :
    Keeps J (clearCache table connection : Action E Unit) :=
  hJ.ignoresStreams.keeps_clearCache_of hJ.keeps_putStore fun _ => hJ.call _ _

end IsQuiet

end Connection

end FluentSql
