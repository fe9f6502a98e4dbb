import FluentSql.Proofs.Connection.Steps
/-
# FluentSql.Proofs.Connection.Detached — what statements do not touch, and reading has no part in.

Executing statements and caching what they read changes nothing of how statements are written, except that a driver
may be opened and a dialect made for it. A property of worlds may speak of drivers, dialects and settings, and still
have nothing to do with all else that statements change (`IgnoresStatements`). If looking for the driver of a
connection keeps it, and the functions of the caller do, then so does whatever is read, written or executed there.

A property is detached (`IsDetached`) if it speaks of what the heap keeps, but not of what is left of streams, and
neither of the session nor of what lies outside. Then only a function of the caller can break it.
-/

namespace FluentSql

open Step (Keeps Triple)

/-- The sessions have the same settings, drivers and dialects. -/
structure Session.WritesLike (s s' : Session) : Prop where
  settings : s'.settings = s.settings
  drivers : s'.drivers = s.drivers
  dialects : s'.dialects = s.dialects
  knownDialects : s'.knownDialects = s.knownDialects

namespace Connection

open Session (change inHeap outside)

variable {E : Environment} {P : World E.State → Prop} {connection : String} {α : Type}

/-! ## What statements do not touch -/

/-- A property of worlds that has nothing to do with what is read, sent and kept. -/
structure IgnoresStatements (P : World E.State → Prop) : Prop where
  streams : IgnoresStreams P
  session : ∀ {w s}, w.session.WritesLike s → P w → P { w with session := s }
  sending : ∀ link text params {w}, P w → P { w with outside := (E.execute link text params w.outside).2 }
  fetching : ∀ cursor count {w}, P w → P { w with outside := (E.fetch cursor count w.outside).2 }
  reporting : ∀ link {w}, P w → P { w with outside := (E.insertId link w.outside).2 }

namespace IgnoresStatements

variable (hP : IgnoresStatements P)
include hP

theorem keeps_change {f : Session → Session} (hf : ∀ s : Session, s.WritesLike (f s)) :
    Keeps P (change f : Action E Unit) :=
  Session.triple_change fun w hw => hP.session (hf w.session) hw

theorem keeps_putStore (cache : CacheRef) (kept : Cache.Store) : Keeps P (putStore cache kept : Action E Unit) :=
  keeps_putStore_of (fun _ => hP.keeps_change fun _ => ⟨rfl, rfl, rfl, rfl⟩)
    (fun _ _ => hP.keeps_change fun _ => ⟨rfl, rfl, rfl, rfl⟩) cache kept

theorem keeps_fetched (cursor : Nat) (count : Option Nat) :
    Keeps P (outside (E.fetch cursor count) : Action E (List Value)) :=
  Session.keeps_outside fun hw => hP.fetching _ _ hw

theorem keeps_lastInsertId (d : Driver) : Keeps P (lastInsertId d : Action E Value) :=
  keeps_lastInsertId_of (Session.keeps_outside fun hw => hP.reporting _ hw)

theorem keeps_send (d : Driver) (sql params : Value) : Keeps P (send d sql params : Action E Statement) :=
  hP.streams.keeps_send_of (fun _ _ => Session.keeps_outside fun hw => hP.sending _ _ _ hw)
    (fun _ => hP.keeps_change fun _ => ⟨rfl, rfl, rfl, rfl⟩) sql params

variable (hcall : ∀ hook call, Keeps P (E.call hook call))
include hcall

theorem keeps_clearCache (table : Value) (connection : String) :
    Keeps P (clearCache table connection : Action E Unit) :=
  hP.streams.keeps_clearCache_of hP.keeps_putStore fun _ => hcall _ _

variable (hdriver : Keeps P (driver connection : Action E Driver))
include hdriver

theorem keeps_execute (sql params : Value) : Keeps P (execute connection sql params : Action E Statement) := by
  refine keeps_execute_of hdriver (fun d => hP.keeps_send d sql params)
    (fun _ => hP.keeps_change fun _ => ⟨rfl, rfl, rfl, rfl⟩) ?_
  exact hP.streams.keeps_logQuery_of hdriver (fun _ => hP.keeps_change fun _ => ⟨rfl, rfl, rfl, rfl⟩)
    (fun _ _ => hcall _ _) sql params

theorem keeps_read (sql params table : Value) :
    Keeps P (read connection sql params table : Action E (List Value)) := by
  have hfresh : Keeps P (readFresh connection sql params : Action E (List Value)) :=
    Keeps.bind (hP.keeps_execute hcall hdriver sql params) fun _ => hP.streams.keeps_fetch_of (hP.keeps_fetched _ _)
  refine hP.streams.keeps_read_of hfresh ?_ ?_ ?_
  · exact fun cache => hP.streams.keeps_cacheKey_of (fun _ => hcall _ _) cache
  · exact fun cache _ => hP.streams.keeps_lookUp_of (fun _ => hcall _ _) cache
  · exact fun cache _ _ => hP.streams.keeps_keep_of (hP.keeps_putStore cache) fun _ => hcall _ _

end IgnoresStatements

/-! ## What reading has no part in -/

/-- A property of worlds that has nothing to do with the session, with what lies outside and with streams. -/
structure IsDetached (J : World E.State → Prop) : Prop where
  heap : ∀ {w h}, w.heap.Drains h → J w → J { w with heap := h }
  session : ∀ s {w}, J w → J { w with session := s }
  state : ∀ o {w}, J w → J { w with outside := o }

namespace IsDetached

variable {J : World E.State → Prop} (hJ : IsDetached J)
include hJ

theorem ignoresDrivers : IgnoresDrivers J := ⟨fun _ hw => hJ.session _ hw, fun _ _ hw => hJ.state _ hw⟩

theorem ignoresStatements : IgnoresStatements J where
  streams _ _ hd hw := hJ.heap hd hw
  session _ hw := hJ.session _ hw
  sending _ _ _ _ hw := hJ.state _ hw
  fetching _ _ _ hw := hJ.state _ hw
  reporting _ _ hw := hJ.state _ hw

theorem keeps_inHeap {step : Step Heap α} (h : ∀ h : Heap, Keeps h.Drains step) :
    Keeps J (inHeap step : Action E α) := hJ.ignoresStatements.streams.keeps_inHeap h

theorem keeps_quote (connection : String) (identifier : Value) :
    Keeps J (quote connection identifier : Action E String) :=
  hJ.ignoresStatements.streams.keeps_quote_of (hJ.ignoresDrivers.keeps_quoteMark connection) identifier

theorem keeps_rowOf (data : Value) : Keeps J (Record.rowOf data : Action E Row) :=
  hJ.ignoresStatements.streams.keeps_rowOf data

/-- **Whether a read finds its rows or asks for them, it keeps what functions of the caller keep.** -/
theorem keeps_read (hcall : ∀ hook call, Keeps J (E.call hook call)) (connection : String) (sql params table : Value) :
    Keeps J (read connection sql params table : Action E (List Value)) :=
  hJ.ignoresStatements.keeps_read hcall (hJ.ignoresDrivers.keeps_driver connection) sql params table

end IsDetached

end Connection

end FluentSql
