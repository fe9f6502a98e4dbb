import FluentSql.Proofs.Connection.Consulting
import FluentSql.Proofs.Record.Makeup
/-
# FluentSql.Proofs.Record.Looks — writing statements down only looks.

While a record writes a statement it stays as it is. So the statement depends on the record, on the session and on the
heap, and on nothing that lies outside (`looks_statement`): as long as these are the same, it is the same.
-/

namespace FluentSql.Record

open Step (Keeps perform_bind_ok perform_bind_error)

variable {E : Environment} {α β : Type}

/-- The record acts in the world, under the number. -/
structure Scope.Meets (r : Record) (number : Option Nat) (w : World E.State) (t : Scope E) : Prop where
  record : t.record = r
  number : t.number = number
  published : t.published = w

theorem Scope.meets_self (t : Scope E) : t.Meets t.record t.number t.published := ⟨rfl, rfl, rfl⟩

/-- Streams may be drained in the world behind a record; it comes back as it was. -/
theorem Scope.Meets.renewed {r : Record} {number : Option Nat} {w w' : World E.State} {t : Scope E}
    (h : t.Meets r number w) (hd : w.heap.Drains w'.heap) : (t.renewed w').Meets r number w' := by
  rw [← h.published] at hd
  obtain ⟨hrecord, hnumber, hpublished⟩ := Scope.renewed_eq hd
  exact ⟨hrecord.trans h.record, hnumber.trans h.number, hpublished⟩

/-- The action of a record only looks at the record, at the session and at the heap, some of whose streams it may
drain. -/
def LooksFrom (r : Record) (number : Option Nat) (s : Session) (heap : Heap) (step : Record.Action E α) : Prop :=
  ∃ result heap', heap.Drains heap' ∧ ∀ o (t : Scope E), t.Meets r number ⟨s, heap, o⟩ →
    ∃ t', step.perform t = (result, t') ∧ t'.Meets r number ⟨s, heap', o⟩

/-- The action of a record only looks, whatever the heap. -/
def Looks (r : Record) (number : Option Nat) (s : Session) (step : Record.Action E α) : Prop :=
  ∀ heap, LooksFrom r number s heap step

variable {r : Record} {number : Option Nat} {s : Session}

namespace Looks

theorem pure (a : α) : Looks r number s (pure a : Record.Action E α) :=
  fun heap => ⟨.ok a, heap, .refl _, fun _ t ht => ⟨t, rfl, ht⟩⟩

theorem throw (failure : Failure) : Looks r number s (throw failure : Record.Action E α) :=
  fun heap => ⟨.error failure, heap, .refl _, fun _ t ht => ⟨t, rfl, ht⟩⟩

theorem lift (result : Except Failure α) : Looks r number s (liftM result : Record.Action E α) := by
  cases result with
  | ok a => exact pure a
  | error failure => exact throw failure

end Looks

theorem LooksFrom.bind {heap : Heap} {step : Record.Action E α} {next : α → Record.Action E β}
    (h : LooksFrom r number s heap step)
    (hnext : ∀ a heap', heap.Drains heap' → LooksFrom r number s heap' (next a)) :
    LooksFrom r number s heap (step >>= next) := by
  obtain ⟨result, heap₁, hd₁, hrun⟩ := h
  cases result with
  | error failure =>
      refine ⟨.error failure, heap₁, hd₁, fun o t ht => ?_⟩
      obtain ⟨t', hstep, ht'⟩ := hrun o t ht
      exact ⟨t', perform_bind_error hstep, ht'⟩
  | ok a =>
      obtain ⟨result, heap₂, hd₂, hrest⟩ := hnext a heap₁ hd₁
      refine ⟨result, heap₂, hd₁.trans hd₂, fun o t ht => ?_⟩
      obtain ⟨t₁, hstep, ht₁⟩ := hrun o t ht
      obtain ⟨t₂, hnextRun, ht₂⟩ := hrest o t₁ ht₁
      exact ⟨t₂, (perform_bind_ok hstep).trans hnextRun, ht₂⟩

theorem LooksFrom.inWorld {heap : Heap} {action : FluentSql.Action E α} (h : Connection.LooksFrom s heap action) :
    LooksFrom r number s heap (inWorld action) := by
  obtain ⟨result, heap', hd, hrun⟩ := h
  refine ⟨result, heap', hd, fun o t ht => ⟨t.renewed ⟨s, heap', o⟩, perform_inWorld ?_, ht.renewed hd⟩⟩
  rw [ht.published]
  exact hrun o

/-- What looks at the record goes on from this one. -/
theorem LooksFrom.bindCurrent {heap : Heap} {next : Record → Record.Action E α}
    (h : LooksFrom r number s heap (next r)) : LooksFrom r number s heap (current >>= next) := by
  obtain ⟨result, heap', hd, hrun⟩ := h
  refine ⟨result, heap', hd, fun o t ht => ?_⟩
  rw [perform_bindCurrent, ht.record]
  exact hrun o t ht

namespace Looks

theorem bind {step : Record.Action E α} {next : α → Record.Action E β} (h : Looks r number s step)
    (hnext : ∀ a, Looks r number s (next a)) : Looks r number s (step >>= next) :=
  fun heap => (h heap).bind fun a heap' _ => hnext a heap'

theorem bindCurrent {next : Record → Record.Action E α} (h : Looks r number s (next r)) :
    Looks r number s (current >>= next) :=
  fun heap => (h heap).bindCurrent

theorem heap : Looks r number s (heap : Record.Action E Heap) := by
  refine fun heap => ⟨.ok heap, heap, .refl _, fun o t ht => ⟨t, ?_, ht⟩⟩
  show (Except.ok t.published.heap, t) = _
  rw [ht.published]

theorem inWorld {action : FluentSql.Action E α} (h : Connection.Looks s action) :
    Looks r number s (inWorld action) :=
  fun heap => LooksFrom.inWorld (h heap)

theorem inHeap {step : Step Heap α} (h : ∀ h : Heap, Keeps h.Drains step) :
    Looks r number s (inHeap step : Record.Action E α) := inWorld (Connection.Looks.inHeap h)

end Looks

/-! ## The key -/

theorem looks_key : Looks r number s (key : Record.Action E KeyColumns) := by
  refine Looks.bindCurrent ?_
  split
  · exact Looks.pure _
  · exact Looks.bind (Looks.inWorld (Connection.Looks.settings _)) fun _ => Looks.bind Looks.heap fun _ => Looks.pure _

theorem looks_valueAt (key : Value) : Looks r number s (valueAt key : Record.Action E Value) :=
  Looks.bindCurrent (Looks.inHeap fun h => keeps_valueIn h _ key)

theorem looks_keyValue : Looks r number s (keyValue : Record.Action E Value) := by
  refine Looks.bind looks_key fun key => ?_
  split <;> exact looks_valueAt _

theorem looks_refuseNull (columns : List Value) : Looks r number s (refuseNull columns : Record.Action E α) :=
  Looks.bindCurrent (Looks.throw _)

theorem looks_presentKeyValue : Looks r number s (presentKeyValue : Record.Action E Value) := by
  refine Looks.bind looks_keyValue fun value => Looks.bind Looks.heap fun h => ?_
  split
  · split
    · exact Looks.bind (looks_refuseNull _) fun _ => Looks.pure _
    · exact Looks.pure _
  · split
    · exact Looks.bind looks_key fun _ => Looks.bind (looks_refuseNull _) fun _ => Looks.pure _
    · exact Looks.pure _

theorem looks_keyValues : Looks r number s (keyValues : Record.Action E (List Value)) := by
  refine Looks.bind looks_presentKeyValue fun value => Looks.bind Looks.heap fun h => ?_
  split <;> exact Looks.pure _

/-! ## Statements -/

theorem looks_readyQuery : Looks r number s (readyQuery : Record.Action E Query) := by
  refine Looks.bindCurrent (Looks.bind Looks.heap fun h => ?_)
  dsimp only
  split
  · exact Looks.bind (Looks.inHeap fun h => Heap.keeps_identifier h _) fun _ => Looks.pure _
  · exact Looks.pure _

theorem looks_readyChanges : Looks r number s (readyChanges : Record.Action E Changes) :=
  Looks.bindCurrent (Looks.bind Looks.heap fun _ => Looks.pure _)

theorem looks_insertion (rendering : Rendering) (keyColumns : List Value) :
    Looks r number s (insertion rendering keyColumns : Record.Action E Sql) := by
  refine Looks.bind looks_readyChanges fun changes => ?_
  refine Looks.bind (Looks.inHeap fun h => keeps_quotedAll rendering _ h) fun fields => ?_
  refine Looks.bind (Looks.inHeap fun h => keeps_returnedColumns rendering keyColumns h) fun returning => ?_
  exact Looks.bindCurrent (Looks.pure _)

theorem looks_updating (rendering : Rendering) (keyColumns : List Value) :
    Looks r number s (updating rendering keyColumns : Record.Action E Sql) := by
  refine Looks.bind looks_keyValues fun values => Looks.bind looks_readyChanges fun changes => ?_
  refine Looks.bind (Looks.inHeap fun h => keeps_quotedAll rendering _ h) fun fields => ?_
  refine Looks.bind (Looks.inHeap fun h => keeps_quotedAll rendering keyColumns h) fun columns => ?_
  exact Looks.bindCurrent (Looks.pure _)

section

variable (hready : s.IsReady r.connection)
include hready

theorem looks_rendering : Looks r number s (rendering : Record.Action E Rendering) :=
  Looks.bindCurrent (Looks.inWorld (Connection.looks_rendering hready))

theorem looks_compileSelect : Looks r number s (compileSelect : Record.Action E Sql) :=
  Looks.bind (looks_rendering hready) fun _ => Looks.bind looks_readyQuery fun _ => Looks.lift _

theorem looks_pendingWrite : Looks r number s (pendingWrite : Record.Action E (Option (List Value × Sql))) := by
  refine Looks.bind (looks_rendering hready) fun rendering => Looks.bind looks_key fun key => Looks.bindCurrent ?_
  dsimp only
  split
  · exact Looks.bind (looks_insertion rendering _) fun _ => Looks.pure _
  · split
    · exact Looks.bind (looks_updating rendering _) fun _ => Looks.pure _
    · exact Looks.pure _

theorem looks_deletion : Looks r number s (deletion : Record.Action E Sql) := by
  refine Looks.bind (looks_rendering hready) fun rendering => Looks.bind looks_key fun key => ?_
  refine Looks.bind looks_keyValues fun values => ?_
  refine Looks.bind (Looks.inHeap fun h => keeps_quotedAll rendering _ h) fun columns => ?_
  exact Looks.bindCurrent (Looks.pure _)

theorem looks_deletionOfMany : Looks r number s (deletionOfMany : Record.Action E Sql) :=
  Looks.bind (looks_rendering hready) fun _ => Looks.bindCurrent (Looks.lift _)

/-- Writing the statement of a request down only looks. -/
theorem looks_statement (request : Request) :
    Looks r number s (statement request : Record.Action E (Option Sql)) := by
  cases request with
  | rows => exact Looks.bind (looks_compileSelect hready) fun _ => Looks.pure _
  | deleteMany => exact Looks.bind (looks_deletionOfMany hready) fun _ => Looks.pure _
  | save => exact Looks.bind (looks_pendingWrite hready) fun _ => Looks.pure _
  | delete => exact Looks.bind (looks_deletion hready) fun _ => Looks.pure _

end

end FluentSql.Record
