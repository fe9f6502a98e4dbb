import FluentSql.Proofs.Connection.CachedReads
import FluentSql.Proofs.Connection.Registering
import FluentSql.Proofs.Connection.Steps
/-
# FluentSql.Proofs.Connection.Looks — what neither executes statements nor touches the cache.

Quoting identifiers, choosing how statements are written and looking at values takes items of streams away
and makes dialects, and nothing else, as long as the connection has its driver. A world idles from before
to after (`World.Idles`).

A connection that has its driver and its dialect is ready (`Session.IsReady`). What is done on its behalf without
executing a statement then only looks (`Looks`): it leaves the session as it is, takes items of streams away at most,
and what lies outside has no part in it, neither in the result nor in what is left of streams. Getting ready
comes first, and is all that distinguishes the first look from later ones (`getsReady_dialect`).
-/

namespace FluentSql

open Step (Keeps Triple perform_bind_ok)

/-- One session comes from another without a change in what is kept of reads, or in the drivers. -/
structure Session.Stays (s s' : Session) : Prop extends Session.KeepsReads s s' where
  drivers : s'.drivers = s.drivers

theorem Session.Stays.refl (s : Session) : s.Stays s := ⟨.refl s, rfl⟩

theorem Session.Stays.trans {s s' s'' : Session} (h : s.Stays s') (h' : s'.Stays s'') : s.Stays s'' :=
  ⟨h.toKeepsReads.trans h'.toKeepsReads, h'.drivers.trans h.drivers⟩

/-- From one world to another nothing was executed, kept or dropped. -/
structure World.Idles {σ : Type} (w w' : World σ) : Prop where
  heap : w.heap.Drains w'.heap
  session : w.session.Stays w'.session
  outside : w'.outside = w.outside

theorem World.Idles.refl {σ : Type} (w : World σ) : w.Idles w := ⟨.refl _, .refl _, rfl⟩

namespace Connection

open Session (current change inHeap)

variable {E : Environment} {α : Type} {w : World E.State} {connection : String} {d : Driver}

theorem ignoresStreams_idles : IgnoresStreams w.Idles :=
  fun _ _ hd hw' => ⟨hw'.heap.trans hd, hw'.session, hw'.outside⟩

theorem keeps_inHeap {step : Step Heap α} (h : ∀ h : Heap, Keeps h.Drains step) :
    Keeps w.Idles (inHeap step : Action E α) := ignoresStreams_idles.keeps_inHeap h

theorem perform_driver (hd : Entries.get? connection w.session.drivers = some d) :
    (driver connection : Action E Driver).perform w = (.ok d, w) := by
  rw [driver, Session.perform_bindCurrent, hd]
  rfl

/-! ## Dialects and marks -/

theorem keeps_makeDialect (connection : String) (d : Driver) :
    Keeps w.Idles (makeDialect connection d : Action E MadeDialect) := by
  refine Keeps.bind Session.keeps_current fun s => ?_
  refine Keeps.bind (Keeps.lift _) fun dialect => ?_
  refine Keeps.bind (Session.triple_change fun w' hw' => ?_) fun _ => Keeps.pure _
  exact ⟨hw'.heap, hw'.session.trans ⟨⟨rfl, rfl, fun _ => ⟨_, _, rfl⟩⟩, rfl⟩, hw'.outside⟩

section

variable (hd : Entries.get? connection w.session.drivers = some d)
include hd

theorem keeps_driver_of_registered : Keeps w.Idles (driver connection : Action E Driver) := by
  intro w' hw'
  have hd' : Entries.get? connection w'.session.drivers = some d := hw'.session.drivers ▸ hd
  rw [perform_driver hd']
  exact hw'

theorem keeps_dialect_of_registered : Keeps w.Idles (dialect connection : Action E Dialect) :=
  keeps_dialect_of (keeps_driver_of_registered hd) fun _ => keeps_makeDialect connection _

theorem keeps_quoteMark_of_registered : Keeps w.Idles (quoteMark connection : Action E String) :=
  keeps_quoteMark_of (keeps_driver_of_registered hd) (keeps_dialect_of_registered hd)

theorem keeps_quote_of_registered (v : Value) : Keeps w.Idles (quote connection v : Action E String) :=
  ignoresStreams_idles.keeps_quote_of (keeps_quoteMark_of_registered hd) v

theorem keeps_rendering_of_registered : Keeps w.Idles (rendering connection : Action E Rendering) :=
  keeps_rendering_of (keeps_dialect_of_registered hd) (keeps_quoteMark_of_registered hd)

end

theorem keeps_rowOf (data : Value) : Keeps w.Idles (Record.rowOf data : Action E Row) :=
  ignoresStreams_idles.keeps_rowOf data

end Connection

end FluentSql

namespace FluentSql

open Step (Keeps Triple perform_bind_ok perform_bind_error)

/-- The connection has its driver, and the dialect of it was made. -/
def Session.IsReady (connection : String) (s : Session) : Prop :=
  (∃ d, Entries.get? connection s.drivers = some d) ∧ ∃ made, Entries.get? connection s.dialects = some made

/-- The sessions differ at most in the dialects that were made. -/
def Session.SameButDialects (s s' : Session) : Prop :=
  ∃ dialects count, s' = { s with dialects := dialects, dialectCount := count }

theorem Session.SameButDialects.refl (s : Session) : s.SameButDialects s := ⟨_, _, rfl⟩

theorem Session.SameButDialects.drivers {s s' : Session} (h : s.SameButDialects s') : s'.drivers = s.drivers := by
  obtain ⟨_, _, rfl⟩ := h
  rfl

namespace Connection

open Session (current inHeap outside)

variable {E : Environment} {α β : Type} {connection : String} {s : Session}

/-- The action only looks at the session and at the heap, some of whose streams it may drain. -/
def LooksFrom (s : Session) (heap : Heap) (action : Action E α) : Prop :=
  ∃ result heap', heap.Drains heap' ∧ ∀ o, action.perform ⟨s, heap, o⟩ = (result, ⟨s, heap', o⟩)

/-- The action only looks, whatever the heap. -/
def Looks (s : Session) (action : Action E α) : Prop := ∀ heap, LooksFrom s heap action

namespace Looks

theorem pure (a : α) : Looks s (pure a : Action E α) := fun heap => ⟨.ok a, heap, .refl _, fun _ => rfl⟩

theorem bind {action : Action E α} {next : α → Action E β} (h : Looks s action) (hnext : ∀ a, Looks s (next a)) :
    Looks s (action >>= next) := by
  intro heap
  obtain ⟨result, heap₁, hd₁, hrun⟩ := h heap
  cases result with
  | error failure => exact ⟨.error failure, heap₁, hd₁, fun o => perform_bind_error (hrun o)⟩
  | ok a =>
      obtain ⟨result, heap₂, hd₂, hrest⟩ := hnext a heap₁
      exact ⟨result, heap₂, hd₁.trans hd₂, fun o => (perform_bind_ok (hrun o)).trans (hrest o)⟩

/-- A step that gives a known result and changes nothing. -/
theorem bindKnown {action : Action E α} {next : α → Action E β} {a : α}
    (h : ∀ heap o, action.perform ⟨s, heap, o⟩ = (.ok a, ⟨s, heap, o⟩)) (hnext : Looks s (next a)) :
    Looks s (action >>= next) := by
  intro heap
  obtain ⟨result, heap', hd, hrun⟩ := hnext heap
  exact ⟨result, heap', hd, fun o => (perform_bind_ok (h heap o)).trans (hrun o)⟩

/-- What looks at the session goes on from this one. -/
theorem bindCurrent {next : Session → Action E α} (h : Looks s (next s)) : Looks s (current >>= next) :=
  bindKnown (fun _ _ => rfl) h

/-- What looks at the heap may go on from any. -/
theorem bindHeap {next : Heap → Action E α} (h : ∀ heap, Looks s (next heap)) :
    Looks s (get >>= fun w => next w.heap) :=
  fun heap => h heap heap

theorem settings (connection : String) : Looks s (settings connection : Action E Settings) :=
  bindCurrent (pure _)

theorem inHeap {step : Step Heap α} (h : ∀ h : Heap, Keeps h.Drains step) :
    Looks s (inHeap step : Action E α) := by
  intro heap
  have hd := (h heap).leaves (Heap.Drains.refl heap)
  rcases hrun : step.perform heap with ⟨result, heap'⟩
  rw [hrun] at hd
  exact ⟨result, heap', hd, fun o => Session.perform_inHeap hrun⟩

/-- What only looks leaves the session and what lies outside as they are, whether it fails or not. -/
theorem leaves {action : Action E α} (h : Looks s action) {w : World E.State} (hs : w.session = s) :
    ∃ heap', w.heap.Drains heap' ∧ (action.perform w).2 = { w with heap := heap' } := by
  obtain ⟨result, heap', hd, hrun⟩ := h w.heap
  subst hs
  exact ⟨heap', hd, congrArg Prod.snd (hrun w.outside)⟩

end Looks

/-! ## How statements are written -/

section

variable (hready : s.IsReady connection)
include hready

theorem looks_driver : Looks s (driver connection : Action E Driver) := by
  obtain ⟨⟨d, hd⟩, -⟩ := hready
  exact fun heap => ⟨.ok d, heap, .refl _, fun o => perform_driver hd⟩

theorem looks_dialect : Looks s (dialect connection : Action E Dialect) := by
  obtain ⟨-, made, hmade⟩ := hready
  refine Looks.bind (Looks.bindCurrent ?_) fun _ => Looks.pure _
  rw [hmade]
  exact Looks.pure made

theorem looks_quoteMark : Looks s (quoteMark connection : Action E String) := by
  have ofDialect : Looks s (do return (← dialect connection).quoteMark : Action E String) :=
    Looks.bind (looks_dialect hready) fun _ => Looks.pure _
  refine Looks.bind (Looks.settings connection) fun settings => ?_
  extract_lets afterDriver
  have hafter : ∀ u, Looks s (afterDriver u) := by
    intro u
    refine Looks.bind (Looks.settings connection) fun settings => ?_
    split
    · split
      · exact ofDialect
      · exact Looks.pure _
    · exact ofDialect
  split
  · refine Looks.bind ?_ hafter
    exact Looks.bind (looks_driver hready) fun _ => Looks.pure _
  · exact hafter ()

theorem looks_rendering : Looks s (rendering connection : Action E Rendering) := by
  refine Looks.bind (looks_dialect hready) fun dialect => ?_
  refine Looks.bind (looks_quoteMark hready) fun mark => ?_
  exact Looks.bind (Looks.settings connection) fun _ => Looks.pure _

end

/-! ## Getting ready -/

/-- A connection with a driver finds its dialect, or has none. Once it was found, the connection is ready, and finding
it again changes nothing. -/
theorem getsReady_dialect {d : Driver} (hd : Entries.get? connection s.drivers = some d) :
    (∃ failure, ∀ heap o, (dialect connection : Action E Dialect).perform ⟨s, heap, o⟩ =
        (.error failure, ⟨s, heap, o⟩)) ∨
      ∃ s' : Session, s'.IsReady connection ∧ s.SameButDialects s' ∧
        ∀ heap o, (dialect connection : Action E Dialect).perform ⟨s, heap, o⟩ =
          (dialect connection : Action E Dialect).perform ⟨s', heap, o⟩ := by
  cases hmade : Entries.get? connection s.dialects with
  | some made => exact .inr ⟨s, ⟨⟨d, hd⟩, made, hmade⟩, .refl s, fun _ _ => rfl⟩
  | none =>
      have hstart : ∀ heap o, (madeDialect connection : Action E MadeDialect).perform ⟨s, heap, o⟩ =
          (makeDialect connection d : Action E MadeDialect).perform ⟨s, heap, o⟩ := by
        intro heap o
        rw [madeDialect, Session.perform_bindCurrent, hmade]
        exact perform_bind_ok (perform_driver hd)
      cases hD : s.knownDialects.create d.kind.dialectName with
      | error failure =>
          refine .inl ⟨failure, fun heap o => perform_bind_error ?_⟩
          exact (hstart heap o).trans (perform_makeDialect_error connection hD)
      | ok D =>
          have hget : Entries.get? connection (s.withDialect connection D).dialects =
              some ⟨s.dialectCount, D⟩ := by simp [Session.withDialect]
          refine .inr ⟨s.withDialect connection D, ⟨⟨d, hd⟩, _, hget⟩, ⟨_, _, rfl⟩, fun heap o => ?_⟩
          have hfirst : (madeDialect connection : Action E MadeDialect).perform ⟨s, heap, o⟩ =
              (.ok ⟨s.dialectCount, D⟩, ⟨s.withDialect connection D, heap, o⟩) :=
            (hstart heap o).trans (perform_makeDialect_ok connection hD)
          have hagain : (madeDialect connection : Action E MadeDialect).perform
              ⟨s.withDialect connection D, heap, o⟩ =
                (.ok ⟨s.dialectCount, D⟩, ⟨s.withDialect connection D, heap, o⟩) := by
            rw [madeDialect, Session.perform_bindCurrent, hget]
            rfl
          rw [dialect, perform_bind_ok hfirst, perform_bind_ok hagain]

/-- How statements are written is found as the dialect is. -/
theorem getsReady_rendering {d : Driver} (hd : Entries.get? connection s.drivers = some d) :
    (∃ failure, ∀ heap o, (rendering connection : Action E Rendering).perform ⟨s, heap, o⟩ =
        (.error failure, ⟨s, heap, o⟩)) ∨
      ∃ s' : Session, s'.IsReady connection ∧ s.SameButDialects s' ∧
        ∀ heap o, (rendering connection : Action E Rendering).perform ⟨s, heap, o⟩ =
          (rendering connection : Action E Rendering).perform ⟨s', heap, o⟩ := by
  rcases getsReady_dialect (E := E) hd with ⟨failure, hfails⟩ | ⟨s', hready, hsame, hrun⟩
  · exact .inl ⟨failure, fun heap o => perform_bind_error (hfails heap o)⟩
  · refine .inr ⟨s', hready, hsame, fun heap o => ?_⟩
    rw [rendering, Step.perform_bind, Step.perform_bind, hrun]

end Connection

end FluentSql
