import FluentSql.Connection.Settings
import FluentSql.Proofs.Step.Triple
/-
# FluentSql.Proofs.Session.Action — triples of actions in a world.

Looking at the session changes nothing, changing it changes nothing else, and what happens in the heap
or outside happens there only.
-/

namespace FluentSql

open Step (Keeps Triple)

variable {E : Environment} {α β : Type}
variable {P : World E.State → Prop} {Q : α → World E.State → Prop} {F : World E.State → Prop}

namespace Session

theorem perform_bindCurrent (next : Session → Action E α) (w : World E.State) :
    (current >>= next).perform w = (next w.session).perform w := rfl

/-- What is done in the heap is done there only. -/
theorem perform_inHeap {step : Step Heap α} {w : World E.State} {result : Except Failure α} {h : Heap}
    (hrun : step.perform w.heap = (result, h)) :
    (inHeap step : Action E α).perform w = (result, { w with heap := h }) := by
  rw [inHeap, Step.perform_onPart, hrun]

theorem perform_outside {transition : E.State → Except Failure α × E.State} {w : World E.State}
    {result : Except Failure α} {s : E.State} (hrun : transition w.outside = (result, s)) :
    (outside transition : Action E α).perform w = (result, { w with outside := s }) := by
  rw [outside, Step.perform_onPart, Step.perform_ofTransition, hrun]

theorem triple_bindCurrent {next : Session → Action E α}
    (h : ∀ w, P w → Triple (· = w) (next w.session) Q F) : Triple P (current >>= next) Q F :=
  fun w hw => h w hw w rfl

theorem triple_change {f : Session → Session} {Q : Unit → World E.State → Prop}
    (h : ∀ w, P w → Q () { w with session := f w.session }) :
    Triple P (change f : Action E Unit) Q F :=
  Triple.modify h

theorem triple_inHeap {step : Step Heap α} {h : Heap} (w : World E.State) (hw : w.heap = h)
    {Q' : α → Heap → Prop} {F' : Heap → Prop} (hstep : Triple (· = h) step Q' F')
    (hok : ∀ a h', Q' a h' → Q a { w with heap := h' })
    (herror : ∀ h', F' h' → F { w with heap := h' }) : Triple (· = w) (inHeap step : Action E α) Q F :=
  Triple.onPart w hstep hw hok herror

theorem triple_outside {transition : E.State → Except Failure α × E.State}
    (hok : ∀ w a s, P w → transition w.outside = (.ok a, s) → Q a { w with outside := s })
    (herror : ∀ w failure s, P w → transition w.outside = (.error failure, s) →
      F { w with outside := s }) :
    Triple P (outside transition : Action E α) Q F := by
  refine Triple.of_states fun w hw => ?_
  have hpart : Triple (· = w.outside) (Step.ofTransition transition)
      (fun a s => transition w.outside = (.ok a, s))
      (fun s => ∃ failure, transition w.outside = (.error failure, s)) := by
    refine Triple.ofTransition ?_ ?_
    · rintro s a s' rfl hrun
      exact hrun
    · rintro s failure s' rfl hrun
      exact ⟨failure, hrun⟩
  refine Triple.onPart w hpart rfl ?_ ?_
  · intro a s hrun
    exact hok w a s hw hrun
  · rintro s ⟨failure, hrun⟩
    exact herror w failure s hw hrun

end Session

namespace Connection

theorem perform_bindSettings {connection : String} (next : Settings → Action E α) (w : World E.State) :
    (settings connection >>= next).perform w = (next (w.session.settingsOf connection)).perform w := rfl

theorem triple_bindSettings {connection : String} {next : Settings → Action E α}
    (h : ∀ w, P w → Triple (· = w) (next (w.session.settingsOf connection)) Q F) :
    Triple P (settings connection >>= next) Q F :=
  fun w hw => h w hw w rfl

end Connection

end FluentSql
