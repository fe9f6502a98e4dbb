import FluentSql.Proofs.Record.Saving
import Mathlib.Data.List.Induction
/-
# FluentSql.Proofs.Record.Insertions — how often a record is inserted.

After a record was made it is saved and edited any number of times, and any of these steps may fail. One
INSERT is accepted before the record is no longer new, and one more for each interrupted save
(`inserts_once_iff`).
-/

namespace FluentSql

open Step (Keeps Triple)

theorem Changes.isNew_setAll (fields : Row) (asSql : Bool) (c : Changes) :
    (c.setAll fields asSql).isNew = c.isNew := by
  unfold setAll
  induction fields generalizing c with
  | nil => rfl
  | cons e fields ih => exact ih _

namespace Record

variable {E : Environment} {ledger : Ledger E} {number : Option Nat} {isNew : Bool} {count : Nat}

/-! ## Steps -/

/-- What is done with a record once it is made: it is saved, fields are written, as values or as SQL
text, and removed. -/
inductive RowStep where
  | save
  | write (key value : Value) (asSql : Bool)
  | remove (key : Value)

namespace RowStep

def action : RowStep → Record.Action E Unit
  | .save => Record.save
  | .write key value asSql => Record.write key value asSql
  | .remove key => Record.remove key

/-- Whether the step is a save that is interrupted. -/
def isInterrupted : RowStep → Scope E → Bool
  | .save, s => Record.isInterrupted s
  | _, _ => false

end RowStep

/-- The scope that some steps leave, whichever of them fail. -/
def after (steps : List RowStep) (s : Scope E) : Scope E :=
  steps.foldl (fun s step => (step.action.perform s).2) s

/-- How many of the steps are interrupted saves. -/
def interruptions : List RowStep → Scope E → Nat
  | [], _ => 0
  | step :: steps, s => (step.isInterrupted s).toNat + interruptions steps (step.action.perform s).2

theorem after_append (steps more : List RowStep) (s : Scope E) :
    after (steps ++ more) s = after more (after steps s) := List.foldl_append

theorem interruptions_append (steps more : List RowStep) (s : Scope E) :
    interruptions (steps ++ more) s = interruptions steps s + interruptions more (after steps s) := by
  induction steps generalizing s with
  | nil => exact (Nat.zero_add _).symm
  | cons step steps ih =>
      show _ + interruptions (steps ++ more) _ = _ + interruptions steps _ + _
      rw [ih, Nat.add_assoc]
      rfl

theorem keeps_write (key value : Value) (asSql : Bool) :
    Keeps (Standing ledger number isNew count) (write key value asSql : Record.Action E Unit) := by
  refine Keeps.bind keeps_heap fun h => ?_
  split
  · exact keeps_changeRow fun c => c.isNew_setAll _ asSql
  · refine Keeps.bind (keeps_inHeap_standing fun h => Heap.keeps_requireKey h key) fun _ => ?_
    exact keeps_changeRow fun _ => rfl

theorem keeps_remove (key : Value) :
    Keeps (Standing ledger number isNew count) (remove key : Record.Action E Unit) := by
  refine Keeps.bind (keeps_inHeap_standing fun h => Heap.keeps_requireKey h key) fun _ => ?_
  exact keeps_changeRow fun _ => rfl

theorem moves_step (hundisturbed : ledger.Undisturbed number) (step : RowStep) {s : Scope E}
    (hs : Standing ledger number isNew count s) :
    Moves ledger number isNew count (step.isInterrupted s) (step.action.perform s).2 := by
  cases step with
  | save => exact moves_save hundisturbed hs
  | write key value asSql => exact Moves.stays ((keeps_write key value asSql).leaves hs)
  | remove key => exact Moves.stays ((keeps_remove key).leaves hs)

/-! ## Runs -/

/-- INSERTs and newness together grow by one for each interruption. -/
theorem Moves.standing {interrupted : Bool} {s : Scope E}
    (h : Moves ledger number isNew count interrupted s) :
    ∃ isNew' count', Standing ledger number isNew' count' s ∧ count ≤ count' ∧
      count' + isNew'.toNat = count + isNew.toNat + interrupted.toNat := by
  cases interrupted with
  | true =>
      obtain ⟨rfl, hs⟩ := h
      exact ⟨true, count + 1, hs, by omega, by simp only [Bool.toNat_true]⟩
  | false =>
      rcases h with hs | ⟨rfl, hs⟩
      · exact ⟨isNew, count, hs, Nat.le_refl _, rfl⟩
      · exact ⟨false, count + 1, hs, by omega, rfl⟩

theorem standing_after (hundisturbed : ledger.Undisturbed number) (steps : List RowStep)
    {s : Scope E} (hs : Standing ledger number isNew count s) :
    ∃ isNew' count', Standing ledger number isNew' count' (after steps s) ∧ count ≤ count' ∧
      count' + isNew'.toNat = count + isNew.toNat + interruptions steps s := by
  induction steps generalizing isNew count s with
  | nil => exact ⟨isNew, count, hs, Nat.le_refl _, rfl⟩
  | cons step steps ih =>
      -- The sum is what one step keeps; the standing after it starts the rest of the run.
      obtain ⟨isNew₁, count₁, hs₁, hle₁, hsum₁⟩ := (moves_step hundisturbed step hs).standing
      obtain ⟨isNew₂, count₂, hs₂, hle₂, hsum₂⟩ := ih hs₁
      refine ⟨isNew₂, count₂, hs₂, Nat.le_trans hle₁ hle₂, ?_⟩
      show _ = _ + ((step.isInterrupted s).toNat + interruptions steps (step.action.perform s).2)
      omega

/-- After each of the steps at most one more INSERT was accepted than before them, and once one was, the
record is not new any more. -/
def InsertsOnce (ledger : Ledger E) (steps : List RowStep) (s : Scope E) : Prop :=
  ∀ done, done <+: steps →
    ledger.inserts (after done s).world.outside ≤ ledger.inserts s.world.outside + 1 ∧
      (ledger.inserts s.world.outside < ledger.inserts (after done s).world.outside →
        (after done s).record.changes.isNew = false)

theorem InsertsOnce.of_append {steps more : List RowStep} {s : Scope E}
    (h : InsertsOnce ledger (steps ++ more) s) : InsertsOnce ledger steps s := by
  intro done hdone
  exact h done (hdone.trans (List.prefix_append _ _))

/-- **A new record is inserted once, whichever saves fail, unless a save is interrupted.** The INSERTs
that are accepted over any run of saves and edits are one for each interrupted save, and one for a record
that is not new any more. -/
theorem inserts_once_iff (ledger : Ledger E) (steps : List RowStep) {s : Scope E}
    (hnew : s.record.changes.isNew = true)
    (hkept : ∀ id, s.number = some id → ∃ r, s.world.heap.cell? id = some (.record r))
    (hundisturbed : ledger.Undisturbed s.number) :
    ledger.inserts (after steps s).world.outside + (after steps s).record.changes.isNew.toNat =
        ledger.inserts s.world.outside + 1 + interruptions steps s ∧
      (InsertsOnce ledger steps s ↔ interruptions steps s = 0) := by
  have hs : Standing ledger s.number true (ledger.inserts s.world.outside) s :=
    ⟨rfl, hnew, rfl, hkept⟩
  have hrun : ∀ done, ledger.inserts s.world.outside ≤ ledger.inserts (after done s).world.outside ∧
      ledger.inserts (after done s).world.outside + (after done s).record.changes.isNew.toNat =
        ledger.inserts s.world.outside + 1 + interruptions done s := by
    intro done
    obtain ⟨isNew, count, hdone, hle, hsum⟩ := standing_after hundisturbed done hs
    rw [hdone.count, hdone.isNew]
    exact ⟨hle, hsum⟩
  refine ⟨(hrun steps).2, ?_, ?_⟩
  · intro honce
    induction steps using List.reverseRecOn with
    | nil => rfl
    | append_singleton steps step ih =>
        have hbefore : interruptions steps s = 0 := ih honce.of_append
        obtain ⟨isNew, count, hbefore', hle, -⟩ := standing_after hundisturbed steps hs
        have hlast := moves_step hundisturbed step hbefore'
        rw [interruptions_append, hbefore, Nat.zero_add]
        cases hinterrupted : step.isInterrupted (after steps s) with
        | false =>
            show (step.isInterrupted (after steps s)).toNat + 0 = 0
            rw [hinterrupted]
            rfl
        | true =>
            -- The last step would leave a record that was inserted and is still new.
            rw [hinterrupted] at hlast
            obtain ⟨-, hlast⟩ := hlast
            obtain ⟨-, hold⟩ := honce (steps ++ [step]) (List.prefix_refl _)
            rw [after_append] at hold
            have hcount : ledger.inserts (after [step] (after steps s)).world.outside = count + 1 :=
              hlast.count
            have hstill : (after [step] (after steps s)).record.changes.isNew = true := hlast.isNew
            rw [hcount, hstill] at hold
            exact absurd (hold (by omega)) (by simp)
  · intro hzero done hdone
    obtain ⟨more, rfl⟩ := hdone
    rw [interruptions_append] at hzero
    obtain ⟨hle, hsum⟩ := hrun done
    have hnone : interruptions done s = 0 := by omega
    rw [hnone, Nat.add_zero] at hsum
    refine ⟨by omega, ?_⟩
    intro hlt
    cases hstill : (after done s).record.changes.isNew with
    | false => rfl
    | true =>
        -- The sum is full with the newness alone, so no INSERT can have been accepted.
        rw [hstill, Bool.toNat_true] at hsum
        omega

/-- A new record whose connection has the given settings, on an outside that counts INSERTs. -/
def onCountingDesk (settings : Settings) : Scope .counting where
  record := { onTable "orders" "default" with changes := { isNew := true } }
  world :=
    { session :=
        { settings := [("default", { settings with quoteMark := some "\x60" })]
          drivers := [("default", ⟨.native "mysql", ⟨0⟩⟩)]
          dialects := [("default", ⟨0, .generic "mysql"⟩)] }
      heap := ⟨[.record (onTable "orders" "default")]⟩
      outside := (0 : Nat) }
  number := some 0

theorem inserts_once_iff_onCountingDesk :
    InsertsOnce .counting [.save, .write (.text "note") (.text "late") false, .save]
        (onCountingDesk {}) ∧
      Ledger.counting.inserts (after [.save, .write (.text "note") (.text "late") false, .save]
        (onCountingDesk {})).world.outside = 1 := by
  have hnone : interruptions [.save, .write (.text "note") (.text "late") false, .save]
      (onCountingDesk {}) = 0 := by decide +kernel
  have hold : (after [.save, .write (.text "note") (.text "late") false, .save]
      (onCountingDesk {})).record.changes.isNew = false := by decide +kernel
  have hempty : Ledger.counting.inserts (onCountingDesk {}).world.outside = 0 := rfl
  have hkept : ∀ id, (onCountingDesk {}).number = some id →
      ∃ r, (onCountingDesk {}).world.heap.cell? id = some (.record r) := by
    rintro _ ⟨⟩
    exact ⟨_, rfl⟩
  obtain ⟨hsum, honce⟩ := inserts_once_iff .counting
    [.save, .write (.text "note") (.text "late") false, .save] rfl hkept (Ledger.undisturbed_counting _)
  rw [hnone, hold, hempty, Bool.toNat_false, Nat.add_zero, Nat.zero_add, Nat.add_zero] at hsum
  exact ⟨honce.2 hnone, hsum⟩

/-- A logger that fails makes the record be inserted again. -/
theorem not_insertsOnce_of_failing_logger :
    ¬ InsertsOnce .counting [.save, .save]
      (onCountingDesk { logging := true, logger := some ⟨0⟩ }) := by
  intro honce
  have htwice : Ledger.counting.inserts (after [.save, .save]
      (onCountingDesk { logging := true, logger := some ⟨0⟩ })).world.outside = 2 := by decide +kernel
  have hle := (honce _ (List.prefix_refl _)).1
  rw [htwice] at hle
  exact absurd hle (by decide)

end Record

end FluentSql
