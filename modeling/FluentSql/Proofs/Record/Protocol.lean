import FluentSql.Proofs.Changes.Consistency
import FluentSql.Proofs.Connection.Wire
import FluentSql.Proofs.Record.Independence
import FluentSql.Proofs.Record.Submissions
/-
# FluentSql.Proofs.Record.Protocol — what saves send, over whole runs.

A save that returns has sent one statement if the record was new or dirty, and otherwise it has done nothing
(`save_untouched`); afterwards the record is neither. What makes a record new is that it is created, and only a save ends
that. So over a run of edits and saves the statement of a save is an INSERT exactly if the record was created since
the last save (`save_protocol`).
-/

namespace FluentSql

open Step (Keeps Triple perform_bind_ok perform_bind_error)
open Connection (IgnoresDrivers)

namespace Record

variable {E : Environment} {wire : Wire E} {α : Type}

/-! ## Nothing to save -/

/-- Nothing happened to a record, or in its world, but that its connection may have found a driver and a dialect. -/
structure Scope.IsUntouched (wire : Wire E) (s s' : Scope E) : Prop where
  record : s'.record = s.record
  number : s'.number = s.number
  heap : s'.published.heap = s.published.heap
  session : s.world.session.SameButDrivers s'.world.session
  traffic : wire.traffic s'.world.outside = wire.traffic s.world.outside

theorem Scope.IsUntouched.refl (s : Scope E) : s.IsUntouched wire s := ⟨rfl, rfl, rfl, .refl _, rfl⟩

/-- A world that a record left untouched. -/
structure World.IsUntouched (wire : Wire E) (s : Scope E) (w : World E.State) : Prop where
  heap : w.heap = s.published.heap
  session : s.world.session.SameButDrivers w.session
  traffic : wire.traffic w.outside = wire.traffic s.world.outside

theorem ignoresDrivers_isUntouched (s : Scope E) : IgnoresDrivers (World.IsUntouched wire s) where
  session hs hw := ⟨hw.heap, hw.session.trans hs, hw.traffic⟩
  connect opening _ hw := ⟨hw.heap, hw.session, (wire.connect opening _).trans hw.traffic⟩

variable {s : Scope E} {number : Option Nat} {isNew : Bool}

theorem keeps_inWorld_untouched {action : FluentSql.Action E α} (h : Keeps (World.IsUntouched wire s) action) :
    Keeps (s.IsUntouched wire) (inWorld action) := by
  refine Triple.of_states fun t ht => ?_
  have hpublished : World.IsUntouched wire s t.published :=
    ⟨ht.heap, t.session_published ▸ ht.session, t.outside_published ▸ ht.traffic⟩
  have hrenewed : ∀ w, World.IsUntouched wire s w → s.IsUntouched wire (t.renewed w) := by
    intro w hw
    have hd : t.published.heap.Drains w.heap := by
      rw [hw.heap, ht.heap]
      exact .refl _
    obtain ⟨hrecord, hnumber, hheap⟩ := Scope.renewed_eq hd
    refine ⟨hrecord.trans ht.record, hnumber.trans ht.number, ?_, ?_, ?_⟩
    · rw [hheap, hw.heap]
    · rw [t.world_renewed]
      exact hw.session
    · rw [t.world_renewed]
      exact hw.traffic
  exact Triple.onPart t h hpublished (fun _ w hw => hrenewed w hw) hrenewed

theorem keeps_rendering_untouched : Keeps (s.IsUntouched wire) (rendering : Record.Action E Rendering) := by
  refine triple_bindCurrent fun t ht => ?_
  have hkeeps : Keeps (s.IsUntouched wire) (inWorld (Connection.rendering t.record.connection)) :=
    keeps_inWorld_untouched ((ignoresDrivers_isUntouched s).keeps_rendering _)
  exact hkeeps.pre fun _ h => h ▸ ht

theorem keeps_key_untouched : Keeps (s.IsUntouched wire) (key : Record.Action E KeyColumns) := by
  refine triple_bindCurrent fun t ht => ?_
  have hkeeps : Keeps (s.IsUntouched wire) (inWorld (Connection.settings t.record.connection)) :=
    keeps_inWorld_untouched (Session.keeps_settings _)
  split
  · exact Triple.pure fun _ h => h ▸ ht
  · refine Triple.bind (hkeeps.pre fun _ h => h ▸ ht) fun _ => ?_
    exact fun _ h => h

/-- A record that is neither new nor edited has no statement to send. -/
theorem triple_pendingWrite_untouched (hold : s.record.changes.isNew = false)
    (hclean : s.record.changes.hasChanges = false) :
    Triple (s.IsUntouched wire) (pendingWrite : Record.Action E (Option (List Value × Sql)))
      (fun pending s' => s.IsUntouched wire s' ∧ pending = none) (s.IsUntouched wire) := by
  refine Triple.bind keeps_rendering_untouched fun rendering => Triple.bind keeps_key_untouched fun key => ?_
  refine triple_bindCurrent fun t ht => ?_
  rw [ht.record, if_neg (by simp [hold]), if_neg (by simp [hclean])]
  exact Triple.pure fun _ h => ⟨h ▸ ht, rfl⟩

/-- A record that is new or edited has one. -/
theorem triple_pendingWrite_isSome (hpending : s.record.changes.isNew = true ∨ s.record.changes.hasChanges = true) :
    Triple (s.IsUntouched wire) (pendingWrite : Record.Action E (Option (List Value × Sql)))
      (fun pending _ => pending.isSome = true) fun _ => True := by
  have hsome : ∀ (keyColumns : List Value) (writing : Record.Action E Sql) (P : Scope E → Prop),
      Triple P (do return some (keyColumns, ← writing) : Record.Action E (Option (List Value × Sql)))
        (fun pending _ => pending.isSome = true) fun _ => True := fun _ _ _ =>
    Triple.bind Triple.anything fun _ => Triple.pure fun _ _ => rfl
  refine Triple.bind keeps_rendering_untouched.ifReturns fun rendering => ?_
  refine Triple.bind keeps_key_untouched.ifReturns fun key => ?_
  refine triple_bindCurrent fun t ht => ?_
  rw [ht.record]
  dsimp only
  split
  · exact hsome _ _ _
  · rename_i hnew
    rw [if_pos (hpending.resolve_left hnew)]
    exact hsome _ _ _

/-- **A save of a record that is neither new nor edited does nothing**, whether it returns or not. -/
theorem save_untouched (hold : s.record.changes.isNew = false) (hclean : s.record.changes.hasChanges = false) :
    Keeps (s.IsUntouched wire) (save : Record.Action E Unit) := by
  rw [save_eq]
  refine Triple.bindKnown (triple_pendingWrite_untouched hold hclean) fun pending hnone => ?_
  subst hnone
  exact Keeps.pure ()

/-! ## One statement -/

section

variable {number : Option Nat} {start : String} {traffic : List (Sent × Bool)} {isNew : Bool} {count : Nat}

/-- A silent step leaves the wire as it is. -/
theorem triple_silent (hundisturbed : wire.Undisturbed number) {step : Record.Action E α} (h : Silent Scope.world step) :
    Triple (fun s : Scope E => wire.Carried start traffic s.world) step
      (fun _ s => wire.Carried start traffic s.world) fun _ => True := by
  have hkeeps := h.keeps (Wire.isQuiet_traffic hundisturbed fun t =>
    ∃ sent, t = traffic ++ [(sent, true)] ∧ Ledger.StartsWith start sent.text)
  exact hkeeps.ifReturns

/-- A save sends its statement and nothing else. -/
theorem triple_saveWith_carried (hundisturbed : wire.Undisturbed number)
    (hstart : start.toList.all Literal.isOrdinary = true) (hpercent : '%' ∉ start.toList) {sql : Sql}
    (hsql : Ledger.StartsWith start sql.text) (keyColumns : List Value) :
    Triple (fun s : Scope E => wire.traffic s.world.outside = traffic) (saveWith keyColumns sql)
      (fun _ s => wire.Carried start traffic s.world) fun _ => True := by
  have hexecute : Triple (fun s : Scope E => wire.traffic s.world.outside = traffic) (executeWrite sql)
      (fun _ s => wire.Carried start traffic s.world) fun _ => True := by
    refine triple_bindCurrent fun s hs => ?_
    have hsent : Triple (fun w => wire.traffic w.outside = traffic)
        (Connection.execute s.record.connection sql.text sql.params.toValue)
        (fun _ => wire.Carried start traffic) fun _ => True :=
      Connection.triple_execute_carried hundisturbed hstart hpercent hsql _ _
    refine Triple.bind (R := fun _ t => wire.Carried start traffic t.world)
      (Triple.onPart s hsent (s.outside_published ▸ hs) ?_ fun _ _ => trivial) fun statement => ?_
    · intro _ w hw
      rw [s.world_renewed]
      exact hw
    · exact Triple.bind (triple_silent hundisturbed silent_autoClearCache) fun _ => Triple.pure fun _ h => h
  exact Triple.bind hexecute fun statement => triple_silent hundisturbed (silent_finishSave keyColumns statement)

/-- After its statement was executed the record is neither new nor edited. -/
theorem triple_finishSave {ledger : Ledger E} (keyColumns : List Value) (statement : Statement) :
    Triple (Standing ledger number isNew count) (finishSave keyColumns statement)
      (fun _ s => Standing ledger number false count s ∧ s.record.changes.dirty = [] ∧
        s.record.changes.inlined = []) fun _ => True := by
  have hclean : Triple (Standing ledger number false count) (changeRow Changes.markClean : Record.Action E Unit)
      (fun _ s => Standing ledger number false count s ∧ s.record.changes.dirty = [] ∧
        s.record.changes.inlined = []) fun _ => True :=
    Triple.modify fun s hs => ⟨⟨hs.numbered, hs.isNew, hs.count, hs.kept⟩, rfl, rfl⟩
  refine triple_bindCurrent fun s hs => ?_
  split
  · have hold : Triple (Standing ledger number isNew count)
        (changeRow fun c => { c with isNew := false } : Record.Action E Unit)
        (fun _ => Standing ledger number false count) _ := triple_changeRow fun _ _ => rfl
    refine Triple.bind (hold.ifReturns.pre fun t ht => ht ▸ hs) fun _ => ?_
    refine Triple.bind keeps_nullKeyCount.ifReturns fun nulls => ?_
    split
    · exact Triple.bind (keeps_fillKey keyColumns statement).ifReturns fun _ => hclean
    · exact hclean
  · rename_i hnew
    obtain rfl : isNew = false := hs.isNew.symm.trans (by simpa using hnew)
    exact hclean.pre fun t ht => ht ▸ hs

end

/-- The record has been saved: it is in its place, and neither new nor edited. -/
structure Scope.IsSaved (number : Option Nat) (s : Scope E) : Prop where
  numbered : s.number = number
  kept : ∀ id, number = some id → ∃ r, s.world.heap.cell? id = some (.record r)
  isNew : s.record.changes.isNew = false
  dirty : s.record.changes.dirty = []
  inlined : s.record.changes.inlined = []

theorem triple_saveWith_saved {ledger : Ledger E} {number : Option Nat} (hundisturbed : ledger.Undisturbed number)
    {isNew : Bool} {count : Nat} {sql : Sql} (hsql : Ledger.Announces sql.text isNew) (keyColumns : List Value) :
    Triple (Standing ledger number isNew count) (saveWith keyColumns sql : Record.Action E Unit)
      (fun _ s => s.IsSaved number) fun _ => True := by
  rw [saveWith_eq]
  have hexecute : Triple (Standing ledger number isNew count) (executeWrite sql)
      (fun _ => Standing ledger number isNew (count + isNew.toNat)) fun _ => True :=
    Triple.of_states fun s hs => ((triple_executeWrite hundisturbed hsql hs).post fun _ _ h => h.2).ifReturns
  refine Triple.bind hexecute fun statement => (triple_finishSave keyColumns statement).post ?_
  rintro _ s ⟨hs, hdirty, hinlined⟩
  exact ⟨hs.numbered, hs.kept, hs.isNew, hdirty, hinlined⟩

theorem isOrdinary_verb (isNew : Bool) : (verb isNew).toList.all Literal.isOrdinary = true := by
  cases isNew <;> decide

theorem percent_notMem_verb (isNew : Bool) : '%' ∉ (verb isNew).toList := by
  cases isNew <;> decide

/-- **A save of a record that is new or edited sends one statement**, and leaves the record saved if it returns. -/
theorem save_pending (hundisturbed : wire.Undisturbed s.number)
    (hkept : ∀ id, s.number = some id → ∃ r, s.world.heap.cell? id = some (.record r))
    (hpending : s.record.changes.isNew = true ∨ s.record.changes.hasChanges = true) :
    Triple (· = s) (save : Record.Action E Unit)
      (fun _ s' => wire.Carried (verb s.record.changes.isNew) (wire.traffic s.world.outside) s'.world ∧
        s'.IsSaved s.number) fun _ => True := by
  have hstanding : Standing wire.ledger s.number s.record.changes.isNew (wire.ledger.inserts s.world.outside) s :=
    ⟨rfl, rfl, rfl, hkept⟩
  intro t ht
  subst t
  rw [save_eq]
  rcases hrun : (pendingWrite : Record.Action E (Option (List Value × Sql))).perform s with ⟨failure | pending, t⟩
  · rw [perform_bind_error hrun]
    trivial
  rw [perform_bind_ok hrun]
  obtain ⟨hstands, hverb⟩ := triple_pendingWrite.of_ok hstanding hrun
  have hself : s.IsUntouched wire s := .refl s
  have hsome := (triple_pendingWrite_isSome hpending).of_ok hself hrun
  have hquiet := Wire.isQuiet_traffic hundisturbed (· = wire.traffic s.world.outside)
  have htraffic := (silent_pendingWrite.keeps hquiet).of_ok rfl hrun
  obtain ⟨⟨keyColumns, sql⟩, rfl⟩ := Option.isSome_iff_exists.1 hsome
  have hsql := hverb keyColumns sql rfl
  have hsent := triple_saveWith_carried hundisturbed (isOrdinary_verb _) (percent_notMem_verb _) hsql keyColumns
    t htraffic
  have hsaved := triple_saveWith_saved hundisturbed.ledger (announces_of_verb hsql) keyColumns t hstands
  rcases hsave : (saveWith keyColumns sql : Record.Action E Unit).perform t with ⟨failure | _, s'⟩
  · trivial
  · rw [hsave] at hsent hsaved
    exact ⟨hsent, hsaved⟩

/-! ## Edits -/

/-- The record is in its place and new or not, and none of its fields is inlined without being dirty. -/
structure Scope.Sits (number : Option Nat) (isNew : Bool) (s : Scope E) : Prop where
  numbered : s.number = number
  kept : ∀ id, number = some id → ∃ r, s.world.heap.cell? id = some (.record r)
  isNew : s.record.changes.isNew = isNew
  sound : s.record.changes.IsSound

theorem Scope.IsSaved.sits {number : Option Nat} {s : Scope E} (hs : s.IsSaved number) : s.Sits number false :=
  ⟨hs.numbered, hs.kept, hs.isNew, .of_inlined_eq_nil hs.inlined⟩

/-- What is done with a record by the protocol of saving: it is created, its fields are written, removed, replaced or
made dirty, and it is saved. -/
def Handling.editsOrSaves : Handling → Bool
  | .call (.create _) | .call (.hydrate _) | .call .forceAllDirty | .call (.write _ _ _) | .call .save
  | .remove _ => true
  | _ => false

section

variable {number : Option Nat} {isNew : Bool}

/-- What executes nothing leaves the record as it is. -/
theorem keeps_inWorld_sits {action : FluentSql.Action E α} (h : ∀ w : World E.State, Keeps w.Idles action) :
    Keeps (Scope.Sits number isNew) (inWorld action) := by
  refine Triple.of_states fun s hs => ?_
  have hrenewed : ∀ w, s.published.Idles w → (s.renewed w).Sits number isNew := by
    intro w hw
    obtain ⟨hrecord, hnumber, -⟩ := Scope.renewed_eq hw.heap
    refine ⟨hnumber.trans hs.numbered, fun id hid => ?_, hrecord ▸ hs.isNew, hrecord ▸ hs.sound⟩
    obtain ⟨r, hr⟩ := hs.kept id hid
    rw [s.world_renewed]
    exact ⟨s.record, hw.heap.cell?_record (Scope.cell?_published (hs.numbered.trans hid) hr)⟩
  exact Triple.onPart s (h s.published) (.refl _) (fun _ w hw => hrenewed w hw) hrenewed

theorem triple_changeRow_sits {f : Changes → Changes} {after : Bool} {F : Scope E → Prop}
    (hf : ∀ c : Changes, c.isNew = isNew → c.IsSound → (f c).isNew = after ∧ (f c).IsSound) :
    Triple (Scope.Sits number isNew) (changeRow f : Record.Action E Unit) (fun _ => Scope.Sits number after) F :=
  Triple.modify fun s hs =>
    ⟨hs.numbered, hs.kept, (hf s.record.changes hs.isNew hs.sound).1, (hf s.record.changes hs.isNew hs.sound).2⟩

theorem sits_hydrate (data : Value) :
    Triple (Scope.Sits number isNew) (hydrate data : Record.Action E Unit) (fun _ => Scope.Sits number isNew)
      fun _ => True :=
  Triple.bind (keeps_inWorld_sits fun _ => Connection.keeps_rowOf data).ifReturns fun _ =>
    triple_changeRow_sits fun _ hnew hsound => ⟨hnew, hsound⟩

theorem sits_forceAllDirty :
    Triple (Scope.Sits number isNew) (changeRow Changes.forceAllDirty : Record.Action E Unit)
      (fun _ => Scope.Sits number isNew) fun _ => True :=
  triple_changeRow_sits fun c hnew _ => ⟨hnew, c.isSound_forceAllDirty⟩

/-- A record is new once it is created. -/
theorem sits_create (data : Value) :
    Triple (Scope.Sits number isNew) (create data : Record.Action E Unit) (fun _ => Scope.Sits number true)
      fun _ => True := by
  refine Triple.bind (triple_changeRow_sits fun _ _ hsound => ⟨rfl, hsound⟩) fun _ => ?_
  split
  · exact Triple.pure fun _ hs => hs
  · exact Triple.bind (sits_hydrate data) fun _ => sits_forceAllDirty

theorem sits_write (key value : Value) (asSql : Bool) :
    Triple (Scope.Sits number isNew) (write key value asSql : Record.Action E Unit)
      (fun _ => Scope.Sits number isNew) fun _ => True := by
  refine Triple.bind (R := fun _ => Scope.Sits number isNew) (fun _ hs => hs) fun h => ?_
  split
  · exact triple_changeRow_sits fun c hnew hsound => ⟨(c.isNew_setAll _ asSql).trans hnew, hsound.setAll _ asSql⟩
  · have hkey : Keeps (Scope.Sits number isNew) (inHeap (Heap.requireKey key) : Record.Action E Unit) :=
      keeps_inWorld_sits fun _ => Connection.keeps_inHeap fun h => Heap.keeps_requireKey h key
    exact Triple.bind hkey.ifReturns fun _ =>
      triple_changeRow_sits fun c hnew hsound => ⟨hnew, hsound.set key value asSql⟩

theorem sits_remove (key : Value) :
    Triple (Scope.Sits number isNew) (remove key : Record.Action E Unit) (fun _ => Scope.Sits number isNew)
      fun _ => True := by
  have hkey : Keeps (Scope.Sits number isNew) (inHeap (Heap.requireKey key) : Record.Action E Unit) :=
    keeps_inWorld_sits fun _ => Connection.keeps_inHeap fun h => Heap.keeps_requireKey h key
  exact Triple.bind hkey.ifReturns fun _ => triple_changeRow_sits fun c hnew hsound => ⟨hnew, hsound.unset key⟩

end

/-! ## Saves -/

/-- Whatever it did, a save that returns leaves the record saved. -/
theorem save_saved (hundisturbed : wire.Undisturbed number) (hs : s.Sits number isNew) :
    Triple (· = s) (save : Record.Action E Unit) (fun _ s' => s'.IsSaved number) fun _ => True := by
  obtain rfl := hs.numbered
  by_cases hpending : s.record.changes.isNew = true ∨ s.record.changes.hasChanges = true
  · exact (save_pending hundisturbed hs.kept hpending).post fun _ _ h => h.2
  rw [not_or, Bool.not_eq_true, Bool.not_eq_true] at hpending
  obtain ⟨hold, hclean⟩ := hpending
  intro t ht
  subst t
  rw [save_eq]
  rcases hrun : (pendingWrite : Record.Action E (Option (List Value × Sql))).perform s with ⟨failure | pending, t⟩
  · rw [perform_bind_error hrun]
    trivial
  have hstanding : Standing wire.ledger s.number false (wire.ledger.inserts s.world.outside) s :=
    ⟨rfl, hold, rfl, hs.kept⟩
  have hself : s.IsUntouched wire s := .refl s
  obtain ⟨huntouched, rfl⟩ := (triple_pendingWrite_untouched hold hclean).of_ok hself hrun
  have hstands := (triple_pendingWrite.of_ok hstanding hrun).1
  rw [perform_bind_ok hrun]
  rw [← huntouched.record] at hclean
  obtain ⟨hdirty, hinlined⟩ := Changes.eq_nil_of_hasChanges_eq_false hclean
  exact ⟨hstands.numbered, hstands.kept, hstands.isNew, hdirty, hinlined⟩

/-! ## Runs -/

/-- No step of the run fails. -/
def Returns : List Handling → Scope E → Prop
  | [], _ => True
  | step :: run, s => (step.action.perform s).1.isOk ∧ Returns run (step.action.perform s).2

theorem returns_append (run more : List Handling) (s : Scope E) :
    Returns (run ++ more) s ↔ Returns run s ∧ Returns more (handled run s) := by
  induction run generalizing s with
  | nil => exact ⟨fun h => ⟨trivial, h⟩, fun h => h.2⟩
  | cons step run ih =>
      rw [List.cons_append, Returns, Returns, ih, and_assoc]
      rfl

/-- The record was created after the last save of the run. -/
def CreatedSinceSave (run : List Handling) : Prop :=
  ∃ earlier data later, run = earlier ++ .call (.create data) :: later ∧ .call .save ∉ later

theorem createdSinceSave_concat_create (run : List Handling) (data : Value) :
    CreatedSinceSave (run ++ [.call (.create data)]) := ⟨run, data, [], rfl, by simp⟩

/-- A step that creates nothing leaves it so, unless it is a save. -/
theorem createdSinceSave_concat {step : Handling} (hstep : ∀ data, step ≠ .call (.create data)) (run : List Handling) :
    CreatedSinceSave (run ++ [step]) ↔ CreatedSinceSave run ∧ step ≠ .call .save := by
  constructor
  · rintro ⟨earlier, data, later, hrun, hlater⟩
    rcases List.eq_nil_or_concat later with rfl | ⟨later, last, rfl⟩
    · -- The step itself would create the record.
      have hlast := List.append_inj_right' hrun rfl
      exact absurd (List.singleton_injective hlast) (hstep data)
    · rw [List.concat_eq_append] at hrun hlater
      have hsplit : run ++ [step] = (earlier ++ .call (.create data) :: later) ++ [last] := by
        rw [hrun, List.append_assoc, List.cons_append]
      obtain ⟨hbefore, hlast⟩ := List.append_inj' hsplit rfl
      obtain rfl := List.singleton_injective hlast
      rw [List.mem_append, not_or, List.mem_singleton] at hlater
      exact ⟨⟨earlier, data, later, hbefore, hlater.1⟩, Ne.symm hlater.2⟩
  · rintro ⟨⟨earlier, data, later, rfl, hlater⟩, hsave⟩
    refine ⟨earlier, data, later ++ [step], by rw [List.append_assoc, List.cons_append], ?_⟩
    rw [List.mem_append, not_or, List.mem_singleton]
    exact ⟨hlater, Ne.symm hsave⟩

/-- What one step makes of the newness of the record. -/
def Handling.leavesNew (isNew : Bool) : Handling → Bool
  | .call (.create _) => true
  | .call .save => false
  | _ => isNew

theorem triple_call {call : Call} {step : Record.Action E α} {outcome : α → Outcome}
    (hcall : perform call = (do return outcome (← step) : Record.Action E Outcome)) {P Q : Scope E → Prop}
    (h : Triple P step (fun _ => Q) fun _ => True) :
    Triple P (Handling.call call).action (fun _ => Q) fun _ => True := by
  show Triple P (perform call >>= fun _ => pure PUnit.unit) _ _
  rw [hcall]
  exact Triple.bind (Triple.bind h fun _ => Triple.pure fun _ hs => hs) fun _ => Triple.pure fun _ hs => hs

/-- A step of the protocol that returns keeps the record in its place, and makes it new or not. -/
theorem sits_step (hundisturbed : wire.Undisturbed number) (hs : s.Sits number isNew) {step : Handling}
    (hstep : step.editsOrSaves = true) :
    Triple (· = s) step.action (fun _ s' => s'.Sits number (step.leavesNew isNew)) fun _ => True := by
  have hpre : ∀ t, t = s → t.Sits number isNew := fun t ht => ht ▸ hs
  cases step with
  | remove name => exact (sits_remove name).pre hpre
  | call call =>
      cases call with
      | create data => exact triple_call rfl ((sits_create data).pre hpre)
      | hydrate data => exact triple_call rfl ((sits_hydrate data).pre hpre)
      | forceAllDirty => exact triple_call rfl (sits_forceAllDirty.pre hpre)
      | write key value asSql => exact triple_call rfl ((sits_write key value asSql).pre hpre)
      | save => exact triple_call rfl ((save_saved hundisturbed hs).post fun _ _ h => h.sits)
      | _ => cases hstep

/-- A step makes the record new exactly if it was created since the last save. -/
theorem leavesNew_iff {run : List Handling} (hcreated : isNew = true ↔ CreatedSinceSave run) (step : Handling) :
    step.leavesNew isNew = true ↔ CreatedSinceSave (run ++ [step]) := by
  have hother : ∀ step : Handling, (∀ data, step ≠ .call (.create data)) → step ≠ .call .save →
      (isNew = true ↔ CreatedSinceSave (run ++ [step])) := by
    intro step hcreate hsave
    rw [hcreated, createdSinceSave_concat hcreate]
    exact (and_iff_left hsave).symm
  cases step with
  | remove name => exact hother _ (fun _ => nofun) nofun
  | call call =>
      cases call with
      | create data => exact iff_of_true rfl (createdSinceSave_concat_create run data)
      | save =>
          have hnone : ∀ data, Handling.call .save ≠ .call (.create data) := fun _ => nofun
          rw [createdSinceSave_concat hnone]
          exact iff_of_false Bool.false_ne_true fun h => h.2 rfl
      | _ => exact hother _ (fun _ => nofun) nofun

/-- After a run that returns, a record that was old before is new exactly if it was created since the last save. -/
theorem sits_handled (hundisturbed : wire.Undisturbed number) (hs : s.Sits number false) {run : List Handling}
    (hrun : ∀ step ∈ run, step.editsOrSaves = true) (hreturns : Returns run s) :
    ∃ isNew, (handled run s).Sits number isNew ∧ (isNew = true ↔ CreatedSinceSave run) := by
  induction run using List.reverseRecOn with
  | nil =>
      refine ⟨false, hs, iff_of_false Bool.false_ne_true ?_⟩
      rintro ⟨earlier, _, _, hnil, -⟩
      cases earlier <;> cases hnil
  | append_singleton run step ih =>
      rw [returns_append] at hreturns
      obtain ⟨hbefore, hlast, -⟩ := hreturns
      obtain ⟨isNew, hsits, hcreated⟩ := ih (fun step hstep => hrun step (List.mem_append_left _ hstep)) hbefore
      have hstep := hrun step (List.mem_append_right _ (List.mem_singleton_self step))
      have hleft := sits_step hundisturbed hsits hstep (handled run s) rfl
      refine ⟨step.leavesNew isNew, ?_, leavesNew_iff hcreated step⟩
      rw [handled, List.foldl_append]
      show Scope.Sits _ _ (step.action.perform (handled run s)).2
      rcases hperform : step.action.perform (handled run s) with ⟨failure | _, s'⟩ <;> rw [hperform] at hlast hleft
      · cases hlast
      · exact hleft

theorem not_startsWith_both {sql : Value} (h : Ledger.StartsWith (verb true) sql) :
    ¬ Ledger.StartsWith (verb false) sql := by
  intro h'
  have hinsert := Ledger.isInsert_of_startsWith_insert h
  rw [Ledger.isInsert_of_startsWith_update h'] at hinsert
  cases hinsert

/-- **The save protocol.** On a record that was not new, let a run of creations, edits and saves return, and a save
after it. If the record is new or some field is dirty then, the save sends one statement: an INSERT if the record was
created since the last save of the run, and an UPDATE otherwise. If not, it touches nothing. It leaves the record
neither new nor edited, so that another save touches nothing. -/
theorem save_protocol (hundisturbed : wire.Undisturbed number) (hs : s.Sits number false) {run : List Handling}
    (hrun : ∀ step ∈ run, step.editsOrSaves = true) (hreturns : Returns run s) {s' : Scope E}
    (hsave : save.perform (handled run s) = (.ok (), s')) :
    ((handled run s).record.changes.isNew = true ∨ (handled run s).record.changes.dirty ≠ [] →
      ∃ sent, wire.traffic s'.world.outside = wire.traffic (handled run s).world.outside ++ [(sent, true)] ∧
        (Ledger.StartsWith "INSERT INTO " sent.text ↔ CreatedSinceSave run) ∧
        (Ledger.StartsWith "UPDATE " sent.text ↔ ¬ CreatedSinceSave run)) ∧
      ((handled run s).record.changes.isNew = false ∧ (handled run s).record.changes.dirty = [] →
        (handled run s).IsUntouched wire s') ∧
      s'.IsSaved number ∧ s'.IsUntouched wire (save.perform s').2 := by
  obtain ⟨isNew, hsits, hcreated⟩ := sits_handled hundisturbed hs hrun hreturns
  have hsaved := (save_saved hundisturbed hsits).of_ok rfl hsave
  have hclean : s'.record.changes.hasChanges = false := by
    rw [Changes.hasChanges, hsaved.dirty, hsaved.inlined]
    rfl
  refine ⟨fun hpending => ?_, fun hidle => ?_, hsaved, ?_⟩
  · rw [← hsits.sound.hasChanges_iff] at hpending
    obtain rfl := hsits.numbered
    obtain ⟨⟨sent, htraffic, hsent⟩, -⟩ := (save_pending hundisturbed hsits.kept hpending).of_ok rfl hsave
    refine ⟨sent, htraffic, ?_⟩
    rw [hsits.isNew] at hsent
    rw [← hcreated]
    cases isNew with
    | true => exact ⟨iff_of_true hsent rfl, iff_of_false (not_startsWith_both hsent) (by simp)⟩
    | false => exact ⟨iff_of_false (fun h => not_startsWith_both h hsent) Bool.false_ne_true, iff_of_true hsent (by simp)⟩
  · have hnone : (handled run s).record.changes.hasChanges = false := by
      rw [← Bool.not_eq_true, hsits.sound.hasChanges_iff, not_not]
      exact hidle.2
    exact (save_untouched hidle.1 hnone).of_ok (.refl _) hsave
  · exact (save_untouched hsaved.isNew hclean).leaves (.refl _)

/-- A record of orders that was just made, on an outside that writes down what it is sent. -/
def onTappedDesk : Scope .tapped where
  record := onTable "orders" "default"
  world :=
    { session :=
        { settings := [("default", { quoteMark := some "\x60" })]
          drivers := [("default", ⟨.native "mysql", ⟨0⟩⟩)]
          dialects := [("default", ⟨0, .generic "mysql"⟩)] }
      heap := ⟨[.record (onTable "orders" "default")]⟩
      outside := ([] : List (Sent × Bool)) }
  number := some 0

/-- The record is created, saved, and edited afterwards. -/
def editedAfterSave : List Handling :=
  [.call (.create (.map [(.text "total", .int 3)])), .call .save, .call (.write (.text "note") (.text "NOW()") true)]

theorem save_protocol_editedAfterSave :
    ∃ sent s', save.perform (handled editedAfterSave onTappedDesk) = (.ok (), s') ∧
      Wire.tapped.traffic s'.world.outside =
        Wire.tapped.traffic (handled editedAfterSave onTappedDesk).world.outside ++ [(sent, true)] ∧
      Ledger.StartsWith "UPDATE " sent.text ∧ s'.record.changes.inlined = [] := by
  have hs : onTappedDesk.Sits (some 0) false := by
    refine ⟨rfl, ?_, rfl, .of_inlined_eq_nil rfl⟩
    rintro _ ⟨⟩
    exact ⟨_, rfl⟩
  have hrun : ∀ step ∈ editedAfterSave, step.editsOrSaves = true := by
    simp [editedAfterSave, Handling.editsOrSaves]
  have hreturns : Returns editedAfterSave onTappedDesk := by
    refine ⟨?_, ?_, ?_, trivial⟩ <;> decide +kernel
  have hdirty : (handled editedAfterSave onTappedDesk).record.changes.dirty.isEmpty = false := by decide +kernel
  have hold : ¬ CreatedSinceSave editedAfterSave := by
    have hedit : ∀ data, Handling.call (.write (.text "note") (.text "NOW()") true) ≠ .call (.create data) :=
      fun _ => nofun
    have hcreate : ∀ data, Handling.call .save ≠ .call (.create data) := fun _ => nofun
    intro h
    have hbefore := ((createdSinceSave_concat hedit (editedAfterSave.take 2)).1 h).1
    exact ((createdSinceSave_concat hcreate (editedAfterSave.take 1)).1 hbefore).2 rfl
  have hok : (save.perform (handled editedAfterSave onTappedDesk)).1.isOk = true := by decide +kernel
  rcases hsave : (save : Record.Action .tapped Unit).perform (handled editedAfterSave onTappedDesk) with
    ⟨failure | _, s'⟩ <;> rw [hsave] at hok
  · cases hok
  obtain ⟨hsends, -, hsaved, -⟩ := save_protocol (Wire.undisturbed_tapped _) hs hrun hreturns hsave
  obtain ⟨sent, htraffic, -, hupdate⟩ := hsends (.inr fun h => by rw [h] at hdirty; cases hdirty)
  exact ⟨sent, s', rfl, htraffic, hupdate.2 hold, hsaved.inlined⟩

end Record

end FluentSql
