import FluentSql.Proofs.Connection.Pairing
import FluentSql.Proofs.Operation
import FluentSql.Proofs.Record.Makeup
import Mathlib.Data.Set.Insert
/-
# FluentSql.Proofs.Operation.Pairing — what is asked of a connection, in pairs of worlds.

In a pair of worlds a connection does alike, whatever is asked of it, once reads and the clearing of its cache do so
(`IsFullPairing.mirrors_perform`). A record goes through its calls in two scopes with worlds of a pair, and every call
is made of actions of its connection. Operations that look at options or set them are left to the particular pairing.
-/

namespace FluentSql

open Step (Keeps Mirrors)
open Connection (IsPairing)

variable {E : Environment} {connection : String} {own : Driver → Prop} {α : Type}
variable {I : Set Nat → World E.State → World E.State → Prop} {numbers : Set Nat}

/-- A pairing in which everything is done alike but options. -/
structure IsFullPairing (connection : String) (own : Driver → Prop)
    (I : Set Nat → World E.State → World E.State → Prop) : Prop extends IsPairing connection own I where
  reads : ∀ {numbers} sql params table, Mirrors (I numbers) Eq (Connection.read connection sql params table)
    (Connection.read connection sql params table)
  clears : ∀ {numbers} table, Mirrors (I numbers) Eq (Connection.clearCache table connection)
    (Connection.clearCache table connection)
  forgets : ∀ {numbers}, Mirrors (I numbers) Eq (Connection.forgetDriver connection)
    (Connection.forgetDriver connection)
  sameLog : ∀ {numbers w w'}, I numbers w w' → w.session.log.of connection = w'.session.log.of connection

/-! ## Records -/

namespace Record

/-- Two scopes in the course of a call of one record: the record is of the connection, and the worlds are a pair. -/
structure Scope.IsPair (connection : String) (I : Set Nat → World E.State → World E.State → Prop) (numbers : Set Nat)
    (s s' : Scope E) : Prop where
  record : s.record = s'.record
  number : s.number = s'.number
  own : s.record.connection = connection
  kept : ∀ id, s.number = some id → id ∈ numbers
  world : I numbers s.world s'.world

namespace Scope.IsPair

variable {s s' : Scope E}

theorem published (hI : IsPairing connection own I) (h : s.IsPair connection I numbers s') :
    I numbers s.published s'.published := by
  unfold Scope.published
  rw [← h.number, ← h.record]
  cases hnumber : s.number with
  | none => exact h.world
  | some id =>
      obtain ⟨hheap, hsuits⟩ := hI.sameHeap h.world
      refine hI.withHeap h.world ⟨by rw [hheap], ?_⟩
      exact hsuits.replace_record (h.kept id hnumber) h.own

/-- Whatever happened in the worlds, the record is one of the connection. -/
theorem renewed (hI : IsPairing connection own I) (h : s.IsPair connection I numbers s') {w w' : World E.State}
    (hw : I numbers w w') : (s.renewed w).IsPair connection I numbers (s'.renewed w') := by
  obtain ⟨hheap, hsuits⟩ := hI.sameHeap hw
  unfold Scope.renewed
  rw [← h.number, ← hheap]
  cases hnumber : s.number with
  | none => exact ⟨h.record, rfl, h.own, nofun, hw⟩
  | some id =>
      obtain ⟨r, hr, hown⟩ := hsuits.record id (h.kept id hnumber)
      simp only [Option.bind_some, hr]
      exact ⟨rfl, rfl, hown, fun other hother => h.kept other (hnumber.trans hother), hw⟩

theorem withRecord (h : s.IsPair connection I numbers s') {f : Record → Record}
    (hf : ∀ r : Record, (f r).connection = r.connection) :
    Scope.IsPair connection I numbers { s with record := f s.record } { s' with record := f s'.record } :=
  ⟨congrArg f h.record, h.number, (hf s.record).trans h.own, h.kept, h.world⟩

end Scope.IsPair

/-- The actions that do alike in the worlds of every pair. -/
def paired (I : Set Nat → World E.State → World E.State → Prop) : ActionFamily E := fun _ action R =>
  ∀ numbers, Mirrors (I numbers) (fun a b => a = b ∧ R a) action action

theorem paired_of_eq {action : FluentSql.Action E α} (h : ∀ numbers, Mirrors (I numbers) Eq action action) :
    paired I α action fun _ => True :=
  fun numbers => (h numbers).mono fun _ _ hab => ⟨hab, trivial⟩

theorem coversAll_paired (hI : IsFullPairing connection own I) : CoversAll (· = connection) (paired I) where
  onHeap _ h := paired_of_eq fun _ => hI.mirrors_goingThrough h
  onLength v := paired_of_eq fun _ => hI.mirrors_length v
  onRow data := paired_of_eq fun _ => hI.mirrors_rowOf data
  onSettings hc := by
    subst hc
    exact paired_of_eq fun numbers =>
      (hI.common numbers).mirrors_bindSettings (fun _ => rfl) (fun _ => rfl) fun _ => Mirrors.pure rfl
  onQuote hc identifier := by subst hc; exact paired_of_eq fun _ => hI.mirrors_quote identifier
  onRendering hc := by subst hc; exact paired_of_eq fun numbers => (hI.common numbers).mirrors_rendering
  onTruth v := paired_of_eq fun _ => hI.mirrors_isTrue v
  onFetchRow statement := paired_of_eq fun _ => hI.mirrors_fetchRow statement
  onDialect hc := by subst hc; exact paired_of_eq fun numbers => (hI.common numbers).mirrors_dialect
  onDriver hc := by
    subst hc
    exact ⟨own, fun numbers => (hI.common numbers).mirrors_driver, fun d hd =>
      paired_of_eq fun _ => hI.mirrors_lastInsertId hd⟩
  onExecute hc sql params := by subst hc; exact paired_of_eq fun _ => hI.mirrors_execute sql params
  onRead hc sql params table := by subst hc; exact paired_of_eq fun _ => hI.reads sql params table
  onClearCache hc table := by subst hc; exact paired_of_eq fun _ => hI.clears table

/-- **What is made of actions that do alike in pairs of worlds does alike.** -/
theorem MadeOf.mirrors (hI : IsPairing connection own I) {step : Record.Action E α}
    (h : MadeOf (· = connection) (paired I) step) (numbers : Set Nat) :
    Mirrors (Scope.IsPair connection I numbers) Eq step step := by
  induction h with
  | pure a => exact Mirrors.pure rfl
  | throw failure => exact Mirrors.throw failure
  | bind _ _ ih ihnext => exact Mirrors.bindEq ih ihnext
  | bindCurrent _ ihnext =>
      intro s s' hs
      rw [perform_bindCurrent, perform_bindCurrent, ← hs.record]
      exact ihnext s.record hs.own s s' hs
  | heap => exact fun s s' hs => ⟨(hI.sameHeap (hs.published hI)).1, hs⟩
  | change hf => exact (Mirrors.modify fun s s' hs => hs.withRecord hf).mono fun _ _ _ => rfl
  | bindInWorld h _ ihnext =>
      refine Mirrors.bind (Mirrors.onPart (h numbers) (fun _ _ hs => hs.published hI)
        fun _ _ _ _ hs hw => hs.renewed hI hw) ?_
      rintro a _ ⟨rfl, ha⟩
      exact ihnext a ha
  | @restoring _ step f _ hf ih =>
      intro s s' hs
      have hleft := ih s s' hs
      rw [Step.perform_andThenAlways, Step.perform_andThenAlways]
      rcases hrun : step.perform s with ⟨result, t⟩
      rcases hrun' : step.perform s' with ⟨result', t'⟩
      rw [hrun, hrun'] at hleft
      cases result <;> cases result'
      · exact ⟨hleft.1, hleft.2.withRecord hf⟩
      · exact hleft
      · exact hleft
      · exact ⟨hleft.1, hleft.2.withRecord hf⟩

theorem mirrors_act (hI : IsFullPairing connection own I) {id : Nat} (hid : id ∈ numbers) {r : Record}
    (hr : r.connection = connection) (call : Call) :
    Mirrors (I numbers) Eq (act id r (perform call) : FluentSql.Action E Outcome) (act id r (perform call)) := by
  refine Mirrors.onPart (((coversAll_paired hI).madeOf_perform call).mirrors hI.toIsPairing numbers) ?_ ?_
  · intro w w' hw
    exact ⟨rfl, rfl, hr, fun other hother => Option.some.inj hother ▸ hid, hw⟩
  · exact fun _ _ _ _ _ hs => hs.published hI.toIsPairing

end Record

/-! ## Operations -/

namespace Operation

theorem mirrors_newRecord (hI : IsPairing connection own I) (r : Record) :
    Mirrors (I numbers) Eq (Object.newRecord r : Action E Value) (Object.newRecord r) :=
  hI.mirrors_inHeap fun _ => Heap.keeps_suits_add nofun

theorem mirrors_shareOutcome (hI : IsPairing connection own I) (self : Value) (outcome : Record.Outcome) :
    Mirrors (I numbers) Eq (Object.shareOutcome self outcome : Action E Value) (Object.shareOutcome self outcome) := by
  have hnew : ∀ rs : List Record, Mirrors (I numbers) Eq (rs.mapM Object.newRecord : Action E (List Value))
      (rs.mapM Object.newRecord) := fun rs => Mirrors.mapM_same fun r _ => mirrors_newRecord hI r
  cases outcome with
  | itself | value => exact Mirrors.pure rfl
  | record found =>
      cases found with
      | none => exact Mirrors.pure rfl
      | some r => exact mirrors_newRecord hI r
  | records rs => exact Mirrors.bindEq (hnew rs) fun _ => Mirrors.pure rfl
  | resultSet rs =>
      refine Mirrors.bindEq (hnew rs) fun records => hI.mirrors_inHeap fun _ => ?_
      refine Keeps.bind (Heap.keeps_suits_add (by simp)) fun list => ?_
      split
      · exact Heap.keeps_suits_add (by simp)
      · exact Keeps.pure _
  | sql sql =>
      refine Mirrors.bindEq (hI.mirrors_inHeap fun _ => Heap.keeps_suits_share _) fun params => ?_
      exact hI.mirrors_inHeap fun _ => Heap.keeps_suits_add (by simp)

theorem mirrors_callRecord (hI : IsFullPairing connection own I) (number : Nat) (asked : Record.Call) :
    Mirrors (I numbers) Eq (callRecord connection number asked : Action E Value)
      (callRecord connection number asked) := by
  intro w w' hw
  obtain ⟨hheap, hsuits⟩ := hI.sameHeap hw
  have hget : ∀ u : World E.State, (get : Action E (World E.State)).perform u = (.ok u, u) := fun _ => rfl
  rw [callRecord, Step.perform_bind_ok (hget w), Step.perform_bind_ok (hget w'), ← hheap]
  split
  · rename_i r hr
    split
    · rename_i hown
      -- Once the record was found, it stays a record of the connection, whatever the call does.
      have hfound : I (insert number numbers) w w' := by
        refine hI.withHeap hw ⟨hheap, hsuits.noCache, ?_⟩
        rintro id (rfl | hid)
        · exact ⟨r, hr, hown⟩
        · exact hsuits.record id hid
      have hcall : Mirrors (I (insert number numbers)) Eq
          (Record.act number r (Record.perform asked) >>= Object.shareOutcome (.ref number) : Action E Value)
          (Record.act number r (Record.perform asked) >>= Object.shareOutcome (.ref number)) :=
        Mirrors.bindEq (Record.mirrors_act hI (Set.mem_insert _ _) hown asked) fun outcome =>
          mirrors_shareOutcome hI.toIsPairing _ outcome
      exact (hcall w w' hfound).mono (fun _ _ h => h) fun _ _ h =>
        hI.mono (fun id hid => Set.mem_insert_of_mem _ hid) h
    · exact ⟨rfl, hw⟩
  · exact ⟨rfl, hw⟩

/-- The operation looks at options or sets them. -/
def IsOnOptions : Operation → Prop
  | .configure _ _ | .setting _ | .allSettings => True
  | _ => False

/-- **Whatever is asked of a connection, it does alike in the worlds of a pair**, if what it is asked about options
does so, and drivers that it is given are of the kind of the pairing. -/
theorem mirrors_perform (hI : IsFullPairing connection own I) {operation : Operation}
    (hown : ∀ d, operation = .setDriver (some d) → own d)
    (hoptions : operation.IsOnOptions →
      Mirrors (I numbers) Eq (operation.perform connection : Action E Answer) (operation.perform connection)) :
    Mirrors (I numbers) Eq (operation.perform connection : Action E Answer) (operation.perform connection) := by
  have hcommon := hI.common numbers
  have hlog : ∀ {f : QueryLog → Answer},
      (∀ log log' : QueryLog, log.of connection = log'.of connection → f log = f log') →
      Mirrors (I numbers) Eq (do return f (← Session.current).log : Action E Answer)
        (do return f (← Session.current).log) := fun hf =>
    Connection.IsCommon.mirrors_bindCurrent fun w w' hw => Mirrors.pure (hf _ _ (hI.sameLog hw))
  match operation with
  | .configure key value => exact hoptions trivial
  | .setting key => exact hoptions trivial
  | .allSettings => exact hoptions trivial
  | .setDriver (some d) =>
      exact Mirrors.bind (hcommon.mirrors_registerDriver (hown d rfl)) fun _ _ _ => Mirrors.pure rfl
  | .setDriver none => exact Mirrors.bindEq hI.forgets fun _ => Mirrors.pure rfl
  | .driver =>
      refine Mirrors.bind hcommon.mirrors_driver ?_
      rintro d _ ⟨rfl, -⟩
      exact Mirrors.pure rfl
  | .rendering => exact Mirrors.bindEq hcommon.mirrors_rendering fun _ => Mirrors.pure rfl
  | .quote identifier => exact Mirrors.bindEq (hI.mirrors_quote identifier) fun _ => Mirrors.pure rfl
  | .forTable table =>
      refine Mirrors.bindEq ?_ fun _ => Mirrors.pure rfl
      refine Mirrors.bind (R := Eq) (Mirrors.bind hcommon.mirrors_driver fun _ _ _ => Mirrors.pure rfl) fun _ _ _ => ?_
      exact mirrors_newRecord hI.toIsPairing _
  | .call number asked => exact Mirrors.bindEq (mirrors_callRecord hI number asked) fun _ => Mirrors.pure rfl
  | .execute sql params => exact Mirrors.bindEq (hI.mirrors_execute sql params) fun _ => Mirrors.pure rfl
  | .clearCache table => exact Mirrors.bindEq (hI.clears table) fun _ => Mirrors.pure rfl
  | .queryLog => exact hlog (f := fun log => Answer.value (.list (log.of connection))) fun _ _ h => by rw [h]
  | .lastQuery =>
      exact hlog (f := fun log => Answer.value (log.lastOf connection)) fun _ _ h => by
        rw [QueryLog.lastOf, QueryLog.lastOf, h]

end Operation

end FluentSql
