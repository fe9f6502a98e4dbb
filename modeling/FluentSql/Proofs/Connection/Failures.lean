import FluentSql.Connection.Reads
import FluentSql.Proofs.Session.Action
/-
# FluentSql.Proofs.Connection.Failures — what connections never fail with.

Only a record looks at its key, so nothing that happens below it fails because key columns are null: going through
values does not, and neither does executing a statement, as long as what lies outside never fails so
(`Environment.NeverRefuses`).
-/

namespace FluentSql

/-- Whether the failure tells that key columns are null. -/
def Failure.isNullId : Failure → Bool
  | .nullId _ _ => true
  | _ => false

variable {α β σ τ : Type}

/-- A result that is no refusal of null key columns. -/
def Failure.Spares (result : Except Failure α) : Prop := ∀ failure, result = .error failure → failure.isNullId = false

theorem Failure.Spares.bind {result : Except Failure α} {next : α → Except Failure β} (h : Spares result)
    (hnext : ∀ a, Spares (next a)) : Spares (result >>= next) := by
  intro failure hrun
  cases result with
  | error failure' =>
      cases hrun
      exact h failure rfl
  | ok a => exact hnext a failure hrun

theorem Failure.Spares.mapM {f : α → Except Failure β} (h : ∀ a, Spares (f a)) (items : List α) :
    Spares (items.mapM f) := by
  induction items with
  | nil => exact fun failure hrun => by cases hrun
  | cons item items ih =>
      rw [List.mapM_cons]
      exact (h item).bind fun b => ih.bind fun bs failure hrun => by cases hrun

/-- The step never fails because key columns are null. -/
def Step.NeverRefuses (step : Step σ α) : Prop := ∀ s, Failure.Spares (step.perform s).1

namespace Step.NeverRefuses

theorem pure (a : α) : NeverRefuses (pure a : Step σ α) := fun _ _ h => by cases h

theorem get : NeverRefuses (get : Step σ σ) := fun _ _ h => by cases h

theorem modify (f : σ → σ) : NeverRefuses (modify f : Step σ Unit) := fun _ _ h => by cases h

theorem throw {failure : Failure} (h : failure.isNullId = false) : NeverRefuses (throw failure : Step σ α) := by
  rintro _ _ ⟨⟩
  exact h

theorem lift {result : Except Failure α} (h : Failure.Spares result) :
    NeverRefuses (liftM result : Step σ α) := by
  intro s failure hrun
  cases result with
  | error failure' => exact h failure hrun
  | ok a => cases hrun

theorem bind {step : Step σ α} {next : α → Step σ β} (h : step.NeverRefuses) (hnext : ∀ a, (next a).NeverRefuses) :
    (step >>= next).NeverRefuses := by
  intro s failure hfails
  rcases hrun : step.perform s with ⟨failure' | a, s'⟩
  · rw [perform_bind_error hrun] at hfails
    cases hfails
    exact h s failure (by rw [hrun])
  · rw [perform_bind_ok hrun] at hfails
    exact hnext a s' failure hfails

theorem ofTransition {transition : σ → Except Failure α × σ} (h : ∀ s, Failure.Spares (transition s).1) :
    (ofTransition transition).NeverRefuses := h

theorem onPart {get : σ → τ} {set : τ → σ → σ} {part : Step τ α} (h : part.NeverRefuses) :
    (onPart get set part).NeverRefuses := fun s => h (get s)

theorem mapM {f : α → Step σ β} (h : ∀ a, (f a).NeverRefuses) (items : List α) : (items.mapM f).NeverRefuses := by
  induction items with
  | nil => exact pure []
  | cons item items ih =>
      rw [List.mapM_cons]
      exact (h item).bind fun _ => ih.bind fun _ => pure _

theorem forM {f : α → Step σ PUnit} (h : ∀ a, (f a).NeverRefuses) (items : List α) : (items.forM f).NeverRefuses := by
  induction items with
  | nil => exact pure _
  | cons item items ih => exact (h item).bind fun _ => ih

end Step.NeverRefuses

/-- What lies outside never fails because key columns are null. -/
structure Environment.NeverRefuses (E : Environment) : Prop where
  connect : ∀ opening s, Failure.Spares (E.connect opening s).1
  execute : ∀ link sql params s, Failure.Spares (E.execute link sql params s).1
  fetch : ∀ cursor count s, Failure.Spares (E.fetch cursor count s).1
  insertId : ∀ link s, Failure.Spares (E.insertId link s).1
  call : ∀ hook call, (E.call hook call).NeverRefuses

open Step (NeverRefuses)

/-! ## Going through values -/

namespace Heap

open Failure (Spares)

theorem spares_valueItems (v : Value) : Spares v.items? := by
  intro failure h
  cases v <;> cases h <;> rfl

theorem spares_items? (h : Heap) (v : Value) : Spares (h.items? v) := by
  unfold items?
  split
  · split <;> rintro _ ⟨⟩
    rfl
  · exact spares_valueItems _

theorem spares_text? (v : Value) : Spares v.text? := by
  unfold Value.text?
  split <;> rintro _ ⟨⟩
  rfl

theorem spares_bytesHold? (bs : List UInt8) (v : Value) : Spares (Value.bytesHold? bs v) := by
  unfold Value.bytesHold?
  split
  · rintro _ ⟨⟩
  · rintro _ ⟨⟩
  · split <;> rintro _ ⟨⟩
    rfl
  · rintro _ ⟨⟩
    rfl

theorem spares_plainEqual? (v w : Value) : Spares (plainEqual? v w) := by
  unfold plainEqual?
  split
  · unfold numbersEqual?
    split <;> rintro _ ⟨⟩ <;> rfl
  · rintro _ ⟨⟩

theorem spares_allEqual? {eq : Value → Value → Except Failure Bool} (heq : ∀ v w, Spares (eq v w))
    (vs ws : List Value) : Spares (allEqual? eq vs ws) := by
  induction vs generalizing ws with
  | nil => rintro _ ⟨⟩
  | cons v vs ih =>
      cases ws with
      | nil => rintro _ ⟨⟩
      | cons w ws =>
          refine (heq v w).bind fun same => ?_
          cases same with
          | false => rintro _ ⟨⟩
          | true => exact ih ws

theorem spares_matched? {eq : Value → Value → Except Failure Bool} (heq : ∀ v w, Spares (eq v w))
    (entries others : Row) : Spares (matched? eq entries others) := by
  induction entries with
  | nil => rintro _ ⟨⟩
  | cons e entries ih =>
      obtain ⟨key, v⟩ := e
      unfold matched?
      split
      · refine (heq _ _).bind fun same => ?_
        cases same with
        | false => rintro _ ⟨⟩
        | true => exact ih
      · rintro _ ⟨⟩

theorem spares_equalWithin? (h : Heap) (depth : Nat) (v w : Value) : Spares (h.equalWithin? depth v w) := by
  induction depth generalizing v w with
  | zero =>
      rintro _ ⟨⟩
      rfl
  | succ depth ih =>
      unfold equalWithin?
      dsimp only
      split
      · rintro _ ⟨⟩
      split
      · refine (ih _ _).bind fun same => ?_
        cases same with
        | false => rintro _ ⟨⟩
        | true => exact ih _ _
      split
      · split
        · exact spares_allEqual? ih _ _
        · rintro _ ⟨⟩
      · refine (spares_allEqual? ih _ _).bind fun same => ?_
        rintro _ ⟨⟩
      · split
        · exact spares_matched? ih _ _
        · rintro _ ⟨⟩
      · exact spares_plainEqual? _ _

theorem spares_seek (h : Heap) (item : Value) (items : List Value) : Spares (h.seek item items).2 := by
  induction items with
  | nil => rintro _ ⟨⟩
  | cons v items ih =>
      unfold seek
      split
      · exact ih
      · exact spares_equalWithin? h comparableDepth v item

theorem neverRefuses_skip (v : Value) (count : Nat) : (skip v count).NeverRefuses := by
  unfold skip
  split
  · refine NeverRefuses.get.bind fun h => ?_
    split
    · exact NeverRefuses.modify _
    · exact NeverRefuses.pure _
  · exact NeverRefuses.pure _

theorem neverRefuses_items (v : Value) : (items v).NeverRefuses :=
  NeverRefuses.get.bind fun h => (NeverRefuses.lift (spares_items? h v)).bind fun _ =>
    (neverRefuses_skip v _).bind fun _ => NeverRefuses.pure _

theorem neverRefuses_itemsThrough (isLast : Value → Bool) (v : Value) : (itemsThrough isLast v).NeverRefuses :=
  NeverRefuses.get.bind fun h => (NeverRefuses.lift (spares_items? h v)).bind fun _ =>
    (neverRefuses_skip v _).bind fun _ => NeverRefuses.pure _

theorem neverRefuses_forItems {f : Value → Step Heap α} (hf : ∀ item, (f item).NeverRefuses) (v : Value) :
    (forItems v f).NeverRefuses :=
  NeverRefuses.get.bind fun h => (NeverRefuses.lift (spares_items? h v)).bind fun _ =>
    NeverRefuses.mapM (fun item => (neverRefuses_skip v 1).bind fun _ => hf item) _

theorem neverRefuses_requireKey (v : Value) : (requireKey v).NeverRefuses := by
  refine NeverRefuses.get.bind fun h => ?_
  split
  · exact NeverRefuses.throw rfl
  · exact NeverRefuses.pure _

theorem neverRefuses_entryOf? (key : Value) (entries : Row) : (entryOf? key entries).NeverRefuses :=
  (neverRefuses_requireKey key).bind fun _ => NeverRefuses.pure _

theorem neverRefuses_hasKey (key : Value) (entries : Row) : (hasKey key entries).NeverRefuses :=
  (neverRefuses_entryOf? key entries).bind fun _ => NeverRefuses.pure _

theorem neverRefuses_isAmong (item holder : Value) (items : List Value) : (isAmong item holder items).NeverRefuses :=
  NeverRefuses.get.bind fun h => (neverRefuses_skip holder _).bind fun _ =>
    NeverRefuses.lift (spares_seek h item items)

theorem neverRefuses_contains (item holder : Value) : (contains item holder).NeverRefuses := by
  refine NeverRefuses.get.bind fun h => ?_
  split
  · exact (NeverRefuses.lift (spares_text? _)).bind fun _ => NeverRefuses.pure _
  · exact (NeverRefuses.lift (spares_text? _)).bind fun _ => NeverRefuses.pure _
  · exact NeverRefuses.lift (spares_bytesHold? _ _)
  · exact neverRefuses_hasKey item _
  · exact neverRefuses_isAmong item holder _
  · exact neverRefuses_isAmong item holder _
  · exact neverRefuses_isAmong item holder _
  · split
    · exact neverRefuses_hasKey item _
    · exact neverRefuses_isAmong item holder _
    · exact NeverRefuses.throw rfl
  · exact NeverRefuses.throw rfl

theorem neverRefuses_identifier (v : Value) : (identifier v).NeverRefuses := by
  refine NeverRefuses.get.bind fun h => ?_
  split
  · exact NeverRefuses.pure _
  · exact (neverRefuses_itemsThrough _ v).bind fun _ => NeverRefuses.pure _

theorem neverRefuses_params (v : Value) : (params v).NeverRefuses := by
  refine NeverRefuses.get.bind fun h => ?_
  split
  · exact NeverRefuses.pure _
  · exact (neverRefuses_items v).bind fun _ => NeverRefuses.pure _

theorem neverRefuses_pair (v : Value) : (pair v).NeverRefuses := by
  refine (neverRefuses_items v).bind fun all => ?_
  split
  · exact (neverRefuses_requireKey _).bind fun _ => NeverRefuses.pure _
  · exact NeverRefuses.throw rfl

end Heap

theorem Identifier.spares_quote? (mark : String) (v : Value) : Failure.Spares (Identifier.quote? mark v) := by
  have hname : ∀ v, Failure.Spares (Identifier.name? v) := by
    intro v
    unfold Identifier.name?
    split <;> rintro _ ⟨⟩ <;> rfl
  unfold Identifier.quote?
  split
  · rintro _ ⟨⟩
  · refine (Heap.spares_valueItems v).bind fun items => (Failure.Spares.mapM hname items).bind fun names => ?_
    rintro _ ⟨⟩

theorem Dialects.spares_create (driverName : String) (dialects : Dialects) :
    Failure.Spares (dialects.create driverName) := by
  unfold Dialects.create
  split
  · unfold DialectSpec.dialect?
    split <;> rintro _ ⟨⟩
    rfl
  · rintro _ ⟨⟩

/-! ## Connections -/

namespace Connection

open Session (current change outside inHeap callHook)

variable {E : Environment}

theorem neverRefuses_current : (current : Action E Session).NeverRefuses :=
  NeverRefuses.get.bind fun _ => NeverRefuses.pure _

theorem neverRefuses_settings (connection : String) : (settings connection : Action E Settings).NeverRefuses :=
  neverRefuses_current.bind fun _ => NeverRefuses.pure _

theorem neverRefuses_inHeap {step : Step Heap α} (h : step.NeverRefuses) :
    (inHeap step : Action E α).NeverRefuses := NeverRefuses.onPart h

theorem neverRefuses_outside {transition : E.State → Except Failure α × E.State}
    (h : ∀ s, Failure.Spares (transition s).1) : (outside transition : Action E α).NeverRefuses :=
  NeverRefuses.onPart (NeverRefuses.ofTransition h)

theorem neverRefuses_makeDialect (connection : String) (d : Driver) :
    (makeDialect connection d : Action E MadeDialect).NeverRefuses :=
  neverRefuses_current.bind fun s => (NeverRefuses.lift (Dialects.spares_create _ s.knownDialects)).bind fun _ =>
    (NeverRefuses.modify _).bind fun _ => NeverRefuses.pure _

theorem neverRefuses_registerDriver (connection : String) (d : Driver) :
    (registerDriver connection d : Action E Unit).NeverRefuses :=
  (NeverRefuses.modify _).bind fun _ => (neverRefuses_makeDialect connection d).bind fun _ =>
    (neverRefuses_settings connection).bind fun _ => NeverRefuses.modify _

theorem neverRefuses_refusePlaceholder (sql : Value) : (refusePlaceholder sql).NeverRefuses := by
  refine (Heap.neverRefuses_contains _ sql).bind fun found => ?_
  split
  · exact NeverRefuses.throw rfl
  · exact NeverRefuses.pure _

theorem neverRefuses_restyle (style : ParamStyle) (sql : Value) : (restyle style sql).NeverRefuses := by
  unfold restyle
  split
  · exact NeverRefuses.pure _
  · exact NeverRefuses.pure _
  · exact NeverRefuses.pure _
  · refine NeverRefuses.get.bind fun h => ?_
    split <;> exact NeverRefuses.throw rfl
  · exact (neverRefuses_refusePlaceholder sql).bind fun _ => NeverRefuses.pure _

theorem neverRefuses_prepare (kind : DriverKind) (sql params : Value) : (prepare kind sql params).NeverRefuses := by
  unfold prepare
  split
  · exact NeverRefuses.pure _
  · refine (Heap.neverRefuses_params params).bind fun params => ?_
    split <;> exact NeverRefuses.pure _
  · refine (Heap.neverRefuses_params params).bind fun params => ?_
    split
    · exact NeverRefuses.pure _
    · exact NeverRefuses.pure _
    · exact (neverRefuses_restyle _ sql).bind fun _ => NeverRefuses.pure _

theorem neverRefuses_forDisplay (sql params : Value) : (forDisplay sql params).NeverRefuses := by
  refine (Heap.neverRefuses_params params).bind fun params => ?_
  split
  · exact NeverRefuses.pure _
  · exact NeverRefuses.pure _
  · split
    · exact NeverRefuses.get.bind fun _ => NeverRefuses.pure _
    · exact (neverRefuses_refusePlaceholder _).bind fun _ => NeverRefuses.pure _

theorem neverRefuses_hookOf (cache : CacheRef) (select : Settings → Option Hook) :
    (hookOf cache select : Action E (Option Hook)).NeverRefuses := by
  unfold hookOf
  split
  · exact neverRefuses_current.bind fun _ => NeverRefuses.pure _
  · exact NeverRefuses.pure _

theorem neverRefuses_store (cache : CacheRef) : (store cache : Action E Cache.Store).NeverRefuses := by
  refine neverRefuses_current.bind fun s => ?_
  split <;> exact NeverRefuses.pure _

theorem neverRefuses_putStore (cache : CacheRef) (kept : Cache.Store) :
    (putStore cache kept : Action E Unit).NeverRefuses := by
  unfold putStore
  split <;> exact NeverRefuses.modify _

theorem neverRefuses_refuseContainer (connection : String) :
    (refuseContainer connection : Action E Unit).NeverRefuses := by
  refine neverRefuses_current.bind fun s => ?_
  split
  · exact NeverRefuses.pure _
  · refine NeverRefuses.get.bind fun w => ?_
    split
    · exact NeverRefuses.throw rfl
    · exact NeverRefuses.throw rfl
    · exact NeverRefuses.pure _

theorem neverRefuses_cacheOf (connection : String) : (cacheOf connection : Action E CacheRef).NeverRefuses := by
  refine neverRefuses_current.bind fun s => ?_
  split
  · refine neverRefuses_current.bind fun s => ?_
    split <;> exact NeverRefuses.pure _
  · refine NeverRefuses.bind ?_ fun behind => ?_
    · unfold cacheBehind?
      split
      · refine NeverRefuses.get.bind fun w => ?_
        split <;> exact NeverRefuses.pure _
      · exact NeverRefuses.pure _
    · split
      · exact NeverRefuses.pure _
      · exact NeverRefuses.throw rfl

variable (hE : E.NeverRefuses)
include hE

theorem neverRefuses_driver (connection : String) : (driver connection : Action E Driver).NeverRefuses := by
  refine neverRefuses_current.bind fun s => ?_
  split
  · exact NeverRefuses.pure _
  · exact (neverRefuses_settings connection).bind fun settings =>
      (neverRefuses_outside fun s => hE.connect _ s).bind fun opened =>
        (neverRefuses_registerDriver connection _).bind fun _ => NeverRefuses.pure _

theorem neverRefuses_dialect (connection : String) : (dialect connection : Action E Dialect).NeverRefuses := by
  refine NeverRefuses.bind (neverRefuses_current.bind fun s => ?_) fun _ => NeverRefuses.pure _
  split
  · exact NeverRefuses.pure _
  · exact (neverRefuses_driver hE connection).bind fun d => neverRefuses_makeDialect connection d

theorem neverRefuses_send (d : Driver) (sql params : Value) : (send d sql params : Action E Statement).NeverRefuses := by
  refine (neverRefuses_inHeap (neverRefuses_prepare d.kind sql params)).bind fun prepared => ?_
  refine (neverRefuses_outside fun s => hE.execute d.link prepared.1 prepared.2 s).bind fun reply => ?_
  split
  · exact NeverRefuses.pure _
  · exact (NeverRefuses.modify _).bind fun _ => NeverRefuses.pure _

theorem neverRefuses_logQuery (connection : String) (sql params : Value) :
    (logQuery connection sql params : Action E Unit).NeverRefuses := by
  refine (neverRefuses_settings connection).bind fun settings => ?_
  split
  · refine NeverRefuses.bind ((neverRefuses_driver hE connection).bind fun _ => NeverRefuses.pure _) fun _ => ?_
    refine (neverRefuses_inHeap (neverRefuses_forDisplay sql params)).bind fun text => ?_
    refine (NeverRefuses.modify _).bind fun _ => ?_
    split
    · exact (hE.call _ _).bind fun _ => NeverRefuses.pure _
    · exact NeverRefuses.pure _
  · exact NeverRefuses.pure _

theorem neverRefuses_execute (connection : String) (sql params : Value) :
    (execute connection sql params : Action E Statement).NeverRefuses :=
  (neverRefuses_driver hE connection).bind fun d => (neverRefuses_send hE d sql params).bind fun _ =>
    (NeverRefuses.modify _).bind fun _ => (neverRefuses_logQuery hE connection sql params).bind fun _ =>
      NeverRefuses.pure _

theorem neverRefuses_clearCache (table : Value) (connection : String) :
    (clearCache table connection : Action E Unit).NeverRefuses := by
  refine (neverRefuses_refuseContainer connection).bind fun _ => (neverRefuses_cacheOf connection).bind fun cache => ?_
  refine (neverRefuses_store cache).bind fun kept => ?_
  extract_lets rest
  have hrest : ∀ u, (rest u).NeverRefuses := by
    intro u
    refine (neverRefuses_putStore cache _).bind fun _ => (neverRefuses_hookOf cache _).bind fun hook => ?_
    split
    · exact (hE.call _ _).bind fun _ => NeverRefuses.pure _
    · exact NeverRefuses.pure _
  split
  · exact (neverRefuses_inHeap (Heap.neverRefuses_requireKey _)).bind hrest
  · exact hrest ()

theorem neverRefuses_fetchRow (statement : Statement) :
    (fetchRow statement : Action E (Option Value)).NeverRefuses := by
  refine NeverRefuses.bind ?_ fun _ => NeverRefuses.pure _
  unfold fetch
  split
  · exact NeverRefuses.pure _
  · exact neverRefuses_outside fun s => hE.fetch _ _ s
  · refine (neverRefuses_outside fun s => hE.fetch _ _ s).bind fun arrived => ?_
    exact NeverRefuses.mapM
      (fun row => (neverRefuses_inHeap (Heap.neverRefuses_items row)).bind fun _ => NeverRefuses.pure _) arrived

theorem neverRefuses_lastInsertId (d : Driver) : (lastInsertId d : Action E Value).NeverRefuses := by
  unfold lastInsertId
  split
  · exact neverRefuses_outside fun s => hE.insertId _ s
  · exact neverRefuses_current.bind fun _ => NeverRefuses.pure _

end Connection

end FluentSql
