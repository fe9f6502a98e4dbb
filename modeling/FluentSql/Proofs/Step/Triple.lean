import FluentSql.Step
import Mathlib.Data.List.Forall2
/-
# FluentSql.Proofs.Step.Triple — what holds after a step.

A triple speaks about a step that starts in a state with its precondition: what holds of the result and
of the state if the step succeeds, and what holds of the state if it fails. A step that fails keeps what
it changed, so the second part is no less of a promise than the first. There is one rule for each way
of putting steps together.
-/

namespace FluentSql.Step

variable {σ τ α β : Type}

/-! ## Runs -/

theorem perform_bind_ok {step : Step σ α} {next : α → Step σ β} {s s' : σ} {a : α}
    (h : step.perform s = (.ok a, s')) : (step >>= next).perform s = (next a).perform s' := by
  rw [perform_bind, h]

theorem perform_bind_error {step : Step σ α} {next : α → Step σ β} {s s' : σ} {failure : Failure}
    (h : step.perform s = (.error failure, s')) :
    (step >>= next).perform s = (.error failure, s') := by
  rw [perform_bind, h]

theorem perform_map (f : α → β) (step : Step σ α) (s : σ) :
    (f <$> step).perform s = ((step.perform s).1.map f, (step.perform s).2) := by
  rw [map_eq_pure_bind, perform_bind]
  rcases step.perform s with ⟨_ | _, _⟩ <;> rfl

/-! ## Triples -/

/-- From a state with `P` the step goes to a result and a state with `Q`, or fails in a state with `F`. -/
def Triple (P : σ → Prop) (step : Step σ α) (Q : α → σ → Prop) (F : σ → Prop) : Prop :=
  ∀ s, P s →
    match step.perform s with
    | (.ok a, s') => Q a s'
    | (.error _, s') => F s'

/-- The step keeps a property of the state, whether it fails or not. -/
def Keeps (I : σ → Prop) (step : Step σ α) : Prop := Triple I step (fun _ => I) I

namespace Triple

variable {P P' : σ → Prop} {step : Step σ α} {Q Q' : α → σ → Prop} {F F' : σ → Prop}

theorem of_ok (h : Triple P step Q F) {s s' : σ} {a : α} (hs : P s)
    (hrun : step.perform s = (.ok a, s')) : Q a s' := by
  have hpost := h s hs
  rw [hrun] at hpost
  exact hpost

theorem of_error (h : Triple P step Q F) {s s' : σ} {failure : Failure} (hs : P s)
    (hrun : step.perform s = (.error failure, s')) : F s' := by
  have hpost := h s hs
  rw [hrun] at hpost
  exact hpost

/-- What holds however the step ends holds of the state that it leaves. -/
theorem leaves {I : σ → Prop} (h : Triple P step (fun _ => I) I) {s : σ} (hs : P s) :
    I (step.perform s).2 := by
  have hpost := h s hs
  rcases hrun : step.perform s with ⟨result, s'⟩
  rw [hrun] at hpost
  cases result <;> exact hpost

/-- A weaker precondition and stronger postconditions will do. -/
theorem consequence (h : Triple P step Q F) (hP : ∀ s, P' s → P s) (hQ : ∀ a s, Q a s → Q' a s)
    (hF : ∀ s, F s → F' s) : Triple P' step Q' F' := by
  intro s hs
  have hpost := h s (hP s hs)
  rcases hrun : step.perform s with ⟨result, s'⟩
  rw [hrun] at hpost
  cases result with
  | error failure => exact hF s' hpost
  | ok a => exact hQ a s' hpost

theorem pre (h : Triple P step Q F) (hP : ∀ s, P' s → P s) : Triple P' step Q F :=
  h.consequence hP (fun _ _ hQ => hQ) fun _ hF => hF

theorem post (h : Triple P step Q F) (hQ : ∀ a s, Q a s → Q' a s) : Triple P step Q' F :=
  h.consequence (fun _ hP => hP) hQ fun _ hF => hF

/-- A step that does not fail promises nothing for failing. -/
theorem certain (h : Triple P step Q F) (hok : Triple P step (fun _ _ => True) fun _ => False) :
    Triple P step Q F' := by
  intro s hs
  have hpost := h s hs
  have hnever := hok s hs
  rcases hrun : step.perform s with ⟨result, s'⟩
  rw [hrun] at hpost hnever
  cases result with
  | ok a => exact hpost
  | error failure => exact hnever.elim

/-- Two triples of one step are a triple. -/
theorem and (h : Triple P step Q F) (h' : Triple P step Q' F') :
    Triple P step (fun a s => Q a s ∧ Q' a s) (fun s => F s ∧ F' s) := by
  intro s hs
  have hpost := h s hs
  have hother := h' s hs
  rcases hrun : step.perform s with ⟨result, s'⟩
  rw [hrun] at hpost hother
  cases result <;> exact ⟨hpost, hother⟩

/-- The result comes with the run that gave it. -/
theorem withRun (h : Triple P step Q F) {s : σ} (hs : P s) :
    Triple (· = s) step (fun a s' => Q a s' ∧ step.perform s = (.ok a, s')) F := by
  rintro _ rfl
  have hpost := h _ hs
  rcases hrun : step.perform _ with ⟨result, s'⟩
  rw [hrun] at hpost
  cases result with
  | error failure => exact hpost
  | ok a => exact ⟨hpost, rfl⟩

/-- What a failure leaves may be nobody's business. -/
theorem ifReturns (h : Triple P step Q F) : Triple P step Q fun _ => True :=
  h.consequence (fun _ hs => hs) (fun _ _ hs => hs) fun _ _ => trivial

/-- Nothing is said of any step. -/
theorem anything : Triple P step (fun _ _ => True) fun _ => True := by
  intro s _
  rcases step.perform s with ⟨_ | _, _⟩ <;> exact trivial

/-- One state at a time will do. -/
theorem of_states (h : ∀ s, P s → Triple (· = s) step Q F) : Triple P step Q F :=
  fun s hs => h s hs s rfl

theorem pure {a : α} (h : ∀ s, P s → Q a s) : Triple P (pure a : Step σ α) Q F := h

theorem throw {failure : Failure} (h : ∀ s, P s → F s) : Triple P (throw failure : Step σ α) Q F := h

/-- A result that was computed without the state. -/
theorem lift {result : Except Failure α} (hok : ∀ a, result = .ok a → ∀ s, P s → Q a s)
    (herror : ∀ failure, result = .error failure → ∀ s, P s → F s) :
    Triple P (liftM result : Step σ α) Q F := by
  intro s hs
  cases result with
  | ok a => exact hok a rfl s hs
  | error failure => exact herror failure rfl s hs

theorem modify {f : σ → σ} {Q : Unit → σ → Prop} (h : ∀ s, P s → Q () (f s)) :
    Triple P (modify f : Step σ Unit) Q F := h

theorem ofTransition {transition : σ → Except Failure α × σ}
    (hok : ∀ s a s', P s → transition s = (.ok a, s') → Q a s')
    (herror : ∀ s failure s', P s → transition s = (.error failure, s') → F s') :
    Triple P (ofTransition transition) Q F := by
  intro s hs
  rcases hrun : transition s with ⟨result, s'⟩
  rw [perform_ofTransition, hrun]
  cases result with
  | ok a => exact hok s a s' hs hrun
  | error failure => exact herror s failure s' hs hrun

theorem bind {R : α → σ → Prop} {next : α → Step σ β} {S : β → σ → Prop}
    (h : Triple P step R F) (hnext : ∀ a, Triple (R a) (next a) S F) :
    Triple P (step >>= next) S F := by
  intro s hs
  rw [perform_bind]
  rcases hrun : step.perform s with ⟨result, s'⟩
  cases result with
  | error failure => exact h.of_error hs hrun
  | ok a => exact hnext a s' (h.of_ok hs hrun)

/-- What does not depend on the state is a fact for the step. -/
theorem known {R : Prop} (h : R → Triple P step Q F) : Triple (fun s => P s ∧ R) step Q F :=
  fun s hs => h hs.2 s hs.1

/-- What is known of the result alone is a fact for the next step. -/
theorem bindKnown {I : σ → Prop} {R : α → Prop} {next : α → Step σ β} {S : β → σ → Prop}
    (h : Triple P step (fun a s => I s ∧ R a) F) (hnext : ∀ a, R a → Triple I (next a) S F) :
    Triple P (step >>= next) S F :=
  bind h fun a => known (hnext a)

/-- A step that looks at the state first goes on from a known one. -/
theorem bindGet {next : σ → Step σ β} {S : β → σ → Prop}
    (h : ∀ s, P s → Triple (· = s) (next s) S F) : Triple P (get >>= next) S F :=
  fun s hs => h s hs s rfl

/-- A step on a part: its triple is about the part. -/
theorem onPart {get : σ → τ} {set : τ → σ → σ} {part : Step τ α} {P' : τ → Prop}
    {Q' : α → τ → Prop} {F' : τ → Prop} (s : σ) (h : Triple P' part Q' F') (hs : P' (get s))
    (hok : ∀ a t, Q' a t → Q a (set t s)) (herror : ∀ t, F' t → F (set t s)) :
    Triple (· = s) (Step.onPart get set part) Q F := by
  rintro _ rfl
  rw [perform_onPart]
  rcases hrun : part.perform (get _) with ⟨result, t⟩
  cases result with
  | error failure => exact herror t (h.of_error hs hrun)
  | ok a => exact hok a t (h.of_ok hs hrun)

/-- A step for each item: what holds after some items holds after one more. -/
theorem forM {f : α → Step σ PUnit} (I : List α → σ → Prop) {items : List α}
    (h : ∀ done item rest, items = done ++ item :: rest →
      Triple (I done) (f item) (fun _ => I (done ++ [item])) F) :
    Triple (I []) (items.forM f) (fun _ => I items) F := by
  -- The induction is on the items that are left; the invariant speaks of those that are done.
  suffices main : ∀ rest done, items = done ++ rest →
      Triple (I done) (rest.forM f) (fun _ => I items) F from main items [] rfl
  intro rest
  induction rest with
  | nil =>
      intro done hsplit
      rw [List.append_nil] at hsplit
      subst hsplit
      exact pure fun _ hs => hs
  | cons item rest ih =>
      intro done hsplit
      have hnext := ih (done ++ [item]) (by simp [hsplit])
      exact bind (h done item rest hsplit) fun _ => hnext

/-- A result for each item: what holds after some items holds after one more. -/
theorem mapM {f : α → Step σ β} (I : List α → List β → σ → Prop) {items : List α}
    (h : ∀ done results item rest, items = done ++ item :: rest →
      Triple (I done results) (f item) (fun b => I (done ++ [item]) (results ++ [b])) F) :
    Triple (I [] []) (items.mapM f) (I items) F := by
  suffices main : ∀ rest done results, items = done ++ rest →
      Triple (I done results) (rest.mapM f) (fun bs => I items (results ++ bs)) F from
    (main items [] [] rfl).post fun _ _ hs => hs
  intro rest
  induction rest with
  | nil =>
      intro done results hsplit
      rw [List.append_nil] at hsplit
      subst hsplit
      rw [List.mapM_nil]
      exact pure fun _ hs => by rwa [List.append_nil]
  | cons item rest ih =>
      intro done results hsplit
      rw [List.mapM_cons]
      refine bind (h done results item rest hsplit) fun b => ?_
      refine bind (ih (done ++ [item]) (results ++ [b]) (by simp [hsplit])) fun bs => ?_
      exact pure fun s hs => by simpa using hs

/-- Where each result is related to its item, they all are, one by one. -/
theorem mapM_forall₂ {f : α → Step σ β} {I : σ → Prop} {R : α → β → Prop} {items : List α}
    (h : ∀ item ∈ items, Triple I (f item) (fun b s => I s ∧ R item b) F) :
    Triple I (items.mapM f) (fun bs s => I s ∧ List.Forall₂ R items bs) F := by
  refine (mapM (fun done bs s => I s ∧ List.Forall₂ R done bs) fun done bs item rest hsplit => ?_).pre
    fun _ hs => ⟨hs, .nil⟩
  refine known fun hbs => (h item (by simp [hsplit])).post ?_
  rintro b s ⟨hs, hb⟩
  exact ⟨hs, List.rel_append hbs (.cons hb .nil)⟩

/-- Where each result is known from its item, all of them are. -/
theorem mapM_known {f : α → Step σ β} {g : α → β} {I : σ → Prop} {items : List α}
    (h : ∀ item ∈ items, Triple I (f item) (fun b s => I s ∧ b = g item) F) :
    Triple I (items.mapM f) (fun bs s => I s ∧ bs = items.map g) F := by
  refine (mapM_forall₂ h).post ?_
  rintro bs s ⟨hs, hbs⟩
  rw [← List.forall₂_eq_eq_eq, List.forall₂_map_right_iff]
  exact ⟨hs, hbs.flip⟩

/-- Where each result has a property, all of them have it. -/
theorem mapM_all {f : α → Step σ β} {I : σ → Prop} {R : β → Prop} {items : List α}
    (h : ∀ item ∈ items, Triple I (f item) (fun b s => I s ∧ R b) F) :
    Triple I (items.mapM f) (fun bs s => I s ∧ ∀ b ∈ bs, R b) F := by
  refine (mapM (fun _ bs s => I s ∧ ∀ b ∈ bs, R b) fun done bs item rest hsplit => ?_).pre
    fun _ hs => ⟨hs, by simp⟩
  refine known fun hbs => (h item (by simp [hsplit])).post ?_
  rintro b s ⟨hs, hb⟩
  refine ⟨hs, ?_⟩
  intro other hother
  rcases List.mem_append.1 hother with hold | hlast
  · exact hbs other hold
  · rwa [List.mem_singleton.1 hlast]

end Triple

namespace Keeps

variable {I : σ → Prop} {step : Step σ α}

theorem get : Keeps I (get : Step σ σ) := fun _ hs => hs

theorem pure (a : α) : Keeps I (pure a : Step σ α) := fun _ hs => hs

theorem throw (failure : Failure) : Keeps I (throw failure : Step σ α) := fun _ hs => hs

theorem lift (result : Except Failure α) : Keeps I (liftM result : Step σ α) :=
  Triple.lift (fun _ _ _ hs => hs) fun _ _ _ hs => hs

theorem bind {next : α → Step σ β} (h : Keeps I step) (hnext : ∀ a, Keeps I (next a)) :
    Keeps I (step >>= next) := Triple.bind h hnext

/-- What is kept is kept from the one state where the step starts, if that has it. -/
theorem of_state (h : Keeps I step) {s : σ} (hs : I s) : Triple (· = s) step (fun _ => I) fun _ => True :=
  h.consequence (fun _ ht => ht ▸ hs) (fun _ _ ht => ht) fun _ _ => trivial

theorem forM {f : α → Step σ PUnit} {items : List α} (h : ∀ item ∈ items, Keeps I (f item)) :
    Keeps I (items.forM f) :=
  Triple.forM (fun _ => I) fun done item rest hsplit => h item (by simp [hsplit])

theorem mapM {f : α → Step σ β} {items : List α} (h : ∀ item ∈ items, Keeps I (f item)) :
    Keeps I (items.mapM f) :=
  Triple.mapM (fun _ _ => I) fun done _ item rest hsplit => h item (by simp [hsplit])

theorem filterM {f : α → Step σ Bool} {items : List α} (h : ∀ item ∈ items, Keeps I (f item)) :
    Keeps I (items.filterM f) := by
  suffices main : ∀ kept, Keeps I (items.filterAuxM f kept) from bind (main []) fun _ => pure _
  induction items with
  | nil => exact fun kept => pure kept
  | cons item items ih =>
      intro kept
      rw [List.filterAuxM]
      refine bind (h item List.mem_cons_self) fun found => ?_
      exact ih (fun other hother => h other (List.mem_cons_of_mem _ hother)) _

end Keeps

end FluentSql.Step
