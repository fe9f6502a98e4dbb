import FluentSql.Step
import Mathlib.Data.List.Forall2
/-
# FluentSql.Proofs.Step.Mirror — two steps side by side.

A step mirrors another one if, from states in a relation, both succeed with results in a relation or both fail in
the same way, and leave states in the relation that they started in. What two runs have in common is shown with
one rule for each way of putting steps together, as for triples of one run.
-/

namespace FluentSql.Step

variable {σ τ α β γ δ : Type}

/-- Two runs have both succeeded with results in `R`, or have failed alike, in states in `I` either way. -/
def EndAlike (I : σ → τ → Prop) (R : α → β → Prop) : Except Failure α × σ → Except Failure β × τ → Prop
  | (.ok a, s), (.ok b, t) => R a b ∧ I s t
  | (.error failure, s), (.error failure', t) => failure = failure' ∧ I s t
  | _, _ => False

theorem EndAlike.mono {I J : σ → τ → Prop} {R S : α → β → Prop} {run : Except Failure α × σ}
    {other : Except Failure β × τ} (h : EndAlike I R run other) (hR : ∀ a b, R a b → S a b)
    (hI : ∀ s t, I s t → J s t) : EndAlike J S run other := by
  obtain ⟨result, s⟩ := run
  obtain ⟨result', t⟩ := other
  cases result <;> cases result'
  · exact ⟨h.1, hI s t h.2⟩
  · exact h
  · exact h
  · exact ⟨hR _ _ h.1, hI s t h.2⟩

/-- Runs that end alike leave states in the relation, however they end. -/
theorem EndAlike.leaves {I : σ → τ → Prop} {R : α → β → Prop} {run : Except Failure α × σ}
    {other : Except Failure β × τ} (h : EndAlike I R run other) : I run.2 other.2 := by
  obtain ⟨result, s⟩ := run
  obtain ⟨result', t⟩ := other
  cases result <;> cases result'
  · exact h.2
  · exact h.elim
  · exact h.elim
  · exact h.2

/-- Runs that end alike with the same results. -/
theorem EndAlike.same {I : σ → τ → Prop} {run : Except Failure α × σ} {other : Except Failure α × τ}
    (h : EndAlike I Eq run other) : run.1 = other.1 ∧ I run.2 other.2 := by
  refine ⟨?_, h.leaves⟩
  obtain ⟨result, s⟩ := run
  obtain ⟨result', t⟩ := other
  cases result <;> cases result'
  · exact congrArg Except.error h.1
  · exact h.elim
  · exact h.elim
  · exact congrArg Except.ok h.1

/-- From states in `I` the two steps go to results in `R`, or fail alike, in states in `I` either way. -/
def Mirrors (I : σ → τ → Prop) (R : α → β → Prop) (step : Step σ α) (other : Step τ β) : Prop :=
  ∀ s t, I s t → EndAlike I R (step.perform s) (other.perform t)

section

variable {I : σ → τ → Prop} {J : γ → δ → Prop}

/-- Runs that go on from results that belong together. -/
theorem EndAlike.bind {R : α → β → Prop} {S : γ → δ → Prop} {step : Step σ α} {other : Step τ β}
    {next : α → Step σ γ} {next' : β → Step τ δ} {s : σ} {t : τ}
    (h : EndAlike I R (step.perform s) (other.perform t))
    (hnext : ∀ a b, R a b → Mirrors I S (next a) (next' b)) :
    EndAlike I S ((step >>= next).perform s) ((other >>= next').perform t) := by
  rw [perform_bind, perform_bind]
  rcases hrun : step.perform s with ⟨result, s'⟩
  rcases hother : other.perform t with ⟨result', t'⟩
  rw [hrun, hother] at h
  cases result <;> cases result'
  · exact h
  · exact h.elim
  · exact h.elim
  · exact hnext _ _ h.1 s' t' h.2

/-- Runs on parts of the states. -/
theorem EndAlike.onPart {R : α → β → Prop} {get : σ → γ} {set : γ → σ → σ} {get' : τ → δ} {set' : δ → τ → τ}
    {part : Step γ α} {part' : Step δ β} {s : σ} {t : τ}
    (h : EndAlike J R (part.perform (get s)) (part'.perform (get' t)))
    (hset : ∀ p q, J p q → I (set p s) (set' q t)) :
    EndAlike I R ((onPart get set part).perform s) ((onPart get' set' part').perform t) := by
  rw [perform_onPart, perform_onPart]
  rcases hrun : part.perform (get s) with ⟨result, p⟩
  rcases hother : part'.perform (get' t) with ⟨result', q⟩
  rw [hrun, hother] at h
  cases result <;> cases result'
  · exact ⟨h.1, hset p q h.2⟩
  · exact h.elim
  · exact h.elim
  · exact ⟨h.1, hset p q h.2⟩

end

namespace Mirrors

variable {I : σ → τ → Prop} {R : α → β → Prop} {S : γ → δ → Prop}
variable {step : Step σ α} {other : Step τ β} {next : α → Step σ γ} {next' : β → Step τ δ}

/-- The states that are left are in the relation, however the steps end. -/
theorem leaves (h : Mirrors I R step other) {s : σ} {t : τ} (hI : I s t) :
    I (step.perform s).2 (other.perform t).2 :=
  (h s t hI).leaves

theorem mono {S : α → β → Prop} (h : Mirrors I R step other) (hR : ∀ a b, R a b → S a b) :
    Mirrors I S step other :=
  fun s t hI => (h s t hI).mono hR fun _ _ hleft => hleft

theorem pure {a : α} {b : β} (h : R a b) : Mirrors I R (pure a) (pure b) := fun _ _ hI => ⟨h, hI⟩

theorem throw (failure : Failure) : Mirrors I R (throw failure) (throw failure) := fun _ _ hI => ⟨rfl, hI⟩

theorem modify {f : σ → σ} {g : τ → τ} (h : ∀ s t, I s t → I (f s) (g t)) :
    Mirrors I (fun _ _ => True) (modify f : Step σ Unit) (modify g : Step τ Unit) :=
  fun s t hI => ⟨trivial, h s t hI⟩

/-- A result that was computed without the state. -/
theorem lift {R : α → α → Prop} (result : Except Failure α) (h : ∀ a, result = .ok a → R a a) :
    Mirrors I R (liftM result : Step σ α) (liftM result : Step τ α) := by
  cases result with
  | error failure => exact throw failure
  | ok a => exact pure (h a rfl)

theorem bind (h : Mirrors I R step other) (hnext : ∀ a b, R a b → Mirrors I S (next a) (next' b)) :
    Mirrors I S (step >>= next) (other >>= next') :=
  fun s t hI => (h s t hI).bind hnext

theorem map {f : α → γ} {g : β → δ} (h : Mirrors I R step other) (hfg : ∀ a b, R a b → S (f a) (g b)) :
    Mirrors I S (f <$> step) (g <$> other) := by
  rw [map_eq_pure_bind, map_eq_pure_bind]
  exact bind h fun a b hab => pure (hfg a b hab)

/-- The results are the same, and the next steps go on from them. -/
theorem bindEq {step : Step σ α} {other : Step τ α} {next : α → Step σ γ} {next' : α → Step τ δ}
    (h : Mirrors I Eq step other) (hnext : ∀ a, Mirrors I S (next a) (next' a)) :
    Mirrors I S (step >>= next) (other >>= next') :=
  bind h fun a _ hab => hab ▸ hnext a

/-- Steps that look at their states first: what the relation says of the states is known then. -/
theorem bindGet {next : σ → Step σ γ} {next' : τ → Step τ δ}
    (h : ∀ s t, I s t → Mirrors I S (next s) (next' t)) : Mirrors I S (get >>= next) (get >>= next') :=
  fun s t hI => h s t hI s t hI

/-- Steps on parts of the states. -/
theorem onPart {σ' τ' : Type} {get : σ → σ'} {set : σ' → σ → σ} {get' : τ → τ'} {set' : τ' → τ → τ}
    {part : Step σ' α} {part' : Step τ' β} {J : σ' → τ' → Prop} (h : Mirrors J R part part')
    (hget : ∀ s t, I s t → J (get s) (get' t))
    (hset : ∀ s t p q, I s t → J p q → I (set p s) (set' q t)) :
    Mirrors I R (onPart get set part) (onPart get' set' part') :=
  fun s t hI => (h _ _ (hget s t hI)).onPart fun p q hJ => hset s t p q hI hJ

/-- A step for each of two items that belong together. -/
theorem forM {ι κ : Type} {X : ι → κ → Prop} {f : ι → Step σ PUnit} {g : κ → Step τ PUnit} {items : List ι}
    {others : List κ} (hitems : List.Forall₂ X items others)
    (h : ∀ i k, X i k → Mirrors I (fun _ _ => True) (f i) (g k)) :
    Mirrors I (fun _ _ => True) (items.forM f) (others.forM g) := by
  induction hitems with
  | nil => exact pure trivial
  | cons hfirst _ ih => exact bind (h _ _ hfirst) fun _ _ _ => ih

/-- A result for each of two items that belong together. -/
theorem mapM {ι κ : Type} {X : ι → κ → Prop} {f : ι → Step σ α} {g : κ → Step τ β} {items : List ι}
    {others : List κ} (hitems : List.Forall₂ X items others)
    (h : ∀ i k, X i k → Mirrors I R (f i) (g k)) :
    Mirrors I (List.Forall₂ R) (items.mapM f) (others.mapM g) := by
  induction hitems with
  | nil =>
      rw [List.mapM_nil, List.mapM_nil]
      exact pure .nil
  | cons hfirst _ ih =>
      rw [List.mapM_cons, List.mapM_cons]
      refine bind (h _ _ hfirst) fun a b hab => ?_
      exact bind ih fun as bs habs => pure (.cons hab habs)

/-- A step for each of the same items. -/
theorem forM_same {ι : Type} {f : ι → Step σ PUnit} {g : ι → Step τ PUnit} {items : List ι}
    (h : ∀ i ∈ items, Mirrors I (fun _ _ => True) (f i) (g i)) :
    Mirrors I (fun _ _ => True) (items.forM f) (items.forM g) := by
  refine forM (X := fun i k => i = k ∧ i ∈ items) (List.forall₂_same.2 fun _ hi => ⟨rfl, hi⟩) ?_
  rintro i _ ⟨rfl, hi⟩
  exact h i hi

/-- The same result for each of the same items. -/
theorem mapM_same {ι : Type} {f : ι → Step σ α} {g : ι → Step τ α} {items : List ι}
    (h : ∀ i ∈ items, Mirrors I Eq (f i) (g i)) : Mirrors I Eq (items.mapM f) (items.mapM g) := by
  have hall : Mirrors I (List.Forall₂ Eq) (items.mapM f) (items.mapM g) := by
    refine mapM (X := fun i k => i = k ∧ i ∈ items) (List.forall₂_same.2 fun _ hi => ⟨rfl, hi⟩) ?_
    rintro i _ ⟨rfl, hi⟩
    exact h i hi
  rwa [List.forall₂_eq_eq_eq] at hall

end Mirrors

/-! ## One step from two states -/

/-- From states in `I` the step does the same twice: it has one result in both runs, with a property, or fails alike,
and leaves states in `I`. -/
def Repeats (I : σ → σ → Prop) (P : α → Prop) (step : Step σ α) : Prop :=
  Mirrors I (fun a b => a = b ∧ P a) step step

namespace Repeats

variable {I : σ → σ → Prop} {P Q : α → Prop} {R : γ → Prop} {step : Step σ α} {next : α → Step σ γ}

theorem mono (h : Repeats I P step) (hPQ : ∀ a, P a → Q a) : Repeats I Q step :=
  Mirrors.mono h fun a _ hab => ⟨hab.1, hPQ a hab.2⟩

theorem pure {a : α} (ha : P a) : Repeats I P (pure a) := Mirrors.pure ⟨rfl, ha⟩

theorem throw (failure : Failure) : Repeats I P (throw failure : Step σ α) := Mirrors.throw failure

theorem lift {result : Except Failure α} (hP : ∀ a, result = .ok a → P a) : Repeats I P (liftM result : Step σ α) :=
  Mirrors.lift result fun a ha => ⟨rfl, hP a ha⟩

theorem bind (h : Repeats I P step) (hnext : ∀ a, P a → Repeats I R (next a)) : Repeats I R (step >>= next) := by
  refine Mirrors.bind h ?_
  rintro a _ ⟨rfl, ha⟩
  exact hnext a ha

theorem mapM {ι : Type} {f : ι → Step σ α} {items : List ι} (hf : ∀ i ∈ items, Repeats I P (f i)) :
    Repeats I (fun as => ∀ a ∈ as, P a) (items.mapM f) := by
  induction items with
  | nil =>
      rw [List.mapM_nil]
      exact pure (List.forall_mem_nil _)
  | cons item rest ih =>
      obtain ⟨hitem, hrest⟩ := List.forall_mem_cons.1 hf
      rw [List.mapM_cons]
      refine bind hitem fun a ha => bind (ih hrest) fun as has => pure ?_
      exact List.forall_mem_cons.2 ⟨ha, has⟩

theorem forM {ι : Type} {f : ι → Step σ PUnit} {items : List ι}
    (hf : ∀ i ∈ items, Repeats I (fun _ => True) (f i)) : Repeats I (fun _ => True) (items.forM f) := by
  induction items with
  | nil => exact pure trivial
  | cons item rest ih =>
      obtain ⟨hitem, hrest⟩ := List.forall_mem_cons.1 hf
      exact bind hitem fun _ _ => ih hrest

end Repeats

/-! ## Refusals -/

section

variable {B : Failure → Prop} {I : σ → τ → Prop} {R : α → β → Prop} {S : γ → δ → Prop}

/-- The run has failed in one of some ways. -/
def EndsIn (B : Failure → Prop) (run : Except Failure α × σ) : Prop := ∃ failure, run.1 = .error failure ∧ B failure

/-- From states in `I` the two steps go to results in `R`, or fail alike, in states in `I` either way, unless one of
them fails in one of some ways that need not be common to both. -/
def MirrorsUnless (B : Failure → Prop) (I : σ → τ → Prop) (R : α → β → Prop) (step : Step σ α) (other : Step τ β) :
    Prop :=
  ∀ s t, I s t → EndAlike I R (step.perform s) (other.perform t) ∨ EndsIn B (step.perform s) ∨
    EndsIn B (other.perform t)

theorem EndsIn.bind {step : Step σ α} {s : σ} (h : EndsIn B (step.perform s)) (next : α → Step σ γ) :
    EndsIn B ((step >>= next).perform s) := by
  obtain ⟨failure, hfails, hB⟩ := h
  refine ⟨failure, ?_, hB⟩
  rcases hrun : step.perform s with ⟨result, s'⟩
  rw [hrun] at hfails
  cases hfails
  rw [perform_bind, hrun]

theorem Mirrors.unless {step : Step σ α} {other : Step τ β} (h : Mirrors I R step other) (B : Failure → Prop) :
    MirrorsUnless B I R step other :=
  fun s t hI => .inl (h s t hI)

theorem MirrorsUnless.bind {step : Step σ α} {other : Step τ β} {next : α → Step σ γ} {next' : β → Step τ δ}
    (h : MirrorsUnless B I R step other) (hnext : ∀ a b, R a b → MirrorsUnless B I S (next a) (next' b)) :
    MirrorsUnless B I S (step >>= next) (other >>= next') := by
  intro s t hI
  rcases h s t hI with hends | hends | hends
  · rw [perform_bind, perform_bind]
    rcases hrun : step.perform s with ⟨result, s'⟩
    rcases hother : other.perform t with ⟨result', t'⟩
    rw [hrun, hother] at hends
    cases result <;> cases result'
    · exact .inl hends
    · exact hends.elim
    · exact hends.elim
    · exact hnext _ _ hends.1 s' t' hends.2
  · exact .inr (.inl (hends.bind next))
  · exact .inr (.inr (hends.bind next'))

theorem MirrorsUnless.map {step : Step σ α} {other : Step τ β} {f : α → γ} {g : β → δ}
    (h : MirrorsUnless B I R step other) (hfg : ∀ a b, R a b → S (f a) (g b)) :
    MirrorsUnless B I S (f <$> step) (g <$> other) := by
  rw [map_eq_pure_bind, map_eq_pure_bind]
  exact h.bind fun a b hab => Mirrors.unless (Mirrors.pure (hfg a b hab)) B

theorem Mirrors.bindUnless {step : Step σ α} {other : Step τ β} {next : α → Step σ γ} {next' : β → Step τ δ}
    (h : Mirrors I R step other) (hnext : ∀ a b, R a b → MirrorsUnless B I S (next a) (next' b)) :
    MirrorsUnless B I S (step >>= next) (other >>= next') :=
  (h.unless B).bind hnext

end

end FluentSql.Step
