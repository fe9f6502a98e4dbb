import FluentSql.Proofs.Connection.Journal
import FluentSql.Proofs.Connection.Mirror
/-
# FluentSql.Proofs.Connection.Naming — what it takes to quote a name.

A name cannot be quoted without a mark, and the mark may have to be looked for: in the settings, or in the dialect of
a driver that may have to be opened first. What stands in the heap has no part in the search
(`quoteMark_besideHeap`). A session in which the mark was found knows it (`Session.KnowsMark`), so looking for it again
finds it and changes nothing. Hence one name that was quoted is all it takes for every other one to be.
-/

namespace FluentSql

open Step (Keeps Triple Mirrors perform_bind_ok)

/-- The connection has a mark in its settings that is not empty, or it has its dialect. The driver is looked for before
the dialect is, if the settings say nothing. -/
def Session.KnowsMark (connection : String) (s : Session) : Prop :=
  (∃ mark, (s.settingsOf connection).quoteMark = some mark ∧ mark.isEmpty = false) ∨
    ((s.settingsOf connection).quoteMark = none → ∃ d, Entries.get? connection s.drivers = some d) ∧
      ∃ made, Entries.get? connection s.dialects = some made

/-- The connection has no mark in its settings but an empty one, so it takes that of its dialect. The driver that is
looked for first, if the settings say nothing, is there. -/
structure Session.AsksDialect (connection : String) (s : Session) : Prop where
  empty : ∀ mark, (s.settingsOf connection).quoteMark = some mark → mark.isEmpty = true
  driver : (s.settingsOf connection).quoteMark = none → ∃ d, Entries.get? connection s.drivers = some d

namespace Connection

open Session (current inHeap)

variable {E : Environment} {connection : String}

/-! ## Where the mark comes from -/

/-- What lies in the heap has nothing to do with the marks of a connection. -/
theorem isCommon_besideHeap : IsCommon (E := E) connection (fun _ => True) (fun _ _ => True)
    fun w w' => w.session = w'.session ∧ w.outside = w'.outside where
  sameSettings h := by rw [h.1]
  sameKnownDialects h := by rw [h.1]
  sameDriver h := by rw [h.1]
  owned _ _ := trivial
  sameDialect h := by rw [h.1]
  opens _ := mirrors_outside (fun h => h.2) (fun _ h => ⟨h.1, rfl⟩) fun _ _ _ _ => trivial
  sameHeap _ := trivial
  withHeap h _ := h
  withDriver _ h := ⟨by rw [h.1], h.2⟩
  withDialect _ h := ⟨by rw [h.1], h.2⟩
  withSettings D h := ⟨by rw [h.1], h.2⟩

/-- Whether a mark is found, and which, depends on the session and on what lies outside. -/
theorem quoteMark_besideHeap {w w' : World E.State} (hsession : w.session = w'.session)
    (houtside : w.outside = w'.outside) :
    ((quoteMark connection : Action E String).perform w).1 =
      ((quoteMark connection : Action E String).perform w').1 :=
  (isCommon_besideHeap.mirrors_quoteMark w w' ⟨hsession, houtside⟩).same.1

/-- A name is quoted if a mark is found for it, and not otherwise. -/
theorem quote_text_fails_iff (name : String) (w : World E.State) :
    (∃ failure, ((quote connection (.text name) : Action E String).perform w).1 = .error failure) ↔
      ∃ failure, ((quoteMark connection : Action E String).perform w).1 = .error failure := by
  rw [quote, Step.perform_bind]
  rcases (quoteMark connection : Action E String).perform w with ⟨failure | mark, w'⟩
  · exact Iff.rfl
  · constructor <;> rintro ⟨failure, hfails⟩ <;> cases hfails

/-! ## Marks that are known -/

/-- Where no mark is configured, it is that of the dialect that is there. -/
theorem perform_quoteMark_of_dialect {w : World E.State} {made : MadeDialect}
    (hasks : w.session.AsksDialect connection) (hmade : Entries.get? connection w.session.dialects = some made) :
    (quoteMark connection : Action E String).perform w = (.ok made.dialect.quoteMark, w) := by
  have hdialect : (dialect connection : Action E Dialect).perform w = (.ok made.dialect, w) := by
    rw [dialect, madeDialect, bind_assoc, Session.perform_bindCurrent, hmade]
    rfl
  have ofDialect : (do return (← dialect connection).quoteMark : Action E String).perform w =
      (.ok made.dialect.quoteMark, w) := perform_bind_ok hdialect
  cases hconfigured : (w.session.settingsOf connection).quoteMark with
  | none =>
      obtain ⟨d, hd⟩ := hasks.driver hconfigured
      have hlooks : (discard (driver connection) : Action E Unit).perform w = (.ok (), w) :=
        perform_bind_ok (perform_driver hd)
      rw [quoteMark, perform_bindSettings, hconfigured]
      simp only [Option.isNone_none, if_true]
      rw [perform_bind_ok hlooks, perform_bindSettings, hconfigured]
      exact ofDialect
  | some mark =>
      rw [quoteMark, perform_bindSettings, hconfigured]
      simp only [Option.isNone_some, Bool.false_eq_true, if_false, perform_bindSettings, hconfigured,
        hasks.empty mark hconfigured, if_true]
      exact ofDialect

/-- A mark that is configured is the one that is found. -/
theorem perform_quoteMark_of_configured {w : World E.State} {mark : String}
    (hmark : (w.session.settingsOf connection).quoteMark = some mark) (hne : mark.isEmpty = false) :
    (quoteMark connection : Action E String).perform w = (.ok mark, w) := by
  rw [quoteMark, perform_bindSettings, hmark]
  simp only [Option.isNone_some, Bool.false_eq_true, if_false, perform_bindSettings, hmark, hne]
  rfl

/-- A mark that is known is found, and nothing changes. -/
theorem perform_quoteMark_of_knowsMark {w : World E.State} (hknown : w.session.KnowsMark connection) :
    ∃ mark, (quoteMark connection : Action E String).perform w = (.ok mark, w) := by
  by_cases hset : ∃ mark, (w.session.settingsOf connection).quoteMark = some mark ∧ mark.isEmpty = false
  · obtain ⟨mark, hmark, hne⟩ := hset
    exact ⟨mark, perform_quoteMark_of_configured hmark hne⟩
  · obtain ⟨hdriver, made, hmade⟩ := hknown.resolve_left hset
    refine ⟨_, perform_quoteMark_of_dialect ⟨fun mark hmark => ?_, hdriver⟩ hmade⟩
    exact (Bool.not_eq_false _).mp fun hne => hset ⟨mark, hmark, hne⟩

/-! ## Marks that were found -/

/-- A dialect that is found is there from then on, and so is a driver if there had to be one. -/
theorem triple_dialect_found :
    Triple (fun w : World E.State => (w.session.settingsOf connection).quoteMark = none →
        ∃ d, Entries.get? connection w.session.drivers = some d)
      (dialect connection) (fun _ w => w.session.KnowsMark connection) fun _ => True := by
  have hmake : ∀ d, Triple (fun w : World E.State => Entries.get? connection w.session.drivers = some d)
      (makeDialect connection d) (fun _ w => w.session.KnowsMark connection) fun _ => True := by
    intro d w hd
    cases hD : w.session.knownDialects.create d.kind.dialectName with
    | error failure =>
        rw [perform_makeDialect_error connection hD]
        trivial
    | ok D =>
        rw [perform_makeDialect_ok connection hD]
        exact .inr ⟨fun _ => ⟨d, hd⟩, ⟨w.session.dialectCount, D⟩, by simp [Session.withDialect]⟩
  refine Triple.bind (R := fun _ w => w.session.KnowsMark connection) (Session.triple_bindCurrent fun w hw => ?_)
    fun _ => Triple.pure fun _ hknown => hknown
  cases hmade : Entries.get? connection w.session.dialects with
  | some made =>
      refine Triple.pure ?_
      rintro _ rfl
      exact .inr ⟨hw, made, hmade⟩
  | none => exact Triple.bind (triple_driver_found.post fun d w' hw' => hw'.2.1) hmake

/-- **Once a mark was found, it is known.** -/
theorem triple_quoteMark_knowsMark :
    Triple (fun _ : World E.State => True) (quoteMark connection)
      (fun _ w => w.session.KnowsMark connection) fun _ => True := by
  refine triple_quoteMark_of (fun w _ hset hnone => absurd hnone hset) ?_ ?_
    (triple_dialect_found.pre fun _ hw => hw.1)
  · -- Looking for the driver comes first, so it is there when the dialect is looked for.
    exact Triple.of_states fun w _ => triple_driver_found.post fun d _ hfound _ => ⟨d, hfound.2.1⟩
  · exact fun w mark _ hmark hne => .inl ⟨mark, hmark, hne⟩

/-- The dialect that is found is the one that is there from then on. -/
theorem triple_madeDialect_found :
    Triple (fun _ : World E.State => True) (madeDialect connection)
      (fun made w => Entries.get? connection w.session.dialects = some made) fun _ => True := by
  have hmake : ∀ d, Triple (fun _ : World E.State => True) (makeDialect connection d)
      (fun made w => Entries.get? connection w.session.dialects = some made) fun _ => True := by
    intro d w _
    cases hD : w.session.knownDialects.create d.kind.dialectName with
    | error failure =>
        rw [perform_makeDialect_error connection hD]
        trivial
    | ok D =>
        rw [perform_makeDialect_ok connection hD]
        simp [Session.withDialect]
  refine Session.triple_bindCurrent fun w _ => ?_
  cases hmade : Entries.get? connection w.session.dialects with
  | some made =>
      refine Triple.pure ?_
      rintro _ rfl
      exact hmade
  | none => exact Triple.bind Triple.anything fun d => (hmake d).pre fun _ _ => trivial

/-- Looking for the dialect configures no mark. -/
theorem keeps_madeDialect_asksDialect :
    Keeps (fun w : World E.State => w.session.AsksDialect connection) (madeDialect connection) := by
  refine keeps_madeDialect_of (triple_driver_of ?_ fun _ _ _ _ hasks _ => hasks)
    fun _ _ _ hasks _ _ => ⟨hasks.empty, hasks.driver⟩
  intro w opening opened o hasks hnone _
  -- A driver is opened only if an empty mark is configured, which stays.
  obtain ⟨mark, hmark⟩ : ∃ mark, (w.session.settingsOf connection).quoteMark = some mark := by
    cases hmark : (w.session.settingsOf connection).quoteMark with
    | some mark => exact ⟨mark, rfl⟩
    | none =>
        obtain ⟨d, hd⟩ := hasks.driver hmark
        rw [hnone] at hd
        cases hd
  have hstays : ((w.session.registered connection (opening.driver opened)).settingsOf connection).quoteMark =
      some mark := by
    unfold Session.registered
    split
    · rw [Session.settingsOf_withSettings_self, Settings.detecting, hmark]
      rfl
    · exact hmark
  exact ⟨fun _ h => hasks.empty _ (hmark.trans (hstays.symm.trans h)), fun h => by rw [hstays] at h; cases h⟩

/-- **A mark that was found is found again.** -/
theorem triple_quoteMark_again :
    Triple (fun _ : World E.State => True) (quoteMark connection : Action E String)
      (fun mark w => ((quoteMark connection : Action E String).perform w).1 = .ok mark) fun _ => True := by
  refine triple_quoteMark_of (R := fun w => (w.session.settingsOf connection).quoteMark = none →
    ∃ d, Entries.get? connection w.session.drivers = some d)
    (fun w _ hset hnone => absurd hnone hset) ?_ ?_ ?_
  · exact Triple.of_states fun w _ => triple_driver_found.post fun d _ hfound _ => ⟨d, hfound.2.1⟩
  · intro w mark _ hmark hne
    rw [perform_quoteMark_of_configured hmark hne]
  · have hmade : Triple (fun w : World E.State => w.session.AsksDialect connection) (madeDialect connection)
        (fun made w => w.session.AsksDialect connection ∧ Entries.get? connection w.session.dialects = some made)
        fun _ => True :=
      (keeps_madeDialect_asksDialect.and (triple_madeDialect_found.pre fun _ _ => trivial)).consequence
        (fun _ hw => hw) (fun _ _ hw => hw) fun _ _ => trivial
    refine Triple.bind (hmade.pre fun w hw => ⟨hw.2, hw.1⟩) fun made => Triple.pure fun w hw => ?_
    rw [perform_quoteMark_of_dialect hw.1 hw.2]

/-- What was quoted leaves a mark that is known. -/
theorem triple_quote_knowsMark (identifier : Value) :
    Triple (fun _ : World E.State => True) (quote connection identifier)
      (fun _ w => w.session.KnowsMark connection) fun _ => True := by
  refine Triple.bind triple_quoteMark_knowsMark fun mark => ?_
  have hnamed : Keeps (fun w : World E.State => w.session.KnowsMark connection)
      (inHeap (Heap.identifier identifier)) := Session.keeps_inHeap_any (fun _ hw => hw) _
  exact (Keeps.bind hnamed fun _ => Keeps.lift _).ifReturns

end Connection

end FluentSql
