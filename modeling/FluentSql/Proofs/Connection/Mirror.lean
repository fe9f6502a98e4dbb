import FluentSql.Proofs.Connection.Options
import FluentSql.Proofs.Connection.Registering
import FluentSql.Proofs.Step.Mirror
/-
# FluentSql.Proofs.Connection.Mirror — worlds in which a connection does alike.

How a connection finds its driver and writes its statements depends on its settings, its driver, its dialect and
what lies outside, and on nothing else. So in worlds that have these in common it does so alike
(`IsCommon.mirrors_rendering`), whatever else the worlds have in common or not. Functions that are configured for the
operations of a cache have no part in it.
-/

namespace FluentSql.Connection

open Session (current change outside inHeap)
open Step (Mirrors)

variable {E : Environment} {α β : Type}

/-- A relation of worlds that have in common what decides how a connection writes its statements, and that stays
when drivers are opened and dialects made. All drivers of the connection are of some kind, and `J` is what the
heaps have in common. -/
structure IsCommon (connection : String) (own : Driver → Prop) (J : Heap → Heap → Prop)
    (I : World E.State → World E.State → Prop) : Prop where
  sameSettings : ∀ {w w'}, I w w' →
    (w.session.settingsOf connection).withCacheHooks {} = (w'.session.settingsOf connection).withCacheHooks {}
  sameKnownDialects : ∀ {w w'}, I w w' → w.session.knownDialects = w'.session.knownDialects
  sameDriver : ∀ {w w'}, I w w' →
    Entries.get? connection w.session.drivers = Entries.get? connection w'.session.drivers
  owned : ∀ {w w' d}, I w w' → Entries.get? connection w'.session.drivers = some d → own d
  sameDialect : ∀ {w w'}, I w w' → (Entries.get? connection w.session.dialects).map MadeDialect.dialect =
    (Entries.get? connection w'.session.dialects).map MadeDialect.dialect
  opens : ∀ opening, Mirrors I (fun opened opened' => opened = opened' ∧ own (opening.driver opened))
    (outside (E.connect opening)) (outside (E.connect opening))
  sameHeap : ∀ {w w'}, I w w' → J w.heap w'.heap
  withHeap : ∀ {w w' h h'}, I w w' → J h h' → I { w with heap := h } { w' with heap := h' }
  withDriver : ∀ {w w' d}, own d → I w w' → I { w with session := w.session.withDriver connection d }
    { w' with session := w'.session.withDriver connection d }
  withDialect : ∀ {w w'} D, I w w' → I { w with session := w.session.withDialect connection D }
    { w' with session := w'.session.withDialect connection D }
  withSettings : ∀ {w w'} D, I w w' →
    I { w with session := w.session.withSettings connection ((w.session.settingsOf connection).detecting D) }
      { w' with session := w'.session.withSettings connection ((w'.session.settingsOf connection).detecting D) }

/-- In worlds that have in common what lies outside, what happens there happens alike, and gives what it gives. -/
theorem mirrors_outside {I : World E.State → World E.State → Prop} (hsame : ∀ {w w'}, I w w' → w.outside = w'.outside)
    (hwith : ∀ {w w'} s, I w w' → I { w with outside := s } { w' with outside := s })
    {f : E.State → Except Failure α × E.State} {P : α → Prop} (h : ∀ s a s', f s = (.ok a, s') → P a) :
    Mirrors I (fun a b => a = b ∧ P a) (outside f) (outside f) := by
  intro w w' hw
  rcases hrun : f w.outside with ⟨result, s⟩
  have hrun' : f w'.outside = (result, s) := hsame hw ▸ hrun
  rw [Session.perform_outside hrun, Session.perform_outside hrun']
  cases result with
  | error failure => exact ⟨rfl, hwith s hw⟩
  | ok a => exact ⟨⟨rfl, h _ _ _ hrun⟩, hwith s hw⟩

namespace IsCommon

variable {connection : String} {own : Driver → Prop} {J : Heap → Heap → Prop}
variable {I : World E.State → World E.State → Prop} {R : α → β → Prop}

/-! ## Looking and changing -/

theorem mirrors_bindCurrent {next : Session → Action E α} {next' : Session → Action E β}
    (h : ∀ w w', I w w' → Mirrors I R (next w.session) (next' w'.session)) :
    Mirrors I R (current >>= next) (current >>= next') :=
  fun w w' hw => h w w' hw w w' hw

theorem mirrors_change {f g : Session → Session}
    (h : ∀ w w', I w w' → I { w with session := f w.session } { w' with session := g w'.session }) :
    Mirrors I (fun _ _ => True) (change f : Action E Unit) (change g) :=
  Mirrors.modify h

variable (hI : IsCommon connection own J I)
include hI

/-- The settings are the same but for functions of the cache. -/
theorem mirrors_settings :
    Mirrors I (fun settings settings' => settings.withCacheHooks {} = settings'.withCacheHooks {})
      (settings connection) (settings connection) :=
  fun _ _ hw => ⟨hI.sameSettings hw, hw⟩

/-- Actions that go on from the settings, and not from functions of the cache. -/
theorem mirrors_bindSettings {next : Settings → Action E α} {next' : Settings → Action E β}
    (hplain : ∀ s : Settings, next s = next (s.withCacheHooks {}))
    (hplain' : ∀ s : Settings, next' s = next' (s.withCacheHooks {}))
    (h : ∀ s : Settings, Mirrors I R (next s) (next' s)) :
    Mirrors I R (settings connection >>= next) (settings connection >>= next') := by
  refine Mirrors.bind hI.mirrors_settings fun s s' hs => ?_
  rw [hplain s, hplain' s', hs]
  exact h _

theorem mirrors_inHeap {step : Step Heap α} {other : Step Heap β} (h : Mirrors J R step other) :
    Mirrors I R (inHeap step) (inHeap other) :=
  Mirrors.onPart h (fun _ _ hw => hI.sameHeap hw) fun _ _ _ _ hw hh => hI.withHeap hw hh

/-! ## Drivers and dialects -/

theorem mirrors_makeDialect (d : Driver) :
    Mirrors I (fun made made' => made.dialect = made'.dialect) (makeDialect connection d)
      (makeDialect connection d) := by
  intro w w' hw
  cases hcreate : w.session.knownDialects.create d.kind.dialectName with
  | error failure =>
      rw [perform_makeDialect_error connection hcreate,
        perform_makeDialect_error connection (hI.sameKnownDialects hw ▸ hcreate)]
      exact ⟨rfl, hw⟩
  | ok D =>
      -- The numbers of the two dialects may differ.
      rw [perform_makeDialect_ok connection hcreate,
        perform_makeDialect_ok connection (hI.sameKnownDialects hw ▸ hcreate)]
      exact ⟨rfl, hI.withDialect D hw⟩

theorem mirrors_registerDriver {d : Driver} (hd : own d) :
    Mirrors I (fun _ _ => True) (registerDriver connection d) (registerDriver connection d) := by
  refine Mirrors.bind (mirrors_change fun w w' hw => hI.withDriver hd hw) fun _ _ _ => ?_
  refine Mirrors.bind (hI.mirrors_makeDialect d) fun made made' hmade => ?_
  rw [hmade]
  exact fun w w' hw => ⟨trivial, hI.withSettings made'.dialect hw⟩

theorem mirrors_driver : Mirrors I (fun d d' => d = d' ∧ own d) (driver connection) (driver connection) := by
  refine mirrors_bindCurrent fun w w' hw => ?_
  rw [hI.sameDriver hw]
  cases hd : Entries.get? connection w'.session.drivers with
  | some d => exact Mirrors.pure ⟨rfl, hI.owned hw hd⟩
  | none =>
      refine hI.mirrors_bindSettings (fun _ => rfl) (fun _ => rfl) fun settings => ?_
      refine Mirrors.bind (hI.opens (Opening.ofString settings.connectionString)) ?_
      rintro opened _ ⟨rfl, hown⟩
      exact Mirrors.bind (hI.mirrors_registerDriver hown) fun _ _ _ => Mirrors.pure ⟨rfl, hown⟩

theorem mirrors_dialect : Mirrors I Eq (dialect connection) (dialect connection) := by
  have hmade : Mirrors I (fun made made' => made.dialect = made'.dialect) (madeDialect connection)
      (madeDialect connection) := by
    refine mirrors_bindCurrent fun w w' hw => ?_
    have hsame := hI.sameDialect hw
    cases hmade : Entries.get? connection w.session.dialects with
    | some made =>
        cases hmade' : Entries.get? connection w'.session.dialects with
        | some made' =>
            rw [hmade, hmade'] at hsame
            exact Mirrors.pure (Option.some.inj hsame)
        | none => simp [hmade, hmade'] at hsame
    | none =>
        cases hmade' : Entries.get? connection w'.session.dialects with
        | some made' => simp [hmade, hmade'] at hsame
        | none =>
            refine Mirrors.bind hI.mirrors_driver ?_
            rintro d _ ⟨rfl, -⟩
            exact hI.mirrors_makeDialect d
  exact Mirrors.bind hmade fun _ _ hsame => Mirrors.pure hsame

/-! ## How statements are written -/

theorem mirrors_quoteMark : Mirrors I Eq (quoteMark connection) (quoteMark connection) := by
  have ofDialect : Mirrors I Eq (do return (← dialect connection).quoteMark : Action E String)
      (do return (← dialect connection).quoteMark) :=
    Mirrors.bindEq hI.mirrors_dialect fun _ => Mirrors.pure rfl
  refine hI.mirrors_bindSettings (fun _ => rfl) (fun _ => rfl) fun settings => ?_
  extract_lets afterDriver
  have hafter : ∀ u, Mirrors I Eq (afterDriver u) (afterDriver u) := by
    intro u
    refine hI.mirrors_bindSettings (fun _ => rfl) (fun _ => rfl) fun settings => ?_
    split
    · split
      · exact ofDialect
      · exact Mirrors.pure rfl
    · exact ofDialect
  split
  · exact Mirrors.bind (Mirrors.bind hI.mirrors_driver fun _ _ _ => Mirrors.pure rfl)
      fun u _ (hu : u = _) => hu ▸ hafter u
  · exact hafter ()

theorem mirrors_quote {identifier identifier' : Value}
    (h : Mirrors J Eq (Heap.identifier identifier) (Heap.identifier identifier')) :
    Mirrors I Eq (quote connection identifier) (quote connection identifier') := by
  refine Mirrors.bindEq hI.mirrors_quoteMark fun mark => Mirrors.bindEq (hI.mirrors_inHeap h) fun named => ?_
  exact Mirrors.lift _ fun _ _ => rfl

theorem mirrors_rendering : Mirrors I Eq (rendering connection) (rendering connection) := by
  refine Mirrors.bindEq hI.mirrors_dialect fun dialect => Mirrors.bindEq hI.mirrors_quoteMark fun mark => ?_
  exact hI.mirrors_bindSettings (fun _ => rfl) (fun _ => rfl) fun settings => Mirrors.pure rfl

end IsCommon

end FluentSql.Connection
