import FluentSql.Proofs.Record.AlikeStatements
/-
# FluentSql.Proofs.Record.Independence — texts of statements do not depend on the values that they bind.

Two runs of the same calls that give different values to bind leave alike records, so the statements of these have the
same texts (`texts_ignore_values`). What must be the same in both runs, beside names, expressions, limits and offsets,
are the data that are given for fields that are SQL text already: replacing the data of a record does not make its SQL
text plain again, and so a value becomes part of a statement (`not_ignoresValues_of_expression`).
-/

namespace FluentSql

open Step (EndAlike Mirrors)

namespace Record

variable {E : Environment} {h h' : Heap} {s s' : Scope E}

/-! ## Runs -/

/-- What is done with a record: a call is made, or a field is removed. -/
inductive Handling where
  | call (call : Call)
  | remove (name : Value)

namespace Handling

def action : Handling → Record.Action E Unit
  | .call c => discard (perform c)
  | .remove name => Record.remove name

/-- The same is done with a record, but different values may be given to bind. The data that are given are the same for
the fields whose names have a property. -/
inductive Alike (h h' : Heap) (key : KeyColumns) (P : String → Prop) : Handling → Handling → Prop
  | call {call call'} : Call.Alike h h' key P call call' → Alike h h' key P (.call call) (.call call')
  | remove (name : String) : Alike h h' key P (.remove (.text name)) (.remove (.text name))

end Handling

/-- The scope that a run leaves, whatever of it fails. -/
def handled (run : List Handling) (s : Scope E) : Scope E :=
  run.foldl (fun s step => (step.action.perform s).2) s

/-- Runs of the same calls, beginning with a scope. It is said which fields of the record must be given the same data
in both; the fields that are bound may be given any. -/
inductive AlikeRuns (h h' : Heap) (kept : Changes → String → Prop) :
    Scope E → List Handling → List Handling → Prop
  | nil {s : Scope E} : AlikeRuns h h' kept s [] []
  | cons {s : Scope E} {step step' run run'} : Handling.Alike h h' s.key (kept s.record.changes) step step' →
      AlikeRuns h h' kept (step.action.perform s).2 run run' →
      AlikeRuns h h' kept s (step :: run) (step' :: run')

/-- After all runs of the same calls, statements are written with the same text, or fail alike to be written, unless
a row is to be found by a key that is null. -/
def IgnoresValues (h h' : Heap) (kept : Changes → String → Prop) (s s' : Scope E) : Prop :=
  ∀ run run', AlikeRuns h h' kept s run run' → ∀ request,
    ¬ (handled run s).LacksKey request → ¬ (handled run' s').LacksKey request →
      EndAlike (Scope.Alike h h') SameRequest ((statement request).perform (handled run s))
        ((statement request).perform (handled run' s'))

/-! ## What a run leaves -/

theorem mirrors_remove (name : String) :
    Mirrors (Scope.Alike h h') (fun _ _ => True) (remove (.text name) : Record.Action E Unit) (remove (.text name)) := by
  refine Mirrors.bind (R := fun _ _ => True) (mirrors_looking fun g g' _ _ => ?_) fun _ _ _ =>
    mirrors_changeRow fun c c' hc => hc.unset name
  exact (Heap.Same.text name).mirrors_requireKey.mono fun _ _ _ => trivial

theorem perform_discard_snd {α : Type} (action : Record.Action E α) (s : Scope E) :
    ((discard action : Record.Action E PUnit).perform s).2 = (action.perform s).2 := by
  show ((action >>= fun _ => pure PUnit.unit : Record.Action E PUnit).perform s).2 = _
  rw [Step.perform_bind]
  rcases action.perform s with ⟨_ | _, _⟩ <;> rfl

/-- One step of a run leaves alike records alike. -/
theorem alike_action (hs : Scope.Alike h h' s s') {step step' : Handling}
    (hstep : Handling.Alike h h' s.key s.record.changes.Inlines step step') :
    Scope.Alike h h' (step.action.perform s).2 (step'.action.perform s').2 := by
  cases hstep with
  | call hcall =>
      rw [Handling.action, Handling.action, perform_discard_snd, perform_discard_snd]
      exact (endAlike_perform hs hcall).leaves
  | remove name => exact Mirrors.leaves (mirrors_remove name) hs

/-- So does a whole run. -/
theorem alike_handled (hs : Scope.Alike h h' s s') {run run' : List Handling}
    (hrun : AlikeRuns h h' Changes.Inlines s run run') : Scope.Alike h h' (handled run s) (handled run' s') := by
  induction hrun generalizing s' with
  | nil => exact hs
  | cons hstep _ ih => exact ih (alike_action hs hstep)

/-- **The texts of statements do not depend on the values that they bind.** -/
theorem texts_ignore_values (hs : Scope.Alike h h' s s') : IgnoresValues h h' Changes.Inlines s s' :=
  fun _ _ hrun request hkey hkey' => endAlike_statement (alike_handled hs hrun) request hkey hkey'

/-- Records that were just made for a table are alike, whatever else the heaps of their worlds hold. -/
theorem alike_onTable {w w' : World E.State} (table connection : String) (hsession : w.session = w'.session)
    (houtside : w.outside = w'.outside)
    (hkey : (w.session.settingsOf connection).HaveSameKey w.heap w'.heap table) :
    Scope.Alike w.heap w'.heap { record := onTable table connection, world := w : Scope E }
      { record := onTable table connection, world := w' } where
  record := ⟨rfl, ⟨rfl, .none, rfl, rfl, rfl, rfl, rfl, rfl, rfl, rfl, .none, .none, rfl⟩,
    ⟨.nil, .nil, rfl, List.forall_mem_nil _, rfl⟩, .none⟩
  configured := hkey
  session := hsession
  outside := houtside
  heap := .refl _
  heap' := .refl _

/-- A record of orders that was just made, on an outside that counts INSERTs. -/
def freshOrder : Scope .counting where
  record := onTable "orders" "default"
  world := { (onCountingDesk {}).world with heap := ⟨[]⟩ }

theorem alike_freshOrder : Scope.Alike ⟨[]⟩ ⟨[]⟩ freshOrder freshOrder :=
  alike_onTable (w := freshOrder.world) "orders" "default" rfl rfl ⟨rfl, rfl, .single rfl⟩

/-- The orders of a customer between two numbers are looked for, and one more is noted. -/
def noting (customer : String) (low high : Int) : List Handling := [
  .call (.build (.condition .whereClause (.compare "=" (.text "customer") (.text customer)))),
  .call (.build (.among .whereClause "IN" (.text "id") (.list [.int low, .int high]))),
  .call (.create (.map [(.text "customer", .text customer)])),
  .call (.write (.text "total") (.int high) false)]

theorem texts_ignore_values_noting :
    ∃ sql sql' t t',
      (statement .save).perform (handled (noting "Ann" 3 4) freshOrder) = (.ok (some sql), t) ∧
      (statement .save).perform (handled (noting "'); --" 1 9) freshOrder) = (.ok (some sql'), t') ∧
      sql.text = sql'.text := by
  have hruns : AlikeRuns ⟨[]⟩ ⟨[]⟩ Changes.Inlines freshOrder (noting "Ann" 3 4) (noting "'); --" 1 9) := by
    refine .cons (.call (.build (.condition (.compare (.text _))))) ?_
    refine .cons (.call (.build (.among (.text _) rfl (.sequence (.inl rfl) (.inl rfl) rfl)))) ?_
    refine .cons (.call (.create (.fields rfl rfl ⟨List.pairwise_singleton _ _, .cons (.of fun hin => ?_) .nil⟩))) ?_
    · cases hin
    · exact .cons (.call (.write fun hsql => by cases hsql)) .nil
  have hends := texts_ignore_values alike_freshOrder _ _ hruns .save (fun hlacks => by cases hlacks.1)
    (fun hlacks => by cases hlacks.1)
  obtain ⟨sql, t, hrun⟩ : ∃ sql t,
      (statement .save).perform (handled (noting "Ann" 3 4) freshOrder) = (.ok (some sql), t) := ⟨_, _, rfl⟩
  obtain ⟨sql', t', hrun'⟩ : ∃ sql t,
      (statement .save).perform (handled (noting "'); --" 1 9) freshOrder) = (.ok (some sql), t) := ⟨_, _, rfl⟩
  rw [hrun, hrun'] at hends
  exact ⟨sql, sql', t, t', hrun, hrun', Option.some.inj hends.1⟩

/-- A value that is given for a field that is SQL text becomes part of the INSERT. -/
theorem not_ignoresValues_of_expression :
    ¬ IgnoresValues ⟨[]⟩ ⟨[]⟩ (fun _ _ => False) freshOrder freshOrder := by
  let run (v : String) : List Handling :=
    [.call (.write (.text "note") (.text "NOW()") true), .call (.create (.map [(.text "note", .text v)]))]
  intro hignores
  have hruns : AlikeRuns ⟨[]⟩ ⟨[]⟩ (fun _ _ => False) freshOrder (run "x") (run "y") := by
    refine .cons (.call (.write fun _ => .text _)) (.cons (.call (.create (.fields rfl rfl ?_))) .nil)
    exact ⟨List.pairwise_singleton _ _, .cons (.of False.elim) .nil⟩
  have hends := hignores _ _ hruns .save (fun hlacks => by cases hlacks.1) (fun hlacks => by cases hlacks.1)
  obtain ⟨sql, t, hrun, htext⟩ : ∃ sql t, (statement .save).perform (handled (run "x") freshOrder) =
      (.ok (some sql), t) ∧ sql.text = .text "INSERT INTO \x60orders\x60 (\x60note\x60) VALUES (x)" :=
    ⟨_, _, rfl, congrArg Value.text (by decide +kernel)⟩
  obtain ⟨sql', t', hrun', htext'⟩ : ∃ sql t, (statement .save).perform (handled (run "y") freshOrder) =
      (.ok (some sql), t) ∧ sql.text = .text "INSERT INTO \x60orders\x60 (\x60note\x60) VALUES (y)" :=
    ⟨_, _, rfl, congrArg Value.text (by decide +kernel)⟩
  rw [hrun, hrun'] at hends
  have hsame : sql.text = sql'.text := Option.some.inj hends.1
  rw [htext, htext'] at hsame
  exact absurd (Value.text.inj hsame) (by decide)

end Record

end FluentSql
