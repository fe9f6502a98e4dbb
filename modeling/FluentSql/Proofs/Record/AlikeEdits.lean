import FluentSql.Proofs.Record.AlikeBuilding
import FluentSql.Record.Call
/-
# FluentSql.Proofs.Record.AlikeEdits — builder calls and edits that differ in the values they bind only.

Edits are alike if they write the same fields in the same way. The values of the fields may differ unless they are
written as SQL text. For data that replace those of the record it has to be said of which fields the values are the
same (`Call.Alike`): alike calls leave alike records alike if these are the fields that are SQL text already
(`endAlike_perform`).
-/

namespace FluentSql

open Step (EndAlike Mirrors)

/-! ## Alike calls -/

/-- No data, or mappings with the same fields. The values of a field are the same data if its name has a property. -/
inductive Heap.SameData (h h' : Heap) (P : String → Prop) : Value → Value → Prop
  | none : SameData h h' P .null .null
  | fields {data data' entries entries'} : h.entries? data = some entries → h'.entries? data' = some entries' →
      h.SameFields h' P entries entries' → SameData h h' P data data'

/-- Calls that extend the query or edit the row alike, for a record with a given key. The values that are given as data
are the same for the fields whose names have a property. -/
inductive Record.Call.Alike (h h' : Heap) (key : KeyColumns) (P : String → Prop) : Record.Call → Record.Call → Prop
  | build {call call'} : BuilderCall.Alike h h' key call call' → Alike h h' key P (.build call) (.build call')
  | create {data data'} : h.SameData h' P data data' → Alike h h' key P (.create data) (.create data')
  | hydrate {data data'} : h.SameData h' P data data' → Alike h h' key P (.hydrate data) (.hydrate data')
  | forceAllDirty : Alike h h' key P .forceAllDirty .forceAllDirty
  | useKey {columns columns'} : h.Same h' columns columns' → Alike h h' key P (.useKey columns) (.useKey columns')
  | write {name value value' asSql} : (asSql = true → h.Same h' value value') →
      Alike h h' key P (.write (.text name) value asSql) (.write (.text name) value' asSql)
  | writeEach {fields fields' entries entries' value value' asSql} : h.entries? fields = some entries →
      h'.entries? fields' = some entries' →
      List.Forall₂ (h.SameField h' fun _ => asSql = true) entries entries' →
      Alike h h' key P (.write fields value asSql) (.write fields' value' asSql)

namespace Record

variable {E : Environment} {h h' : Heap} {s s' : Scope E}

/-! ## Data -/

theorem Scope.Alike.withChanges (hs : Scope.Alike h h' s s') {c c' : Changes} (hc : Changes.Alike h h' c c') :
    Scope.Alike h h' { s with record := { s.record with changes := c } }
      { s' with record := { s'.record with changes := c' } } :=
  Scope.Alike.change (r := { s.record with changes := c }) hs
    ⟨hs.record.connection, hs.record.query, hc, hs.record.ownKey⟩ rfl rfl

theorem perform_hydrate {data : Value} {row : Row}
    (hrow : (rowOf data : FluentSql.Action E Row).perform s.published = (.ok row, s.published)) :
    (hydrate data : Record.Action E Unit).perform s =
      (changeRow (·.hydrate row)).perform (s.renewed s.published) := by
  rw [hydrate, Step.perform_bind_ok (perform_inWorld hrow)]

/-- Replacing the data keeps records alike if the fields that are SQL text get the same values. -/
theorem endAlike_hydrate (hs : Scope.Alike h h' s s') {data data' : Value}
    (hdata : h.SameData h' s.record.changes.Inlines data data') :
    EndAlike (Scope.Alike h h') (fun _ _ => True) ((hydrate data : Record.Action E Unit).perform s)
      ((hydrate data' : Record.Action E Unit).perform s') := by
  obtain ⟨row, row', hrow, hrow', hsame⟩ : ∃ row row',
      (rowOf data : FluentSql.Action E Row).perform s.published = (.ok row, s.published) ∧
      (rowOf data' : FluentSql.Action E Row).perform s'.published = (.ok row', s'.published) ∧
      h.SameFields h' s.record.changes.Inlines row row' := by
    cases hdata with
    | none => exact ⟨[], [], rfl, rfl, .nil⟩
    | fields hentries hentries' hsame =>
        exact ⟨_, _, perform_rowOf_of_entries? ((hs.heap.entries? _).trans hentries),
          perform_rowOf_of_entries? ((hs.heap'.entries? _).trans hentries'), hsame⟩
  have ht := hs.renewed hs.published
  obtain ⟨hrecord, -⟩ := Scope.renewed_eq (Heap.Drains.refl s.published.heap)
  rw [perform_hydrate hrow, perform_hydrate hrow']
  refine ⟨trivial, ht.withChanges (ht.record.changes.hydrate ?_)⟩
  rw [hrecord]
  exact hsame

/-- A record that is made new with data gets the data, all of them edited. -/
theorem perform_create_of_entries? {h : Heap} {data : Value} {entries : Row} (hdata : h.entries? data = some entries)
    (s : Scope E) : (create data : Record.Action E Unit).perform s =
      (do hydrate data; changeRow Changes.forceAllDirty : Record.Action E Unit).perform
        { s with record := { s.record with changes := { s.record.changes with isNew := true } } } := by
  cases data <;> first | rfl | cases hdata

/-- So does making a record new. All fields of the data are edited then, and those that were SQL text stay so. -/
theorem endAlike_create (hs : Scope.Alike h h' s s') {data data' : Value}
    (hdata : h.SameData h' s.record.changes.Inlines data data') :
    EndAlike (Scope.Alike h h') (fun _ _ => True) ((create data : Record.Action E Unit).perform s)
      ((create data' : Record.Action E Unit).perform s') := by
  have hnew := hs.withChanges (hs.record.changes.asNew true)
  cases hdata with
  | none => exact ⟨trivial, hnew⟩
  | fields hentries hentries' hsame =>
      rw [perform_create_of_entries? hentries, perform_create_of_entries? hentries']
      exact (endAlike_hydrate hnew (.fields hentries hentries' hsame)).bind fun _ _ _ =>
        mirrors_changeRow fun c c' hc => hc.forceAllDirty

/-! ## Fields -/

theorem mirrors_write {name : String} {value value' : Value} {asSql : Bool}
    (hvalue : asSql = true → h.Same h' value value') :
    Mirrors (Scope.Alike h h') (fun _ _ => True) (write (.text name) value asSql : Record.Action E Unit)
      (write (.text name) value' asSql) := by
  refine mirrors_bindHeap fun g g' hg hg' => ?_
  refine Mirrors.bind (R := fun _ _ => True) (mirrors_looking fun f f' hf hf' => ?_) fun _ _ _ =>
    mirrors_changeRow fun c c' hc => hc.set hvalue
  exact (Heap.Same.text name).mirrors_requireKey.mono fun _ _ _ => trivial

theorem mirrors_writeEach {fields fields' value value' : Value} {entries entries' : Row} {asSql : Bool}
    (hentries : h.entries? fields = some entries) (hentries' : h'.entries? fields' = some entries')
    (hall : List.Forall₂ (h.SameField h' fun _ => asSql = true) entries entries') :
    Mirrors (Scope.Alike h h') (fun _ _ => True) (write fields value asSql : Record.Action E Unit)
      (write fields' value' asSql) := by
  refine mirrors_bindHeap fun g g' hg hg' => ?_
  rw [hg.entries?, hg'.entries?, hentries, hentries']
  exact mirrors_changeRow fun c c' hc => Changes.Alike.setAll hall hc

theorem mirrors_useKey {columns columns' : Value} (hcolumns : h.Same h' columns columns') :
    Mirrors (Scope.Alike h h') (fun _ _ => True) (useKey columns : Record.Action E Unit) (useKey columns') := by
  have hset : ∀ {own own' : Option KeyColumns}, Option.Rel (KeyColumns.Same h h') own own' →
      Mirrors (Scope.Alike h h') (fun _ _ => True) (change fun r => { r with ownKey := own } : Record.Action E Unit)
        (change fun r => { r with ownKey := own' }) :=
    fun hown => mirrors_change (fun _ _ hr => { hr with ownKey := hown }) fun _ => ⟨rfl, rfl⟩
  have hitems : ∀ {v v' : Value}, h.Same h' v v' → Mirrors (Scope.Alike h h') (fun _ _ => True)
      (inHeap (Heap.items v) >>= fun columns => change fun r => { r with ownKey := some (.compound columns) } : Record.Action E Unit)
      (inHeap (Heap.items v') >>= fun columns => change fun r => { r with ownKey := some (.compound columns) }) :=
    fun hv => Mirrors.bind (mirrors_items hv) fun _ _ hcolumns => hset (.some (.compound hcolumns))
  cases hcolumns.form with
  | atom =>
      cases columns with
      | null => exact hset .none
      | text | style => exact hset (.some (.single rfl))
      | _ => exact hitems hcolumns
  | list hv hv' | tuple hv hv' | map hv hv' => cases hv <;> cases hv' <;> exact hitems hcolumns

/-! ## All calls -/

/-- **Alike calls leave alike records alike**, if data give the same values to the fields that are SQL text. -/
theorem endAlike_perform (hs : Scope.Alike h h' s s') {call call' : Call}
    (hcall : Call.Alike h h' s.key s.record.changes.Inlines call call') :
    EndAlike (Scope.Alike h h') (fun _ _ => True) ((perform call : Record.Action E Outcome).perform s)
      ((perform call' : Record.Action E Outcome).perform s') := by
  cases hcall with
  | build hcall => exact (endAlike_build hs hcall).bind fun _ _ _ => Mirrors.pure trivial
  | create hdata => exact (endAlike_create hs hdata).bind fun _ _ _ => Mirrors.pure trivial
  | hydrate hdata => exact (endAlike_hydrate hs hdata).bind fun _ _ _ => Mirrors.pure trivial
  | forceAllDirty =>
      exact Mirrors.bind (mirrors_changeRow fun c c' hc => hc.forceAllDirty) (fun _ _ _ => Mirrors.pure trivial) s s' hs
  | useKey hcolumns => exact Mirrors.bind (mirrors_useKey hcolumns) (fun _ _ _ => Mirrors.pure trivial) s s' hs
  | write hvalue => exact Mirrors.bind (mirrors_write hvalue) (fun _ _ _ => Mirrors.pure trivial) s s' hs
  | writeEach hentries hentries' hall =>
      exact Mirrors.bind (mirrors_writeEach hentries hentries' hall) (fun _ _ _ => Mirrors.pure trivial) s s' hs

end Record

end FluentSql
