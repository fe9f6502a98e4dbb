import FluentSql.Proofs.Connection.Manner
import FluentSql.Proofs.Heap.Confined
import FluentSql.Proofs.Record.Alike
import FluentSql.Query.Select
import FluentSql.Record.Build
/-
# FluentSql.Proofs.Record.Beside — records that agree on one clause.

A builder call belongs to a clause of the statement and adds to this clause only. What it adds is decided by the record
without what was built before, by what the values of the call show, and by how the connection writes. A comparison
looks at the joins and at the alias of the table besides. So when a call is made with two records that have these in
common they get the same, whatever they hold for the other clauses (`Scope.Beside`).
-/

namespace FluentSql

open Step (EndAlike Mirrors Repeats)

/-! ## Clauses -/

/-- The parts of a query that calls add to independently of one another. -/
inductive ClauseName where
  | columns
  | distinct
  | tableAlias
  | joins
  | wheres
  | havings
  | groupBy
  | orderBy
  | limit
  | offset
  deriving DecidableEq

/-- The clauses that comparisons look at: the joins, and the alias of the table. -/
def ClauseName.naming : Set ClauseName := {.joins, .tableAlias}

theorem ClauseName.mem_naming_iff {k : ClauseName} : k ∈ naming ↔ k = .joins ∨ k = .tableAlias := Iff.rfl

/-- The clause that conditions of a kind are added to. -/
def ConditionKind.clause : ConditionKind → ClauseName
  | .whereClause => .wheres
  | .havingClause => .havings

theorem ConditionKind.clause_notMem_naming (kind : ConditionKind) : kind.clause ∉ ClauseName.naming := by
  cases kind <;> simp [clause, ClauseName.mem_naming_iff]

namespace Query

/-- The query with nothing but one clause. -/
def part (q : Query) : ClauseName → Query
  | .columns => { table := "", columns := q.columns, usesDefaultColumns := q.usesDefaultColumns }
  | .distinct => { table := "", distinct := q.distinct }
  | .tableAlias => { table := "", tableAlias := q.tableAlias }
  | .joins => { table := "", joins := q.joins }
  | .wheres => { table := "", wheres := q.wheres }
  | .havings => { table := "", havings := q.havings }
  | .groupBy => { table := "", groupBy := q.groupBy }
  | .orderBy => { table := "", orderBy := q.orderBy }
  | .limit => { table := "", limit := q.limit }
  | .offset => { table := "", offset := q.offset }

/-- A query is what was there before anything was built, with its clauses. -/
theorem eq_of_parts {q q' : Query} (hunbuilt : q.unbuilt = q'.unbuilt) (hparts : ∀ k, q.part k = q'.part k) :
    q = q' := by
  have hcolumns := hparts .columns
  have hdistinct := hparts .distinct
  have halias := hparts .tableAlias
  have hjoins := hparts .joins
  have hwheres := hparts .wheres
  have hhavings := hparts .havings
  have hgroup := hparts .groupBy
  have horder := hparts .orderBy
  have hlimit := hparts .limit
  have hoffset := hparts .offset
  cases q
  cases q'
  simp_all [part, unbuilt]

/-- A change of one clause, in which nothing but this clause plays a part. -/
structure EditsOnly (k : ClauseName) (f : Query → Query) : Prop where
  unbuilt : ∀ q, (f q).unbuilt = q.unbuilt
  others : ∀ q j, j ≠ k → (f q).part j = q.part j
  own : ∀ q q', q.part k = q'.part k → (f q).part k = (f q').part k

/-- The query with a clause of another one. -/
def withPart (q : Query) (p : Query) : ClauseName → Query
  | .columns => { q with columns := p.columns, usesDefaultColumns := p.usesDefaultColumns }
  | .distinct => { q with distinct := p.distinct }
  | .tableAlias => { q with tableAlias := p.tableAlias }
  | .joins => { q with joins := p.joins }
  | .wheres => { q with wheres := p.wheres }
  | .havings => { q with havings := p.havings }
  | .groupBy => { q with groupBy := p.groupBy }
  | .orderBy => { q with orderBy := p.orderBy }
  | .limit => { q with limit := p.limit }
  | .offset => { q with offset := p.offset }

theorem part_withPart_self (q p : Query) (k : ClauseName) : (q.withPart p k).part k = p.part k := by
  cases k <;> rfl

theorem part_withPart_of_ne (q p : Query) {j k : ClauseName} (hjk : j ≠ k) : (q.withPart p k).part j = q.part j := by
  cases k <;> cases j <;> first | rfl | exact absurd rfl hjk

theorem unbuilt_withPart (q p : Query) (k : ClauseName) : (q.withPart p k).unbuilt = q.unbuilt := by
  cases k <;> rfl

/-- A change edits one clause only if it can be made where there is nothing else. -/
theorem EditsOnly.of_withPart {k : ClauseName} {f : Query → Query} (hf : ∀ q, f q = q.withPart (f (q.part k)) k) :
    EditsOnly k f where
  unbuilt q := by rw [hf q, unbuilt_withPart]
  others q j hj := by rw [hf q, part_withPart_of_ne _ _ hj]
  own q q' hsame := by rw [hf q, hf q', part_withPart_self, part_withPart_self, hsame]

theorem editsOnly_addColumn (column : Piece) : EditsOnly .columns (addColumn column) :=
  .of_withPart fun q => by cases hdefault : q.usesDefaultColumns <;> simp [addColumn, part, withPart, hdefault]

theorem editsOnly_addCondition (kind : ConditionKind) (f : Fragment) : EditsOnly kind.clause (addCondition kind f) :=
  .of_withPart fun _ => by cases kind <;> rfl

theorem editsOnly_addJoin (f : Fragment) : EditsOnly .joins (addJoin f) := .of_withPart fun _ => rfl

theorem editsOnly_addGroup (entry : Piece) : EditsOnly .groupBy (addGroup entry) := .of_withPart fun _ => rfl

theorem editsOnly_addOrder (entry : Piece) : EditsOnly .orderBy (addOrder entry) := .of_withPart fun _ => rfl

theorem editsOnly_distinct : EditsOnly .distinct fun q => { q with distinct := true } := .of_withPart fun _ => rfl

theorem editsOnly_joins (joins : List Fragment) : EditsOnly .joins fun q => { q with joins := joins } :=
  .of_withPart fun _ => rfl

theorem editsOnly_tableAlias (v : Option Value) : EditsOnly .tableAlias fun q => { q with tableAlias := v } :=
  .of_withPart fun _ => rfl

theorem editsOnly_limit (v : Option Value) : EditsOnly .limit fun q => { q with limit := v } :=
  .of_withPart fun _ => rfl

theorem editsOnly_offset (v : Option Value) : EditsOnly .offset fun q => { q with offset := v } :=
  .of_withPart fun _ => rfl

end Query

/-! ## Heaps -/

/-- From the first heap to the second nothing but streams of the set was used up, and what was built into the queries
of records. -/
def Heap.UsesUp (T : Set Nat) (h h' : Heap) : Prop :=
  ∀ id, (h'.cell? id).map Cell.unbuilt = (h.cell? id).map Cell.unbuilt ∨ (id ∈ T ∧ ∃ rest rest',
    h.cell? id = some (.stream rest) ∧ h'.cell? id = some (.stream rest') ∧ rest' ⊆ rest)

namespace Heap

variable {S T : Set Nat} {h h' h'' g g' : Heap}

theorem UsesUp.refl (h : Heap) : h.UsesUp T h := fun _ => .inl rfl

theorem DrainsIn.usesUp (hd : h.DrainsIn T h') : h.UsesUp T h' :=
  fun id => (hd id).imp (congrArg (Option.map Cell.unbuilt)) fun hstream => hstream

/-- A stream can be told from everything else without what was built. -/
theorem eq_some_stream_of_unbuilt {cell cell' : Option Cell} (hshown : cell'.map Cell.unbuilt = cell.map Cell.unbuilt)
    {rest : List Value} (hrest : cell = some (.stream rest)) : cell' = some (.stream rest) := by
  rcases eq_or_record_of_unbuilt hshown with heq | ⟨r, r', hr, hr', -⟩
  · rw [← heq, hrest]
  · rw [hr'] at hrest
    cases hrest

theorem UsesUp.trans (hu : h.UsesUp T h') (hu' : h'.UsesUp T h'') : h.UsesUp T h'' := by
  intro id
  rcases hu id with heq | ⟨hid, rest, rest', hrest, hrest', hsubset⟩
  · rcases hu' id with heq' | ⟨hid, rest, rest', hrest, hrest', hsubset⟩
    · exact .inl (heq'.trans heq)
    · exact .inr ⟨hid, rest, rest', eq_some_stream_of_unbuilt heq.symm hrest, hrest', hsubset⟩
  · rcases hu' id with heq' | ⟨-, _, rest'', hmid, hrest'', hsubset'⟩
    · exact .inr ⟨hid, rest, rest', hrest, eq_some_stream_of_unbuilt heq' hrest', hsubset⟩
    · rw [hrest'] at hmid
      cases hmid
      exact .inr ⟨hid, rest, rest'', hrest, hrest'', List.Subset.trans hsubset' hsubset⟩

theorem UsesUp.isLike (hu : h.UsesUp T h') : h.IsLike h' := by
  intro id
  rcases hu id with heq | ⟨-, rest, rest', hrest, hrest', -⟩
  · rcases eq_or_record_of_unbuilt heq with heq | ⟨r, r', hr, hr', -⟩
    · exact .inl heq.symm
    · exact .inr (.inr ⟨r', r, hr', hr⟩)
  · exact .inr (.inl ⟨rest, rest', hrest, hrest'⟩)

theorem UsesUp.closed (hu : h.UsesUp T h') (hclosed : h.Closed S) : h'.Closed S := by
  intro id hid cell hcell
  rcases hu id with heq | ⟨-, rest, rest', hrest, hrest', hsubset⟩
  · rcases eq_or_record_of_unbuilt heq with heq | ⟨r, r', hr, hr', hunbuilt⟩
    · exact hclosed id hid cell (heq.trans hcell)
    · obtain ⟨-, -, -, hchanges, -⟩ := Record.unbuilt_eq_iff.1 hunbuilt
      have hwithin : Value.EntriesWithin S r'.changes.data := hclosed id hid _ hr'
      rw [hr] at hcell
      cases hcell
      exact (show Value.EntriesWithin S r.changes.data from hchanges ▸ hwithin)
  · have hwithin : Value.AllWithin S rest := hclosed id hid _ hrest
    rw [hrest'] at hcell
    cases hcell
    exact Value.allWithin_iff.2 fun item hitem => Value.allWithin_iff.1 hwithin item (hsubset hitem)

/-- No stream of the one set is in the other. -/
def Apart (S T : Set Nat) (h : Heap) : Prop := ∀ id ∈ S, id ∈ T → ∀ rest, h.cell? id ≠ some (.stream rest)

/-- A heap agrees with what is left of it on a set whose streams are not touched. -/
theorem UsesUp.agrees (hu : h.UsesUp T h') (hclosed : h.Closed S) (hapart : h.Apart S T) : h.Agrees S h' := by
  refine ⟨hu.isLike, fun id hid => ?_, hclosed⟩
  rcases hu id with heq | ⟨hin, rest, _, hrest, -⟩
  · exact heq.symm
  · exact absurd hrest (hapart id hid hin rest)

/-- What is a stream stays a stream. -/
theorem UsesUp.apart {S' T' : Set Nat} (hu : h.UsesUp T h') (hapart : h.Apart S' T') : h'.Apart S' T' := by
  intro id hS hT rest hrest
  rcases hu id with heq | ⟨-, rest', _, hrest', -⟩
  · exact hapart id hS hT rest (eq_some_stream_of_unbuilt heq.symm hrest)
  · exact hapart id hS hT rest' hrest'

end Heap

/-! ## Worlds -/

/-- Two worlds in which a connection writes in one manner, and in which streams of a set are used up. -/
structure World.Beside {E : Environment} (connection : String) (m : Connection.Manner) (S T : Set Nat) (h h' : Heap)
    (w w' : World E.State) : Prop where
  steady : Connection.IsSteady connection w
  steady' : Connection.IsSteady connection w'
  manner : Connection.manner connection w = m
  manner' : Connection.manner connection w' = m
  heap : Heap.Beside S T h h' w.heap w'.heap

namespace World.Beside

open Session (inHeap)

variable {E : Environment} {α : Type} {connection : String} {m : Connection.Manner} {S T : Set Nat} {h h' : Heap}
variable {P : α → Prop} {v : Value} {w w' : World E.State}

theorem resolves {f f' : World E.State} (hb : World.Beside connection m S T h h' w w')
    (hw : Connection.Resolves connection w f) (hw' : Connection.Resolves connection w' f') :
    World.Beside connection m S T h h' f f' :=
  ⟨hw.steady, hw'.steady, hw.manner.trans hb.manner, hw'.manner.trans hb.manner', by
    rw [hw.heap, hw'.heap]
    exact hb.heap⟩

theorem repeats_inHeap {step : Step Heap α} (hstep : Repeats (Heap.Beside S T h h') P step) :
    Repeats (World.Beside connection m S T h h') P (inHeap step : Action E α) :=
  Mirrors.onPart hstep (fun _ _ hb => hb.heap) fun _ _ _ _ hb hheap =>
    ⟨hb.steady.withHeap _, hb.steady'.withHeap _, hb.manner, hb.manner', hheap⟩

/-- An action that gives what the manner of the connection says. -/
theorem repeats_of_manner {action : Action E α} (result : Connection.Manner → Except Failure α)
    (hrun : ∀ {w : World E.State}, Connection.IsSteady connection w →
      ∃ w', action.perform w = (result (Connection.manner connection w), w') ∧ Connection.Resolves connection w w') :
    Repeats (World.Beside connection m S T h h') (fun _ => True) action := by
  intro _ _ hb
  obtain ⟨f, hf, hw⟩ := hrun hb.steady
  obtain ⟨f', hf', hw'⟩ := hrun hb.steady'
  rw [hf, hf', hb.manner, hb.manner']
  cases result m with
  | error failure => exact ⟨rfl, hb.resolves hw hw'⟩
  | ok a => exact ⟨⟨rfl, trivial⟩, hb.resolves hw hw'⟩

theorem repeats_quote (hv : v.Within T) :
    Repeats (World.Beside connection m S T h h') (fun _ => True) (Connection.quote connection v : Action E String) := by
  refine Repeats.bind (repeats_of_manner Connection.Manner.mark Connection.IsSteady.perform_quoteMark) fun mark _ => ?_
  refine Repeats.bind (repeats_inHeap (Heap.repeats_identifier hv)) fun named _ => ?_
  exact Repeats.lift fun _ _ => trivial

theorem repeats_rendering :
    Repeats (World.Beside connection m S T h h') (fun _ => True)
      (Connection.rendering connection : Action E Rendering) :=
  repeats_of_manner Connection.Manner.rendering Connection.IsSteady.perform_rendering

theorem repeats_cacheBehind? (hv : v.Within T) :
    Repeats (World.Beside connection m S T h h') (fun _ => True)
      (Connection.cacheBehind? v : Action E (Option CacheRef)) := by
  unfold Connection.cacheBehind?
  split
  · rename_i id
    refine Mirrors.bindGet fun w w' hb => ?_
    rcases hb.heap.agreesOn.cell? hv with heq | ⟨r, r', hr, hr', -⟩
    · rw [heq]
      split <;> exact Repeats.pure trivial
    · rw [hr, hr']
      exact Repeats.pure trivial
  · exact Repeats.pure trivial

theorem repeats_store (cache : CacheRef) :
    Repeats (World.Beside connection m S T h h') (fun _ => True) (Connection.store cache : Action E Cache.Store) := by
  intro w w' hb
  have hsame := hb.manner.trans hb.manner'.symm
  have hmemory : w.session.memory = w'.session.memory := congrArg Connection.Manner.memory hsame
  have hgiven : w.session.givenStores = w'.session.givenStores := congrArg Connection.Manner.givenStores hsame
  cases cache with
  | given id => exact ⟨⟨congrArg (fun stores : List Cache.Store => stores.getD id []) hgiven, trivial⟩, hb⟩
  | builtin => exact ⟨⟨hmemory, trivial⟩, hb⟩
  | hooks _ _ => exact ⟨⟨hmemory, trivial⟩, hb⟩

/-- The length of a value, or of the store that it refers to. -/
theorem repeats_length (hv : v.Within T) :
    Repeats (World.Beside connection m S T h h') (fun _ => True) (Connection.length v : Action E Nat) := by
  refine Repeats.bind (repeats_cacheBehind? hv) fun found _ => ?_
  split
  · exact Repeats.throw _
  · exact Repeats.bind (repeats_store _) fun _ _ => Repeats.pure trivial
  · refine Mirrors.bindGet fun w w' hb => ?_
    rw [hb.heap.agreesOn.length?_eq hv]
    exact Repeats.lift fun _ _ => trivial

end World.Beside

/-! ## Scopes -/

namespace Record

variable {E : Environment}

/-- Two scopes whose records agree on some clauses and on what was there before anything was built. Their heaps agree
on a set, and the connection writes in one manner. -/
structure Scope.Agrees (K : Set ClauseName) (S : Set Nat) (s s' : Scope E) : Prop where
  unbuilt : s.record.unbuilt = s'.record.unbuilt
  parts : ∀ j ∈ K, s.record.query.part j = s'.record.query.part j
  heap : s.published.heap.Agrees S s'.published.heap
  steady : Connection.IsSteady s.record.connection s.published
  steady' : Connection.IsSteady s.record.connection s'.published
  manner : Connection.manner s.record.connection s'.published = Connection.manner s.record.connection s.published

/-- The second scope comes from the first by adding to some clauses and using up streams of a set. -/
structure Scope.Builds (K : Set ClauseName) (T : Set Nat) (s s' : Scope E) : Prop where
  unbuilt : s'.record.unbuilt = s.record.unbuilt
  others : ∀ j ∉ K, s'.record.query.part j = s.record.query.part j
  heap : s.published.heap.UsesUp T s'.published.heap
  steady : Connection.IsSteady s.record.connection s'.published
  manner : Connection.manner s.record.connection s'.published = Connection.manner s.record.connection s.published

/-- Two scopes in the course of a builder call that belongs to a clause. They agree on this clause, and on others if
they are to be looked at. Where they agree on the names, the call does not belong to these, and the name of the table
shows the same. -/
structure Scope.Beside (K : Set ClauseName) (k : ClauseName) (S T : Set Nat) (s₀ s₀' s s' : Scope E) : Prop where
  agrees : s.Agrees K S s'
  mem : k ∈ K
  names : ClauseName.naming ⊆ K → k ∉ ClauseName.naming ∧ s.record.query.source.Within S
  subset : T ⊆ S
  closed : s.published.heap.Closed T
  builds : s₀.Builds {k} T s
  builds' : s₀'.Builds {k} T s'

variable {α : Type} {K : Set ClauseName} {k : ClauseName} {S T : Set Nat} {s₀ s₀' s s' : Scope E}

namespace Scope

theorem Agrees.connection_eq (hs : s.Agrees K S s') : s.record.connection = s'.record.connection :=
  (unbuilt_eq_iff.1 hs.unbuilt).1

theorem Builds.connection_eq (hs : s.Builds K T s') : s'.record.connection = s.record.connection :=
  (unbuilt_eq_iff.1 hs.unbuilt).1

theorem Builds.refl (hs : Connection.IsSteady s.record.connection s.published) : s.Builds K T s :=
  ⟨rfl, fun _ _ => rfl, .refl _, hs, rfl⟩

/-- What a record does in its world builds nothing. -/
theorem Builds.renewed {w : World E.State} (hs : s₀.Builds K T s) (hd : s.published.heap.DrainsIn T w.heap)
    (hsteady : Connection.IsSteady s.record.connection w)
    (hmanner : Connection.manner s.record.connection w = Connection.manner s.record.connection s.published) :
    s₀.Builds K T (s.renewed w) := by
  obtain ⟨hrecord, -, hpublished⟩ := renewed_eq hd.drains
  have hconnection := hs.connection_eq
  refine ⟨?_, ?_, ?_, ?_, ?_⟩
  · rw [hrecord]; exact hs.unbuilt
  · rw [hrecord]; exact hs.others
  · rw [hpublished]; exact hs.heap.trans hd.usesUp
  · rw [hpublished, ← hconnection]; exact hsteady
  · rw [hpublished, ← hconnection, hmanner, hconnection]; exact hs.manner

namespace Beside

variable (hb : Beside K k S T s₀ s₀' s s')
include hb

/-- The worlds in which the two records act. -/
theorem published :
    World.Beside s.record.connection (Connection.manner s.record.connection s.published) S T s.published.heap
      s'.published.heap s.published s'.published :=
  ⟨hb.agrees.steady, hb.agrees.steady', rfl, hb.agrees.manner, .start hb.agrees.heap hb.subset hb.closed⟩

/-- The records come back as they were from what they do in their worlds. -/
theorem renewed {w w' : World E.State}
    (hw : World.Beside s.record.connection (Connection.manner s.record.connection s.published) S T s.published.heap
      s'.published.heap w w') : Beside K k S T s₀ s₀' (s.renewed w) (s'.renewed w') := by
  obtain ⟨hrecord, -, hpublished⟩ := renewed_eq hw.heap.drains.drains
  obtain ⟨hrecord', -, hpublished'⟩ := renewed_eq hw.heap.drains'.drains
  have hsame := hb.agrees.connection_eq
  have hmanner' : Connection.manner s'.record.connection w' = Connection.manner s'.record.connection s'.published := by
    rw [← hsame, hw.manner', hb.agrees.manner]
  refine ⟨⟨?_, ?_, ?_, ?_, ?_, ?_⟩, hb.mem, ?_, hb.subset, ?_, hb.builds.renewed hw.heap.drains hw.steady hw.manner,
    hb.builds'.renewed hw.heap.drains' (hsame ▸ hw.steady') hmanner'⟩
  · rw [hrecord, hrecord']; exact hb.agrees.unbuilt
  · rw [hrecord, hrecord']; exact hb.agrees.parts
  · rw [hpublished, hpublished']; exact hw.heap.agrees
  · rw [hrecord, hpublished]; exact hw.steady
  · rw [hrecord, hpublished']; exact hw.steady'
  · rw [hrecord, hpublished, hpublished']; exact hw.manner'.trans hw.manner.symm
  · rw [hrecord]; exact hb.names
  · rw [hpublished]; exact hw.heap.closed

end Beside

/-- What is built into the record that acts does not show in its world. -/
theorem usesUp_changed (s : Scope E) {r : Record} (hr : r.unbuilt = s.record.unbuilt) :
    s.published.heap.UsesUp T { s with record := r }.published.heap := by
  intro id
  left
  cases hnumber : s.number with
  | none => simp only [Scope.published, hnumber]
  | some number =>
      simp only [Scope.published, hnumber]
      by_cases hid : id = number
      · subst hid
        cases hcell : s.world.heap.cell? id with
        | none => rw [Heap.replace_of_cell?_eq_none hcell, Heap.replace_of_cell?_eq_none hcell]
        | some cell =>
            rw [Heap.cell?_replace_self hcell, Heap.cell?_replace_self hcell]
            simp only [Option.map_some, Cell.unbuilt, hr]
      · rw [Heap.cell?_replace_of_ne hid, Heap.cell?_replace_of_ne hid]

theorem IsSteady.changed {connection : String} (hs : Connection.IsSteady connection s.published) (r : Record) :
    Connection.IsSteady connection { s with record := r }.published := by
  have hsession : { s with record := r }.published.session = s.published.session := by
    rw [session_published, session_published]
  refine ⟨?_, ?_⟩
  · rw [hsession]
    exact hs.opens
  · rw [hsession]
    exact hs.undecided

theorem manner_changed (connection : String) (s : Scope E) (r : Record) :
    Connection.manner connection { s with record := r }.published = Connection.manner connection s.published := by
  have hsession : { s with record := r }.published.session = s.published.session := by
    rw [session_published, session_published]
  have houtside : { s with record := r }.published.outside = s.published.outside := by
    rw [outside_published, outside_published]
  simp only [Connection.manner, Connection.prospect, Connection.driverKind, hsession, houtside]

theorem Builds.trans {s'' : Scope E} (hs : s.Builds K T s') (hs' : s'.Builds K T s'') : s.Builds K T s'' := by
  have hconnection := hs.connection_eq
  refine ⟨hs'.unbuilt.trans hs.unbuilt, fun j hj => (hs'.others j hj).trans (hs.others j hj), hs.heap.trans hs'.heap,
    ?_, ?_⟩
  · exact hconnection ▸ hs'.steady
  · exact (hconnection ▸ hs'.manner).trans hs.manner

/-- The scope with another query for its record. -/
def withQuery (f : Query → Query) (s : Scope E) : Scope E :=
  { s with record := { s.record with query := f s.record.query } }

theorem unbuilt_withQuery {f : Query → Query} (hf : Query.EditsOnly k f) :
    (s.withQuery f).record.unbuilt = s.record.unbuilt :=
  congrArg (fun q => { s.record with query := q }) (hf.unbuilt s.record.query)

theorem builds_withQuery (hs : Connection.IsSteady s.record.connection s.published) {f : Query → Query}
    (hf : Query.EditsOnly k f) : s.Builds {k} T (s.withQuery f) :=
  ⟨unbuilt_withQuery hf, hf.others s.record.query, usesUp_changed s (unbuilt_withQuery hf), IsSteady.changed hs _,
    manner_changed _ s _⟩

/-- The clause is edited alike in both records. -/
theorem Beside.withQuery (hb : Beside K k S T s₀ s₀' s s') {f : Query → Query} (hf : Query.EditsOnly k f) :
    Beside K k S T s₀ s₀' (s.withQuery f) (s'.withQuery f) := by
  have hbuilds : s.Builds {k} T (s.withQuery f) := builds_withQuery hb.agrees.steady hf
  have hbuilds' : s'.Builds {k} T (s'.withQuery f) :=
    builds_withQuery (hb.agrees.connection_eq ▸ hb.agrees.steady') hf
  have hlike : s.published.heap.Agrees S (s.withQuery f).published.heap :=
    (usesUp_changed (T := ∅) s (unbuilt_withQuery hf)).agrees hb.agrees.heap.closed fun _ _ hid => hid.elim
  have hlike' : s'.published.heap.Agrees S (s'.withQuery f).published.heap :=
    (usesUp_changed (T := ∅) s' (unbuilt_withQuery hf)).agrees hb.agrees.heap.closed' fun _ _ hid => hid.elim
  refine ⟨⟨?_, fun j hj => ?_, (hlike.symm.trans hb.agrees.heap).trans hlike', ?_, ?_, ?_⟩, hb.mem, fun hnames => ?_,
    hb.subset, hbuilds.heap.closed hb.closed, hb.builds.trans hbuilds, hb.builds'.trans hbuilds'⟩
  · rw [unbuilt_withQuery hf, unbuilt_withQuery hf, hb.agrees.unbuilt]
  · by_cases hjk : j = k
    · subst hjk
      exact hf.own _ _ (hb.agrees.parts j hj)
    · exact (hf.others _ j hjk).trans ((hb.agrees.parts j hj).trans (hf.others _ j hjk).symm)
  · exact hbuilds.steady
  · exact IsSteady.changed hb.agrees.steady' _
  · exact (manner_changed _ s' _).trans (hb.agrees.manner.trans (manner_changed _ s _).symm)
  · -- The alias is another clause, so the name of the table is what it was.
    obtain ⟨hk, hsource⟩ := hb.names hnames
    refine ⟨hk, ?_⟩
    have hne : ClauseName.tableAlias ≠ k := fun heq => hk (heq ▸ .inr rfl)
    have htable := congrArg Query.table (hf.unbuilt s.record.query)
    have hname := congrArg Query.tableAlias (hf.others s.record.query .tableAlias hne)
    change (f s.record.query).table = s.record.query.table at htable
    change (f s.record.query).tableAlias = s.record.query.tableAlias at hname
    show (f s.record.query).source.Within S
    rw [Query.source, htable, hname]
    exact hsource

end Scope

/-! ## What the two records do -/

section

variable {P : α → Prop} {v : Value}

theorem repeats_bindCurrent {next : Record → Record.Action E α}
    (hnext : ∀ s s', Scope.Beside K k S T s₀ s₀' s s' →
      Mirrors (Scope.Beside K k S T s₀ s₀') (fun a b => a = b ∧ P a) (next s.record) (next s'.record)) :
    Repeats (Scope.Beside K k S T s₀ s₀') P (current >>= next) :=
  fun s s' hb => hnext s s' hb s s' hb

theorem repeats_bindHeap {next : Heap → Record.Action E α}
    (hsame : ∀ g g', g.Agrees T g' → next g' = next g)
    (hnext : ∀ g, g.Closed T → Repeats (Scope.Beside K k S T s₀ s₀') P (next g)) :
    Repeats (Scope.Beside K k S T s₀ s₀') P (heap >>= next) := by
  intro s s' hb
  have hend := hnext _ hb.closed s s' hb
  show EndAlike _ _ ((next s.published.heap).perform s) ((next s'.published.heap).perform s')
  rw [hsame _ _ hb.published.heap.agreesOn]
  exact hend

theorem repeats_changeQuery {f : Query → Query} (hf : Query.EditsOnly k f) :
    Repeats (Scope.Beside K k S T s₀ s₀') (fun _ => True) (changeQuery f : Record.Action E Unit) :=
  fun _ _ hb => ⟨⟨rfl, trivial⟩, hb.withQuery hf⟩

theorem repeats_inWorld {connection : String} {action : FluentSql.Action E α}
    (haction : ∀ m h h', Repeats (World.Beside connection m S T h h') P action)
    (hconnection : s₀.record.connection = connection) :
    Repeats (Scope.Beside K k S T s₀ s₀') P (inWorld action) := by
  intro s s' hb
  subst hconnection
  rw [← hb.builds.connection_eq] at haction
  exact (haction _ _ _ _ _ hb.published).onPart fun w w' hw => hb.renewed hw

theorem repeats_inHeap {step : Step Heap α} (hstep : ∀ h h', Repeats (Heap.Beside S T h h') P step) :
    Repeats (Scope.Beside K k S T s₀ s₀') P (inHeap step : Record.Action E α) :=
  repeats_inWorld (fun _ h h' => World.Beside.repeats_inHeap (hstep h h')) rfl

/-- A value of the larger set is shown alike, too. -/
theorem repeats_displayed_of_within (hv : v.Within S) :
    Repeats (Scope.Beside K k S T s₀ s₀') (fun _ => True) (displayed v : Record.Action E String) :=
  fun _ _ hb => ⟨⟨congrArg Value.display (hb.agrees.heap.settle_eq hv).symm, trivial⟩, hb⟩

theorem repeats_displayed (hv : v.Within T) :
    Repeats (Scope.Beside K k S T s₀ s₀') (fun _ => True) (displayed v : Record.Action E String) :=
  fun s s' hb => repeats_displayed_of_within (hv.mono hb.subset) s s' hb

theorem repeats_quote (hv : v.Within T) :
    Repeats (Scope.Beside K k S T s₀ s₀') (fun _ => True) (quote v : Record.Action E String) := by
  refine repeats_bindCurrent fun s s' hb => ?_
  rw [← hb.agrees.connection_eq]
  exact repeats_inWorld (fun m h h' => World.Beside.repeats_quote hv) hb.builds.connection_eq.symm

theorem repeats_rendering :
    Repeats (Scope.Beside K k S T s₀ s₀') (fun _ => True) (rendering : Record.Action E Rendering) := by
  refine repeats_bindCurrent fun s s' hb => ?_
  rw [← hb.agrees.connection_eq]
  exact repeats_inWorld (fun m h h' => World.Beside.repeats_rendering) hb.builds.connection_eq.symm

end

end Record

end FluentSql
