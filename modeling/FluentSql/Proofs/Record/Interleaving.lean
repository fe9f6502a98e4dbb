import FluentSql.Proofs.Record.ConfinedCalls
/-
# FluentSql.Proofs.Record.Interleaving — calls for different clauses can be made in any order.

A run of builder calls is taken apart by clauses. Of each clause it leaves what the calls for this clause leave when all
others are left out (`agrees_built`). So two runs with the same calls for each clause leave the same statement, however
they are interleaved (`select_ignores_interleaving`), provided that the joins and the alias of the table are there
before anything is compared. What the calls use up must be divided among the clauses: an iterator that calls for two
clauses go through is empty for the one that comes second (`select_depends_on_interleaving`).
-/

namespace FluentSql

open Step (EndAlike Mirrors Repeats)

/-! ## Calls and clauses -/

namespace ClauseName

/-- What calls for a clause may see: what is its own, and the alias of the table. -/
def seen (own : ClauseName → Set Nat) (k : ClauseName) : Set Nat := own k ∪ own .tableAlias

/-- What calls for a clause may use up. The alias is only kept until a statement is written. -/
def usedUp (own : ClauseName → Set Nat) (k : ClauseName) : Set Nat := {id | k ≠ .tableAlias ∧ id ∈ own k}

end ClauseName

namespace BuilderCall

/-- The clauses that a call for a clause looks at. -/
def sees (call : BuilderCall) (k : ClauseName) : Set ClauseName :=
  {j | j = k ∨ (call.LooksAtNames ∧ j ∈ ClauseName.naming)}

/-- The calls for a clause, in their order. -/
def ofClause (k : ClauseName) (calls : List BuilderCall) : List BuilderCall :=
  calls.filter fun call => call.clause? = some k

theorem ofClause_cons_of_eq {call : BuilderCall} {k : ClauseName} {calls : List BuilderCall}
    (hk : call.clause? = some k) : ofClause k (call :: calls) = call :: ofClause k calls := by
  simp [ofClause, hk]

theorem ofClause_cons_of_ne {call : BuilderCall} {j k : ClauseName} {calls : List BuilderCall}
    (hj : call.clause? = some j) (hjk : j ≠ k) : ofClause k (call :: calls) = ofClause k calls := by
  simp [ofClause, hj, hjk]

/-- The joins and the alias of the table are there before anything is compared. -/
def NamesFirst (calls : List BuilderCall) : Prop :=
  calls.Pairwise fun call later => call.LooksAtNames → ∀ k, later.clause? = some k → k ∉ ClauseName.naming

end BuilderCall

namespace Record

variable {E : Environment} {own : ClauseName → Set Nat} {K : Set ClauseName} {j k : ClauseName} {S T : Set Nat}
variable {s s' s'' : Scope E} {call : BuilderCall}

/-- The scope that a call leaves, whether it fails or not. -/
def next (call : BuilderCall) (s : Scope E) : Scope E := ((build call).perform s).2

/-- The scope that calls leave one after the other, whether they fail or not. -/
def built (calls : List BuilderCall) (s : Scope E) : Scope E := calls.foldl (fun s call => next call s) s

namespace Scope

/-- What the heap keeps is divided among the clauses, so that no stream belongs to two of them. The name of the table
belongs to the alias. -/
structure Divides (own : ClauseName → Set Nat) (s : Scope E) : Prop where
  steady : Connection.IsSteady s.record.connection s.published
  closed : ∀ k, s.published.heap.Closed (own k)
  apart : ∀ j k, j ≠ k → s.published.heap.Apart (own j) (own k)
  source : s.record.query.source.Within (own .tableAlias)

/-- The call is for a clause, and all that it is given lies within what belongs to the clause. -/
structure Gives (own : ClauseName → Set Nat) (s : Scope E) (call : BuilderCall) (k : ClauseName) : Prop where
  clause : call.clause? = some k
  within : call.Within (own k)
  lent : ∀ v ∈ s.lent call, v.Within (own k)

/-! ## Records that agree -/

theorem Agrees.symm (hs : s.Agrees K S s') : s'.Agrees K S s := by
  have hconnection := hs.connection_eq
  exact ⟨hs.unbuilt.symm, fun j hj => (hs.parts j hj).symm, hs.heap.symm, hconnection ▸ hs.steady',
    hconnection ▸ hs.steady, hconnection ▸ hs.manner.symm⟩

theorem Agrees.trans (hs : s.Agrees K S s') (hs' : s'.Agrees K S s'') : s.Agrees K S s'' := by
  have hconnection := hs.connection_eq
  exact ⟨hs.unbuilt.trans hs'.unbuilt, fun j hj => (hs.parts j hj).trans (hs'.parts j hj), hs.heap.trans hs'.heap,
    hs.steady, hconnection ▸ hs'.steady', (hconnection ▸ hs'.manner).trans hs.manner⟩

/-- What two records agree on is a matter of the clauses, once the rest is the same. -/
theorem Agrees.withParts {K' : Set ClauseName} (hs : s.Agrees K S s')
    (hparts : ∀ j ∈ K', s.record.query.part j = s'.record.query.part j) : s.Agrees K' S s' :=
  ⟨hs.unbuilt, hparts, hs.heap, hs.steady, hs.steady', hs.manner⟩

theorem Agrees.lent_eq (hs : s.Agrees K S s') (call : BuilderCall) : s'.lent call = s.lent call := by
  obtain ⟨-, -, -, hchanges, -⟩ := unbuilt_eq_iff.1 hs.unbuilt
  cases call <;> simp only [lent, hs.key_eq, hchanges]

theorem Builds.lent_eq (hs : s.Builds K T s') (call : BuilderCall) : s'.lent call = s.lent call := by
  obtain ⟨-, -, -, hchanges, -⟩ := unbuilt_eq_iff.1 hs.unbuilt
  cases call <;> simp only [lent, hs.key_eq, hchanges]

theorem Builds.mono {K' : Set ClauseName} {T' : Set Nat} (hs : s.Builds K T s') (hK : K ⊆ K') (hT : T ⊆ T') :
    s.Builds K' T' s' :=
  ⟨hs.unbuilt, fun j hj => hs.others j fun hmem => hj (hK hmem),
    fun id => (hs.heap id).imp_right fun hstream => ⟨hT hstream.1, hstream.2⟩, hs.steady, hs.manner⟩

/-- A record agrees with itself as it was on a clause that was not built. -/
theorem Builds.agrees (hb : s.Builds K T s') (hs : Connection.IsSteady s.record.connection s.published)
    (hclosed : s.published.heap.Closed S) (hapart : s.published.heap.Apart S T) (hj : j ∉ K) : s.Agrees {j} S s' := by
  refine ⟨hb.unbuilt.symm, ?_, hb.heap.agrees hclosed hapart, hs, hb.steady, hb.manner⟩
  rintro _ rfl
  exact (hb.others _ hj).symm

/-! ## One call -/

theorem Divides.closed_seen (hs : s.Divides own) (k : ClauseName) :
    s.published.heap.Closed (ClauseName.seen own k) := by
  intro id hid cell hcell
  rcases hid with hid | hid
  · exact Cell.Within.mono Set.subset_union_left (hs.closed k id hid cell hcell)
  · exact Cell.Within.mono Set.subset_union_right (hs.closed .tableAlias id hid cell hcell)

/-- What a call for one clause may use up is no stream that calls for another one see. -/
theorem Divides.apart_seen (hs : s.Divides own) (hjk : j ≠ k) :
    s.published.heap.Apart (ClauseName.seen own j) (ClauseName.usedUp own k) := by
  rintro id (hid | hid) ⟨hk, hused⟩
  · exact hs.apart j k hjk id hid hused
  · exact hs.apart .tableAlias k (Ne.symm hk) id hid hused

/-- Two records that agree on all that a call sees. -/
theorem Divides.beside (hs : s.Divides own) (hk : call.clause? = some k)
    (hagrees : s.Agrees (call.sees k) (ClauseName.seen own k) s') :
    Beside (call.sees k) k (ClauseName.seen own k) (own k) s s' s s' := by
  refine ⟨hagrees, .inl rfl, fun hnames => ⟨?_, hs.source.mono Set.subset_union_right⟩, Set.subset_union_left,
    hs.closed k, .refl hs.steady, .refl (hagrees.connection_eq ▸ hagrees.steady')⟩
  -- A call that sees the joins and the alias belongs to one of them at most, so it looks at them.
  rcases hnames (.inl rfl) with hjoins | ⟨hlooks, -⟩
  · rcases hnames (.inr rfl) with halias | ⟨hlooks, -⟩
    · cases hjoins.trans halias.symm
    · exact BuilderCall.clause_of_looksAtNames hlooks hk
  · exact BuilderCall.clause_of_looksAtNames hlooks hk

/-- A call does the same with two records that agree on all that it sees. -/
theorem Divides.beside_next (hs : s.Divides own) (hcall : s.Gives own call k)
    (hagrees : s.Agrees (call.sees k) (ClauseName.seen own k) s') :
    Beside (call.sees k) k (ClauseName.seen own k) (own k) s s' (next call s) (next call s') :=
  (repeats_build hcall.clause hcall.within hcall.lent (fun hlooks _ hj => .inr ⟨hlooks, hj⟩) s s'
    (hs.beside hcall.clause hagrees)).leaves

theorem Divides.refl (hs : s.Divides own) (K : Set ClauseName) (k : ClauseName) :
    s.Agrees K (ClauseName.seen own k) s :=
  ⟨rfl, fun _ _ => rfl, .refl (hs.closed_seen k), hs.steady, hs.steady, rfl⟩

/-- Naming the table uses up nothing. -/
theorem eq_tableAlias_of_clause? (hk : call.clause? = some .tableAlias) : ∃ name, call = .tableAlias name := by
  cases call with
  | tableAlias name => exact ⟨name, rfl⟩
  | condition kind | among kind | keyIs kind =>
      exact absurd (.inr (Option.some.inj hk)) kind.clause_notMem_naming
  | _ => cases hk

/-- **A call adds to its clause and leaves the others alone.** -/
theorem Divides.builds_next (hs : s.Divides own) (hcall : s.Gives own call k) :
    s.Builds {k} (ClauseName.usedUp own k) (next call s) := by
  by_cases hk : k = .tableAlias
  · subst hk
    obtain ⟨name, rfl⟩ := eq_tableAlias_of_clause? hcall.clause
    exact builds_withQuery hs.steady (Query.editsOnly_tableAlias _)
  · exact (hs.beside_next hcall (hs.refl _ k)).builds.mono (fun _ hj => hj) fun _ hid => ⟨hk, hid⟩

/-- The name of the table is its alias, or what it was. -/
theorem Divides.source_next (hs : s.Divides own) (hcall : s.Gives own call k) :
    (next call s).record.query.source.Within (own .tableAlias) := by
  by_cases hk : k = .tableAlias
  · subst hk
    obtain ⟨name, rfl⟩ := eq_tableAlias_of_clause? hcall.clause
    show (name.toOption.getD (.text s.record.query.table)).Within _
    cases hname : name.toOption with
    | none => trivial
    | some v =>
        have hv : v = name := by cases name <;> cases hname <;> rfl
        exact hv ▸ hcall.within
  · have hb := hs.builds_next hcall
    have hname := congrArg Query.tableAlias (hb.others .tableAlias fun heq => hk heq.symm)
    change (next call s).record.query.tableAlias = s.record.query.tableAlias at hname
    obtain ⟨-, htable, -⟩ := unbuilt_eq_iff.1 hb.unbuilt
    rw [Query.source, hname, htable]
    exact hs.source

/-- What was divided stays divided. -/
theorem Divides.next (hs : s.Divides own) (hcall : s.Gives own call k) : (Record.next call s).Divides own := by
  have hb := hs.builds_next hcall
  refine ⟨hb.connection_eq ▸ hb.steady, fun j => hb.heap.closed (hs.closed j),
    fun i j hij => hb.heap.apart (hs.apart i j hij), hs.source_next hcall⟩

end Scope

/-! ## Runs -/

/-- Each of the calls is for some clause, and all that it is given lies within what belongs to the clause. -/
def Scope.GivesAll (own : ClauseName → Set Nat) (s : Scope E) (calls : List BuilderCall) : Prop :=
  ∀ call ∈ calls, ∃ k, s.Gives own call k

theorem Scope.Gives.of_builds (hcall : s.Gives own call k) (hb : s.Builds K T s') : s'.Gives own call k :=
  ⟨hcall.clause, hcall.within, hb.lent_eq call ▸ hcall.lent⟩

theorem Scope.GivesAll.of_builds {calls : List BuilderCall} (hcalls : s.GivesAll own calls) (hb : s.Builds K T s') :
    s'.GivesAll own calls :=
  fun call hcall => (hcalls call hcall).imp fun _ hgives => hgives.of_builds hb

/-- **A run adds to the clauses of its calls, and leaves the others alone.** -/
theorem Scope.Divides.built {calls : List BuilderCall} (hs : s.Divides own) (hcalls : s.GivesAll own calls) :
    (Record.built calls s).Divides own ∧
      s.Builds {k | ∃ call ∈ calls, call.clause? = some k} {id | ∃ k, id ∈ own k} (Record.built calls s) := by
  induction calls generalizing s with
  | nil => exact ⟨hs, .refl hs.steady⟩
  | cons call rest ih =>
      obtain ⟨⟨k, hcall⟩, hrest⟩ := List.forall_mem_cons.1 hcalls
      have hb := hs.builds_next hcall
      obtain ⟨hdivides, hbuilt⟩ := ih (hs.next hcall) (Scope.GivesAll.of_builds hrest hb)
      refine ⟨hdivides, (hb.mono ?_ ?_).trans (hbuilt.mono ?_ fun _ hid => hid)⟩
      · rintro _ rfl
        exact ⟨call, List.mem_cons_self, hcall.clause⟩
      · exact fun _ hid => ⟨k, hid.2⟩
      · rintro _ ⟨other, hother, hclause⟩
        exact ⟨other, List.mem_cons_of_mem _ hother, hclause⟩

/-- Nothing names a table once something is compared, so a comparison sees the names that a run ends with. -/
theorem Scope.Divides.part_name_built {rest : List BuilderCall} (hs : s.Divides own)
    (hcalls : s.GivesAll own (call :: rest)) (hfirst : BuilderCall.NamesFirst (call :: rest))
    (hlooks : call.LooksAtNames) (hj : j ∈ ClauseName.naming) :
    (Record.built (call :: rest) s).record.query.part j = s.record.query.part j := by
  refine (hs.built hcalls).2.others j ?_
  rintro ⟨other, hother, hclause⟩
  rcases List.mem_cons.1 hother with rfl | hother
  · exact BuilderCall.clause_of_looksAtNames hlooks hclause hj
  · exact (List.pairwise_cons.1 hfirst).1 other hother hlooks j hclause hj

/-- **Of a clause a run leaves what the calls for this clause leave alone.** Where they compare, the joins and the alias
are those that the run ends with. -/
theorem agrees_built {calls : List BuilderCall} (hs : s.Divides own) (hs' : s'.Divides own)
    (hagrees : s.Agrees {k} (ClauseName.seen own k) s') (hcalls : s.GivesAll own calls)
    (hfirst : BuilderCall.NamesFirst calls)
    (hnames : ∀ call ∈ calls, call.clause? = some k → call.LooksAtNames →
      ∀ j ∈ ClauseName.naming, (built calls s).record.query.part j = s'.record.query.part j) :
    (built calls s).Agrees {k} (ClauseName.seen own k) (built (BuilderCall.ofClause k calls) s') := by
  induction calls generalizing s s' with
  | nil => exact hagrees
  | cons call rest ih =>
      obtain ⟨⟨j, hcall⟩, hrest⟩ := List.forall_mem_cons.1 hcalls
      have hb := hs.builds_next hcall
      have hnext := hs.next hcall
      have hrest := Scope.GivesAll.of_builds hrest hb
      have hlater := (List.pairwise_cons.1 hfirst).2
      by_cases hjk : j = k
      · subst hjk
        have hcall' : s'.Gives own call j := ⟨hcall.clause, hcall.within, hagrees.lent_eq call ▸ hcall.lent⟩
        have hb' := hs'.builds_next hcall'
        have hsees : s.Agrees (call.sees j) (ClauseName.seen own j) s' := by
          refine hagrees.withParts ?_
          rintro i (rfl | ⟨hlooks, hi⟩)
          · exact hagrees.parts i rfl
          · have hlast := hnames call List.mem_cons_self hcall.clause hlooks i hi
            exact (hs.part_name_built hcalls hfirst hlooks hi).symm.trans hlast
        have hboth := (hs.beside_next hcall hsees).agrees
        have hagrees : (next call s).Agrees {j} (ClauseName.seen own j) (next call s') :=
          hboth.withParts fun i hi => hboth.parts i (.inl hi)
        rw [BuilderCall.ofClause_cons_of_eq hcall.clause]
        refine ih hnext (hs'.next hcall') hagrees hrest hlater fun other hother hclause hlooks i hi => ?_
        rw [hb'.others i fun heq : i = j => BuilderCall.clause_of_looksAtNames hlooks hclause (heq ▸ hi)]
        exact hnames other (List.mem_cons_of_mem _ hother) hclause hlooks i hi
      · have hspares : s.Agrees {k} (ClauseName.seen own k) (next call s) :=
          hb.agrees hs.steady (hs.closed_seen k) (hs.apart_seen (Ne.symm hjk)) (Ne.symm hjk)
        rw [BuilderCall.ofClause_cons_of_ne hcall.clause hjk]
        exact ih hnext hs' (hspares.symm.trans hagrees) hrest hlater fun other hother =>
          hnames other (List.mem_cons_of_mem _ hother)

/-! ## The statement -/

/-- Records that are the same see all of their worlds alike. -/
theorem Scope.Agrees.beside (hs : s.Agrees Set.univ Set.univ s') :
    Scope.Beside Set.univ .columns Set.univ Set.univ s s' s s' :=
  ⟨hs, trivial, fun _ => ⟨fun hnames => hnames.elim nofun nofun, Value.within_univ _⟩, fun _ hid => hid,
    Heap.closed_univ _, .refl hs.steady, .refl (hs.connection_eq ▸ hs.steady')⟩

section

variable {s₀ s₀' : Scope E}

theorem repeats_readyQuery :
    Repeats (Scope.Beside Set.univ .columns Set.univ Set.univ s₀ s₀') (fun _ => True)
      (readyQuery : Record.Action E Query) := by
  refine repeats_bindCurrent fun s s' hb => ?_
  have hquery : s'.record.query = s.record.query :=
    (Query.eq_of_parts (congrArg Record.query hb.agrees.unbuilt) fun j => hb.agrees.parts j trivial).symm
  rw [hquery]
  refine repeats_bindHeap (fun g g' hs => ?_) fun g _ => ?_
  · have hsettle : g'.settle = g.settle := funext fun v => hs.settle_eq v.within_univ
    rw [hsettle]
  · dsimp only
    split
    · exact Repeats.bind (repeats_inHeap fun _ _ => Heap.repeats_identifier (Value.within_univ _)) fun _ _ =>
        Repeats.pure trivial
    · exact Repeats.pure trivial

theorem repeats_compileSelect :
    Repeats (Scope.Beside Set.univ .columns Set.univ Set.univ s₀ s₀') (fun _ => True)
      (compileSelect : Record.Action E Sql) :=
  Repeats.bind repeats_rendering fun _ _ => Repeats.bind repeats_readyQuery fun _ _ => Repeats.lift fun _ _ => trivial

end

/-- The calls are each for some clause with what belongs to it, and the names are there before comparisons. -/
structure Scope.Independent (own : ClauseName → Set Nat) (s : Scope E) (calls : List BuilderCall) : Prop where
  gives : s.GivesAll own calls
  namesFirst : BuilderCall.NamesFirst calls

variable {calls calls' : List BuilderCall}

/-- Joins and aliases do not look at one another. -/
theorem Scope.Independent.part_name (hs : s.Divides own) (hcalls : s.Independent own calls)
    (hj : j ∈ ClauseName.naming) :
    (built calls s).record.query.part j = (built (BuilderCall.ofClause j calls) s).record.query.part j := by
  refine (agrees_built hs hs (hs.refl _ j) hcalls.gives hcalls.namesFirst fun call _ hclause hlooks => ?_).parts j rfl
  exact absurd hj (BuilderCall.clause_of_looksAtNames hlooks hclause)

/-- The scope with the joins and the alias that a run ends with. -/
def Scope.named (q : Query) (s : Scope E) : Scope E :=
  (s.withQuery fun q' => { q' with joins := q.joins }).withQuery fun q' => { q' with tableAlias := q.tableAlias }

theorem Scope.Divides.builds_named (hs : s.Divides own) (q : Query) : s.Builds ClauseName.naming ∅ (s.named q) := by
  let joined := s.withQuery fun q' => { q' with joins := q.joins }
  have hjoins : s.Builds {.joins} ∅ joined := builds_withQuery hs.steady (Query.editsOnly_joins _)
  have halias : joined.Builds {.tableAlias} ∅ (s.named q) :=
    builds_withQuery hjoins.steady (Query.editsOnly_tableAlias _)
  refine (hjoins.mono ?_ fun _ hid => hid).trans (halias.mono ?_ fun _ hid => hid)
  · rintro _ rfl
    exact .inl rfl
  · rintro _ rfl
    exact .inr rfl

/-- A name that belongs to the alias may be given to the table from the start. -/
theorem Scope.Divides.named {q : Query} (hs : s.Divides own) (htable : q.table = s.record.query.table)
    (hsource : q.source.Within (own .tableAlias)) : (s.named q).Divides own := by
  have hb := hs.builds_named q
  refine ⟨hb.connection_eq ▸ hb.steady, fun j => hb.heap.closed (hs.closed j),
    fun i j hij => hb.heap.apart (hs.apart i j hij), ?_⟩
  rw [Query.source, htable] at hsource
  exact hsource

/-- **Two runs with the same calls for each clause leave the same of each clause.** -/
theorem agrees_of_ofClause_eq (hs : s.Divides own) (hcalls : s.Independent own calls)
    (hcalls' : s.Independent own calls') (hsame : ∀ k, BuilderCall.ofClause k calls = BuilderCall.ofClause k calls')
    (k : ClauseName) : (built calls s).Agrees {k} (ClauseName.seen own k) (built calls' s) := by
  by_cases hk : k ∈ ClauseName.naming
  · have hnone : ∀ call : BuilderCall, call.clause? = some k → ¬ call.LooksAtNames := fun call hclause hlooks =>
      BuilderCall.clause_of_looksAtNames hlooks hclause hk
    have hleft := agrees_built hs hs (hs.refl _ k) hcalls.gives hcalls.namesFirst
      fun call _ hclause hlooks => absurd hlooks (hnone call hclause)
    have hright := agrees_built hs hs (hs.refl _ k) hcalls'.gives hcalls'.namesFirst
      fun call _ hclause hlooks => absurd hlooks (hnone call hclause)
    rw [← hsame k] at hright
    exact hleft.trans hright.symm
  · -- The calls for the clause are made alone where the table is named as it is in the end.
    obtain ⟨hdivides, hbuilt⟩ := hs.built hcalls.gives
    obtain ⟨-, htable, -⟩ := unbuilt_eq_iff.1 hbuilt.unbuilt
    let named := s.named (built calls s).record.query
    have hnamed : named.Divides own := hs.named htable hdivides.source
    have hagrees : s.Agrees {k} (ClauseName.seen own k) named :=
      (hs.builds_named _).agrees hs.steady (hs.closed_seen k) (fun _ _ hid => hid.elim) hk
    have hparts : ∀ j ∈ ClauseName.naming, (built calls s).record.query.part j = named.record.query.part j := by
      rintro _ (rfl | rfl) <;> rfl
    have hparts' : ∀ j ∈ ClauseName.naming, (built calls' s).record.query.part j = named.record.query.part j := by
      intro j hj
      rw [← hparts j hj, hcalls.part_name hs hj, hcalls'.part_name hs hj, hsame j]
    have hleft := agrees_built hs hnamed hagrees hcalls.gives hcalls.namesFirst fun _ _ _ _ => hparts
    have hright := agrees_built hs hnamed hagrees hcalls'.gives hcalls'.namesFirst fun _ _ _ _ => hparts'
    rw [← hsame k] at hright
    exact hleft.trans hright.symm

/-- Two runs with the same calls for each clause leave the same record, in worlds that look alike. -/
theorem agrees_of_interleaving (hs : s.Divides own) (hcalls : s.Independent own calls)
    (hcalls' : s.Independent own calls') (hsame : ∀ k, BuilderCall.ofClause k calls = BuilderCall.ofClause k calls') :
    (built calls s).Agrees Set.univ Set.univ (built calls' s) := by
  have hall := agrees_of_ofClause_eq hs hcalls hcalls' hsame
  have hbuilt := (hs.built hcalls.gives).2
  have hbuilt' := (hs.built hcalls'.gives).2
  refine ⟨(hall .columns).unbuilt, fun j _ => (hall j).parts j rfl, ⟨(hall .columns).heap.like, fun id _ => ?_,
    Heap.closed_univ _⟩, (hall .columns).steady, (hall .columns).steady', (hall .columns).manner⟩
  by_cases hid : ∃ k, id ∈ own k
  · obtain ⟨k, hid⟩ := hid
    exact (hall k).heap.shown id (.inl hid)
  · -- What belongs to no clause is in both runs what it was.
    have hleft := (hbuilt.heap id).resolve_right fun hstream => hid hstream.1
    have hright := (hbuilt'.heap id).resolve_right fun hstream => hid hstream.1
    exact hleft.trans hright.symm

/-- **Calls for different clauses can be made in any order.** Two runs with the same calls for each clause, in the same
order for each, leave records that stand for the same statement with the same parameters, or fail alike to stand for
any; and in what is left of the heap all values show the same. -/
theorem select_ignores_interleaving (hs : s.Divides own) (hcalls : s.Independent own calls)
    (hcalls' : s.Independent own calls') (hsame : ∀ k, BuilderCall.ofClause k calls = BuilderCall.ofClause k calls') :
    let run := (compileSelect : Record.Action E Sql).perform (built calls s)
    let run' := (compileSelect : Record.Action E Sql).perform (built calls' s)
    run.1 = run'.1 ∧ ∀ v, run.2.published.heap.settle v = run'.2.published.heap.settle v := by
  have hagrees := agrees_of_interleaving hs hcalls hcalls' hsame
  have hends := repeats_compileSelect _ _ hagrees.beside
  refine ⟨(hends.mono (fun _ _ hab => hab.1) fun _ _ hb => hb).same.1, fun v => ?_⟩
  exact (hends.leaves.agrees.heap.settle_eq v.within_univ).symm

/-! ## Two iterators, or one -/

/-- A record of orders that was just made, where there are two iterators. The connection is not open yet. -/
def orderDesk : Scope .quiet where
  record := onTable "orders" "default"
  world := { heap := ⟨[.stream [.int 1, .int 2], .stream [.int 3, .int 4]]⟩, outside := () }

/-- The first iterator belongs to WHERE, and the second one to HAVING. -/
def iterators : ClauseName → Set Nat
  | .wheres => {0}
  | .havings => {1}
  | _ => ∅

theorem eq_of_mem_iterators {id : Nat} (hj : id ∈ iterators j) (hk : id ∈ iterators k) : j = k := by
  cases j <;> first | exact hj.elim | (cases hj; cases k <;> first | rfl | exact hk.elim | cases hk)

theorem divides_orderDesk : orderDesk.Divides iterators where
  steady := ⟨fun _ _ _ => rfl, fun _ => rfl⟩
  closed k := by
    cases k with
    | wheres | havings =>
        rintro _ rfl _ ⟨⟩
        exact ⟨trivial, trivial, trivial⟩
    | _ => exact fun _ hid => hid.elim
  apart j k hne id hj hk := absurd (eq_of_mem_iterators hj hk) hne
  source := trivial

/-- Large orders among some of them, with a HAVING condition of their own. -/
def browsing : List BuilderCall := [
  .tableAlias (.text "o"),
  .join .plain (.text "items") (.text "o.id = items.order_id") .null,
  .condition .whereClause (.compare ">" (.text "total") (.int 10)),
  .among .whereClause "IN" (.text "id") (.ref 0),
  .among .havingClause "IN" (.text "quantity") (.ref 1),
  .limit (.int 5)]

/-- The same in another order. -/
def browsingOtherwise : List BuilderCall := [
  .limit (.int 5),
  .join .plain (.text "items") (.text "o.id = items.order_id") .null,
  .among .havingClause "IN" (.text "quantity") (.ref 1),
  .tableAlias (.text "o"),
  .condition .whereClause (.compare ">" (.text "total") (.int 10)),
  .among .whereClause "IN" (.text "id") (.ref 0)]

theorem independent_browsing : orderDesk.Independent iterators browsing where
  gives := by
    refine List.forall_mem_cons.2 ⟨⟨_, rfl, trivial, List.forall_mem_nil _⟩, ?_⟩
    refine List.forall_mem_cons.2 ⟨⟨_, rfl, ⟨trivial, trivial, trivial⟩, List.forall_mem_nil _⟩, ?_⟩
    refine List.forall_mem_cons.2 ⟨⟨_, rfl, ⟨trivial, trivial⟩, List.forall_mem_nil _⟩, ?_⟩
    refine List.forall_mem_cons.2 ⟨⟨_, rfl, ⟨trivial, rfl⟩, List.forall_mem_nil _⟩, ?_⟩
    refine List.forall_mem_cons.2 ⟨⟨_, rfl, ⟨trivial, rfl⟩, List.forall_mem_nil _⟩, ?_⟩
    exact List.forall_mem_singleton.2 ⟨_, rfl, trivial, List.forall_mem_nil _⟩
  namesFirst := by
    simp [browsing, BuilderCall.NamesFirst, BuilderCall.LooksAtNames, ConditionCall.IsComparison, BuilderCall.clause?,
      ConditionKind.clause, ClauseName.mem_naming_iff]

theorem independent_browsingOtherwise : orderDesk.Independent iterators browsingOtherwise where
  gives := fun call hcall => independent_browsing.gives call (by
    have hsubset : browsingOtherwise ⊆ browsing := by simp [browsing, browsingOtherwise]
    exact hsubset hcall)
  namesFirst := by
    simp [browsingOtherwise, BuilderCall.NamesFirst, BuilderCall.LooksAtNames, ConditionCall.IsComparison,
      BuilderCall.clause?, ConditionKind.clause, ClauseName.mem_naming_iff]

theorem ofClause_browsing (k : ClauseName) :
    BuilderCall.ofClause k browsing = BuilderCall.ofClause k browsingOtherwise := by
  cases k <;> rfl

theorem select_ignores_interleaving_browsing :
    let run := (compileSelect : Record.Action .quiet Sql).perform (built browsing orderDesk)
    let run' := (compileSelect : Record.Action .quiet Sql).perform (built browsingOtherwise orderDesk)
    run.1.toOption.isSome ∧ run.1 = run'.1 ∧
      ∀ v, run.2.published.heap.settle v = run'.2.published.heap.settle v :=
  ⟨by decide +kernel, select_ignores_interleaving divides_orderDesk independent_browsing independent_browsingOtherwise
    ofClause_browsing⟩

end Record

/-! ## What calls share -/

/-- An outside where the first connection fails, and the next one does not. -/
def Environment.waking : Environment where
  State := Bool
  digest text := text
  connect _ awake := (if awake then .ok ⟨⟨0⟩, "mysql", "format"⟩ else .error (.database "starting"), true)
  execute _ _ _ s := (.ok ⟨0, none, 0, .null⟩, s)
  fetch _ _ s := (.ok [], s)
  insertId _ s := (.ok .null, s)
  call _ _ := pure .null

namespace Record

variable {E : Environment}

/-- Any two runs with the same calls for each clause leave records that stand for the same statement, whatever the
calls go through and however opening the connection ends. -/
def IgnoresInterleaving (s : Scope E) : Prop :=
  ∀ calls calls', BuilderCall.NamesFirst calls → BuilderCall.NamesFirst calls' →
    (∀ call ∈ calls, call.clause?.isSome) → (∀ call ∈ calls', call.clause?.isSome) →
    (∀ k, BuilderCall.ofClause k calls = BuilderCall.ofClause k calls') →
    ((compileSelect : Record.Action E Sql).perform (built calls s)).1 =
      ((compileSelect : Record.Action E Sql).perform (built calls' s)).1

/-- The text of the statement that a record stands for after a run. -/
def textAfter (calls : List BuilderCall) (s : Scope E) : Option String :=
  ((compileSelect : Record.Action E Sql).perform (built calls s)).1.toOption.bind fun sql => sql.text.asText?

/-- Two calls for different clauses, neither of which looks at names, could be made in any order. -/
theorem IgnoresInterleaving.textAfter_swap {s : Scope E} (hs : IgnoresInterleaving s) (first second : BuilderCall)
    {j k : ClauseName} (hj : first.clause? = some j) (hk : second.clause? = some k) (hjk : j ≠ k)
    (hfirst : ¬ first.LooksAtNames) (hsecond : ¬ second.LooksAtNames) :
    textAfter [first, second] s = textAfter [second, first] s := by
  refine congrArg (fun result => result.toOption.bind fun sql => sql.text.asText?)
    (hs [first, second] [second, first] ?_ ?_ ?_ ?_ fun i => ?_)
  · simp [BuilderCall.NamesFirst, hfirst]
  · simp [BuilderCall.NamesFirst, hsecond]
  · simp [hj, hk]
  · simp [hj, hk]
  · by_cases hi : j = i <;> by_cases hi' : k = i <;> simp [BuilderCall.ofClause, hj, hk, hi, hi']
    exact (hjk (hi.trans hi'.symm)).elim

/-- A record of orders that was just made, while the database is starting. -/
def wakingDesk : Scope .waking where
  record := onTable "orders" "default"
  world := { outside := false }

/-- **An iterator is empty for the clause that comes second**, and a connection that cannot be opened yet fails the
call that comes first. -/
theorem select_depends_on_interleaving :
    ¬ IgnoresInterleaving orderDesk ∧ ¬ IgnoresInterleaving wakingDesk := by
  constructor
  · intro hall
    have hsame := hall.textAfter_swap (.among .whereClause "IN" (.text "id") (.ref 0))
      (.among .havingClause "IN" (.text "quantity") (.ref 0)) rfl rfl (by decide) id id
    exact absurd hsame (by decide +kernel)
  · intro hall
    have hsame := hall.textAfter_swap (.select (.text "day") .null) (.groupBy (.text "day")) rfl rfl (by decide) id id
    exact absurd hsame (by decide +kernel)

end Record

end FluentSql
