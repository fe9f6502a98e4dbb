import FluentSql.Record.Build
import FluentSql.Proofs.Query.Spelling
import FluentSql.Proofs.Record.Balance
import FluentSql.Proofs.Record.Key
/-
# FluentSql.Proofs.Record.Building — builder calls keep the query of a record spelled.

A builder call speaks in a vocabulary if the tables, columns and aliases that it names are names of the
vocabulary and its operators words. Whatever such a call adds to a query is spelled, and so is what it
added before it failed. So the query of a record is spelled after any run of such calls (`Built.speaks`).
-/

namespace FluentSql

open Step (Keeps Triple)

variable {voc : Vocabulary}

/-! ## Queries -/

namespace Query.IsSpelled

variable {q : Query}

theorem onTable {table : String} (h : voc.names table) : Query.IsSpelled voc { table } := by
  have hcolumn : voc.Spells "*".toList 0 := voc.spells_ordinary _ (by decide)
  refine ⟨h, by simp, ?_, by simp, by simp, by simp, by simp, by simp, rfl, rfl, rfl⟩
  intro p hp
  exact ⟨"*", List.mem_singleton.1 hp, hcolumn⟩

/-- The name that qualifies the columns of the query is one of the vocabulary. -/
theorem source (h : q.IsSpelled voc) : ∃ source, q.source = .text source ∧ voc.names source := by
  unfold Query.source
  cases hname : q.tableAlias with
  | none => exact ⟨q.table, rfl, h.table⟩
  | some v => exact h.tableAlias v hname

theorem addColumn (h : q.IsSpelled voc) {s : String} (hs : voc.Spells s.toList 0) :
    (q.addColumn s).IsSpelled voc := by
  have hcolumn : Piece.IsSpelled voc (.text s) := ⟨s, rfl, hs⟩
  unfold Query.addColumn
  split
  · exact { h with columns := by simpa using hcolumn }
  · refine { h with columns := ?_ }
    simpa [or_imp, forall_and, hcolumn] using h.columns

theorem resetColumns (h : q.IsSpelled voc) : q.resetColumns.IsSpelled voc :=
  { h with columns := (onTable h.table).columns }

theorem distinct (h : q.IsSpelled voc) : Query.IsSpelled voc { q with distinct := true } :=
  { h with }

theorem withAlias (h : q.IsSpelled voc) {name : Option Value} (hname : ∀ v, name = some v → voc.Name v) :
    Query.IsSpelled voc { q with tableAlias := name } :=
  { h with tableAlias := hname }

theorem addJoin (h : q.IsSpelled voc) {f : Fragment} (hf : f.IsSpelled voc) :
    (q.addJoin f).IsSpelled voc := by
  refine { h with joins := ?_ }
  simpa [Query.addJoin, or_imp, forall_and, hf] using h.joins

theorem addCondition (h : q.IsSpelled voc) (kind : ConditionKind) {f : Fragment} (hf : f.IsSpelled voc) :
    (q.addCondition kind f).IsSpelled voc := by
  cases kind with
  | whereClause =>
      refine { h with wheres := ?_ }
      simpa [Query.addCondition, or_imp, forall_and, hf] using h.wheres
  | havingClause =>
      refine { h with havings := ?_ }
      simpa [Query.addCondition, or_imp, forall_and, hf] using h.havings

theorem addConditions (kind : ConditionKind) {added : List Fragment}
    (hadded : ∀ f ∈ added, f.IsSpelled voc) (h : q.IsSpelled voc) :
    (q.addConditions kind added).IsSpelled voc := by
  induction added generalizing q with
  | nil => exact h
  | cons f added ih =>
      exact ih (fun g hg => hadded g (List.mem_cons_of_mem _ hg))
        (h.addCondition kind (hadded f List.mem_cons_self))

theorem addGroup (h : q.IsSpelled voc) {s : String} (hs : voc.Spells s.toList 0) :
    (q.addGroup s).IsSpelled voc := by
  have hentry : Piece.IsSpelled voc (.text s) := ⟨s, rfl, hs⟩
  refine { h with groupBy := ?_ }
  simpa [Query.addGroup, or_imp, forall_and, hentry] using h.groupBy

theorem addOrder (h : q.IsSpelled voc) {s : String} (hs : voc.Spells s.toList 0) :
    (q.addOrder s).IsSpelled voc := by
  have hentry : Piece.IsSpelled voc (.text s) := ⟨s, rfl, hs⟩
  refine { h with orderBy := ?_ }
  simpa [Query.addOrder, or_imp, forall_and, hentry] using h.orderBy

end Query.IsSpelled

/-! ## Calls that speak in a vocabulary -/

/-- The value is a list or tuple of the items. -/
def Heap.HasItems (h : Heap) (v : Value) (items : List Value) : Prop :=
  h.content v = .list items ∨ h.content v = .tuple items

/-- The value is an alias: a name of the vocabulary, or null for none. -/
def Vocabulary.Alias (voc : Vocabulary) (v : Value) : Prop := v = .null ∨ voc.Name v

namespace BuilderCall

/-- The argument names columns: it is a name, a mapping from aliases to names, or a list or tuple of
names. -/
def NamesColumns (voc : Vocabulary) (h : Heap) (argument : Value) : Prop :=
  voc.Name argument ∨
    (∃ entries, h.content argument = .map entries ∧ ∀ e ∈ entries, voc.Alias e.1 ∧ voc.Name e.2) ∨
    ∃ items, h.HasItems argument items ∧ voc.Names items

/-- The constraint of a join is a triple: two columns with an operator between them. -/
def IsTriple (voc : Vocabulary) (h : Heap) (constraint : Value) : Prop :=
  ∃ first word second, h.HasItems constraint [first, .text word, second] ∧
    voc.Name first ∧ voc.Words word ∧ voc.Name second

/-- The value gives the key single values: it is one, or a mapping of some for a key of several
columns. -/
def BindsKey (h : Heap) (id : Value) : KeyColumns → Prop
  | .single _ => (h.asItems id).length = 1
  | .compound _ => ∃ entries, h.content id = .map entries ∧ ∀ e ∈ entries, (h.asItems e.2).length = 1

/-- The call names tables, columns and aliases of the vocabulary, and its operators are words. It is none
of the calls that take SQL text or limit the rows, compares columns with single values, and inlines
nothing. -/
def SpeaksIn (voc : Vocabulary) (h : Heap) (inlined : List Value) (key : KeyColumns) :
    BuilderCall → Prop
  | .select column asName => voc.Name column ∧ voc.Alias asName
  | .selectMany columns => ∀ argument ∈ columns, NamesColumns voc h argument
  | .distinct => True
  | .tableAlias asName => voc.Alias asName
  | .join _ table constraint asName => voc.Name table ∧ IsTriple voc h constraint ∧ voc.Alias asName
  | .condition _ call => call.SpeaksIn voc h ∧ ∀ e ∈ call.subjects h, call.BindsOne h e
  | .among _ operator column values =>
    inlined = [] ∧ (ConditionCall.among operator column values (.list [])).SpeaksIn voc h
  | .keyIs _ id => voc.Names key.columns ∧ BindsKey h id key
  | .keyIn _ => inlined = [] ∧ voc.Names key.columns
  | .groupBy column => voc.Name column
  | .orderBy column _ => voc.Name column
  | _ => False

end BuilderCall

namespace Heap

variable {h h' : Heap} {v : Value} {items : List Value}

/-- What is no stream has the same content in heaps that are alike. -/
theorem IsLike.content_eq (hl : h.IsLike h')
    (hv : ∀ rest, h.content v ≠ .stream rest) : h'.content v = h.content v := by
  rcases hl.content v with heq | ⟨rest, -, hrest, -⟩
  · exact heq
  · exact absurd hrest (hv rest)

theorem asText?_eq_none (hv : (h.content v).asText? = none) : v.asText? = none := by
  cases v with
  | text s => exact hv
  | style s => exact hv
  | _ => rfl

theorem HasItems.of_isLike (hv : h.HasItems v items) (hl : h.IsLike h') : h'.HasItems v items := by
  have hsame := hl.content_eq (v := v) (by rcases hv with heq | heq <;> simp [heq])
  rwa [HasItems, hsame]

theorem HasItems.items? (hv : h.HasItems v items) : h.items? v = .ok items := by
  rcases hv with heq | heq <;> simp only [Heap.items?, heq] <;> rfl

theorem HasItems.entries? (hv : h.HasItems v items) : h.entries? v = none := by
  rcases hv with heq | heq <;> simp only [Heap.entries?, heq]

theorem HasItems.asText? (hv : h.HasItems v items) : v.asText? = none := by
  have hcontent : (h.content v).asText? = none := by rcases hv with heq | heq <;> rw [heq] <;> rfl
  exact asText?_eq_none hcontent

/-- Going through a list or tuple gives its items. -/
theorem HasItems.triple_items (hv : h.HasItems v items) :
    Triple h.Drains (Heap.items v) (fun all h' => h.Drains h' ∧ all = items) h.Drains := by
  refine Triple.of_states fun h' hd => (Heap.triple_items h' v).consequence (fun _ hs => hs) ?_ ?_
  · rintro all h'' ⟨hd', hall⟩
    rw [(hv.of_isLike hd.isLike).items?] at hall
    cases hall
    exact ⟨hd.trans hd', rfl⟩
  · exact fun h'' hd' => hd.trans hd'

end Heap

namespace Record

open Scope (Holds)

variable {E : Environment} {h : Heap} {s : Scope E}

/-- The query of the record is spelled, its connection quotes with marks of the vocabulary, and the heap
is like another one. -/
structure Scope.Speaks (voc : Vocabulary) (h : Heap) (s : Scope E) : Prop where
  query : s.record.query.IsSpelled voc
  marks : s.world.session.HasMarks voc.marks s.record.connection
  heap : h.IsLike s.published.heap

theorem Scope.Speaks.of_holds {s' : Scope E} {r : Record} (hs' : Holds voc.marks s r s')
    (hquery : r.query.IsSpelled voc) (hheap : h.IsLike s.published.heap) : s'.Speaks voc h :=
  ⟨hs'.record ▸ hquery, hs'.record ▸ hs'.marks, hheap.trans hs'.heap⟩

/-- What holds a record that speaks, speaks. -/
theorem triple_speaks {α : Type} {step : Record.Action E α} {Q : α → Prop}
    (hstep : ∀ s : Scope E, Triple (Holds voc.marks s s.record) step
      (fun a s' => Holds voc.marks s s.record s' ∧ Q a) (Holds voc.marks s s.record)) :
    Triple (Scope.Speaks voc h) step (fun a s' => s'.Speaks voc h ∧ Q a) (Scope.Speaks voc h) := by
  refine Triple.of_states fun s hs => (hstep s).consequence ?_ ?_ ?_
  · rintro _ rfl
    exact holds_self hs.marks
  · rintro a s' ⟨hs', hQ⟩
    exact ⟨.of_holds hs' hs.query hs.heap, hQ⟩
  · exact fun s' hs' => .of_holds hs' hs.query hs.heap

theorem keeps_changeQuery {f : Query → Query}
    (hf : ∀ q : Query, q.IsSpelled voc → (f q).IsSpelled voc) :
    Keeps (Scope.Speaks voc h) (changeQuery f : Record.Action E Unit) :=
  Triple.modify fun s hs =>
    ⟨hf _ hs.query, hs.marks,
      hs.heap.trans (s.isLike_published { s.record with query := f s.record.query })⟩

theorem triple_quote {v : Value} (hv : voc.Name v) :
    Triple (Scope.Speaks voc h) (quote v : Record.Action E String)
      (fun quoted s' => s'.Speaks voc h ∧ voc.Spells quoted.toList 0) (Scope.Speaks voc h) := by
  obtain ⟨name, rfl, hname⟩ := hv
  refine triple_speaks fun s => (triple_quote_text name).post ?_
  rintro quoted s' ⟨hs', mark, hmark, rfl⟩
  exact ⟨hs', Vocabulary.spells_quoteName hmark hname⟩

/-! ## Result columns -/

theorem keeps_select {column asName : Value} (hcolumn : voc.Name column) (halias : voc.Alias asName) :
    Keeps (Scope.Speaks voc h) (select column asName : Record.Action E Unit) := by
  refine Triple.bindKnown (triple_quote hcolumn) fun quoted hquoted => ?_
  rcases halias with rfl | hname
  · exact keeps_changeQuery fun q hq => hq.addColumn hquoted
  · -- The value has to be seen as a text for the call to take it as an alias.
    obtain ⟨name, rfl, -⟩ := id hname
    refine Triple.bindKnown (triple_quote hname) fun written hwritten => ?_
    refine keeps_changeQuery fun q hq => hq.addColumn ?_
    have hfront := hquoted.append (voc.spells_ordinary " AS " (by decide))
    simpa using hfront.append hwritten

theorem triple_columnsOf {h₀ : Heap} (hl : h.IsLike h₀) {argument : Value}
    (hargument : BuilderCall.NamesColumns voc h argument) :
    Triple h₀.Drains (columnsOf argument)
      (fun pairs h' => h₀.Drains h' ∧ ∀ e ∈ pairs, voc.Name e.1 ∧ voc.Alias e.2) h₀.Drains := by
  refine Triple.bindGet fun h' hd => ?_
  have hlike := hl.trans hd.isLike
  rcases hargument with ⟨name, rfl, hname⟩ | ⟨entries, hcontent, hentries⟩ | ⟨items, hitems, hnames⟩
  · refine Triple.pure fun _ hs => ⟨hs ▸ hd, ?_⟩
    simpa using ⟨⟨name, rfl, hname⟩, .inl rfl⟩
  · have hsame : h'.content argument = .map entries := by
      rw [← hcontent]
      exact hlike.content_eq (by simp [hcontent])
    have hnone : argument.asText? = none := Heap.asText?_eq_none (by rw [hsame]; rfl)
    have hsome : h'.entries? argument = some entries := by simp only [Heap.entries?, hsame]
    simp only [hnone, hsome]
    refine Triple.pure fun _ hs => ⟨hs ▸ hd, fun e he => ?_⟩
    obtain ⟨entry, hentry, rfl⟩ := List.mem_map.1 he
    exact (hentries entry hentry).symm
  · simp only [(hitems.of_isLike hlike).asText?, (hitems.of_isLike hlike).entries?]
    have hgoing := (hitems.of_isLike hl).triple_items.pre fun h'' (hh : h'' = h') => hh ▸ hd
    refine Triple.bindKnown hgoing ?_
    rintro _ rfl
    refine Triple.pure fun h'' hd' => ⟨hd', fun e he => ?_⟩
    obtain ⟨column, hcolumn, rfl⟩ := List.mem_map.1 he
    exact ⟨hnames column hcolumn, .inl rfl⟩

/-- What is done in the heap of a record that speaks. -/
theorem triple_inHeap_speaks {α : Type} {step : Step Heap α} {Q : α → Prop}
    (hstep : ∀ h₀, h.IsLike h₀ → Triple h₀.Drains step (fun a h' => h₀.Drains h' ∧ Q a) h₀.Drains) :
    Triple (Scope.Speaks voc h) (inHeap step : Record.Action E α)
      (fun a s' => s'.Speaks voc h ∧ Q a) (Scope.Speaks voc h) := by
  refine Triple.of_states fun s hs => ?_
  have hheap := (hstep _ hs.heap).pre fun h' (hh : h' = s.published.heap) => hh ▸ Heap.Drains.refl _
  refine (triple_inHeap (holds_self hs.marks) hheap).consequence (fun _ ht => ht) ?_ ?_
  · rintro a s' ⟨hs', hQ⟩
    exact ⟨.of_holds hs' hs.query hs.heap, hQ⟩
  · exact fun s' hs' => .of_holds hs' hs.query hs.heap

theorem keeps_selectMany {columns : List Value}
    (hcolumns : ∀ argument ∈ columns, BuilderCall.NamesColumns voc h argument) :
    Keeps (Scope.Speaks voc h) (build (.selectMany columns) : Record.Action E Unit) := by
  refine Triple.bindKnown (I := Scope.Speaks voc h)
    (R := fun pairs => ∀ e ∈ pairs, voc.Name e.1 ∧ voc.Alias e.2) ?_ ?_
  · refine Triple.bindKnown (triple_inHeap_speaks
      (Q := fun all => ∀ pairs ∈ all, ∀ e ∈ pairs, voc.Name e.1 ∧ voc.Alias e.2) fun h₀ hl => ?_) ?_
    · refine Triple.mapM_all fun argument hargument => ?_
      exact triple_columnsOf hl (hcolumns argument hargument)
    · intro all hall
      refine Triple.pure fun s hs => ⟨hs, fun e he => ?_⟩
      obtain ⟨pairs, hpairs, hin⟩ := List.mem_flatten.1 he
      exact hall pairs hpairs e hin
  · intro pairs hpairs
    exact Keeps.forM fun e he => keeps_select (hpairs e he).1 (hpairs e he).2

/-! ## Joins -/

/-- Looking at the length of a value changes nothing. -/
theorem triple_length (v : Value) (w : World E.State) :
    Triple (· = w) (Connection.length v : FluentSql.Action E Nat) (fun _ w' => w' = w) (· = w) := by
  have hbehind : Keeps (· = w) (Connection.cacheBehind? v : FluentSql.Action E _) := by
    unfold Connection.cacheBehind?
    split
    · refine Keeps.bind Keeps.get fun w' => ?_
      split <;> exact Keeps.pure _
    · exact Keeps.pure _
  have hstore : ∀ cache, Keeps (· = w) (Connection.store cache : FluentSql.Action E _) := by
    intro cache
    refine Keeps.bind (Keeps.bind Keeps.get fun _ => Keeps.pure _) fun session => ?_
    split <;> exact Keeps.pure _
  refine Keeps.bind hbehind fun cache => ?_
  split
  · exact Keeps.throw _
  · exact Keeps.bind (hstore _) fun _ => Keeps.pure _
  · exact Keeps.bind Keeps.get fun _ => Keeps.lift _

theorem keeps_length (v : Value) :
    Keeps (Scope.Speaks voc h) (inWorld (Connection.length v) : Record.Action E Nat) := by
  refine (triple_speaks (Q := fun _ => True) fun s => Triple.of_states fun s' hs' =>
    triple_inWorld hs' fun hmarks => ?_).post fun _ _ ht => ht.1
  refine (triple_length v s'.published).consequence (fun _ hw => hw) ?_ ?_
  · rintro _ _ rfl
    exact ⟨⟨Heap.Drains.refl _, .refl _, hmarks⟩, trivial⟩
  · rintro _ rfl
    exact ⟨Heap.Drains.refl _, .refl _, hmarks⟩

theorem triple_displayed_text (word : String) :
    Triple (Scope.Speaks voc h) (displayed (.text word) : Record.Action E String)
      (fun shown s' => s'.Speaks voc h ∧ shown = word) (Scope.Speaks voc h) := by
  refine triple_bindHeap fun s hs => Triple.pure ?_
  rintro _ rfl
  refine ⟨hs, ?_⟩
  rw [Heap.settle_eq_self _ rfl]
  rfl

/-- The constraint of a join is written between its columns. -/
theorem triple_joinConstraint {constraint : Value}
    (hconstraint : BuilderCall.IsTriple voc h constraint) :
    Triple (Scope.Speaks voc h) (joinConstraint constraint : Record.Action E String)
      (fun written s' => s'.Speaks voc h ∧ voc.Spells written.toList 0) (Scope.Speaks voc h) := by
  obtain ⟨first, word, second, hitems, hfirst, hword, hsecond⟩ := hconstraint
  rw [joinConstraint, if_neg (by simp [hitems.asText?])]
  refine Triple.bind (keeps_length constraint) fun length => ?_
  extract_lets writing
  have hwriting : ∀ u, Triple (Scope.Speaks voc h) (writing u)
      (fun written s' => s'.Speaks voc h ∧ voc.Spells written.toList 0) (Scope.Speaks voc h) := by
    intro u
    refine Triple.bindKnown (triple_inHeap_speaks fun h₀ hl => (hitems.of_isLike hl).triple_items) ?_
    rintro _ rfl
    refine Triple.bindKnown (triple_quote hfirst) fun left hleft => ?_
    refine Triple.bindKnown (triple_displayed_text word) ?_
    rintro _ rfl
    refine Triple.bindKnown (triple_quote hsecond) fun right hright => ?_
    refine Triple.pure fun s hs => ⟨hs, ?_⟩
    have hblank := voc.spells_ordinary " " (by decide)
    simpa using (((hleft.append hblank).append hword.spells).append hblank).append hright
  split
  · refine Triple.bind (Keeps.bind Keeps.get fun _ => Keeps.pure _) fun heap => ?_
    exact Triple.bind (Keeps.throw _) hwriting
  · exact hwriting ()

theorem keeps_join (kind : JoinKind) {table constraint asName : Value} (htable : voc.Name table)
    (hconstraint : BuilderCall.IsTriple voc h constraint) (halias : voc.Alias asName) :
    Keeps (Scope.Speaks voc h) (join kind table constraint asName : Record.Action E Unit) := by
  refine Triple.bindKnown (triple_quote htable) fun quoted hquoted => ?_
  refine Triple.bindKnown (I := Scope.Speaks voc h) (R := fun target => voc.Spells target.toList 0) ?_ ?_
  · unfold joinTarget
    rcases halias with rfl | hname
    · exact Triple.pure fun _ hs => ⟨hs, hquoted⟩
    · obtain ⟨name, rfl, -⟩ := id hname
      refine Triple.bindKnown (triple_quote hname) fun written hwritten => ?_
      refine Triple.pure fun _ hs => ⟨hs, ?_⟩
      have hfront := hquoted.append (voc.spells_ordinary " " (by decide))
      simpa using hfront.append hwritten
  · intro target htarget
    refine Triple.bindKnown (triple_joinConstraint hconstraint) fun condition hcondition => ?_
    refine keeps_changeQuery fun q hq => hq.addJoin ⟨_, rfl, ?_⟩
    have hwords : voc.Spells (kind.words ++ " ").toList 0 := by
      cases kind <;> exact voc.spells_ordinary _ (by decide)
    have hfront := (hwords.append htarget).append (voc.spells_ordinary " ON " (by decide))
    simpa using hfront.append hcondition

/-! ## Conditions -/

theorem triple_condition_speaks (kind : ConditionKind) {call : ConditionCall}
    (hspeaks : call.SpeaksIn voc s.published.heap)
    (hone : ∀ e ∈ call.subjects s.published.heap, call.BindsOne s.published.heap e)
    (hs : s.Speaks voc s.published.heap) :
    Triple (· = s) (condition kind call)
      (fun _ => Scope.Speaks voc s.published.heap) (Scope.Speaks voc s.published.heap) := by
  obtain ⟨source, hsource, hin⟩ := hs.query.source
  have hback : ∀ done, done <+: call.subjects s.published.heap → ∀ s', Added voc s s.record kind
      (call.Writes voc s.published.heap source s.record.query) done s' →
      s'.Speaks voc s.published.heap := by
    rintro done hdone s' ⟨added, hholds, hwrites⟩
    have hbinds : ∀ e ∈ done, call.BindsOne s.published.heap e := fun e he => hone e (hdone.subset he)
    have hboth := (List.forall₂_and_left done added).2 ⟨hbinds, hwrites⟩
    have hspelled : ∀ f ∈ added, f.IsSpelled voc :=
      ConditionCall.forall_of_forall₂ hboth fun e f hf => hf.2.isSpelled hspeaks hin hf.1
    exact .of_holds hholds (hs.query.addConditions kind hspelled) hs.heap
  refine (triple_condition hsource hs.marks hspeaks).consequence (fun _ ht => ht) ?_ ?_
  · exact fun _ => hback _ List.prefix_rfl
  · rintro s' ⟨done, hdone, hadded⟩
    exact hback done hdone s' hadded

/-- A condition may also be added after something was looked up. -/
theorem triple_condition_held (kind : ConditionKind) {call : ConditionCall}
    (hs : s.Speaks voc s.published.heap)
    (hspeaks : ∀ h', s.published.heap.IsLike h' →
      call.SpeaksIn voc h' ∧ ∀ e ∈ call.subjects h', call.BindsOne h' e) :
    Triple (Holds voc.marks s s.record) (condition kind call)
      (fun _ => Scope.Speaks voc s.published.heap) (Scope.Speaks voc s.published.heap) := by
  refine Triple.of_states fun s' hs' => ?_
  obtain ⟨hcall, hone⟩ := hspeaks _ hs'.heap
  have hspeaking : s'.Speaks voc s'.published.heap :=
    ⟨hs'.record ▸ hs.query, hs'.record ▸ hs'.marks, Heap.IsLike.refl _⟩
  have hback : ∀ t : Scope E, t.Speaks voc s'.published.heap → t.Speaks voc s.published.heap := by
    intro t ht
    exact ⟨ht.query, ht.marks, hs'.heap.trans ht.heap⟩
  exact (triple_condition_speaks kind hcall hone hspeaking).consequence (fun _ ht => ht)
    (fun _ => hback) hback

/-! ## The key -/

theorem keeps_partOf (h : Heap) (id column : Value) : Keeps h.Drains (partOf id column) := by
  refine Keeps.bind Keeps.get fun current => ?_
  split
  · exact Keeps.bind (Heap.keeps_entryOf? h column _) fun _ => Keeps.pure _
  · split
    · refine Keeps.bind (keeps_valueIn h _ column) fun part => ?_
      exact Keeps.bind (Heap.keeps_requireKey h column) fun _ => Keeps.pure _
    · exact Keeps.throw _
    · exact Keeps.throw _
  · exact Keeps.throw _

/-- The parts of a mapping of single values are single values. -/
theorem triple_partOf_map {h₀ : Heap} (hl : h.IsLike h₀) {id : Value} {entries : Row}
    (hcontent : h.content id = .map entries) (hentries : ∀ e ∈ entries, (h.asItems e.2).length = 1)
    (column : Value) :
    Triple h₀.Drains (partOf id column)
      (fun part h' => h₀.Drains h' ∧ (h.asItems part).length = 1) h₀.Drains := by
  refine Triple.bindGet fun h' hd => ?_
  have hsame : h'.content id = .map entries := by
    rw [← hcontent]
    exact (hl.trans hd.isLike).content_eq (by simp [hcontent])
  rw [hsame]
  refine Triple.bindKnown ((Heap.triple_entryOf? h₀ column entries).pre ?_) fun found hfound =>
    Triple.pure fun _ hs => ⟨hs, ?_⟩
  · rintro _ rfl
    exact hd
  · cases found with
    | none => rfl
    | some v =>
        obtain ⟨e, he, rfl⟩ := List.mem_map.1 (Entries.mem_values_of_get? hfound.symm)
        exact hentries e he

theorem triple_keyParts {h₀ : Heap} {columns : List Value} {id : Value} {R : Value → Prop}
    (hpart : ∀ column, Triple h₀.Drains (partOf id column) (fun part h' => h₀.Drains h' ∧ R part)
      h₀.Drains) :
    Triple h₀.Drains (keyParts columns id)
      (fun row h' => h₀.Drains h' ∧ ∀ e ∈ row, e.1 ∈ columns ∧ R e.2) h₀.Drains := by
  refine Triple.bindKnown (I := h₀.Drains) (R := fun pairs : Row => ∀ e ∈ pairs, e.1 ∈ columns ∧ R e.2)
    (Triple.mapM_all fun column hcolumn => ?_) fun pairs hpairs => ?_
  · refine Triple.bindKnown (hpart column) fun part hR => Triple.pure fun _ hs => ?_
    exact ⟨hs, hcolumn, hR⟩
  · exact Triple.pure fun _ hs => ⟨hs, Entries.forall_mem_ofPairs hpairs⟩

/-- Comparing the columns of a mapping is comparing each with its value. -/
theorem condition_compare_map (kind : ConditionKind) (operator : String) (row : Row) (value : Value) :
    condition kind (.compare operator (.map row) value) =
      (compareAll kind operator row : Record.Action E Unit) := rfl

theorem triple_keyIs (kind : ConditionKind) {id : Value} (hs : s.Speaks voc s.published.heap)
    (hcolumns : voc.Names s.key.columns) (hid : BuilderCall.BindsKey s.published.heap id s.key) :
    Triple (Holds voc.marks s s.record) (keyIs kind id) (fun _ => Scope.Speaks voc s.published.heap)
      (Scope.Speaks voc s.published.heap) := by
  have hout : ∀ s', Holds voc.marks s s.record s' → s'.Speaks voc s.published.heap :=
    fun s' hs' => .of_holds hs' hs.query hs.heap
  have hequals : voc.Words "=" := voc.words_ordinary "=" (by decide)
  refine Triple.bindKnown (I := Holds voc.marks s s.record) (R := fun key => key = s.key)
    (triple_key.consequence (fun _ ht => ht) (fun _ _ ht => ht) hout) ?_
  rintro _ rfl
  cases hkey : s.key with
  | single column =>
      rw [hkey] at hcolumns hid
      obtain ⟨name, rfl, hname⟩ := hcolumns column List.mem_cons_self
      refine triple_condition_held kind hs fun h' hl => ⟨⟨hequals, ?_⟩, ?_⟩
      · intro e he
        rw [List.mem_singleton.1 he]
        exact ⟨name, rfl, hname⟩
      · intro e he
        rw [List.mem_singleton.1 he]
        show (h'.asItems id).length = 1
        rw [hl.asItems]
        exact hid
  | compound columns =>
      rw [hkey] at hcolumns hid
      obtain ⟨entries, hcontent, hentries⟩ := hid
      refine Triple.bindKnown (I := Holds voc.marks s s.record)
        (R := fun row => ∀ e ∈ row, e.1 ∈ columns ∧ (s.published.heap.asItems e.2).length = 1) ?_
        fun row hrow => ?_
      · refine Triple.of_states fun s' hs' => ?_
        have hparts : Triple s'.published.heap.Drains (keyParts columns id) _ _ :=
          triple_keyParts (triple_partOf_map hs'.heap hcontent hentries)
        have hheap := hparts.pre fun h' (hh : h' = s'.published.heap) => hh ▸ Heap.Drains.refl _
        exact (triple_inHeap hs' hheap).consequence (fun _ ht => ht) (fun _ _ ht => ht) hout
      · rw [← condition_compare_map kind "=" row .null]
        refine triple_condition_held kind hs fun h' hl => ⟨⟨hequals, ?_⟩, ?_⟩
        · intro e he
          exact hcolumns e.1 (hrow e he).1
        · intro e he
          show (h'.asItems e.2).length = 1
          rw [hl.asItems]
          exact (hrow e he).2

/-- Groups whose columns are names are written as comparisons for equality. -/
theorem keeps_anyOfGroups (kind : ConditionKind) {groups : List Row}
    (hgroups : ∀ group ∈ groups, ∀ e ∈ group, voc.Name e.1) :
    Keeps (Scope.Speaks voc h) (anyOfGroups kind groups : Record.Action E Unit) := by
  refine Triple.bindKnown (Triple.mapM_all fun group hgroup => Triple.mapM_all fun e he => ?_)
    fun written hwritten => keeps_changeQuery fun q hq =>
      hq.addCondition kind (Fragment.isSpelled_anyOf hwritten)
  refine triple_speaks fun s => (triple_groupComparison ?_ (hgroups group hgroup e he)).post ?_
  · intro v hv
    rw [List.mem_singleton.1 hv]
    exact ⟨"=", rfl, voc.words_ordinary "=" (by decide)⟩
  · rintro c s' ⟨hs', hcolumn, hword, -⟩
    exact ⟨hs', hcolumn.spells, hword⟩

/-- The candidates that are inlined are the inlined fields of the record. -/
theorem triple_inlinedFields {I F : Scope E → Prop} {fields : List Value}
    (hfields : ∀ s', I s' → s'.record.changes.inlined = fields) :
    Triple I (inlinedFields : Record.Action E Value)
      (fun inlined s' => I s' ∧ inlined = .list fields) F :=
  fun s' hs' => ⟨hs', congrArg Value.list (hfields s' hs')⟩

theorem triple_keyIn (ids : Value) (hs : s.Speaks voc s.published.heap)
    (hinlined : s.record.changes.inlined = []) (hcolumns : voc.Names s.key.columns) :
    Triple (Holds voc.marks s s.record) (keyIn ids) (fun _ => Scope.Speaks voc s.published.heap)
      (Scope.Speaks voc s.published.heap) := by
  have hout : ∀ s', Holds voc.marks s s.record s' → s'.Speaks voc s.published.heap :=
    fun s' hs' => .of_holds hs' hs.query hs.heap
  refine Triple.bindKnown (I := Holds voc.marks s s.record) (R := fun key => key = s.key)
    (triple_key.consequence (fun _ ht => ht) (fun _ _ ht => ht) hout) ?_
  rintro _ rfl
  cases hkey : s.key with
  | single column =>
      rw [hkey] at hcolumns
      obtain ⟨name, rfl, hname⟩ := hcolumns column List.mem_cons_self
      refine Triple.bind (R := fun _ => Holds voc.marks s s.record)
        ((keeps_inHeap fun h => Heap.keeps_items h ids).consequence (fun _ ht => ht)
          (fun _ _ ht => ht) hout) fun all => ?_
      refine Triple.bindKnown (triple_inlinedFields fun s' hs' => by rw [hs'.record, hinlined]) ?_
      rintro _ rfl
      refine triple_condition_held .whereClause hs fun h' hl => ⟨⟨?_, rfl, ?_⟩, ?_⟩
      · exact voc.words_ordinary "IN" (by decide)
      · intro e he
        rw [List.mem_singleton.1 he]
        exact ⟨name, rfl, hname⟩
      · exact fun _ _ => trivial
  | compound columns =>
      rw [hkey] at hcolumns
      have hrows : ∀ h₀, s.published.heap.IsLike h₀ →
          Triple h₀.Drains (Heap.forItems ids (keyParts columns))
            (fun rows h' => h₀.Drains h' ∧ ∀ row ∈ rows, ∀ e ∈ row, e.1 ∈ columns ∧ True)
            h₀.Drains := by
        intro h₀ _
        refine Heap.triple_forItems h₀ ids fun id => triple_keyParts (R := fun _ => True) fun column => ?_
        exact (keeps_partOf h₀ id column).post fun _ _ hs => ⟨hs, trivial⟩
      refine Triple.pre (Triple.bindKnown (triple_inHeap_speaks hrows) fun rows hall => ?_) hout
      refine keeps_anyOfGroups .whereClause fun row hrow e he => ?_
      exact hcolumns e.1 (hall row hrow e he).1

/-! ## All calls -/

/-- A call that speaks in the vocabulary keeps the query spelled, also if it fails. -/
theorem triple_build {call : BuilderCall} (hs : s.Speaks voc s.published.heap)
    (hspeaks : call.SpeaksIn voc s.published.heap s.record.changes.inlined s.key) :
    Triple (· = s) (build call) (fun _ => Scope.Speaks voc s.published.heap)
      (Scope.Speaks voc s.published.heap) := by
  have hstart : ∀ s', s' = s → s'.Speaks voc s.published.heap := fun s' hs' => hs' ▸ hs
  have hheld : ∀ s', s' = s → Holds voc.marks s s.record s' := by
    rintro _ rfl
    exact holds_self hs.marks
  cases call with
  | select column asName => exact (keeps_select hspeaks.1 hspeaks.2).pre hstart
  | selectMany columns => exact (keeps_selectMany hspeaks).pre hstart
  | distinct => exact Triple.pre (keeps_changeQuery fun q hq => hq.distinct) hstart
  | tableAlias asName =>
      refine Triple.pre (keeps_changeQuery fun q hq => hq.withAlias fun v hv => ?_) hstart
      rcases hspeaks with rfl | ⟨name, rfl, hname⟩
      · cases hv
      · cases hv
        exact ⟨name, rfl, hname⟩
  | join kind table constraint asName =>
      exact (keeps_join kind hspeaks.1 hspeaks.2.1 hspeaks.2.2).pre hstart
  | condition kind call => exact triple_condition_speaks kind hspeaks.1 hspeaks.2 hs
  | among kind operator column values =>
      obtain ⟨hinlined, hcall⟩ := hspeaks
      -- Membership is the condition with the fields of the record that hold SQL text, and there are none.
      refine Triple.bindKnown (triple_inlinedFields fun _ hs' => hs' ▸ hinlined) ?_
      rintro _ rfl
      exact triple_condition_speaks kind hcall (fun _ _ => trivial) hs
  | keyIs kind id => exact (triple_keyIs kind hs hspeaks.1 hspeaks.2).pre hheld
  | keyIn ids => exact (triple_keyIn ids hs hspeaks.1 hspeaks.2).pre hheld
  | groupBy column =>
      refine Triple.pre (Triple.bindKnown (triple_quote hspeaks) fun entry hentry => ?_) hstart
      exact keeps_changeQuery fun q hq => hq.addGroup hentry
  | orderBy column descending =>
      refine Triple.pre (Triple.bindKnown (triple_quote hspeaks) fun entry hentry => ?_) hstart
      have hdirection : voc.Spells (if descending then " DESC" else " ASC").toList 0 := by
        split <;> exact voc.spells_ordinary _ (by decide)
      refine keeps_changeQuery fun q hq => hq.addOrder ?_
      simpa using hentry.append hdirection
  | selectExpr | selectManyExpr | rawJoin | groupByExpr | orderByExpr | limit | offset
  | raw => exact hspeaks.elim

/-- A record that was built with calls that speak in the vocabulary, from nothing but its table on. A call
that failed counts as well. Between the calls rows may be read, and anything may happen to the row of the
record and in its world, as long as its connection quotes with marks of the vocabulary. -/
inductive Built (voc : Vocabulary) : Scope E → Prop
  | start {s : Scope E} {table : String} (htable : voc.names table) (hquery : s.record.query = { table })
      (hmarks : s.world.session.HasMarks voc.marks s.record.connection) : Built voc s
  | call {s : Scope E} (call : BuilderCall) (hbuilt : Built voc s)
      (hspeaks : call.SpeaksIn voc s.published.heap s.record.changes.inlined s.key) :
      Built voc ((build call).perform s).2
  | read {s s' : Scope E} (hbuilt : Built voc s) (hquery : s'.record.query = s.record.query.resetColumns)
      (hmarks : s'.world.session.HasMarks voc.marks s'.record.connection) : Built voc s'
  | elsewhere {s s' : Scope E} (hbuilt : Built voc s) (hquery : s'.record.query = s.record.query)
      (hmarks : s'.world.session.HasMarks voc.marks s'.record.connection) : Built voc s'

/-- **The query of a record that was built with such calls is spelled.** -/
theorem Built.speaks (hs : Built voc s) : s.Speaks voc s.published.heap := by
  induction hs with
  | start htable hquery hmarks =>
      exact ⟨hquery ▸ Query.IsSpelled.onTable htable, hmarks, Heap.IsLike.refl _⟩
  | call call _ hspeaks ih =>
      have hkept := (triple_build ih hspeaks).leaves rfl
      exact ⟨hkept.query, hkept.marks, Heap.IsLike.refl _⟩
  | read _ hquery hmarks ih =>
      exact ⟨hquery ▸ ih.query.resetColumns, hmarks, Heap.IsLike.refl _⟩
  | elsewhere _ hquery hmarks ih => exact ⟨hquery ▸ ih.query, hmarks, Heap.IsLike.refl _⟩

end Record

end FluentSql
