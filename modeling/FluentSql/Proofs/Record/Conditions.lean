import FluentSql.Record.Condition
import FluentSql.Proofs.Query.Template
import FluentSql.Proofs.Record.Scope
import Mathlib.Data.List.Forall2
/-
# FluentSql.Proofs.Record.Conditions — which conditions a call adds.

A call that adds conditions has subjects, each a column with its value, and adds one condition for each
of them, in order. What is written for a subject is fixed by the call, the heap and the query as they
were before (`ConditionCall.Writes`). A call that fails has added the conditions of its first subjects
and nothing else (`triple_condition`).

All this is said of calls whose columns and operators are texts from a vocabulary. What they add can be
written with the vocabulary, and has one slot for each value unless a comparison is with a list or a tuple.
-/

namespace FluentSql

namespace Query

/-- The query with more conditions of a kind. -/
def addConditions (kind : ConditionKind) (added : List Fragment) (q : Query) : Query :=
  added.foldl (fun q fragment => q.addCondition kind fragment) q

theorem addConditions_concat (kind : ConditionKind) (added : List Fragment) (fragment : Fragment)
    (q : Query) :
    q.addConditions kind (added ++ [fragment]) =
      (q.addConditions kind added).addCondition kind fragment := by
  simp [addConditions]

theorem conditions_addConditions (kind : ConditionKind) (added : List Fragment) (q : Query) :
    (q.addConditions kind added).conditions kind = q.conditions kind ++ added := by
  induction added generalizing q with
  | nil => simp [addConditions]
  | cons fragment added ih =>
      have step := ih (q.addCondition kind fragment)
      rw [conditions_addCondition, List.append_assoc] at step
      exact step

/-- Conditions leave the joins and the source of the columns as they are. -/
theorem joins_source_addConditions (kind : ConditionKind) (added : List Fragment) (q : Query) :
    (q.addConditions kind added).joins = q.joins ∧ (q.addConditions kind added).source = q.source := by
  induction added generalizing q with
  | nil => exact ⟨rfl, rfl⟩
  | cons fragment added ih =>
      obtain ⟨hjoins, hsource⟩ := ih (q.addCondition kind fragment)
      refine ⟨hjoins.trans ?_, hsource.trans ?_⟩ <;> cases kind <;> rfl

/-- A column as it is named in a comparison: with the source in front if there are joins and it names
no table itself. -/
def comparedName (source : String) (q : Query) (name : String) : String :=
  if q.joins.isEmpty || Text.occursIn ['.'] name.toList then name else source ++ "." ++ name

end Query

namespace ConditionCall

/-- The columns of a call with their values, one for each condition that it adds. -/
def subjects (h : Heap) : ConditionCall → List (Value × Value)
  | .verbatim text values => [(text, values)]
  | .compare _ column value | .among _ column value _ => (h.entries? column).getD [(column, value)]
  | .check _ column =>
    if column.asText?.isSome then [(column, .null)]
    else ((h.items? column).toOption.getD []).map fun column => (column, .null)
  | .anyOf groups operator => [(groups, operator)]

/-- The operators that a group may be written with: one text, or equality and those of a mapping. -/
def groupOperators (h : Heap) (operator : Value) : List Value :=
  match h.content operator with
  | .map entries => .text "=" :: Entries.values entries
  | operator => [operator]

/-- The columns and operators of the call are texts of the vocabulary, and nothing is inlined. -/
def SpeaksIn (voc : Vocabulary) (h : Heap) : ConditionCall → Prop
  | .verbatim _ _ => False
  | .compare operator column value =>
    voc.Words operator ∧
      ∀ e ∈ (compare operator column value).subjects h, ∃ name, e.1 = .text name ∧ voc.names name
  | .among operator column values inlined =>
    voc.Words operator ∧ h.asItems inlined = [] ∧
      ∀ e ∈ (among operator column values inlined).subjects h,
        ∃ name, e.1 = .text name ∧ voc.names name
  | .check operator column =>
    voc.Words operator ∧
      ∀ e ∈ (check operator column).subjects h, ∃ name, e.1 = .text name ∧ voc.names name
  | .anyOf groups operator =>
    (∀ v ∈ groupOperators h operator, ∃ word, v = .text word ∧ voc.Words word) ∧
      ∀ all, h.items? groups = .ok all → ∀ group ∈ all, ∀ entries, h.entries? group = some entries →
        ∀ e ∈ entries, ∃ name, e.1 = .text name ∧ voc.names name

/-- A text is a column of the vocabulary between marks of the vocabulary. -/
def Quotes (voc : Vocabulary) (column : Value) (written : String) : Prop :=
  ∃ name mark, column = .text name ∧ voc.names name ∧ voc.marks mark ∧
    written = Identifier.quoteName mark name

/-- A comparison of a group is that of an entry. -/
def WritesEntry (voc : Vocabulary) (e : Value × Value) (c : Comparison) : Prop :=
  Quotes voc e.1 c.column ∧ voc.Words c.operator ∧ c.value = e.2

/-- The comparisons of a group are those of its entries. -/
def WritesGroup (voc : Vocabulary) (h : Heap) (group : Value) (comparisons : List Comparison) : Prop :=
  ∃ entries, h.entries? group = some entries ∧
    List.Forall₂ (WritesEntry voc) entries comparisons

/-- What a call may write for one of its subjects. -/
def Writes (voc : Vocabulary) (h : Heap) (source : String) (q : Query) :
    ConditionCall → Value × Value → Fragment → Prop
  | .verbatim _ _, _, _ => False
  | .compare operator _ _, (column, value), fragment =>
    ∃ name mark, column = .text name ∧ voc.names name ∧ voc.marks mark ∧
      fragment = .comparison (Identifier.quoteName mark (q.comparedName source name)) operator
        (h.asItems value)
  | .among operator _ _ _, (column, values), fragment =>
    ∃ written fields h' h'', Quotes voc column written ∧ h.IsLike h' ∧
      (Record.candidates values).perform h' = (.ok fields, h'') ∧
      fragment = .membership written operator (.ofTerms (fields.map fun e => .bound e.2))
  | .check operator _, (column, _), fragment =>
    ∃ written, Quotes voc column written ∧ fragment = .check written operator
  | .anyOf _ _, (groups, _), fragment =>
    ∃ all written, h.items? groups = .ok all ∧
      List.Forall₂ (WritesGroup voc h) all written ∧ fragment = .anyOf written

end ConditionCall

namespace Record

open Step (Keeps Triple)
open Scope (Holds)

variable {E : Environment} {voc : Vocabulary} {s : Scope E} {r : Record} {kind : ConditionKind}

/-- The record with more conditions in its query. -/
def withConditions (kind : ConditionKind) (added : List Fragment) (r : Record) : Record :=
  { r with query := r.query.addConditions kind added }

/-- The scope holds the record with conditions that belong to some subjects, one to each. -/
def Added (voc : Vocabulary) (s : Scope E) (r : Record) (kind : ConditionKind)
    (writes : Value × Value → Fragment → Prop) (subjects : List (Value × Value)) (s' : Scope E) :
    Prop :=
  ∃ added, Holds voc.marks s (r.withConditions kind added) s' ∧ List.Forall₂ writes subjects added

theorem triple_addCondition (added : List Fragment) (fragment : Fragment) :
    Triple (Holds voc.marks s (r.withConditions kind added)) (addCondition kind fragment)
      (fun _ => Holds voc.marks s (r.withConditions kind (added ++ [fragment])))
      (Holds voc.marks s (r.withConditions kind added)) := by
  have hstep := triple_change (P := voc.marks) (s := s) (r := r.withConditions kind added)
    (f := fun r => { r with query := r.query.addCondition kind fragment }) rfl
  refine hstep.post fun _ s' hs' => ?_
  simpa only [withConditions, Query.addConditions_concat] using hs'

/-- One condition for each subject, up to the first that fails. -/
theorem triple_addEach {writes : Value × Value → Fragment → Prop} {subjects : List (Value × Value)}
    {f : Value × Value → Record.Action E PUnit}
    (h : ∀ e ∈ subjects, ∀ added,
      Triple (Holds voc.marks s (r.withConditions kind added)) (f e)
        (fun _ s' => ∃ fragment, writes e fragment ∧
          Holds voc.marks s (r.withConditions kind (added ++ [fragment])) s')
        (Holds voc.marks s (r.withConditions kind added))) :
    Triple (Holds voc.marks s r) (subjects.forM f)
      (fun _ => Added voc s r kind writes subjects)
      (fun s' => ∃ done, done <+: subjects ∧ Added voc s r kind writes done s') := by
  have start : ∀ s', Holds voc.marks s r s' → Added voc s r kind writes [] s' :=
    fun s' hs' => ⟨[], hs', .nil⟩
  refine (Triple.forM (Added voc s r kind writes) fun done e rest hsplit => ?_).pre start
  refine Triple.of_states fun s' hs' => ?_
  obtain ⟨added, hholds, hwrites⟩ := hs'
  refine (h e (by simp [hsplit]) added).consequence ?_ ?_ ?_
  · rintro _ rfl
    exact hholds
  · rintro _ s'' ⟨fragment, hfragment, hs''⟩
    exact ⟨_, hs'', List.rel_append hwrites (.cons hfragment .nil)⟩
  · intro s'' hs''
    exact ⟨done, ⟨e :: rest, hsplit.symm⟩, added, hs'', hwrites⟩

/-! ## Comparisons -/

theorem triple_qualified {source : String} (hsource : r.query.source = .text source)
    (name : String) :
    Triple (Holds voc.marks s r) (qualified (.text name))
      (fun v s' => Holds voc.marks s r s' ∧ v = .text (r.query.comparedName source name))
      (Holds voc.marks s r) := by
  refine triple_bindCurrent fun s' hs' => ?_
  rw [hs'.record]
  refine Triple.pre ?_ fun t (ht : t = s') => ht ▸ hs'
  by_cases hjoins : r.query.joins.isEmpty
  · simp only [hjoins, if_true, Query.comparedName, Bool.true_or]
    exact Triple.pure fun _ hs => ⟨hs, rfl⟩
  · simp only [hjoins, Bool.false_eq_true, if_false, Query.comparedName, Bool.false_or]
    refine Triple.bindKnown (I := Holds voc.marks s r)
      (R := fun found => found = Text.occursIn ['.'] name.toList) ?_ ?_
    · refine triple_inAnyHeap fun h => ?_
      rintro _ rfl
      exact ⟨Heap.Drains.refl _, rfl⟩
    · rintro _ rfl
      split
      · exact Triple.pure fun _ ht => ⟨ht, rfl⟩
      · rw [hsource]
        exact fun _ ht => ⟨ht, rfl⟩

theorem triple_compareAll {source : String} (hsource : r.query.source = .text source)
    (operator : String) (column value : Value) {subjects : List (Value × Value)}
    (hnames : ∀ e ∈ subjects, ∃ name, e.1 = .text name ∧ voc.names name) :
    Triple (Holds voc.marks s r) (compareAll kind operator subjects)
      (fun _ => Added voc s r kind (ConditionCall.Writes voc s.published.heap source r.query
        (.compare operator column value)) subjects)
      (fun s' => ∃ done, done <+: subjects ∧ Added voc s r kind
        (ConditionCall.Writes voc s.published.heap source r.query (.compare operator column value))
        done s') := by
  refine triple_addEach fun e he added => ?_
  obtain ⟨column, value⟩ := e
  obtain ⟨name, rfl, hname⟩ := hnames _ he
  obtain ⟨hjoins, hsame⟩ := Query.joins_source_addConditions kind added r.query
  have hstill : (r.withConditions kind added).query.source = .text source := hsame.trans hsource
  refine Triple.bindKnown (triple_qualified hstill name) ?_
  rintro _ rfl
  refine Triple.bind (triple_quote_text _) fun quoted => ?_
  refine triple_bindHeap fun t ⟨ht, mark, hmark, hquoted⟩ => ?_
  refine Triple.pre ?_ fun u (hu : u = t) => hu ▸ ht
  refine (triple_addCondition added _).post fun _ u hu => ⟨_, ?_, hu⟩
  refine ⟨name, mark, rfl, hname, hmark, ?_⟩
  rw [hquoted, ht.heap.asItems]
  simp only [Query.comparedName, withConditions, hjoins]

/-! ## Membership -/

theorem keeps_fieldsOf (h : Heap) (values : Value) : Keeps h.Drains (fieldsOf values) := by
  refine Keeps.bind Keeps.get fun current => ?_
  split
  · exact Keeps.pure _
  · exact Keeps.bind (Heap.keeps_items h values) fun _ => Keeps.pure _

theorem keeps_candidates (h : Heap) (values : Value) : Keeps h.Drains (candidates values) := by
  refine Keeps.bind Keeps.get fun current => ?_
  split
  · exact Keeps.pure _
  · exact Keeps.pure _
  · exact Keeps.pure _
  · split
    · exact keeps_fieldsOf h values
    · exact Keeps.pure _

/-- Without inlined candidates all of them are bound. -/
theorem triple_placeholders {h : Heap} {inlined : Value} (hnil : h.asItems inlined = [])
    (fields : List (Value × Value)) :
    Triple (· = h) (placeholders inlined fields)
      (fun written h' => h' = h ∧ written = .ofTerms (fields.map fun e => .bound e.2))
      (fun _ => False) := by
  refine Triple.bind (R := fun terms h' => h' = h ∧ terms = fields.map fun e => Term.bound e.2)
    ?_ fun terms => Triple.pure fun _ hs => ⟨hs.1, by rw [hs.2]⟩
  refine Triple.mapM_known fun e _ => ?_
  refine Triple.bindKnown (Heap.triple_contains_of_asItems_eq_nil hnil e.1) ?_
  rintro _ rfl
  exact Triple.pure fun _ hs => ⟨hs, rfl⟩

theorem triple_amongAll (source : String) (operator : String) (column values : Value)
    {inlined : Value} (hinlined : s.published.heap.asItems inlined = [])
    {subjects : List (Value × Value)}
    (hnames : ∀ e ∈ subjects, ∃ name, e.1 = .text name ∧ voc.names name) :
    Triple (Holds voc.marks s r) (amongAll kind operator inlined subjects)
      (fun _ => Added voc s r kind (ConditionCall.Writes voc s.published.heap source r.query
        (.among operator column values inlined)) subjects)
      (fun s' => ∃ done, done <+: subjects ∧ Added voc s r kind
        (ConditionCall.Writes voc s.published.heap source r.query
          (.among operator column values inlined)) done s') := by
  refine triple_addEach fun e he added => ?_
  obtain ⟨column, values⟩ := e
  obtain ⟨name, rfl, hname⟩ := hnames _ he
  refine Triple.bindKnown (I := Holds voc.marks s (r.withConditions kind added)) (R := fun written =>
    ∃ fields h h', s.published.heap.IsLike h ∧ (candidates values).perform h = (.ok fields, h') ∧
      written = .ofTerms (fields.map fun e => .bound e.2)) ?_ fun written => ?_
  · refine Triple.of_states fun s' hs' => triple_inHeap hs' ?_
    refine Triple.bind ((keeps_candidates _ values).withRun (Heap.Drains.refl _)) fun fields => ?_
    refine Triple.of_states fun h' ⟨hd, hrun⟩ => ?_
    -- Making the candidates may have gone through a stream, and still nothing is inlined.
    have hnil : h'.asItems inlined = [] := by
      rw [(hs'.heap.trans hd.isLike).asItems]
      exact hinlined
    refine (triple_placeholders hnil fields).consequence (fun _ hs => hs) ?_ fun _ => False.elim
    rintro written _ ⟨rfl, hwritten⟩
    exact ⟨hd, fields, _, _, hs'.heap, hrun, hwritten⟩
  rintro ⟨fields, h', h'', hlike, hrun, hwritten⟩
  refine Triple.bindKnown (triple_quote_text name) ?_
  rintro quoted ⟨mark, hmark, hquoted⟩
  refine (triple_addCondition added _).post fun _ u hu => ⟨_, ?_, hu⟩
  exact ⟨quoted, fields, h', h'', ⟨name, mark, rfl, hname, hmark, hquoted⟩, hlike, hrun, by rw [hwritten]⟩

/-! ## Tests -/

theorem triple_testedColumns (hmarks : s.world.session.HasMarks voc.marks s.record.connection)
    (operator : String) (column : Value) :
    Triple (· = s) (testedColumns column)
      (fun columns s' => Holds voc.marks s s.record s' ∧
        columns.map (fun column => (column, Value.null)) =
          (ConditionCall.check operator column).subjects s.published.heap)
      (Holds voc.marks s s.record) := by
  unfold testedColumns
  split
  · rename_i htext
    rintro _ rfl
    refine ⟨holds_self hmarks, ?_⟩
    simp only [ConditionCall.subjects, htext, if_true, List.map_cons, List.map_nil]
  · rename_i htext
    refine triple_inHeap (holds_self hmarks) ?_
    refine (Heap.triple_items _ column).post fun columns h' ⟨hd, hitems⟩ => ⟨hd, ?_⟩
    simp only [ConditionCall.subjects, htext, hitems]
    rfl

theorem triple_checkAll (source : String) (operator : String) (column : Value)
    {subjects : List (Value × Value)}
    (hnames : ∀ e ∈ subjects, ∃ name, e.1 = .text name ∧ voc.names name) :
    Triple (Holds voc.marks s r)
      (subjects.forM fun e => do addCondition kind (.check (← quote e.1) operator))
      (fun _ => Added voc s r kind (ConditionCall.Writes voc s.published.heap source r.query
        (.check operator column)) subjects)
      (fun s' => ∃ done, done <+: subjects ∧ Added voc s r kind
        (ConditionCall.Writes voc s.published.heap source r.query (.check operator column))
        done s') := by
  refine triple_addEach fun e he added => ?_
  obtain ⟨column, value⟩ := e
  obtain ⟨name, rfl, hname⟩ := hnames _ he
  refine Triple.bindKnown (triple_quote_text name) ?_
  rintro quoted ⟨mark, hmark, hquoted⟩
  refine (triple_addCondition added _).post fun _ u hu => ⟨_, ?_, hu⟩
  exact ⟨quoted, ⟨name, mark, rfl, hname, hmark, hquoted⟩, rfl⟩

/-! ## Groups -/

/-- The operators of the groups are texts of the vocabulary. -/
theorem triple_operatorFor {operator : Value}
    (hoperators : ∀ v ∈ ConditionCall.groupOperators s.published.heap operator,
      ∃ word, v = .text word ∧ voc.Words word) (column : Value) :
    Triple (Holds voc.marks s r) (operatorFor operator column)
      (fun word s' => Holds voc.marks s r s' ∧ voc.Words word) (Holds voc.marks s r) := by
  refine triple_bindHeap fun s' hs' => ?_
  have hsame : ∀ v ∈ ConditionCall.groupOperators s'.published.heap operator,
      ∃ word, v = .text word ∧ voc.Words word := by
    rcases hs'.heap.content operator with heq | ⟨rest, rest', hrest, -⟩
    · simpa only [ConditionCall.groupOperators, heq] using hoperators
    · obtain ⟨word, hword, -⟩ := hoperators (.stream rest)
        (by simp only [ConditionCall.groupOperators, hrest, List.mem_singleton])
      cases hword
  split
  · rename_i word hcontent
    obtain ⟨word', hword, hin⟩ := hsame (.text word)
      (by simp only [ConditionCall.groupOperators, hcontent, List.mem_singleton])
    cases hword
    exact Triple.pure fun _ hs => ⟨hs ▸ hs', hin⟩
  · rename_i style hcontent
    obtain ⟨word', hword, -⟩ := hsame (.style style)
      (by simp only [ConditionCall.groupOperators, hcontent, List.mem_singleton])
    cases hword
  · rename_i entries hcontent
    have hgroup : ConditionCall.groupOperators s'.published.heap operator =
        .text "=" :: Entries.values entries := by
      simp only [ConditionCall.groupOperators, hcontent]
    rw [hgroup] at hsame
    refine Triple.bindKnown (triple_inHeap hs' ((Heap.triple_entryOf? _ column entries).pre ?_))
      fun found hfound => ?_
    · rintro _ rfl
      exact Heap.Drains.refl _
    · cases found with
      | none =>
          obtain ⟨word, hword, hin⟩ := hsame (.text "=") List.mem_cons_self
          cases hword
          exact Triple.pure fun _ ht => ⟨ht, hin⟩
      | some v =>
          have hvalue : v ∈ Entries.values entries := Entries.mem_values_of_get? hfound.symm
          obtain ⟨word, rfl, hin⟩ := hsame v (List.mem_cons_of_mem _ hvalue)
          exact Triple.pure fun _ ht => ⟨ht, hin⟩
  · split <;> exact Triple.throw fun _ hs => hs ▸ hs'
  · exact Triple.throw fun _ hs => hs ▸ hs'

theorem triple_groupComparison {operator : Value}
    (hoperators : ∀ v ∈ ConditionCall.groupOperators s.published.heap operator,
      ∃ word, v = .text word ∧ voc.Words word)
    {e : Value × Value} (hname : ∃ name, e.1 = .text name ∧ voc.names name) :
    Triple (Holds voc.marks s r) (groupComparison operator e)
      (fun c s' => Holds voc.marks s r s' ∧ ConditionCall.WritesEntry voc e c)
      (Holds voc.marks s r) := by
  obtain ⟨column, value⟩ := e
  obtain ⟨name, rfl, hname⟩ := hname
  refine Triple.bindKnown (triple_operatorFor hoperators (.text name)) fun word hword => ?_
  refine Triple.bind (triple_quote_text name) fun quoted => ?_
  refine Triple.pure fun t ⟨ht, mark, hmark, hquoted⟩ => ⟨ht, ?_⟩
  exact ⟨⟨name, mark, rfl, hname, hmark, hquoted⟩, hword, rfl⟩

theorem triple_groupComparisons {operator : Value}
    (hoperators : ∀ v ∈ ConditionCall.groupOperators s.published.heap operator,
      ∃ word, v = .text word ∧ voc.Words word) {group : Value}
    (hnames : ∀ entries, s.published.heap.entries? group = some entries →
      ∀ e ∈ entries, ∃ name, e.1 = .text name ∧ voc.names name) :
    Triple (Holds voc.marks s r)
      (do (← groupEntries group).mapM (groupComparison operator) : Record.Action E (List Comparison))
      (fun comparisons s' => Holds voc.marks s r s' ∧
        ConditionCall.WritesGroup voc s.published.heap group comparisons) (Holds voc.marks s r) := by
  refine Triple.bindKnown (I := Holds voc.marks s r)
    (R := fun entries => s.published.heap.entries? group = some entries) ?_ fun entries hentries => ?_
  · refine triple_bindHeap fun s' hs' => ?_
    rw [hs'.heap.entries?]
    split
    · rename_i entries hentries
      exact Triple.pure fun _ hs => ⟨hs ▸ hs', hentries⟩
    · exact Triple.throw fun _ hs => hs ▸ hs'
  · have hall := Triple.mapM_forall₂ fun e he =>
      triple_groupComparison (s := s) (r := r) hoperators (hnames entries hentries e he)
    exact hall.post fun comparisons t ⟨ht, hwrites⟩ => ⟨ht, entries, hentries, hwrites⟩

theorem triple_anyOf (source : String) {groups operator : Value}
    (hmarks : s.world.session.HasMarks voc.marks s.record.connection)
    (hspeaks : (ConditionCall.anyOf groups operator).SpeaksIn voc s.published.heap) :
    Triple (· = s) (condition kind (.anyOf groups operator))
      (fun _ => Added voc s s.record kind (ConditionCall.Writes voc s.published.heap source
        s.record.query (.anyOf groups operator)) [(groups, operator)])
      (Holds voc.marks s s.record) := by
  obtain ⟨hoperators, hnames⟩ := hspeaks
  refine triple_bindHeap fun s₀ hs₀ => ?_
  rw [hs₀]
  refine Triple.bindKnown (I := Holds voc.marks s s.record)
    (R := fun all => s.published.heap.items? groups = .ok all) (Triple.lift ?_ ?_) fun all hall => ?_
  · rintro all hall _ rfl
    exact ⟨holds_self hmarks, hall⟩
  · rintro failure - _ rfl
    exact holds_self hmarks
  refine Triple.bindKnown (I := Holds voc.marks s s.record)
    (R := List.Forall₂ (ConditionCall.WritesGroup voc s.published.heap) all) ?_ fun written hwrites => ?_
  · refine Triple.mapM_forall₂ fun group hgroup => ?_
    refine Triple.bind (keeps_inHeap fun h => Heap.keeps_skip h groups 1) fun _ => ?_
    exact triple_groupComparisons hoperators (hnames all hall group hgroup)
  · refine (triple_addCondition [] (.anyOf written)).post fun _ u hu => ?_
    exact ⟨[.anyOf written], hu, .cons ⟨all, written, hall, hwrites, rfl⟩ .nil⟩

/-! ## All calls -/

theorem triple_columnsWith (column value : Value) :
    Triple (Holds voc.marks s r) (columnsWith column value)
      (fun subjects s' => Holds voc.marks s r s' ∧
        subjects = (s.published.heap.entries? column).getD [(column, value)])
      (Holds voc.marks s r) := by
  refine triple_bindHeap fun s' hs' => ?_
  rw [hs'.heap.entries?]
  exact Triple.pure fun _ hs => ⟨hs ▸ hs', rfl⟩

/-- **A call adds one condition for each of its subjects, in order, up to the first that fails.** -/
theorem triple_condition {source : String} {call : ConditionCall}
    (hsource : s.record.query.source = .text source)
    (hmarks : s.world.session.HasMarks voc.marks s.record.connection)
    (hspeaks : call.SpeaksIn voc s.published.heap) :
    Triple (· = s) (condition kind call)
      (fun _ => Added voc s s.record kind
        (call.Writes voc s.published.heap source s.record.query) (call.subjects s.published.heap))
      (fun s' => ∃ done, done <+: call.subjects s.published.heap ∧
        Added voc s s.record kind (call.Writes voc s.published.heap source s.record.query) done s') := by
  have started : ∀ {writes : Value × Value → Fragment → Prop} {s' : Scope E},
      Holds voc.marks s s.record s' → ∃ done, done <+: call.subjects s.published.heap ∧
        Added voc s s.record kind writes done s' :=
    fun hs' => ⟨[], List.nil_prefix, [], hs', .nil⟩
  have begin : ∀ s', s' = s → Holds voc.marks s s.record s' := by
    rintro _ rfl
    exact holds_self hmarks
  cases call with
  | verbatim text values => exact hspeaks.elim
  | compare operator column value =>
      refine Triple.bindKnown (I := Holds voc.marks s s.record)
        (R := fun subjects => subjects = (s.published.heap.entries? column).getD [(column, value)])
        ((triple_columnsWith column value).consequence begin (fun _ _ ht => ht) fun _ => started) ?_
      rintro _ rfl
      exact triple_compareAll hsource operator column value hspeaks.2
  | among operator column values inlined =>
      obtain ⟨-, hinlined, hnames⟩ := hspeaks
      have add : Triple (Holds voc.marks s s.record)
          (do amongAll kind operator inlined (← columnsWith column values))
          (fun _ => Added voc s s.record kind (ConditionCall.Writes voc s.published.heap source
            s.record.query (.among operator column values inlined))
              ((ConditionCall.among operator column values inlined).subjects s.published.heap))
          (fun s' => ∃ done, done <+:
            (ConditionCall.among operator column values inlined).subjects s.published.heap ∧
              Added voc s s.record kind (ConditionCall.Writes voc s.published.heap source
                s.record.query (.among operator column values inlined)) done s') := by
        refine Triple.bindKnown ((triple_columnsWith column values).consequence (fun _ ht => ht)
          (fun _ _ ht => ht) fun _ => started) ?_
        rintro _ rfl
        exact triple_amongAll source operator column values hinlined hnames
      refine triple_bindHeap fun s₀ hs₀ => ?_
      split
      · refine Triple.bind (R := fun _ => Holds voc.marks s s.record) ?_ fun _ => add
        refine (keeps_inHeap fun h => Heap.keeps_requireKey h column).consequence ?_
          (fun _ _ ht => ht) fun _ => started
        exact fun s' hs' => begin s' (hs'.trans hs₀)
      · exact add.pre fun s' hs' => begin s' (hs'.trans hs₀)
  | check operator column =>
      refine Triple.bindKnown ((triple_testedColumns hmarks operator column).consequence
        (fun _ hs => hs) (fun _ _ hs => hs) fun _ => started) fun columns hsubjects => ?_
      have hall := @triple_checkAll E voc s s.record kind source operator column _
        (hsubjects ▸ hspeaks.2)
      rw [← hsubjects]
      simp only [List.forM_eq_forM, List.forM_map] at hall
      exact hall
  | anyOf groups operator =>
      exact (triple_anyOf source hmarks hspeaks).consequence (fun _ hs => hs) (fun _ _ hs => hs)
        fun _ => started

end Record

end FluentSql
