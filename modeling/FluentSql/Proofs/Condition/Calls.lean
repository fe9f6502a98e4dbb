import FluentSql.Proofs.Condition.Meaning
import FluentSql.Proofs.Record.Building
/-
# FluentSql.Proofs.Condition.Calls — what the conditions mean that a record was asked for.

A structured call compares columns with single values, asks for membership, tests columns, or asks for any
of several groups; its operators are plain, and its columns are texts, whatever characters they have. Every
condition that such a call adds is one of the nodes that it asks for (`triple_structured`), and a call on a
connection that knows its mark does not fail. So the WHERE clause of a record means the conjunction of
everything that it was asked for, in the order of the calls (`where_means_conjunction`).
-/

namespace FluentSql

open Step (Keeps Triple)
open Search (Entry Node IsPlainOperator)

/-! ## Structured calls -/

/-- The operator for a column of a group: the one for all, or that of a mapping, or equality. -/
def Heap.operatorFor (h : Heap) (operator column : Value) : String :=
  match h.content operator with
  | .map entries => ((Entries.get? column entries).map Value.display).getD "="
  | operator => operator.display

/-- All names and letters, with marks that have a property. -/
def Vocabulary.withMarks (P : String → Prop) : Vocabulary where
  marks := P
  names _ := True
  letters _ := True
  ordinary _ _ _ := trivial

namespace ConditionCall

/-- The columns of several subjects are texts. -/
def AreNamed (subjects : List (Value × Value)) : Prop := ∀ e ∈ subjects, ∃ name, e.1 = .text name

/-- The operators that a group may be written with are plain texts. -/
def HasPlainOperators (h : Heap) (operator : Value) : Prop :=
  ∀ v ∈ groupOperators h operator, ∃ word, v = .text word ∧ IsPlainOperator word

/-- They are one text, or those of a mapping. -/
theorem HasPlainOperators.content {h : Heap} {operator : Value} (hplain : HasPlainOperators h operator) :
    (∃ word, h.content operator = .text word ∧ IsPlainOperator word) ∨
      ∃ entries, h.content operator = .map entries ∧
        ∀ v ∈ Entries.values entries, ∃ word, v = .text word ∧ IsPlainOperator word := by
  unfold HasPlainOperators groupOperators at hplain
  split at hplain
  · rename_i entries hcontent
    exact .inr ⟨entries, hcontent, fun v hv => hplain v (List.mem_cons_of_mem _ hv)⟩
  · exact .inl (hplain _ (List.mem_singleton.2 rfl))

/-- The operator for a column is one of them. -/
theorem HasPlainOperators.operatorFor {h : Heap} {operator : Value} (hplain : HasPlainOperators h operator)
    (column : Value) : IsPlainOperator (h.operatorFor operator column) := by
  rcases hplain.content with ⟨word, hcontent, hword⟩ | ⟨entries, hcontent, hwords⟩
  · rw [Heap.operatorFor, hcontent]
    exact hword
  · rw [Heap.operatorFor, hcontent]
    cases hfound : Entries.get? column entries with
    | none =>
        simp only [hfound]
        exact Search.isPlainOperator_named "=" (by simp)
    | some v =>
        obtain ⟨word, rfl, hword⟩ := hwords v (Entries.mem_values_of_get? hfound)
        simp only [hfound]
        exact hword

/-- A group is a mapping with something in it, and its columns are texts. -/
def IsGroup (h : Heap) (group : Value) : Prop :=
  ∃ entries, h.entries? group = some entries ∧ entries ≠ [] ∧ AreNamed entries

/-- The call compares with single values, asks for membership without inlined candidates, tests, or asks
for any of several groups. -/
def IsStructured (h : Heap) : ConditionCall → Prop
  | .verbatim _ _ => False
  | .compare operator column value =>
    IsPlainOperator operator ∧ AreNamed ((compare operator column value).subjects h) ∧
      ∀ e ∈ (compare operator column value).subjects h, ¬ h.IsSequence e.2
  | .among operator column values inlined =>
    IsPlainOperator operator ∧ h.asItems inlined = [] ∧
      AreNamed ((among operator column values inlined).subjects h)
  | .check operator column =>
    IsPlainOperator operator ∧ (column.asText?.isSome ∨ h.isIterable column) ∧
      AreNamed ((check operator column).subjects h)
  | .anyOf groups operator =>
    HasPlainOperators h operator ∧
      ∃ all, h.items? groups = .ok all ∧ all ≠ [] ∧ ∀ group ∈ all, IsGroup h group

/-- A comparison of a group, for an entry of a mapping. -/
def AsksEntry (h : Heap) (operator : Value) (e : Value × Value) (entry : Entry) : Prop :=
  ∃ name, e.1 = .text name ∧ entry = ⟨name, h.operatorFor operator (.text name), e.2⟩

/-- The comparisons of a group, for a mapping. -/
def AsksGroup (h : Heap) (operator group : Value) (entries : List Entry) : Prop :=
  ∃ fields, h.entries? group = some fields ∧ List.Forall₂ (AsksEntry h operator) fields entries

/-- The condition that a call asks for with one of its subjects. -/
def Asks (h : Heap) (source : String) (q : Query) : ConditionCall → Value × Value → Node → Prop
  | .verbatim _ _, _, _ => False
  | .compare operator _ _, (column, value), node =>
    ∃ name, column = .text name ∧ node = .comparison ⟨q.comparedName source name, operator, value⟩
  | .among operator _ _ _, (column, values), node =>
    ∃ name fields h' h'', column = .text name ∧ h.IsLike h' ∧
      (Record.candidates values).perform h' = (.ok fields, h'') ∧
      node = .membership name operator (fields.map (·.2))
  | .check operator _, (column, _), node => ∃ name, column = .text name ∧ node = .check name operator
  | .anyOf _ _, (groups, operator), node =>
    ∃ all written, h.items? groups = .ok all ∧
      List.Forall₂ (AsksGroup h operator) all written ∧ node = .anyOf written

/-- What a structured call asks for is plain. -/
theorem Asks.isPlain {h : Heap} {source : String} {q : Query} {call : ConditionCall} {e : Value × Value}
    {node : Node} (hasks : call.Asks h source q e node) (he : e ∈ call.subjects h)
    (hstructured : call.IsStructured h) : node.IsPlain := by
  cases call with
  | verbatim text values => exact hasks.elim
  | compare operator column value =>
      obtain ⟨name, -, rfl⟩ := hasks
      exact hstructured.1
  | among operator column values inlined =>
      obtain ⟨name, fields, h', h'', -, -, -, rfl⟩ := hasks
      exact hstructured.1
  | check operator column =>
      obtain ⟨name, -, rfl⟩ := hasks
      exact hstructured.1
  | anyOf groups operator =>
      obtain ⟨hoperators, all, hall, hne, hgroups⟩ := hstructured
      cases List.mem_singleton.1 he
      obtain ⟨all', written, hall', hwritten, rfl⟩ := hasks
      obtain rfl : all = all' := Except.ok.inj (hall.symm.trans hall')
      have hplain : ∀ name : String, IsPlainOperator (h.operatorFor operator (.text name)) :=
        fun name => hoperators.operatorFor (.text name)
      refine ⟨?_, ?_⟩
      · rintro rfl
        exact hne (List.forall₂_nil_right_iff.1 hwritten)
      · refine forall_of_forall₂ ((List.forall₂_and_left all written).2 ⟨hgroups, hwritten⟩) ?_
        rintro group entries ⟨⟨fields, hfields, hsome, -⟩, fields', hfields', hentries⟩
        obtain rfl : fields = fields' := Option.some.inj (hfields.symm.trans hfields')
        refine ⟨?_, forall_of_forall₂ hentries ?_⟩
        · rintro rfl
          exact hsome (List.forall₂_nil_right_iff.1 hentries)
        · rintro e entry ⟨name, -, rfl⟩
          exact hplain name

end ConditionCall

namespace Record

open Scope (Holds Visits)
open Identifier (IsStandardMark)

variable {E : Environment} {α : Type} {s : Scope E} {r : Record} {kind : ConditionKind} {P : String → Prop}
  {F : Scope E → Prop}

/-! ## What cannot fail -/

/-- The connection of the record has a mark already: one that was configured, or found with its driver. -/
def Scope.IsSettled (s : Scope E) : Prop :=
  ∃ mark, (s.world.session.settingsOf s.record.connection).quoteMark = some mark ∧ mark.isEmpty = false

/-- A name can be quoted where the connection has a mark. -/
theorem certain_quote {connection mark : String} {w : World E.State}
    (hmark : (w.session.settingsOf connection).quoteMark = some mark) (hne : mark.isEmpty = false)
    (name : String) :
    Triple (· = w) (Connection.quote connection (.text name) : FluentSql.Action E String)
      (fun _ _ => True) fun _ => False := by
  refine Triple.bind (Connection.triple_quoteMark_of_configured hmark hne) fun taken => ?_
  rintro _ ⟨rfl, rfl⟩
  exact trivial

/-- What cannot fail in the heap does not fail in the scope. -/
theorem certain_inHeap {s' : Scope E} {step : Step Heap α}
    (h : Triple (· = s'.published.heap) step (fun _ _ => True) fun _ => False) :
    Triple (· = s') (inHeap step : Record.Action E α) (fun _ _ => True) fun _ => False :=
  Triple.onPart s' (Session.triple_inHeap (Q := fun _ _ => True) (F := fun _ => False) _ rfl h
    (fun _ _ _ => trivial) fun _ => False.elim) rfl (fun _ _ _ => trivial) fun _ => False.elim

/-- A name is quoted with a mark of the connection. That fails only if none was known. -/
theorem triple_quote_settled (hr : r.connection = s.record.connection) (name : String) :
    Triple (Holds P s r) (quote (.text name) : Record.Action E String)
      (fun quoted s' => Holds P s r s' ∧ ∃ mark, P mark ∧ quoted = Identifier.quoteName mark name)
      (fun s' => Holds P s r s' ∧ ¬ s.IsSettled) := by
  by_cases hsettled : s.IsSettled
  · refine (triple_quote_text name).certain ?_
    obtain ⟨mark, hmark, hne⟩ := hsettled
    refine triple_bindCurrent fun s' hs' => ?_
    have hconfigured : (s'.published.session.settingsOf s'.record.connection).quoteMark = some mark := by
      rw [Scope.session_published, hs'.record, hr]
      exact hs'.session.quoteMark _ _ hmark
    exact Triple.onPart s' (certain_quote hconfigured hne name) rfl (fun _ _ _ => trivial) fun _ => False.elim
  · exact (triple_quote_text name).consequence (fun _ hs' => hs') (fun _ _ hs' => hs')
      fun _ hs' => ⟨hs', hsettled⟩

/-! ## Conditions one by one -/

/-- The scope holds the record with conditions that are written for some nodes, one for each. -/
def Tells (s : Scope E) (kind : ConditionKind) (nodes : List Node) (s' : Scope E) : Prop :=
  ∃ added, Holds IsStandardMark s (s.record.withConditions kind added) s' ∧
    List.Forall₂ (fun node f => node.WrittenAs f) nodes added

/-- The scope holds the record with a condition for each of some subjects. -/
def Adds (s : Scope E) (kind : ConditionKind) (asks : Value × Value → Node → Prop)
    (subjects : List (Value × Value)) (s' : Scope E) : Prop :=
  ∃ nodes, List.Forall₂ asks subjects nodes ∧ Tells s kind nodes s'

/-- No mark was known, and there is a condition for each of the first subjects. -/
def Stops (s : Scope E) (kind : ConditionKind) (asks : Value × Value → Node → Prop)
    (subjects : List (Value × Value)) (s' : Scope E) : Prop :=
  ¬ s.IsSettled ∧ ∃ done, done <+: subjects ∧ Adds s kind asks done s'

/-- The step adds what a call asks for: a condition for each subject, or for the first of them. -/
def Obeys (s : Scope E) (kind : ConditionKind) (source : String) (call : ConditionCall)
    (subjects : List (Value × Value)) (I : Scope E → Prop) (step : Record.Action E PUnit) : Prop :=
  Triple I step (fun _ => Adds s kind (call.Asks s.published.heap source s.record.query) subjects)
    (Stops s kind (call.Asks s.published.heap source s.record.query) subjects)

/-- One condition for each subject, up to the first that fails. -/
theorem triple_tellEach {asks : Value × Value → Node → Prop} {subjects : List (Value × Value)}
    {f : Value × Value → Record.Action E PUnit}
    (h : ∀ e ∈ subjects, ∀ added,
      Triple (Holds IsStandardMark s (s.record.withConditions kind added)) (f e)
        (fun _ s' => ∃ node fragment, asks e node ∧ node.WrittenAs fragment ∧
          Holds IsStandardMark s (s.record.withConditions kind (added ++ [fragment])) s')
        (fun s' => Holds IsStandardMark s (s.record.withConditions kind added) s' ∧ ¬ s.IsSettled)) :
    Triple (Holds IsStandardMark s s.record) (subjects.forM f)
      (fun _ => Adds s kind asks subjects) (Stops s kind asks subjects) := by
  refine (Triple.forM (Adds s kind asks) fun done e rest hsplit => ?_).pre fun s' hs' => ⟨[], .nil, [], hs', .nil⟩
  refine Triple.of_states ?_
  rintro s' ⟨nodes, hnodes, added, hholds, hwritten⟩
  refine (h e (by simp [hsplit]) added).consequence ?_ ?_ ?_
  · rintro _ rfl
    exact hholds
  · rintro _ s'' ⟨node, fragment, hasks, hfragment, hs''⟩
    exact ⟨nodes ++ [node], List.rel_append hnodes (.cons hasks .nil), _, hs'',
      List.rel_append hwritten (.cons hfragment .nil)⟩
  · rintro s'' ⟨hs'', hsettled⟩
    exact ⟨hsettled, done, ⟨e :: rest, hsplit.symm⟩, nodes, hnodes, added, hs'', hwritten⟩

/-- What is written for a node is added. -/
theorem triple_addWritten (added : List Fragment) (asks : Node → Prop) (node : Node) {fragment : Fragment}
    (hasks : asks node) (hwritten : node.WrittenAs fragment) :
    Triple (Holds P s (r.withConditions kind added)) (addCondition kind fragment)
      (fun _ s' => ∃ node fragment, asks node ∧ node.WrittenAs fragment ∧
        Holds P s (r.withConditions kind (added ++ [fragment])) s') F := by
  have hadd := triple_change (P := P) (s := s) (r := r.withConditions kind added)
    (f := fun r => { r with query := r.query.addCondition kind fragment }) rfl
  refine (hadd.certain fun _ _ => trivial).post fun _ s' hs' => ⟨node, fragment, hasks, hwritten, ?_⟩
  simpa only [withConditions, Query.addConditions_concat] using hs'

/-! ## Comparisons -/

theorem certain_qualified (name : String) :
    Triple (Holds P s r) (qualified (.text name)) (fun _ _ => True) fun _ => False := by
  refine triple_bindCurrent fun s' _ => ?_
  by_cases hjoins : s'.record.query.joins.isEmpty
  · simp only [hjoins, if_true]
    exact fun _ _ => trivial
  · simp only [hjoins, Bool.false_eq_true, if_false]
    refine Triple.bind (R := fun _ _ => True) (certain_inHeap fun h _ => trivial) fun found => ?_
    split <;> exact fun _ _ => trivial

theorem triple_compareAll_structured {source : String} (hsource : s.record.query.source = .text source)
    {operator : String} {column value : Value} {subjects : List (Value × Value)}
    (hnames : ConditionCall.AreNamed subjects)
    (hvalues : ∀ e ∈ subjects, ¬ s.published.heap.IsSequence e.2) :
    Obeys s kind source (.compare operator column value) subjects
      (Holds IsStandardMark s s.record) (compareAll kind operator subjects) := by
  refine triple_tellEach fun e he added => ?_
  obtain ⟨name, hname⟩ := hnames e he
  obtain ⟨column, value⟩ := e
  obtain rfl : column = .text name := hname
  obtain ⟨hjoins, hsame⟩ := Query.joins_source_addConditions kind added s.record.query
  have hstill : (s.record.withConditions kind added).query.source = .text source := hsame.trans hsource
  have hqualified := @triple_qualified E (.withMarks IsStandardMark) s _ _ hstill name
  refine Triple.bindKnown (hqualified.certain (certain_qualified name)) ?_
  rintro _ rfl
  refine Triple.bindKnown (triple_quote_settled (r := s.record.withConditions kind added) rfl _) ?_
  rintro quoted ⟨mark, hmark, rfl⟩
  refine triple_bindHeap fun s' hs' => ?_
  refine Triple.pre ?_ fun t (ht : t = s') => ht ▸ hs'
  refine triple_addWritten added _ (.comparison ⟨s.record.query.comparedName source name, operator, value⟩)
    ⟨name, rfl, rfl⟩ ⟨_, ⟨mark, hmark, rfl⟩, ?_⟩
  have hvalue : s'.published.heap.asItems value = [value] := by
    rw [hs'.heap.asItems]
    exact Heap.asItems_of_not_isSequence (hvalues _ he)
  rw [hvalue]
  simp only [Query.comparedName, withConditions, hjoins]

/-! ## Membership -/

theorem certain_skip (v : Value) (count : Nat) :
    Triple (fun _ => True) (Heap.skip v count) (fun _ _ => True) fun _ => False := by
  cases v with
  | ref id =>
      refine Triple.bindGet fun h _ => ?_
      split <;> exact fun _ _ => trivial
  | _ => exact fun _ _ => trivial

theorem certain_items {h : Heap} {v : Value} (hv : h.isIterable v = true) :
    Triple (· = h) (Heap.items v) (fun _ _ => True) fun _ => False := by
  obtain ⟨all, hall⟩ : ∃ all, h.items? v = .ok all := by
    unfold Heap.isIterable at hv
    cases hitems : h.items? v with
    | ok all => exact ⟨all, rfl⟩
    | error failure => simp [hitems, Except.toOption] at hv
  refine Triple.bindGet ?_
  rintro h rfl
  rw [hall]
  refine Triple.bind (R := fun _ _ => True) (fun _ _ => trivial) fun all => ?_
  exact Triple.bind (certain_skip v _) fun _ => Triple.pure fun _ _ => trivial

/-- What can be gone through gives its items. -/
theorem triple_items_of_ok {h : Heap} {v : Value} {all : List Value} (hv : h.items? v = .ok all) :
    Triple (· = h) (Heap.items v) (fun taken h' => h.Drains h' ∧ taken = all) fun _ => False := by
  have hiterable : h.isIterable v = true := by
    rw [Heap.isIterable, hv]
    rfl
  refine ((Heap.triple_items h v).certain (certain_items hiterable)).post ?_
  rintro taken h' ⟨hd, htaken⟩
  rw [hv] at htaken
  cases htaken
  exact ⟨hd, rfl⟩

/-- Whatever is given can be made candidates of. -/
theorem certain_candidates (h : Heap) (values : Value) :
    Triple (· = h) (candidates values) (fun _ _ => True) fun _ => False := by
  refine Triple.bindGet ?_
  rintro h rfl
  split
  · exact fun _ _ => trivial
  · exact fun _ _ => trivial
  · exact fun _ _ => trivial
  · split
    · rename_i hiterable
      refine Triple.bindGet ?_
      rintro h rfl
      split
      · exact fun _ _ => trivial
      · exact Triple.bind (certain_items hiterable) fun _ => Triple.pure fun _ _ => trivial
    · exact fun _ _ => trivial

/-- All candidates are bound if nothing is inlined. -/
theorem triple_bound {h : Heap} {inlined : Value} (hnil : h.asItems inlined = []) (values : Value) :
    Triple (· = h) (do placeholders inlined (← candidates values))
      (fun written h' => h.Drains h' ∧ ∃ fields h'', (candidates values).perform h = (.ok fields, h'') ∧
        written = .ofTerms (fields.map fun e => .bound e.2)) fun _ => False := by
  have hcandidates := (keeps_candidates h values).withRun (Heap.Drains.refl h)
  refine Triple.bind (hcandidates.certain (certain_candidates h values)) fun fields => ?_
  refine Triple.of_states fun h' ⟨hd, hrun⟩ => ?_
  have hstill : h'.asItems inlined = [] := by rw [hd.isLike.asItems, hnil]
  refine (triple_placeholders hstill fields).post ?_
  rintro written _ ⟨rfl, hwritten⟩
  exact ⟨hd, fields, _, hrun, hwritten⟩

theorem triple_amongAll_structured (source : String) {operator : String} {column values inlined : Value}
    (hinlined : s.published.heap.asItems inlined = []) {subjects : List (Value × Value)}
    (hnames : ConditionCall.AreNamed subjects) :
    Obeys s kind source (.among operator column values inlined) subjects
      (Holds IsStandardMark s s.record) (amongAll kind operator inlined subjects) := by
  refine triple_tellEach fun e he added => ?_
  obtain ⟨name, hname⟩ := hnames e he
  obtain ⟨column, values⟩ := e
  obtain rfl : column = .text name := hname
  refine Triple.bindKnown (I := Holds IsStandardMark s (s.record.withConditions kind added))
    (R := fun written => ∃ fields h h', s.published.heap.IsLike h ∧
      (candidates values).perform h = (.ok fields, h') ∧
      written = .ofTerms (fields.map fun e => .bound e.2)) ?_ fun written => ?_
  · refine Triple.of_states fun s' hs' => ?_
    have hnil : s'.published.heap.asItems inlined = [] := by rw [hs'.heap.asItems, hinlined]
    have hbound := triple_bound hnil values
    refine (triple_inHeap hs' (hbound.consequence (fun _ hs => hs) ?_ fun _ => False.elim)).certain
      (certain_inHeap (hbound.post fun _ _ _ => trivial))
    rintro written h' ⟨hd, fields, h'', hrun, hwritten⟩
    exact ⟨hd, fields, _, h'', hs'.heap, hrun, hwritten⟩
  · rintro ⟨fields, h, h', hlike, hrun, rfl⟩
    refine Triple.bindKnown (triple_quote_settled (r := s.record.withConditions kind added) rfl name) ?_
    rintro quoted ⟨mark, hmark, rfl⟩
    refine triple_addWritten added _ (.membership name operator (fields.map (·.2)))
      ⟨name, fields, h, h', rfl, hlike, hrun, rfl⟩ ⟨mark, hmark, ?_⟩
    rw [List.map_map]
    rfl

/-! ## Tests -/

theorem triple_testedColumns_structured (operator : String) {column : Value}
    (hmarks : s.world.session.HasMarks P s.record.connection)
    (hcolumn : column.asText?.isSome ∨ s.published.heap.isIterable column = true) :
    Triple (· = s) (testedColumns column)
      (fun columns s' => Holds P s s.record s' ∧ columns.map (fun column => (column, Value.null)) =
        (ConditionCall.check operator column).subjects s.published.heap) F := by
  have htested := @triple_testedColumns E (.withMarks P) s hmarks operator column
  refine htested.certain ?_
  unfold testedColumns
  split
  · exact fun _ _ => trivial
  · rename_i hnone
    exact certain_inHeap (certain_items (hcolumn.resolve_left hnone))

theorem triple_checkAll_structured (source : String) {operator : String} {column : Value}
    {subjects : List (Value × Value)} (hnames : ConditionCall.AreNamed subjects) :
    Obeys s kind source (.check operator column) subjects
      (Holds IsStandardMark s s.record)
      (subjects.forM fun e => do addCondition kind (.check (← quote e.1) operator)) := by
  refine triple_tellEach fun e he added => ?_
  obtain ⟨name, hname⟩ := hnames e he
  obtain ⟨column, value⟩ := e
  obtain rfl : column = .text name := hname
  refine Triple.bindKnown (triple_quote_settled (r := s.record.withConditions kind added) rfl name) ?_
  rintro quoted ⟨mark, hmark, rfl⟩
  exact triple_addWritten added _ (.check name operator) ⟨name, rfl, rfl⟩ ⟨mark, hmark, rfl⟩

/-! ## Groups -/

theorem triple_operatorFor_structured {operator : Value}
    (hoperators : ConditionCall.HasPlainOperators s.published.heap operator) (name : String) :
    Triple (Holds P s r) (operatorFor operator (.text name))
      (fun word s' => Holds P s r s' ∧ word = s.published.heap.operatorFor operator (.text name)) F := by
  refine triple_bindHeap fun s' hs' => ?_
  rcases hoperators.content with ⟨word, hcontent, -⟩ | ⟨entries, hcontent, hwords⟩
  · have hsame : s'.published.heap.content operator = .text word :=
      (hs'.heap.content_eq (by simp [hcontent])).trans hcontent
    rw [hsame, Heap.operatorFor, hcontent]
    exact Triple.pure fun _ ht => ⟨ht ▸ hs', rfl⟩
  · have hsame : s'.published.heap.content operator = .map entries :=
      (hs'.heap.content_eq (by simp [hcontent])).trans hcontent
    rw [hsame, Heap.operatorFor, hcontent]
    have hentry : Triple (· = s'.published.heap) (Heap.entryOf? (.text name) entries)
        (fun found h' => s'.published.heap.Drains h' ∧ found = Entries.get? (.text name) entries)
        fun _ => False := by
      rintro _ rfl
      exact ⟨Heap.Drains.refl _, rfl⟩
    refine Triple.bindKnown (I := Holds P s r) (R := fun found => found = Entries.get? (.text name) entries)
      ((triple_inHeap hs' (hentry.consequence (fun _ h => h) (fun _ _ h => h) fun _ => False.elim)).certain
        (certain_inHeap (hentry.post fun _ _ _ => trivial))) ?_
    rintro _ rfl
    cases hfound : Entries.get? (.text name) entries with
    | none => exact Triple.pure fun _ ht => ⟨ht, by simp only [hfound]; rfl⟩
    | some v =>
        obtain ⟨word, rfl, -⟩ := hwords v (Entries.mem_values_of_get? hfound)
        exact fun t ht => ⟨ht, by simp only [hfound]; rfl⟩

/-- What lies between related items makes up a list between their lists. -/
theorem exists_forall₂_of_forall₂_exists {β γ δ : Type} {R : β → γ → Prop} {S : γ → δ → Prop} {bs : List β}
    {ds : List δ} (h : List.Forall₂ (fun b d => ∃ c, R b c ∧ S c d) bs ds) :
    ∃ cs, List.Forall₂ R bs cs ∧ List.Forall₂ S cs ds := by
  induction h with
  | nil => exact ⟨[], .nil, .nil⟩
  | cons hfirst _ ih =>
      obtain ⟨c, hc, hd⟩ := hfirst
      obtain ⟨cs, hcs, hds⟩ := ih
      exact ⟨c :: cs, .cons hc hcs, .cons hd hds⟩

/-- A comparison is written for an entry of a mapping. -/
theorem triple_groupComparison_structured {operator : Value}
    (hoperators : ConditionCall.HasPlainOperators s.published.heap operator) {e : Value × Value}
    (hname : ∃ name, e.1 = .text name) :
    Triple (Holds IsStandardMark s s.record) (groupComparison operator e)
      (fun c s' => Holds IsStandardMark s s.record s' ∧
        ∃ entry, ConditionCall.AsksEntry s.published.heap operator e entry ∧ entry.WrittenAs c)
      (fun s' => Holds IsStandardMark s s.record s' ∧ ¬ s.IsSettled) := by
  obtain ⟨name, hname⟩ := hname
  obtain ⟨column, value⟩ := e
  obtain rfl : column = .text name := hname
  refine Triple.bindKnown (triple_operatorFor_structured hoperators name) ?_
  rintro _ rfl
  refine Triple.bindKnown (triple_quote_settled rfl name) ?_
  rintro quoted ⟨mark, hmark, rfl⟩
  exact Triple.pure fun _ ht => ⟨ht, _, ⟨name, rfl, rfl⟩, mark, hmark, rfl⟩

/-- The comparisons of a group are written for its entries. -/
theorem triple_comparisons_structured {operator : Value}
    (hoperators : ConditionCall.HasPlainOperators s.published.heap operator)
    {fields : List (Value × Value)} (hnames : ConditionCall.AreNamed fields) :
    Triple (Holds IsStandardMark s s.record)
      (fields.mapM (groupComparison operator) : Record.Action E (List Comparison))
      (fun comparisons s' => Holds IsStandardMark s s.record s' ∧ ∃ entries,
        List.Forall₂ (ConditionCall.AsksEntry s.published.heap operator) fields entries ∧
          List.Forall₂ Entry.WrittenAs entries comparisons)
      (fun s' => Holds IsStandardMark s s.record s' ∧ ¬ s.IsSettled) := by
  refine (Triple.mapM_forall₂ fun e he =>
    triple_groupComparison_structured hoperators (hnames e he)).post ?_
  exact fun comparisons t ⟨ht, hwritten⟩ => ⟨ht, exists_forall₂_of_forall₂_exists hwritten⟩

/-- A condition is added with a group for each of several groups that are asked for. -/
theorem triple_addGroups {β : Type} (kind : ConditionKind) (asks : β → List Entry → Prop) {groups : List β}
    {f : β → Record.Action E (List Comparison)}
    (hf : ∀ group ∈ groups, Triple (Holds IsStandardMark s s.record) (f group)
      (fun comparisons s' => Holds IsStandardMark s s.record s' ∧ ∃ entries,
        asks group entries ∧ List.Forall₂ Entry.WrittenAs entries comparisons)
      (fun s' => Holds IsStandardMark s s.record s' ∧ ¬ s.IsSettled)) :
    Triple (Holds IsStandardMark s s.record)
      (do addCondition kind (.anyOf (← groups.mapM f)))
      (fun _ s' => ∃ asked, List.Forall₂ asks groups asked ∧ Tells s kind [.anyOf asked] s')
      (fun s' => Holds IsStandardMark s s.record s' ∧ ¬ s.IsSettled) := by
  refine Triple.bindKnown (I := Holds IsStandardMark s s.record) (R := fun written => ∃ asked,
    List.Forall₂ asks groups asked ∧ List.Forall₂ (List.Forall₂ Entry.WrittenAs) asked written) ?_ ?_
  · refine (Triple.mapM_forall₂ hf).post ?_
    exact fun written t ⟨ht, hwritten⟩ => ⟨ht, exists_forall₂_of_forall₂_exists hwritten⟩
  · rintro written ⟨asked, hasked, hwritten⟩
    refine (triple_addWritten [] (· = .anyOf asked) _ rfl ⟨written, hwritten, rfl⟩).post ?_
    rintro _ s' ⟨node, fragment, rfl, hfragment, hs'⟩
    exact ⟨asked, hasked, [fragment], hs', .cons hfragment .nil⟩

/-- A call that failed before its first subject has added nothing. -/
theorem stops_of_holds {asks : Value × Value → Node → Prop} {subjects : List (Value × Value)} {s' : Scope E}
    (h : Holds IsStandardMark s s.record s' ∧ ¬ s.IsSettled) : Stops s kind asks subjects s' :=
  ⟨h.2, [], List.nil_prefix, [], .nil, [], h.1, .nil⟩

theorem triple_anyOf_structured (source : String) {groups operator : Value}
    (hmarks : s.world.session.HasMarks IsStandardMark s.record.connection)
    (hstructured : (ConditionCall.anyOf groups operator).IsStructured s.published.heap) :
    Obeys s kind source (.anyOf groups operator) [(groups, operator)]
      (· = s) (condition kind (.anyOf groups operator)) := by
  obtain ⟨hoperators, all, hall, -, hgroups⟩ := hstructured
  have hgroup : ∀ group ∈ all, Triple (Holds IsStandardMark s s.record)
      (do
        inHeap (Heap.skip groups 1)
        (← groupEntries group).mapM (groupComparison operator) : Record.Action E (List Comparison))
      (fun comparisons s' => Holds IsStandardMark s s.record s' ∧ ∃ entries,
        ConditionCall.AsksGroup s.published.heap operator group entries ∧
          List.Forall₂ Entry.WrittenAs entries comparisons)
      (fun s' => Holds IsStandardMark s s.record s' ∧ ¬ s.IsSettled) := by
    intro group hgroup
    obtain ⟨fields, hfields, -, hnames⟩ := hgroups group hgroup
    have hskip : Triple (Holds IsStandardMark s s.record)
        (inHeap (Heap.skip groups 1) : Record.Action E Unit) (fun _ => Holds IsStandardMark s s.record)
        (fun s' => Holds IsStandardMark s s.record s' ∧ ¬ s.IsSettled) :=
      Triple.certain (keeps_inHeap fun h => Heap.keeps_skip h groups 1) (Triple.of_states fun s' _ =>
        certain_inHeap ((certain_skip groups 1).pre fun _ _ => trivial))
    refine Triple.bind hskip fun _ => ?_
    refine Triple.bindKnown (I := Holds IsStandardMark s s.record) (R := fun all => all = fields) ?_ ?_
    · refine triple_bindHeap fun s' hs' => ?_
      rw [hs'.heap.entries?, hfields]
      exact Triple.pure fun _ hs => ⟨hs ▸ hs', rfl⟩
    · rintro _ rfl
      refine (triple_comparisons_structured hoperators hnames).post ?_
      rintro comparisons s' ⟨hs', entries, hasks, hwritten⟩
      exact ⟨hs', entries, ⟨_, hfields, hasks⟩, hwritten⟩
  have hadd := triple_addGroups kind _ hgroup
  refine triple_bindHeap fun t ht => ?_
  rw [ht, hall]
  refine Triple.bindKnown (I := Holds IsStandardMark s s.record) (R := fun taken => taken = all) ?_ ?_
  · rintro _ rfl
    exact ⟨holds_self hmarks, rfl⟩
  · rintro all rfl
    refine hadd.consequence (fun _ hs => hs) ?_ fun _ => stops_of_holds
    rintro _ s' ⟨asked, hasked, htells⟩
    exact ⟨[.anyOf asked], .cons ⟨all, asked, hall, hasked, rfl⟩ .nil, htells⟩

/-! ## All calls -/

theorem triple_compare_structured {source operator : String} {column value : Value}
    (hsource : s.record.query.source = .text source)
    (hstructured : (ConditionCall.compare operator column value).IsStructured s.published.heap) :
    Obeys s kind source (.compare operator column value)
      ((ConditionCall.compare operator column value).subjects s.published.heap)
      (Holds IsStandardMark s s.record) (condition kind (.compare operator column value)) := by
  have hcolumns := @triple_columnsWith E (.withMarks IsStandardMark) s s.record column value
  refine Triple.bindKnown (hcolumns.certain fun _ _ => trivial) ?_
  rintro _ rfl
  exact triple_compareAll_structured hsource hstructured.2.1 hstructured.2.2

theorem triple_among_structured (source : String) {operator : String} {column values inlined : Value}
    (hstructured : (ConditionCall.among operator column values inlined).IsStructured s.published.heap) :
    Obeys s kind source (.among operator column values inlined)
      ((ConditionCall.among operator column values inlined).subjects s.published.heap)
      (Holds IsStandardMark s s.record) (condition kind (.among operator column values inlined)) := by
  obtain ⟨-, hinlined, hnames⟩ := hstructured
  have hcolumns := @triple_columnsWith E (.withMarks IsStandardMark) s s.record column values
  have hadd : Obeys s kind source (.among operator column values inlined)
      ((ConditionCall.among operator column values inlined).subjects s.published.heap)
      (Holds IsStandardMark s s.record) (do amongAll kind operator inlined (← columnsWith column values)) := by
    refine Triple.bindKnown (hcolumns.certain fun _ _ => trivial) ?_
    rintro _ rfl
    exact triple_amongAll_structured source hinlined hnames
  refine triple_bindHeap fun s' hs' => ?_
  rw [hs'.heap.entries?]
  split
  · rename_i hnone
    -- What is no mapping is the only column, so it is a text.
    obtain ⟨name, rfl⟩ : ∃ name, column = .text name := by
      refine hnames (column, values) ?_
      rw [ConditionCall.subjects, Option.isNone_iff_eq_none.1 hnone]
      exact List.mem_singleton.2 rfl
    have hkey : Triple (Holds IsStandardMark s s.record)
        (inHeap (Heap.requireKey (.text name)) : Record.Action E Unit)
        (fun _ => Holds IsStandardMark s s.record) (Stops s kind (ConditionCall.Asks
          s.published.heap source s.record.query (.among operator (.text name) values inlined))
          ((ConditionCall.among operator (.text name) values inlined).subjects s.published.heap)) :=
      Triple.certain (keeps_inHeap fun h => Heap.keeps_requireKey h _) (Triple.of_states fun s' _ =>
        certain_inHeap fun _ _ => trivial)
    exact (Triple.bind hkey fun _ => hadd).pre fun t ht => ht ▸ hs'
  · exact hadd.pre fun t ht => ht ▸ hs'

/-- A structured call adds a condition for each of its subjects, in order. It stops before the last of
them only if its connection had no mark yet. -/
theorem triple_structured {source : String} {call : ConditionCall}
    (hsource : s.record.query.source = .text source)
    (hmarks : s.world.session.HasMarks IsStandardMark s.record.connection)
    (hstructured : call.IsStructured s.published.heap) :
    Obeys s kind source call (call.subjects s.published.heap)
      (· = s) (condition kind call) := by
  have hheld : ∀ s', s' = s → Holds IsStandardMark s s.record s' := by
    rintro _ rfl
    exact holds_self hmarks
  cases call with
  | verbatim text values => exact hstructured.elim
  | compare operator column value => exact (triple_compare_structured hsource hstructured).pre hheld
  | among operator column values inlined => exact (triple_among_structured source hstructured).pre hheld
  | check operator column =>
      refine Triple.bindKnown (triple_testedColumns_structured operator hmarks hstructured.2.1)
        fun columns hsubjects => ?_
      have hall := @triple_checkAll_structured E s kind source operator column _
        (hsubjects ▸ hstructured.2.2)
      rw [← hsubjects]
      simp only [List.forM_eq_forM, List.forM_map] at hall
      exact hall
  | anyOf groups operator => exact triple_anyOf_structured source hmarks hstructured

/-! ## The key -/

/-- The columns of a compound key with their values in a mapping. -/
def keyRow (h : Heap) (columns : List Value) (id : Value) : Row :=
  Entries.ofPairs (columns.map fun column =>
    (column, .ofOption (Entries.get? column ((h.entries? id).getD []))))

theorem perform_keyParts {h : Heap} {columns : List Value} {id : Value} {entries : Row}
    (hid : h.content id = .map entries) (hcolumns : ∀ column ∈ columns, ∃ name, column = .text name) :
    (keyParts columns id).perform h = (.ok (keyRow h columns id), h) := by
  have hentries : h.entries? id = some entries := by rw [Heap.entries?, hid]
  have hpart : ∀ column ∈ columns, (partOf id column).perform h =
      (.ok (.ofOption (Entries.get? column entries)), h) := by
    intro column hcolumn
    obtain ⟨name, rfl⟩ := hcolumns column hcolumn
    have hget : (get : Step Heap Heap).perform h = (.ok h, h) := rfl
    rw [partOf, Step.perform_bind_ok hget]
    simp only [hid]
    rfl
  have hparts : (columns.mapM fun column => do
      return (column, ← partOf id column) : Step Heap Row).perform h =
        (.ok (columns.map fun column => (column, .ofOption (Entries.get? column entries))), h) := by
    clear hcolumns
    induction columns with
    | nil => rfl
    | cons column columns ih =>
        have hrest := ih fun c hc => hpart c (List.mem_cons_of_mem _ hc)
        have hfirst : (do return (column, ← partOf id column) : Step Heap (Value × Value)).perform h =
            (.ok (column, .ofOption (Entries.get? column entries)), h) := by
          rw [Step.perform_bind_ok (hpart column List.mem_cons_self)]
          rfl
        rw [List.mapM_cons, Step.perform_bind_ok hfirst, Step.perform_bind_ok hrest]
        rfl
  rw [keyParts, Step.perform_bind_ok hparts, keyRow, hentries]
  rfl

/-- The conditions that builder calls of a record come to. -/
inductive IsSearch (s : Scope E) : BuilderCall → ConditionCall → Prop
  | condition (call : ConditionCall) : IsSearch s (.condition .whereClause call) call
  | among (operator : String) (column values : Value) :
    IsSearch s (.among .whereClause operator column values)
      (.among operator column values (.list s.record.changes.inlined))
  | keyIs_single {column : Value} (id : Value) (hkey : s.key = .single column) :
    IsSearch s (.keyIs .whereClause id) (.compare "=" column id)
  | keyIs_compound {columns : List Value} {id : Value} {entries : Row} (hkey : s.key = .compound columns)
      (hcolumns : ∀ column ∈ columns, ∃ name, column = .text name)
      (hid : s.published.heap.content id = .map entries) :
    IsSearch s (.keyIs .whereClause id) (.compare "=" (.map (keyRow s.published.heap columns id)) .null)
  | keyIn_single {column ids : Value} {all : List Value} (hkey : s.key = .single column)
      (hids : s.published.heap.items? ids = .ok all) :
    IsSearch s (.keyIn ids) (.among "IN" column (.list all) (.list s.record.changes.inlined))
  | keyIn_compound {columns : List Value} {ids : Value} {all : List Value} (hkey : s.key = .compound columns)
      (hcolumns : ∀ column ∈ columns, ∃ name, column = .text name)
      (hids : s.published.heap.items? ids = .ok all)
      (hall : ∀ id ∈ all, ∃ entries, s.published.heap.content id = .map entries) :
    IsSearch s (.keyIn ids)
      (.anyOf (.list (all.map fun id => .map (keyRow s.published.heap columns id))) (.text "="))

/-- Looking for the key leaves the heap as it is. -/
theorem triple_key_structured (hmarks : s.world.session.HasMarks P s.record.connection) :
    Triple (· = s) (key : Record.Action E KeyColumns)
      (fun key s' => (Holds P s s.record s' ∧ s'.published.heap = s.published.heap) ∧ key = s.key) F := by
  have hkey : Triple (· = s) (key : Record.Action E KeyColumns)
      (fun key s' => Holds P s s.record s' ∧ key = s.key) (Holds P s s.record) :=
    triple_key.pre (by rintro _ rfl; exact holds_self hmarks)
  have hheap : Triple (· = s) (key : Record.Action E KeyColumns)
      (fun _ s' => s'.published.heap = s.published.heap) fun _ => False := by
    refine triple_bindCurrent ?_
    rintro s rfl
    split
    · exact Triple.pure fun _ hs => by rw [hs]
    · rintro _ rfl
      exact congrArg World.heap (Scope.renewed_eq (Heap.Drains.refl _)).2.2
  exact ((hkey.and hheap).consequence (fun _ hs => hs) (fun _ _ hs => ⟨⟨hs.1.1, hs.2⟩, hs.1.2⟩)
    fun _ hs => hs.2.elim)

theorem keyRow_eq {h h' : Heap} (hl : h.IsLike h') (columns : List Value) (id : Value) :
    keyRow h' columns id = keyRow h columns id := by rw [keyRow, keyRow, hl.entries?]

/-- The columns of a row of a compound key are columns of the key. -/
theorem areNamed_keyRow (h : Heap) {columns : List Value}
    (hcolumns : ∀ column ∈ columns, ∃ name, column = .text name) (id : Value) :
    ConditionCall.AreNamed (keyRow h columns id) := by
  have hpairs : ∀ e ∈ columns.map fun column => (column,
      Value.ofOption (Entries.get? column ((h.entries? id).getD []))),
      (∃ name, e.1 = Value.text name) ∧ True := by
    intro e he
    obtain ⟨column, hcolumn, rfl⟩ := List.mem_map.1 he
    exact ⟨hcolumns column hcolumn, trivial⟩
  exact fun e he => (Entries.forall_mem_ofPairs (K := fun k => ∃ name, k = Value.text name)
    (V := fun _ => True) hpairs e he).1

/-- The values of several compound keys. -/
theorem triple_forItems_keyParts (h : Heap) {columns : List Value} {ids : Value} {all : List Value}
    (hcolumns : ∀ column ∈ columns, ∃ name, column = .text name) (hids : h.items? ids = .ok all)
    (hall : ∀ id ∈ all, ∃ entries, h.content id = .map entries) :
    Triple (· = h) (Heap.forItems ids (keyParts columns))
      (fun rows h' => h.Drains h' ∧ rows = all.map (keyRow h columns)) fun _ => False := by
  have hget : (get : Step Heap Heap).perform h = (.ok h, h) := rfl
  have hone : ∀ id ∈ all, Triple h.Drains (do Heap.skip ids 1; keyParts columns id)
      (fun row h' => h.Drains h' ∧ row = keyRow h columns id) fun _ => False := by
    intro id hid
    refine Triple.bind ((Heap.keeps_skip h ids 1).certain ((certain_skip ids 1).pre fun _ _ => trivial))
      fun _ h' hd => ?_
    obtain ⟨entries, hentries⟩ := hall id hid
    have hsame : h'.content id = .map entries :=
      (hd.isLike.content_eq (by simp [hentries])).trans hentries
    rw [perform_keyParts hsame hcolumns]
    exact ⟨hd, keyRow_eq hd.isLike columns id⟩
  refine Triple.bindGet fun h' hh => ?_
  rw [hh, hids]
  refine Triple.bindKnown (I := h.Drains) (R := fun taken => taken = all)
    (fun _ ht => ⟨ht ▸ Heap.Drains.refl _, rfl⟩) ?_
  rintro all rfl
  exact Triple.mapM_known hone

/-- Groups for the rows of compound keys are asked for like groups that are mappings. -/
theorem triple_anyOfGroups_structured (source : String) (kind : ConditionKind) (rows : List Row)
    (hrows : ∀ row ∈ rows, ConditionCall.AreNamed row) :
    Obeys s kind source (.anyOf (.list (rows.map .map)) (.text "=")) [(.list (rows.map .map), .text "=")]
      (Holds IsStandardMark s s.record) (anyOfGroups kind rows) := by
  have hoperators : ConditionCall.HasPlainOperators s.published.heap (.text "=") := by
    intro v hv
    rw [List.mem_singleton.1 hv]
    exact ⟨"=", rfl, Search.isPlainOperator_named "=" (by simp)⟩
  have hadd := triple_addGroups (s := s) kind
    (fun row => List.Forall₂ (ConditionCall.AsksEntry s.published.heap (.text "=")) row)
    fun row hrow => triple_comparisons_structured hoperators (hrows row hrow)
  refine hadd.consequence (fun _ hs => hs) ?_ fun _ => stops_of_holds
  rintro _ s' ⟨asked, hasked, htells⟩
  refine ⟨[.anyOf asked], .cons ⟨rows.map .map, asked, rfl, ?_, rfl⟩ .nil, htells⟩
  rw [List.forall₂_map_left_iff]
  exact hasked.imp fun row entries hrow => ⟨row, rfl, hrow⟩

/-- What is read in the heap of the scope is known, as long as reading cannot fail and only drains it. -/
theorem triple_inHeap_known {step : Step Heap α} {value : α}
    (hstep : Triple (· = s.published.heap) step
      (fun found h => s.published.heap.Drains h ∧ found = value) fun _ => False) :
    Triple (fun s' => Holds P s s.record s' ∧ s'.published.heap = s.published.heap)
      (inHeap step : Record.Action E α) (fun found s' => Holds P s s.record s' ∧ found = value) F := by
  refine Triple.of_states fun s' ⟨hs', hsame⟩ => ?_
  rw [← hsame] at hstep
  have hread := triple_inHeap (Q := fun found => found = value) hs'
    (hstep.consequence (fun _ hs => hs) (fun _ _ hs => hs) fun _ => False.elim)
  exact hread.certain (certain_inHeap (hstep.post fun _ _ _ => trivial))

/-- Asking for one key asks for equality with its columns. -/
theorem triple_keyIs_structured {source : String} {id : Value} {asked : ConditionCall}
    (hcall : IsSearch s (.keyIs .whereClause id) asked) (hsource : s.record.query.source = .text source)
    (hmarks : s.world.session.HasMarks IsStandardMark s.record.connection)
    (hstructured : asked.IsStructured s.published.heap) :
    Obeys s .whereClause source asked (asked.subjects s.published.heap)
      (· = s) (keyIs .whereClause id) := by
  unfold keyIs
  refine Triple.bindKnown (triple_key_structured hmarks) fun key hsame => ?_
  rw [hsame]
  cases hcall with
  | @keyIs_single column _ hsingle =>
      rw [hsingle]
      exact (triple_compare_structured hsource hstructured).pre fun _ hs => hs.1
  | @keyIs_compound columns _ entries hcompound hcolumns hid =>
      rw [hcompound]
      have hparts : Triple (· = s.published.heap) (keyParts columns id)
          (fun row h => s.published.heap.Drains h ∧ row = keyRow s.published.heap columns id)
          fun _ => False := by
        rintro _ rfl
        rw [perform_keyParts hid hcolumns]
        exact ⟨Heap.Drains.refl _, rfl⟩
      refine Triple.bindKnown (triple_inHeap_known hparts) ?_
      rintro _ rfl
      exact triple_compareAll_structured hsource hstructured.2.1 hstructured.2.2

/-- Asking for several keys asks for membership in the only column, or for any of the rows that the keys
have in several columns. -/
theorem triple_keyIn_structured {source : String} {ids : Value} {asked : ConditionCall}
    (hcall : IsSearch s (.keyIn ids) asked)
    (hmarks : s.world.session.HasMarks IsStandardMark s.record.connection)
    (hstructured : asked.IsStructured s.published.heap) :
    Obeys s .whereClause source asked (asked.subjects s.published.heap) (· = s) (keyIn ids) := by
  unfold keyIn
  refine Triple.bindKnown (triple_key_structured hmarks) fun key hsame => ?_
  rw [hsame]
  cases hcall with
  | @keyIn_single column _ all hsingle hids =>
      rw [hsingle]
      refine Triple.bindKnown (triple_inHeap_known (triple_items_of_ok hids)) ?_
      rintro _ rfl
      refine Triple.bindKnown (triple_inlinedFields fun _ hs' => by rw [hs'.record]) ?_
      rintro _ rfl
      exact triple_among_structured source hstructured
  | @keyIn_compound columns _ all hcompound hcolumns hids hall =>
      rw [hcompound]
      have hrows := triple_forItems_keyParts s.published.heap hcolumns hids hall
      refine Triple.bindKnown (triple_inHeap_known hrows) ?_
      rintro _ rfl
      have hnamed : ∀ row ∈ all.map (keyRow s.published.heap columns), ConditionCall.AreNamed row := by
        intro row hrow
        obtain ⟨id, -, rfl⟩ := List.mem_map.1 hrow
        exact areNamed_keyRow s.published.heap hcolumns id
      have hgroups := triple_anyOfGroups_structured (s := s) source .whereClause _ hnamed
      rw [List.map_map] at hgroups
      exact hgroups

/-- What a builder call does that comes to a structured condition. -/
theorem triple_build_structured {source : String} {call : BuilderCall} {asked : ConditionCall}
    (hcall : IsSearch s call asked) (hsource : s.record.query.source = .text source)
    (hmarks : s.world.session.HasMarks IsStandardMark s.record.connection)
    (hstructured : asked.IsStructured s.published.heap) :
    Obeys s .whereClause source asked (asked.subjects s.published.heap)
      (· = s) (build call) := by
  cases hcall with
  | condition call => exact triple_structured hsource hmarks hstructured
  | among operator column values =>
      refine Triple.bindKnown (triple_inlinedFields fun _ hs' => by rw [hs']) ?_
      rintro _ rfl
      exact triple_structured hsource hmarks hstructured
  | keyIs_single id hkey => exact triple_keyIs_structured (.keyIs_single id hkey) hsource hmarks hstructured
  | keyIs_compound hkey hcolumns hid =>
      exact triple_keyIs_structured (.keyIs_compound hkey hcolumns hid) hsource hmarks hstructured
  | keyIn_single hkey hids => exact triple_keyIn_structured (.keyIn_single hkey hids) hmarks hstructured
  | keyIn_compound hkey hcolumns hids hall =>
      exact triple_keyIn_structured (.keyIn_compound hkey hcolumns hids hall) hmarks hstructured

/-! ## Runs -/

/-- How many conditions a scope has more in its WHERE clause than another. -/
def addedSince (s s' : Scope E) : Nat := s'.record.query.wheres.length - s.record.query.wheres.length

/-- What a record was asked for, condition by condition, since it had none. A call that failed asked for
the conditions that it has added. Between the calls anything may happen that leaves the conditions as they
are, as long as the connection quotes with standard marks. -/
inductive Searched : List (Node → Prop) → Scope E → Prop
  | start {s : Scope E} (hnone : s.record.query.wheres = [])
      (hmarks : s.world.session.HasMarks IsStandardMark s.record.connection) : Searched [] s
  | call {asked : List (Node → Prop)} {s : Scope E} {source : String} {call : BuilderCall}
      {condition : ConditionCall} (hs : Searched asked s) (hcall : IsSearch s call condition)
      (hstructured : condition.IsStructured s.published.heap)
      (hsource : s.record.query.source = .text source) :
      Searched (asked ++ ((condition.subjects s.published.heap).take
          (addedSince s ((build call).perform s).2)).map
            (condition.Asks s.published.heap source s.record.query))
        ((build call).perform s).2
  | elsewhere {asked : List (Node → Prop)} {s s' : Scope E} (hs : Searched asked s)
      (hwheres : s'.record.query.wheres = s.record.query.wheres)
      (hmarks : s'.world.session.HasMarks IsStandardMark s'.record.connection) : Searched asked s'

/-- A scope that tells some nodes has one condition more for each of them. -/
theorem Tells.wheres {nodes : List Node} {s' : Scope E} (h : Tells s .whereClause nodes s') :
    ∃ added, s'.record.query.wheres = s.record.query.wheres ++ added ∧
      List.Forall₂ (fun node f => node.WrittenAs f) nodes added ∧ addedSince s s' = nodes.length := by
  obtain ⟨added, hholds, hwritten⟩ := h
  have hwheres : s'.record.query.wheres = s.record.query.wheres ++ added := by
    rw [hholds.record]
    exact Query.conditions_addConditions .whereClause added s.record.query
  refine ⟨added, hwheres, hwritten, ?_⟩
  rw [addedSince, hwheres, List.length_append, Nat.add_sub_cancel_left, hwritten.length_eq]

theorem Tells.marks {nodes : List Node} {s' : Scope E} (h : Tells s kind nodes s') :
    s'.world.session.HasMarks IsStandardMark s'.record.connection := by
  obtain ⟨added, hholds, -⟩ := h
  have hconnection : s'.record.connection = s.record.connection := by
    rw [hholds.record]
    rfl
  rw [hconnection]
  exact hholds.marks

/-- A call that comes to a structured condition adds conditions for the first of its subjects, as many as it
adds. On a connection that has a mark it adds one for each of them. -/
theorem perform_structured {source : String} {call : BuilderCall} {asked : ConditionCall}
    (hcall : IsSearch s call asked) (hsource : s.record.query.source = .text source)
    (hmarks : s.world.session.HasMarks IsStandardMark s.record.connection)
    (hstructured : asked.IsStructured s.published.heap) :
    (∃ nodes, List.Forall₂ (asked.Asks s.published.heap source s.record.query)
        ((asked.subjects s.published.heap).take (addedSince s ((build call).perform s).2)) nodes ∧
      Tells s .whereClause nodes ((build call).perform s).2) ∧
    (s.IsSettled → ((build call).perform s).1 = .ok () ∧
      addedSince s ((build call).perform s).2 = (asked.subjects s.published.heap).length) := by
  have hbuild := triple_build_structured hcall hsource hmarks hstructured s rfl
  rcases hrun : (build call).perform s with ⟨result, s'⟩
  rw [hrun] at hbuild
  cases result with
  | ok _ =>
      obtain ⟨nodes, hnodes, htells⟩ := hbuild
      obtain ⟨-, -, -, hadded⟩ := htells.wheres
      rw [← hnodes.length_eq] at hadded
      refine ⟨⟨nodes, ?_, htells⟩, fun _ => ⟨rfl, hadded⟩⟩
      rw [hadded, List.take_length]
      exact hnodes
  | error failure =>
      obtain ⟨hsettled, done, hdone, nodes, hnodes, htells⟩ := hbuild
      obtain ⟨-, -, -, hadded⟩ := htells.wheres
      rw [← hnodes.length_eq] at hadded
      refine ⟨⟨nodes, ?_, htells⟩, fun h => absurd h hsettled⟩
      rw [hadded, ← List.prefix_iff_eq_take.1 hdone]
      exact hnodes

/-- The conditions of a record were written for what it was asked for. -/
theorem Searched.tells {asked : List (Node → Prop)} (hs : Searched asked s) :
    (∃ nodes, List.Forall₂ (fun asks node => asks node) asked nodes ∧ (∀ node ∈ nodes, node.IsPlain) ∧
      List.Forall₂ (fun node f => node.WrittenAs f) nodes s.record.query.wheres) ∧
    s.world.session.HasMarks IsStandardMark s.record.connection := by
  induction hs with
  | start hnone hmarks => exact ⟨⟨[], .nil, by simp, by rw [hnone]; exact .nil⟩, hmarks⟩
  | @call asked s source call condition hs hcall hstructured hsource ih =>
      obtain ⟨⟨nodes, hasked, hplain, hwritten⟩, hmarks⟩ := ih
      obtain ⟨⟨more, hmore, htells⟩, -⟩ := perform_structured hcall hsource hmarks hstructured
      obtain ⟨added, hwheres, hadded, -⟩ := htells.wheres
      refine ⟨⟨nodes ++ more, List.rel_append hasked (List.forall₂_map_left_iff.2 hmore), ?_, ?_⟩,
        htells.marks⟩
      · intro node hnode
        rcases List.mem_append.1 hnode with hold | hnew
        · exact hplain node hold
        · exact ConditionCall.forall_of_forall₂ ((List.forall₂_and_left _ more).2 ⟨fun e he =>
            List.mem_of_mem_take he, hmore⟩) (fun e node h => h.2.isPlain h.1 hstructured) node hnew
      · rw [hwheres]
        exact List.rel_append hwritten hadded
  | elsewhere _ hwheres hmarks ih => exact ⟨by rw [hwheres]; exact ih.1, hmarks⟩

/-- **The WHERE clause of a record means the conjunction of what it was asked for,** in the order of the
calls, and its slots take its parameters in order. A call on a connection that has a mark adds all that it
asks for. -/
theorem where_means_conjunction {asked : List (Node → Prop)} (hs : Searched asked s) :
    (asked ≠ [] → ∃ nodes text,
      List.Forall₂ (fun asks node => asks node) asked nodes ∧
      s.record.query.conditionClause .whereClause = .ok ("WHERE " ++ text) ∧
      Search.read (Search.lexemes text (Query.boundValues s.record.query.wheres)) =
        .connected .and (nodes.map Node.tree) ∧
      (Search.Tree.connected .and (nodes.map Node.tree)).values =
        Query.boundValues s.record.query.wheres) ∧
    ∀ call condition source, IsSearch s call condition → condition.IsStructured s.published.heap →
      s.record.query.source = .text source → s.IsSettled →
      ((build call).perform s).1 = .ok () ∧
        addedSince s ((build call).perform s).2 = (condition.subjects s.published.heap).length := by
  obtain ⟨⟨nodes, hasked, hplain, hwritten⟩, hmarks⟩ := hs.tells
  refine ⟨fun hne => ?_, fun call condition source hcall hstructured hsource => ?_⟩
  · have hnodes : nodes ≠ [] := by
      rintro rfl
      exact hne (List.forall₂_nil_right_iff.1 hasked)
    obtain ⟨text, htext, hread, hvalues⟩ :=
      Search.read_conditionClause .whereClause hnodes hplain hwritten
    exact ⟨nodes, text, hasked, htext, hread, hvalues⟩
  · exact (perform_structured hcall hsource hmarks hstructured).2

/-- Either of two groups. The name of one column looks like a condition itself. -/
def eitherGroup : ConditionCall :=
  .anyOf (.list [.map [(.text "a) OR (b", .int 1), (.text "c", .int 2)], .map [(.text "d", .int 3)]])
    (.map [(.text "c", .text ">")])

theorem where_means_conjunction_eitherGroup :
    ∃ text,
      ((build (.condition .whereClause eitherGroup)).perform onQuietDesk).2.record.query.conditionClause
        .whereClause = .ok ("WHERE " ++ text) ∧
      Search.read (Search.lexemes text [.int 1, .int 2, .int 3]) =
        .any [.all [Entry.tree ⟨"a) OR (b", "=", .int 1⟩, Entry.tree ⟨"c", ">", .int 2⟩],
          Entry.tree ⟨"d", "=", .int 3⟩] := by
  have hbacktick : IsStandardMark "\x60" := ⟨_, List.mem_cons_self, rfl⟩
  have hmarks : onQuietDesk.world.session.HasMarks IsStandardMark "default" :=
    .inl ⟨"\x60", rfl, by decide, hbacktick⟩
  have hequals : IsPlainOperator "=" := Search.isPlainOperator_named "=" (by simp)
  have hgreater : IsPlainOperator ">" := Search.isPlainOperator_named ">" (by simp)
  have hstructured : eitherGroup.IsStructured {} := by
    refine ⟨?_, _, rfl, by simp, ?_⟩
    · intro v hv
      have hcases : v = .text "=" ∨ v = .text ">" := by
        simpa [ConditionCall.groupOperators, Heap.content, Entries.values] using hv
      rcases hcases with rfl | rfl
      · exact ⟨_, rfl, hequals⟩
      · exact ⟨_, rfl, hgreater⟩
    · intro group hgroup
      have hcases : group = .map [(.text "a) OR (b", .int 1), (.text "c", .int 2)] ∨
          group = .map [(.text "d", .int 3)] := by simpa using hgroup
      rcases hcases with rfl | rfl
      · refine ⟨_, rfl, by simp, fun e he => ?_⟩
        have hcases : e = (.text "a) OR (b", .int 1) ∨ e = (.text "c", .int 2) := by simpa using he
        rcases hcases with rfl | rfl <;> exact ⟨_, rfl⟩
      · exact ⟨_, rfl, by simp, fun e he => ⟨"d", by rw [List.mem_singleton.1 he]⟩⟩
  have hstart : Searched [] onQuietDesk := .start rfl hmarks
  have hone := Searched.call hstart (.condition eitherGroup) hstructured rfl
  rw [((where_means_conjunction hstart).2 _ _ "orders" (.condition _) hstructured rfl
    ⟨"\x60", rfl, by decide⟩).2] at hone
  obtain ⟨nodes, text, hnodes, htext, hread, hvalues⟩ :=
    (where_means_conjunction hone).1 (List.cons_ne_nil _ _)
  obtain ⟨node, _, ⟨all, written, hall, hgroups, rfl⟩, ⟨⟩, rfl⟩ := List.forall₂_cons_left_iff.1 hnodes
  cases hall
  obtain _ | ⟨⟨_, hfirst, hentries⟩, _ | ⟨⟨_, hsecond, hmore⟩, ⟨⟩⟩⟩ := hgroups
  cases hfirst
  cases hsecond
  obtain _ | ⟨⟨_, ⟨⟩, rfl⟩, _ | ⟨⟨_, ⟨⟩, rfl⟩, ⟨⟩⟩⟩ := hentries
  obtain _ | ⟨⟨_, ⟨⟩, rfl⟩, ⟨⟩⟩ := hmore
  exact ⟨text, htext, hread⟩

end Record

end FluentSql
