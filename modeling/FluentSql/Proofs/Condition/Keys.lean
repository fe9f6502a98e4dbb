import FluentSql.Proofs.Condition.Alternatives
import FluentSql.Proofs.Condition.Calls
import FluentSql.Proofs.Connection.Naming
import FluentSql.Proofs.Record.Addressing
/-
# FluentSql.Proofs.Condition.Keys — any of several keys, and each of them.

Asking for one key adds a comparison for each key column. Asking for any of several keys adds one condition, which
offers alternatives: a list of candidates for the key column, or a group of comparisons for each key. The alternatives
are the comparisons that asking for each of the keys adds to the same record, with the same values in the same order,
except that no column is ever given the name of its table. So the two ways to ask agree exactly if the query has no
joins, or the key columns name their tables themselves (`keyIn_offers_keys_iff`).
-/

namespace FluentSql.Record

open Step (Keeps Triple)
open Scope (Holds)

variable {E : Environment} {α : Type} {s s' : Scope E} {mark source : String} {added : List Fragment}

/-! ## The mark -/

/-- A mark is found for a connection in the world of the scope: it is configured, or comes with the driver, which is
opened for it if need be. -/
def Scope.FindsMark (connection mark : String) (s : Scope E) : Prop :=
  ((Connection.quoteMark connection : FluentSql.Action E String).perform s.world).1 = .ok mark

/-- The mark does not depend on the record and the heap. -/
theorem Scope.FindsMark.of_world {connection : String} (h : s.FindsMark connection mark)
    (hsession : s'.world.session = s.world.session) (houtside : s'.world.outside = s.world.outside) :
    s'.FindsMark connection mark :=
  (Connection.quoteMark_besideHeap hsession houtside).trans h

theorem keeps_inHeap_findsMark {connection : String} (step : Step Heap α) :
    Keeps (Scope.FindsMark connection mark) (inHeap step : Record.Action E α) := by
  refine Triple.of_states fun s hs => ?_
  have hworld : Keeps (fun w : World E.State => w.session = s.world.session ∧ w.outside = s.world.outside)
      (Session.inHeap step) := Session.keeps_inHeap_any (fun _ hw => hw) step
  have hback : ∀ w : World E.State, w.session = s.world.session ∧ w.outside = s.world.outside →
      (s.renewed w).FindsMark connection mark := fun w hw =>
    hs.of_world (by rw [Scope.world_renewed, hw.1]) (by rw [Scope.world_renewed, hw.2])
  exact Triple.onPart s hworld ⟨s.session_published, s.outside_published⟩ (fun _ => hback) hback

/-- A name is quoted with the mark that is found, and the mark is found again. -/
theorem perform_quote_found {connection : String} {w : World E.State} (name : String)
    (hmark : ((Connection.quoteMark connection : FluentSql.Action E String).perform w).1 = .ok mark) :
    ∃ w', (Connection.quote connection (.text name) : FluentSql.Action E String).perform w =
        (.ok (Identifier.quoteName mark name), w') ∧
      ((Connection.quoteMark connection : FluentSql.Action E String).perform w').1 = .ok mark := by
  rcases hrun : (Connection.quoteMark connection : FluentSql.Action E String).perform w with ⟨result, w'⟩
  rw [hrun] at hmark
  obtain rfl : result = .ok mark := hmark
  refine ⟨w', ?_, Connection.triple_quoteMark_again.of_ok trivial hrun⟩
  rw [Connection.quote, Step.perform_bind_ok hrun]
  rfl

/-- The scope holds the record of another one with more conditions, and the mark of its connection is found. -/
structure Scope.IsReady (mark : String) (s : Scope E) (added : List Fragment) (s' : Scope E) : Prop where
  holds : Holds (fun _ => True) s (s.record.withConditions .whereClause added) s'
  mark : s'.FindsMark s.record.connection mark

theorem triple_addCondition_ready (fragment : Fragment) :
    Triple (s.IsReady mark added) (addCondition .whereClause fragment)
      (fun _ => s.IsReady mark (added ++ [fragment])) fun _ => False := by
  have hadd := @triple_addCondition E (.withMarks fun _ => True) s s.record .whereClause added fragment
  exact fun s' hs' => ⟨hadd s' hs'.holds, hs'.mark⟩

/-- A step that does not fail, and leaves the record and the mark. -/
theorem triple_ready_of {I F F' : Scope E → Prop} {step : Record.Action E α} {Q : α → Prop}
    (hholds : Triple I step
      (fun a t => Holds (fun _ => True) s (s.record.withConditions .whereClause added) t ∧ Q a) F)
    (hmark : Triple I step (fun _ => Scope.FindsMark s.record.connection mark) F')
    (hcertain : Triple I step (fun _ _ => True) fun _ => False) :
    Triple I step (fun a t => s.IsReady mark added t ∧ Q a) fun _ => False :=
  ((hholds.and hmark).certain hcertain).post fun _ _ ht => ⟨⟨ht.1.1, ht.2⟩, ht.1.2⟩

/-- Going through values leaves the record and finds the same mark. -/
theorem triple_inHeap_ready (hs' : s.IsReady mark added s') {step : Step Heap α} {Q : α → Prop}
    (hstep : Triple (· = s'.published.heap) step (fun a h => s'.published.heap.Drains h ∧ Q a) fun _ => False) :
    Triple (· = s') (inHeap step : Record.Action E α) (fun a t => s.IsReady mark added t ∧ Q a) fun _ => False :=
  triple_ready_of
    (triple_inHeap hs'.holds (hstep.consequence (fun _ ht => ht) (fun _ _ ht => ht) fun _ => False.elim))
    ((keeps_inHeap_findsMark step).pre fun _ ht => ht ▸ hs'.mark) (certain_inHeap (hstep.post fun _ _ _ => trivial))

/-- What a step gives in every heap that is like that of the record. -/
theorem triple_inLikeHeap_ready {step : Step Heap α} {Q : α → Prop}
    (h : ∀ h', s.published.heap.IsLike h' →
      Triple (· = h') step (fun a h'' => h'.Drains h'' ∧ Q a) fun _ => False) :
    Triple (s.IsReady mark added) (inHeap step : Record.Action E α) (fun a s' => s.IsReady mark added s' ∧ Q a)
      fun _ => False :=
  Triple.of_states fun _ hs' => triple_inHeap_ready hs' (h _ hs'.holds.heap)

/-- Every name is quoted with the mark that is found. -/
theorem triple_quote_ready (name : String) :
    Triple (s.IsReady mark added) (quote (.text name) : Record.Action E String)
      (fun quoted s' => s.IsReady mark added s' ∧ quoted = Identifier.quoteName mark name) fun _ => False := by
  intro s' hs'
  have hholds := triple_quote_text (E := E) name s' hs'.holds
  have hfound : ((Connection.quoteMark s.record.connection : FluentSql.Action E String).perform s'.published).1 =
      .ok mark :=
    (Connection.quoteMark_besideHeap s'.session_published s'.outside_published).trans hs'.mark
  obtain ⟨w, hrun, hagain⟩ := perform_quote_found name hfound
  have hconnection : s'.record.connection = s.record.connection := by rw [hs'.holds.record]; rfl
  have hquote : (quote (.text name) : Record.Action E String).perform s' =
      (.ok (Identifier.quoteName mark name), s'.renewed w) := by
    rw [quote, perform_bindCurrent, hconnection, perform_inWorld hrun]
  rw [hquote] at hholds ⊢
  refine ⟨⟨hholds.1, ?_⟩, rfl⟩
  rw [Scope.FindsMark, Scope.world_renewed]
  exact hagain

/-! ## Comparisons -/

theorem keeps_qualified_findsMark {connection : String} (column : Value) :
    Keeps (Scope.FindsMark connection mark) (qualified column : Record.Action E Value) := by
  refine triple_bindCurrent fun s' hs' => ?_
  refine Triple.pre ?_ fun t (ht : t = s') => ht ▸ hs'
  extract_lets q
  split
  · exact Keeps.pure _
  · refine Keeps.bind (keeps_inHeap_findsMark _) fun found => ?_
    split
    · exact Keeps.pure _
    · exact fun t ht => ht

/-- A column is named as comparisons name it. -/
theorem triple_qualified_ready (hsource : s.record.query.source = .text source) (name : String) :
    Triple (s.IsReady mark added) (qualified (.text name))
      (fun v s' => s.IsReady mark added s' ∧ v = .text (s.record.query.comparedName source name)) fun _ => False := by
  obtain ⟨hjoins, hsame⟩ := Query.joins_source_addConditions .whereClause added s.record.query
  have hname : Query.comparedName source (s.record.withConditions .whereClause added).query name =
      s.record.query.comparedName source name := by
    simp only [Query.comparedName, withConditions, hjoins]
  have hqualified := @triple_qualified E (.withMarks fun _ => True) s (s.record.withConditions .whereClause added) _
    (hsame.trans hsource) name
  rw [hname] at hqualified
  exact triple_ready_of (hqualified.pre fun _ hs => hs.holds)
    ((keeps_qualified_findsMark _).pre fun _ hs => hs.mark) (certain_qualified name |>.pre fun _ hs => hs.holds)

/-- The comparisons of entries whose columns get names and are quoted. -/
def comparisonsOf (mark : String) (naming : String → String) (entries : Row) : List Comparison :=
  entries.map fun e => ⟨Identifier.quoteName mark (naming e.1.display), "=", e.2⟩

theorem triple_compareAll_ready (hsource : s.record.query.source = .text source) {entries : Row}
    (hnames : ConditionCall.AreNamed entries) (hvalues : ∀ e ∈ entries, ¬ s.published.heap.IsSequence e.2) :
    Triple (s.IsReady mark []) (compareAll .whereClause "=" entries)
      (fun _ => s.IsReady mark ((comparisonsOf mark (s.record.query.comparedName source) entries).map
        Comparison.condition)) fun _ => False := by
  refine (Triple.forM (fun done => s.IsReady mark ((comparisonsOf mark (s.record.query.comparedName source) done).map
    Comparison.condition)) fun done e rest hsplit => ?_).pre fun _ hs => hs
  have he : e ∈ entries := by simp [hsplit]
  obtain ⟨name, hname⟩ := hnames e he
  have hvalue := hvalues e he
  obtain ⟨column, value⟩ := e
  obtain rfl : column = .text name := hname
  refine Triple.bindKnown (triple_qualified_ready hsource name) ?_
  rintro _ rfl
  refine Triple.bindKnown (triple_quote_ready _) ?_
  rintro _ rfl
  refine triple_bindHeap fun s' hs' => ?_
  have hitems : s'.published.heap.asItems value = [value] := by
    rw [hs'.holds.heap.asItems]
    exact Heap.asItems_of_not_isSequence hvalue
  rw [hitems, comparisonsOf, List.map_append, List.map_append]
  exact (triple_addCondition_ready _).pre fun t ht => ht ▸ hs'

/-! ## Groups -/

theorem triple_groupComparison_ready {e : Value × Value} (hname : ∃ name, e.1 = .text name) :
    Triple (s.IsReady mark []) (groupComparison (.text "=") e)
      (fun c s' => s.IsReady mark [] s' ∧ c = ⟨Identifier.quoteName mark e.1.display, "=", e.2⟩) fun _ => False := by
  obtain ⟨column, value⟩ := e
  obtain ⟨name, rfl⟩ := hname
  refine Triple.bindKnown (I := s.IsReady mark []) (R := fun word => word = "=") (fun s' hs' => ⟨hs', rfl⟩) ?_
  rintro _ rfl
  refine Triple.bindKnown (triple_quote_ready name) ?_
  rintro _ rfl
  exact Triple.pure fun _ hs => ⟨hs, rfl⟩

/-- Any of several groups of comparisons is added as one condition. -/
theorem triple_anyOfGroups_ready {rows : List Row} (hnames : ∀ row ∈ rows, ConditionCall.AreNamed row) :
    Triple (s.IsReady mark []) (anyOfGroups .whereClause rows)
      (fun _ => s.IsReady mark [.anyOf (rows.map (comparisonsOf mark fun name => name))]) fun _ => False := by
  have hgroup : ∀ row ∈ rows, Triple (s.IsReady mark []) (row.mapM (groupComparison (.text "=")))
      (fun group s' => s.IsReady mark [] s' ∧ group = comparisonsOf mark (fun name => name) row) fun _ => False := by
    intro row hrow
    exact Triple.mapM_known fun e he => triple_groupComparison_ready (hnames row hrow e he)
  refine Triple.bindKnown (Triple.mapM_known hgroup) ?_
  rintro _ rfl
  exact triple_addCondition_ready _

/-! ## Membership -/

/-- Candidates that stand under no name are all bound. -/
theorem perform_bound {names : List Value} (hnames : ∀ v ∈ names, ∃ name, v = .text name) (all : List Value)
    (h : Heap) :
    (do placeholders (.list names) (← candidates (.list all)) : Step Heap Placeholders).perform h =
      (.ok (.ofTerms (all.map .bound)), h) := by
  rw [Step.perform_bind_ok (perform_candidates_of_isSequenceOf (.inl rfl)),
    perform_placeholders hnames (fun e he => ?_), boundAll]
  · simp [List.mapIdx_eq_zipIdx_map, Function.comp_def]
  · obtain ⟨k, hk, rfl⟩ := List.mem_mapIdx.1 he
    exact ⟨_, rfl⟩

/-- One column is among several values, all of them bound. -/
theorem triple_among_ready (name : String) {all : List Value}
    (hinlined : ∀ v ∈ s.record.changes.inlined, ∃ field, v = .text field) :
    Triple (s.IsReady mark [])
      (condition .whereClause (.among "IN" (.text name) (.list all) (.list s.record.changes.inlined)))
      (fun _ => s.IsReady mark [.membership (Identifier.quoteName mark name) "IN" (.ofTerms (all.map .bound))])
      fun _ => False := by
  have hadd : Triple (s.IsReady mark [])
      (amongAll .whereClause "IN" (.list s.record.changes.inlined) [(.text name, .list all)])
      (fun _ => s.IsReady mark [.membership (Identifier.quoteName mark name) "IN" (.ofTerms (all.map .bound))])
      fun _ => False := by
    refine Triple.bind (Triple.bindKnown (R := fun written => written = .ofTerms (all.map .bound))
      (triple_inLikeHeap_ready fun h _ => ?_) ?_) fun _ => Triple.pure fun _ hs => hs
    · rintro _ rfl
      rw [perform_bound hinlined]
      exact ⟨Heap.Drains.refl _, rfl⟩
    · rintro _ rfl
      refine Triple.bindKnown (triple_quote_ready name) ?_
      rintro _ rfl
      exact triple_addCondition_ready _
  have hkey : Triple (s.IsReady mark []) (inHeap (Heap.requireKey (.text name)) : Record.Action E Unit)
      (fun _ s' => s.IsReady mark [] s' ∧ True) fun _ => False :=
    triple_inLikeHeap_ready fun h _ => by
      rintro _ rfl
      exact ⟨Heap.Drains.refl _, trivial⟩
  refine triple_bindHeap fun s' hs' => ?_
  refine Triple.pre ?_ fun t (ht : t = s') => ht ▸ hs'
  refine Triple.bindKnown hkey fun _ _ => ?_
  refine Triple.bindKnown (I := s.IsReady mark []) (R := fun columns => columns = [(.text name, .list all)])
    (fun _ hs => ⟨hs, rfl⟩) ?_
  rintro _ rfl
  exact hadd

/-! ## Keys -/

/-- The key columns with the values that an id has for them: itself for the only column, or those that a mapping has
for several columns, which are null where it has none. -/
def Scope.keyEntries (s : Scope E) (id : Value) : Row :=
  match s.key with
  | .single column => [(column, id)]
  | .compound columns => keyRow s.published.heap columns id

/-- The id of a row: a single value for the only key column, or a mapping to single values. -/
def Scope.IsId (s : Scope E) (id : Value) : Prop :=
  match s.key with
  | .single _ => ¬ s.published.heap.IsSequence id
  | .compound _ => ∃ entries, s.published.heap.content id = .map entries ∧
    ∀ e ∈ entries, ¬ s.published.heap.IsSequence e.2

/-- The key columns are texts. -/
def Scope.HasNamedKey (s : Scope E) : Prop := ∀ column ∈ s.key.columns, ∃ name, column = .text name

section

variable {column id ids : Value} {columns all : List Value}

theorem Scope.keyEntries_single (hkey : s.key = .single column) : s.keyEntries id = [(column, id)] := by
  rw [keyEntries, hkey]

theorem Scope.keyEntries_compound (hkey : s.key = .compound columns) :
    s.keyEntries id = keyRow s.published.heap columns id := by
  rw [keyEntries, hkey]

theorem Scope.IsId.single (hid : s.IsId id) (hkey : s.key = .single column) :
    ¬ s.published.heap.IsSequence id := by
  rwa [IsId, hkey] at hid

theorem Scope.IsId.compound (hid : s.IsId id) (hkey : s.key = .compound columns) :
    ∃ entries, s.published.heap.content id = .map entries ∧ ∀ e ∈ entries, ¬ s.published.heap.IsSequence e.2 := by
  rwa [IsId, hkey] at hid

theorem Scope.HasNamedKey.single (hnamed : s.HasNamedKey) (hkey : s.key = .single column) :
    ∃ name, column = .text name :=
  hnamed column (by rw [hkey]; exact List.mem_cons_self)

theorem Scope.HasNamedKey.compound (hnamed : s.HasNamedKey) (hkey : s.key = .compound columns) :
    ∀ column ∈ columns, ∃ name, column = .text name := by
  rwa [HasNamedKey, hkey] at hnamed

/-- The values of a key are single values under key columns. -/
theorem Scope.keyEntries_spec (hid : s.IsId id) :
    ∀ e ∈ s.keyEntries id, e.1 ∈ s.key.columns ∧ ¬ s.published.heap.IsSequence e.2 := by
  cases hkey : s.key with
  | single column =>
      rw [keyEntries_single hkey]
      intro e he
      rw [List.mem_singleton.1 he]
      exact ⟨List.mem_cons_self, hid.single hkey⟩
  | compound columns =>
      obtain ⟨entries, hcontent, hsingle⟩ := hid.compound hkey
      have hentries : s.published.heap.entries? id = some entries := by rw [Heap.entries?, hcontent]
      rw [keyEntries_compound hkey, keyRow, hentries, Option.getD_some]
      refine Entries.forall_mem_ofPairs (K := fun column => column ∈ (KeyColumns.compound columns).columns)
        (V := fun value => ¬ s.published.heap.IsSequence value) fun e he => ?_
      obtain ⟨column, hcolumn, rfl⟩ := List.mem_map.1 he
      refine ⟨hcolumn, ?_⟩
      cases hget : Entries.get? column entries with
      | none => rintro (⟨items, hitems⟩ | ⟨items, hitems⟩) <;> cases hitems
      | some v =>
          obtain ⟨e, he, rfl⟩ := List.mem_map.1 (Entries.mem_values_of_get? hget)
          exact hsingle e he

theorem keeps_key_findsMark {connection : String} :
    Keeps (Scope.FindsMark connection mark) (key : Record.Action E KeyColumns) := by
  refine triple_bindCurrent fun s' hs' => ?_
  split
  · exact Triple.pure fun _ ht => ht ▸ hs'
  · rintro t rfl
    have hworld : (t.renewed t.published).world = t.published := Scope.world_renewed _ _
    exact hs'.of_world ((congrArg World.session hworld).trans t.session_published)
      ((congrArg World.outside hworld).trans t.outside_published)

/-- The key is found, and nothing changes but that the record was looked up. -/
theorem triple_key_ready (hmark : s.FindsMark s.record.connection mark) :
    Triple (· = s) (key : Record.Action E KeyColumns)
      (fun key s' => (s.IsReady mark [] s' ∧ s'.published.heap = s.published.heap) ∧ key = s.key) fun _ => False := by
  have hkey : Triple (· = s) (key : Record.Action E KeyColumns) (fun key s' =>
      (Holds (fun _ => True) s s.record s' ∧ s'.published.heap = s.published.heap) ∧ key = s.key) fun _ => False :=
    triple_key_structured (hasMarks_true _ _)
  have hstill : Triple (· = s) (key : Record.Action E KeyColumns)
      (fun _ => Scope.FindsMark s.record.connection mark) (Scope.FindsMark s.record.connection mark) :=
    keeps_key_findsMark.pre fun _ ht => ht ▸ hmark
  refine (hkey.and hstill).consequence (fun _ ht => ht) ?_ fun _ ht => ht.1
  rintro found s' ⟨⟨⟨hholds, hheap⟩, hfound⟩, hagain⟩
  exact ⟨⟨⟨hholds, hagain⟩, hheap⟩, hfound⟩

/-- Asking for one key adds a comparison for each key column. -/
theorem triple_keyIs_ready (hsource : s.record.query.source = .text source)
    (hmark : s.FindsMark s.record.connection mark) (hnamed : s.HasNamedKey) (hid : s.IsId id) :
    Triple (· = s) (keyIs .whereClause id)
      (fun _ => s.IsReady mark ((comparisonsOf mark (s.record.query.comparedName source) (s.keyEntries id)).map
        Comparison.condition)) fun _ => False := by
  have hspec := s.keyEntries_spec hid
  have hcompare := @triple_compareAll_ready E s mark source hsource _ (fun e he => hnamed e.1 (hspec e he).1)
    fun e he => (hspec e he).2
  unfold keyIs
  refine Triple.bindKnown (triple_key_ready hmark) ?_
  rintro _ rfl
  cases hkey : s.key with
  | single column =>
      rw [Scope.keyEntries_single hkey] at hcompare ⊢
      obtain ⟨name, rfl⟩ := hnamed.single hkey
      refine Triple.bindKnown (I := s.IsReady mark []) (R := fun columns => columns = [(.text name, id)])
        (fun _ ht => ⟨ht.1, rfl⟩) ?_
      rintro _ rfl
      exact hcompare
  | compound columns =>
      rw [Scope.keyEntries_compound hkey] at hcompare ⊢
      obtain ⟨entries, hcontent, -⟩ := hid.compound hkey
      refine Triple.bindKnown (R := fun row => row = keyRow s.published.heap columns id)
        ((triple_inLikeHeap_ready fun h hl => ?_).pre fun _ ht => ht.1) ?_
      · rintro _ rfl
        rw [perform_keyParts ((hl.content_eq (by simp [hcontent])).trans hcontent) (hnamed.compound hkey)]
        exact ⟨Heap.Drains.refl _, keyRow_eq hl columns id⟩
      · rintro _ rfl
        exact hcompare

/-- Asking for any of several keys adds one condition. It offers a comparison for each key column of each key, and
names the columns as they are. -/
theorem triple_keyIn_ready (hmark : s.FindsMark s.record.connection mark) (hnamed : s.HasNamedKey)
    (hinlined : ∀ v ∈ s.record.changes.inlined, ∃ field, v = .text field)
    (hids : s.published.heap.items? ids = .ok all) (hall : ∀ id ∈ all, s.IsId id) :
    Triple (· = s) (keyIn ids)
      (fun _ s' => ∃ condition : Fragment,
        condition.Offers (all.map fun id => comparisonsOf mark (fun name => name) (s.keyEntries id)) ∧
        s.IsReady mark [condition] s') fun _ => False := by
  unfold keyIn
  refine Triple.bindKnown (triple_key_ready hmark) ?_
  rintro _ rfl
  cases hkey : s.key with
  | single column =>
      obtain ⟨name, rfl⟩ := hnamed.single hkey
      refine Triple.bindKnown (R := fun taken => taken = all) (Triple.of_states fun s' hs' =>
        triple_inHeap_ready hs'.1 ?_) ?_
      · rw [hs'.2]
        exact triple_items_of_ok hids
      · rintro _ rfl
        refine Triple.bindKnown (triple_inlinedFields fun _ hs' => by rw [hs'.holds.record]) ?_
        rintro _ rfl
        refine (triple_among_ready name hinlined).post fun _ s' hs' => ⟨_, ?_, hs'⟩
        simp only [Scope.keyEntries_single hkey]
        exact .among _ _
  | compound columns =>
      refine Triple.bindKnown (R := fun rows => rows = all.map (keyRow s.published.heap columns))
        (Triple.of_states fun s' hs' => triple_inHeap_ready hs'.1 ?_) ?_
      · rw [hs'.2]
        refine triple_forItems_keyParts _ (hnamed.compound hkey) hids fun id hid => ?_
        obtain ⟨entries, hcontent, -⟩ := (hall id hid).compound hkey
        exact ⟨entries, hcontent⟩
      · rintro _ rfl
        refine (triple_anyOfGroups_ready fun row hrow e he => ?_).post fun _ s' hs' => ⟨_, ?_, hs'⟩
        · obtain ⟨id, hid, rfl⟩ := List.mem_map.1 hrow
          rw [← Scope.keyEntries_compound hkey] at he
          exact hnamed e.1 (s.keyEntries_spec (hall id hid) e he).1
        · simp only [Scope.keyEntries_compound hkey]
          rw [List.map_map]
          exact .anyOf _

/-! ## Agreement -/

/-- A builder call returns, and has added some conditions to the WHERE clause and changed nothing else of the record. -/
def Scope.AddsExactly (s : Scope E) (call : BuilderCall) (added : List Fragment) : Prop :=
  ((build call).perform s).1 = .ok () ∧ ((build call).perform s).2.record = s.record.withConditions .whereClause added

theorem Scope.addsExactly_of_triple (call : BuilderCall) {I : List Fragment → Prop}
    (h : Triple (· = s) (build call) (fun _ s' => ∃ added, I added ∧ s.IsReady mark added s') fun _ => False) :
    ∃ added, I added ∧ s.AddsExactly call added := by
  have hcall := h s rfl
  unfold AddsExactly
  rcases hrun : (build call).perform s with ⟨result, s'⟩
  rw [hrun] at hcall
  cases result with
  | error failure => exact hcall.elim
  | ok _ =>
      obtain ⟨added, hadded, hready⟩ := hcall
      exact ⟨added, hadded, rfl, hready.holds.record⟩

/-- There is an entry for each key column. -/
theorem Scope.exists_mem_keyEntries (id : Value) (hnamed : s.HasNamedKey) {name : String}
    (hname : .text name ∈ s.key.columns) :
    ∃ e ∈ s.keyEntries id, e.1 = .text name := by
  cases hkey : s.key with
  | single column =>
      rw [hkey] at hname
      rw [keyEntries_single hkey]
      exact ⟨_, List.mem_cons_self, (List.mem_singleton.1 hname).symm⟩
  | compound columns =>
      rw [hkey] at hname
      obtain ⟨c, hc, hsame⟩ := KeyColumns.exists_mem_distinct hname
      obtain ⟨other, rfl⟩ := hnamed.compound hkey c (KeyColumns.mem_distinct hc)
      rw [Value.text_beq_text, beq_iff_eq] at hsame
      subst hsame
      rw [keyEntries_compound hkey, keyRow, KeyColumns.ofPairs_eq_map_distinct fun c d h => by
        rw [Entries.get?_congr h]]
      exact ⟨_, List.mem_map_of_mem hc, rfl⟩

/-- A column with the name of its table in front is written longer. -/
theorem length_quoteName_lt (mark source name : String) :
    (Identifier.quoteName mark name).length < (Identifier.quoteName mark (source ++ "." ++ name)).length := by
  rw [Identifier.quoteName_append_point, String.length_append, String.length_append]
  have hpoint : (".").length = 1 := rfl
  omega

/-- Columns are written as they are, or longer, where comparisons name them. -/
theorem isBareOf_comparisonsOf (q : Query) (source mark : String) (entries : Row) :
    List.Forall₂ Comparison.IsBareOf (comparisonsOf mark (fun name => name) entries)
      (comparisonsOf mark (q.comparedName source) entries) := by
  rw [comparisonsOf, comparisonsOf, List.forall₂_map_left_iff, List.forall₂_map_right_iff, List.forall₂_same]
  intro e _
  unfold Query.comparedName
  split
  · exact .inl rfl
  · exact .inr ⟨length_quoteName_lt _ _ _, rfl⟩

/-- The columns are named alike in all comparisons exactly if no column needs the name of its table. -/
theorem keyEntries_named_alike_iff (mark source : String) (hnamed : s.HasNamedKey) (hne : all ≠ [])
    (hall : ∀ id ∈ all, s.IsId id) :
    (all.map fun id => comparisonsOf mark (fun name => name) (s.keyEntries id)) =
        (all.map fun id => comparisonsOf mark (s.record.query.comparedName source) (s.keyEntries id)) ↔
      s.record.query.joins = [] ∨
        ∀ name, .text name ∈ s.key.columns → Text.occursIn ['.'] name.toList = true := by
  constructor
  · intro hsame
    by_contra hneeds
    rw [not_or] at hneeds
    obtain ⟨hjoins, hnames⟩ := hneeds
    push Not at hnames
    obtain ⟨name, hname, hbare⟩ := hnames
    obtain ⟨id, rest, rfl⟩ := List.exists_cons_of_ne_nil hne
    obtain ⟨e, he, hcolumn⟩ := Scope.exists_mem_keyEntries id hnamed hname
    have hfirst := List.map_inj_left.1 (List.cons.inj hsame).1 e he
    rw [hcolumn] at hfirst
    have hcompared : s.record.query.comparedName source name = source ++ "." ++ name := by
      rw [Query.comparedName, if_neg (by simpa [hjoins] using hbare)]
    have hlength := length_quoteName_lt mark source name
    rw [← hcompared] at hlength
    have hwritten : Identifier.quoteName mark name =
        Identifier.quoteName mark (s.record.query.comparedName source name) := congrArg Comparison.column hfirst
    exact Nat.ne_of_lt hlength (congrArg String.length hwritten)
  · intro hplain
    refine List.map_congr_left fun id hid => List.map_congr_left fun e he => ?_
    have hcolumn := (s.keyEntries_spec (hall id hid) e he).1
    obtain ⟨name, hname⟩ := hnamed e.1 hcolumn
    have hcompared : s.record.query.comparedName source name = name := by
      rw [Query.comparedName, if_pos]
      rw [Bool.or_eq_true, List.isEmpty_iff]
      exact hplain.imp_right fun h => h name (hname ▸ hcolumn)
    rw [hname, Value.display, hcompared]

/-- **Asking for any of several keys comes to asking for each of them, exactly if no column needs the name of its
table.** Asking for one key adds a comparison for each key column. Asking for several keys adds one condition, which
offers these comparisons for each of the keys, in order and with the same values, but with columns that are never named
after their table. -/
theorem keyIn_offers_keys_iff (hsource : s.record.query.source = .text source)
    (hmark : s.FindsMark s.record.connection mark) (hnamed : s.HasNamedKey)
    (hinlined : ∀ v ∈ s.record.changes.inlined, ∃ field, v = .text field)
    (hids : s.published.heap.items? ids = .ok all) (hne : all ≠ []) (hall : ∀ id ∈ all, s.IsId id) :
    (∀ id ∈ all, s.AddsExactly (.keyIs .whereClause id)
      ((comparisonsOf mark (s.record.query.comparedName source) (s.keyEntries id)).map Comparison.condition)) ∧
    ∃ condition : Fragment, s.AddsExactly (.keyIn ids) [condition] ∧
      condition.Offers (all.map fun id => comparisonsOf mark (fun name => name) (s.keyEntries id)) ∧
      condition.values = all.flatMap (fun id => Entries.values (s.keyEntries id)) ∧
      (condition.Offers (all.map fun id =>
          comparisonsOf mark (s.record.query.comparedName source) (s.keyEntries id)) ↔
        s.record.query.joins = [] ∨
          ∀ name, .text name ∈ s.key.columns → Text.occursIn ['.'] name.toList = true) := by
  refine ⟨fun id hid => ?_, ?_⟩
  · have hadds := Scope.addsExactly_of_triple (.keyIs .whereClause id) (I := (· = _))
      ((triple_keyIs_ready hsource hmark hnamed (hall id hid)).post fun _ _ hs' => ⟨_, rfl, hs'⟩)
    obtain ⟨_, rfl, hadds⟩ := hadds
    exact hadds
  · obtain ⟨_, ⟨condition, rfl, hoffers⟩, hadds⟩ := Scope.addsExactly_of_triple (.keyIn ids)
      (I := fun added => ∃ condition : Fragment, added = [condition] ∧
        condition.Offers (all.map fun id => comparisonsOf mark (fun name => name) (s.keyEntries id)))
      ((triple_keyIn_ready hmark hnamed hinlined hids hall).post fun _ _ ⟨condition, hoffers, hs'⟩ =>
        ⟨_, ⟨condition, rfl, hoffers⟩, hs'⟩)
    refine ⟨condition, hadds, hoffers, ?_, ?_⟩
    · rw [hoffers.values, List.flatMap_def, List.map_flatten, List.map_map]
      simp [comparisonsOf, Entries.values, Function.comp_def]
    · rw [← keyEntries_named_alike_iff mark source hnamed hne hall]
      refine ⟨fun hother => hoffers.eq_of_isBareOf hother ?_, fun hsame => hsame ▸ hoffers⟩
      rw [List.forall₂_map_left_iff, List.forall₂_map_right_iff, List.forall₂_same]
      exact fun id _ => isBareOf_comparisonsOf _ _ _ _

/-- Orders that are joined with their items. -/
def onJoinedDesk : Scope .quiet where
  record :=
    { onQuietDesk.record with
      query := onQuietDesk.record.query.addJoin ⟨.text "JOIN `items` ON `items`.`order` = `orders`.`id`", []⟩ }
  world := onQuietDesk.world

/-- The same orders with a key of two columns, which name their table. -/
def onKeyedDesk : Scope .quiet :=
  { onJoinedDesk with
    record :=
      { onJoinedDesk.record with ownKey := some (.compound [.text "orders.shop", .text "orders.number"]) } }

/-- The two ways to ask agree, and a number that is missing is null. -/
theorem keyIn_offers_keys_iff_onKeyedDesk :
    ∃ condition : Fragment,
      onKeyedDesk.AddsExactly
        (.keyIn (.list [.map [(.text "orders.number", .int 7), (.text "orders.shop", .int 1)],
          .map [(.text "orders.shop", .int 2)]])) [condition] ∧
      condition.Offers [[⟨"`orders`.`shop`", "=", .int 1⟩, ⟨"`orders`.`number`", "=", .int 7⟩],
        [⟨"`orders`.`shop`", "=", .int 2⟩, ⟨"`orders`.`number`", "=", .null⟩]] := by
  have hnamed : onKeyedDesk.HasNamedKey := by
    intro column hcolumn
    rcases List.mem_pair.1 hcolumn with rfl | rfl <;> exact ⟨_, rfl⟩
  have hint : ∀ k, ¬ Heap.IsSequence {} (.int k) := by
    rintro k (⟨items, hitems⟩ | ⟨items, hitems⟩) <;> cases hitems
  have hall : ∀ id ∈ [Value.map [(.text "orders.number", .int 7), (.text "orders.shop", .int 1)],
      .map [(.text "orders.shop", .int 2)]], onKeyedDesk.IsId id := by
    intro id hid
    rcases List.mem_pair.1 hid with rfl | rfl
    · refine ⟨_, rfl, fun e he => ?_⟩
      rcases List.mem_pair.1 he with rfl | rfl <;> exact hint _
    · refine ⟨_, rfl, fun e he => ?_⟩
      rw [List.mem_singleton.1 he]
      exact hint _
  have hmark : onKeyedDesk.FindsMark "default" "`" := rfl
  obtain ⟨-, condition, hadds, -, -, hiff⟩ := @keyIn_offers_keys_iff _ onKeyedDesk "`" "orders"
    (.list _) _ rfl hmark hnamed (fun _ h => absurd h List.not_mem_nil) rfl (List.cons_ne_nil _ _) hall
  refine ⟨condition, hadds, ?_⟩
  have hoffers := hiff.2 (.inr fun name hname => ?_)
  · have hshop : Identifier.quoteName "`" (onKeyedDesk.record.query.comparedName "orders" "orders.shop") =
        "`orders`.`shop`" := by decide +kernel
    have hnumber : Identifier.quoteName "`" (onKeyedDesk.record.query.comparedName "orders" "orders.number") =
        "`orders`.`number`" := by decide +kernel
    have hfirst : onKeyedDesk.keyEntries
        (.map [(.text "orders.number", .int 7), (.text "orders.shop", .int 1)]) =
        [(.text "orders.shop", .int 1), (.text "orders.number", .int 7)] := rfl
    have hsecond : onKeyedDesk.keyEntries (.map [(.text "orders.shop", .int 2)]) =
        [(.text "orders.shop", .int 2), (.text "orders.number", .null)] := rfl
    simpa only [List.map_cons, List.map_nil, comparisonsOf, hfirst, hsecond, Value.display, hshop, hnumber]
      using hoffers
  · rcases List.mem_pair.1 hname with hname | hname <;> rw [Value.text.inj hname] <;> decide

theorem texts_of_addsExactly {call : BuilderCall} (h : s.AddsExactly call added)
    (hnone : s.record.query.wheres.isEmpty) :
    added.map Fragment.text = ((build call).perform s).2.record.query.wheres.map Fragment.text := by
  have hwheres := Query.conditions_addConditions .whereClause added s.record.query
  have hnothing : s.record.query.conditions .whereClause = [] := List.isEmpty_iff.1 hnone
  rw [hnothing, List.nil_append] at hwheres
  rw [h.2]
  exact congrArg (List.map Fragment.text) hwheres.symm

/-- **Once there is a join, asking for any of several ids is not asking for each of them:** each id is compared with
`orders`.`id`, and all of them are candidates for `id`, whichever of the tables it is of. -/
theorem not_keyIn_offers_keys_onJoinedDesk :
    ¬ ∃ (condition : Fragment) (group : Value → List Comparison),
      onJoinedDesk.AddsExactly (.keyIn (.list [.int 1, .int 2])) [condition] ∧
      (∀ id ∈ [.int 1, .int 2],
        onJoinedDesk.AddsExactly (.keyIs .whereClause id) ((group id).map Comparison.condition)) ∧
      condition.Offers ([.int 1, .int 2].map group) := by
  rintro ⟨condition, group, hin, his, hoffers⟩
  have hcondition : [condition].map Fragment.text = [.text "`id` IN (?, ?)"] :=
    (texts_of_addsExactly hin rfl).trans (by decide +kernel)
  have hfirst : ((group (.int 1)).map Comparison.condition).map Fragment.text = [.text "`orders`.`id` = ?"] :=
    (texts_of_addsExactly (his _ List.mem_cons_self) rfl).trans (by decide +kernel)
  have htext : condition.text = .text ("`id` IN (?, " ++ "?)") := (List.cons.inj hcondition).1
  obtain ⟨front, hways⟩ := hoffers.ends (by simp)
  rcases hways with ⟨c, hgroups, -⟩ | ⟨column, values, hgroups, hmembership, -⟩ | ⟨-, hends⟩
  · simp at hgroups
  · -- The column would have to be as long as each of the two.
    have hlength : values.length = 2 := by simpa using (congrArg List.length hgroups).symm
    obtain ⟨v, w, rfl⟩ := List.length_eq_two.1 hlength
    obtain ⟨hgroup, -⟩ := List.cons.inj hgroups
    rw [hgroup] at hfirst
    have hcolumn := congrArg String.length (Piece.text.inj (List.cons.inj hfirst).1)
    have hcandidates := congrArg String.length (Piece.text.inj (htext.symm.trans hmembership))
    have hslots : (Placeholders.ofTerms ([v, w].map .bound)).text = "?, ?" := by
      show ", ".intercalate ["?", "?"] = _
      decide
    simp only [hslots, String.length_append] at hcolumn hcandidates
    change column.length + 1 + 1 + 2 = 17 at hcolumn
    change 12 + 2 = column.length + 1 + 2 + 2 + 4 + 1 at hcandidates
    omega
  · have hsame : "`id` IN (?, " ++ "?)" = front ++ "))" := Piece.text.inj (htext.symm.trans hends)
    have hending : "?)" = "))" := ending_eq_of_append_eq rfl hsame
    exact absurd hending (by decide)

end

end FluentSql.Record
