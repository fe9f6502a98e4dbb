import FluentSql.Proofs.Record.Balance
import FluentSql.Proofs.Record.Beside
/-
# FluentSql.Proofs.Record.ConfinedCalls — builder calls are confined to their clauses.

Made with two records that agree on its clause, a builder call adds the same to both, or fails alike, and touches
neither the other clauses nor streams that do not lie within its own values (`repeats_build`).
-/

namespace FluentSql

open Step (EndAlike Mirrors Repeats)

namespace Record

variable {S T : Set Nat} {h h' : Heap} {v w : Value}

/-! ## Going through values -/

/-- Keys and values that lie within a set. -/
def PairsWithin (T : Set Nat) (pairs : List (Value × Value)) : Prop := ∀ e ∈ pairs, e.1.Within T ∧ e.2.Within T

theorem within_ofOption {found : Option Value} (hfound : ∀ w, found = some w → w.Within T) :
    (Value.ofOption found).Within T := by
  cases found with
  | none => trivial
  | some w => exact hfound w rfl

theorem repeats_columnsOf (hv : v.Within T) : Repeats (Heap.Beside S T h h') (PairsWithin T) (columnsOf v) := by
  refine Heap.repeats_bindGet (fun g g' hs => by rw [hs.entries?_eq hv]) fun g hclosed => ?_
  split
  · exact Repeats.pure (List.forall_mem_singleton.2 ⟨hv, trivial⟩)
  · rename_i entries _ hentries
    refine Repeats.pure fun e he => ?_
    obtain ⟨entry, hentry, rfl⟩ := List.mem_map.1 he
    exact (Value.entriesWithin_iff.1 (hclosed.entries? hv hentries) entry hentry).symm
  · refine Repeats.bind (Heap.repeats_items hv) fun items hitems => Repeats.pure fun e he => ?_
    obtain ⟨column, hcolumn, rfl⟩ := List.mem_map.1 he
    exact ⟨hitems column hcolumn, trivial⟩

theorem repeats_fieldsOf (hv : v.Within T) : Repeats (Heap.Beside S T h h') (PairsWithin T) (fieldsOf v) := by
  refine Heap.repeats_bindGet (fun g g' hs => by rw [hs.entries?_eq hv]) fun g hclosed => ?_
  split
  · rename_i entries hentries
    exact Repeats.pure (Value.entriesWithin_iff.1 (hclosed.entries? hv hentries))
  · refine Repeats.bind (Heap.repeats_items hv) fun items hitems => Repeats.pure fun e he => ?_
    obtain ⟨k, hk, rfl⟩ := List.mem_mapIdx.1 he
    exact ⟨trivial, hitems _ (List.getElem_mem hk)⟩

theorem repeats_candidates (hv : v.Within T) : Repeats (Heap.Beside S T h h') (PairsWithin T) (candidates v) := by
  have hsole : Repeats (Heap.Beside S T h h') (PairsWithin T) (pure [(.int 0, v)] : Step Heap _) :=
    Repeats.pure (List.forall_mem_singleton.2 ⟨trivial, hv⟩)
  refine Heap.repeats_bindGet (fun g g' hs => by rw [hs.content_eq hv, hs.isIterable_eq hv]) fun g hclosed => ?_
  split
  · exact hsole
  · exact hsole
  · exact hsole
  · split
    · exact repeats_fieldsOf hv
    · exact hsole

theorem repeats_placeholders {fields : List (Value × Value)} (hv : v.Within T) (hfields : PairsWithin T fields) :
    Repeats (Heap.Beside S T h h') (fun _ => True) (placeholders v fields) := by
  refine Repeats.bind (P := fun _ => True) ?_ fun _ _ => Repeats.pure trivial
  refine (Repeats.mapM (P := fun _ => True) fun e he => ?_).mono fun _ _ => trivial
  obtain ⟨hkey, hvalue⟩ := hfields e he
  refine Repeats.bind (Heap.repeats_contains hkey hv) fun found _ => ?_
  split
  · exact Heap.repeats_bindGet (fun g g' hs => by rw [hs.settle_eq hvalue]) fun _ _ => Repeats.pure trivial
  · exact Repeats.pure trivial

theorem repeats_fieldsIn {row : Row} (hrow : Value.EntriesWithin T row) (hv : v.Within T) :
    Repeats (Heap.Beside S T h h') (PairsWithin T) (fieldsIn row v) := by
  refine Repeats.bind (Heap.repeats_forItems (P := fun e => e.1.Within T ∧ e.2.Within T) hv fun column hcolumn => ?_)
    fun fields hfields => Repeats.pure (Entries.forall_mem_ofPairs hfields)
  refine Repeats.bind (Heap.repeats_entryOf? hcolumn hrow) fun found hfound => ?_
  exact Repeats.pure ⟨hcolumn, within_ofOption hfound⟩

theorem repeats_valueIn {row : Row} (hrow : Value.EntriesWithin T row) (hv : v.Within T) :
    Repeats (Heap.Beside S T h h') (Value.Within T) (valueIn row v) := by
  unfold valueIn
  split
  · exact Repeats.pure (within_ofOption fun w hw => hrow.get? hw)
  · exact Repeats.bind (repeats_fieldsIn hrow hv) fun fields hfields =>
      Repeats.pure (Value.entriesWithin_iff.2 hfields)

theorem repeats_partOf (hv : v.Within T) (hw : w.Within T) :
    Repeats (Heap.Beside S T h h') (Value.Within T) (partOf v w) := by
  refine Heap.repeats_bindGet (fun g g' hs => ?_) fun g hclosed => ?_
  · have hwithin := hs.closed.content hv
    rw [hs.content_eq hv]
    split
    · rfl
    · rename_i number hcontent
      rw [hcontent] at hwithin
      rcases hs.cell? hwithin with heq | ⟨r, r', hr, hr', hunbuilt⟩
      · rw [heq]
      · obtain ⟨-, -, -, hchanges, -⟩ := unbuilt_eq_iff.1 hunbuilt
        simp only [hr, hr', hchanges]
    · rfl
  · have hwithin := hclosed.content hv
    split
    · rename_i entries hcontent
      rw [hcontent] at hwithin
      exact Repeats.bind (Heap.repeats_entryOf? hw hwithin) fun found hfound => Repeats.pure (within_ofOption hfound)
    · rename_i number hcontent
      rw [hcontent] at hwithin
      split
      · rename_i r hcell
        refine Repeats.bind (repeats_valueIn (hclosed number hwithin _ hcell) hw) fun part hpart => ?_
        exact Repeats.bind (Heap.repeats_requireKey hw) fun _ _ => Repeats.pure hpart
      · exact Repeats.throw _
      · exact Repeats.throw _
    · exact Repeats.throw _

theorem repeats_keyParts {columns : List Value} (hcolumns : ∀ column ∈ columns, column.Within T) (hv : v.Within T) :
    Repeats (Heap.Beside S T h h') (PairsWithin T) (keyParts columns v) := by
  refine Repeats.bind (Repeats.mapM (P := fun e => e.1.Within T ∧ e.2.Within T) fun column hcolumn => ?_)
    fun parts hparts => Repeats.pure (Entries.forall_mem_ofPairs hparts)
  exact Repeats.bind (repeats_partOf hv (hcolumns column hcolumn)) fun part hpart =>
    Repeats.pure ⟨hcolumns column hcolumn, hpart⟩

/-! ## Result columns and joins -/

section

variable {E : Environment} {K : Set ClauseName} {k : ClauseName} {s₀ s₀' : Scope E}

theorem repeats_addNamed (hk : k = .columns) (column : String) (hv : v.Within T) :
    Repeats (Scope.Beside K k S T s₀ s₀') (fun _ => True) (addNamed column v : Record.Action E Unit) := by
  subst hk
  exact Repeats.bind (repeats_quote hv) fun quoted _ => repeats_changeQuery (Query.editsOnly_addColumn _)

theorem repeats_select (hk : k = .columns) (hv : v.Within T) (hw : w.Within T) :
    Repeats (Scope.Beside K k S T s₀ s₀') (fun _ => True) (select v w : Record.Action E Unit) := by
  refine Repeats.bind (repeats_quote hv) fun quoted _ => ?_
  split
  · subst hk
    exact repeats_changeQuery (Query.editsOnly_addColumn _)
  · exact repeats_addNamed hk _ hw

theorem repeats_selectExpr (hk : k = .columns) (hv : v.Within T) (hw : w.Within T) :
    Repeats (Scope.Beside K k S T s₀ s₀') (fun _ => True) (selectExpr v w : Record.Action E Unit) := by
  unfold selectExpr
  split
  · subst hk
    exact repeats_changeQuery (Query.editsOnly_addColumn _)
  · exact Repeats.bind (repeats_displayed hv) fun shown _ => repeats_addNamed hk _ hw

theorem repeats_allColumnsOf {arguments : List Value} (harguments : ∀ v ∈ arguments, v.Within T) :
    Repeats (Scope.Beside K k S T s₀ s₀') (PairsWithin T)
      (allColumnsOf arguments : Record.Action E (List (Value × Value))) := by
  have hall : ∀ h h', Repeats (Heap.Beside S T h h') (fun all => ∀ pairs ∈ all, PairsWithin T pairs)
      (arguments.mapM columnsOf) :=
    fun _ _ => Repeats.mapM fun v hv => repeats_columnsOf (harguments v hv)
  refine Repeats.bind (repeats_inHeap hall) fun all hall => Repeats.pure fun e he => ?_
  obtain ⟨pairs, hpairs, hmem⟩ := List.mem_flatten.1 he
  exact hall pairs hpairs e hmem

/-- The constraint of a join is looked at in the world, because it may refer to a store. -/
theorem repeats_joinConstraint (hv : v.Within T) :
    Repeats (Scope.Beside K k S T s₀ s₀') (fun _ => True) (joinConstraint v : Record.Action E String) := by
  unfold joinConstraint
  split
  · exact Repeats.pure trivial
  · refine Repeats.bind (repeats_inWorld (fun _ _ _ => World.Beside.repeats_length hv) rfl) fun length _ => ?_
    split
    · refine repeats_bindHeap (fun g g' hs => by rw [hs.settle_eq hv]) fun _ _ => ?_
      exact Repeats.bind (P := fun _ => False) (Repeats.throw _) fun _ hfalse => hfalse.elim
    · refine Repeats.bind (repeats_inHeap fun _ _ => Heap.repeats_items hv) fun items hitems => ?_
      split
      · simp only [List.forall_mem_cons] at hitems
        obtain ⟨hfirst, hoperator, hsecond, -⟩ := hitems
        refine Repeats.bind (repeats_quote hfirst) fun _ _ => Repeats.bind (repeats_displayed hoperator) fun _ _ => ?_
        exact Repeats.bind (repeats_quote hsecond) fun _ _ => Repeats.pure trivial
      · exact Repeats.throw _

theorem repeats_joinTarget (table : String) (hv : v.Within T) :
    Repeats (Scope.Beside K k S T s₀ s₀') (fun _ => True) (joinTarget table v : Record.Action E String) := by
  unfold joinTarget
  split
  · exact Repeats.pure trivial
  · exact Repeats.bind (repeats_quote hv) fun _ _ => Repeats.pure trivial

theorem repeats_join (hk : k = .joins) (kind : JoinKind) {table constraint asName : Value} (htable : table.Within T)
    (hconstraint : constraint.Within T) (hname : asName.Within T) :
    Repeats (Scope.Beside K k S T s₀ s₀') (fun _ => True)
      (join kind table constraint asName : Record.Action E Unit) := by
  subst hk
  refine Repeats.bind (repeats_quote htable) fun quoted _ => ?_
  refine Repeats.bind (repeats_joinTarget quoted hname) fun _ _ => ?_
  exact Repeats.bind (repeats_joinConstraint hconstraint) fun _ _ => repeats_changeQuery (Query.editsOnly_addJoin _)

theorem repeats_rawJoin (hk : k = .joins) {table constraint asName params : Value} (htable : table.Within T)
    (hconstraint : constraint.Within T) (hname : asName.Within T) (hparams : params.Within T) :
    Repeats (Scope.Beside K k S T s₀ s₀') (fun _ => True)
      (rawJoin table constraint asName params : Record.Action E Unit) := by
  subst hk
  refine Repeats.bind (repeats_displayed htable) fun shown _ => ?_
  refine Repeats.bind (repeats_joinTarget shown hname) fun _ _ => ?_
  refine Repeats.bind (repeats_joinConstraint hconstraint) fun _ _ => ?_
  exact Repeats.bind (repeats_inHeap fun _ _ => Heap.repeats_items hparams) fun _ _ =>
    repeats_changeQuery (Query.editsOnly_addJoin _)

/-! ## Conditions -/

theorem repeats_addCondition {kind : ConditionKind} (hk : k = kind.clause) (f : Fragment) :
    Repeats (Scope.Beside K k S T s₀ s₀') (fun _ => True) (addCondition kind f : Record.Action E Unit) := by
  subst hk
  exact repeats_changeQuery (Query.editsOnly_addCondition kind f)

theorem repeats_columnsWith (hv : v.Within T) (hw : w.Within T) :
    Repeats (Scope.Beside K k S T s₀ s₀') (PairsWithin T)
      (columnsWith v w : Record.Action E (List (Value × Value))) := by
  refine repeats_bindHeap (fun g g' hs => by rw [hs.entries?_eq hv]) fun g hclosed => Repeats.pure ?_
  cases hentries : g.entries? v with
  | none => exact List.forall_mem_singleton.2 ⟨hv, hw⟩
  | some entries => exact Value.entriesWithin_iff.1 (hclosed.entries? hv hentries)

/-- The names that a comparison looks at are the same in both records. -/
theorem repeats_qualified (hnames : ClauseName.naming ⊆ K) (hv : v.Within T) :
    Repeats (Scope.Beside K k S T s₀ s₀') (Value.Within T) (qualified v : Record.Action E Value) := by
  refine repeats_bindCurrent fun s s' hb => ?_
  obtain ⟨-, hwithin⟩ := hb.names hnames
  have hjoins : s'.record.query.joins = s.record.query.joins :=
    (congrArg Query.joins (hb.agrees.parts .joins (hnames (.inl rfl)))).symm
  have hsource : s'.record.query.source = s.record.query.source := by
    have halias := congrArg Query.tableAlias (hb.agrees.parts .tableAlias (hnames (.inr rfl)))
    change s.record.query.tableAlias = s'.record.query.tableAlias at halias
    obtain ⟨-, htable, -⟩ := unbuilt_eq_iff.1 hb.agrees.unbuilt
    rw [Query.source, Query.source, halias, htable]
  dsimp only
  rw [hjoins, hsource]
  split
  · exact Repeats.pure hv
  · refine Repeats.bind (repeats_inHeap fun _ _ => Heap.repeats_contains (.text ".") hv) fun found _ => ?_
    split
    · exact Repeats.pure hv
    · refine Repeats.bind (repeats_displayed_of_within hwithin) fun shown _ => ?_
      exact Repeats.bind (repeats_displayed hv) fun _ _ => Repeats.pure (.text _)

theorem repeats_compareAll (hnames : ClauseName.naming ⊆ K) {kind : ConditionKind} (hk : k = kind.clause)
    (operator : String) {pairs : List (Value × Value)} (hpairs : PairsWithin T pairs) :
    Repeats (Scope.Beside K k S T s₀ s₀') (fun _ => True)
      (compareAll kind operator pairs : Record.Action E Unit) := by
  refine Repeats.forM fun e he => ?_
  obtain ⟨hcolumn, hvalue⟩ := hpairs e he
  refine Repeats.bind (repeats_qualified hnames hcolumn) fun column hcolumn => ?_
  refine Repeats.bind (repeats_quote hcolumn) fun quoted _ => ?_
  exact repeats_bindHeap (fun g g' hs => by rw [hs.asItems_eq hvalue]) fun _ _ => repeats_addCondition hk _

theorem repeats_amongAll {kind : ConditionKind} (hk : k = kind.clause) (operator : String) (hv : v.Within T)
    {pairs : List (Value × Value)} (hpairs : PairsWithin T pairs) :
    Repeats (Scope.Beside K k S T s₀ s₀') (fun _ => True)
      (amongAll kind operator v pairs : Record.Action E Unit) := by
  refine Repeats.forM fun e he => ?_
  obtain ⟨hcolumn, hvalue⟩ := hpairs e he
  refine Repeats.bind (repeats_inHeap fun _ _ => Repeats.bind (repeats_candidates hvalue) fun fields hfields =>
    repeats_placeholders hv hfields) fun written _ => ?_
  exact Repeats.bind (repeats_quote hcolumn) fun _ _ => repeats_addCondition hk _

theorem repeats_testedColumns (hv : v.Within T) :
    Repeats (Scope.Beside K k S T s₀ s₀') (fun columns => ∀ column ∈ columns, column.Within T)
      (testedColumns v : Record.Action E (List Value)) := by
  unfold testedColumns
  split
  · exact Repeats.pure (List.forall_mem_singleton.2 hv)
  · exact repeats_inHeap fun _ _ => Heap.repeats_items hv

theorem repeats_operatorFor (hv : v.Within T) (hw : w.Within T) :
    Repeats (Scope.Beside K k S T s₀ s₀') (fun _ => True) (operatorFor v w : Record.Action E String) := by
  refine repeats_bindHeap (fun g g' hs => ?_) fun g hclosed => ?_
  · have hwithin := hs.closed.content hv
    rw [hs.content_eq hv]
    split
    all_goals try rfl
    rename_i number hcontent
    rw [hcontent] at hwithin
    rcases hs.cell? hwithin with heq | ⟨r, r', hr, hr', -⟩
    · rw [heq]
    · rw [hr, hr']
  · have hwithin := hclosed.content hv
    split
    · exact Repeats.pure trivial
    · exact repeats_displayed (v := .style _) trivial
    · rename_i entries hcontent
      rw [hcontent] at hwithin
      refine Repeats.bind (repeats_inHeap fun _ _ => Heap.repeats_entryOf? hw hwithin) fun found hfound => ?_
      split
      · exact repeats_displayed (hfound _ rfl)
      · exact Repeats.pure trivial
    · split <;> exact Repeats.throw _
    · exact Repeats.throw _

theorem repeats_groupComparison (hv : v.Within T) {pair : Value × Value} (hpair : pair.1.Within T) :
    Repeats (Scope.Beside K k S T s₀ s₀') (fun _ => True)
      (groupComparison v pair : Record.Action E Comparison) :=
  Repeats.bind (repeats_operatorFor hv hpair) fun _ _ => Repeats.bind (repeats_quote hpair) fun _ _ =>
    Repeats.pure trivial

theorem repeats_groupEntries (hv : v.Within T) :
    Repeats (Scope.Beside K k S T s₀ s₀') (PairsWithin T)
      (groupEntries v : Record.Action E (List (Value × Value))) := by
  refine repeats_bindHeap (fun g g' hs => by rw [hs.entries?_eq hv]) fun g hclosed => ?_
  split
  · rename_i entries hentries
    exact Repeats.pure (Value.entriesWithin_iff.1 (hclosed.entries? hv hentries))
  · exact Repeats.throw _

/-- The comparisons of a group. -/
theorem repeats_group (hv : v.Within T) {group : List (Value × Value)} (hgroup : PairsWithin T group) :
    Repeats (Scope.Beside K k S T s₀ s₀') (fun _ => True)
      (group.mapM (groupComparison v) : Record.Action E (List Comparison)) :=
  (Repeats.mapM (P := fun _ => True) fun e he => repeats_groupComparison hv (hgroup e he).1).mono fun _ _ => trivial

theorem repeats_anyOfGroups {kind : ConditionKind} (hk : k = kind.clause) {groups : List (List (Value × Value))}
    (hgroups : ∀ group ∈ groups, PairsWithin T group) :
    Repeats (Scope.Beside K k S T s₀ s₀') (fun _ => True)
      (anyOfGroups kind groups : Record.Action E Unit) :=
  Repeats.bind (Repeats.mapM fun group hgroup => repeats_group (.text "=") (hgroups group hgroup)) fun _ _ =>
    repeats_addCondition hk _

end

end Record

/-! ## Calls that add conditions -/

/-- All values of the call lie within a set. -/
def ConditionCall.Within (T : Set Nat) : ConditionCall → Prop
  | .verbatim text values => text.Within T ∧ values.Within T
  | .compare _ column value => column.Within T ∧ value.Within T
  | .among _ column values inlined => column.Within T ∧ values.Within T ∧ inlined.Within T
  | .check _ column => column.Within T
  | .anyOf groups operator => groups.Within T ∧ operator.Within T

namespace Record

section

variable {E : Environment} {K : Set ClauseName} {k : ClauseName} {s₀ s₀' : Scope E}

theorem repeats_condition {kind : ConditionKind} (hk : k = kind.clause) {call : ConditionCall} (hcall : call.Within T)
    (hnames : call.IsComparison → ClauseName.naming ⊆ K) :
    Repeats (Scope.Beside K k S T s₀ s₀') (fun _ => True) (condition kind call : Record.Action E Unit) := by
  cases call with
  | verbatim text values =>
      exact repeats_bindHeap (fun g g' hs => by rw [hs.asItems_eq hcall.2]) fun _ _ => repeats_addCondition hk _
  | compare operator column value =>
      exact Repeats.bind (repeats_columnsWith hcall.1 hcall.2) fun pairs hpairs =>
        repeats_compareAll (hnames trivial) hk operator hpairs
  | among operator column values inlined =>
      obtain ⟨hcolumn, hvalues, hinlined⟩ := hcall
      have hadd : Repeats (Scope.Beside K k S T s₀ s₀') (fun _ => True)
          (do amongAll kind operator inlined (← columnsWith column values) : Record.Action E Unit) :=
        Repeats.bind (repeats_columnsWith hcolumn hvalues) fun pairs hpairs =>
          repeats_amongAll hk operator hinlined hpairs
      refine repeats_bindHeap (fun g g' hs => by rw [hs.entries?_eq hcolumn]) fun g _ => ?_
      split
      · exact Repeats.bind (repeats_inHeap fun _ _ => Heap.repeats_requireKey hcolumn) fun _ _ => hadd
      · exact hadd
  | check operator column =>
      refine Repeats.bind (repeats_testedColumns hcall) fun columns hcolumns => Repeats.forM fun column hcolumn => ?_
      exact Repeats.bind (repeats_quote (hcolumns column hcolumn)) fun _ _ => repeats_addCondition hk _
  | anyOf groups operator =>
      refine repeats_bindHeap (fun g g' hs => by rw [hs.items?_eq hcall.1]) fun g hclosed => ?_
      refine Repeats.bind (Repeats.lift fun all hall => hclosed.items? hcall.1 hall) fun all hall => ?_
      refine Repeats.bind (P := fun _ => True) ?_ fun _ _ => repeats_addCondition hk _
      refine (Repeats.mapM (P := fun _ => True) fun group hgroup => ?_).mono fun _ _ => trivial
      refine Repeats.bind (repeats_inHeap fun _ _ => Heap.repeats_skip hcall.1 1) fun _ _ => ?_
      exact Repeats.bind (repeats_groupEntries (hall group hgroup)) fun entries hentries =>
        repeats_group hcall.2 hentries

end

/-! ## The key -/

namespace Scope

variable {E : Environment} {K : Set ClauseName} {s s' : Scope E}

/-- What decides about the key is what records have in common that agree, and what building leaves alone. -/
theorem key_eq_of_unbuilt (hunbuilt : s'.record.unbuilt = s.record.unbuilt)
    (hheap : s.published.heap.IsLike s'.published.heap)
    (hmanner : Connection.manner s.record.connection s'.published = Connection.manner s.record.connection s.published) :
    s'.key = s.key := by
  obtain ⟨hconnection, htable, -, -, hown⟩ := unbuilt_eq_iff.1 hunbuilt
  have hkeys : (s'.world.session.settingsOf s.record.connection).HasKeysOf
      (s.world.session.settingsOf s.record.connection) := by
    rw [← session_published, ← session_published]
    exact ⟨congrArg Connection.Manner.keyColumns hmanner, congrArg Connection.Manner.keyOverrides hmanner⟩
  rw [key, key, hown, hconnection, Record.table, Record.table, htable, hheap.keyOf, hkeys.keyOf_eq]

theorem Agrees.key_eq (hs : s.Agrees K S s') : s'.key = s.key :=
  key_eq_of_unbuilt hs.unbuilt.symm hs.heap.like hs.manner

theorem Builds.key_eq (hs : s.Builds K T s') : s'.key = s.key :=
  key_eq_of_unbuilt hs.unbuilt hs.heap.isLike hs.manner

end Scope

section

variable {E : Environment} {K : Set ClauseName} {k : ClauseName} {s₀ s₀' : Scope E}

theorem repeats_bindKey {next : KeyColumns → Record.Action E Unit}
    (hnext : Repeats (Scope.Beside K k S T s₀ s₀') (fun _ => True) (next s₀.key)) :
    Repeats (Scope.Beside K k S T s₀ s₀') (fun _ => True) (key >>= next) := by
  intro s s' hb
  have hkey : s.key = s₀.key := hb.builds.key_eq
  have hkey' : s'.key = s₀.key := hb.agrees.key_eq.trans hkey
  obtain ⟨-, -, -, -, hown⟩ := unbuilt_eq_iff.1 hb.agrees.unbuilt
  cases hr : s.record.ownKey with
  | some own =>
      rw [Step.perform_bind_ok (perform_key_of_ownKey_eq_some hr),
        Step.perform_bind_ok (perform_key_of_ownKey_eq_some (hown.symm.trans hr)), hkey, hkey']
      exact hnext s s' hb
  | none =>
      rw [Step.perform_bind_ok (perform_key_of_ownKey_eq_none hr),
        Step.perform_bind_ok (perform_key_of_ownKey_eq_none (hown.symm.trans hr)), hkey, hkey']
      exact hnext _ _ (hb.renewed hb.published)

theorem repeats_keyIs {kind : ConditionKind} (hk : k = kind.clause) (hnames : ClauseName.naming ⊆ K) (hv : v.Within T)
    (hkey : ∀ column ∈ s₀.key.columns, column.Within T) :
    Repeats (Scope.Beside K k S T s₀ s₀') (fun _ => True) (keyIs kind v : Record.Action E Unit) := by
  refine repeats_bindKey ?_
  cases hcolumns : s₀.key with
  | single column =>
      rw [hcolumns] at hkey
      exact repeats_condition hk ⟨hkey column List.mem_cons_self, hv⟩ fun _ => hnames
  | compound columns =>
      rw [hcolumns] at hkey
      exact Repeats.bind (repeats_inHeap fun _ _ => repeats_keyParts hkey hv) fun parts hparts =>
        repeats_compareAll hnames hk "=" hparts

theorem repeats_bindInlined {next : Value → Record.Action E Unit}
    (hnext : Repeats (Scope.Beside K k S T s₀ s₀') (fun _ => True)
      (next (.list s₀.record.changes.inlined))) :
    Repeats (Scope.Beside K k S T s₀ s₀') (fun _ => True) (inlinedFields >>= next) := by
  intro s s' hb
  obtain ⟨-, -, -, hchanges, -⟩ := unbuilt_eq_iff.1 hb.builds.unbuilt
  obtain ⟨-, -, -, hchanges', -⟩ := unbuilt_eq_iff.1 hb.agrees.unbuilt
  have hend := hnext s s' hb
  show EndAlike _ _ ((next (.list s.record.changes.inlined)).perform s)
    ((next (.list s'.record.changes.inlined)).perform s')
  rw [← hchanges', hchanges]
  exact hend

theorem repeats_keyIn (hk : k = ConditionKind.whereClause.clause) (hv : v.Within T)
    (hkey : ∀ column ∈ s₀.key.columns, column.Within T) (hinlined : ∀ name ∈ s₀.record.changes.inlined, name.Within T) :
    Repeats (Scope.Beside K k S T s₀ s₀') (fun _ => True) (keyIn v : Record.Action E Unit) := by
  refine repeats_bindKey ?_
  cases hcolumns : s₀.key with
  | single column =>
      rw [hcolumns] at hkey
      refine Repeats.bind (repeats_inHeap fun _ _ => Heap.repeats_items hv) fun ids hids => repeats_bindInlined ?_
      exact repeats_condition hk ⟨hkey column List.mem_cons_self, Value.allWithin_iff.2 hids,
        Value.allWithin_iff.2 hinlined⟩ False.elim
  | compound columns =>
      rw [hcolumns] at hkey
      refine Repeats.bind (repeats_inHeap fun _ _ => Heap.repeats_forItems hv fun id hid => repeats_keyParts hkey hid)
        fun groups hgroups => ?_
      exact repeats_anyOfGroups hk hgroups

end

end Record

/-! ## All builder calls -/

namespace BuilderCall

/-- The clause that the call belongs to. A raw statement belongs to none. -/
def clause? : BuilderCall → Option ClauseName
  | .select .. | .selectExpr .. | .selectMany _ | .selectManyExpr _ => some .columns
  | .distinct => some .distinct
  | .tableAlias _ => some .tableAlias
  | .join .. | .rawJoin .. => some .joins
  | .condition kind _ | .among kind .. | .keyIs kind _ => some kind.clause
  | .keyIn _ => some .wheres
  | .groupBy _ | .groupByExpr _ => some .groupBy
  | .orderBy .. | .orderByExpr _ => some .orderBy
  | .limit _ => some .limit
  | .offset _ => some .offset
  | .raw .. => none

/-- The call is a comparison, which looks at the joins and at the alias of the table. -/
def LooksAtNames : BuilderCall → Prop
  | .condition _ call => call.IsComparison
  | .keyIs .. => True
  | _ => False

/-- All values of the call lie within a set. -/
def Within (T : Set Nat) : BuilderCall → Prop
  | .select column asName | .selectExpr column asName => column.Within T ∧ asName.Within T
  | .selectMany arguments | .selectManyExpr arguments => ∀ v ∈ arguments, v.Within T
  | .distinct => True
  | .tableAlias asName => asName.Within T
  | .join _ table constraint asName => table.Within T ∧ constraint.Within T ∧ asName.Within T
  | .rawJoin table constraint asName params =>
    table.Within T ∧ constraint.Within T ∧ asName.Within T ∧ params.Within T
  | .condition _ call => call.Within T
  | .among _ _ column values => column.Within T ∧ values.Within T
  | .keyIs _ id => id.Within T
  | .keyIn ids => ids.Within T
  | .groupBy v | .groupByExpr v | .orderBy v _ | .orderByExpr v | .limit v | .offset v => v.Within T
  | .raw text params => text.Within T ∧ params.Within T

/-- Comparisons add conditions, and neither joins nor an alias. -/
theorem clause_of_looksAtNames {call : BuilderCall} {k : ClauseName} (hcall : call.LooksAtNames)
    (hk : call.clause? = some k) : k ∉ ClauseName.naming := by
  cases call with
  | condition kind | keyIs kind => exact Option.some.inj hk ▸ kind.clause_notMem_naming
  | _ => exact hcall.elim

end BuilderCall

namespace Record

variable {E : Environment} {S T : Set Nat}

/-- What the record lends to a call beside the values of the call: its key columns, and the names of its fields that
are SQL text. -/
def Scope.lent (s : Scope E) : BuilderCall → List Value
  | .among .. => s.record.changes.inlined
  | .keyIs .. => s.key.columns
  | .keyIn _ => s.key.columns ++ s.record.changes.inlined
  | _ => []

/-- **A builder call does the same with two records that agree on its clause, and touches nothing else.** -/
theorem repeats_build {K : Set ClauseName} {k : ClauseName} {s₀ s₀' : Scope E} {call : BuilderCall}
    (hk : call.clause? = some k) (hcall : call.Within T) (hlent : ∀ v ∈ s₀.lent call, v.Within T)
    (hnames : call.LooksAtNames → ClauseName.naming ⊆ K) :
    Repeats (Scope.Beside K k S T s₀ s₀') (fun _ => True) (build call : Record.Action E Unit) := by
  cases call with
  | raw => cases hk
  | select column asName => exact repeats_select (Option.some.inj hk).symm hcall.1 hcall.2
  | selectExpr text asName => exact repeats_selectExpr (Option.some.inj hk).symm hcall.1 hcall.2
  | selectMany columns =>
      exact Repeats.bind (repeats_allColumnsOf hcall) fun pairs hpairs => Repeats.forM fun e he =>
        repeats_select (Option.some.inj hk).symm (hpairs e he).1 (hpairs e he).2
  | selectManyExpr texts =>
      exact Repeats.bind (repeats_allColumnsOf hcall) fun pairs hpairs => Repeats.forM fun e he =>
        repeats_selectExpr (Option.some.inj hk).symm (hpairs e he).1 (hpairs e he).2
  | join kind table constraint asName =>
      exact repeats_join (Option.some.inj hk).symm kind hcall.1 hcall.2.1 hcall.2.2
  | rawJoin table constraint asName params =>
      exact repeats_rawJoin (Option.some.inj hk).symm hcall.1 hcall.2.1 hcall.2.2.1 hcall.2.2.2
  | condition kind call => exact repeats_condition (Option.some.inj hk).symm hcall hnames
  | among kind operator column values =>
      exact repeats_bindInlined (repeats_condition (Option.some.inj hk).symm
        ⟨hcall.1, hcall.2, Value.allWithin_iff.2 hlent⟩ False.elim)
  | keyIs kind id => exact repeats_keyIs (Option.some.inj hk).symm (hnames trivial) hcall hlent
  | keyIn ids =>
      exact repeats_keyIn (Option.some.inj hk).symm hcall (fun v hv => hlent v (List.mem_append_left _ hv))
        fun v hv => hlent v (List.mem_append_right _ hv)
  | distinct =>
      cases hk
      exact repeats_changeQuery Query.editsOnly_distinct
  | tableAlias asName =>
      cases hk
      exact repeats_changeQuery (Query.editsOnly_tableAlias _)
  | limit n =>
      cases hk
      exact repeats_changeQuery (Query.editsOnly_limit _)
  | offset n =>
      cases hk
      exact repeats_changeQuery (Query.editsOnly_offset _)
  | groupBy column =>
      cases hk
      exact Repeats.bind (repeats_quote hcall) fun _ _ => repeats_changeQuery (Query.editsOnly_addGroup _)
  | groupByExpr text =>
      cases hk
      exact repeats_changeQuery (Query.editsOnly_addGroup _)
  | orderBy column descending =>
      cases hk
      exact Repeats.bind (repeats_quote hcall) fun _ _ => repeats_changeQuery (Query.editsOnly_addOrder _)
  | orderByExpr text =>
      cases hk
      exact repeats_changeQuery (Query.editsOnly_addOrder _)

end Record

end FluentSql
