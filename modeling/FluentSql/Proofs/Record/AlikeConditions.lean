import FluentSql.Proofs.Record.Alike
import FluentSql.Record.Condition
/-
# FluentSql.Proofs.Record.AlikeConditions — conditions that differ in the values they bind only.

Two calls that add conditions are alike if they name the same columns and operators. Of the values that they compare
with nothing but their number counts, and for candidates only (`ConditionCall.Alike`). Alike calls add conditions with
the same texts to alike records (`mirrors_condition`).
-/

namespace FluentSql

open Step (EndAlike Mirrors)

/-! ## Values to bind -/

namespace Heap

/-- The value is a list or a tuple of the items. -/
def IsSequenceOf (h : Heap) (v : Value) (items : List Value) : Prop :=
  h.content v = .list items ∨ h.content v = .tuple items

/-- The value is the only candidate: a text, bytes, or something that cannot be gone through. -/
def IsSole (h : Heap) (v : Value) : Prop :=
  match h.content v with
  | .text _ | .style _ | .bytes _ => True
  | _ => h.isIterable v = false

/-- The values are as many candidates. -/
inductive SameCount (h h' : Heap) : Value → Value → Prop
  | sole {v v'} : h.IsSole v → h'.IsSole v' → SameCount h h' v v'
  | sequence {v v' items items'} : h.IsSequenceOf v items → h'.IsSequenceOf v' items' →
      items.length = items'.length → SameCount h h' v v'

/-- The values are mappings with the same keys. -/
def SameKeys (h h' : Heap) (v v' : Value) : Prop :=
  ∃ entries entries', h.entries? v = some entries ∧ h'.entries? v' = some entries' ∧
    List.Forall₂ (h.Same h') (Entries.keys entries) (Entries.keys entries')

variable {h h' g g' : Heap} {v v' : Value}

theorem IsLike.isIterable_eq (hl : h.IsLike g) (v : Value) : g.isIterable v = h.isIterable v := by
  rcases hl.content v with heq | ⟨rest, rest', hrest, hrest'⟩
  · simp only [isIterable, items?, heq]
    cases h.content v with
    | ref id =>
        rcases hl id with heq | ⟨rest, rest', hrest, hrest'⟩ | ⟨r, r', hr, hr'⟩
        · simp only [heq]
          -- There are items or none, whatever they are.
          cases h.cell? id with
          | none => rfl
          | some cell => cases cell <;> rfl
        · simp only [hrest, hrest']
        · simp only [hr, hr']
          rfl
    | _ => rfl
  · simp only [isIterable, items?, hrest, hrest']
    rfl

theorem IsSequenceOf.of_isLike {items : List Value} (hv : h.IsSequenceOf v items) (hl : h.IsLike g) :
    g.IsSequenceOf v items := by
  rcases hl.content v with heq | ⟨rest, rest', hrest, -⟩
  · rw [IsSequenceOf, heq]
    exact hv
  · rw [IsSequenceOf, hrest] at hv
    simp at hv

theorem IsSequenceOf.items?_eq {items : List Value} (hv : h.IsSequenceOf v items) : h.items? v = .ok items := by
  rcases hv with hv | hv <;> (rw [items?, hv]; rfl)

theorem IsSequenceOf.entries?_eq {items : List Value} (hv : h.IsSequenceOf v items) : h.entries? v = none := by
  rcases hv with hv | hv <;> rw [Heap.entries?, hv]

/-- Lists and tuples are not used up. -/
theorem IsSequenceOf.perform_skip {items : List Value} (hv : h.IsSequenceOf v items) (count : Nat) :
    (skip v count).perform h = (.ok (), h) :=
  perform_skip_of_content_ne_stream (by rcases hv with hv | hv <;> simp [hv]) count

theorem IsSequenceOf.perform_items {items : List Value} (hv : h.IsSequenceOf v items) :
    (Heap.items v).perform h = (.ok items, h) := by
  have hget : (get : Step Heap Heap).perform h = (.ok h, h) := rfl
  rw [Heap.items, Step.perform_bind_ok hget, hv.items?_eq]
  show (skip v items.length >>= fun _ => pure items : Step Heap _).perform h = _
  rw [Step.perform_bind_ok (hv.perform_skip _)]
  rfl

theorem IsSole.of_isLike (hv : h.IsSole v) (hl : h.IsLike g) : g.IsSole v := by
  rcases hl.content v with heq | ⟨rest, rest', hrest, hrest'⟩
  · rw [IsSole, heq, hl.isIterable_eq]
    exact hv
  · have hiterable : h.isIterable v = true := by rw [isIterable, items?, hrest]; rfl
    simp only [IsSole, hrest, hiterable] at hv
    cases hv

theorem SameCount.of_isLike (hv : h.SameCount h' v v') (hl : h.IsLike g) (hl' : h'.IsLike g') :
    g.SameCount g' v v' := by
  cases hv with
  | sole hv hv' => exact .sole (hv.of_isLike hl) (hv'.of_isLike hl')
  | sequence hv hv' hlength => exact .sequence (hv.of_isLike hl) (hv'.of_isLike hl') hlength

end Heap

/-- Calls that add conditions with the same texts. What they compare with may differ. -/
inductive ConditionCall.Alike (h h' : Heap) : ConditionCall → ConditionCall → Prop
  | verbatim {text text' values values'} : h.Same h' text text' →
      Alike h h' (.verbatim text values) (.verbatim text' values')
  | compare {operator column column' value value'} : h.Same h' column column' →
      Alike h h' (.compare operator column value) (.compare operator column' value')
  | compareEach {operator columns columns' value value'} : h.SameKeys h' columns columns' →
      Alike h h' (.compare operator columns value) (.compare operator columns' value')
  | check {operator column column'} : h.Same h' column column' →
      Alike h h' (.check operator column) (.check operator column')
  | anyOf {groups groups' all all' operator operator'} : h.IsSequenceOf groups all → h'.IsSequenceOf groups' all' →
      List.Forall₂ (h.SameKeys h') all all' → h.Same h' operator operator' →
      Alike h h' (.anyOf groups operator) (.anyOf groups' operator')

namespace Record

variable {E : Environment} {h h' : Heap}

/-! ## Comparisons -/

theorem mirrors_addCondition (kind : ConditionKind) {f f' : Fragment} (htext : f.text = f'.text) :
    Mirrors (Scope.Alike h h') (fun _ _ => True) (addCondition kind f : Record.Action E Unit)
      (addCondition kind f') := by
  refine mirrors_changeQuery (fun q q' hq => ?_) fun q => by cases kind <;> rfl
  cases kind with
  | whereClause =>
      refine { hq with wheres := ?_ }
      simp only [Query.addCondition, List.map_append, List.map_cons, List.map_nil, hq.wheres, htext]
  | havingClause =>
      refine { hq with havings := ?_ }
      simp only [Query.addCondition, List.map_append, List.map_cons, List.map_nil, hq.havings, htext]

theorem isEmpty_eq_of_map_eq {α β : Type} {f : α → β} {xs ys : List α} (hmap : xs.map f = ys.map f) :
    xs.isEmpty = ys.isEmpty := by
  rw [← List.isEmpty_map (f := f), hmap, List.isEmpty_map]

theorem mirrors_qualified {column column' : Value} (hcolumn : h.Same h' column column') :
    Mirrors (Scope.Alike h h') (h.Same h') (qualified column : Record.Action E Value) (qualified column') := by
  refine mirrors_bindCurrent fun r r' hr => ?_
  dsimp only
  rw [isEmpty_eq_of_map_eq hr.query.joins]
  split
  · exact Mirrors.pure hcolumn
  · have hdot : Mirrors (Scope.Alike h h') Eq
        (inHeap (Heap.contains (.text ".") column) : Record.Action E Bool) (inHeap (Heap.contains (.text ".") column')) :=
      mirrors_looking fun g g' hg hg' => (hcolumn.retain hg.retains hg'.retains).mirrors_contains_text "."
    refine Mirrors.bindEq hdot fun found => ?_
    split
    · exact Mirrors.pure hcolumn
    · refine Mirrors.bindEq (mirrors_displayed hr.query.source) fun source => ?_
      exact Mirrors.bindEq (mirrors_displayed hcolumn) fun shown => Mirrors.pure (.text _)

theorem mirrors_compareAll (kind : ConditionKind) (operator : String) {pairs pairs' : List (Value × Value)}
    (hpairs : List.Forall₂ (fun e e' => h.Same h' e.1 e'.1) pairs pairs') :
    Mirrors (Scope.Alike h h') (fun _ _ => True) (compareAll kind operator pairs : Record.Action E Unit)
      (compareAll kind operator pairs') := by
  refine Mirrors.forM hpairs fun e e' he => ?_
  refine Mirrors.bind (mirrors_qualified he) fun column column' hcolumn => ?_
  refine Mirrors.bindEq (mirrors_quote hcolumn) fun quoted => ?_
  exact mirrors_bindHeap fun g g' _ _ => mirrors_addCondition kind rfl

theorem mirrors_columnsWith {column column' value value' : Value} (hcolumn : h.Same h' column column') :
    Mirrors (Scope.Alike h h') (List.Forall₂ fun e e' => h.Same h' e.1 e'.1)
      (columnsWith column value : Record.Action E (List (Value × Value))) (columnsWith column' value') := by
  refine mirrors_bindHeap fun g g' hg hg' => Mirrors.pure ?_
  have hentries := hcolumn.entries?
  rw [hg.entries?, hg'.entries?]
  cases hv : h.entries? column <;> cases hv' : h'.entries? column' <;> rw [hv, hv'] at hentries
  · exact .cons hcolumn .nil
  · cases hentries
  · cases hentries
  · cases hentries with
    | some hentries => exact hentries.imp fun _ _ he => he.key

theorem mirrors_columnsWith_of_sameKeys {columns columns' value value' : Value} (hcolumns : h.SameKeys h' columns columns') :
    Mirrors (Scope.Alike h h') (List.Forall₂ fun e e' => h.Same h' e.1 e'.1)
      (columnsWith columns value : Record.Action E (List (Value × Value))) (columnsWith columns' value') := by
  obtain ⟨entries, entries', hentries, hentries', hkeys⟩ := hcolumns
  refine mirrors_bindHeap fun g g' hg hg' => Mirrors.pure ?_
  rw [hg.entries?, hg'.entries?, hentries, hentries']
  exact List.forall₂_map_left_iff.1 (List.forall₂_map_right_iff.1 hkeys)

/-! ## Membership -/

/-- Names that are texts are no positions. -/
theorem perform_contains_position {names : List Value} (hnames : ∀ v ∈ names, ∃ name, v = .text name) (k : Int)
    (g : Heap) : (Heap.contains (.int k) (.list names)).perform g = (.ok false, g) := by
  have hseek : (g.seek (.int k) names).2 = .ok false := by
    induction names with
    | nil => rfl
    | cons v rest ih =>
        obtain ⟨⟨name, rfl⟩, hrest⟩ := List.forall_mem_cons.1 hnames
        have hne : g.equal? (.text name) (.int k) = .ok false := rfl
        rw [Heap.seek, hne]
        exact ih hrest
  have hget : (get : Step Heap Heap).perform g = (.ok g, g) := rfl
  rw [Heap.contains, Step.perform_bind_ok hget]
  show (Heap.isAmong (.int k) (.list names) names).perform g = _
  rw [Heap.isAmong, Step.perform_bind_ok hget]
  dsimp only
  rw [hseek]
  rfl

/-- The right-hand sides of candidates that are all bound. -/
def boundAll (values : List Value) : Placeholders := .ofTerms (values.map Term.bound)

theorem text_boundAll_eq {values values' : List Value} (hlength : values.length = values'.length) :
    (boundAll values).text = (boundAll values').text := by
  have htexts : ∀ values : List Value, (values.map Term.bound).map Term.text = List.replicate values.length "?" := by
    intro values
    rw [List.map_map]
    exact List.map_const'
  rw [boundAll, boundAll, Placeholders.ofTerms, Placeholders.ofTerms, htexts, htexts, hlength]

/-- Candidates that are all bound, under names that are no texts that stand for SQL. -/
theorem perform_placeholders {names : List Value} (hnames : ∀ v ∈ names, ∃ name, v = .text name)
    {fields : List (Value × Value)} (hfields : ∀ e ∈ fields, ∃ k : Int, e.1 = .int k) (g : Heap) :
    (placeholders (.list names) fields).perform g = (.ok (boundAll (fields.map (·.2))), g) := by
  let term (e : Value × Value) : Step Heap Term := do
    if ← Heap.contains e.1 (.list names) then return .inlined ((← get).settle e.2).display else return .bound e.2
  have hterms : ∀ fields : List (Value × Value), (∀ e ∈ fields, ∃ k : Int, e.1 = .int k) →
      (fields.mapM term).perform g = (.ok (fields.map fun e => .bound e.2), g) := by
    intro fields hfields
    induction fields with
    | nil =>
        rw [List.mapM_nil]
        rfl
    | cons e rest ih =>
        obtain ⟨⟨k, hk⟩, hrest⟩ := List.forall_mem_cons.1 hfields
        have hfirst : (term e).perform g = (.ok (.bound e.2), g) := by
          show (Heap.contains e.1 (.list names) >>= fun found => _).perform g = _
          rw [hk, Step.perform_bind_ok (perform_contains_position hnames k g)]
          rfl
        rw [List.mapM_cons, Step.perform_bind_ok hfirst, Step.perform_bind_ok (ih hrest)]
        rfl
  show (do return .ofTerms (← fields.mapM term) : Step Heap Placeholders).perform g = _
  rw [Step.perform_bind_ok (hterms fields hfields), boundAll, List.map_map]
  rfl

/-- The candidates of a sequence are its items, in their positions. -/
theorem perform_candidates_of_isSequenceOf {g : Heap} {v : Value} {items : List Value} (hv : g.IsSequenceOf v items) :
    (candidates v).perform g = (.ok (items.mapIdx fun k item => (.int k, item)), g) := by
  have hget : (get : Step Heap Heap).perform g = (.ok g, g) := rfl
  have hiterable : g.isIterable v = true := by rw [Heap.isIterable, hv.items?_eq]; rfl
  have hfields : (fieldsOf v).perform g = (.ok (items.mapIdx fun k item => (.int k, item)), g) := by
    rw [fieldsOf, Step.perform_bind_ok hget, hv.entries?_eq]
    dsimp only
    rw [Step.perform_bind_ok hv.perform_items]
    rfl
  rw [candidates, Step.perform_bind_ok hget, hiterable, if_pos rfl]
  rcases hv with heq | heq
  · rw [heq]
    exact hfields
  · rw [heq]
    exact hfields

theorem perform_candidates_of_isSole {g : Heap} {v : Value} (hv : g.IsSole v) :
    (candidates v).perform g = (.ok [(.int 0, v)], g) := by
  have hget : (get : Step Heap Heap).perform g = (.ok g, g) := rfl
  rw [candidates, Step.perform_bind_ok hget]
  rw [Heap.IsSole] at hv
  split
  · rfl
  · rfl
  · rfl
  · rename_i h₁ h₂ h₃
    split at hv
    · exact absurd ‹_› (h₁ _)
    · exact absurd ‹_› (h₂ _)
    · exact absurd ‹_› (h₃ _)
    · rw [hv]
      rfl

/-- As many candidates are written as the same text. -/
theorem endAlike_placeholders {names : List Value} (hnames : ∀ v ∈ names, ∃ name, v = .text name) {g g' : Heap}
    {v v' : Value} (hcount : g.SameCount g' v v') :
    EndAlike (Heap.Drained g g') (fun p p' => p.text = p'.text)
      ((do placeholders (.list names) (← candidates v) : Step Heap Placeholders).perform g)
      ((do placeholders (.list names) (← candidates v') : Step Heap Placeholders).perform g') := by
  have hpositions : ∀ items : List Value, ∀ e ∈ items.mapIdx fun k item => (Value.int k, item), ∃ k : Int, e.1 = .int k := by
    intro items e he
    obtain ⟨k, hk, rfl⟩ := List.mem_mapIdx.1 he
    exact ⟨k, rfl⟩
  have hdrained : Heap.Drained g g' g g' := ⟨Heap.Drains.refl _, Heap.Drains.refl _⟩
  cases hcount with
  | sole hv hv' =>
      rw [Step.perform_bind_ok (perform_candidates_of_isSole hv), Step.perform_bind_ok (perform_candidates_of_isSole hv'),
        perform_placeholders hnames (by simp), perform_placeholders hnames (by simp)]
      exact ⟨rfl, hdrained⟩
  | @sequence items items' hv hv' hlength =>
      rw [Step.perform_bind_ok (perform_candidates_of_isSequenceOf hv),
        Step.perform_bind_ok (perform_candidates_of_isSequenceOf hv'),
        perform_placeholders hnames (hpositions items), perform_placeholders hnames (hpositions items')]
      exact ⟨text_boundAll_eq (by simp [hlength]), hdrained⟩

theorem mirrors_amongAll (kind : ConditionKind) (operator : String) {names : List Value}
    (hnames : ∀ v ∈ names, ∃ name, v = .text name) {pairs pairs' : List (Value × Value)}
    (hpairs : List.Forall₂ (fun e e' => h.Same h' e.1 e'.1 ∧ h.SameCount h' e.2 e'.2) pairs pairs') :
    Mirrors (Scope.Alike h h') (fun _ _ => True)
      (amongAll kind operator (.list names) pairs : Record.Action E Unit) (amongAll kind operator (.list names) pairs') := by
  refine Mirrors.forM hpairs fun e e' ⟨hcolumn, hcount⟩ => ?_
  refine Mirrors.bind (mirrors_inHeap fun g g' hg hg' =>
    endAlike_placeholders hnames (hcount.of_isLike hg hg')) fun written written' htext => ?_
  refine Mirrors.bindEq (mirrors_quote hcolumn) fun quoted => mirrors_addCondition kind ?_
  rw [Fragment.membership, Fragment.membership, htext]

/-! ## Tests -/

theorem mirrors_testedColumns {column column' : Value} (hcolumn : h.Same h' column column') :
    Mirrors (Scope.Alike h h') (List.Forall₂ (h.Same h')) (testedColumns column : Record.Action E (List Value))
      (testedColumns column') := by
  rw [testedColumns, testedColumns, hcolumn.asText?_eq]
  split
  · exact Mirrors.pure (.cons hcolumn .nil)
  · exact mirrors_items hcolumn

/-! ## Groups -/

theorem mirrors_operatorFor {operator operator' column column' : Value} (hoperator : h.Same h' operator operator')
    (hcolumn : h.Same h' column column') :
    Mirrors (Scope.Alike h h') Eq (operatorFor operator column : Record.Action E String)
      (operatorFor operator' column') := by
  refine mirrors_bindHeap fun g g' hg hg' => ?_
  cases hoperator.form with
  | atom hatom =>
      rw [Heap.content_of_isAtom g hatom, Heap.content_of_isAtom g' hatom]
      cases operator with
      | list | tuple | map | stream | ref | tupleAt => exact hatom.elim
      | text => exact Mirrors.pure rfl
      | style => exact mirrors_displayed (.atom trivial)
      | _ => exact Mirrors.throw _
  | list hv hv' =>
      rw [(hg.retains _ _ hv).content_list, (hg'.retains _ _ hv').content_list]
      exact Mirrors.throw _
  | tuple hv hv' =>
      rw [(hg.retains _ _ hv).content_tuple, (hg'.retains _ _ hv').content_tuple]
      exact Mirrors.throw _
  | map hv hv' hentries =>
      rw [(hg.retains _ _ hv).content_map, (hg'.retains _ _ hv').content_map]
      refine Mirrors.bind (mirrors_looking fun f f' hf hf' =>
        hcolumn.mirrors_entryOf? hentries hf.retains hf'.retains) fun found found' hfound => ?_
      cases hfound with
      | some hword => exact mirrors_displayed hword
      | none => exact Mirrors.pure rfl

theorem mirrors_groupComparison {operator operator' : Value} (hoperator : h.Same h' operator operator')
    {e e' : Value × Value} (he : h.Same h' e.1 e'.1) :
    Mirrors (Scope.Alike h h') (fun c c' => c.words = c'.words)
      (groupComparison operator e : Record.Action E Comparison) (groupComparison operator' e') := by
  refine Mirrors.bindEq (mirrors_operatorFor hoperator he) fun word => ?_
  exact Mirrors.bindEq (mirrors_quote he) fun quoted => Mirrors.pure rfl

theorem text_anyOf_eq {groups groups' : List (List Comparison)}
    (hgroups : List.Forall₂ (List.Forall₂ fun c c' => c.words = c'.words) groups groups') :
    (Fragment.anyOf groups).text = (Fragment.anyOf groups').text := by
  have hwords : groups.map Fragment.groupWords = groups'.map Fragment.groupWords := by
    induction hgroups with
    | nil => rfl
    | cons hfirst _ ih =>
        have hgroup : ∀ {group group' : List Comparison}, List.Forall₂ (fun c c' => c.words = c'.words) group group' →
            group.map Comparison.words = group'.map Comparison.words := by
          intro group group' hall
          induction hall with
          | nil => rfl
          | cons hword _ ih => rw [List.map_cons, List.map_cons, hword, ih]
        rw [List.map_cons, List.map_cons, ih, Fragment.groupWords, Fragment.groupWords, hgroup hfirst]
  rw [Fragment.anyOf, Fragment.anyOf, hwords]

theorem mirrors_groupEntries {group group' : Value} (hgroup : h.SameKeys h' group group') :
    Mirrors (Scope.Alike h h') (List.Forall₂ fun e e' => h.Same h' e.1 e'.1)
      (groupEntries group : Record.Action E (List (Value × Value))) (groupEntries group') := by
  obtain ⟨entries, entries', hentries, hentries', hkeys⟩ := hgroup
  refine mirrors_bindHeap fun g g' hg hg' => ?_
  rw [hg.entries?, hg'.entries?, hentries, hentries']
  exact Mirrors.pure (List.forall₂_map_left_iff.1 (List.forall₂_map_right_iff.1 hkeys))

theorem mirrors_anyOfGroups (kind : ConditionKind) {groups groups' : List (List (Value × Value))}
    (hgroups : List.Forall₂ (List.Forall₂ fun e e' => h.Same h' e.1 e'.1) groups groups') :
    Mirrors (Scope.Alike h h') (fun _ _ => True) (anyOfGroups kind groups : Record.Action E Unit)
      (anyOfGroups kind groups') := by
  refine Mirrors.bind (Mirrors.mapM hgroups fun group group' hgroup => Mirrors.mapM hgroup fun e e' he =>
    mirrors_groupComparison (.text "=") he) fun written written' hwritten => ?_
  exact mirrors_addCondition kind (text_anyOf_eq hwritten)

/-! ## All calls -/

/-- **Alike calls add conditions with the same texts.** -/
theorem mirrors_condition (kind : ConditionKind) {call call' : ConditionCall}
    (hcall : ConditionCall.Alike h h' call call') :
    Mirrors (Scope.Alike h h') (fun _ _ => True) (condition kind call : Record.Action E Unit)
      (condition kind call') := by
  cases hcall with
  | verbatim htext => exact mirrors_bindHeap fun g g' _ _ => mirrors_addCondition kind htext.ofValue_eq
  | compare hcolumn =>
      exact Mirrors.bind (mirrors_columnsWith hcolumn) fun _ _ hpairs => mirrors_compareAll kind _ hpairs
  | compareEach hcolumns =>
      exact Mirrors.bind (mirrors_columnsWith_of_sameKeys hcolumns) fun _ _ hpairs =>
        mirrors_compareAll kind _ hpairs
  | check hcolumn =>
      refine Mirrors.bind (mirrors_testedColumns hcolumn) fun _ _ hcolumns => ?_
      refine Mirrors.forM hcolumns fun column column' hcolumn => ?_
      exact Mirrors.bindEq (mirrors_quote hcolumn) fun quoted => mirrors_addCondition kind rfl
  | anyOf hgroups hgroups' hall hoperator =>
      refine mirrors_bindHeap fun g g' hg hg' => ?_
      rw [(hgroups.of_isLike hg).items?_eq, (hgroups'.of_isLike hg').items?_eq]
      refine Mirrors.bind (R := List.Forall₂ (List.Forall₂ fun c c' => c.words = c'.words)) ?_
        fun written written' hwritten => mirrors_addCondition kind (text_anyOf_eq hwritten)
      refine Mirrors.mapM hall fun group group' hgroup => ?_
      refine Mirrors.bind (R := fun _ _ => True) (mirrors_looking fun f f' hf hf' => ?_) fun _ _ _ => ?_
      · rintro _ _ ⟨rfl, rfl⟩
        rw [(hgroups.of_isLike hf).perform_skip, (hgroups'.of_isLike hf').perform_skip]
        exact ⟨trivial, rfl, rfl⟩
      · refine Mirrors.bind (mirrors_groupEntries hgroup) fun _ _ hentries => ?_
        exact Mirrors.mapM hentries fun e e' he => mirrors_groupComparison hoperator he

end Record

end FluentSql
