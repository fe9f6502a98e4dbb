import FluentSql.Proofs.Record.AlikeConditions
import FluentSql.Record.Build
/-
# FluentSql.Proofs.Record.AlikeBuilding — builder calls that differ in the values they bind only.

Two builder calls are alike if they are the same but for the values that they bind: names, expressions, limits and
offsets are the same data. Lists of candidates have one length, and groups of comparisons have the same columns
(`BuilderCall.Alike`). Alike calls leave alike records alike (`endAlike_build`).
-/

namespace FluentSql

open Step (EndAlike Mirrors)

/-! ## Alike calls -/

namespace Heap

/-- The values are mappings or records, so that a compound key can be taken from both. -/
inductive BothHoldParts (h h' : Heap) : Value → Value → Prop
  | maps {v v' entries entries'} : h.entries? v = some entries → h'.entries? v' = some entries' →
      BothHoldParts h h' v v'
  | records {id id' r r'} : h.cell? id = some (.record r) → h'.cell? id' = some (.record r') →
      BothHoldParts h h' (.ref id) (.ref id')

/-- The values are null or can be gone through. -/
def BothHoldParams (h h' : Heap) (v v' : Value) : Prop :=
  (v.isNull = true ∨ h.isIterable v = true) ∧ (v'.isNull = true ∨ h'.isIterable v' = true)

/-- The values are mappings with the same keys to as many candidates each. -/
def SameCounts (h h' : Heap) (v v' : Value) : Prop :=
  ∃ entries entries', h.entries? v = some entries ∧ h'.entries? v' = some entries' ∧
    List.Forall₂ (fun e e' => h.Same h' e.1 e'.1 ∧ h.SameCount h' e.2 e'.2) entries entries'

theorem entries?_of_asText? (h : Heap) {v : Value} (hv : v.asText?.isSome) : h.entries? v = none := by
  cases v <;> first | rfl | cases hv

theorem BothHoldParts.of_isLike {h h' g g' : Heap} {v v' : Value} (hv : h.BothHoldParts h' v v') (hg : h.IsLike g)
    (hg' : h'.IsLike g') : g.BothHoldParts g' v v' := by
  have hstays : ∀ {h g : Heap} {id : Nat} {r : Record}, h.IsLike g → h.cell? id = some (.record r) →
      ∃ r', g.cell? id = some (.record r') := by
    intro h g id r hl hcell
    rcases hl id with heq | ⟨rest, _, hrest, -⟩ | ⟨_, r', -, hr'⟩
    · exact ⟨r, heq.trans hcell⟩
    · rw [hcell] at hrest
      cases hrest
    · exact ⟨r', hr'⟩
  cases hv with
  | maps hmap hmap' => exact .maps ((hg.entries? _).trans hmap) ((hg'.entries? _).trans hmap')
  | records hrecord hrecord' =>
      obtain ⟨r, hr⟩ := hstays hg hrecord
      obtain ⟨r', hr'⟩ := hstays hg' hrecord'
      exact .records hr hr'

end Heap

/-- The key has several columns, or is given as a list at least. -/
def KeyColumns.IsCompound (key : KeyColumns) : Prop := ∃ columns, key = .compound columns

/-- Builder calls that are written alike, for a record with a given key. What they bind may differ. -/
inductive BuilderCall.Alike (h h' : Heap) (key : KeyColumns) : BuilderCall → BuilderCall → Prop
  | select {column column' asName asName'} : h.Same h' column column' → h.Same h' asName asName' →
      Alike h h' key (.select column asName) (.select column' asName')
  | selectExpr {text text' asName asName'} : h.Same h' text text' → h.Same h' asName asName' →
      Alike h h' key (.selectExpr text asName) (.selectExpr text' asName')
  | selectMany {columns columns'} : List.Forall₂ (h.Same h') columns columns' →
      Alike h h' key (.selectMany columns) (.selectMany columns')
  | selectManyExpr {texts texts'} : List.Forall₂ (h.Same h') texts texts' →
      Alike h h' key (.selectManyExpr texts) (.selectManyExpr texts')
  | distinct : Alike h h' key .distinct .distinct
  | tableAlias {asName asName'} : h.Same h' asName asName' → Alike h h' key (.tableAlias asName) (.tableAlias asName')
  | join {kind table table' constraint constraint' asName asName'} : h.Same h' table table' →
      h.Same h' constraint constraint' → h.Same h' asName asName' →
      Alike h h' key (.join kind table constraint asName) (.join kind table' constraint' asName')
  | rawJoin {table table' constraint constraint' asName asName' params params'} : h.Same h' table table' →
      h.Same h' constraint constraint' → h.Same h' asName asName' →
      h.isIterable params = true → h'.isIterable params' = true →
      Alike h h' key (.rawJoin table constraint asName params) (.rawJoin table' constraint' asName' params')
  | condition {kind call call'} : ConditionCall.Alike h h' call call' →
      Alike h h' key (.condition kind call) (.condition kind call')
  | among {kind operator column column' values values'} : h.Same h' column column' → h.entries? column = none →
      h.SameCount h' values values' →
      Alike h h' key (.among kind operator column values) (.among kind operator column' values')
  | amongEach {kind operator columns columns' values values'} : h.SameCounts h' columns columns' →
      Alike h h' key (.among kind operator columns values) (.among kind operator columns' values')
  | keyIs {kind id id'} : (key.IsCompound → h.BothHoldParts h' id id') →
      Alike h h' key (.keyIs kind id) (.keyIs kind id')
  | keyIn {ids ids' all all'} : h.IsSequenceOf ids all → h'.IsSequenceOf ids' all' → all.length = all'.length →
      (key.IsCompound → List.Forall₂ (h.BothHoldParts h') all all') → Alike h h' key (.keyIn ids) (.keyIn ids')
  | groupBy {column column'} : h.Same h' column column' → Alike h h' key (.groupBy column) (.groupBy column')
  | groupByExpr {text text'} : h.Same h' text text' → Alike h h' key (.groupByExpr text) (.groupByExpr text')
  | orderBy {column column' descending} : h.Same h' column column' →
      Alike h h' key (.orderBy column descending) (.orderBy column' descending)
  | orderByExpr {text text'} : h.Same h' text text' → Alike h h' key (.orderByExpr text) (.orderByExpr text')
  | limit {n n'} : h.Same h' n n' → Alike h h' key (.limit n) (.limit n')
  | offset {n n'} : h.Same h' n n' → Alike h h' key (.offset n) (.offset n')
  | raw {text params params'} : h.BothHoldParams h' params params' →
      Alike h h' key (.raw text params) (.raw text params')

namespace Record

variable {E : Environment} {h h' : Heap} {s s' : Scope E}

/-! ## Result columns -/

theorem mirrors_addColumn {column column' : Piece} (hcolumn : column = column') :
    Mirrors (Scope.Alike h h') (fun _ _ => True) (changeQuery (·.addColumn column) : Record.Action E Unit)
      (changeQuery (·.addColumn column')) := by
  subst hcolumn
  refine mirrors_changeQuery (fun q q' hq => ?_) fun q => by rw [Query.addColumn]; split <;> rfl
  rw [Query.addColumn, Query.addColumn, ← hq.usesDefaultColumns, ← hq.columns]
  split <;> exact { hq with columns := rfl, usesDefaultColumns := rfl }

theorem mirrors_addNamed (column : String) {asName asName' : Value} (hname : h.Same h' asName asName') :
    Mirrors (Scope.Alike h h') (fun _ _ => True) (addNamed column asName : Record.Action E Unit)
      (addNamed column asName') :=
  Mirrors.bindEq (mirrors_quote hname) fun _ => mirrors_addColumn rfl

theorem mirrors_select {column column' asName asName' : Value} (hcolumn : h.Same h' column column')
    (hname : h.Same h' asName asName') :
    Mirrors (Scope.Alike h h') (fun _ _ => True) (select column asName : Record.Action E Unit)
      (select column' asName') := by
  refine Mirrors.bindEq (mirrors_quote hcolumn) fun quoted => ?_
  rw [hname.isNull_eq]
  split
  · exact mirrors_addColumn rfl
  · exact mirrors_addNamed quoted hname

theorem mirrors_selectExpr {text text' asName asName' : Value} (htext : h.Same h' text text')
    (hname : h.Same h' asName asName') :
    Mirrors (Scope.Alike h h') (fun _ _ => True) (selectExpr text asName : Record.Action E Unit)
      (selectExpr text' asName') := by
  rw [selectExpr, selectExpr, hname.isNull_eq]
  split
  · exact mirrors_addColumn htext.ofValue_eq
  · exact Mirrors.bindEq (mirrors_displayed htext) fun written => mirrors_addNamed written hname

/-- The columns that an argument names are the same, and so are their aliases. -/
theorem mirrors_columnsOf {g g' : Heap} (hg : h.IsLike g) (hg' : h'.IsLike g') {argument argument' : Value}
    (hsame : h.Same h' argument argument') :
    Mirrors (Heap.At g g') (List.Forall₂ fun e e' => h.Same h' e.1 e'.1 ∧ h.Same h' e.2 e'.2)
      (columnsOf argument) (columnsOf argument') := by
  refine Heap.mirrors_bindGet ?_
  have hentries := hsame.entries?
  rw [← hsame.asText?_eq, hg.entries?, hg'.entries?]
  cases argument.asText? with
  | some _ => exact Mirrors.pure (.cons ⟨hsame, .atom trivial⟩ .nil)
  | none =>
      cases hv : h.entries? argument <;> cases hv' : h'.entries? argument' <;> rw [hv, hv'] at hentries
      · refine Mirrors.bind (hsame.mirrors_items hg.retains hg'.retains) fun columns columns' hcolumns => Mirrors.pure ?_
        exact List.forall₂_map_left_iff.2 (List.forall₂_map_right_iff.2 (hcolumns.imp fun _ _ hcolumn =>
          ⟨hcolumn, .atom trivial⟩))
      · cases hentries
      · cases hentries
      · cases hentries with
        | some hentries =>
            exact Mirrors.pure (List.forall₂_map_left_iff.2 (List.forall₂_map_right_iff.2 (hentries.imp fun _ _ he =>
              ⟨he.value, he.key⟩)))

theorem mirrors_allColumnsOf {arguments arguments' : List Value}
    (hsame : List.Forall₂ (h.Same h') arguments arguments') :
    Mirrors (Scope.Alike h h') (List.Forall₂ fun e e' => h.Same h' e.1 e'.1 ∧ h.Same h' e.2 e'.2)
      (allColumnsOf arguments : Record.Action E (List (Value × Value))) (allColumnsOf arguments') := by
  refine Mirrors.bind (mirrors_looking fun g g' hg hg' => Mirrors.mapM hsame fun _ _ harguments =>
    mirrors_columnsOf hg hg' harguments) fun named named' hnamed => Mirrors.pure ?_
  exact List.rel_flatten hnamed

/-! ## Joins -/

/-- Data are no stores, so their length is that of what they hold. -/
theorem perform_length {v v' : Value} (hsame : h.Same h' v v') {w : World E.State} (hw : h.Retains w.heap) :
    (Connection.length v : FluentSql.Action E Nat).perform w =
      ((liftM (w.heap.length? v) : FluentSql.Action E Nat).perform w) := by
  have hget : (get : FluentSql.Action E (World E.State)).perform w = (.ok w, w) := rfl
  have hcell : ∀ {cell}, w.heap.Opens v cell →
      (Connection.cacheBehind? v : FluentSql.Action E (Option CacheRef)).perform w = (.ok none, w) := by
    intro cell hopens
    cases hopens with
    | listAt hcell | mapAt hcell =>
        rw [Connection.cacheBehind?, Step.perform_bind_ok hget, hcell]
        rfl
    | _ => rfl
  have hnone : (Connection.cacheBehind? v : FluentSql.Action E (Option CacheRef)).perform w = (.ok none, w) := by
    cases hsame.form with
    | atom hatom => cases v <;> first | exact hatom.elim | rfl
    | list hv | tuple hv | map hv => exact hcell (hw _ _ hv)
  rw [Connection.length, Step.perform_bind_ok hnone]
  dsimp only
  rw [Step.perform_bind_ok hget]

theorem mirrors_length {v v' : Value} (hsame : h.Same h' v v') :
    Mirrors (Scope.Alike h h') Eq (inWorld (Connection.length v) : Record.Action E Nat)
      (inWorld (Connection.length v')) := by
  refine mirrors_inWorld fun connection settings g g' hg hg' w w' hw => ?_
  have hw₁ := hg.retains.trans hw.heap.isLike.retains
  have hw₂ := hg'.retains.trans hw.heap'.isLike.retains
  rw [perform_length hsame hw₁, perform_length hsame.symm hw₂, (hsame.retain hw₁ hw₂).length?_eq]
  exact Mirrors.lift _ (fun _ _ => rfl) w w' hw

theorem mirrors_joinConstraint {constraint constraint' : Value} (hsame : h.Same h' constraint constraint') :
    Mirrors (Scope.Alike h h') Eq (joinConstraint constraint : Record.Action E String)
      (joinConstraint constraint') := by
  rw [joinConstraint, joinConstraint, ← hsame.asText?_eq]
  split
  · rename_i htext
    rw [hsame.eq_of_asText? htext]
    exact Mirrors.pure rfl
  · refine Mirrors.bindEq (mirrors_length hsame) fun length => ?_
    dsimp only
    split
    · refine mirrors_bindHeap fun g g' hg hg' => ?_
      rw [(hsame.retain hg.retains hg'.retains).settle_eq]
      exact Mirrors.throw _
    · refine Mirrors.bind (mirrors_items hsame) fun items items' hitems => ?_
      -- Nothing but three items make a constraint.
      obtain _ | ⟨hfirst, _ | ⟨hoperator, _ | ⟨hsecond, _ | _⟩⟩⟩ := hitems
      case cons.cons.cons.nil =>
        refine Mirrors.bindEq (mirrors_quote hfirst) fun first => ?_
        refine Mirrors.bindEq (mirrors_displayed hoperator) fun operator => ?_
        exact Mirrors.bindEq (mirrors_quote hsecond) fun second => Mirrors.pure rfl
      all_goals exact Mirrors.throw _

theorem mirrors_joinTarget (table : String) {asName asName' : Value} (hname : h.Same h' asName asName') :
    Mirrors (Scope.Alike h h') Eq (joinTarget table asName : Record.Action E String) (joinTarget table asName') := by
  rw [joinTarget, joinTarget, hname.isNull_eq]
  split
  · exact Mirrors.pure rfl
  · exact Mirrors.bindEq (mirrors_quote hname) fun quoted => Mirrors.pure rfl

theorem mirrors_addJoin {f f' : Fragment} (htext : f.text = f'.text) :
    Mirrors (Scope.Alike h h') (fun _ _ => True) (changeQuery (·.addJoin f) : Record.Action E Unit)
      (changeQuery (·.addJoin f')) := by
  refine mirrors_changeQuery (fun q q' hq => { hq with joins := ?_ }) fun _ => rfl
  rw [Query.addJoin, Query.addJoin, List.map_append, List.map_append, hq.joins, List.map_cons, List.map_cons, htext]

theorem mirrors_join (kind : JoinKind) {table table' constraint constraint' asName asName' : Value}
    (htable : h.Same h' table table') (hconstraint : h.Same h' constraint constraint')
    (hname : h.Same h' asName asName') :
    Mirrors (Scope.Alike h h') (fun _ _ => True) (join kind table constraint asName : Record.Action E Unit)
      (join kind table' constraint' asName') := by
  refine Mirrors.bindEq (mirrors_quote htable) fun quoted => ?_
  refine Mirrors.bindEq (mirrors_joinTarget quoted hname) fun target => ?_
  exact Mirrors.bindEq (mirrors_joinConstraint hconstraint) fun condition => mirrors_addJoin rfl

/-- What can be gone through has items, whichever they are. -/
theorem exists_perform_items {g : Heap} {v : Value} (hv : g.isIterable v = true) :
    ∃ items g', (Heap.items v).perform g = (.ok items, g') ∧ g.Drains g' := by
  have hget : (get : Step Heap Heap).perform g = (.ok g, g) := rfl
  rw [Heap.isIterable] at hv
  cases hitems : g.items? v with
  | error failure => rw [hitems] at hv; cases hv
  | ok items =>
      have hlift : (liftM (Except.ok items : Except Failure (List Value)) : Step Heap (List Value)).perform g =
          (.ok items, g) := rfl
      obtain ⟨g', hskip, hdrains⟩ := Heap.exists_perform_skip g v items.length
      refine ⟨items, g', ?_, hdrains⟩
      rw [Heap.items, Step.perform_bind_ok hget, hitems, Step.perform_bind_ok hlift, Step.perform_bind_ok hskip]
      rfl

theorem endAlike_items {g g' : Heap} {v v' : Value} (hv : g.isIterable v = true) (hv' : g'.isIterable v' = true) :
    EndAlike (Heap.Drained g g') (fun _ _ => True) ((Heap.items v).perform g) ((Heap.items v').perform g') := by
  obtain ⟨items, f, hitems, hf⟩ := exists_perform_items hv
  obtain ⟨items', f', hitems', hf'⟩ := exists_perform_items hv'
  rw [hitems, hitems']
  exact ⟨trivial, hf, hf'⟩

theorem mirrors_rawJoin {table table' constraint constraint' asName asName' params params' : Value}
    (htable : h.Same h' table table') (hconstraint : h.Same h' constraint constraint')
    (hname : h.Same h' asName asName') (hparams : h.isIterable params = true)
    (hparams' : h'.isIterable params' = true) :
    Mirrors (Scope.Alike h h') (fun _ _ => True) (rawJoin table constraint asName params : Record.Action E Unit)
      (rawJoin table' constraint' asName' params') := by
  refine Mirrors.bindEq (mirrors_displayed htable) fun written => ?_
  refine Mirrors.bindEq (mirrors_joinTarget written hname) fun target => ?_
  refine Mirrors.bindEq (mirrors_joinConstraint hconstraint) fun condition => ?_
  refine Mirrors.bind (R := fun _ _ => True) (mirrors_inHeap fun g g' hg hg' => ?_) fun _ _ _ => mirrors_addJoin rfl
  exact endAlike_items (by rw [hg.isIterable_eq, hparams]) (by rw [hg'.isIterable_eq, hparams'])

/-! ## Grouping and ordering -/

theorem mirrors_addGroup {entry entry' : Piece} (hentry : entry = entry') :
    Mirrors (Scope.Alike h h') (fun _ _ => True) (changeQuery (·.addGroup entry) : Record.Action E Unit)
      (changeQuery (·.addGroup entry')) := by
  refine mirrors_changeQuery (fun q q' hq => { hq with groupBy := ?_ }) fun _ => rfl
  rw [Query.addGroup, Query.addGroup, hq.groupBy, hentry]

theorem mirrors_addOrder {entry entry' : Piece} (hentry : entry = entry') :
    Mirrors (Scope.Alike h h') (fun _ _ => True) (changeQuery (·.addOrder entry) : Record.Action E Unit)
      (changeQuery (·.addOrder entry')) := by
  refine mirrors_changeQuery (fun q q' hq => { hq with orderBy := ?_ }) fun _ => rfl
  rw [Query.addOrder, Query.addOrder, hq.orderBy, hentry]

/-! ## Everything else -/

theorem mirrors_distinct :
    Mirrors (Scope.Alike h h') (fun _ _ => True) (build .distinct : Record.Action E Unit) (build .distinct) := by
  rw [build]
  exact mirrors_changeQuery (fun _ _ hq => { hq with distinct := rfl }) fun _ => rfl

theorem mirrors_tableAlias {asName asName' : Value} (hname : h.Same h' asName asName') :
    Mirrors (Scope.Alike h h') (fun _ _ => True) (build (.tableAlias asName) : Record.Action E Unit)
      (build (.tableAlias asName')) := by
  rw [build, build]
  exact mirrors_changeQuery (fun _ _ hq => { hq with tableAlias := hname.toOption }) fun _ => rfl

theorem mirrors_limit {n n' : Value} (hn : h.Same h' n n') :
    Mirrors (Scope.Alike h h') (fun _ _ => True) (build (.limit n) : Record.Action E Unit) (build (.limit n')) := by
  rw [build, build]
  exact mirrors_changeQuery (fun _ _ hq => { hq with limit := hn.toOption }) fun _ => rfl

theorem mirrors_offset {n n' : Value} (hn : h.Same h' n n') :
    Mirrors (Scope.Alike h h') (fun _ _ => True) (build (.offset n) : Record.Action E Unit) (build (.offset n')) := by
  rw [build, build]
  exact mirrors_changeQuery (fun _ _ hq => { hq with offset := hn.toOption }) fun _ => rfl

theorem exists_perform_rawParams {g : Heap} {v : Value} (hv : v.isNull = true ∨ g.isIterable v = true) :
    ∃ params g', (rawParams v).perform g = (.ok params, g') ∧ g.Drains g' := by
  rw [rawParams]
  split
  · exact ⟨_, g, rfl, Heap.Drains.refl g⟩
  · rename_i hnull
    have hget : (get : Step Heap Heap).perform g = (.ok g, g) := rfl
    rw [Heap.params, Step.perform_bind_ok hget]
    cases g.entries? v with
    | some entries => exact ⟨_, g, rfl, Heap.Drains.refl g⟩
    | none =>
        obtain ⟨items, g', hitems, hdrains⟩ := exists_perform_items (hv.resolve_left hnull)
        dsimp only
        rw [Step.perform_bind_ok hitems]
        exact ⟨_, g', rfl, hdrains⟩

theorem mirrors_raw (text : Value) {params params' : Value} (hparams : h.BothHoldParams h' params params') :
    Mirrors (Scope.Alike h h') (fun _ _ => True) (build (.raw text params) : Record.Action E Unit)
      (build (.raw text params')) := by
  refine Mirrors.bind (R := fun _ _ => True) (mirrors_inHeap fun g g' hg hg' => ?_) fun _ _ _ =>
    mirrors_changeQuery (fun q q' hq => { hq with raw := rfl }) fun _ => rfl
  obtain ⟨taken, f, htaken, hf⟩ := exists_perform_rawParams (v := params) (by rw [hg.isIterable_eq]; exact hparams.1)
  obtain ⟨taken', f', htaken', hf'⟩ := exists_perform_rawParams (v := params') (by rw [hg'.isIterable_eq]; exact hparams.2)
  rw [htaken, htaken']
  exact ⟨trivial, hf, hf'⟩

/-! ## Membership -/

/-- The fields that are inlined are the same, and their names are texts. -/
theorem mirrors_inlinedFields :
    Mirrors (Scope.Alike h h') (fun v v' => v = v' ∧ ∃ names, v = .list names ∧ ∀ name ∈ names, ∃ s, name = .text s)
      (inlinedFields : Record.Action E Value) inlinedFields :=
  mirrors_bindCurrent fun r _ hr => Mirrors.pure
    ⟨congrArg Value.list hr.changes.inlined, r.changes.inlined, rfl, hr.changes.named⟩

theorem mirrors_among (kind : ConditionKind) (operator : String) {names : List Value}
    (hnames : ∀ v ∈ names, ∃ name, v = .text name) {column column' values values' : Value}
    (hcolumn : h.Same h' column column') (hnone : h.entries? column = none) (hcount : h.SameCount h' values values') :
    Mirrors (Scope.Alike h h') (fun _ _ => True)
      (condition kind (.among operator column values (.list names)) : Record.Action E Unit)
      (condition kind (.among operator column' values' (.list names))) := by
  have hnone' : h'.entries? column' = none := by
    have hentries := hcolumn.entries?
    rw [hnone] at hentries
    cases hv' : h'.entries? column' with
    | none => rfl
    | some _ => rw [hv'] at hentries; cases hentries
  refine mirrors_bindHeap fun g g' hg hg' => ?_
  rw [hg.entries?, hg'.entries?, hnone, hnone']
  refine Mirrors.bind (R := fun _ _ => True) (mirrors_looking fun f f' hf hf' => ?_) fun _ _ _ => ?_
  · exact (hcolumn.retain hf.retains hf'.retains).mirrors_requireKey.mono fun _ _ _ => trivial
  · refine Mirrors.bind (mirrors_bindHeap fun f f' hf hf' => ?_) fun _ _ hpairs =>
      mirrors_amongAll kind operator hnames hpairs
    rw [hf.entries?, hf'.entries?, hnone, hnone']
    exact Mirrors.pure (.cons ⟨hcolumn, hcount⟩ .nil)

theorem mirrors_amongEach (kind : ConditionKind) (operator : String) {names : List Value}
    (hnames : ∀ v ∈ names, ∃ name, v = .text name) {columns columns' values values' : Value}
    (hcounts : h.SameCounts h' columns columns') :
    Mirrors (Scope.Alike h h') (fun _ _ => True)
      (condition kind (.among operator columns values (.list names)) : Record.Action E Unit)
      (condition kind (.among operator columns' values' (.list names))) := by
  obtain ⟨entries, entries', hentries, hentries', hall⟩ := hcounts
  refine mirrors_bindHeap fun g g' hg hg' => ?_
  rw [hg.entries?, hg'.entries?, hentries, hentries']
  refine Mirrors.bind (mirrors_bindHeap fun f f' hf hf' => ?_) fun _ _ hpairs =>
    mirrors_amongAll kind operator hnames hpairs
  rw [hf.entries?, hf'.entries?, hentries, hentries']
  exact Mirrors.pure hall

/-! ## Parts of a key -/

/-- Columns that are the same, and that can be looked up by. -/
def SamePart (h h' : Heap) (e e' : Value × Value) : Prop := h.isKey e.1 = true ∧ h.Same h' e.1 e'.1

theorem put_samePart {column column' value value' : Value} (hkey : h.isKey column = true)
    (hcolumn : h.Same h' column column') {parts parts' : Row} (hparts : List.Forall₂ (SamePart h h') parts parts') :
    List.Forall₂ (SamePart h h') (Entries.put column value parts) (Entries.put column' value' parts') := by
  induction hparts with
  | nil => exact .cons ⟨hkey, hcolumn⟩ .nil
  | cons hfirst hrest ih =>
      rw [Entries.put, Entries.put, ← hfirst.2.beq_eq hfirst.1 hcolumn hkey]
      split
      · exact .cons hfirst hrest
      · exact .cons hfirst ih

/-- The same columns are repeated in the same places. -/
theorem ofPairs_samePart {pairs pairs' : Row} (hpairs : List.Forall₂ (SamePart h h') pairs pairs') :
    List.Forall₂ (SamePart h h') (Entries.ofPairs pairs) (Entries.ofPairs pairs') := by
  have hall : ∀ {pairs pairs' : Row}, List.Forall₂ (SamePart h h') pairs pairs' →
      ∀ {parts parts' : Row}, List.Forall₂ (SamePart h h') parts parts' →
        List.Forall₂ (SamePart h h') (Entries.putAll parts pairs) (Entries.putAll parts' pairs') := by
    intro pairs pairs' hpairs
    induction hpairs with
    | nil => exact fun hparts => hparts
    | cons hfirst _ ih => exact fun hparts => ih (put_samePart hfirst.1 hfirst.2 hparts)
  exact hall hpairs .nil

variable {g g' : Heap}

/-- What a row has under a column is looked up in the same way in all rows. -/
theorem mirrors_valueIn (hg : h.IsLike g) (hg' : h'.IsLike g') {column column' : Value}
    (hcolumn : h.Same h' column column') (row row' : Row) :
    Mirrors (Heap.At g g') (fun _ _ => True) (valueIn row column) (valueIn row' column') := by
  have hhere := hcolumn.retain hg.retains hg'.retains
  rw [valueIn, valueIn, hcolumn.asText?_eq]
  split
  · exact Mirrors.pure trivial
  · refine Mirrors.bind (R := fun _ _ => True) ?_ fun _ _ _ => Mirrors.pure trivial
    refine Mirrors.bind (R := fun _ _ => True) ?_ fun _ _ _ => Mirrors.pure trivial
    refine Heap.mirrors_bindGet (Mirrors.bind (hhere.mirrors_items? (.refl g) (.refl g')) fun items items' hitems => ?_)
    refine (Mirrors.mapM hitems (R := fun _ _ => True) fun item item' hitem => ?_).mono fun _ _ _ => trivial
    refine Mirrors.bind (hhere.mirrors_skip _ _) fun _ _ _ => ?_
    refine Mirrors.bind (R := fun _ _ => True) ?_ fun _ _ _ => Mirrors.pure trivial
    exact Mirrors.bind hitem.mirrors_requireKey fun _ _ _ => Mirrors.pure trivial

theorem mirrors_partOf (hg : h.IsLike g) (hg' : h'.IsLike g') {id id' column column' : Value}
    (hparts : h.BothHoldParts h' id id') (hcolumn : h.Same h' column column') :
    Mirrors (Heap.At g g') (fun _ _ => h.isKey column = true) (partOf id column) (partOf id' column') := by
  have hkey : Mirrors (Heap.At g g') (fun _ _ => h.isKey column = true) (Heap.requireKey column)
      (Heap.requireKey column') := by
    refine (hcolumn.retain hg.retains hg'.retains).mirrors_requireKey.mono fun _ _ hkey => ?_
    rw [← hcolumn.isKey_of_retains hg.retains, hkey]
  refine Heap.mirrors_bindGet ?_
  cases hparts.of_isLike hg hg' with
  | maps hmap hmap' =>
      rw [Heap.content_eq_map hmap, Heap.content_eq_map hmap']
      refine Mirrors.bind (R := fun _ _ => h.isKey column = true) ?_ fun _ _ hkey => Mirrors.pure hkey
      exact Mirrors.bind hkey fun _ _ hkey => Mirrors.pure hkey
  | @records number number' r r' hrecord hrecord' =>
      have hcontent : g.content (.ref number) = .ref number := by rw [Heap.content, hrecord]
      have hcontent' : g'.content (.ref number') = .ref number' := by rw [Heap.content, hrecord']
      rw [hcontent, hcontent']
      dsimp only
      rw [hrecord, hrecord']
      refine Mirrors.bind (mirrors_valueIn hg hg' hcolumn _ _) fun _ _ _ => ?_
      exact Mirrors.bind hkey fun _ _ hkey => Mirrors.pure hkey

theorem mirrors_keyParts (hg : h.IsLike g) (hg' : h'.IsLike g') {columns columns' : List Value}
    (hcolumns : List.Forall₂ (h.Same h') columns columns') {id id' : Value} (hparts : h.BothHoldParts h' id id') :
    Mirrors (Heap.At g g') (List.Forall₂ fun e e' => h.Same h' e.1 e'.1) (keyParts columns id)
      (keyParts columns' id') := by
  refine Mirrors.bind (Mirrors.mapM hcolumns (R := SamePart h h') fun column column' hcolumn => ?_)
    fun parts parts' hall => Mirrors.pure ((ofPairs_samePart hall).imp fun _ _ he => he.2)
  exact Mirrors.bind (mirrors_partOf hg hg' hparts hcolumn) fun _ _ hkey => Mirrors.pure ⟨hkey, hcolumn⟩

/-! ## The key -/

/-- What is known of the key of the record that acts is known of the key that is found. -/
theorem Scope.Alike.endAlike_bindKey (hs : Scope.Alike h h' s s') {P : KeyColumns → Prop} (hP : P s.key) {α β : Type}
    {R : α → β → Prop} {next : KeyColumns → Record.Action E α} {next' : KeyColumns → Record.Action E β}
    (hnext : ∀ k k', KeyColumns.Same h h' k k' → P k → Mirrors (Scope.Alike h h') R (next k) (next' k')) :
    EndAlike (Scope.Alike h h') R ((Record.key >>= next).perform s) ((Record.key >>= next').perform s') := by
  refine (hs.endAlike_key.mono (S := fun k k' => KeyColumns.Same h h' k k' ∧ P k) ?_ fun _ _ ht => ht).bind
    fun k k' hk => hnext k k' hk.1 hk.2
  rintro _ _ ⟨rfl, rfl⟩
  exact ⟨hs.same_key, hP⟩

theorem endAlike_keyIs (hs : Scope.Alike h h' s s') (kind : ConditionKind) {id id' : Value}
    (hparts : s.key.IsCompound → h.BothHoldParts h' id id') :
    EndAlike (Scope.Alike h h') (fun _ _ => True) ((keyIs kind id : Record.Action E Unit).perform s)
      ((keyIs kind id' : Record.Action E Unit).perform s') := by
  refine hs.endAlike_bindKey (P := fun k => k.IsCompound → h.BothHoldParts h' id id') hparts fun k k' hkey hparts => ?_
  cases hkey with
  | single hcolumn => exact mirrors_condition kind (.compare (.of_asText? hcolumn))
  | @compound columns columns' hcolumns =>
      refine Mirrors.bind (mirrors_looking fun g g' hg hg' => ?_) fun _ _ hpairs => mirrors_compareAll kind "=" hpairs
      exact mirrors_keyParts hg hg' hcolumns (hparts ⟨columns, rfl⟩)

theorem endAlike_keyIn (hs : Scope.Alike h h' s s') {ids ids' : Value} {all all' : List Value}
    (hids : h.IsSequenceOf ids all) (hids' : h'.IsSequenceOf ids' all') (hlength : all.length = all'.length)
    (hparts : s.key.IsCompound → List.Forall₂ (h.BothHoldParts h') all all') :
    EndAlike (Scope.Alike h h') (fun _ _ => True) ((keyIn ids : Record.Action E Unit).perform s)
      ((keyIn ids' : Record.Action E Unit).perform s') := by
  refine hs.endAlike_bindKey (P := fun k => k.IsCompound → List.Forall₂ (h.BothHoldParts h') all all') hparts
    fun k k' hkey hparts => ?_
  cases hkey with
  | single hcolumn =>
      refine Mirrors.bind (R := fun items items' => items = all ∧ items' = all')
        (mirrors_looking fun g g' hg hg' => ?_) ?_
      · rintro _ _ ⟨rfl, rfl⟩
        rw [(hids.of_isLike hg).perform_items, (hids'.of_isLike hg').perform_items]
        exact ⟨⟨rfl, rfl⟩, rfl, rfl⟩
      · rintro _ _ ⟨rfl, rfl⟩
        refine Mirrors.bind mirrors_inlinedFields ?_
        rintro _ _ ⟨rfl, names, rfl, hnames⟩
        exact mirrors_among .whereClause "IN" hnames (.of_asText? hcolumn) (Heap.entries?_of_asText? h hcolumn)
          (.sequence (.inl rfl) (.inl rfl) hlength)
  | @compound columns columns' hcolumns =>
      refine Mirrors.bind (mirrors_looking fun g g' hg hg' => ?_) fun _ _ hgroups =>
        mirrors_anyOfGroups .whereClause hgroups
      refine Heap.mirrors_bindGet ?_
      rw [(hids.of_isLike hg).items?_eq, (hids'.of_isLike hg').items?_eq]
      refine Mirrors.mapM (hparts ⟨columns, rfl⟩) fun id id' hid => ?_
      refine Mirrors.bind (R := fun _ _ => True) ?_ fun _ _ _ => mirrors_keyParts hg hg' hcolumns hid
      rintro _ _ ⟨rfl, rfl⟩
      rw [(hids.of_isLike hg).perform_skip, (hids'.of_isLike hg').perform_skip]
      exact ⟨trivial, rfl, rfl⟩

/-! ## All builder calls -/

/-- **Alike builder calls leave alike records alike.** -/
theorem endAlike_build (hs : Scope.Alike h h' s s') {call call' : BuilderCall}
    (hcall : BuilderCall.Alike h h' s.key call call') :
    EndAlike (Scope.Alike h h') (fun _ _ => True) ((build call : Record.Action E Unit).perform s)
      ((build call' : Record.Action E Unit).perform s') := by
  cases hcall with
  | select hcolumn hname => exact mirrors_select hcolumn hname s s' hs
  | selectExpr htext hname => exact mirrors_selectExpr htext hname s s' hs
  | selectMany hcolumns =>
      exact Mirrors.bind (mirrors_allColumnsOf hcolumns)
        (fun _ _ hnamed => Mirrors.forM hnamed fun _ _ he => mirrors_select he.1 he.2) s s' hs
  | selectManyExpr htexts =>
      exact Mirrors.bind (mirrors_allColumnsOf htexts)
        (fun _ _ hnamed => Mirrors.forM hnamed fun _ _ he => mirrors_selectExpr he.1 he.2) s s' hs
  | distinct => exact mirrors_distinct s s' hs
  | tableAlias hname => exact mirrors_tableAlias hname s s' hs
  | join htable hconstraint hname => exact mirrors_join _ htable hconstraint hname s s' hs
  | rawJoin htable hconstraint hname hparams hparams' =>
      exact mirrors_rawJoin htable hconstraint hname hparams hparams' s s' hs
  | condition hcall => exact mirrors_condition _ hcall s s' hs
  | among hcolumn hnone hcount =>
      refine Mirrors.bind mirrors_inlinedFields ?_ s s' hs
      rintro _ _ ⟨rfl, names, rfl, hnames⟩
      exact mirrors_among _ _ hnames hcolumn hnone hcount
  | amongEach hcounts =>
      refine Mirrors.bind mirrors_inlinedFields ?_ s s' hs
      rintro _ _ ⟨rfl, names, rfl, hnames⟩
      exact mirrors_amongEach _ _ hnames hcounts
  | keyIs hparts => exact endAlike_keyIs hs _ hparts
  | keyIn hids hids' hlength hparts => exact endAlike_keyIn hs hids hids' hlength hparts
  | groupBy hcolumn => exact Mirrors.bindEq (mirrors_quote hcolumn) (fun _ => mirrors_addGroup rfl) s s' hs
  | groupByExpr htext => exact mirrors_addGroup htext.ofValue_eq s s' hs
  | orderBy hcolumn => exact Mirrors.bindEq (mirrors_quote hcolumn) (fun _ => mirrors_addOrder rfl) s s' hs
  | orderByExpr htext => exact mirrors_addOrder htext.ofValue_eq s s' hs
  | limit hn => exact mirrors_limit hn s s' hs
  | offset hn => exact mirrors_offset hn s s' hs
  | raw hparams => exact mirrors_raw _ hparams s s' hs

end Record

end FluentSql
