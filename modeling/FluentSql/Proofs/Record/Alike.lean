import FluentSql.Proofs.Changes.Alike
import FluentSql.Proofs.Connection.Mirror
import FluentSql.Proofs.Record.Key
/-
# FluentSql.Proofs.Record.Alike — records that differ in the values they bind only.

Two records, each in its world, are alike if their queries have the same texts and their rows are alike. What is written
into statements, such as the limit or the alias of the table, is the same data then, and so is the key
(`Scope.Alike`). Alike records look at names and expressions alike: they quote and show the same (`mirrors_quote`,
`mirrors_displayed`), and find the same key (`mirrors_key`).
-/

namespace FluentSql

open Step (EndAlike Mirrors)

variable {h h' g g' : Heap}

/-! ## Keys -/

/-- Keys of the same columns. A key of one column is a text. -/
inductive KeyColumns.Same (h h' : Heap) : KeyColumns → KeyColumns → Prop
  | single {column} : column.asText?.isSome → Same h h' (.single column) (.single column)
  | compound {columns columns'} : List.Forall₂ (h.Same h') columns columns' →
      Same h h' (.compound columns) (.compound columns')

theorem KeyColumns.Same.columns {key key' : KeyColumns} (hkey : KeyColumns.Same h h' key key') :
    List.Forall₂ (h.Same h') key.columns key'.columns := by
  cases hkey with
  | single hcolumn => exact .cons (.of_asText? hcolumn) .nil
  | compound hcolumns => exact hcolumns

/-- The settings have a table of keys in both heaps, and the same key for a table. -/
structure Settings.HaveSameKey (h h' : Heap) (table : String) (s : Settings) : Prop where
  overrides : (h.entries? s.keyOverrides).isSome
  overrides' : (h'.entries? s.keyOverrides).isSome
  key : KeyColumns.Same h h' (s.keyOf h table) (s.keyOf h' table)

/-- The settings are the same as far as keys go. -/
def Settings.HasKeysOf (s t : Settings) : Prop := s.keyColumns = t.keyColumns ∧ s.keyOverrides = t.keyOverrides

theorem Settings.HasKeysOf.keyOf_eq {s t : Settings} (hst : s.HasKeysOf t) (h : Heap) (table : String) :
    s.keyOf h table = t.keyOf h table := by
  rw [keyOf, keyOf, hst.1, hst.2]

/-! ## Queries and records -/

/-- Queries that are written alike, but may bind different values. -/
structure Query.Alike (h h' : Heap) (q q' : Query) : Prop where
  table : q.table = q'.table
  tableAlias : Option.Rel (h.Same h') q.tableAlias q'.tableAlias
  columns : q.columns = q'.columns
  usesDefaultColumns : q.usesDefaultColumns = q'.usesDefaultColumns
  distinct : q.distinct = q'.distinct
  joins : q.joins.map Fragment.text = q'.joins.map Fragment.text
  wheres : q.wheres.map Fragment.text = q'.wheres.map Fragment.text
  havings : q.havings.map Fragment.text = q'.havings.map Fragment.text
  groupBy : q.groupBy = q'.groupBy
  orderBy : q.orderBy = q'.orderBy
  limit : Option.Rel (h.Same h') q.limit q'.limit
  offset : Option.Rel (h.Same h') q.offset q'.offset
  raw : q.raw.map Sql.text = q'.raw.map Sql.text

/-- Records that write alike statements, but may bind different values. -/
structure Record.Alike (h h' : Heap) (r r' : Record) : Prop where
  connection : r.connection = r'.connection
  query : Query.Alike h h' r.query r'.query
  changes : Changes.Alike h h' r.changes r'.changes
  ownKey : Option.Rel (KeyColumns.Same h h') r.ownKey r'.ownKey

theorem retain_rel {α : Type} {R S : α → α → Prop} {a a' : Option α} (ha : Option.Rel R a a')
    (hRS : ∀ a a', R a a' → S a a') : Option.Rel S a a' := by
  cases ha with
  | some ha => exact .some (hRS _ _ ha)
  | none => exact .none

theorem Query.Alike.retain {q q' : Query} (hq : Query.Alike h h' q q') (hg : h.Retains g) (hg' : h'.Retains g') :
    Query.Alike g g' q q' :=
  { hq with
    tableAlias := retain_rel hq.tableAlias fun _ _ hs => hs.retain hg hg'
    limit := retain_rel hq.limit fun _ _ hs => hs.retain hg hg'
    offset := retain_rel hq.offset fun _ _ hs => hs.retain hg hg' }

theorem Query.Alike.source {q q' : Query} (hq : Query.Alike h h' q q') : h.Same h' q.source q'.source := by
  have halias := hq.tableAlias
  rw [Query.source, Query.source, hq.table]
  cases hname : q.tableAlias <;> cases hname' : q'.tableAlias <;> rw [hname, hname'] at halias
  · exact .text _
  · cases halias
  · cases halias
  · cases halias with
    | some halias => exact halias

/-! ## Worlds -/

/-- Two worlds in the course of an action: nothing but streams has been used up since there were two other heaps, the
keys of a connection are those that it had, and apart from their heaps the worlds are the same. -/
structure World.Alike {σ : Type} (connection : String) (settings : Settings) (h h' : Heap) (w w' : World σ) :
    Prop where
  session : w.session = w'.session
  outside : w.outside = w'.outside
  keys : (w.session.settingsOf connection).HasKeysOf settings
  heap : h.Drains w.heap
  heap' : h'.Drains w'.heap

/-- Two heaps that differ from others in what is left of their streams at most. -/
def Heap.Drained (h h' g g' : Heap) : Prop := h.Drains g ∧ h'.Drains g'

namespace World.Alike

variable {σ : Type} {connection other : String} {settings : Settings} {w w' : World σ}

theorem change (hw : World.Alike connection settings h h' w w') (f : Session → Session)
    (hkeys : ((f w.session).settingsOf connection).HasKeysOf (w.session.settingsOf connection)) :
    World.Alike connection settings h h' { w with session := f w.session } { w' with session := f w'.session } :=
  ⟨congrArg f hw.session, hw.outside, ⟨hkeys.1.trans hw.keys.1, hkeys.2.trans hw.keys.2⟩, hw.heap, hw.heap'⟩

/-- Such worlds have in common what decides how any connection writes its statements. -/
theorem isCommon {E : Environment} (connection other : String) (settings : Settings) (h h' : Heap) :
    Connection.IsCommon other (fun _ => True) (Heap.Drained h h')
      (fun w w' : World E.State => World.Alike connection settings h h' w w') where
  sameSettings hw := by rw [hw.session]
  sameKnownDialects hw := by rw [hw.session]
  sameDriver hw := by rw [hw.session]
  owned _ _ := trivial
  sameDialect hw := by rw [hw.session]
  opens _ := Connection.mirrors_outside (fun hw => hw.outside)
    (fun _ hw => ⟨hw.session, rfl, hw.keys, hw.heap, hw.heap'⟩) fun _ _ _ _ => trivial
  sameHeap hw := ⟨hw.heap, hw.heap'⟩
  withHeap hw hh := ⟨hw.session, hw.outside, hw.keys, hh.1, hh.2⟩
  withDriver _ hw := hw.change _ ⟨rfl, rfl⟩
  withDialect D hw := hw.change _ ⟨rfl, rfl⟩
  withSettings {w w'} D hw := by
    refine hw.change (fun s => s.withSettings other ((s.settingsOf other).detecting D)) ?_
    by_cases hother : connection = other
    · subst hother
      rw [Session.settingsOf_withSettings_self]
      exact ⟨rfl, rfl⟩
    · rw [Session.settingsOf_withSettings_of_ne hother]
      exact ⟨rfl, rfl⟩

end World.Alike

/-! ## Scopes -/

namespace Record

variable {E : Environment} {α β : Type} {R : α → β → Prop} {s s' : Scope E}

/-- Two records that are alike as far as two heaps go, in worlds that differ in their heaps only. The heaps have
changed at most in their streams and records. -/
structure Scope.Alike (h h' : Heap) (s s' : Scope E) : Prop where
  record : Record.Alike h h' s.record s'.record
  configured : (s.world.session.settingsOf s.record.connection).HaveSameKey h h' s.record.table
  session : s.world.session = s'.world.session
  outside : s.world.outside = s'.world.outside
  heap : h.IsLike s.published.heap
  heap' : h'.IsLike s'.published.heap

/-- The worlds in which alike records act. -/
theorem Scope.Alike.published (hs : Scope.Alike h h' s s') :
    World.Alike s.record.connection (s.world.session.settingsOf s.record.connection) s.published.heap
      s'.published.heap s.published s'.published where
  session := by rw [session_published, session_published, hs.session]
  outside := by rw [outside_published, outside_published, hs.outside]
  keys := by
    rw [session_published]
    exact ⟨rfl, rfl⟩
  heap := Heap.Drains.refl _
  heap' := Heap.Drains.refl _

/-- Alike records come back alike from what they do in their worlds. -/
theorem Scope.Alike.renewed (hs : Scope.Alike h h' s s') {w w' : World E.State}
    (hw : World.Alike s.record.connection (s.world.session.settingsOf s.record.connection) s.published.heap
      s'.published.heap w w') : Scope.Alike h h' (s.renewed w) (s'.renewed w') := by
  obtain ⟨hrecord, -, hpublished⟩ := renewed_eq hw.heap
  obtain ⟨hrecord', -, hpublished'⟩ := renewed_eq hw.heap'
  refine ⟨?_, ?_, ?_, ?_, ?_, ?_⟩
  · rw [hrecord, hrecord']
    exact hs.record
  · rw [hrecord, world_renewed]
    have hkey := hs.configured
    refine ⟨hw.keys.2 ▸ hkey.overrides, hw.keys.2 ▸ hkey.overrides', ?_⟩
    rw [hw.keys.keyOf_eq, hw.keys.keyOf_eq]
    exact hkey.key
  · rw [world_renewed, world_renewed, hw.session]
  · rw [world_renewed, world_renewed, hw.outside]
  · rw [hpublished]
    exact hs.heap.trans hw.heap.isLike
  · rw [hpublished']
    exact hs.heap'.trans hw.heap'.isLike

theorem Scope.Alike.same_key (hs : Scope.Alike h h' s s') : KeyColumns.Same h h' s.key s'.key := by
  have hconfigured : KeyColumns.Same h h'
      ((s.world.session.settingsOf s.record.connection).keyOf s.published.heap s.record.table)
      ((s'.world.session.settingsOf s'.record.connection).keyOf s'.published.heap s'.record.table) := by
    rw [hs.heap.keyOf, hs.heap'.keyOf, ← hs.session, ← hs.record.connection, Record.table, Record.table,
      ← hs.record.query.table]
    exact hs.configured.key
  have hown := hs.record.ownKey
  rw [Scope.key, Scope.key]
  cases hr : s.record.ownKey <;> cases hr' : s'.record.ownKey <;> rw [hr, hr'] at hown
  · exact hconfigured
  · cases hown
  · cases hown
  · cases hown with
    | some hown => exact hown

/-! ## Looking and changing -/

theorem mirrors_bindCurrent {next : Record → Record.Action E α} {next' : Record → Record.Action E β}
    (hnext : ∀ r r', Record.Alike h h' r r' → Mirrors (Scope.Alike h h') R (next r) (next' r')) :
    Mirrors (Scope.Alike h h') R (current >>= next) (current >>= next') :=
  fun s s' hs => hnext _ _ hs.record s s' hs

theorem mirrors_bindHeap {next : Heap → Record.Action E α} {next' : Heap → Record.Action E β}
    (hnext : ∀ g g', h.IsLike g → h'.IsLike g' → Mirrors (Scope.Alike h h') R (next g) (next' g')) :
    Mirrors (Scope.Alike h h') R (heap >>= next) (heap >>= next') :=
  fun s s' hs => hnext _ _ hs.heap hs.heap' s s' hs

theorem Scope.Alike.change (hs : Scope.Alike h h' s s') {r r' : Record} (hr : Record.Alike h h' r r')
    (hconnection : r.connection = s.record.connection) (htable : r.table = s.record.table) :
    Scope.Alike h h' { s with record := r } { s' with record := r' } := by
  refine ⟨hr, ?_, hs.session, hs.outside, hs.heap.trans (s.isLike_published r),
    hs.heap'.trans (s'.isLike_published r')⟩
  show (s.world.session.settingsOf r.connection).HaveSameKey h h' r.table
  rw [hconnection, htable]
  exact hs.configured

theorem mirrors_change {f f' : Record → Record}
    (hf : ∀ r r', Record.Alike h h' r r' → Record.Alike h h' (f r) (f' r'))
    (hsame : ∀ r, (f r).connection = r.connection ∧ (f r).table = r.table) :
    Mirrors (Scope.Alike h h') (fun _ _ => True) (change f : Record.Action E Unit) (change f') :=
  Mirrors.modify fun s _ hs => hs.change (hf _ _ hs.record) (hsame s.record).1 (hsame s.record).2

theorem mirrors_changeQuery {f f' : Query → Query}
    (hf : ∀ q q', Query.Alike h h' q q' → Query.Alike h h' (f q) (f' q')) (htable : ∀ q, (f q).table = q.table) :
    Mirrors (Scope.Alike h h') (fun _ _ => True) (changeQuery f : Record.Action E Unit) (changeQuery f') :=
  mirrors_change (fun _ _ hr => ⟨hr.connection, hf _ _ hr.query, hr.changes, hr.ownKey⟩)
    fun r => ⟨rfl, htable r.query⟩

theorem mirrors_changeRow {f f' : Changes → Changes}
    (hf : ∀ c c', Changes.Alike h h' c c' → Changes.Alike h h' (f c) (f' c')) :
    Mirrors (Scope.Alike h h') (fun _ _ => True) (changeRow f : Record.Action E Unit) (changeRow f') :=
  mirrors_change (fun _ _ hr => ⟨hr.connection, hr.query, hf _ _ hr.changes, hr.ownKey⟩) fun _ => ⟨rfl, rfl⟩

/-! ## Acting in the world -/

theorem mirrors_inWorld {action : FluentSql.Action E α} {action' : FluentSql.Action E β}
    (haction : ∀ connection settings g g', h.IsLike g → h'.IsLike g' →
      Mirrors (World.Alike connection settings g g') R action action') :
    Mirrors (Scope.Alike h h') R (inWorld action) (inWorld action') := by
  intro s s' hs
  exact (haction _ _ _ _ hs.heap hs.heap' _ _ hs.published).onPart fun w w' hw => hs.renewed hw

theorem mirrors_inHeap {step : Step Heap α} {other : Step Heap β}
    (hstep : ∀ g g', h.IsLike g → h'.IsLike g' →
      EndAlike (Heap.Drained g g') R (step.perform g) (other.perform g')) :
    Mirrors (Scope.Alike h h') R (inHeap step : Record.Action E α) (inHeap other) := by
  refine mirrors_inWorld fun connection settings g g' hg hg' => ?_
  refine (World.Alike.isCommon connection connection settings g g').mirrors_inHeap ?_
  rintro f f' ⟨hf, hf'⟩
  exact (hstep f f' (hg.trans hf.isLike) (hg'.trans hf'.isLike)).mono (fun _ _ hR => hR)
    fun _ _ hd => ⟨hf.trans hd.1, hf'.trans hd.2⟩

/-- A step that only looks. -/
theorem mirrors_looking {step : Step Heap α} {other : Step Heap β}
    (hstep : ∀ g g', h.IsLike g → h'.IsLike g' → Mirrors (Heap.At g g') R step other) :
    Mirrors (Scope.Alike h h') R (inHeap step : Record.Action E α) (inHeap other) := by
  refine mirrors_inHeap fun g g' hg hg' => ?_
  refine (hstep g g' hg hg' g g' ⟨rfl, rfl⟩).mono (fun _ _ hR => hR) ?_
  rintro _ _ ⟨rfl, rfl⟩
  exact ⟨Heap.Drains.refl _, Heap.Drains.refl _⟩

theorem mirrors_items {v v' : Value} (hv : h.Same h' v v') :
    Mirrors (Scope.Alike h h') (List.Forall₂ (h.Same h')) (inHeap (Heap.items v) : Record.Action E (List Value))
      (inHeap (Heap.items v')) :=
  mirrors_looking fun _ _ hg hg' => hv.mirrors_items hg.retains hg'.retains

theorem mirrors_displayed {v v' : Value} (hv : h.Same h' v v') :
    Mirrors (Scope.Alike h h') Eq (displayed v : Record.Action E String) (displayed v') := by
  refine mirrors_bindHeap fun g g' hg hg' => Mirrors.pure ?_
  rw [(hv.retain hg.retains hg'.retains).settle_eq]

/-- **Alike records quote the same data alike.** -/
theorem mirrors_quote {v v' : Value} (hv : h.Same h' v v') :
    Mirrors (Scope.Alike h h') Eq (quote v : Record.Action E String) (quote v') := by
  refine mirrors_bindCurrent fun r r' hr => ?_
  rw [hr.connection]
  refine mirrors_inWorld fun connection settings g g' hg hg' => ?_
  refine (World.Alike.isCommon connection _ settings g g').mirrors_quote ?_
  rintro f f' ⟨hf, hf'⟩
  have hsame := hv.retain (hg.trans hf.isLike).retains (hg'.trans hf'.isLike).retains
  refine (hsame.mirrors_identifier f f' ⟨rfl, rfl⟩).mono (fun _ _ heq => heq) ?_
  rintro _ _ ⟨rfl, rfl⟩
  exact ⟨hf, hf'⟩

theorem mirrors_rendering :
    Mirrors (Scope.Alike h h') Eq (rendering : Record.Action E Rendering) rendering := by
  refine mirrors_bindCurrent fun r r' hr => ?_
  rw [hr.connection]
  exact mirrors_inWorld fun connection settings g g' _ _ =>
    (World.Alike.isCommon connection _ settings g g').mirrors_rendering

/-! ## The key -/

theorem perform_key_of_ownKey_eq_some {k : KeyColumns} (hown : s.record.ownKey = some k) :
    (key : Record.Action E KeyColumns).perform s = (.ok s.key, s) := by
  rw [key, perform_bindCurrent, Scope.key, hown]
  rfl

/-- The settings are looked at in the world, and the table of keys in its heap. -/
theorem perform_key_of_ownKey_eq_none (hown : s.record.ownKey = none) :
    (key : Record.Action E KeyColumns).perform s = (.ok s.key, s.renewed s.published) := by
  have hsettings : (inWorld (Connection.settings s.record.connection) : Record.Action E Settings).perform s =
      (.ok (s.published.session.settingsOf s.record.connection), s.renewed s.published) := rfl
  have hheap : (heap : Record.Action E Heap).perform (s.renewed s.published) =
      (.ok (s.renewed s.published).published.heap, s.renewed s.published) := rfl
  have hback : (s.renewed s.published).published = s.published := (Scope.renewed_eq (Heap.Drains.refl _)).2.2
  rw [key, perform_bindCurrent, Scope.key, hown, Option.getD_none]
  dsimp only
  rw [Step.perform_bind_ok hsettings, Step.perform_bind_ok hheap, hback, Scope.session_published]
  rfl

/-- **Alike records find their keys, and stay alike.** -/
theorem Scope.Alike.endAlike_key (hs : Scope.Alike h h' s s') :
    EndAlike (Scope.Alike h h') (fun k k' => k = s.key ∧ k' = s'.key)
      ((Record.key : Record.Action E KeyColumns).perform s) ((Record.key : Record.Action E KeyColumns).perform s') := by
  have hown := hs.record.ownKey
  cases hr : s.record.ownKey <;> cases hr' : s'.record.ownKey <;> rw [hr, hr'] at hown
  · rw [perform_key_of_ownKey_eq_none hr, perform_key_of_ownKey_eq_none hr']
    exact ⟨⟨rfl, rfl⟩, hs.renewed hs.published⟩
  · cases hown
  · cases hown
  · rw [perform_key_of_ownKey_eq_some hr, perform_key_of_ownKey_eq_some hr']
    exact ⟨⟨rfl, rfl⟩, hs⟩

theorem mirrors_key :
    Mirrors (Scope.Alike h h') (KeyColumns.Same h h') (key : Record.Action E KeyColumns) key := by
  intro s s' hs
  refine hs.endAlike_key.mono ?_ fun _ _ ht => ht
  rintro _ _ ⟨rfl, rfl⟩
  exact hs.same_key

end Record

end FluentSql
