import FluentSql.Proofs.Connection.Marks
import Mathlib.Data.Set.Basic
/-
# FluentSql.Proofs.Heap.Within — what is seen of a part of a heap.

A value lies within a set of numbers if all numbers that it mentions are in the set, and the set is closed in a heap if
what is kept under its numbers lies within it too. All that can be found out about such a value, however deep one looks
into it, is decided by the cells under these numbers. Of a record it is decided without what was built into its query
(`Cell.unbuilt`). So two heaps that agree on a closed set (`Heap.Agrees`) show the same of every value within it.
-/

namespace FluentSql

/-! ## Values within a set of numbers -/

mutual

/-- All numbers that the value mentions are in the set. -/
def Value.Within (S : Set Nat) : Value → Prop
  | .list items | .tuple items | .stream items => Value.AllWithin S items
  | .map entries => Value.EntriesWithin S entries
  | .ref id => id ∈ S
  | .tupleAt id items => id ∈ S ∧ Value.AllWithin S items
  | _ => True

/-- All the values are within the set. -/
def Value.AllWithin (S : Set Nat) : List Value → Prop
  | [] => True
  | v :: rest => v.Within S ∧ Value.AllWithin S rest

/-- All the keys and values are within the set. -/
def Value.EntriesWithin (S : Set Nat) : List (Value × Value) → Prop
  | [] => True
  | (key, v) :: rest => key.Within S ∧ v.Within S ∧ Value.EntriesWithin S rest

end

namespace Value

variable {S T : Set Nat} {v w : Value}

theorem allWithin_iff {items : List Value} : AllWithin S items ↔ ∀ v ∈ items, v.Within S := by
  induction items with
  | nil => simp [AllWithin]
  | cons v rest ih => rw [AllWithin, ih, List.forall_mem_cons]

theorem entriesWithin_iff {entries : Row} :
    EntriesWithin S entries ↔ ∀ e ∈ entries, e.1.Within S ∧ e.2.Within S := by
  induction entries with
  | nil => simp [EntriesWithin]
  | cons e rest ih => rw [EntriesWithin, ih, List.forall_mem_cons, and_assoc]

mutual

theorem Within.mono (hST : S ⊆ T) : ∀ {v : Value}, v.Within S → v.Within T
  | .list _, h | .tuple _, h | .stream _, h => AllWithin.mono hST h
  | .map _, h => EntriesWithin.mono hST h
  | .ref _, h => hST h
  | .tupleAt _ _, h => ⟨hST h.1, AllWithin.mono hST h.2⟩
  | .null, _ | .bool _, _ | .int _, _ | .float _, _ | .decimal _, _ | .text _, _ | .style _, _ | .bytes _, _
  | .object _, _ => trivial

theorem AllWithin.mono (hST : S ⊆ T) : ∀ {items : List Value}, AllWithin S items → AllWithin T items
  | [], _ => trivial
  | _ :: _, h => ⟨h.1.mono hST, h.2.mono hST⟩

theorem EntriesWithin.mono (hST : S ⊆ T) : ∀ {entries : Row}, EntriesWithin S entries → EntriesWithin T entries
  | [], _ => trivial
  | _ :: _, h => ⟨h.1.mono hST, h.2.1.mono hST, h.2.2.mono hST⟩

end

theorem Within.text (s : String) : (Value.text s).Within S := trivial

mutual

theorem within_univ : ∀ v : Value, v.Within Set.univ
  | .list items | .tuple items | .stream items => allWithin_univ items
  | .map entries => entriesWithin_univ entries
  | .ref _ => trivial
  | .tupleAt _ items => ⟨trivial, allWithin_univ items⟩
  | .null | .bool _ | .int _ | .float _ | .decimal _ | .text _ | .style _ | .bytes _ | .object _ => trivial

theorem allWithin_univ : ∀ items : List Value, AllWithin Set.univ items
  | [] => trivial
  | v :: rest => ⟨within_univ v, allWithin_univ rest⟩

theorem entriesWithin_univ : ∀ entries : Row, EntriesWithin Set.univ entries
  | [] => trivial
  | e :: rest => ⟨within_univ e.1, within_univ e.2, entriesWithin_univ rest⟩

end

mutual

/-- Filling a value asks for the numbers that it mentions only. -/
theorem Within.fill_eq {known known' : Nat → Value} (hknown : ∀ id ∈ S, known id = known' id) :
    ∀ {v : Value}, v.Within S → v.fill known = v.fill known'
  | .list _, h => congrArg Value.list (AllWithin.fillAll_eq hknown h)
  | .tuple _, h => congrArg Value.tuple (AllWithin.fillAll_eq hknown h)
  | .stream _, h => congrArg Value.stream (AllWithin.fillAll_eq hknown h)
  | .map _, h => congrArg Value.map (EntriesWithin.fillEntries_eq hknown h)
  | .ref _, h => hknown _ h
  | .tupleAt _ _, h => hknown _ h.1
  | .null, _ | .bool _, _ | .int _, _ | .float _, _ | .decimal _, _ | .text _, _ | .style _, _ | .bytes _, _
  | .object _, _ => rfl

theorem AllWithin.fillAll_eq {known known' : Nat → Value} (hknown : ∀ id ∈ S, known id = known' id) :
    ∀ {items : List Value}, AllWithin S items → fillAll known items = fillAll known' items
  | [], _ => rfl
  | _ :: _, h => congrArg₂ List.cons (h.1.fill_eq hknown) (h.2.fillAll_eq hknown)

theorem EntriesWithin.fillEntries_eq {known known' : Nat → Value} (hknown : ∀ id ∈ S, known id = known' id) :
    ∀ {entries : Row}, EntriesWithin S entries → fillEntries known entries = fillEntries known' entries
  | [], _ => rfl
  | _ :: _, h => congrArg₂ List.cons (congrArg₂ Prod.mk (h.1.fill_eq hknown) (h.2.1.fill_eq hknown))
      (h.2.2.fillEntries_eq hknown)

end

mutual

theorem Within.isKey_eq {f g : Nat → Bool} (hfg : ∀ id ∈ S, f id = g id) :
    ∀ {v : Value}, v.Within S → v.isKey f = v.isKey g
  | .tuple _, h => AllWithin.areKeys_eq hfg h
  | .tupleAt _ _, h => AllWithin.areKeys_eq hfg h.2
  | .ref _, h => hfg _ h
  | .decimal (.nan true _ _), _ | .decimal (.nan false _ _), _ | .decimal (.infinity _), _
  | .decimal (.finite _ _ _), _ | .list _, _ | .stream _, _ | .map _, _ | .null, _ | .bool _, _ | .int _, _
  | .float _, _ | .text _, _ | .style _, _ | .bytes _, _ | .object _, _ => rfl

theorem AllWithin.areKeys_eq {f g : Nat → Bool} (hfg : ∀ id ∈ S, f id = g id) :
    ∀ {items : List Value}, AllWithin S items → areKeys f items = areKeys g items
  | [], _ => rfl
  | _ :: _, h => congrArg₂ and (h.1.isKey_eq hfg) (h.2.areKeys_eq hfg)

end

/-- What can be gone through is within the set with everything that comes up. -/
theorem Within.items? {items : List Value} (hv : v.Within S) (hitems : v.items? = .ok items) :
    ∀ item ∈ items, item.Within S := by
  cases v <;> cases hitems
  · exact fun item hitem => by
      obtain ⟨c, -, rfl⟩ := List.mem_map.1 hitem
      trivial
  · exact fun item hitem => by
      obtain ⟨c, -, rfl⟩ := List.mem_map.1 hitem
      trivial
  · exact fun item hitem => by
      obtain ⟨c, -, rfl⟩ := List.mem_map.1 hitem
      trivial
  · exact allWithin_iff.1 hv
  · exact allWithin_iff.1 hv
  · intro item hitem
    obtain ⟨e, he, rfl⟩ := List.mem_map.1 hitem
    exact (entriesWithin_iff.1 hv e he).1
  · exact allWithin_iff.1 hv
  · exact allWithin_iff.1 hv.2

theorem EntriesWithin.get? {entries : Row} (hentries : EntriesWithin S entries) {key found : Value}
    (hfound : Entries.get? key entries = some found) : found.Within S := by
  obtain ⟨e, he, rfl⟩ := List.mem_map.1 (Entries.mem_values_of_get? hfound)
  exact (entriesWithin_iff.1 hentries e he).2

end Value

/-! ## What can be seen of a cell -/

/-- The query before anything was built: without all clauses. -/
def Query.unbuilt (q : Query) : Query := { table := q.table, raw := q.raw }

/-- The record with a query without clauses. -/
def Record.unbuilt (r : Record) : Record := { r with query := r.query.unbuilt }

/-- What is kept, without what was built into the query of a record. -/
def Cell.unbuilt : Cell → Cell
  | .record r => .record r.unbuilt
  | cell => cell

/-- All numbers that can be got at through the cell are in the set. -/
def Cell.Within (S : Set Nat) : Cell → Prop
  | .scalar v => v.Within S
  | .list items | .tuple items | .stream items => Value.AllWithin S items
  | .map entries => Value.EntriesWithin S entries
  | .record r => Value.EntriesWithin S r.changes.data
  | .resultSet id => id ∈ S
  | .sql text params => text.Within S ∧ params.Within S
  | .method owner _ => ∀ id, owner = some id → id ∈ S
  | _ => True

theorem Cell.Within.mono {S T : Set Nat} (hST : S ⊆ T) {cell : Cell} (hcell : cell.Within S) : cell.Within T := by
  cases cell with
  | scalar v => exact Value.Within.mono hST hcell
  | list items | tuple items | stream items => exact Value.AllWithin.mono hST hcell
  | map entries | record r => exact Value.EntriesWithin.mono hST hcell
  | resultSet id => exact hST hcell
  | sql text params => exact ⟨Value.Within.mono hST hcell.1, Value.Within.mono hST hcell.2⟩
  | method owner name => exact fun id howner => hST (hcell id howner)
  | _ => trivial

theorem Record.unbuilt_eq_iff {r r' : Record} :
    r.unbuilt = r'.unbuilt ↔ r.connection = r'.connection ∧ r.query.table = r'.query.table ∧
      r.query.raw = r'.query.raw ∧ r.changes = r'.changes ∧ r.ownKey = r'.ownKey := by
  simp [Record.unbuilt, Query.unbuilt, and_assoc]

namespace Heap

/-- What is kept under numbers of the set lies within it. -/
def Closed (S : Set Nat) (h : Heap) : Prop := ∀ id ∈ S, ∀ cell, h.cell? id = some cell → cell.Within S

/-- Two heaps that show the same of what lies within a closed set. Apart from that they differ in what is left of their
streams and in what their records hold at most. -/
structure Agrees (S : Set Nat) (h h' : Heap) : Prop where
  like : h.IsLike h'
  shown : ∀ id ∈ S, (h.cell? id).map Cell.unbuilt = (h'.cell? id).map Cell.unbuilt
  closed : h.Closed S

variable {S T : Set Nat} {h h' h'' : Heap} {v w : Value}

theorem closed_univ (h : Heap) : h.Closed Set.univ := by
  intro id _ cell _
  cases cell with
  | scalar v => exact v.within_univ
  | list items | tuple items | stream items => exact Value.allWithin_univ items
  | map entries | record r => exact Value.entriesWithin_univ _
  | sql text params => exact ⟨text.within_univ, params.within_univ⟩
  | method owner name => exact fun _ _ => trivial
  | _ => trivial

/-! ## Heaps that agree -/

theorem IsLike.symm (hl : h.IsLike h') : h'.IsLike h := by
  intro id
  rcases hl id with heq | ⟨rest, rest', hrest, hrest'⟩ | ⟨r, r', hr, hr'⟩
  · exact .inl heq.symm
  · exact .inr (.inl ⟨rest', rest, hrest', hrest⟩)
  · exact .inr (.inr ⟨r', r, hr', hr⟩)

theorem IsLike.size_eq (hl : h.IsLike h') : h.size = h'.size := by
  have hsome : ∀ id, id < h.size ↔ id < h'.size := by
    intro id
    have hcell : ∀ g : Heap, id < g.size ↔ (g.cell? id).isSome := by simp [size, cell?]
    rw [hcell, hcell]
    rcases hl id with heq | ⟨rest, rest', hrest, hrest'⟩ | ⟨r, r', hr, hr'⟩
    · rw [heq]
    · rw [hrest, hrest']; simp
    · rw [hr, hr']; simp
  have hlt := hsome h.size
  have hlt' := hsome h'.size
  omega

theorem Agrees.refl (hclosed : h.Closed S) : h.Agrees S h := ⟨.refl h, fun _ _ => rfl, hclosed⟩

/-- Cells that look the same are the same, or hold records that are the same before anything was built. -/
theorem eq_or_record_of_unbuilt {cell cell' : Option Cell} (hshown : cell.map Cell.unbuilt = cell'.map Cell.unbuilt) :
    cell' = cell ∨ ∃ r r', cell = some (.record r) ∧ cell' = some (.record r') ∧ r.unbuilt = r'.unbuilt := by
  cases cell with
  | none => exact .inl (by simpa [eq_comm] using hshown)
  | some cell =>
      cases cell' with
      | none => simp at hshown
      | some cell' =>
          rw [Option.map_some, Option.map_some, Option.some.injEq] at hshown
          cases cell <;> cases cell' <;> first
            | exact .inl (congrArg some hshown.symm)
            | (exfalso; simp [Cell.unbuilt] at hshown; done)
            | exact .inr ⟨_, _, rfl, rfl, Cell.record.inj hshown⟩

theorem Agrees.cell? (hs : h.Agrees S h') {id : Nat} (hid : id ∈ S) :
    h'.cell? id = h.cell? id ∨ ∃ r r', h.cell? id = some (.record r) ∧ h'.cell? id = some (.record r') ∧
      r.unbuilt = r'.unbuilt :=
  eq_or_record_of_unbuilt (hs.shown id hid)

theorem Agrees.closed' (hs : h.Agrees S h') : h'.Closed S := by
  intro id hid cell hcell
  rcases hs.cell? hid with heq | ⟨r, r', hr, hr', hunbuilt⟩
  · exact hs.closed id hid cell (heq ▸ hcell)
  · have hwithin : (Cell.record r).Within S := hs.closed id hid _ hr
    rw [hr'] at hcell
    cases hcell
    obtain ⟨-, -, -, hchanges, -⟩ := Record.unbuilt_eq_iff.1 hunbuilt
    exact (show Value.EntriesWithin S r'.changes.data from hchanges ▸ hwithin)

theorem Agrees.symm (hs : h.Agrees S h') : h'.Agrees S h :=
  ⟨hs.like.symm, fun id hid => (hs.shown id hid).symm, hs.closed'⟩

theorem Agrees.trans (hs : h.Agrees S h') (hs' : h'.Agrees S h'') : h.Agrees S h'' :=
  ⟨hs.like.trans hs'.like, fun id hid => (hs.shown id hid).trans (hs'.shown id hid), hs.closed⟩

/-! ## One level -/

theorem Closed.content (hclosed : h.Closed S) (hv : v.Within S) : (h.content v).Within S := by
  cases v with
  | ref id =>
      cases hcell : h.cell? id with
      | none =>
          simp only [Heap.content, hcell]
          exact hv
      | some cell =>
          have hwithin := hclosed id hv cell hcell
          cases cell <;> simp only [Heap.content, hcell] <;> first | exact hwithin | exact hv
  | tupleAt id items => exact hv.2
  | _ => exact hv

/-- **Agreeing heaps open a value alike.** -/
theorem Agrees.content_eq (hs : h.Agrees S h') (hv : v.Within S) : h'.content v = h.content v := by
  cases v with
  | ref id =>
      rcases hs.cell? hv with heq | ⟨r, r', hr, hr', -⟩
      · simp only [Heap.content, heq]
      · simp only [Heap.content, hr, hr']
  | _ => rfl

theorem Agrees.listItems_eq (hs : h.Agrees S h') {id : Nat} (hid : id ∈ S) : h'.listItems id = h.listItems id := by
  rcases hs.cell? hid with heq | ⟨r, r', hr, hr', -⟩
  · simp only [listItems, heq]
  · simp only [listItems, hr, hr']

theorem Closed.listItems (hclosed : h.Closed S) {id : Nat} (hid : id ∈ S) :
    ∀ item ∈ h.listItems id, item.Within S := by
  intro item hitem
  unfold Heap.listItems at hitem
  split at hitem
  · rename_i items hcell
    exact Value.allWithin_iff.1 (hclosed id hid _ hcell) item hitem
  · cases hitem

theorem Agrees.items?_eq (hs : h.Agrees S h') (hv : v.Within S) : h'.items? v = h.items? v := by
  have hwithin := hs.closed.content hv
  rw [Heap.items?, Heap.items?, hs.content_eq hv]
  cases hcontent : h.content v with
  | ref id =>
      rw [hcontent] at hwithin
      rcases hs.cell? hwithin with heq | ⟨r, r', hr, hr', hunbuilt⟩
      · simp only [heq]
        -- A result set leads to its list, and nothing else leads further.
        cases hcell : h.cell? id with
        | none => rfl
        | some cell =>
            cases cell with
            | resultSet list => exact congrArg Except.ok (hs.listItems_eq (hs.closed id hwithin _ hcell))
            | _ => rfl
      · obtain ⟨-, -, -, hchanges, -⟩ := Record.unbuilt_eq_iff.1 hunbuilt
        simp only [hr, hr', hchanges]
  | _ => rfl

theorem Closed.items? (hclosed : h.Closed S) (hv : v.Within S) {items : List Value} (hitems : h.items? v = .ok items) :
    ∀ item ∈ items, item.Within S := by
  have hwithin := hclosed.content hv
  rw [Heap.items?] at hitems
  split at hitems
  · rename_i id hcontent
    rw [hcontent] at hwithin
    split at hitems
    · rename_i r hcell
      have hdata : Value.EntriesWithin S r.changes.data := hclosed id hwithin _ hcell
      cases hitems
      intro item hitem
      obtain ⟨e, he, rfl⟩ := List.mem_map.1 hitem
      exact (Value.entriesWithin_iff.1 hdata e he).1
    · rename_i list hcell
      have hlist : list ∈ S := hclosed id hwithin _ hcell
      cases hitems
      exact hclosed.listItems hlist
    · cases hitems
  · exact hwithin.items? hitems

theorem Agrees.isIterable_eq (hs : h.Agrees S h') (hv : v.Within S) : h'.isIterable v = h.isIterable v := by
  rw [isIterable, isIterable, hs.items?_eq hv]

theorem Agrees.length?_eq (hs : h.Agrees S h') (hv : v.Within S) : h'.length? v = h.length? v := by
  have hwithin := hs.closed.content hv
  rw [Heap.length?, Heap.length?, hs.content_eq hv]
  cases hcontent : h.content v with
  | ref id =>
      rw [hcontent] at hwithin
      rcases hs.cell? hwithin with heq | ⟨r, r', hr, hr', hunbuilt⟩
      · simp only [heq]
        cases hcell : h.cell? id with
        | none => rfl
        | some cell =>
            cases cell with
            | resultSet list =>
                exact congrArg (fun items : List Value => Except.ok items.length)
                  (hs.listItems_eq (hs.closed id hwithin _ hcell))
            | _ => rfl
      · obtain ⟨-, -, -, hchanges, -⟩ := Record.unbuilt_eq_iff.1 hunbuilt
        simp only [hr, hr', hchanges]
  | _ => rfl

theorem Agrees.entries?_eq (hs : h.Agrees S h') (hv : v.Within S) : h'.entries? v = h.entries? v := by
  rw [Heap.entries?, Heap.entries?, hs.content_eq hv]

theorem Closed.entries? (hclosed : h.Closed S) (hv : v.Within S) {entries : Row}
    (hentries : h.entries? v = some entries) : Value.EntriesWithin S entries := by
  have hwithin := hclosed.content hv
  unfold Heap.entries? at hentries
  split at hentries
  · rename_i found hcontent
    cases hentries
    rw [hcontent] at hwithin
    exact hwithin
  · cases hentries

theorem Agrees.asItems_eq (hs : h.Agrees S h') (hv : v.Within S) : h'.asItems v = h.asItems v := by
  rw [asItems, asItems, hs.content_eq hv]

theorem Agrees.isKey_eq (hs : h.Agrees S h') (hv : v.Within S) : h'.isKey v = h.isKey v := by
  refine hv.isKey_eq fun id hid => ?_
  rcases hs.cell? hid with heq | ⟨r, r', hr, hr', -⟩
  · simp only [heq]
  · simp only [hr, hr']

/-! ## All levels -/

theorem Agrees.methodLabel_eq (hs : h.Agrees S h') {owner : Option Nat} (howner : ∀ id, owner = some id → id ∈ S)
    {known known' : Nat → Value} (hknown : ∀ id ∈ S, known' id = known id) (name : String) :
    h'.methodLabel known' owner name = h.methodLabel known owner name := by
  unfold methodLabel
  cases owner with
  | none => rfl
  | some id =>
      have hid : id ∈ S := howner id rfl
      have hhome : (h'.cell? id).map methodHome = (h.cell? id).map methodHome := by
        rcases hs.cell? hid with heq | ⟨r, r', hr, hr', -⟩
        · rw [heq]
        · simp only [hr, hr', Option.map_some, methodHome]
      simp only [hknown id hid, hhome]

/-- What a cell is settled to is decided by what is known of the numbers of a closed set. -/
theorem Agrees.settleCell_eq (hs : h.Agrees S h') {cell : Cell} (hcell : cell.Within S) {known known' : Nat → Value}
    (hknown : ∀ id ∈ S, known' id = known id) : h'.settleCell known' cell = h.settleCell known cell := by
  cases cell with
  | list items => exact congrArg Value.list (hcell.fillAll_eq hknown)
  | tuple items => exact congrArg Value.tuple (hcell.fillAll_eq hknown)
  | stream rest => exact congrArg Value.stream (hcell.fillAll_eq hknown)
  | map entries => exact congrArg Value.map (hcell.fillEntries_eq hknown)
  | record r => exact congrArg (fun data => Value.object (r.label (.map data))) (hcell.fillEntries_eq hknown)
  | resultSet list =>
      exact congrArg (fun items : List Value => Value.object (resultSetLabel items.length)) (hs.listItems_eq hcell)
  | sql text params =>
      exact congrArg Value.object (congrArg₂ sqlLabel (hcell.1.fill_eq hknown) (hcell.2.fill_eq hknown))
  | method owner name =>
      rw [settleCell, settleCell, hs.methodLabel_eq hcell hknown]
  | _ => rfl

theorem Agrees.known_eq (hs : h.Agrees S h') (depth : Nat) :
    ∀ around, ∀ id ∈ S, h'.known depth around id = h.known depth around id := by
  induction depth with
  | zero => exact fun _ _ _ => rfl
  | succ depth ih =>
      intro around id hid
      rw [known, known]
      rcases hs.cell? hid with heq | ⟨r, r', hr, hr', hunbuilt⟩
      · rw [heq]
        cases hcell : h.cell? id with
        | none => rfl
        | some cell =>
            dsimp only
            rw [hs.settleCell_eq (hs.closed id hid cell hcell) (ih (id :: around))]
      · -- Two records are shown by their tables and data.
        obtain ⟨-, htable, -, hchanges, -⟩ := Record.unbuilt_eq_iff.1 hunbuilt
        have hlabel : r'.label = r.label := by
          funext data
          rw [Record.label, Record.label, Record.table, Record.table, htable]
        have hdata : (Cell.record r).Within S := hs.closed id hid _ hr
        have hsettle := hs.settleCell_eq hdata (ih (id :: around))
        have hsame : h'.settleCell (h'.known depth (id :: around)) (.record r') =
            h'.settleCell (h'.known depth (id :: around)) (.record r) := by
          rw [settleCell, settleCell, hlabel, hchanges]
        have hmark : innerMark (.record r') = innerMark (.record r) := by rw [innerMark, innerMark, hlabel]
        rw [hr, hr']
        dsimp only
        rw [hsame, hsettle, hmark]
        rfl

/-- **Agreeing heaps settle a value alike.** -/
theorem Agrees.settle_eq (hs : h.Agrees S h') (hv : v.Within S) : h'.settle v = h.settle v := by
  rw [settle, settle, greatestDepth, greatestDepth, hs.like.size_eq]
  exact hv.fill_eq (hs.known_eq _ [])

theorem Agrees.settleAll_eq (hs : h.Agrees S h') {items : List Value} (hitems : ∀ item ∈ items, item.Within S) :
    h'.settleAll items = h.settleAll items :=
  List.map_congr_left fun item hitem => hs.settle_eq (hitems item hitem)

/-! ## Equality -/

section

variable {eq eq' : Value → Value → Except Failure Bool}

theorem allEqual?_congr (heq : ∀ v w, v.Within S → w.Within S → eq' v w = eq v w) {vs ws : List Value}
    (hvs : Value.AllWithin S vs) (hws : Value.AllWithin S ws) : allEqual? eq' vs ws = allEqual? eq vs ws := by
  induction vs generalizing ws with
  | nil => rw [allEqual?, allEqual?] <;> nofun
  | cons v vs ih =>
      cases ws with
      | nil => rw [allEqual?, allEqual?] <;> nofun
      | cons w ws => rw [allEqual?, allEqual?, heq v w hvs.1 hws.1, ih hvs.2 hws.2]

theorem matched?_congr (heq : ∀ v w, v.Within S → w.Within S → eq' v w = eq v w) {row others : Row}
    (hrow : Value.EntriesWithin S row) (hothers : Value.EntriesWithin S others) :
    matched? eq' row others = matched? eq row others := by
  induction row with
  | nil => rw [matched?, matched?]
  | cons e row ih =>
      rw [matched?, matched?, ih hrow.2.2]
      cases hfound : Entries.get? e.1 others with
      | none => rfl
      | some w => simp only [heq w e.2 (hothers.get? hfound) hrow.2.1]

end

theorem Agrees.sqlParts?_eq (hs : h.Agrees S h') (hv : v.Within S) : h'.sqlParts? v = h.sqlParts? v := by
  cases v with
  | ref id =>
      rcases hs.cell? hv with heq | ⟨r, r', hr, hr', -⟩
      · simp only [sqlParts?, heq]
      · simp only [sqlParts?, hr, hr']
  | _ => rfl

theorem Closed.sqlParts? (hclosed : h.Closed S) (hv : v.Within S) {parts : Value × Value}
    (hparts : h.sqlParts? v = some parts) : parts.1.Within S ∧ parts.2.Within S := by
  unfold Heap.sqlParts? at hparts
  split at hparts
  · split at hparts
    · rename_i text params hcell
      cases hparts
      exact hclosed _ hv _ hcell
    · cases hparts
  · cases hparts

theorem Agrees.equalWithin?_eq (hs : h.Agrees S h') (depth : Nat) :
    ∀ v w : Value, v.Within S → w.Within S → h'.equalWithin? depth v w = h.equalWithin? depth v w := by
  induction depth with
  | zero => exact fun _ _ _ _ => rfl
  | succ depth ih =>
      intro v w hv hw
      have hcv := hs.closed.content hv
      have hcw := hs.closed.content hw
      rw [equalWithin?, equalWithin?, hs.sqlParts?_eq hv, hs.sqlParts?_eq hw, hs.content_eq hv, hs.content_eq hw]
      split
      · rfl
      · split
        · rename_i text params text' params' hparts hparts'
          obtain ⟨htext, hparams⟩ := hs.closed.sqlParts? hv hparts
          obtain ⟨htext', hparams'⟩ := hs.closed.sqlParts? hw hparts'
          rw [ih text text' htext htext', ih params params' hparams hparams']
        · -- What the two hold is compared one level deeper.
          split
          · rename_i xs ys hxs hys
            rw [hxs] at hcv
            rw [hys] at hcw
            rw [allEqual?_congr ih hcv hcw]
          · rename_i xs ys hxs hys
            rw [hxs] at hcv
            rw [hys] at hcw
            rw [allEqual?_congr ih hcv hcw]
          · rename_i xs ys hxs hys
            rw [hxs] at hcv
            rw [hys] at hcw
            rw [matched?_congr ih hcv hcw]
          · rfl

theorem Agrees.seek_eq (hs : h.Agrees S h') (hv : v.Within S) {items : List Value}
    (hitems : ∀ item ∈ items, item.Within S) : h'.seek v items = h.seek v items := by
  induction items with
  | nil => rfl
  | cons item rest ih =>
      obtain ⟨hitem, hrest⟩ := List.forall_mem_cons.1 hitems
      rw [seek, seek, equal?, equal?, hs.equalWithin?_eq _ item v hitem hv, ih hrest]

end Heap

end FluentSql
