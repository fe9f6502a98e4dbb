import FluentSql.Proofs.Heap.Data
import FluentSql.Proofs.Step.Mirror
/-
# FluentSql.Proofs.Heap.Same — values of two heaps that are the same data.

Two values, each with its heap, are the same data if both read as some (`Same`). Where they are kept may differ. Then
everything that a builder looks at in a name or an expression is the same for both: what is quoted of it
(`Same.mirrors_identifier`), its items and entries, and what is found under it.
-/

namespace FluentSql

open Step (Mirrors)

/-- Nothing lies inside the value, and no heap has a part in it. -/
def Value.IsAtom : Value → Prop
  | .list _ | .tuple _ | .map _ | .stream _ | .ref _ | .tupleAt _ _ => False
  | _ => True

namespace Heap

/-- The values of two heaps are the same data. -/
def Same (h h' : Heap) (v v' : Value) : Prop := ∃ data, h.ReadsAs v data ∧ h'.ReadsAs v' data

/-- The entries of two mappings are the same data. -/
structure SameEntry (h h' : Heap) (e e' : Value × Value) : Prop where
  isKey : h.isKey e.1 = true
  key : h.Same h' e.1 e'.1
  value : h.Same h' e.2 e'.2

/-- What two values look like that are the same data: they are one and the same, or hold the same. -/
inductive SameForm (h h' : Heap) : Value → Value → Prop
  | atom {v} : v.IsAtom → SameForm h h' v v
  | list {v v' items items'} : h.Opens v (.list items) → h'.Opens v' (.list items') →
      List.Forall₂ (h.Same h') items items' → SameForm h h' v v'
  | tuple {v v' items items'} : h.Opens v (.tuple items) → h'.Opens v' (.tuple items') →
      List.Forall₂ (h.Same h') items items' → SameForm h h' v v'
  | map {v v' entries entries'} : h.Opens v (.map entries) → h'.Opens v' (.map entries') →
      List.Forall₂ (h.SameEntry h') entries entries' → SameForm h h' v v'

variable {h h' : Heap} {v v' w w' : Value}

/-! ## The same data -/

theorem Same.atom (hv : v.IsAtom) : h.Same h' v v := by
  refine ⟨v, ?_, ?_⟩
  · cases v <;> first | exact hv.elim | rfl
  · cases v <;> first | exact hv.elim | rfl

theorem Same.of_asText? (hv : v.asText?.isSome) : h.Same h' v v := by
  cases v <;> first | exact .atom trivial | cases hv

theorem Same.symm (hs : h.Same h' v v') : h'.Same h v' v := by
  obtain ⟨data, hv, hv'⟩ := hs
  exact ⟨data, hv', hv⟩

theorem Same.text (s : String) : h.Same h' (.text s) (.text s) := .atom trivial

theorem forall₂_same_of_allReadAs {items items' data : List Value} (hitems : h.AllReadAs items data)
    (hitems' : h'.AllReadAs items' data) : List.Forall₂ (h.Same h') items items' := by
  induction data generalizing items items' with
  | nil =>
      cases hitems
      cases hitems'
      exact .nil
  | cons first rest ih =>
      obtain ⟨v, items, rfl, hfirst, hrest⟩ := hitems
      obtain ⟨v', items', rfl, hfirst', hrest'⟩ := hitems'
      exact .cons ⟨first, hfirst, hfirst'⟩ (ih hrest hrest')

theorem forall₂_sameEntry_of_entriesReadAs {entries entries' data : Row} (hentries : h.EntriesReadAs entries data)
    (hentries' : h'.EntriesReadAs entries' data) : List.Forall₂ (h.SameEntry h') entries entries' := by
  induction data generalizing entries entries' with
  | nil =>
      cases hentries
      cases hentries'
      exact .nil
  | cons first rest ih =>
      obtain ⟨k, v, entries, rfl, hkey, hk, hv, hrest⟩ := hentries
      obtain ⟨k', v', entries', rfl, -, hk', hv', hrest'⟩ := hentries'
      exact .cons ⟨hkey, ⟨_, hk, hk'⟩, ⟨_, hv, hv'⟩⟩ (ih hrest hrest')

theorem Same.form (hs : h.Same h' v v') : SameForm h h' v v' := by
  obtain ⟨data, hv, hv'⟩ := hs
  cases data with
  | list =>
      obtain ⟨items, hopens, hitems⟩ := hv
      obtain ⟨items', hopens', hitems'⟩ := hv'
      exact .list hopens hopens' (forall₂_same_of_allReadAs hitems hitems')
  | tuple =>
      obtain ⟨items, hopens, hitems⟩ := hv
      obtain ⟨items', hopens', hitems'⟩ := hv'
      exact .tuple hopens hopens' (forall₂_same_of_allReadAs hitems hitems')
  | map =>
      obtain ⟨entries, hopens, hentries⟩ := hv
      obtain ⟨entries', hopens', hentries'⟩ := hv'
      exact .map hopens hopens' (forall₂_sameEntry_of_entriesReadAs hentries hentries')
  | stream | ref | tupleAt => exact hv.elim
  | _ =>
      cases hv
      cases hv'
      exact .atom trivial

theorem Same.retain {g g' : Heap} (hs : h.Same h' v v') (hg : h.Retains g) (hg' : h'.Retains g') :
    g.Same g' v v' := by
  obtain ⟨data, hv, hv'⟩ := hs
  exact ⟨data, hv.retain hg, hv'.retain hg'⟩

theorem Same.isKey_of_retains {g : Heap} (hs : h.Same h' v v') (hg : h.Retains g) : g.isKey v = h.isKey v := by
  obtain ⟨data, hv, -⟩ := hs
  rw [(hv.retain hg).isKey_eq, hv.isKey_eq]

/-! ## Looking at the same data -/

theorem Same.settle_eq (hs : h.Same h' v v') : h.settle v = h'.settle v' := by
  obtain ⟨data, hv, hv'⟩ := hs
  rw [hv.settle_eq, hv'.settle_eq]

theorem Same.isKey_eq (hs : h.Same h' v v') : h.isKey v = h'.isKey v' := by
  obtain ⟨data, hv, hv'⟩ := hs
  rw [hv.isKey_eq, hv'.isKey_eq]

/-- Values that can be looked up by are the same key in one heap exactly if they are in the other. -/
theorem Same.beq_eq (hv : h.Same h' v v') (hkey : h.isKey v = true) (hw : h.Same h' w w')
    (hkey' : h.isKey w = true) : (v == w) = (v' == w') := by
  have hkeys' : h'.isKey v' = true ∧ h'.isKey w' = true := ⟨hv.isKey_eq ▸ hkey, hw.isKey_eq ▸ hkey'⟩
  obtain ⟨data, hv, hv'⟩ := hv
  obtain ⟨data', hw, hw'⟩ := hw
  rw [Bool.eq_iff_iff, Value.beq_iff_keyTokens_eq, Value.beq_iff_keyTokens_eq, hv.keyTokens_eq hkey,
    hw.keyTokens_eq hkey', hv'.keyTokens_eq hkeys'.1, hw'.keyTokens_eq hkeys'.2]

/-- What is opened is no text, and no null value. -/
theorem Opens.asText?_eq_none {cell : Cell} (hv : h.Opens v cell) : v.asText? = none ∧ v.isNull = false := by
  cases hv <;> exact ⟨rfl, rfl⟩

theorem Same.asText?_eq (hs : h.Same h' v v') : v.asText? = v'.asText? := by
  cases hs.form with
  | atom => rfl
  | list hv hv' | tuple hv hv' | map hv hv' => rw [hv.asText?_eq_none.1, hv'.asText?_eq_none.1]

theorem Same.isNull_eq (hs : h.Same h' v v') : v.isNull = v'.isNull := by
  cases hs.form with
  | atom => rfl
  | list hv hv' | tuple hv hv' | map hv hv' => rw [hv.asText?_eq_none.2, hv'.asText?_eq_none.2]

/-- A text is the same data as itself only. -/
theorem Same.eq_of_asText? (hs : h.Same h' v v') (hv : v.asText?.isSome) : v = v' := by
  cases hs.form with
  | atom => rfl
  | list hopens | tuple hopens | map hopens => simp [hopens.asText?_eq_none.1] at hv

theorem Same.toOption (hs : h.Same h' v v') : Option.Rel (h.Same h') v.toOption v'.toOption := by
  cases hs.form with
  | atom hatom =>
      cases v <;> first | exact .none | exact .some (.atom hatom)
  | list hv hv' | tuple hv hv' | map hv hv' =>
      cases hv <;> cases hv' <;> exact .some hs

theorem Same.ofValue_eq (hs : h.Same h' v v') : Piece.ofValue v = Piece.ofValue v' := by
  rw [Piece.ofValue, Piece.ofValue, hs.asText?_eq]

theorem content_of_isAtom (h : Heap) (hv : v.IsAtom) : h.content v = v := by
  cases v <;> first | exact hv.elim | rfl

theorem items?_of_isAtom (h : Heap) (hv : v.IsAtom) : h.items? v = v.items? := by
  cases v <;> first | exact hv.elim | rfl

/-- The items of an atom are atoms. -/
theorem isAtom_of_mem_items? {items : List Value} (hv : v.IsAtom) (hitems : v.items? = .ok items) :
    ∀ item ∈ items, item.IsAtom := by
  intro item hitem
  cases v <;> cases hitems
  · obtain ⟨c, -, rfl⟩ := List.mem_map.1 hitem
    trivial
  · obtain ⟨c, -, rfl⟩ := List.mem_map.1 hitem
    trivial
  · obtain ⟨b, -, rfl⟩ := List.mem_map.1 hitem
    trivial
  all_goals exact hv.elim

/-- Two results are both there and go together, or failed alike. -/
def SameItems (h h' : Heap) : Except Failure (List Value) → Except Failure (List Value) → Prop
  | .ok items, .ok items' => List.Forall₂ (h.Same h') items items'
  | .error failure, .error failure' => failure = failure'
  | _, _ => False

/-- The items are found in any heap that has what opens in these. -/
theorem Same.items? {g g' : Heap} (hs : h.Same h' v v') (hg : h.Retains g) (hg' : h'.Retains g') :
    h.SameItems h' (g.items? v) (g'.items? v') := by
  cases hs.form with
  | atom hv =>
      rw [items?_of_isAtom g hv, items?_of_isAtom g' hv]
      cases hitems : v.items? with
      | error failure => rfl
      | ok items => exact List.forall₂_same.2 fun item hitem => .atom (isAtom_of_mem_items? hv hitems item hitem)
  | list hv hv' hall =>
      rw [Heap.items?, Heap.items?, (hg _ _ hv).content_list, (hg' _ _ hv').content_list]
      exact hall
  | tuple hv hv' hall =>
      rw [Heap.items?, Heap.items?, (hg _ _ hv).content_tuple, (hg' _ _ hv').content_tuple]
      exact hall
  | map hv hv' hall =>
      rw [Heap.items?, Heap.items?, (hg _ _ hv).content_map, (hg' _ _ hv').content_map]
      exact List.forall₂_map_left_iff.2 (List.forall₂_map_right_iff.2 (hall.imp fun _ _ he => he.key))

theorem Same.isIterable_eq (hs : h.Same h' v v') : h.isIterable v = h'.isIterable v' := by
  have hitems := hs.items? (.refl h) (.refl h')
  rw [isIterable, isIterable]
  cases hv : h.items? v <;> cases hv' : h'.items? v' <;> rw [hv, hv'] at hitems
  · rfl
  · exact hitems.elim
  · exact hitems.elim
  · rfl

theorem Same.length?_eq (hs : h.Same h' v v') : h.length? v = h'.length? v' := by
  cases hs.form with
  | atom hv => cases v <;> first | exact hv.elim | rfl
  | list hv hv' hall =>
      rw [length?, length?, hv.content_list, hv'.content_list]
      exact congrArg Except.ok hall.length_eq
  | tuple hv hv' hall =>
      rw [length?, length?, hv.content_tuple, hv'.content_tuple]
      exact congrArg Except.ok hall.length_eq
  | map hv hv' hall =>
      rw [length?, length?, hv.content_map, hv'.content_map]
      exact congrArg Except.ok hall.length_eq

theorem Same.entries? (hs : h.Same h' v v') :
    Option.Rel (List.Forall₂ (h.SameEntry h')) (h.entries? v) (h'.entries? v') := by
  cases hs.form with
  | atom hv => cases v <;> first | exact hv.elim | exact .none
  | list hv hv' =>
      rw [Heap.entries?, Heap.entries?, hv.content_list, hv'.content_list]
      exact .none
  | tuple hv hv' =>
      rw [Heap.entries?, Heap.entries?, hv.content_tuple, hv'.content_tuple]
      exact .none
  | map hv hv' hall =>
      rw [Heap.entries?, Heap.entries?, hv.content_map, hv'.content_map]
      exact .some hall

/-- The same data under the same key. -/
theorem get?_same {entries entries' : Row} (hentries : List.Forall₂ (h.SameEntry h') entries entries')
    (hv : h.Same h' v v') (hkey : h.isKey v = true) :
    Option.Rel (h.Same h') (Entries.get? v entries) (Entries.get? v' entries') := by
  induction hentries with
  | nil => exact .none
  | @cons e e' rest rest' he _ ih =>
      have hbeq := he.key.beq_eq he.isKey hv hkey
      rw [Entries.get?, Entries.get?, ← hbeq]
      split
      · exact .some he.value
      · exact ih

/-! ## Going through the same data -/

/-- The two heaps as they are. -/
def At (h h' g g' : Heap) : Prop := g = h ∧ g' = h'

theorem mirrors_bindGet {α β : Type} {R : α → β → Prop} {next : Heap → Step Heap α} {next' : Heap → Step Heap β}
    (hnext : Mirrors (At h h') R (next h) (next' h')) : Mirrors (At h h') R (get >>= next) (get >>= next') := by
  refine Mirrors.bindGet ?_
  rintro _ _ ⟨rfl, rfl⟩
  exact hnext

/-- Data are never used up. -/
theorem Same.mirrors_skip (hs : h.Same h' v v') (count count' : Nat) :
    Mirrors (At h h') (fun _ _ => True) (skip v count) (skip v' count') := by
  have hne : (∀ rest, h.content v ≠ .stream rest) ∧ ∀ rest, h'.content v' ≠ .stream rest := by
    cases hs.form with
    | atom hv =>
        rw [content_of_isAtom h hv, content_of_isAtom h' hv]
        constructor <;> (rintro rest rfl; exact hv)
    | list hv hv' => simp [hv.content_list, hv'.content_list]
    | tuple hv hv' => simp [hv.content_tuple, hv'.content_tuple]
    | map hv hv' => simp [hv.content_map, hv'.content_map]
  rintro _ _ ⟨rfl, rfl⟩
  rw [perform_skip_of_content_ne_stream hne.1, perform_skip_of_content_ne_stream hne.2]
  exact ⟨trivial, rfl, rfl⟩

theorem Same.mirrors_items? {g g' : Heap} (hs : h.Same h' v v') (hg : h.Retains g) (hg' : h'.Retains g') :
    Mirrors (At g g') (List.Forall₂ (h.Same h')) (liftM (g.items? v) : Step Heap (List Value))
      (liftM (g'.items? v')) := by
  have hitems := hs.items? hg hg'
  cases hv : g.items? v <;> cases hv' : g'.items? v' <;> rw [hv, hv'] at hitems
  · cases hitems
    exact Mirrors.throw _
  · exact hitems.elim
  · exact hitems.elim
  · exact Mirrors.pure hitems

theorem Same.mirrors_items {g g' : Heap} (hs : h.Same h' v v') (hg : h.Retains g) (hg' : h'.Retains g') :
    Mirrors (At g g') (List.Forall₂ (h.Same h')) (items v) (items v') := by
  refine mirrors_bindGet (Mirrors.bind (hs.mirrors_items? hg hg') fun all all' hall => ?_)
  exact Mirrors.bind ((hs.retain hg hg').mirrors_skip _ _) fun _ _ _ => Mirrors.pure hall

theorem Same.mirrors_requireKey (hs : h.Same h' v v') :
    Mirrors (At h h') (fun _ _ => h.isKey v = true) (requireKey v) (requireKey v') := by
  refine mirrors_bindGet ?_
  rw [← hs.isKey_eq]
  by_cases hkey : h.isKey v = true
  · rw [hkey]
    exact Mirrors.pure rfl
  · rw [Bool.not_eq_true] at hkey
    rw [hkey]
    exact Mirrors.throw _

theorem Same.mirrors_entryOf? {g g' : Heap} (hs : h.Same h' v v') {entries entries' : Row}
    (hentries : List.Forall₂ (h.SameEntry h') entries entries') (hg : h.Retains g) (hg' : h'.Retains g') :
    Mirrors (At g g') (Option.Rel (h.Same h')) (entryOf? v entries) (entryOf? v' entries') :=
  Mirrors.bind (hs.retain hg hg').mirrors_requireKey fun _ _ hkey =>
    Mirrors.pure (get?_same hentries hs (hs.isKey_of_retains hg ▸ hkey))

/-- The items up to the first that is no name are as many. -/
theorem length_takeWhile_same {items items' : List Value} (hall : List.Forall₂ (h.Same h') items items') :
    (items.takeWhile fun item => !item.asText?.isNone).length =
      (items'.takeWhile fun item => !item.asText?.isNone).length := by
  induction hall with
  | nil => rfl
  | @cons item item' rest rest' hfirst _ ih =>
      rw [List.takeWhile_cons, List.takeWhile_cons, hfirst.asText?_eq]
      split
      · rw [List.length_cons, List.length_cons, ih]
      · rfl

theorem settleAll_same {items items' : List Value} (hall : List.Forall₂ (h.Same h') items items') :
    h.settleAll items = h'.settleAll items' := by
  induction hall with
  | nil => rw [settleAll, settleAll, List.map_nil, List.map_nil]
  | cons hfirst _ ih =>
      rw [settleAll, settleAll] at ih
      rw [settleAll, settleAll, List.map_cons, List.map_cons, hfirst.settle_eq, ih]

/-- **What is quoted of the same data is the same.** -/
theorem Same.mirrors_identifier (hs : h.Same h' v v') :
    Mirrors (At h h') Eq (identifier v) (identifier v') := by
  refine mirrors_bindGet ?_
  rw [hs.asText?_eq, hs.isIterable_eq, hs.settle_eq]
  split
  · exact Mirrors.pure rfl
  · refine Mirrors.bind (R := List.Forall₂ (h.Same h')) ?_ fun items items' hall =>
      Mirrors.pure (congrArg Value.list (settleAll_same hall))
    refine mirrors_bindGet (Mirrors.bind (hs.mirrors_items? (.refl h) (.refl h')) fun all all' hall => ?_)
    refine Mirrors.bind (hs.mirrors_skip _ _) fun _ _ _ => Mirrors.pure ?_
    rw [length_takeWhile_same hall]
    exact List.forall₂_take _ hall

/-! ## Looking for a text -/

/-- No list, tuple or mapping is equal to a text. -/
theorem Opens.equal?_text {cell : Cell} (hv : h.Opens v cell) (s : String) : h.equal? v (.text s) = .ok false := by
  have hplain : ∀ w : Value, w.number? = none → Value.keyTokens w ≠ Value.keyTokens (.text s) →
      plainEqual? w (.text s) = .ok false := by
    intro w hw htokens
    have hne : (w == .text s) = false := by
      rw [← Bool.not_eq_true, Value.beq_iff_keyTokens_eq]
      exact htokens
    rw [plainEqual?, hw, hne]
  cases hv with
  | list | tuple | map | tupleAt =>
      simp only [equal?, comparableDepth, equalWithin?, isSame, sqlParts?, content, Bool.false_eq_true, if_false]
      refine hplain _ ?_ ?_
      · rfl
      · simp [Value.keyTokens]
  | listAt hcell | mapAt hcell =>
      simp only [equal?, comparableDepth, equalWithin?, isSame, sqlParts?, content, hcell, Bool.false_eq_true, if_false]
      refine hplain _ ?_ ?_
      · rfl
      · simp [Value.keyTokens]

/-- The same data are equal to a text, or not, in both heaps. -/
theorem Same.equal?_text_eq (hs : h.Same h' v v') (s : String) :
    h.equal? v (.text s) = h'.equal? v' (.text s) := by
  cases hs.form with
  | atom hv => cases v <;> first | exact hv.elim | rfl
  | list hv hv' | tuple hv hv' | map hv hv' => rw [hv.equal?_text, hv'.equal?_text]

theorem seek_text_same {items items' : List Value} (hall : List.Forall₂ (h.Same h') items items') (s : String) :
    h.seek (.text s) items = h'.seek (.text s) items' := by
  induction hall with
  | nil => rw [seek, seek]
  | cons hfirst _ ih => rw [seek, seek, hfirst.equal?_text_eq, ih]

theorem Same.mirrors_isAmong (hs : h.Same h' v v') {items items' : List Value}
    (hall : List.Forall₂ (h.Same h') items items') (s : String) :
    Mirrors (At h h') Eq (isAmong (.text s) v items) (isAmong (.text s) v' items') := by
  refine mirrors_bindGet ?_
  rw [seek_text_same hall]
  refine Mirrors.bind (hs.mirrors_skip _ _) fun _ _ _ => Mirrors.lift _ fun _ _ => rfl

/-- Whether a text is found in the same data. -/
theorem Same.mirrors_contains_text (hs : h.Same h' v v') (s : String) :
    Mirrors (At h h') Eq (contains (.text s) v) (contains (.text s) v') := by
  refine mirrors_bindGet ?_
  cases hs.form with
  | atom hv =>
      rw [content_of_isAtom h hv, content_of_isAtom h' hv]
      cases v with
      | list | tuple | map | stream | ref | tupleAt => exact hv.elim
      | text | style => exact Mirrors.pure rfl
      | bytes bs => exact Mirrors.lift _ fun _ _ => rfl
      | _ => exact Mirrors.throw _
  | list hv hv' hall =>
      rw [hv.content_list, hv'.content_list]
      exact hs.mirrors_isAmong hall s
  | tuple hv hv' hall =>
      rw [hv.content_tuple, hv'.content_tuple]
      exact hs.mirrors_isAmong hall s
  | map hv hv' hall =>
      rw [hv.content_map, hv'.content_map]
      refine Mirrors.bind ((Same.text s).mirrors_entryOf? hall (.refl h) (.refl h')) fun found found' hfound => Mirrors.pure ?_
      cases hfound <;> rfl

end Heap

end FluentSql
