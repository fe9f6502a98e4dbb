import FluentSql.Proofs.Heap.Drains
import Mathlib.Data.List.Forall2
import Mathlib.Data.List.Perm.Subperm
/-
# FluentSql.Proofs.Heap.Data — values that are plain data.

Names, expressions, numbers, and lists, tuples and mappings of them are data: what counts is what they hold, and
not where the heap keeps it. A value reads as data if it holds the same all the way down (`ReadsAs`). It
settles to that data then (`ReadsAs.settle_eq`), and whether it can be looked up by, and what it is as a key, depends
on the data only.

A not-a-number that the heap keeps is no data here, as it is equal to nothing but itself. Streams, which are used up,
and things that are known by identity are none either.
-/

namespace FluentSql

namespace Heap

/-! ## Data -/

/-- The value is a list, tuple or mapping with what the cell holds, or refers to one. -/
inductive Opens (h : Heap) : Value → Cell → Prop
  | list {items} : Opens h (.list items) (.list items)
  | tuple {items} : Opens h (.tuple items) (.tuple items)
  | map {entries} : Opens h (.map entries) (.map entries)
  | listAt {id items} : h.cell? id = some (.list items) → Opens h (.ref id) (.list items)
  | mapAt {id entries} : h.cell? id = some (.map entries) → Opens h (.ref id) (.map entries)
  | tupleAt {id items} : h.cell? id = some (.tuple items) → Opens h (.tupleAt id items) (.tuple items)

mutual

/-- The value is some data, all the way down. -/
def ReadsAs (h : Heap) (v : Value) : Value → Prop
  | .list data => ∃ items, h.Opens v (.list items) ∧ h.AllReadAs items data
  | .tuple data => ∃ items, h.Opens v (.tuple items) ∧ h.AllReadAs items data
  | .map data => ∃ entries, h.Opens v (.map entries) ∧ h.EntriesReadAs entries data
  | .stream _ | .ref _ | .tupleAt _ _ => False
  | data => v = data

/-- The items are some data, one by one. -/
def AllReadAs (h : Heap) (items : List Value) : List Value → Prop
  | [] => items = []
  | data :: rest => ∃ v items', items = v :: items' ∧ h.ReadsAs v data ∧ h.AllReadAs items' rest

/-- The keys and values are some data. The keys can be looked up by, as those of every mapping. -/
def EntriesReadAs (h : Heap) (entries : Row) : List (Value × Value) → Prop
  | [] => entries = []
  | (key, data) :: rest => ∃ k v entries', entries = (k, v) :: entries' ∧ h.isKey k = true ∧
      h.ReadsAs k key ∧ h.ReadsAs v data ∧ h.EntriesReadAs entries' rest

end

variable {h h' : Heap} {v : Value}

/-! ## Opening -/

theorem Opens.content_list {items : List Value} (hv : h.Opens v (.list items)) : h.content v = .list items := by
  cases hv with
  | list => rfl
  | listAt hcell => simp only [content, hcell]

theorem Opens.content_tuple {items : List Value} (hv : h.Opens v (.tuple items)) :
    h.content v = .tuple items := by
  cases hv <;> rfl

theorem Opens.content_map {entries : Row} (hv : h.Opens v (.map entries)) : h.content v = .map entries := by
  cases hv with
  | map => rfl
  | mapAt hcell => simp only [content, hcell]

/-- There is one thing that a value opens to. -/
theorem Opens.unique {cell cell' : Cell} (hv : h.Opens v cell) (hv' : h.Opens v cell') : cell = cell' := by
  cases hv <;> cases hv' <;> simp_all

theorem allReadAs_iff {items data : List Value} :
    h.AllReadAs items data ↔ List.Forall₂ h.ReadsAs items data := by
  induction data generalizing items with
  | nil => simp [AllReadAs]
  | cons first rest ih =>
      simp only [AllReadAs, List.forall₂_cons_right_iff, ih]
      constructor
      · rintro ⟨v, items', rfl, hfirst, hrest⟩
        exact ⟨v, items', hfirst, hrest, rfl⟩
      · rintro ⟨v, items', hfirst, hrest, rfl⟩
        exact ⟨v, items', rfl, hfirst, hrest⟩

/-! ## Looking up by data -/

theorem isKey_of_mem_of_areKeys {refIsKey : Nat → Bool} {items : List Value} {item : Value}
    (hkeys : Value.areKeys refIsKey items = true) (hitem : item ∈ items) : Value.isKey refIsKey item = true := by
  induction items with
  | nil => cases hitem
  | cons first rest ih =>
      rw [Value.areKeys, Bool.and_eq_true] at hkeys
      rcases List.mem_cons.1 hitem with rfl | hitem
      · exact hkeys.1
      · exact ih hkeys.2 hitem

mutual

/-- Whether a value can be looked up by depends on the data only. -/
theorem ReadsAs.isKey_eq : ∀ {v data : Value}, h.ReadsAs v data → h.isKey v = data.isKey fun _ => true
  | v, .list data, hv => by
      obtain ⟨items, hopens, -⟩ := hv
      cases hopens with
      | list => rfl
      | listAt hcell => simp [isKey, Value.isKey, hcell]
  | v, .tuple data, hv => by
      obtain ⟨items, hopens, hitems⟩ := hv
      have hall := AllReadAs.areKeys_eq _ (fun _ => rfl) hitems
      cases hopens <;> exact hall
  | v, .map data, hv => by
      obtain ⟨entries, hopens, -⟩ := hv
      cases hopens with
      | map => rfl
      | mapAt hcell => simp [isKey, Value.isKey, hcell]
  | _, .null, rfl | _, .bool _, rfl | _, .int _, rfl | _, .float _, rfl | _, .text _, rfl | _, .style _, rfl
  | _, .bytes _, rfl | _, .object _, rfl => rfl
  | _, .decimal d, rfl => by
      cases d with
      | nan signaling _ _ => cases signaling <;> rfl
      | _ => rfl

theorem AllReadAs.areKeys_eq (refIsKey : Nat → Bool) (hkey : ∀ v, h.isKey v = Value.isKey refIsKey v) :
    ∀ {items data : List Value}, h.AllReadAs items data →
      Value.areKeys refIsKey items = Value.areKeys (fun _ => true) data
  | _, [], rfl => rfl
  | _, _ :: _, hitems => by
      obtain ⟨v, items', rfl, hfirst, hrest⟩ := hitems
      rw [Value.areKeys, Value.areKeys, ← hkey, hfirst.isKey_eq, AllReadAs.areKeys_eq refIsKey hkey hrest]

end

theorem AllReadAs.length_eq {items data : List Value} (hitems : h.AllReadAs items data) :
    items.length = data.length := (allReadAs_iff.1 hitems).length_eq

mutual

/-- A value that can be looked up by is the same key as its data. -/
theorem ReadsAs.keyTokens_eq : ∀ {v data : Value}, h.ReadsAs v data → h.isKey v = true →
    Value.keyTokens v = Value.keyTokens data
  | v, .list data, hv, hkey => by
      rw [hv.isKey_eq] at hkey
      cases hkey
  | v, .tuple data, hv, hkey => by
      obtain ⟨items, hopens, hitems⟩ := hv
      have hall : Value.keyTokensOfAll items = Value.keyTokensOfAll data := by
        refine AllReadAs.keyTokensOfAll_eq hitems fun item hitem => ?_
        cases hopens with
        | tuple => exact isKey_of_mem_of_areKeys hkey hitem
        | tupleAt _ => exact isKey_of_mem_of_areKeys hkey hitem
      cases hopens <;> rw [Value.keyTokens, Value.keyTokens, hall, hitems.length_eq]
  | v, .map data, hv, hkey => by
      rw [hv.isKey_eq] at hkey
      cases hkey
  | _, .null, rfl, _ | _, .bool _, rfl, _ | _, .int _, rfl, _ | _, .float _, rfl, _ | _, .text _, rfl, _
  | _, .style _, rfl, _ | _, .bytes _, rfl, _ | _, .object _, rfl, _ | _, .decimal _, rfl, _ => rfl

theorem AllReadAs.keyTokensOfAll_eq : ∀ {items data : List Value}, h.AllReadAs items data →
    (∀ item ∈ items, h.isKey item = true) → Value.keyTokensOfAll items = Value.keyTokensOfAll data
  | _, [], rfl, _ => rfl
  | _, _ :: _, hitems, hkeys => by
      obtain ⟨v, items', rfl, hfirst, hrest⟩ := hitems
      obtain ⟨hkey, hkeys⟩ := List.forall_mem_cons.1 hkeys
      rw [Value.keyTokensOfAll, Value.keyTokensOfAll, hfirst.keyTokens_eq hkey,
        AllReadAs.keyTokensOfAll_eq hrest hkeys]

end

/-! ## Other heaps -/

/-- What opens in the heap opens in the other one, to the same. -/
def Retains (h h' : Heap) : Prop := ∀ v cell, h.Opens v cell → h'.Opens v cell

theorem Retains.refl (h : Heap) : h.Retains h := fun _ _ hv => hv

theorem Retains.trans {h'' : Heap} (hr : h.Retains h') (hr' : h'.Retains h'') : h.Retains h'' :=
  fun v cell hv => hr' v cell (hr v cell hv)

mutual

theorem ReadsAs.retain (hretains : h.Retains h') : ∀ {v data : Value}, h.ReadsAs v data → h'.ReadsAs v data
  | _, .list _, ⟨items, hopens, hitems⟩ => ⟨items, hretains _ _ hopens, AllReadAs.retain hretains hitems⟩
  | _, .tuple _, ⟨items, hopens, hitems⟩ => ⟨items, hretains _ _ hopens, AllReadAs.retain hretains hitems⟩
  | _, .map _, ⟨entries, hopens, hentries⟩ =>
      ⟨entries, hretains _ _ hopens, EntriesReadAs.retain hretains hentries⟩
  | _, .null, rfl | _, .bool _, rfl | _, .int _, rfl | _, .float _, rfl | _, .text _, rfl | _, .style _, rfl
  | _, .bytes _, rfl | _, .object _, rfl | _, .decimal _, rfl => rfl

theorem AllReadAs.retain (hretains : h.Retains h') :
    ∀ {items data : List Value}, h.AllReadAs items data → h'.AllReadAs items data
  | _, [], rfl => rfl
  | _, _ :: _, ⟨v, items', hsplit, hfirst, hrest⟩ =>
      ⟨v, items', hsplit, hfirst.retain hretains, AllReadAs.retain hretains hrest⟩

theorem EntriesReadAs.retain (hretains : h.Retains h') :
    ∀ {entries data : Row}, h.EntriesReadAs entries data → h'.EntriesReadAs entries data
  | _, [], rfl => rfl
  | _, _ :: _, ⟨k, v, entries', hsplit, hkey, hk, hv, hrest⟩ => by
      have hk' := hk.retain hretains
      exact ⟨k, v, entries', hsplit, by rw [hk'.isKey_eq, ← hk.isKey_eq, hkey], hk', hv.retain hretains,
        EntriesReadAs.retain hretains hrest⟩

end

theorem IsLike.retains (hl : h.IsLike h') : h.Retains h' := by
  have hstays : ∀ {id cell}, h.cell? id = some cell → (∀ rest, cell ≠ .stream rest) →
      (∀ r, cell ≠ .record r) → h'.cell? id = some cell := by
    intro id cell hcell hstream hrecord
    rcases hl id with heq | ⟨rest, _, hrest, -⟩ | ⟨r, _, hr, -⟩
    · rw [heq, hcell]
    · exact absurd (Option.some.inj (hcell.symm.trans hrest)) (hstream rest)
    · exact absurd (Option.some.inj (hcell.symm.trans hr)) (hrecord r)
  intro v cell hv
  cases hv with
  | list => exact .list
  | tuple => exact .tuple
  | map => exact .map
  | listAt hcell => exact .listAt (hstays hcell (by simp) (by simp))
  | mapAt hcell => exact .mapAt (hstays hcell (by simp) (by simp))
  | tupleAt hcell => exact .tupleAt (hstays hcell (by simp) (by simp))

/-! ## Settling data -/

mutual

/-- A value is some data in one way only. -/
theorem ReadsAs.unique : ∀ {v data data' : Value}, h.ReadsAs v data → h.ReadsAs v data' → data = data'
  | v, .list data, data', ⟨items, hopens, hitems⟩, hv' => by
      cases data' with
      | list data' =>
          obtain ⟨items', hopens', hitems'⟩ := hv'
          cases hopens.unique hopens'
          rw [AllReadAs.unique hitems hitems']
      | tuple => exact absurd (hopens.unique hv'.choose_spec.1) (by simp)
      | map => exact absurd (hopens.unique hv'.choose_spec.1) (by simp)
      | stream | ref | tupleAt => exact hv'.elim
      | _ => cases hv'; cases hopens
  | v, .tuple data, data', ⟨items, hopens, hitems⟩, hv' => by
      cases data' with
      | tuple data' =>
          obtain ⟨items', hopens', hitems'⟩ := hv'
          cases hopens.unique hopens'
          rw [AllReadAs.unique hitems hitems']
      | list => exact absurd (hopens.unique hv'.choose_spec.1) (by simp)
      | map => exact absurd (hopens.unique hv'.choose_spec.1) (by simp)
      | stream | ref | tupleAt => exact hv'.elim
      | _ => cases hv'; cases hopens
  | v, .map data, data', ⟨entries, hopens, hentries⟩, hv' => by
      cases data' with
      | map data' =>
          obtain ⟨entries', hopens', hentries'⟩ := hv'
          cases hopens.unique hopens'
          rw [EntriesReadAs.unique hentries hentries']
      | list => exact absurd (hopens.unique hv'.choose_spec.1) (by simp)
      | tuple => exact absurd (hopens.unique hv'.choose_spec.1) (by simp)
      | stream | ref | tupleAt => exact hv'.elim
      | _ => cases hv'; cases hopens
  | _, .null, data', rfl, hv' | _, .bool _, data', rfl, hv' | _, .int _, data', rfl, hv'
  | _, .float _, data', rfl, hv' | _, .text _, data', rfl, hv' | _, .style _, data', rfl, hv'
  | _, .bytes _, data', rfl, hv' | _, .object _, data', rfl, hv' | _, .decimal _, data', rfl, hv' => by
      cases data' with
      | list => cases hv'.choose_spec.1
      | tuple => cases hv'.choose_spec.1
      | map => cases hv'.choose_spec.1
      | stream | ref | tupleAt => exact hv'.elim
      | _ => exact hv'

theorem AllReadAs.unique : ∀ {items data data' : List Value}, h.AllReadAs items data →
    h.AllReadAs items data' → data = data'
  | _, [], [], _, _ => rfl
  | _, [], _ :: _, rfl, ⟨_, _, hsplit, _⟩ => by cases hsplit
  | _, _ :: _, [], ⟨_, _, hsplit, _⟩, rfl => by cases hsplit
  | _, _ :: _, _ :: _, ⟨v, items', hsplit, hfirst, hrest⟩, ⟨_, _, hsplit', hfirst', hrest'⟩ => by
      cases hsplit
      cases hsplit'
      rw [hfirst.unique hfirst', AllReadAs.unique hrest hrest']

theorem EntriesReadAs.unique : ∀ {entries data data' : Row}, h.EntriesReadAs entries data →
    h.EntriesReadAs entries data' → data = data'
  | _, [], [], _, _ => rfl
  | _, [], _ :: _, rfl, ⟨_, _, _, hsplit, _⟩ => by cases hsplit
  | _, _ :: _, [], ⟨_, _, _, hsplit, _⟩, rfl => by cases hsplit
  | _, (_, _) :: _, (_, _) :: _, ⟨k, v, entries', hsplit, _, hk, hv, hrest⟩,
      ⟨_, _, _, hsplit', _, hk', hv', hrest'⟩ => by
      cases hsplit
      cases hsplit'
      rw [hk.unique hk', hv.unique hv', EntriesReadAs.unique hrest hrest']

end

/-- Values that open to the same are the same data. -/
theorem ReadsAs.of_opens {w data : Value} {cell : Cell} (hr : h.ReadsAs v data) (hv : h.Opens v cell)
    (hw : h.Opens w cell) : h.ReadsAs w data := by
  cases data with
  | list =>
      obtain ⟨items, hopens, hitems⟩ := hr
      exact ⟨items, hv.unique hopens ▸ hw, hitems⟩
  | tuple =>
      obtain ⟨items, hopens, hitems⟩ := hr
      exact ⟨items, hv.unique hopens ▸ hw, hitems⟩
  | map =>
      obtain ⟨entries, hopens, hentries⟩ := hr
      exact ⟨entries, hv.unique hopens ▸ hw, hentries⟩
  | stream | ref | tupleAt => exact hr.elim
  | _ => cases hr; cases hv

/-- The cell of a number holds some data. -/
def Holds (h : Heap) (id : Nat) (data : Value) : Prop :=
  ∃ cell v, h.cell? id = some cell ∧ h.Opens v cell ∧ h.ReadsAs v data

theorem Holds.unique {id : Nat} {data data' : Value} (hid : h.Holds id data) (hid' : h.Holds id data') :
    data = data' := by
  obtain ⟨cell, v, hcell, hv, hr⟩ := hid
  obtain ⟨cell', v', hcell', hv', hr'⟩ := hid'
  cases hcell.symm.trans hcell'
  exact hr.unique (hr'.of_opens hv' hv)

/-- The cells of the numbers are different and hold more than data of a size. So data of that size are in none of
them. -/
structure Surrounds (h : Heap) (around : List Nat) (size : Nat) : Prop where
  nodup : around.Nodup
  lt : ∀ id ∈ around, id < h.size
  holds : ∀ id ∈ around, ∃ data, h.Holds id data ∧ size ≤ sizeOf data

theorem Surrounds.mono {around : List Nat} {size size' : Nat} (ha : h.Surrounds around size)
    (hle : size' ≤ size) : h.Surrounds around size' := by
  refine ⟨ha.nodup, ha.lt, fun id hid => ?_⟩
  obtain ⟨data, hdata, hsize⟩ := ha.holds id hid
  exact ⟨data, hdata, Nat.le_trans hle hsize⟩

/-- There are no more cells around than there are cells. -/
theorem Surrounds.length_le {around : List Nat} {size : Nat} (ha : h.Surrounds around size) :
    around.length ≤ h.size := by
  have hsub : around ⊆ List.range h.size := fun id hid => List.mem_range.2 (ha.lt id hid)
  simpa using (List.Nodup.subperm ha.nodup hsub).length_le

/-- Going into a cell that holds data. -/
theorem Surrounds.enter {around : List Nat} {id : Nat} {data : Value}
    (ha : h.Surrounds around (sizeOf data + 1)) (hid : h.Holds id data) :
    around.contains id = false ∧ h.Surrounds (id :: around) (sizeOf data) := by
  have hnot : id ∉ around := by
    intro hmem
    obtain ⟨data', hdata', hsize⟩ := ha.holds id hmem
    cases hid.unique hdata'
    omega
  refine ⟨by simpa using hnot, List.nodup_cons.2 ⟨hnot, ha.nodup⟩, ?_, ?_⟩
  · obtain ⟨cell, -, hcell, -⟩ := hid
    exact List.forall_mem_cons.2 ⟨(List.getElem?_eq_some_iff.1 hcell).1, ha.lt⟩
  · refine List.forall_mem_cons.2 ⟨⟨data, hid, Nat.le_refl _⟩, fun other hother => ?_⟩
    exact (ha.mono (Nat.le_succ _)).holds other hother

/-- A reference to a list, tuple or mapping that holds data is settled to what the cell is settled to inside itself. -/
theorem known_of_holds {id depth : Nat} {around : List Nat} {data : Value} {cell : Cell}
    (ha : h.Surrounds around (sizeOf data + 1)) (hdepth : h.size < depth + around.length)
    (hcell : h.cell? id = some cell) (hid : h.Holds id data) :
    ∃ depth', h.known depth around id = h.settleCell (h.known depth' (id :: around)) cell ∧
      h.size < depth' + (id :: around).length := by
  obtain ⟨hnot, -⟩ := ha.enter hid
  have hlength := ha.length_le
  obtain _ | depth := depth
  · omega
  refine ⟨depth, ?_, ?_⟩
  · rw [known, hcell]
    simp only [hnot, Bool.and_false, Bool.false_eq_true, if_false]
  · rw [List.length_cons]
    omega

mutual

/-- Following references leads through data to the end, and finds just the data. -/
theorem ReadsAs.fill_eq : ∀ {v data : Value} {depth : Nat} {around : List Nat}, h.ReadsAs v data →
    h.Surrounds around (sizeOf data + 1) → h.size < depth + around.length →
    v.fill (h.known depth around) = data
  | v, .list data, depth, around, hr, ha, hdepth => by
      obtain ⟨items, hopens, hitems⟩ := hr
      cases hopens with
      | list => rw [Value.fill, AllReadAs.fillAll_eq hitems (ha.mono (by simp; omega)) hdepth]
      | @listAt id _ hcell =>
          have hid : h.Holds id (.list data) := ⟨_, _, hcell, .list, ⟨items, .list, hitems⟩⟩
          obtain ⟨depth', hknown, hdepth'⟩ := known_of_holds ha hdepth hcell hid
          rw [Value.fill, hknown, settleCell,
            AllReadAs.fillAll_eq hitems ((ha.enter hid).2.mono (by simp)) hdepth']
  | v, .tuple data, depth, around, hr, ha, hdepth => by
      obtain ⟨items, hopens, hitems⟩ := hr
      cases hopens with
      | tuple => rw [Value.fill, AllReadAs.fillAll_eq hitems (ha.mono (by simp; omega)) hdepth]
      | @tupleAt id _ hcell =>
          have hid : h.Holds id (.tuple data) := ⟨_, _, hcell, .tuple, ⟨items, .tuple, hitems⟩⟩
          obtain ⟨depth', hknown, hdepth'⟩ := known_of_holds ha hdepth hcell hid
          rw [Value.fill, hknown, settleCell,
            AllReadAs.fillAll_eq hitems ((ha.enter hid).2.mono (by simp)) hdepth']
  | v, .map data, depth, around, hr, ha, hdepth => by
      obtain ⟨entries, hopens, hentries⟩ := hr
      cases hopens with
      | map => rw [Value.fill, EntriesReadAs.fillEntries_eq hentries (ha.mono (by simp; omega)) hdepth]
      | @mapAt id _ hcell =>
          have hid : h.Holds id (.map data) := ⟨_, _, hcell, .map, ⟨entries, .map, hentries⟩⟩
          obtain ⟨depth', hknown, hdepth'⟩ := known_of_holds ha hdepth hcell hid
          rw [Value.fill, hknown, settleCell,
            EntriesReadAs.fillEntries_eq hentries ((ha.enter hid).2.mono (by simp)) hdepth']
  | _, .null, _, _, rfl, _, _ | _, .bool _, _, _, rfl, _, _ | _, .int _, _, _, rfl, _, _
  | _, .float _, _, _, rfl, _, _ | _, .text _, _, _, rfl, _, _ | _, .style _, _, _, rfl, _, _
  | _, .bytes _, _, _, rfl, _, _ | _, .object _, _, _, rfl, _, _ | _, .decimal _, _, _, rfl, _, _ => rfl

theorem AllReadAs.fillAll_eq : ∀ {items data : List Value} {depth : Nat} {around : List Nat},
    h.AllReadAs items data → h.Surrounds around (sizeOf data) → h.size < depth + around.length →
    Value.fillAll (h.known depth around) items = data
  | _, [], _, _, rfl, _, _ => rfl
  | _, _ :: _, _, _, hitems, ha, hdepth => by
      obtain ⟨v, items', rfl, hfirst, hrest⟩ := hitems
      rw [Value.fillAll, hfirst.fill_eq (ha.mono (by simp; omega)) hdepth,
        AllReadAs.fillAll_eq hrest (ha.mono (by simp)) hdepth]

theorem EntriesReadAs.fillEntries_eq : ∀ {entries data : Row} {depth : Nat} {around : List Nat},
    h.EntriesReadAs entries data → h.Surrounds around (sizeOf data) → h.size < depth + around.length →
    Value.fillEntries (h.known depth around) entries = data
  | _, [], _, _, rfl, _, _ => rfl
  | _, (_, _) :: _, _, _, hentries, ha, hdepth => by
      obtain ⟨k, v, entries', rfl, -, hk, hv, hrest⟩ := hentries
      rw [Value.fillEntries, hk.fill_eq (ha.mono (by simp; omega)) hdepth,
        hv.fill_eq (ha.mono (by simp; omega)) hdepth, EntriesReadAs.fillEntries_eq hrest (ha.mono (by simp)) hdepth]

end

/-- **A value settles to the data that it reads as.** -/
theorem ReadsAs.settle_eq {data : Value} (hr : h.ReadsAs v data) : h.settle v = data := by
  refine hr.fill_eq ⟨List.nodup_nil, by simp, by simp⟩ ?_
  rw [greatestDepth, List.length_nil]
  omega

end Heap

end FluentSql
