import FluentSql.Record.Row
import FluentSql.Proofs.Query.Template
import FluentSql.Proofs.Record.Scope
/-
# FluentSql.Proofs.Record.Key — the key columns of a record and their values.

A record has a value for each of its key columns if these are names that are all different. Key columns
that repeat a name share a value, so there are fewer values then (`triple_keyValues`).
-/

namespace FluentSql

/-! ## Repeated keys -/

namespace Entries

variable {κ α : Type} [BEq κ]

theorem length_put (key : κ) (value : α) (entries : Entries κ α) :
    (put key value entries).length =
      if contains key entries then entries.length else entries.length + 1 := by
  have hkeys := congrArg List.length (keys_put key value entries)
  simp only [keys, List.length_map] at hkeys
  rw [hkeys]
  split <;> simp

theorem contains_put [EquivBEq κ] (key other : κ) (value : α) (entries : Entries κ α) :
    contains other (put key value entries) = (contains other entries || key == other) := by
  induction entries with
  | nil => by_cases hother : key == other <;> simp [put, contains, get?, hother]
  | cons e rest ih =>
      simp only [contains] at ih
      by_cases hkey : e.1 == key
      · have hsame : (key == other) = (e.1 == other) := (BEq.congr_left hkey).symm
        by_cases hother : e.1 == other <;> simp [put, contains, get?, hkey, hother, hsame]
      · by_cases hother : e.1 == other <;> simp [put, contains, get?, hkey, hother, ih]

theorem length_putAll_le (entries updates : Entries κ α) :
    (putAll entries updates).length ≤ entries.length + updates.length := by
  induction updates generalizing entries with
  | nil => exact Nat.le_refl _
  | cons e updates ih =>
      have hrest := ih (put e.1 e.2 entries)
      have hput := length_put e.1 e.2 entries
      have hcons : putAll entries (e :: updates) = putAll (put e.1 e.2 entries) updates := rfl
      rw [hcons, List.length_cons]
      split at hput <;> omega

/-- Writing adds as many entries as are written if no key is there before or written twice, and fewer
otherwise. -/
theorem length_putAll_eq_iff [EquivBEq κ] (entries updates : Entries κ α) :
    (putAll entries updates).length = entries.length + updates.length ↔
      (∀ e ∈ updates, contains e.1 entries = false) ∧
        (keys updates).Pairwise fun key other => (key == other) = false := by
  induction updates generalizing entries with
  | nil => simp [putAll, keys]
  | cons e updates ih =>
      have hcons : putAll entries (e :: updates) = putAll (put e.1 e.2 entries) updates := rfl
      have hput := length_put e.1 e.2 entries
      rw [hcons, List.length_cons]
      by_cases hcontains : contains e.1 entries = true
      · -- The key was there, so at least one entry is missing.
        have hle := length_putAll_le (put e.1 e.2 entries) updates
        rw [if_pos hcontains] at hput
        constructor
        · intro h
          omega
        · intro h
          rw [h.1 e List.mem_cons_self] at hcontains
          cases hcontains
      · rw [if_neg hcontains] at hput
        have hrest := ih (put e.1 e.2 entries)
        rw [hput] at hrest
        have hsum : entries.length + (updates.length + 1) = entries.length + 1 + updates.length := by
          omega
        rw [hsum, hrest]
        simp only [contains_put, Bool.or_eq_false_iff, List.forall_mem_cons, keys, List.map_cons,
          List.pairwise_cons, List.forall_mem_map]
        constructor
        · rintro ⟨hall, hpairwise⟩
          refine ⟨⟨by simpa using hcontains, ?_⟩, ?_, hpairwise⟩
          · intro u hu
            exact (hall u hu).1
          · intro u hu
            exact (hall u hu).2
        · rintro ⟨⟨-, hall⟩, hfirst, hpairwise⟩
          refine ⟨?_, hpairwise⟩
          intro u hu
          exact ⟨hall u hu, hfirst u hu⟩

/-- What holds of all keys and values that are written, and of those that were there, holds of all. -/
theorem forall_mem_put {K : κ → Prop} {V : α → Prop} {key : κ} {value : α} {entries : Entries κ α}
    (hkey : K key) (hvalue : V value) (h : ∀ e ∈ entries, K e.1 ∧ V e.2) :
    ∀ e ∈ put key value entries, K e.1 ∧ V e.2 := by
  induction entries with
  | nil => simpa [put] using ⟨hkey, hvalue⟩
  | cons first rest ih =>
      obtain ⟨⟨hfirst, hold⟩, hrest⟩ := List.forall_mem_cons.1 h
      by_cases hsame : first.1 == key
      · rw [put, if_pos hsame]
        exact List.forall_mem_cons.2 ⟨⟨hfirst, hvalue⟩, hrest⟩
      · rw [put, if_neg hsame]
        exact List.forall_mem_cons.2 ⟨⟨hfirst, hold⟩, ih hrest⟩

theorem forall_mem_ofPairs {K : κ → Prop} {V : α → Prop} {pairs : List (κ × α)}
    (h : ∀ e ∈ pairs, K e.1 ∧ V e.2) : ∀ e ∈ ofPairs pairs, K e.1 ∧ V e.2 := by
  suffices main : ∀ entries : Entries κ α, (∀ e ∈ entries, K e.1 ∧ V e.2) →
      ∀ e ∈ putAll entries pairs, K e.1 ∧ V e.2 from main [] (by simp)
  induction pairs with
  | nil => exact fun _ hentries => hentries
  | cons e pairs ih =>
      intro entries hentries
      obtain ⟨⟨hkey, hvalue⟩, hrest⟩ := List.forall_mem_cons.1 h
      exact ih hrest (put e.1 e.2 entries) (forall_mem_put hkey hvalue hentries)

end Entries

/-- The value is a name of the vocabulary. -/
def Vocabulary.Name (voc : Vocabulary) (v : Value) : Prop := ∃ name, v = .text name ∧ voc.names name

/-- The values are names of the vocabulary. -/
def Vocabulary.Names (voc : Vocabulary) (values : List Value) : Prop := ∀ v ∈ values, voc.Name v

/-- Pairs whose keys are names make as many entries as there are pairs exactly if no name is repeated. -/
theorem Entries.length_ofPairs_eq_iff {voc : Vocabulary} {pairs : Row} (h : voc.Names (keys pairs)) :
    (ofPairs pairs).length = pairs.length ↔ (keys pairs).Nodup := by
  have hiff := length_putAll_eq_iff [] pairs
  rw [List.length_nil, Nat.zero_add] at hiff
  rw [ofPairs, hiff]
  have hnone : ∀ e ∈ pairs, contains e.1 ([] : Row) = false := fun _ _ => rfl
  rw [and_iff_right hnone]
  refine List.Pairwise.iff_of_mem fun {a b} ha hb => ?_
  obtain ⟨name, rfl, -⟩ := h a ha
  obtain ⟨other, rfl, -⟩ := h b hb
  simp

/-! ## The key -/

theorem Heap.IsLike.keyOf {h h' : Heap} (hl : h.IsLike h') (table : String) (settings : Settings) :
    settings.keyOf h' table = settings.keyOf h table := by
  simp only [Settings.keyOf, hl.entries?]
  generalize (Entries.get? (Value.text table) _).getD settings.keyColumns = key
  rcases hl.content key with heq | ⟨rest, rest', hrest, hrest'⟩
  · rw [heq]
  · simp only [hrest, hrest']

/-- The parts of a value as a key: those of a mapping, or the value itself. -/
def Heap.parts (h : Heap) (v : Value) : List Value :=
  match h.entries? v with
  | some entries => Entries.values entries
  | none => [v]

namespace Record

open Step (Keeps Triple)
open Scope (Holds)

variable {E : Environment} {P : String → Prop} {s : Scope E}

/-- The key of the record: its own, or else the one that is configured for its table. -/
def Scope.key (s : Scope E) : KeyColumns :=
  s.record.ownKey.getD
    ((s.world.session.settingsOf s.record.connection).keyOf s.published.heap s.record.table)

theorem triple_key :
    Triple (Holds P s s.record) (key : Record.Action E KeyColumns)
      (fun key s' => Holds P s s.record s' ∧ key = s.key) (Holds P s s.record) := by
  refine triple_bindCurrent fun s' hs' => ?_
  rw [hs'.record]
  have hkey : s.key = s.record.ownKey.getD
      ((s.world.session.settingsOf s.record.connection).keyOf s.published.heap s.record.table) := rfl
  split
  · rename_i own hown
    rw [hown] at hkey
    exact Triple.pure fun _ hs => ⟨hs ▸ hs', hkey.symm⟩
  · rename_i hown
    rw [hown] at hkey
    refine Triple.bindKnown (I := Holds P s s.record)
      (R := fun settings => settings = s'.published.session.settingsOf s.record.connection) ?_
      fun settings hsettings => ?_
    · refine triple_inWorld hs' fun hmarks => ?_
      rintro _ rfl
      exact ⟨⟨Heap.Drains.refl _, .refl _, hmarks⟩, rfl⟩
    · refine triple_bindHeap fun t ht => Triple.pure ?_
      rintro _ rfl
      refine ⟨ht, ?_⟩
      rw [hsettings, ht.heap.keyOf, Scope.session_published, hs'.session.keyOf, hkey, Option.getD_none]

/-! ## The values of the key -/

theorem keeps_valueIn (h : Heap) (row : Row) (key : Value) : Keeps h.Drains (valueIn row key) := by
  unfold valueIn
  split
  · exact Keeps.pure _
  · refine Keeps.bind (Keeps.bind (Heap.keeps_forItems h key fun column => ?_) fun _ => Keeps.pure _)
      fun _ => Keeps.pure _
    exact Keeps.bind (Heap.keeps_entryOf? h column row) fun _ => Keeps.pure _

/-- The value of a column in the row of the record, which is null if there is none. -/
def Scope.valueOf (s : Scope E) (column : Value) : Value :=
  .ofOption (Entries.get? column s.record.changes.data)

/-- The value of the key of the record: that of its column, or a mapping of its columns. -/
def Scope.keyValue (s : Scope E) : Value :=
  match s.key with
  | .single column => s.valueOf column
  | .compound columns => .map (Entries.ofPairs (columns.map fun column => (column, s.valueOf column)))

variable {voc : Vocabulary}

theorem triple_fieldsIn {columns : List Value} (hcolumns : voc.Names columns) (row : Row) (h : Heap) :
    Triple (· = h) (fieldsIn row (.list columns))
      (fun fields h' => h.Drains h' ∧ fields =
        Entries.ofPairs (columns.map fun column => (column, .ofOption (Entries.get? column row))))
      h.Drains := by
  refine Triple.bind (R := fun pairs h' => h.Drains h' ∧
    pairs = columns.map fun column => (column, .ofOption (Entries.get? column row))) ?_ fun pairs => ?_
  · refine Triple.bindGet ?_
    rintro h rfl
    refine Triple.bind (R := fun all h' => h' = h ∧ all = columns) ?_ fun all => ?_
    · rintro _ rfl
      exact ⟨rfl, rfl⟩
    · refine Triple.of_states fun h' hstate => ?_
      obtain ⟨rfl, rfl⟩ := hstate
      refine (Triple.mapM_known (I := h'.Drains) fun column hcolumn => ?_).pre ?_
      · obtain ⟨name, rfl, -⟩ := hcolumns column hcolumn
        exact fun t ht => ⟨ht, rfl⟩
      · rintro _ rfl
        exact Heap.Drains.refl _
  · refine Triple.pure ?_
    rintro h' ⟨hd, rfl⟩
    exact ⟨hd, rfl⟩

theorem triple_keyValue (hcolumns : voc.Names s.key.columns) :
    Triple (Holds P s s.record) (keyValue : Record.Action E Value)
      (fun value s' => Holds P s s.record s' ∧ value = s.keyValue) (Holds P s s.record) := by
  refine Triple.bindKnown triple_key ?_
  rintro _ rfl
  unfold Scope.keyValue
  cases hkey : s.key with
  | single column =>
      obtain ⟨name, rfl, -⟩ := hcolumns column (by simp [hkey, KeyColumns.columns])
      refine triple_bindCurrent fun s' hs' => ?_
      rw [hs'.record]
      refine triple_inHeap hs' ?_
      rintro _ rfl
      exact ⟨Heap.Drains.refl _, rfl⟩
  | compound columns =>
      have hnames : voc.Names columns := by simpa [hkey, KeyColumns.columns] using hcolumns
      refine triple_bindCurrent fun s' hs' => ?_
      rw [hs'.record]
      refine triple_inHeap hs' ?_
      refine Triple.bind (triple_fieldsIn hnames _ _) fun fields => Triple.pure ?_
      rintro h' ⟨hd, rfl⟩
      exact ⟨hd, rfl⟩

/-- A value that is not refused is the value of the key. -/
theorem triple_presentKeyValue (hcolumns : voc.Names s.key.columns) :
    Triple (Holds P s s.record) (presentKeyValue : Record.Action E Value)
      (fun value s' => Holds P s s.record s' ∧ value = s.keyValue) (Holds P s s.record) := by
  refine Triple.bindKnown (triple_keyValue hcolumns) fun value hvalue => ?_
  have hrefuse : ∀ columns, Triple (Holds P s s.record)
      (do refuseNull columns; return value : Record.Action E Value)
      (fun value s' => Holds P s s.record s' ∧ value = s.keyValue) (Holds P s s.record) :=
    fun _ _ hs' => hs'
  refine triple_bindHeap fun s' hs' => ?_
  refine Triple.pre ?_ fun t (ht : t = s') => ht ▸ hs'
  split
  · split
    · exact hrefuse _
    · exact Triple.pure fun _ hs => ⟨hs, hvalue⟩
  · split
    · exact Triple.bindKnown triple_key fun key _ => hrefuse _
    · exact Triple.pure fun _ hs => ⟨hs, hvalue⟩

/-- The values that the row of the record is found by. -/
def Scope.keyParts (s : Scope E) : List Value := s.published.heap.parts s.keyValue

/-- **The values that a statement finds the row by are those that the key columns have in the data.** -/
theorem triple_keyValues_eq (hcolumns : voc.Names s.key.columns) :
    Triple (Holds P s s.record) (keyValues : Record.Action E (List Value))
      (fun values s' => Holds P s s.record s' ∧ values = s.keyParts) (Holds P s s.record) := by
  refine Triple.bindKnown (triple_presentKeyValue hcolumns) ?_
  rintro _ rfl
  refine triple_bindHeap fun s' hs' => ?_
  rw [hs'.heap.entries?]
  unfold Scope.keyParts Heap.parts
  cases s.published.heap.entries? s.keyValue with
  | some entries => exact Triple.pure fun _ hs => ⟨hs ▸ hs', rfl⟩
  | none => exact Triple.pure fun _ hs => ⟨hs ▸ hs', rfl⟩

/-- The value of a key of one column is no mapping. -/
def Scope.HasPlainKey (s : Scope E) : Prop :=
  ∀ column, s.key = .single column → ∀ value, Entries.get? column s.record.changes.data = some value →
    s.published.heap.entries? value = none

/-- A mapping of columns has a value for each of them if no column is repeated, and fewer values if one
is. -/
theorem length_keyParts (hcolumns : voc.Names s.key.columns) (hplain : s.HasPlainKey) :
    ∃ surplus, s.keyParts.length + surplus = s.key.columns.length ∧
      (surplus = 0 ↔ s.key.columns.Nodup) := by
  unfold Scope.keyParts Scope.keyValue
  cases hkey : s.key with
  | single column =>
      have hnone : s.published.heap.entries? (s.valueOf column) = none := by
        unfold Scope.valueOf
        cases hget : Entries.get? column s.record.changes.data with
        | none => rfl
        | some v => exact hplain column hkey v hget
      refine ⟨0, ?_, by simp [KeyColumns.columns]⟩
      simp [Heap.parts, hnone, KeyColumns.columns]
  | compound columns =>
      -- The values are those of a mapping with an entry for each different column.
      rw [hkey] at hcolumns
      dsimp only
      generalize hpairs : (columns.map fun column => (column, s.valueOf column)) = pairs
      have hparts : s.published.heap.parts (.map (Entries.ofPairs pairs)) =
          Entries.values (Entries.ofPairs pairs) := rfl
      rw [hparts]
      have hkeys : Entries.keys pairs = columns := by
        rw [← hpairs, Entries.keys, List.map_map]
        exact List.map_id columns
      have hle := Entries.length_putAll_le [] pairs
      have hnames : voc.Names (Entries.keys pairs) := hkeys ▸ hcolumns
      have hiff := Entries.length_ofPairs_eq_iff hnames
      have hlength : columns.length = pairs.length := by rw [← hkeys, Entries.keys, List.length_map]
      rw [List.length_nil, Nat.zero_add] at hle
      refine ⟨pairs.length - (Entries.ofPairs pairs).length, ?_, ?_⟩
      · simp only [Entries.values, List.length_map, KeyColumns.columns]
        unfold Entries.ofPairs
        omega
      · simp only [KeyColumns.columns]
        rw [← hkeys, ← hiff]
        unfold Entries.ofPairs
        omega

/-- **A record has a value for each of its key columns if no column is repeated, and fewer values if one
is.** -/
theorem triple_keyValues (hcolumns : voc.Names s.key.columns) (hplain : s.HasPlainKey) :
    Triple (Holds P s s.record) (keyValues : Record.Action E (List Value))
      (fun values s' => Holds P s s.record s' ∧ ∃ surplus,
        values.length + surplus = s.key.columns.length ∧ (surplus = 0 ↔ s.key.columns.Nodup))
      (Holds P s s.record) := by
  refine (triple_keyValues_eq hcolumns).post ?_
  rintro _ s' ⟨hs', rfl⟩
  exact ⟨hs', length_keyParts hcolumns hplain⟩

end Record

end FluentSql
