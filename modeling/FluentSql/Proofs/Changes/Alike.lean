import FluentSql.Changes
import FluentSql.Proofs.Heap.Same
/-
# FluentSql.Proofs.Changes.Alike — rows that differ in the values they bind only.

Two rows, each with its heap, are alike if they have the same fields and the same edits. The values of a field may
differ as long as it is bound; where it is SQL text they are the same data (`Changes.Alike`). Writing and removing
fields keeps rows alike. So does replacing the data, provided that no field that is SQL text gets a different value:
all fields of the new data can become dirty, and those that were SQL text still are then.
-/

namespace FluentSql

/-! ## Rows -/

namespace Heap

/-- Fields of the same name. Their values are the same data if the name has a property. -/
inductive SameField (h h' : Heap) (P : String → Prop) : Value × Value → Value × Value → Prop
  | of {name v v'} : (P name → h.Same h' v v') → SameField h h' P (.text name, v) (.text name, v')

/-- Rows with the same fields, each of them once. -/
structure SameFields (h h' : Heap) (P : String → Prop) (row row' : Row) : Prop where
  distinct : (Entries.keys row).Nodup
  fields : List.Forall₂ (h.SameField h' P) row row'

variable {h h' g g' : Heap} {P Q : String → Prop} {row row' : Row}

theorem SameField.retain {e e' : Value × Value} (he : h.SameField h' P e e') (hg : h.Retains g)
    (hg' : h'.Retains g') : g.SameField g' P e e' := by
  cases he with
  | of hsame => exact .of fun hP => (hsame hP).retain hg hg'

theorem SameFields.retain (hrow : h.SameFields h' P row row') (hg : h.Retains g) (hg' : h'.Retains g') :
    g.SameFields g' P row row' :=
  ⟨hrow.distinct, hrow.fields.imp fun _ _ he => he.retain hg hg'⟩

theorem SameFields.nil : h.SameFields h' P [] [] := ⟨List.nodup_nil, .nil⟩

theorem keys_eq_of_sameField (hfields : List.Forall₂ (h.SameField h' P) row row') :
    Entries.keys row = Entries.keys row' := by
  induction hfields with
  | nil => rfl
  | cons hfirst _ ih =>
      cases hfirst
      rw [Entries.keys, Entries.keys] at ih
      rw [Entries.keys, Entries.keys, List.map_cons, List.map_cons, ih]

theorem exists_text_of_sameField (hfields : List.Forall₂ (h.SameField h' P) row row') :
    ∀ e ∈ row, ∃ name, e.1 = .text name := by
  induction hfields with
  | nil => simp
  | cons hfirst _ ih =>
      cases hfirst
      exact List.forall_mem_cons.2 ⟨⟨_, rfl⟩, ih⟩

/-- The fields for whose names something else holds are the same if it holds for those only that were the same. -/
theorem SameFields.mono (hrow : h.SameFields h' P row row')
    (hle : ∀ name, .text name ∈ Entries.keys row → Q name → P name) : h.SameFields h' Q row row' := by
  refine ⟨hrow.distinct, ?_⟩
  have hfields := hrow.fields
  clear hrow
  induction hfields with
  | nil => exact .nil
  | @cons e e' rest rest' hfirst _ ih =>
      have hkeys : Entries.keys (e :: rest) = e.1 :: Entries.keys rest := rfl
      rw [hkeys] at hle
      refine .cons ?_ (ih fun name hname => hle name (List.mem_cons_of_mem _ hname))
      cases hfirst with
      | of hsame => exact .of fun hQ => hsame (hle _ List.mem_cons_self hQ)

theorem SameFields.put (hrow : h.SameFields h' P row row') {name : String} {v v' : Value}
    (hv : Q name → h.Same h' v v') (hle : ∀ other, other ≠ name → Q other → P other) :
    h.SameFields h' Q (Entries.put (.text name) v row) (Entries.put (.text name) v' row') := by
  obtain ⟨hdistinct, hfields⟩ := hrow
  have htexts := exists_text_of_sameField hfields
  constructor
  · have hkeys := Entries.keys_put (.text name) v row
    rw [hkeys]
    split
    · exact hdistinct
    · rename_i hnone
      refine List.nodup_append.2 ⟨hdistinct, by simp, ?_⟩
      rintro key hkey _ hname rfl
      rw [List.mem_singleton] at hname
      subst hname
      refine hnone ?_
      rw [Entries.contains_eq_any_keys, List.any_eq_true]
      exact ⟨_, hkey, BEq.rfl⟩
  · clear htexts
    induction hfields with
    | nil => exact .cons (.of hv) .nil
    | @cons e e' rest rest' hfirst hrest ih =>
        obtain ⟨hnot, hrestDistinct⟩ := List.nodup_cons.1 (show (e.1 :: Entries.keys rest).Nodup from hdistinct)
        cases hfirst with
        | @of other w w' hw =>
            rw [Entries.put, Entries.put, Value.text_beq_text]
            by_cases hname : other = name
            · subst hname
              rw [beq_self_eq_true, if_pos rfl, if_pos rfl]
              -- No other field has the name, so the others are the same as before.
              have hrow : h.SameFields h' P rest rest' := ⟨hrestDistinct, hrest⟩
              refine .cons (.of hv) (hrow.mono fun key hkey hQ => ?_).fields
              refine hle key ?_ hQ
              rintro rfl
              exact hnot hkey
            · rw [beq_false_of_ne hname, if_neg Bool.false_ne_true, if_neg Bool.false_ne_true]
              exact .cons (.of fun hQ => hw (hle other hname hQ)) (ih hrestDistinct)

theorem SameFields.erase (hrow : h.SameFields h' P row row') (name : String) :
    h.SameFields h' P (Entries.erase (.text name) row) (Entries.erase (.text name) row') := by
  refine ⟨hrow.distinct.sublist (Entries.keys_erase_sublist _ _), ?_⟩
  have hfields := hrow.fields
  clear hrow
  induction hfields with
  | nil => exact .nil
  | cons hfirst hrest ih =>
      cases hfirst with
      | @of other w w' hw =>
          rw [Entries.erase, Entries.erase, Value.text_beq_text]
          split
          · exact hrest
          · exact .cons (.of hw) ih

end Heap

/-! ## Edits -/

namespace Changes

/-- The value of the field of that name is SQL text. -/
def Inlines (c : Changes) (name : String) : Prop := c.isInlined (.text name) = true

/-- Rows with the same fields in their data and the same edits. The values of the fields that are SQL text are the
same data. -/
structure Alike (h h' : Heap) (c c' : Changes) : Prop where
  data : h.SameFields h' c.Inlines c.data c'.data
  dirty : h.SameFields h' c.Inlines c.dirty c'.dirty
  inlined : c.inlined = c'.inlined
  named : ∀ field ∈ c.inlined, ∃ name, field = .text name
  isNew : c.isNew = c'.isNew

variable {h h' g g' : Heap} {c c' : Changes}

theorem Alike.retain (hc : Alike h h' c c') (hg : h.Retains g) (hg' : h'.Retains g') : Alike g g' c c' :=
  ⟨hc.data.retain hg hg', hc.dirty.retain hg hg', hc.inlined, hc.named, hc.isNew⟩

/-- Writing a field settles whether it is SQL text, and no other field. -/
theorem inlines_set (name other : String) (v : Value) (asSql : Bool) (c : Changes) :
    (c.set (.text name) v asSql).Inlines other ↔ if other = name then asSql = true else c.Inlines other := by
  unfold Inlines isInlined set
  cases asSql with
  | true =>
      simp only [if_true, contains_includeField, Value.text_beq_text, Bool.or_eq_true, beq_iff_eq]
      by_cases hname : other = name <;> simp [hname]
  | false =>
      simp only [Bool.false_eq_true, if_false, contains_excludeField, Value.text_beq_text, Bool.and_eq_true,
        Bool.not_eq_true', beq_eq_false_iff_ne]
      by_cases hname : other = name <;> simp [hname]

theorem named_set {fields : List Value} (hnamed : ∀ field ∈ fields, ∃ name, field = .text name) (name : String)
    (asSql : Bool) : ∀ field ∈ if asSql then includeField (.text name) fields else excludeField (.text name) fields,
      ∃ name, field = .text name := by
  cases asSql with
  | true =>
      rw [if_pos rfl, includeField]
      split
      · exact hnamed
      · intro field hfield
        rcases List.mem_append.1 hfield with hfield | hfield
        · exact hnamed field hfield
        · exact ⟨name, List.mem_singleton.1 hfield⟩
  | false =>
      rw [if_neg Bool.false_ne_true, excludeField]
      exact fun field hfield => hnamed field (List.mem_filter.1 hfield).1

theorem Alike.set (hc : Alike h h' c c') {name : String} {v v' : Value} {asSql : Bool}
    (hv : asSql = true → h.Same h' v v') : Alike h h' (c.set (.text name) v asSql) (c'.set (.text name) v' asSql) := by
  have hwritten : (c.set (.text name) v asSql).Inlines name → h.Same h' v v' := by
    rw [inlines_set, if_pos rfl]
    exact hv
  have hother : ∀ other, other ≠ name → (c.set (.text name) v asSql).Inlines other → c.Inlines other := by
    intro other hne hin
    rwa [inlines_set, if_neg hne] at hin
  refine ⟨hc.data.put hwritten hother, hc.dirty.put hwritten hother, ?_, named_set hc.named name asSql, hc.isNew⟩
  rw [Changes.set, Changes.set, hc.inlined]

theorem Alike.setAll {fields fields' : Row} {asSql : Bool}
    (hfields : List.Forall₂ (h.SameField h' fun _ => asSql = true) fields fields') (hc : Alike h h' c c') :
    Alike h h' (c.setAll fields asSql) (c'.setAll fields' asSql) := by
  induction hfields generalizing c c' with
  | nil => exact hc
  | cons hfirst _ ih =>
      cases hfirst with
      | of hv => exact ih (hc.set hv)

theorem Alike.unset (hc : Alike h h' c c') (name : String) :
    Alike h h' (c.unset (.text name)) (c'.unset (.text name)) := by
  have hle : ∀ other, (c.unset (.text name)).Inlines other → c.Inlines other := by
    intro other hin
    rw [Inlines, isInlined, Changes.unset, contains_excludeField, Bool.and_eq_true] at hin
    exact hin.1
  refine ⟨(hc.data.erase name).mono fun other _ => hle other, (hc.dirty.erase name).mono fun other _ => hle other,
    ?_, fun field hfield => hc.named field (List.mem_filter.1 hfield).1, hc.isNew⟩
  rw [Changes.unset, Changes.unset, hc.inlined]

theorem Alike.hydrate (hc : Alike h h' c c') {row row' : Row} (hrow : h.SameFields h' c.Inlines row row') :
    Alike h h' (c.hydrate row) (c'.hydrate row') :=
  ⟨hrow, hc.dirty, hc.inlined, hc.named, hc.isNew⟩

theorem contains_of_contains_commonFields {fields others : List Value} {field : Value}
    (hfield : (commonFields fields others).contains field = true) : fields.contains field = true := by
  rw [List.contains_eq_any_beq, List.any_eq_true] at hfield
  obtain ⟨same, hsame, hbeq⟩ := hfield
  have hin : fields.contains same = true := by
    rw [commonFields] at hsame
    split at hsame
    · rw [List.contains_eq_any_beq, List.any_eq_true]
      exact ⟨same, (List.mem_filter.1 hsame).1, BEq.rfl⟩
    · exact (List.mem_filter.1 hsame).2
  rw [List.contains_eq_any_beq, List.any_eq_true] at hin ⊢
  obtain ⟨found, hfound, hbeq'⟩ := hin
  exact ⟨found, hfound, BEq.trans hbeq hbeq'⟩

/-- All fields become dirty. Those that are SQL text then were SQL text before. -/
theorem Alike.forceAllDirty (hc : Alike h h' c c') : Alike h h' c.forceAllDirty c'.forceAllDirty := by
  have hle : ∀ name, .text name ∈ Entries.keys c.data → c.forceAllDirty.Inlines name → c.Inlines name :=
    fun name _ hin => contains_of_contains_commonFields hin
  refine ⟨hc.data.mono hle, hc.data.mono hle, ?_, ?_, hc.isNew⟩
  · rw [Changes.forceAllDirty, Changes.forceAllDirty, hc.inlined, Heap.keys_eq_of_sameField hc.data.fields]
  · intro field hfield
    rw [Changes.forceAllDirty, commonFields] at hfield
    split at hfield
    · exact hc.named field (List.mem_filter.1 hfield).1
    · obtain ⟨e, he, rfl⟩ := List.mem_map.1 (List.mem_filter.1 hfield).1
      exact Heap.exists_text_of_sameField hc.data.fields e he

theorem Alike.asNew (hc : Alike h h' c c') (isNew : Bool) : Alike h h' { c with isNew } { c' with isNew } :=
  ⟨hc.data, hc.dirty, hc.inlined, hc.named, rfl⟩

end Changes

end FluentSql
