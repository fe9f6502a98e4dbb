import FluentSql.Changes
import FluentSql.Changes.Edit
import FluentSql.Proofs.Record.Addressing
/-
# FluentSql.Proofs.Changes.Consistency — what is dirty is what the row shows.

Every edit of a row keeps the inlined fields among the dirty ones (`IsSound`). So a row has changes exactly if some
field is dirty.

Edits change the data, the dirty fields and the inlined fields of a row one by one, and `hydrate` replaces the data
alone. Whatever the edits are, only dirty fields are inlined. If the data are replaced only while nothing is dirty, or
all fields are made dirty right afterwards, then every dirty field has the value that the data show
(`edits_are_shown`).

Rows are lists of entries, in which nothing keeps a key from standing twice. So the invariant compares all values
under a key, those of the dirty fields being the first of those of the data (`IsCovered`).
-/

namespace FluentSql

namespace Changes

variable {c : Changes}

/-- The inlined fields are among the dirty ones. -/
def IsSound (c : Changes) : Prop := ∀ field ∈ c.inlined, c.isDirty field = true

theorem IsSound.of_inlined_eq_nil (h : c.inlined = []) : c.IsSound := by
  intro field hfield
  rw [h] at hfield
  cases hfield

/-- A row has changes if some field of it is dirty. -/
theorem IsSound.hasChanges_iff (h : c.IsSound) : c.hasChanges = true ↔ c.dirty ≠ [] := by
  rw [hasChanges]
  cases hdirty : c.dirty with
  | cons e rest => simp
  | nil =>
      cases hinlined : c.inlined with
      | nil => simp
      | cons field rest =>
          -- An inlined field would be dirty.
          have hfield := h field (by rw [hinlined]; exact List.mem_cons_self)
          rw [isDirty, hdirty] at hfield
          cases hfield

theorem eq_nil_of_hasChanges_eq_false (h : c.hasChanges = false) : c.dirty = [] ∧ c.inlined = [] := by
  simpa [hasChanges] using h

theorem IsSound.set (h : c.IsSound) (field value : Value) (asSql : Bool) : (c.set field value asSql).IsSound := by
  intro other hother
  show Entries.contains other (Entries.put field value c.dirty) = true
  rw [Entries.contains_put, Bool.or_eq_true]
  cases asSql with
  | true =>
      rcases KeyColumns.mem_of_mem_includeField hother with hold | rfl
      · exact .inl (h other hold)
      · exact .inr BEq.rfl
  | false => exact .inl (h other (List.mem_filter.1 hother).1)

theorem IsSound.setAll (h : c.IsSound) (fields : Row) (asSql : Bool) : (c.setAll fields asSql).IsSound := by
  rw [Changes.setAll]
  induction fields generalizing c with
  | nil => exact h
  | cons e fields ih => exact ih (h.set e.1 e.2 asSql)

theorem IsSound.unset (h : c.IsSound) (field : Value) : (c.unset field).IsSound := by
  intro other hother
  obtain ⟨hold, hne⟩ := List.mem_filter.1 hother
  show Entries.contains other (Entries.erase field c.dirty) = true
  rw [Entries.contains, Entries.get?_erase_of_ne (by simpa using hne)]
  exact h other hold

/-- Once all fields are dirty, those that stay inlined are among them. -/
theorem isSound_forceAllDirty (c : Changes) : c.forceAllDirty.IsSound := by
  intro field hfield
  show Entries.contains field c.data = true
  have hcommon : field ∈ commonFields c.inlined (Entries.keys c.data) := hfield
  unfold commonFields at hcommon
  split at hcommon
  · obtain ⟨-, hkey⟩ := List.mem_filter.1 hcommon
    obtain ⟨key, hmem, hsame⟩ := List.contains_iff_exists_mem_beq.1 hkey
    rw [Entries.contains_eq_any_keys]
    exact List.any_eq_true.2 ⟨key, hmem, BEq.symm hsame⟩
  · rw [Entries.contains_eq_any_keys]
    exact List.any_eq_true.2 ⟨field, (List.mem_filter.1 hcommon).1, BEq.rfl⟩

end Changes

end FluentSql

namespace FluentSql

namespace Entries

theorem tail_prefix_tail {α : Type} {values more : List α} (h : values <+: more) : values.tail <+: more.tail := by
  obtain ⟨rest, rfl⟩ := h
  cases values with
  | nil => exact List.nil_prefix
  | cons value values => exact List.prefix_append values rest

variable {κ α : Type} [BEq κ]

/-- The values under a key, in order. There is one at most if no key stands twice. -/
def valuesOf (key : κ) (entries : Entries κ α) : List α := (entries.filter fun e => e.1 == key).map (·.2)

@[simp] theorem valuesOf_nil (key : κ) : valuesOf key ([] : Entries κ α) = [] := rfl

theorem valuesOf_cons (key : κ) (e : κ × α) (entries : Entries κ α) :
    valuesOf key (e :: entries) = if e.1 == key then e.2 :: valuesOf key entries else valuesOf key entries := by
  by_cases h : e.1 == key <;> simp [valuesOf, h]

theorem head?_valuesOf (key : κ) (entries : Entries κ α) : (valuesOf key entries).head? = get? key entries := by
  induction entries with
  | nil => rfl
  | cons e entries ih =>
      rw [valuesOf_cons, get?]
      split
      · rfl
      · exact ih

/-- Writing replaces the first value of the key. -/
theorem valuesOf_put [EquivBEq κ] (key other : κ) (value : α) (entries : Entries κ α) :
    valuesOf other (put key value entries) =
      if key == other then value :: (valuesOf other entries).tail else valuesOf other entries := by
  induction entries with
  | nil => simp [put, valuesOf_cons]
  | cons e entries ih =>
      rw [put]
      by_cases hkey : e.1 == key
      · have hsame : (e.1 == other) = (key == other) := BEq.congr_left hkey
        by_cases hother : key == other <;> simp [hkey, valuesOf_cons, hsame, hother]
      · by_cases hother : key == other
        · have hsame : (e.1 == other) = (e.1 == key) := (BEq.congr_right hother).symm
          simp [hkey, valuesOf_cons, hsame, ih, hother]
        · simp [hkey, valuesOf_cons, ih, hother]

/-- Removing takes the first value of the key away. -/
theorem valuesOf_erase [EquivBEq κ] (key other : κ) (entries : Entries κ α) :
    valuesOf other (erase key entries) =
      if key == other then (valuesOf other entries).tail else valuesOf other entries := by
  induction entries with
  | nil => simp [erase]
  | cons e entries ih =>
      rw [erase]
      by_cases hkey : e.1 == key
      · have hsame : (e.1 == other) = (key == other) := BEq.congr_left hkey
        by_cases hother : key == other <;> simp [hkey, valuesOf_cons, hsame, hother]
      · by_cases hother : key == other
        · have hsame : (e.1 == other) = (e.1 == key) := (BEq.congr_right hother).symm
          simp [hkey, valuesOf_cons, hsame, ih, hother]
        · simp [hkey, valuesOf_cons, ih, hother]

end Entries

namespace Changes

variable {c : Changes}

/-! ## Only dirty fields are inlined -/

theorem IsSound.apply (h : c.IsSound) (edit : Edit) : (c.apply edit).IsSound := by
  cases edit with
  | set field value asSql => exact h.set field value asSql
  | unset field => exact h.unset field
  | hydrate row => exact h
  | forceAllDirty => exact c.isSound_forceAllDirty
  | markClean => exact .of_inlined_eq_nil rfl
  | setNew isNew => exact h

theorem IsSound.applyAll (h : c.IsSound) (edits : List Edit) : (c.applyAll edits).IsSound := by
  induction edits generalizing c with
  | nil => exact h
  | cons edit edits ih => exact ih (h.apply edit)

/-! ## Dirty fields have the values of the data -/

/-- Every dirty field is a field of the data, with the same value. -/
def IsShown (c : Changes) : Prop :=
  ∀ field value, Entries.get? field c.dirty = some value → Entries.get? field c.data = some value

/-- The dirty values of each field are the first of its values in the data. -/
def IsCovered (c : Changes) : Prop :=
  ∀ field, Entries.valuesOf field c.dirty <+: Entries.valuesOf field c.data

theorem IsCovered.isShown (h : c.IsCovered) : c.IsShown := by
  intro field value hvalue
  obtain ⟨rest, hrest⟩ := h field
  rw [← Entries.head?_valuesOf] at hvalue ⊢
  rw [← hrest, List.head?_append, hvalue]
  rfl

theorem IsCovered.of_dirty_eq_nil (h : c.dirty = []) : c.IsCovered := by
  intro field
  rw [h]
  exact List.nil_prefix

theorem isCovered_forceAllDirty (c : Changes) : c.forceAllDirty.IsCovered := fun _ => List.prefix_refl _

theorem IsCovered.set (h : c.IsCovered) (field value : Value) (asSql : Bool) : (c.set field value asSql).IsCovered := by
  intro other
  simp only [Changes.set, Entries.valuesOf_put]
  split
  · exact List.cons_prefix_cons.2 ⟨rfl, Entries.tail_prefix_tail (h other)⟩
  · exact h other

theorem IsCovered.unset (h : c.IsCovered) (field : Value) : (c.unset field).IsCovered := by
  intro other
  simp only [Changes.unset, Entries.valuesOf_erase]
  split
  · exact Entries.tail_prefix_tail (h other)
  · exact h other

/-! ## Runs -/

/-- The data are replaced only while nothing is edited, or all fields are made dirty right afterwards. -/
def HydratesInStep (c : Changes) (edits : List Edit) : Prop :=
  ∀ before row after, edits = before ++ .hydrate row :: after →
    (c.applyAll before).hasChanges = false ∨ ∃ rest, after = .forceAllDirty :: rest

theorem hydratesInStep_nil (c : Changes) : c.HydratesInStep [] := by
  rintro (_ | _) row after hsplit <;> cases hsplit

theorem HydratesInStep.cons {edit : Edit} {edits : List Edit}
    (hfirst : ∀ row, edit = .hydrate row → c.hasChanges = false ∨ ∃ rest, edits = .forceAllDirty :: rest)
    (hrest : (c.apply edit).HydratesInStep edits) : c.HydratesInStep (edit :: edits) := by
  rintro (_ | ⟨first, before⟩) row after hsplit
  · obtain ⟨hedit, hedits⟩ := List.cons.inj hsplit
    exact hedits ▸ hfirst row hedit
  · obtain ⟨rfl, hedits⟩ := List.cons.inj hsplit
    exact hrest before row after hedits

theorem HydratesInStep.tail {edit : Edit} {edits : List Edit} (h : c.HydratesInStep (edit :: edits)) :
    (c.apply edit).HydratesInStep edits := by
  rintro before row after rfl
  exact h (edit :: before) row after rfl

/-- The dirty fields are covered, or all fields are made dirty next. -/
def IsCoveredBefore (edits : List Edit) (c : Changes) : Prop :=
  c.IsCovered ∨ ∃ rest, edits = .forceAllDirty :: rest

theorem IsCoveredBefore.apply {edit : Edit} {edits : List Edit} (hsteps : c.HydratesInStep (edit :: edits))
    (h : c.IsCoveredBefore (edit :: edits)) : (c.apply edit).IsCoveredBefore edits := by
  rcases h with h | ⟨rest, hnext⟩
  · cases edit with
    | set field value asSql => exact .inl (h.set field value asSql)
    | unset field => exact .inl (h.unset field)
    | forceAllDirty => exact .inl c.isCovered_forceAllDirty
    | markClean => exact .inl (.of_dirty_eq_nil rfl)
    | setNew isNew => exact .inl h
    | hydrate row =>
        rcases hsteps [] row edits rfl with hclean | hforced
        · exact .inl (.of_dirty_eq_nil (eq_nil_of_hasChanges_eq_false hclean).1)
        · exact .inr hforced
  · obtain ⟨rfl, -⟩ := List.cons.inj hnext
    exact .inl c.isCovered_forceAllDirty

theorem IsCoveredBefore.applyAll {edits : List Edit} (hsteps : c.HydratesInStep edits)
    (h : c.IsCoveredBefore edits) : (c.applyAll edits).IsCovered := by
  induction edits generalizing c with
  | nil =>
      rcases h with h | ⟨rest, hnil⟩
      · exact h
      · cases hnil
  | cons edit edits ih => exact ih hsteps.tail (h.apply hsteps)

/-- **Only dirty fields are inlined, and dirty fields have the values that the row shows.** The first holds after every
run of edits of a row, the second if the data are replaced only while nothing is edited, or all fields are made dirty
right afterwards. -/
theorem edits_are_shown (row : Row) (edits : List Edit) :
    (applyAll (.ofRow row) edits).IsSound ∧
      (HydratesInStep (.ofRow row) edits → (applyAll (.ofRow row) edits).IsShown) := by
  refine ⟨IsSound.applyAll (.of_inlined_eq_nil rfl) edits, fun hsteps => ?_⟩
  have hstart : (ofRow row).IsCoveredBefore edits := .inl (.of_dirty_eq_nil rfl)
  exact (hstart.applyAll hsteps).isShown

/-- The total of an order was edited when the order is created anew from other data; later it is saved, and read again
before it is edited once more. -/
def recreatedOrder : List Edit := [
  .set (.text "total") (.text "total + 1") true,
  .hydrate [(.text "note", .text "late"), (.text "total", .int 3)], .forceAllDirty, .setNew true,
  .unset (.text "note"), .markClean, .setNew false,
  .hydrate [(.text "total", .int 3)], .set (.text "total") (.int 4) false]

theorem edits_are_shown_recreatedOrder :
    HydratesInStep (.ofRow []) recreatedOrder ∧
      Entries.get? (.text "total") (applyAll (.ofRow []) recreatedOrder).data = some (.int 4) := by
  have hsteps : HydratesInStep (.ofRow []) recreatedOrder := by
    -- What is edited first is made dirty again, and what is read last meets a row without edits.
    refine .cons (fun _ => nofun) (.cons (fun _ _ => .inr ⟨_, rfl⟩) ?_)
    refine .cons (fun _ => nofun) (.cons (fun _ => nofun) (.cons (fun _ => nofun) (.cons (fun _ => nofun) ?_)))
    refine .cons (fun _ => nofun) (.cons (fun _ _ => .inl rfl) (.cons (fun _ => nofun) (hydratesInStep_nil _)))
  exact ⟨hsteps, (edits_are_shown [] recreatedOrder).2 hsteps _ _ rfl⟩

end Changes

end FluentSql
