import FluentSql.Changes.Edit
import FluentSql.Changes.Write
import FluentSql.Proofs.Changes.Consistency
import Mathlib.Data.List.Basic
import Mathlib.Data.List.Induction
/-
# FluentSql.Proofs.Changes.History — the dirty fields as a history of edits leaves them.

A field may be written and removed any number of times. What counts in the end is its last edit: the field is dirty if
that writes it, with the value and in the manner of that edit. Its place among the dirty fields, however, is that of the
first write since it was last removed, because writing a dirty field again leaves it where it is (`reflects_applyAll`).
-/

namespace FluentSql

/-- An entry is found under its key if no key is there twice. -/
theorem Entries.get?_of_mem {κ α : Type} [BEq κ] [EquivBEq κ] {entries : Entries κ α} (h : entries.Distinct) {e : κ × α}
    (he : e ∈ entries) : get? e.1 entries = some e.2 := by
  induction entries with
  | nil => cases he
  | cons first rest ih =>
      obtain ⟨hfirst, hrest⟩ := List.pairwise_cons.1 h
      rcases List.mem_cons.1 he with rfl | he
      · rw [get?, if_pos BEq.rfl]
      · have hne : (first.1 == e.1) = false := hfirst e.1 (List.mem_map_of_mem he)
        rw [get?, hne, if_neg Bool.false_ne_true]
        exact ih hrest he

namespace Changes

/-! ## Histories -/

/-- An edit of one field. -/
inductive FieldEdit where
  /-- The field is written, as a value to bind or as SQL text. -/
  | write (field value : Value) (asSql : Bool)
  | remove (field : Value)
  deriving Repr, Inhabited

namespace FieldEdit

/-- The field that is edited. -/
def field : FieldEdit → Value
  | write field _ _ => field
  | remove field => field

/-- The value that is written. -/
def value? : FieldEdit → Option Value
  | write _ value _ => some value
  | remove _ => none

/-- Whether the edit writes the field. -/
def writes (field : Value) : FieldEdit → Bool
  | write other _ _ => other == field
  | remove _ => false

/-- Whether the edit removes the field. -/
def removes (field : Value) : FieldEdit → Bool
  | write _ _ _ => false
  | remove other => other == field

/-- The right-hand side that the edit asks for: its value as text, with everything in place that it refers to, or to be
bound. -/
def right? (settle : Value → Value) : FieldEdit → Option Term
  | write _ value true => some (.inlined (settle value).display)
  | write _ value false => some (.bound value)
  | remove _ => none

/-- The operation on the row. -/
def edit : FieldEdit → Edit
  | write field value asSql => .set field value asSql
  | remove field => .unset field

end FieldEdit

/-- The last edit of a field. -/
def lastOf? (field : Value) (history : List FieldEdit) : Option FieldEdit :=
  (history.filter (·.field == field)).getLast?

/-- Where a field was first written since it was last removed: the first place where it is written and behind which it
is not removed any more. -/
def firstWrite (field : Value) : List FieldEdit → Nat
  | [] => 0
  | edit :: rest =>
    if edit.writes field && !rest.any (FieldEdit.removes field) then 0 else firstWrite field rest + 1

/-- The edits of a row are what a history of them leaves of a row without edits. -/
structure Reflects (history : List FieldEdit) (c : Changes) : Prop where
  /-- A field is dirty if its last edit writes it, with the value of that edit. -/
  value : ∀ field, Entries.get? field c.dirty = (lastOf? field history).bind FieldEdit.value?
  once : Entries.Distinct c.dirty
  /-- The dirty fields are in the order in which they were first written since they were last removed. -/
  order : (Entries.keys c.dirty).Pairwise fun field other => firstWrite field history < firstWrite other history
  /-- They are called what they were called there. -/
  name : ∀ field ∈ Entries.keys c.dirty,
    ∃ value asSql, history[firstWrite field history]? = some (.write field value asSql)
  /-- A field is inlined if its last edit writes SQL text. -/
  inlined : ∀ field, c.isInlined field = true ↔ ∃ key value, lastOf? field history = some (.write key value true)

variable {c : Changes} {history : List FieldEdit} {edit : FieldEdit} {field : Value}

/-! ## The last edit of a field -/

theorem lastOf?_concat (field : Value) (history : List FieldEdit) (edit : FieldEdit) :
    lastOf? field (history ++ [edit]) = if edit.field == field then some edit else lastOf? field history := by
  by_cases h : edit.field == field <;> simp [lastOf?, h]

/-! ## The first write of a field -/

theorem firstWrite_concat (field : Value) (history : List FieldEdit) (edit : FieldEdit) :
    firstWrite field (history ++ [edit]) =
      if edit.removes field then history.length + 1
      else if firstWrite field history < history.length then firstWrite field history
      else if edit.writes field then history.length else history.length + 1 := by
  induction history with
  | nil =>
      cases edit with
      | write key value asSql => by_cases h : key == field <;> simp [firstWrite, FieldEdit.writes, FieldEdit.removes, h]
      | remove key => simp [firstWrite, FieldEdit.writes]
  | cons first rest ih =>
      rw [List.cons_append, firstWrite, ih, List.any_append, List.any_cons, List.any_nil, Bool.or_false, firstWrite]
      cases hremoves : edit.removes field with
      | true => simp
      | false =>
          -- What is removed behind the first edit is what was removed before.
          by_cases hhere : first.writes field && !rest.any (FieldEdit.removes field)
          · simp [hhere]
          · simp only [Bool.or_false, Bool.false_eq_true, if_false, hhere, List.length_cons]
            by_cases hlt : firstWrite field rest < rest.length
            · rw [if_pos hlt, if_pos (Nat.succ_lt_succ hlt)]
            · rw [if_neg hlt, if_neg fun h => hlt (Nat.lt_of_succ_lt_succ h)]
              split <;> rfl

/-- A field that is written and not removed behind that was first written somewhere. -/
theorem firstWrite_lt_iff (field : Value) (history : List FieldEdit) :
    firstWrite field history < history.length ↔ ((lastOf? field history).bind FieldEdit.value?).isSome = true := by
  induction history using List.reverseRecOn with
  | nil => simp [firstWrite, lastOf?]
  | append_singleton history edit ih =>
      rw [firstWrite_concat, lastOf?_concat, List.length_append, List.length_singleton]
      cases edit with
      | remove key =>
          by_cases h : key == field
          · simp [FieldEdit.removes, FieldEdit.field, FieldEdit.value?, h]
          · rw [FieldEdit.field, if_neg h, ← ih]
            simp only [FieldEdit.removes, FieldEdit.writes, h, Bool.false_eq_true, if_false]
            split <;> omega
      | write key value asSql =>
          by_cases h : key == field
          · simp only [FieldEdit.removes, FieldEdit.writes, FieldEdit.field, FieldEdit.value?, h, Bool.false_eq_true,
              if_false, if_true, Option.bind_some, Option.isSome_some, iff_true]
            split <;> omega
          · rw [FieldEdit.field, if_neg h, ← ih]
            simp only [FieldEdit.removes, FieldEdit.writes, h, Bool.false_eq_true, if_false]
            split <;> omega

theorem firstWrite_concat_of_lt (hlt : firstWrite field history < history.length)
    (hremoves : edit.removes field = false) : firstWrite field (history ++ [edit]) = firstWrite field history := by
  rw [firstWrite_concat, hremoves, if_neg Bool.false_ne_true, if_pos hlt]

theorem firstWrite_concat_of_writes (hlt : ¬ firstWrite field history < history.length)
    (hwrites : edit.writes field = true) : firstWrite field (history ++ [edit]) = history.length := by
  have hremoves : edit.removes field = false := by
    cases edit with
    | write key value asSql => rfl
    | remove key => cases hwrites
  rw [firstWrite_concat, hremoves, if_neg Bool.false_ne_true, if_neg hlt, if_pos hwrites]

/-! ## Runs -/

theorem reflects_nil (h : c.hasChanges = false) : Reflects [] c := by
  obtain ⟨hdirty, hinlined⟩ := eq_nil_of_hasChanges_eq_false h
  refine ⟨?_, ?_, ?_, ?_, ?_⟩
  · intro field
    rw [hdirty]
    rfl
  · rw [hdirty]
    exact List.Pairwise.nil
  · rw [hdirty]
    exact List.Pairwise.nil
  · rw [hdirty]
    exact fun _ hfield => absurd hfield List.not_mem_nil
  · intro field
    simp [isInlined, hinlined, lastOf?]

namespace Reflects

variable (h : Reflects history c)
include h

theorem firstWrite_lt_iff_contains (field : Value) :
    firstWrite field history < history.length ↔ Entries.contains field c.dirty = true := by
  rw [firstWrite_lt_iff, Entries.contains, h.value]

theorem firstWrite_lt (hfield : field ∈ Entries.keys c.dirty) : firstWrite field history < history.length := by
  rw [h.firstWrite_lt_iff_contains, Entries.contains_eq_any_keys]
  exact List.any_eq_true.2 ⟨field, hfield, BEq.rfl⟩

theorem getElem?_concat_firstWrite (hfield : field ∈ Entries.keys c.dirty) (edit : FieldEdit) :
    ∃ value asSql, (history ++ [edit])[firstWrite field history]? = some (.write field value asSql) := by
  obtain ⟨value, asSql, hname⟩ := h.name field hfield
  exact ⟨value, asSql, by rw [List.getElem?_append_left (h.firstWrite_lt hfield), hname]⟩

/-- A field that is written keeps its place, or comes last if it has none. -/
theorem write (key value : Value) (asSql : Bool) :
    Reflects (history ++ [.write key value asSql]) (c.set key value asSql) := by
  have hkept : ∀ field ∈ Entries.keys c.dirty,
      firstWrite field (history ++ [.write key value asSql]) = firstWrite field history :=
    fun field hfield => firstWrite_concat_of_lt (h.firstWrite_lt hfield) rfl
  have horder : (Entries.keys c.dirty).Pairwise fun field other =>
      firstWrite field (history ++ [.write key value asSql]) <
        firstWrite other (history ++ [.write key value asSql]) := by
    refine h.order.imp_of_mem fun {field other} hfield hother hlt => ?_
    rwa [hkept field hfield, hkept other hother]
  have hnames : ∀ field ∈ Entries.keys c.dirty, ∃ value' asSql',
      (history ++ [.write key value asSql])[firstWrite field (history ++ [.write key value asSql])]? =
        some (.write field value' asSql') := by
    intro field hfield
    rw [hkept field hfield]
    exact h.getElem?_concat_firstWrite hfield _
  refine ⟨?_, h.once.put key value, ?_, ?_, ?_⟩
  · intro field
    rw [Changes.set, Entries.get?_put, lastOf?_concat, FieldEdit.field, h.value]
    by_cases hfield : key == field <;> simp [hfield, FieldEdit.value?]
  · simp only [Changes.set, Entries.keys_put]
    split
    · exact horder
    · rename_i hnew
      refine List.pairwise_append.2 ⟨horder, List.pairwise_singleton _ _, fun field hfield last hlast => ?_⟩
      rw [← h.firstWrite_lt_iff_contains] at hnew
      rw [List.mem_singleton.1 hlast, hkept field hfield, firstWrite_concat_of_writes hnew BEq.rfl]
      exact h.firstWrite_lt hfield
  · simp only [Changes.set, Entries.keys_put]
    split
    · exact hnames
    · rename_i hnew
      rw [← h.firstWrite_lt_iff_contains] at hnew
      refine List.forall_mem_append.2 ⟨hnames, List.forall_mem_singleton.2 ⟨value, asSql, ?_⟩⟩
      rw [firstWrite_concat_of_writes hnew BEq.rfl, List.getElem?_concat_length]
  · intro field
    have hold := h.inlined field
    rw [isInlined] at hold
    rw [lastOf?_concat, isInlined, Changes.set, FieldEdit.field]
    cases asSql with
    | true =>
        rw [if_pos rfl, contains_includeField, BEq.comm, Bool.or_eq_true, hold]
        by_cases hfield : key == field <;> simp [hfield]
    | false =>
        rw [if_neg Bool.false_ne_true, contains_excludeField, BEq.comm, Bool.and_eq_true, hold]
        by_cases hfield : key == field <;> simp [hfield]

/-- A field that is removed loses its place, and the others keep theirs. -/
theorem remove (key : Value) : Reflects (history ++ [.remove key]) (c.unset key) := by
  have hsublist := Entries.keys_erase_sublist key c.dirty
  have hkept : ∀ field ∈ Entries.keys (Entries.erase key c.dirty),
      firstWrite field (history ++ [.remove key]) = firstWrite field history := by
    intro field hfield
    refine firstWrite_concat_of_lt (h.firstWrite_lt (hsublist.subset hfield)) ?_
    have hgone := Entries.get?_eq_none_iff.1 (Entries.get?_erase_self h.once key) field hfield
    rwa [BEq.comm] at hgone
  refine ⟨?_, h.once.erase key, ?_, ?_, ?_⟩
  · intro field
    rw [Changes.unset, lastOf?_concat, FieldEdit.field]
    by_cases hfield : key == field
    · rw [if_pos hfield, ← Entries.get?_congr hfield, Entries.get?_erase_self h.once]
      rfl
    · have hne : (field == key) = false := by
        rw [BEq.comm]
        exact Bool.eq_false_iff.2 hfield
      rw [if_neg hfield, Entries.get?_erase_of_ne hne, h.value]
  · refine (h.order.sublist hsublist).imp_of_mem fun {field other} hfield hother hlt => ?_
    rwa [hkept field hfield, hkept other hother]
  · intro field hfield
    rw [hkept field hfield]
    exact h.getElem?_concat_firstWrite (hsublist.subset hfield) _
  · intro field
    have hold := h.inlined field
    rw [isInlined] at hold
    rw [lastOf?_concat, isInlined, Changes.unset, FieldEdit.field, contains_excludeField, BEq.comm, Bool.and_eq_true, hold]
    by_cases hfield : key == field <;> simp [hfield]

theorem apply (edit : FieldEdit) : Reflects (history ++ [edit]) (c.apply edit.edit) := by
  cases edit with
  | write key value asSql => exact h.write key value asSql
  | remove key => exact h.remove key

theorem applyAll (edits : List FieldEdit) : Reflects (history ++ edits) (c.applyAll (edits.map FieldEdit.edit)) := by
  induction edits generalizing history c with
  | nil => rwa [List.append_nil]
  | cons edit edits ih =>
      have hrest := ih (h.apply edit)
      rwa [List.append_assoc] at hrest

end Reflects

/-- **The dirty fields are what the history of edits leaves.** -/
theorem reflects_applyAll (hclean : c.hasChanges = false) (history : List FieldEdit) :
    Reflects history (c.applyAll (history.map FieldEdit.edit)) := (reflects_nil hclean).applyAll history

/-! ## What is written -/

/-- The right-hand sides that fields get from the last edits of them. -/
def rightsOf (settle : Value → Value) (history : List FieldEdit) (fields : List Value) : List Term :=
  fields.filterMap fun field => (lastOf? field history).bind (FieldEdit.right? settle)

theorem Reflects.lastOf?_eq (h : Reflects history c) {e : Value × Value} (he : e ∈ c.dirty) :
    ∃ key, lastOf? e.1 history = some (.write key e.2 (c.isInlined e.1)) := by
  have hvalue := h.value e.1
  rw [Entries.get?_of_mem h.once he] at hvalue
  cases hlast : lastOf? e.1 history with
  | none =>
      rw [hlast] at hvalue
      cases hvalue
  | some edit =>
      rw [hlast] at hvalue
      cases edit with
      | remove key => cases hvalue
      | write key value asSql =>
          obtain rfl : e.2 = value := Option.some.inj hvalue
          have hinlined : c.isInlined e.1 = asSql := by
            rw [Bool.eq_iff_iff, h.inlined, hlast]
            simp
          exact ⟨key, by rw [hinlined]⟩

/-- The statements of the row are made of the right-hand sides that the last edits ask for. -/
theorem Reflects.terms_eq (h : Reflects history c) (settle : Value → Value) :
    (c.mapInlined settle).terms = rightsOf settle history (Entries.keys c.dirty) := by
  have hinlined : ∀ field, (c.mapInlined settle).isInlined field = c.isInlined field := fun _ => rfl
  have hright : ∀ e ∈ c.dirty, (lastOf? e.1 history).bind (FieldEdit.right? settle) =
      some ((c.mapInlined settle).term (if c.isInlined e.1 then (e.1, settle e.2) else e)) := by
    intro e he
    obtain ⟨key, hlast⟩ := h.lastOf?_eq he
    rw [hlast, Option.bind_some]
    cases hsql : c.isInlined e.1 <;> simp [FieldEdit.right?, term, hinlined, hsql]
  rw [rightsOf, Entries.keys, List.filterMap_map, terms, mapInlined, List.map_map, ← List.filterMap_eq_map]
  exact (List.filterMap_congr hright).symm

end Changes

end FluentSql
