import FluentSql.Value.Key
/-
# FluentSql.Changes — a row and what has been edited since it was saved.

Beside the data of the row stand the dirty fields: those written since the last save, each with its
latest value, in the order in which they became dirty. Some of them are inlined, which means that
their value is SQL text that goes into the statement instead of being bound. Fields are keys of the
row, texts as a rule.
-/

namespace FluentSql

/-- A row with its edits. -/
structure Changes where
  data : Row := []
  dirty : Row := []
  /-- The dirty fields whose value is SQL text. -/
  inlined : List Value := []
  /-- Whether the row is still to be inserted. -/
  isNew : Bool := false
  deriving Repr, Inhabited

namespace Changes

/-- A row that was read: nothing is dirty. -/
def ofRow (row : Row) : Changes := { data := row }

/-- Replaces the data and leaves the edits. -/
def hydrate (row : Row) (c : Changes) : Changes := { c with data := row }

/-- The fields that are in two collections, as the smaller one has them, or the second of two of one
size. -/
def commonFields (fields others : List Value) : List Value :=
  if fields.length < others.length then fields.filter fun field => others.contains field
  else others.filter fun field => fields.contains field

/-- Makes exactly the present fields dirty. -/
def forceAllDirty (c : Changes) : Changes :=
  { c with dirty := c.data, inlined := commonFields c.inlined (Entries.keys c.data) }

/-- The fields with one more. A field that is among them stays as it is. -/
def includeField (field : Value) (fields : List Value) : List Value :=
  if fields.contains field then fields else fields ++ [field]

/-- The fields without one. -/
def excludeField (field : Value) (fields : List Value) : List Value :=
  fields.filter fun other => !(other == field)

/-- Writes a field, as SQL text or as a value to bind. -/
def set (field value : Value) (asSql : Bool) (c : Changes) : Changes :=
  { c with
    data := Entries.put field value c.data
    dirty := Entries.put field value c.dirty
    inlined := if asSql then includeField field c.inlined else excludeField field c.inlined }

/-- Writes several fields. -/
def setAll (fields : Row) (asSql : Bool) (c : Changes) : Changes :=
  fields.foldl (fun acc e => set e.1 e.2 asSql acc) c

/-- Removes a field and its edits. -/
def unset (field : Value) (c : Changes) : Changes :=
  { c with
    data := Entries.erase field c.data
    dirty := Entries.erase field c.dirty
    inlined := excludeField field c.inlined }

/-- Forgets all edits. -/
def markClean (c : Changes) : Changes := { c with dirty := [], inlined := [] }

/-- Whether the field was edited. -/
def isDirty (field : Value) (c : Changes) : Bool := Entries.contains field c.dirty

/-- Whether anything was edited. -/
def hasChanges (c : Changes) : Bool := !c.dirty.isEmpty || !c.inlined.isEmpty

/-- Whether the value of the field is SQL text. -/
def isInlined (field : Value) (c : Changes) : Bool := c.inlined.contains field

/-- The dirty values that are bound, in order. -/
def boundValues (c : Changes) : List Value :=
  (c.dirty.filter fun e => !c.isInlined e.1).map (·.2)

/-- The changes with the values of the inlined fields replaced. -/
def mapInlined (f : Value → Value) (c : Changes) : Changes :=
  { c with dirty := c.dirty.map fun e => if c.isInlined e.1 then (e.1, f e.2) else e }

theorem contains_includeField (field other : Value) (fields : List Value) :
    (includeField field fields).contains other = (fields.contains other || other == field) := by
  unfold includeField
  split
  · rename_i hcontains
    by_cases hother : other == field
    · rw [List.contains_congr hother, hcontains, Bool.true_or]
    · rw [Bool.eq_false_iff.2 hother, Bool.or_false]
  · rw [List.contains_append]
    simp

theorem contains_excludeField (field other : Value) (fields : List Value) :
    (excludeField field fields).contains other = (fields.contains other && !(other == field)) := by
  unfold excludeField
  induction fields with
  | nil => rfl
  | cons first fields ih =>
    rw [List.filter_cons, List.contains_cons]
    by_cases hfirst : first == field
    · have hsame : (other == first) = (other == field) := BEq.congr_right hfirst
      simp only [hfirst, Bool.not_true, Bool.false_eq_true, if_false, ih, hsame]
      cases other == field <;> simp
    · simp only [hfirst, Bool.not_false, if_true, List.contains_cons, ih]
      by_cases hother : other == first
      · have hne : (other == field) = false := by
          rw [BEq.congr_left hother]
          exact Bool.eq_false_iff.2 hfirst
        simp [hother, hne]
      · simp [hother]

end Changes

end FluentSql
