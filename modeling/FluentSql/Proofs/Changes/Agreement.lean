import FluentSql.Changes.Edit
import FluentSql.Record.Write
import FluentSql.Proofs.Record.Addressing
/-
# FluentSql.Proofs.Changes.Agreement — INSERT, UPDATE and DELETE of a row agree.

The right-hand sides of the dirty fields are terms: a placeholder with the value that it binds, or the text of an
inlined field. All three statements are made of terms (`Sql.ofTerms`), so their placeholders and their parameters are in
step from left to right by the way they are made. That they are made of the same right-hand sides, against the same
columns, holds of every row and every history of edits (`writes_agree`).
-/

namespace FluentSql

open Step (perform_bind_ok)

/-! ## Statements made of terms -/

/-- The statement that terms make: their texts one after the other, with the values that their placeholders bind. -/
def Sql.ofTerms (terms : List Term) : Sql where
  text := .text (String.join (terms.map Term.text))
  params := .positional (terms.filterMap Term.value?)

namespace Term

/-- The text of several terms. -/
def textOf (terms : List Term) : String := String.join (terms.map text)

@[simp] theorem textOf_nil : textOf [] = "" := rfl

@[simp] theorem textOf_cons (t : Term) (terms : List Term) : textOf (t :: terms) = t.text ++ textOf terms := by
  rw [textOf, List.map_cons, String.join_cons, textOf]

@[simp] theorem textOf_append (terms more : List Term) : textOf (terms ++ more) = textOf terms ++ textOf more := by
  induction terms with
  | nil => simp
  | cons t terms ih => rw [List.cons_append, textOf_cons, textOf_cons, ih, String.append_assoc]

/-- Groups of terms with a glue between them are written with the glue between their texts. -/
theorem textOf_intercalate (glue : String) (groups : List (List Term)) :
    textOf ([.inlined glue].intercalate groups) = glue.intercalate (groups.map textOf) := by
  induction groups with
  | nil => rfl
  | cons group groups ih =>
      cases groups with
      | nil => simp [List.intercalate]
      | cons next groups =>
          rw [List.intercalate_cons_cons, textOf_append, textOf_append, ih]
          simp [String.intercalate_cons_cons, text]

/-- The glue binds nothing. -/
theorem values_intercalate (glue : String) (groups : List (List Term)) :
    ([.inlined glue].intercalate groups).filterMap value? = groups.flatMap (List.filterMap value?) := by
  induction groups with
  | nil => rfl
  | cons group groups ih =>
      cases groups with
      | nil => simp [List.intercalate]
      | cons next groups =>
          rw [List.intercalate_cons_cons, List.filterMap_append, List.filterMap_append, ih]
          simp [value?]

end Term

namespace Changes

/-! ## What the statements are made of -/

/-- The right-hand sides of the dirty fields, with everything in place that their values refer to: the text of a field
that is inlined, and a placeholder for every other. -/
def rights (settle : Value → Value) (c : Changes) : List Term :=
  c.dirty.map fun e => if c.isInlined e.1 then .inlined (settle e.2).display else .bound (settle e.2)

/-- The condition that key columns have values: a placeholder for each column. -/
def keyTerms (r : Rendering) (columns : List String) (values : List Value) : List Term :=
  [.inlined " AND "].intercalate
    (columns.zipWith (fun column v => [.inlined (r.quote column ++ " = "), .bound v]) values)

/-- An INSERT of fields and their right-hand sides. -/
def insertTerms (r : Rendering) (table : String) (fields : List String) (rights : List Term)
    (keyColumns : List String) : List Term :=
  let columns := ", ".intercalate (fields.map r.quote)
  let returning := if r.dialect.returnsIds then " RETURNING " ++ ", ".intercalate (keyColumns.map r.quote) else ""
  .inlined ("INSERT INTO " ++ r.quote table ++ " (" ++ columns ++ ") VALUES (") ::
    ([.inlined ", "].intercalate (rights.map fun right => [right]) ++ [.inlined (")" ++ returning)])

/-- An UPDATE that assigns right-hand sides to fields, in the row with a key. -/
def updateTerms (r : Rendering) (table : String) (fields : List String) (rights : List Term)
    (keyColumns : List String) (keyValues : List Value) : List Term :=
  let assignments := fields.zipWith (fun field right => [.inlined (r.quote field ++ " = "), right]) rights
  .inlined ("UPDATE " ++ r.quote table ++ " SET ") ::
    ([.inlined ", "].intercalate assignments ++ .inlined " WHERE " :: keyTerms r keyColumns keyValues)

/-- A DELETE of the row with a key. -/
def deleteTerms (r : Rendering) (table : String) (keyColumns : List String) (keyValues : List Value) : List Term :=
  .inlined ("DELETE FROM " ++ r.quote table ++ " WHERE ") :: keyTerms r keyColumns keyValues

variable {c : Changes} {r : Rendering} {table : String} {fields keyColumns : List String} {rights : List Term}
  {keyValues : List Value} {settle : Value → Value}

/-! ## Their values -/

theorem values_rights (settle : Value → Value) (c : Changes) :
    (c.rights settle).filterMap Term.value? = c.boundValues.map settle := by
  unfold Changes.rights boundValues
  induction c.dirty with
  | nil => rfl
  | cons e dirty ih => by_cases h : c.isInlined e.1 <;> simp [h, List.filterMap_cons, Term.value?, ← ih]

theorem values_keyTerms (hkey : keyColumns.length = keyValues.length) :
    (keyTerms r keyColumns keyValues).filterMap Term.value? = keyValues := by
  rw [keyTerms, Term.values_intercalate]
  induction keyColumns generalizing keyValues with
  | nil =>
      obtain rfl := List.length_eq_zero_iff.1 hkey.symm
      rfl
  | cons column keyColumns ih =>
      obtain ⟨v, keyValues, rfl⟩ := List.exists_cons_of_length_eq_add_one hkey.symm
      rw [List.zipWith_cons_cons, List.flatMap_cons, ih (Nat.succ.inj hkey)]
      rfl

theorem values_insertTerms :
    (insertTerms r table fields rights keyColumns).filterMap Term.value? = rights.filterMap Term.value? := by
  simp only [insertTerms, List.filterMap_cons, List.filterMap_append, List.filterMap_nil, Term.value?,
    Term.values_intercalate, List.append_nil]
  induction rights with
  | nil => rfl
  | cons right rights ih =>
      rw [List.map_cons, List.flatMap_cons, ih, ← List.filterMap_append]
      rfl

theorem values_updateTerms (hfields : fields.length = rights.length)
    (hkey : keyColumns.length = keyValues.length) :
    (updateTerms r table fields rights keyColumns keyValues).filterMap Term.value? =
      rights.filterMap Term.value? ++ keyValues := by
  have hassigned : (fields.zipWith (fun field right => [.inlined (r.quote field ++ " = "), right]) rights).flatMap
      (List.filterMap Term.value?) = rights.filterMap Term.value? := by
    induction fields generalizing rights with
    | nil =>
        obtain rfl := List.length_eq_zero_iff.1 hfields.symm
        rfl
    | cons field fields ih =>
        obtain ⟨right, rights, rfl⟩ := List.exists_cons_of_length_eq_add_one hfields.symm
        rw [List.zipWith_cons_cons, List.flatMap_cons, ih (Nat.succ.inj hfields)]
        cases right <;> rfl
  simp only [updateTerms, List.filterMap_cons, List.filterMap_append, Term.value?, Term.values_intercalate,
    values_keyTerms hkey, hassigned]

theorem values_deleteTerms (hkey : keyColumns.length = keyValues.length) :
    (deleteTerms r table keyColumns keyValues).filterMap Term.value? = keyValues := by
  rw [deleteTerms, List.filterMap_cons, values_keyTerms hkey]
  rfl

/-! ## Their texts -/

theorem textOf_keyTerms (hkey : keyColumns.length = keyValues.length) :
    "WHERE " ++ Term.textOf (keyTerms r keyColumns keyValues) = keyCondition (keyColumns.map r.quote) := by
  have hcolumns : (keyColumns.zipWith (fun column v => [.inlined (r.quote column ++ " = "), .bound v])
      keyValues).map Term.textOf = (keyColumns.map r.quote).map (· ++ " = ?") := by
    induction keyColumns generalizing keyValues with
    | nil => rfl
    | cons column keyColumns ih =>
        obtain ⟨v, keyValues, rfl⟩ := List.exists_cons_of_length_eq_add_one hkey.symm
        rw [List.zipWith_cons_cons, List.map_cons, ih (Nat.succ.inj hkey)]
        simp [Term.text, String.append_assoc]
  rw [keyTerms, Term.textOf_intercalate, hcolumns, keyCondition]

section

variable (hrights : c.terms.map Term.text = rights.map Term.text)
include hrights

/-- Right-hand sides that are written alike make the same text. -/
theorem textOf_insertTerms :
    (c.insert r table (fields.map r.quote) (", ".intercalate (keyColumns.map r.quote))).text =
      .text (Term.textOf (insertTerms r table fields rights keyColumns)) := by
  have hvalues : (rights.map fun right => [right]).map Term.textOf = c.terms.map Term.text := by
    rw [hrights, List.map_map]
    exact List.map_congr_left fun right _ => by simp
  rw [insertTerms, Term.textOf_cons, Term.textOf_append, Term.textOf_intercalate, hvalues, insert]
  refine congrArg Value.text (String.toList_inj.1 ?_)
  cases r.dialect.returnsIds <;>
    simp [String.intercalate_cons_cons, Term.text, placeholders, Placeholders.ofTerms]

theorem textOf_updateTerms (hkey : keyColumns.length = keyValues.length) :
    (c.update r table (fields.map r.quote) (keyColumns.map r.quote) keyValues).text =
      .text (Term.textOf (updateTerms r table fields rights keyColumns keyValues)) := by
  have hassigned : (fields.zipWith (fun field right => [.inlined (r.quote field ++ " = "), right]) rights).map
      Term.textOf = (fields.map r.quote).zipWith assignment c.terms := by
    have hterms : (fields.map r.quote).zipWith assignment c.terms =
        (fields.map r.quote).zipWith (fun field text => field ++ " = " ++ text) (c.terms.map Term.text) := by
      rw [List.zipWith_map_right]
      rfl
    rw [hterms, hrights, List.map_zipWith, List.zipWith_map_left, List.zipWith_map_right]
    simp [Term.text]
  rw [updateTerms, Term.textOf_cons, Term.textOf_append, Term.textOf_cons, Term.textOf_intercalate, hassigned, update,
    ← textOf_keyTerms hkey]
  refine congrArg Value.text (String.toList_inj.1 ?_)
  simp [String.intercalate_cons_cons, Term.text]

end

theorem textOf_deleteTerms (hkey : keyColumns.length = keyValues.length) :
    (delete r table (keyColumns.map r.quote) keyValues).text =
      .text (Term.textOf (deleteTerms r table keyColumns keyValues)) := by
  rw [deleteTerms, Term.textOf_cons, delete, ← textOf_keyTerms hkey]
  refine congrArg Value.text (String.toList_inj.1 ?_)
  simp [String.intercalate_cons_cons, Term.text]

/-! ## Rows whose fields are names -/

/-- The fields of a row are names. -/
def HasNames (row : Row) : Prop := ∀ e ∈ row, ∃ name, e.1 = .text name

/-- The fields that an operation writes or removes are names. -/
def Edit.HasNames : Edit → Prop
  | .set field _ _ | .unset field => ∃ name, field = .text name
  | .hydrate row => Changes.HasNames row
  | .forceAllDirty | .markClean | .setNew _ => True

/-- The fields of the data and the dirty fields are names. -/
structure FieldsAreNames (c : Changes) : Prop where
  data : HasNames c.data
  dirty : HasNames c.dirty

theorem HasNames.put {row : Row} (h : HasNames row) (name : String) (v : Value) :
    HasNames (Entries.put (.text name) v row) := by
  have hput : ∀ e ∈ Entries.put (.text name) v row, (∃ name, e.1 = .text name) ∧ True :=
    Entries.forall_mem_put (K := fun key => ∃ name, key = .text name) (V := fun _ => True) ⟨name, rfl⟩ trivial
      fun e he => ⟨h e he, trivial⟩
  exact fun e he => (hput e he).1

theorem HasNames.erase {row : Row} (h : HasNames row) (field : Value) : HasNames (Entries.erase field row) :=
  fun e he => h e (Entries.mem_erase he)

/-- What an operation leaves has names for fields if it had them before, and the operation names fields. -/
theorem FieldsAreNames.apply (h : c.FieldsAreNames) {edit : Edit} (hedit : edit.HasNames) :
    (c.apply edit).FieldsAreNames := by
  cases edit with
  | set field value asSql =>
      obtain ⟨name, rfl⟩ := hedit
      exact ⟨h.data.put name value, h.dirty.put name value⟩
  | unset field => exact ⟨h.data.erase field, h.dirty.erase field⟩
  | hydrate row => exact ⟨hedit, h.dirty⟩
  | forceAllDirty => exact ⟨h.data, h.data⟩
  | markClean => exact ⟨h.data, fun e he => absurd he List.not_mem_nil⟩
  | setNew isNew => exact ⟨h.data, h.dirty⟩

theorem FieldsAreNames.applyAll (h : c.FieldsAreNames) {edits : List Edit} (hedits : ∀ edit ∈ edits, edit.HasNames) :
    (c.applyAll edits).FieldsAreNames := by
  induction edits generalizing c with
  | nil => exact h
  | cons edit edits ih =>
      obtain ⟨hedit, hrest⟩ := List.forall_mem_cons.1 hedits
      exact ih (h.apply hedit) hrest

theorem HasNames.exists_keys {row : Row} (h : HasNames row) :
    ∃ names : List String, Entries.keys row = names.map .text := by
  induction row with
  | nil => exact ⟨[], rfl⟩
  | cons e row ih =>
      obtain ⟨⟨name, hname⟩, hrest⟩ := List.forall_mem_cons.1 h
      obtain ⟨names, hnames⟩ := ih hrest
      refine ⟨name :: names, ?_⟩
      rw [List.map_cons, ← hname, ← hnames]
      rfl

/-! ## The three statements -/

theorem values_terms (c : Changes) : c.terms.filterMap Term.value? = c.boundValues := by
  unfold terms boundValues
  induction c.dirty with
  | nil => rfl
  | cons e dirty ih => by_cases h : c.isInlined e.1 <;> simp [h, term, List.filterMap_cons, Term.value?, ← ih]

/-- Replacing the values of inlined fields is done in their texts. -/
theorem texts_terms_mapInlined (settle : Value → Value) (c : Changes) :
    (c.mapInlined settle).terms.map Term.text = (c.rights settle).map Term.text := by
  have hsame : ∀ e ∈ c.dirty, Term.text ((c.mapInlined settle).term
      (if c.isInlined e.1 then (e.1, settle e.2) else e)) =
        Term.text (if c.isInlined e.1 then .inlined (settle e.2).display else .bound (settle e.2)) := by
    intro e _
    have hinlined : ∀ field, (c.mapInlined settle).isInlined field = c.isInlined field := fun _ => rfl
    by_cases h : c.isInlined e.1 <;> simp [term, hinlined, h, Term.text]
  rw [terms, Changes.rights, mapInlined, List.map_map, List.map_map, List.map_map]
  exact List.map_congr_left hsame

end Changes

namespace Record

theorem perform_quotedAll (r : Rendering) (names : List String) (h : Heap) :
    (quotedAll r (names.map .text)).perform h = (.ok (names.map r.quote), h) := by
  unfold quotedAll
  induction names with
  | nil => rfl
  | cons name names ih =>
      have hfirst : (do Identifier.quote? r.mark (← Heap.identifier (.text name)) : Step Heap String).perform h =
          (.ok (r.quote name), h) := rfl
      rw [List.map_cons, List.mapM_cons, perform_bind_ok hfirst, perform_bind_ok ih]
      rfl

theorem perform_returnedColumns {r : Rendering} (hreturns : r.dialect.returnsIds = true) (names : List String)
    (h : Heap) :
    (returnedColumns r (names.map .text)).perform h = (.ok (", ".intercalate (names.map r.quote)), h) := by
  have hsettled : h.settleAll (names.map .text) = names.map .text := by
    rw [Heap.settleAll, List.map_map]
    exact List.map_congr_left fun name _ => Heap.settle_eq_self h rfl
  have hrun : (returnedColumns r (names.map .text)).perform h =
      (Identifier.quote? r.mark (.list (h.settleAll (names.map .text))), h) := by
    rw [returnedColumns, if_pos hreturns]
    rfl
  rw [hrun, hsettled, Identifier.quote?_list]
  rfl

/-- The statements of a row are written with the names of its dirty fields and of its key columns. -/
theorem perform_writes {c : Changes} {fields : List String} (hfields : Entries.keys c.dirty = fields.map .text)
    (r : Rendering) (table : String) (keyColumns : List String) (keyValues : List Value) (h : Heap) :
    let returning := ", ".intercalate (keyColumns.map r.quote)
    let settled (sql : Sql) : Sql := { sql with params := h.settleParams sql.params }
    (writes r table c (.list (keyColumns.map .text)) (.list keyValues)).perform h =
      (.ok (settled (c.insert r table (fields.map r.quote) returning),
        settled (c.update r table (fields.map r.quote) (keyColumns.map r.quote) keyValues),
        settled (Changes.delete r table (keyColumns.map r.quote) keyValues)), h) := by
  intro returning settled
  have hitems : ∀ items : List Value, (Heap.items (.list items)).perform h = (.ok items, h) := fun _ => rfl
  have hsettled : ∀ sql : Sql, (settledSql sql).perform h = (.ok (settled sql), h) := fun _ => rfl
  rw [writes, hfields, perform_bind_ok (perform_quotedAll r fields h)]
  extract_lets rest
  have hrest : ∀ written, c.insert r table (fields.map r.quote) written =
      c.insert r table (fields.map r.quote) returning → (rest written).perform h =
        (.ok (settled (c.insert r table (fields.map r.quote) returning),
          settled (c.update r table (fields.map r.quote) (keyColumns.map r.quote) keyValues),
          settled (Changes.delete r table (keyColumns.map r.quote) keyValues)), h) := by
    intro written hsame
    show ((_ : Step Heap _) >>= _).perform h = _
    rw [perform_bind_ok (hitems _), perform_bind_ok (perform_quotedAll r keyColumns h), perform_bind_ok (hitems _),
      perform_bind_ok (hitems _), perform_bind_ok (perform_quotedAll r keyColumns h), perform_bind_ok (hitems _),
      perform_bind_ok (hsettled _), perform_bind_ok (hsettled _), perform_bind_ok (hsettled _), hsame]
    rfl
  cases hreturns : r.dialect.returnsIds with
  | false =>
      -- What is not returned is not looked at, so no columns are as good as any.
      refine hrest "" ?_
      rw [Changes.insert, Changes.insert, hreturns]
      rfl
  | true =>
      rw [if_pos rfl, perform_bind_ok (hitems _), perform_bind_ok (perform_returnedColumns hreturns keyColumns h)]
      exact hrest returning rfl

end Record

namespace Changes

/-- **INSERT, UPDATE and DELETE of a row agree on fields and parameters.** After any history of edits, INSERT and UPDATE
write the same right-hand sides against the same columns, in the order of the dirty fields, and UPDATE and DELETE the
same key. The INSERT binds the values that are not inlined, the UPDATE these and the values of the key behind them, and
the DELETE the values of the key. -/
theorem writes_agree {row : Row} (hrow : HasNames row) {edits : List Edit} (hedits : ∀ edit ∈ edits, edit.HasNames)
    (r : Rendering) (table : String) {keyColumns : List String} {keyValues : List Value}
    (hkey : keyColumns.length = keyValues.length) (h : Heap) :
    let c := applyAll (.ofRow row) edits
    let rights := c.rights h.settle
    let key := h.settleAll keyValues
    ∃ fields : List String, Entries.keys c.dirty = fields.map .text ∧
      (Record.writes r table (c.mapInlined h.settle) (.list (keyColumns.map .text)) (.list keyValues)).perform h =
        (.ok (.ofTerms (insertTerms r table fields rights keyColumns),
          .ofTerms (updateTerms r table fields rights keyColumns key),
          .ofTerms (deleteTerms r table keyColumns key)), h) ∧
      (insertTerms r table fields rights keyColumns).filterMap Term.value? = h.settleAll c.boundValues ∧
      (updateTerms r table fields rights keyColumns key).filterMap Term.value? = h.settleAll c.boundValues ++ key ∧
      (deleteTerms r table keyColumns key).filterMap Term.value? = key := by
  intro c rights key
  have hnames : c.FieldsAreNames := FieldsAreNames.applyAll ⟨hrow, fun e he => absurd he List.not_mem_nil⟩ hedits
  obtain ⟨fields, hfields⟩ := hnames.dirty.exists_keys
  have hsettledKey : keyColumns.length = key.length := hkey.trans (List.length_map h.settle).symm
  have hlength : fields.length = rights.length := by
    have hcount := congrArg List.length hfields
    rw [Entries.keys, List.length_map, List.length_map] at hcount
    exact hcount.symm.trans (List.length_map _).symm
  have hbound : rights.filterMap Term.value? = h.settleAll c.boundValues := values_rights h.settle c
  have hinsert : (insertTerms r table fields rights keyColumns).filterMap Term.value? = h.settleAll c.boundValues :=
    values_insertTerms.trans hbound
  have hupdate : (updateTerms r table fields rights keyColumns key).filterMap Term.value? =
      h.settleAll c.boundValues ++ key := by
    rw [values_updateTerms hlength hsettledKey, hbound]
  have hdelete : (deleteTerms r table keyColumns key).filterMap Term.value? = key := values_deleteTerms hsettledKey
  refine ⟨fields, hfields, ?_, hinsert, hupdate, hdelete⟩
  have hdirty : Entries.keys (c.mapInlined h.settle).dirty = fields.map .text := (keys_mapInlined _ c).trans hfields
  have htexts := texts_terms_mapInlined h.settle c
  have hvalues : (c.mapInlined h.settle).boundValues = c.boundValues := boundValues_mapInlined c h.settle
  have hmade : ∀ {text : Value} {values : List Value} {terms : List Term}, text = .text (Term.textOf terms) →
      terms.filterMap Term.value? = h.settleAll values →
      (⟨text, h.settleParams (.positional values)⟩ : Sql) = .ofTerms terms := by
    rintro text values terms rfl hterms
    rw [Sql.ofTerms, hterms]
    rfl
  have hwritten : (c.mapInlined h.settle).placeholders.bound = c.boundValues :=
    (values_terms _).trans hvalues
  rw [Record.perform_writes hdirty]
  refine congrArg (fun written => (Except.ok written, h)) (Prod.ext ?_ (Prod.ext ?_ ?_))
  · exact hmade (textOf_insertTerms htexts) (hinsert.trans (congrArg h.settleAll hwritten.symm))
  · refine hmade (textOf_updateTerms htexts hsettledKey) (hupdate.trans ?_)
    rw [hvalues, Heap.settleAll, Heap.settleAll, List.map_append]
    rfl
  · exact hmade (textOf_deleteTerms hsettledKey) hdelete

/-- A row with a note, an article that is renamed, a count that is taken down by one, and a field that is removed. -/
theorem writes_agree_restocking :
    let row : Row := [(.text "sku", .text "K-7"), (.text "shelf", .int 4)]
    let edits : List Edit := [.set (.text "name") (.text "cog") false, .set (.text "shelf") (.int 5) false,
      .set (.text "stock") (.text "stock - 1") true, .unset (.text "shelf")]
    let r : Rendering := .ofDialect (.generic "mysql")
    let key : List Value := [.int 3, .text "K-7"]
    let h : Heap := {}
    ∃ sql, (Record.writes r "articles" ((applyAll (.ofRow row) edits).mapInlined h.settle)
        (.list [.text "warehouse", .text "sku"]) (.list key)).perform h = (.ok sql, h) ∧
      sql.2.1 = .ofTerms (updateTerms r "articles" ["name", "stock"] [.bound (.text "cog"), .inlined "stock - 1"]
        ["warehouse", "sku"] key) := by
  intro row edits r key h
  have hrow : HasNames row :=
    List.forall_mem_cons.2 ⟨⟨"sku", rfl⟩, List.forall_mem_singleton.2 ⟨"shelf", rfl⟩⟩
  have hedits : ∀ edit ∈ edits, edit.HasNames :=
    List.forall_mem_cons.2 ⟨⟨"name", rfl⟩, List.forall_mem_cons.2 ⟨⟨"shelf", rfl⟩,
      List.forall_mem_cons.2 ⟨⟨"stock", rfl⟩, List.forall_mem_singleton.2 ⟨"shelf", rfl⟩⟩⟩⟩
  have hkey : ["warehouse", "sku"].length = key.length := rfl
  obtain ⟨fields, hfields, hrun, -⟩ := writes_agree hrow hedits r "articles" hkey h
  have hkeys : ["name", "stock"].map Value.text = fields.map .text := hfields
  obtain rfl : ["name", "stock"] = fields := (List.map_inj_right fun _ _ => Value.text.inj).1 hkeys
  exact ⟨_, hrun, rfl⟩

end Changes

end FluentSql
