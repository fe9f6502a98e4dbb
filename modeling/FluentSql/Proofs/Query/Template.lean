import Mathlib.Algebra.GroupWithZero.Nat
import FluentSql.Identifier
import FluentSql.Literal
import FluentSql.Condition
import FluentSql.Proofs.Identifier.Characters
/-
# FluentSql.Proofs.Query.Template — statements as letters, quoted names and slots.

A template is a sequence of letters, quoted names and slots. What the builder writes is the text of a
template, whatever the names are: a template tells the slots that were meant from question marks that a
name happens to hold. A vocabulary fixes the letters, names and identifier marks that templates are made of.
-/

namespace FluentSql

/-- Which identifier marks and names and which other letters a statement may be written with. Letters
that are neither question marks nor quotes always may. -/
structure Vocabulary where
  marks : String → Prop
  names : String → Prop
  letters : Char → Prop
  ordinary : ∀ c, c ≠ '?' → Literal.isQuote c = false → letters c

namespace Vocabulary

/-- The words that are written as they are. -/
def Words (voc : Vocabulary) (s : String) : Prop := ∀ c ∈ s.toList, voc.letters c

end Vocabulary

/-- What a statement is made of. -/
inductive Token where
  | letter (c : Char)
  /-- A name between identifier marks. -/
  | name (mark text : String)
  | slot

namespace Token

/-- The characters of a token. -/
def chars : Token → List Char
  | letter c => [c]
  | name mark text => Identifier.quoteChars mark.toList text.toList
  | slot => ['?']

/-- Whether the token is a slot. -/
def isSlot : Token → Bool
  | slot => true
  | _ => false

/-- The token is made from the vocabulary. -/
def In (voc : Vocabulary) : Token → Prop
  | letter c => voc.letters c
  | name mark text => voc.marks mark ∧ voc.names text
  | slot => True

end Token

/-- A sequence of tokens. -/
abbrev Template := List Token

namespace Template

/-- The text of a template. -/
def text (ts : Template) : List Char := ts.flatMap Token.chars

/-- How many slots a template has. -/
def slots (ts : Template) : Nat := ts.countP Token.isSlot

end Template

namespace Vocabulary

/-- A text can be written with the vocabulary and so many slots. -/
def Spells (voc : Vocabulary) (cs : List Char) (slots : Nat) : Prop :=
  ∃ ts : Template, ts.text = cs ∧ ts.slots = slots ∧ ∀ t ∈ ts, t.In voc

variable {voc : Vocabulary} {cs ds : List Char} {m n : Nat}

theorem spells_nil : voc.Spells [] 0 := ⟨[], rfl, rfl, by simp⟩

theorem spells_token {t : Token} (h : t.In voc) : voc.Spells t.chars (if t.isSlot then 1 else 0) := by
  refine ⟨[t], by simp [Template.text], ?_, by simpa using h⟩
  by_cases ht : t.isSlot <;> simp [Template.slots, ht]

theorem spells_slot : voc.Spells ['?'] 1 := spells_token (t := .slot) trivial

theorem spells_quoteName {mark name : String} (hmark : voc.marks mark) (hname : voc.names name) :
    voc.Spells (Identifier.quoteName mark name).toList 0 := by
  rw [Identifier.quoteName, String.toList_ofList]
  exact spells_token (t := .name mark name) ⟨hmark, hname⟩

theorem Spells.append (hc : voc.Spells cs m) (hd : voc.Spells ds n) :
    voc.Spells (cs ++ ds) (m + n) := by
  obtain ⟨ts, rfl, rfl, hts⟩ := hc
  obtain ⟨us, rfl, rfl, hus⟩ := hd
  refine ⟨ts ++ us, by simp [Template.text], by simp [Template.slots], ?_⟩
  intro t ht
  rcases List.mem_append.1 ht with h | h
  · exact hts t h
  · exact hus t h

theorem spells_letters (h : ∀ c ∈ cs, voc.letters c) : voc.Spells cs 0 := by
  induction cs with
  | nil => exact spells_nil
  | cons c cs ih =>
      have hrest := ih fun d hd => h d (List.mem_cons_of_mem _ hd)
      have hfirst := spells_token (t := .letter c) (h c List.mem_cons_self)
      exact hfirst.append hrest

theorem Words.spells {s : String} (h : voc.Words s) : voc.Spells s.toList 0 := spells_letters h

/-- A text that is known and has neither question marks nor quotes is a word. -/
theorem words_ordinary (s : String)
    (h : s.toList.all (fun c => c != '?' && !Literal.isQuote c) = true) : voc.Words s := by
  intro c hc
  have hordinary := List.all_eq_true.1 h c hc
  simp only [Bool.and_eq_true, bne_iff_ne, ne_eq, Bool.not_eq_true'] at hordinary
  exact voc.ordinary c hordinary.1 hordinary.2

theorem spells_ordinary (s : String)
    (h : s.toList.all (fun c => c != '?' && !Literal.isQuote c) = true) : voc.Spells s.toList 0 :=
  (words_ordinary s h).spells

/-- Texts with a glue between them have the slots of all. -/
theorem spells_intercalate {α : Type} {glue : List Char} (hglue : voc.Spells glue 0)
    {text : α → List Char} {count : α → Nat} {items : List α}
    (h : ∀ a ∈ items, voc.Spells (text a) (count a)) :
    voc.Spells (glue.intercalate (items.map text)) (items.map count).sum :=
  Text.intercalate_counted (P := voc.Spells) spells_nil Spells.append hglue h

theorem spells_string_intercalate {α : Type} (glue : String) (hglue : voc.Spells glue.toList 0)
    {text : α → String} {count : α → Nat} {items : List α}
    (h : ∀ a ∈ items, voc.Spells (text a).toList (count a)) :
    voc.Spells (glue.intercalate (items.map text)).toList (items.map count).sum := by
  rw [String.toList_intercalate, List.map_map]
  exact spells_intercalate hglue h

/-- Words that can be written one by one with so many slots altogether. -/
def SpellsWords (voc : Vocabulary) (words : List String) (slots : Nat) : Prop :=
  ∃ counted : List (String × Nat), counted.map (·.1) = words ∧ (counted.map (·.2)).sum = slots ∧
    ∀ p ∈ counted, voc.Spells p.1.toList p.2

theorem spellsWords_nil : voc.SpellsWords [] 0 := ⟨[], rfl, rfl, by simp⟩

theorem spellsWords_singleton {word : String} (h : voc.Spells word.toList n) :
    voc.SpellsWords [word] n :=
  ⟨[(word, n)], rfl, by simp, by simpa using h⟩

theorem SpellsWords.append {words more : List String} (h : voc.SpellsWords words m)
    (hmore : voc.SpellsWords more n) : voc.SpellsWords (words ++ more) (m + n) := by
  obtain ⟨ps, rfl, rfl, hps⟩ := h
  obtain ⟨qs, rfl, rfl, hqs⟩ := hmore
  refine ⟨ps ++ qs, by simp, by simp, ?_⟩
  intro p hp
  rcases List.mem_append.1 hp with h | h
  · exact hps p h
  · exact hqs p h

theorem SpellsWords.spells {words : List String} (h : voc.SpellsWords words n) :
    voc.Spells (" ".intercalate words).toList n := by
  obtain ⟨ps, rfl, rfl, hps⟩ := h
  exact spells_string_intercalate " " (voc.spells_ordinary " " (by decide)) hps

end Vocabulary

/-- The statement can be written with the vocabulary, one slot for each of its parameters and so many
more. -/
def Sql.IsSpelled (voc : Vocabulary) (surplus : Nat) (sql : Sql) : Prop :=
  ∃ s values, sql = ⟨.text s, .positional values⟩ ∧ voc.Spells s.toList (values.length + surplus)

/-! ## Conditions -/

namespace Fragment

variable {voc : Vocabulary}

theorem sum_map_one {α : Type} (items : List α) : (items.map fun _ => 1).sum = items.length := by
  simp [List.map_const']

/-- The fragment can be written with the vocabulary and one slot for each of its values. -/
def IsSpelled (voc : Vocabulary) (f : Fragment) : Prop :=
  ∃ s, f.text = .text s ∧ voc.Spells s.toList f.values.length

theorem spells_comparison_text {column operator : String} (hcolumn : voc.Spells column.toList 0)
    (hoperator : voc.Words operator) :
    voc.Spells (column ++ " " ++ operator ++ " ?").toList 1 := by
  have hblank := voc.spells_ordinary " " (by decide)
  have hend : voc.Spells " ?".toList 1 := hblank.append Vocabulary.spells_slot
  simpa using ((hcolumn.append hblank).append hoperator.spells).append hend

theorem isSpelled_membership {column operator : String} (hcolumn : voc.Spells column.toList 0)
    (hoperator : voc.Words operator) (values : List Value) :
    (membership column operator (.ofTerms (values.map .bound))).IsSpelled voc := by
  have hblank := voc.spells_ordinary " " (by decide)
  have hslots : voc.Spells (", ".intercalate (values.map fun _ => "?")).toList values.length :=
    sum_map_one values ▸ Vocabulary.spells_string_intercalate ", " (voc.spells_ordinary _ (by decide))
      fun _ _ => Vocabulary.spells_slot
  refine ⟨_, rfl, ?_⟩
  have hwhole := ((((hcolumn.append hblank).append hoperator.spells).append
    (voc.spells_ordinary " (" (by decide))).append hslots).append (voc.spells_ordinary ")" (by decide))
  simpa [membership, Placeholders.ofTerms, Function.comp_def, Term.text, Term.value?] using hwhole

theorem isSpelled_check {column operator : String} (hcolumn : voc.Spells column.toList 0)
    (hoperator : voc.Words operator) : (check column operator).IsSpelled voc := by
  refine ⟨_, rfl, ?_⟩
  have hblank := voc.spells_ordinary " " (by decide)
  simpa [check] using (hcolumn.append hblank).append hoperator.spells

theorem spellsWords_groupWords {group : List Comparison}
    (h : ∀ c ∈ group, voc.Spells c.column.toList 0 ∧ voc.Words c.operator) :
    voc.SpellsWords (groupWords group) group.length := by
  have hword : ∀ c ∈ group, voc.SpellsWords c.words 1 := by
    intro c hc
    obtain ⟨hcolumn, hoperator⟩ := h c hc
    have hend : voc.Spells " ?".toList 1 :=
      (voc.spells_ordinary " " (by decide)).append Vocabulary.spells_slot
    have hcompared : voc.Spells (c.operator ++ " ?").toList 1 := by
      simpa using hoperator.spells.append hend
    exact (Vocabulary.spellsWords_singleton hcolumn).append
      (Vocabulary.spellsWords_singleton hcompared)
  have hand : voc.SpellsWords ["AND"] 0 :=
    Vocabulary.spellsWords_singleton (voc.spells_ordinary _ (by decide))
  have hall := Text.intercalate_counted Vocabulary.spellsWords_nil Vocabulary.SpellsWords.append
    hand hword
  rw [sum_map_one] at hall
  exact hall

theorem isSpelled_anyOf {groups : List (List Comparison)}
    (h : ∀ group ∈ groups, ∀ c ∈ group, voc.Spells c.column.toList 0 ∧ voc.Words c.operator) :
    (anyOf groups).IsSpelled voc := by
  have hword : ∀ word : String,
      word.toList.all (fun c => c != '?' && !Literal.isQuote c) = true → voc.SpellsWords [word] 0 :=
    fun _ h => Vocabulary.spellsWords_singleton (voc.spells_ordinary _ h)
  have hgroups : voc.SpellsWords ([") OR ("].intercalate (groups.map groupWords))
      (groups.map List.length).sum :=
    Text.intercalate_counted Vocabulary.spellsWords_nil Vocabulary.SpellsWords.append
      (hword _ (by decide)) fun group hgroup => spellsWords_groupWords (h group hgroup)
  have hwhole := ((hword "((" (by decide)).append hgroups).append (hword "))" (by decide))
  refine ⟨_, rfl, ?_⟩
  have hlength : (anyOf groups).values.length = 0 + (groups.map List.length).sum + 0 := by
    simp [anyOf, Function.comp_def]
  rw [hlength]
  exact hwhole.spells

end Fragment

end FluentSql
