import FluentSql.Value
import FluentSql.Text.Blank
import FluentSql.Proofs.Identifier.Inert
import Mathlib.Data.List.Forall2
/-
# FluentSql.Proofs.Condition.Lexemes — what the text of a condition is made of.

The text of a condition is cut into lexemes: names and literals between quotes, words, single symbols, and
slots, each of which takes the next value. Blanks separate words and mean nothing else. What stands between
quotes is one lexeme, whatever characters it has.

A text that is put together from pieces has the lexemes of the pieces, one after the other, if no two
pieces run into each other (`Cuts.append`). A quoted name has the parts of the name as its lexemes, with
every mark, dialect and doubling gone (`cuts_quoteChars`).
-/

namespace FluentSql.Search

/-! ## Lexemes -/

/-- What a condition is written with. -/
inductive Lexeme where
  /-- What stands between quotes; a quote inside is doubled there, and is one here. -/
  | quoted (cs : List Char)
  | word (cs : List Char)
  | symbol (c : Char)
  /-- A placeholder with the value that it binds, if there is one left for it. -/
  | slot (value : Option Value)
  deriving Repr, Inhabited

/-- The characters that a quoted lexeme may stand between. -/
def isMark (c : Char) : Bool := c == '\x60' || Literal.isQuote c

/-- The characters of words. -/
def isWordChar (c : Char) : Bool := c.isAlphanum || c == '_'

/-- Where in a lexeme a text is read, with what the lexeme has so far. -/
inductive Mode where
  | between
  | word (cs : List Char)
  | quoted (mark : Char) (cs : List Char)
  /-- Behind a mark that ends a quoted lexeme, unless another one follows. -/
  | closed (mark : Char) (cs : List Char)

namespace Mode

/-- The lexeme that is ready if nothing more belongs to it. -/
def pending : Mode → List Lexeme
  | .between => []
  | .word cs => [.word cs]
  | .quoted _ cs => [.quoted cs]
  | .closed _ cs => [.quoted cs]

/-- Whether a character belongs to the lexeme. -/
def continues (c : Char) : Mode → Bool
  | .between => false
  | .word _ => isWordChar c
  | .quoted _ _ => true
  | .closed mark _ => c == mark

/-- The lexeme with one more character. -/
def extend (c : Char) : Mode → Mode
  | .between => .between
  | .word cs => .word (cs ++ [c])
  | .quoted mark cs => if c = mark then .closed mark cs else .quoted mark (cs ++ [c])
  | .closed mark cs => .quoted mark (cs ++ [c])

/-- The mode behind a character that belongs to no lexeme before it. -/
def starting (c : Char) : Mode :=
  if isMark c then .quoted c [] else if isWordChar c then .word [c] else .between

end Mode

/-- The lexeme that a character is by itself, with the next value if it is a slot. -/
def single (c : Char) (values : List Value) : List Lexeme :=
  if c = '?' then [.slot values.head?]
  else if isMark c || isWordChar c || Text.isBlank c then [] else [.symbol c]

/-- The values that are left behind a character. -/
def valuesAfter (c : Char) (values : List Value) : List Value := if c = '?' then values.tail else values

/-- The lexemes of a text that is read from the middle of a lexeme on. -/
def scan : Mode → List Char → List Value → List Lexeme
  | mode, [], _ => mode.pending
  | mode, c :: cs, values =>
    if mode.continues c then scan (mode.extend c) cs values
    else mode.pending ++ single c values ++ scan (.starting c) cs (valuesAfter c values)

/-- The lexemes of a text whose slots take the values in order. -/
def lexemes (text : String) (values : List Value) : List Lexeme := scan .between text.toList values

/-! ## Pieces that do not run into each other -/

/-- A character that ends every lexeme in front of it. -/
def IsSeparator (c : Char) : Prop := isMark c = false ∧ isWordChar c = false

instance : DecidablePred IsSeparator := fun c =>
  inferInstanceAs (Decidable (isMark c = false ∧ isWordChar c = false))

/-- The text ends every lexeme in front of it. -/
def IsApart (cs : List Char) : Prop := ∀ c ∈ cs.head?, IsSeparator c

/-- A text has certain lexemes, and takes certain values for them, wherever it stands between lexemes
and ends like a lexeme. -/
def Cuts (cs : List Char) (values : List Value) (ls : List Lexeme) : Prop :=
  ∀ ds more, IsApart ds →
    scan .between (cs ++ ds) (values ++ more) = ls ++ scan .between ds more

/-- A text that has certain lexemes between any two others. -/
structure IsGlue (cs : List Char) (ls : List Lexeme) : Prop where
  head : ∃ c rest, cs = c :: rest ∧ IsSeparator c
  scan : ∀ ds more, scan .between (cs ++ ds) more = ls ++ scan .between ds more

variable {cs ds : List Char} {values more : List Value} {ls ms : List Lexeme}

theorem scan_starting {c : Char} (hc : IsSeparator c) : Mode.starting c = .between := by
  simp [Mode.starting, hc.1, hc.2]

/-- A separator is a lexeme by itself. -/
theorem scan_separator {c : Char} (hc : IsSeparator c) (cs : List Char) (values : List Value) :
    scan .between (c :: cs) values = single c values ++ scan .between cs (valuesAfter c values) := by
  rw [scan, if_neg (by simp [Mode.continues]), scan_starting hc]
  rfl

/-- A lexeme that is not open ends where the text behind it is apart. -/
theorem scan_of_isApart {mode : Mode} (hmode : ∀ c, IsSeparator c → mode.continues c = false)
    (hcs : IsApart cs) (values : List Value) :
    scan mode cs values = mode.pending ++ scan .between cs values := by
  cases cs with
  | nil => simp [scan, Mode.pending]
  | cons c cs =>
      have hc := hcs c (by simp)
      rw [scan_separator hc, scan, if_neg (by simp [hmode c hc]), scan_starting hc, List.append_assoc]

theorem IsApart.append (hcs : IsApart cs) (hds : IsApart ds) : IsApart (cs ++ ds) := by
  cases cs with
  | nil => exact hds
  | cons c cs => exact hcs

theorem IsApart.cons {c : Char} (hc : IsSeparator c) (cs : List Char) : IsApart (c :: cs) := by
  intro d hd
  cases hd
  exact hc

theorem isApart_nil : IsApart [] := by simp [IsApart]

namespace Cuts

theorem nil : Cuts [] [] [] := fun _ _ _ => rfl

/-- The lexemes of a text by itself. -/
theorem scan_eq (h : Cuts cs values ls) : scan .between cs values = ls := by
  have halone := h [] [] isApart_nil
  simpa [scan, Mode.pending] using halone

/-- Pieces keep their lexemes where the second one is apart from the first. -/
theorem append (hcs : Cuts cs values ls) (hapart : IsApart ds) (hds : Cuts ds more ms) :
    Cuts (cs ++ ds) (values ++ more) (ls ++ ms) := by
  intro es rest hes
  rw [List.append_assoc, List.append_assoc, hcs _ _ (hapart.append hes), hds _ _ hes, List.append_assoc]

/-- A separator that is no slot, in front of a text. -/
theorem cons {c : Char} (hc : IsSeparator c) (hslot : c ≠ '?') (h : Cuts cs values ls) :
    Cuts (c :: cs) values (single c [] ++ ls) := by
  intro ds rest hds
  have hsingle : ∀ values, single c values = single c [] := fun values => by simp [single, hslot]
  rw [List.cons_append, scan_separator hc, valuesAfter, if_neg hslot, h _ _ hds, hsingle,
    List.append_assoc]

/-- A slot in front of a text takes the first value. -/
theorem cons_slot (value : Value) (h : Cuts cs values ls) :
    Cuts ('?' :: cs) (value :: values) (.slot (some value) :: ls) := by
  intro ds rest hds
  rw [List.cons_append, scan_separator (by decide), List.cons_append]
  show .slot (some value) :: scan .between (cs ++ ds) (values ++ rest) = _
  rw [h _ _ hds]
  rfl

/-- Pieces with a glue between them. -/
theorem intercalate {α : Type} {glue : List Char} {between : List Lexeme} (hglue : IsGlue glue between)
    (valuesOf : α → List Value) (lexemesOf : α → List Lexeme) {items : List α} {texts : List (List Char)}
    (h : List.Forall₂ (fun a text => Cuts text (valuesOf a) (lexemesOf a)) items texts) :
    Cuts (glue.intercalate texts) (items.flatMap valuesOf) (between.intercalate (items.map lexemesOf)) := by
  have hbetween : ∀ {cs values ls}, Cuts cs values ls → Cuts (glue ++ cs) values (between ++ ls) := by
    intro cs values ls hcs ds rest hds
    rw [List.append_assoc, hglue.scan, hcs _ _ hds, List.append_assoc]
  have hapart : ∀ cs, IsApart (glue ++ cs) := by
    obtain ⟨c, rest, rfl, hc⟩ := hglue.head
    exact fun _ => .cons hc _
  induction h with
  | nil => exact nil
  | @cons a text items texts htext hrest ih =>
      cases hrest with
      | nil => simpa using htext
      | @cons b next items texts hnext hrest =>
          rw [List.intercalate_cons_cons, List.map_cons, List.map_cons, List.intercalate_cons_cons,
            List.flatMap_cons, List.append_assoc, List.append_assoc]
          rw [List.map_cons] at ih
          exact htext.append (hapart _) (hbetween ih)

end Cuts

/-- A lexeme is a word, stands between quotes, or is a character of the text by itself. -/
theorem mem_scan {mode : Mode} {l : Lexeme} (h : l ∈ scan mode cs values) :
    (∃ text, l = .word text) ∨ (∃ text, l = .quoted text) ∨
      ∃ c ∈ cs, l = .symbol c ∨ (c = '?' ∧ ∃ value, l = .slot value) := by
  have hpending : ∀ mode : Mode, l ∈ mode.pending →
      (∃ text, l = .word text) ∨ (∃ text, l = .quoted text) := by
    intro mode hl
    cases mode with
    | between => cases hl
    | word cs => exact .inl ⟨cs, List.mem_singleton.1 hl⟩
    | quoted mark cs => exact .inr ⟨cs, List.mem_singleton.1 hl⟩
    | closed mark cs => exact .inr ⟨cs, List.mem_singleton.1 hl⟩
  have hsingle : ∀ c values, l ∈ single c values →
      l = .symbol c ∨ (c = '?' ∧ ∃ value, l = .slot value) := by
    intro c values hl
    unfold single at hl
    split at hl
    · rename_i hslot
      exact .inr ⟨hslot, _, List.mem_singleton.1 hl⟩
    · split at hl
      · cases hl
      · exact .inl (List.mem_singleton.1 hl)
  induction cs generalizing mode values with
  | nil => exact (hpending mode h).imp_right .inl
  | cons c cs ih =>
      have hrest : ∀ {mode values}, l ∈ scan mode cs values → (∃ text, l = .word text) ∨
          (∃ text, l = .quoted text) ∨
          ∃ d ∈ c :: cs, l = .symbol d ∨ (d = '?' ∧ ∃ value, l = .slot value) := fun hl =>
        (ih hl).imp_right fun hl => hl.imp_right fun ⟨d, hd, hl⟩ => ⟨d, List.mem_cons_of_mem c hd, hl⟩
      rw [scan] at h
      split at h
      · exact hrest h
      · rcases List.mem_append.1 h with h | h
        · rcases List.mem_append.1 h with h | h
          · exact (hpending mode h).imp_right .inl
          · exact .inr (.inr ⟨c, List.mem_cons_self, hsingle c _ h⟩)
        · exact hrest h

/-! ## Words -/

/-- A text without quotes and slots. -/
def IsUnquoted (cs : List Char) : Prop := ∀ c ∈ cs, isMark c = false ∧ c ≠ '?'

instance (cs : List Char) : Decidable (IsUnquoted cs) :=
  List.decidableBAll (fun c => isMark c = false ∧ c ≠ '?') cs

/-- The lexemes of a text that takes no values. -/
def lexemesOf (cs : List Char) : List Lexeme := scan .between cs []

/-- What follows a text without quotes and slots has no part in its lexemes. -/
theorem scan_unquoted (hcs : IsUnquoted cs) (hds : IsApart ds) (values : List Value) {mode : Mode}
    (hmode : mode = .between ∨ ∃ word, mode = .word word) :
    scan mode (cs ++ ds) values = scan mode cs [] ++ scan .between ds values := by
  induction cs generalizing mode with
  | nil =>
      refine scan_of_isApart (fun c hc => ?_) hds values
      rcases hmode with rfl | ⟨word, rfl⟩
      · rfl
      · exact hc.2
  | cons c cs ih =>
      obtain ⟨hmark, hslot⟩ := hcs c List.mem_cons_self
      have hrest : IsUnquoted cs := fun d hd => hcs d (List.mem_cons_of_mem _ hd)
      have hsingle : single c values = single c [] := by simp [single, hslot]
      rw [List.cons_append, scan, scan]
      split
      · refine ih hrest (.inr ?_)
        rcases hmode with rfl | ⟨word, rfl⟩
        · simp [Mode.continues] at *
        · exact ⟨_, rfl⟩
      · have hstarting : Mode.starting c = .between ∨ ∃ word, Mode.starting c = .word word := by
          by_cases hword : isWordChar c <;> simp [Mode.starting, hmark, hword]
        simp only [valuesAfter, if_neg hslot, hsingle, ih hrest hstarting, List.append_assoc]

theorem cuts_unquoted (hcs : IsUnquoted cs) : Cuts cs [] (lexemesOf cs) :=
  fun _ more hds => scan_unquoted hcs hds more (.inl rfl)

/-! ## Quoted names -/

/-- The lexeme of a part of a name. -/
def partLexeme (part : List Char) : Lexeme := if part = ['*'] then .symbol '*' else .quoted part

/-- The lexemes of a name: its parts, with points between them. -/
def nameLexemes (name : String) : List Lexeme :=
  [.symbol '.'].intercalate ((Text.splitOn ['.'] name.toList).map fun part => [partLexeme part])

/-- A quoted lexeme takes in everything up to its mark, whatever it is. -/
theorem scan_quoted (mark : Char) (ds part seen : List Char) (values : List Value) :
    scan (.quoted mark seen) (Text.replaceAll [mark] [mark, mark] part ++ mark :: ds) values =
      scan (.closed mark (seen ++ part)) ds values := by
  induction part generalizing seen with
  | nil => simp [scan, Mode.continues, Mode.extend]
  | cons c part ih =>
      rw [Text.replaceAll_singleton_cons, List.append_assoc]
      by_cases hc : mark = c
      · subst hc
        simp only [if_true, List.cons_append, List.nil_append]
        have htwo := ih (seen ++ [mark])
        simpa [scan, Mode.continues, Mode.extend] using htwo
      · have hone := ih (seen ++ [c])
        have hc' : c ≠ mark := fun h => hc h.symm
        simpa [hc, hc', scan, Mode.continues, Mode.extend] using hone

/-- A part of a name is one lexeme between marks. -/
theorem cuts_quotePart {mark : Char} (hmark : isMark mark = true) (part : List Char) :
    Cuts (Identifier.quotePart [mark] part) [] [partLexeme part] := by
  unfold Identifier.quotePart partLexeme
  split
  · rename_i hstar
    rw [hstar]
    exact Cuts.cons (c := '*') (by decide) (by decide) .nil
  · intro ds more hds
    have hends : ∀ c, IsSeparator c → c ≠ mark := by
      rintro _ hc rfl
      exact absurd hmark (by simp [hc.1])
    have hslot : mark ≠ '?' := by
      rintro rfl
      exact absurd hmark (by decide)
    calc scan .between (mark :: (Text.replaceAll [mark] [mark, mark] part ++ [mark]) ++ ds) more
        = scan (.quoted mark []) (Text.replaceAll [mark] [mark, mark] part ++ mark :: ds) more := by
          simp [scan, Mode.continues, Mode.pending, single, hslot, hmark, Mode.starting, valuesAfter]
      _ = scan (.closed mark part) ds more :=
          scan_quoted mark ds part [] more
      _ = .quoted part :: scan .between ds more :=
          scan_of_isApart (fun c hc => by simpa [Mode.continues] using hends c hc) hds more

/-- **A quoted name has the parts of the name as its lexemes, whatever the mark is.** -/
theorem cuts_quoteName {mark : String} (hmark : Identifier.IsStandardMark mark) (name : String) :
    Cuts (Identifier.quoteName mark name).toList [] (nameLexemes name) := by
  obtain ⟨c, hc, hlist⟩ : ∃ c, isMark c = true ∧ mark.toList = [c] := by
    rcases hmark.cases with rfl | rfl
    · exact ⟨'\x60', by decide, rfl⟩
    · exact ⟨'\x22', by decide, rfl⟩
  have hglue : IsGlue ['.'] [.symbol '.'] :=
    ⟨⟨'.', [], rfl, by decide⟩, fun ds more => scan_separator (c := '.') (by decide) ds more⟩
  have hparts := Cuts.intercalate hglue (fun _ => []) (fun part => [partLexeme part])
    (List.forall₂_map_right_iff.2
      (List.forall₂_same.2 fun part (_ : part ∈ Text.splitOn ['.'] name.toList) =>
        cuts_quotePart hc part))
  rw [List.flatMap_eq_nil_iff.2 fun _ _ => rfl] at hparts
  rw [Identifier.quoteName, String.toList_ofList, Identifier.quoteChars, hlist]
  exact hparts

end FluentSql.Search
