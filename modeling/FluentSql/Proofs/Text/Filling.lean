import Mathlib.Algebra.GroupWithZero.Nat
import FluentSql.Proofs.Text.Slots
/-
# FluentSql.Proofs.Text.Filling — texts put together with what goes into their slots.

A `Filling` is a text with exactly one text for each of its slots. Fillings can be put one after the
other, joined with a glue that has no slots, trimmed, and joined without the blank ones; each time the
texts for the slots are simply put one after the other as well. In all cases filling the whole is the
same as putting the filled pieces together (`filled_append`, `filled_intercalate`, `filled_trim`,
`joinNonBlank_filled`), which is what keeps a value at the slot that it was given for.
-/

namespace FluentSql.Text

/-- What holds of the pieces and of the glue holds of the whole, if it holds of texts put together. -/
theorem intercalate_closed {P : List Char → Prop} (nil : P [])
    (append : ∀ {cs ds}, P cs → P ds → P (cs ++ ds)) {glue : List Char} (hglue : P glue) :
    ∀ {pieces : List (List Char)}, (∀ piece ∈ pieces, P piece) → P (glue.intercalate pieces)
  | [], _ => nil
  | [piece], h => by simpa using h piece (by simp)
  | piece :: next :: pieces, h => by
      have hrest : P (glue.intercalate (next :: pieces)) :=
        intercalate_closed nil append hglue fun p hp => h p (by simp [hp])
      rw [List.intercalate_cons_cons]
      exact append (append (h piece (by simp)) hglue) hrest

/-- What the pieces count altogether is what the whole counts, if the glue counts nothing. -/
theorem intercalate_counted {α β : Type} {P : List β → Nat → Prop} (nil : P [] 0)
    (append : ∀ {xs ys m n}, P xs m → P ys n → P (xs ++ ys) (m + n)) {glue : List β}
    (hglue : P glue 0) {piece : α → List β} {count : α → Nat} :
    ∀ {items : List α}, (∀ a ∈ items, P (piece a) (count a)) →
      P (glue.intercalate (items.map piece)) (items.map count).sum
  | [], _ => nil
  | [a], h => by simpa using h a (by simp)
  | a :: b :: items, h => by
      have hrest : P (glue.intercalate ((b :: items).map piece)) ((b :: items).map count).sum :=
        intercalate_counted nil append hglue fun c hc => h c (List.mem_cons_of_mem _ hc)
      have hfirst : P (piece a ++ glue) (count a) := append (h a List.mem_cons_self) hglue
      rw [List.map_cons, List.map_cons, List.intercalate_cons_cons, List.map_cons, List.sum_cons]
      exact append hfirst hrest

/-- A text with one text for each of its slots. -/
structure Filling where
  text : List Char
  texts : List (List Char)
  fits : texts.length = slotCount text

namespace Filling

/-- The text with its slots filled. -/
def filled (p : Filling) : List Char := fillSlots p.text p.texts

/-- A text without slots. -/
def constant (cs : List Char) (h : '?' ∉ cs) : Filling := ⟨cs, [], (slotCount_eq_zero_iff.2 h).symm⟩

/-- One filling after the other. -/
def append (p q : Filling) : Filling where
  text := p.text ++ q.text
  texts := p.texts ++ q.texts
  fits := by simp [p.fits, q.fits]

@[simp] theorem filled_constant (cs : List Char) (h : '?' ∉ cs) : (constant cs h).filled = cs :=
  fillSlots_nil cs

@[simp] theorem filled_append (p q : Filling) : (p.append q).filled = p.filled ++ q.filled :=
  fillSlots_append p.fits _ _

/-! ## Joining -/

variable {glue : List Char}

/-- The slots of joined fillings are those of the fillings, in order. -/
theorem fits_intercalate (hglue : '?' ∉ glue) :
    ∀ ps : List Filling,
      (ps.flatMap texts).length = slotCount (glue.intercalate (ps.map text))
  | [] => rfl
  | [p] => by simpa using p.fits
  | p :: q :: ps => by
      have hrest := fits_intercalate hglue (q :: ps)
      have hg : slotCount glue = 0 := slotCount_eq_zero_iff.2 hglue
      simp only [List.map_cons, List.intercalate_cons_cons, slotCount_append, hg, p.fits,
        List.flatMap_cons, List.length_append]
      simp only [List.map_cons, List.flatMap_cons, List.length_append] at hrest
      omega

/-- Fillings with a glue between them. -/
def intercalate (hglue : '?' ∉ glue) (ps : List Filling) : Filling where
  text := glue.intercalate (ps.map text)
  texts := ps.flatMap texts
  fits := fits_intercalate hglue ps

theorem filled_intercalate (hglue : '?' ∉ glue) :
    ∀ ps : List Filling, (intercalate hglue ps).filled = glue.intercalate (ps.map filled)
  | [] => rfl
  | [p] => by simp [intercalate, filled]
  | p :: q :: ps => by
      have hrest := filled_intercalate hglue (q :: ps)
      have hparts : (intercalate hglue (p :: q :: ps)).filled =
          ((p.append (constant glue hglue)).append (intercalate hglue (q :: ps))).filled := by
        simp [intercalate, filled, append, constant]
      rw [hparts]
      simp only [filled_append, filled_constant, hrest, List.map_cons, List.intercalate_cons_cons]

/-! ## Trimming and dropping what is blank -/

/-- The filling without the blanks at both ends of its text. -/
def trim (p : Filling) : Filling := ⟨trimChars p.text, p.texts, by simp [p.fits]⟩

@[simp] theorem texts_trim (p : Filling) : p.trim.texts = p.texts := rfl

theorem filled_trim {p : Filling} (hp : ∀ t ∈ p.texts, IsSolid t) :
    p.trim.filled = trimChars p.filled :=
  (trimChars_fillSlots p.text hp).symm

/-- A filling is empty exactly if its text is. -/
theorem filled_eq_nil_iff {p : Filling} (hp : ∀ t ∈ p.texts, IsSolid t) :
    p.filled = [] ↔ p.text = [] :=
  fillSlots_eq_nil_iff fun t ht => (hp t ht).ne_nil

theorem texts_eq_nil {p : Filling} (h : p.text = []) : p.texts = [] :=
  List.eq_nil_of_length_eq_zero (by rw [p.fits, h, slotCount_nil])

/-- The fillings that are left after trimming and dropping the empty ones. -/
def kept (ps : List Filling) : List Filling := (ps.map trim).filter fun p => !p.text.isEmpty

/-- What is dropped has no slots, so no text is lost. -/
theorem flatMap_texts_kept (ps : List Filling) : (kept ps).flatMap texts = ps.flatMap texts := by
  induction ps with
  | nil => rfl
  | cons p ps ih =>
      unfold kept at ih ⊢
      by_cases hp : p.trim.text = []
      · -- An empty text has no slots, so it came with no texts.
        have htexts : p.texts = [] := texts_eq_nil (p := p.trim) hp
        simp [hp, htexts, ih]
      · simp [hp, ih]

theorem map_filled_kept {ps : List Filling} (hps : ∀ p ∈ ps, ∀ t ∈ p.texts, IsSolid t) :
    (kept ps).map filled = ((ps.map filled).map trimChars).filter fun cs => !cs.isEmpty := by
  induction ps with
  | nil => rfl
  | cons p ps ih =>
      have hrest := ih fun q hq => hps q (by simp [hq])
      have hp : ∀ t ∈ p.texts, IsSolid t := hps p (by simp)
      have hempty : trimChars p.filled = [] ↔ p.trim.text = [] := by
        rw [← filled_trim hp]
        exact filled_eq_nil_iff (p := p.trim) hp
      unfold kept at hrest ⊢
      by_cases hdrop : p.trim.text = []
      · simp [hdrop, hempty.2 hdrop, hrest]
      · simp [hdrop, mt hempty.1 hdrop, hrest, filled_trim hp]

/-- Fillings joined without the blank ones, each trimmed. -/
def joinNonBlank (hglue : '?' ∉ glue) (ps : List Filling) : Filling := intercalate hglue (kept ps)

@[simp] theorem texts_joinNonBlank (hglue : '?' ∉ glue) (ps : List Filling) :
    (joinNonBlank hglue ps).texts = ps.flatMap texts :=
  flatMap_texts_kept ps

end Filling

theorem toList_joinNonBlank (glue : String) (pieces : List String) :
    (joinNonBlank glue pieces).toList =
      glue.toList.intercalate
        (((pieces.map String.toList).map trimChars).filter fun cs => !cs.isEmpty) := by
  have hkept : ((pieces.map trim).filter fun piece => !piece.isEmpty).map String.toList =
      ((pieces.map String.toList).map trimChars).filter fun cs => !cs.isEmpty := by
    induction pieces with
    | nil => rfl
    | cons piece pieces ih =>
        by_cases h : trimChars piece.toList = [] <;>
          simp_all [trim, ← String.toList_inj]
  rw [joinNonBlank, String.toList_intercalate, hkept]

/-- **Joining clauses keeps every value at its slot.** Pieces with a text for each of their slots are
joined to a text whose slots take the texts of the pieces in order, and filling it is joining the
filled pieces. -/
theorem joinNonBlank_filled {glue : String} (hglue : '?' ∉ glue.toList) {ps : List Filling}
    (hps : ∀ p ∈ ps, ∀ t ∈ p.texts, IsSolid t) {pieces filledPieces : List String}
    (hpieces : pieces.map String.toList = ps.map Filling.text)
    (hfilled : filledPieces.map String.toList = ps.map Filling.filled) :
    slotCount (joinNonBlank glue pieces).toList = (ps.flatMap Filling.texts).length ∧
      fillSlots (joinNonBlank glue pieces).toList (ps.flatMap Filling.texts) =
        (joinNonBlank glue filledPieces).toList := by
  have htext : (joinNonBlank glue pieces).toList = (Filling.joinNonBlank hglue ps).text := by
    rw [toList_joinNonBlank, hpieces]
    simp [Filling.joinNonBlank, Filling.intercalate, Filling.kept, Filling.trim, List.filter_map,
      Function.comp_def]
  have hjoined : (joinNonBlank glue filledPieces).toList = (Filling.joinNonBlank hglue ps).filled := by
    rw [toList_joinNonBlank, hfilled, Filling.joinNonBlank, Filling.filled_intercalate,
      Filling.map_filled_kept hps]
  rw [htext, hjoined, ← Filling.texts_joinNonBlank hglue]
  exact ⟨(Filling.joinNonBlank hglue ps).fits.symm, rfl⟩

end FluentSql.Text
