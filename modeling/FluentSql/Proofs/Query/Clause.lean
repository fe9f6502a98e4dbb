import FluentSql.Proofs.Text.Filling
import FluentSql.Query.Select
/-
# FluentSql.Proofs.Query.Clause — clauses that have one value for each of their slots.

A fragment is balanced if it is a text with exactly one value for each question mark in it. Clauses
are put together from balanced fragments and from texts without question marks; they are balanced
again, and rendering their values in their slots is the same as putting the rendered pieces together.
-/

namespace FluentSql

/-- A text with texts in its slots, from left to right. -/
def Text.fill (s : String) (texts : List String) : String :=
  String.ofList (Text.fillSlots s.toList (texts.map String.toList))

namespace Piece

/-- The text of a piece; one that cannot be written has none. -/
def written : Piece → String
  | .text s => s
  | .unwritable => ""

/-- The piece is a text without slots. -/
def IsConstant (p : Piece) : Prop := ∃ s, p = .text s ∧ '?' ∉ s.toList

theorem texts?_eq_ok {pieces : List Piece} (h : ∀ p ∈ pieces, ∃ s, p = .text s) :
    texts? pieces = .ok (pieces.map written) := by
  induction pieces with
  | nil => rfl
  | cons p pieces ih =>
      obtain ⟨s, rfl⟩ := h p (by simp)
      have hrest := ih fun p hp => h p (by simp [hp])
      unfold texts? at hrest ⊢
      rw [List.mapM_cons, hrest]
      rfl

theorem not_mem_written {pieces : List Piece} (h : ∀ p ∈ pieces, p.IsConstant) :
    ∀ s ∈ pieces.map written, '?' ∉ s.toList := by
  intro s hs
  obtain ⟨p, hp, rfl⟩ := List.mem_map.1 hs
  obtain ⟨t, rfl, ht⟩ := h p hp
  exact ht

end Piece

namespace Fragment

/-- The fragment is a text with one value for each of its slots. -/
def IsBalanced (f : Fragment) : Prop :=
  ∃ s, f.text = .text s ∧ f.values.length = Text.slotCount s.toList

/-- The fragment with its own values rendered in its slots. -/
def filled (render : Value → String) (f : Fragment) : Fragment where
  text :=
    match f.text with
    | .text s => .text (Text.fill s (f.values.map render))
    | .unwritable => .unwritable

theorem IsBalanced.exists_text {f : Fragment} (h : f.IsBalanced) : ∃ s, f.text = .text s :=
  h.imp fun _ hs => hs.1

theorem IsBalanced.length_values {f : Fragment} (h : f.IsBalanced) :
    f.values.length = Text.slotCount f.text.written.toList := by
  obtain ⟨s, htext, hlen⟩ := h
  rw [htext]
  exact hlen

theorem IsBalanced.exists_text_filled {f : Fragment} (h : f.IsBalanced)
    (render : Value → String) : ∃ s, (f.filled render).text = .text s := by
  obtain ⟨s, htext, -⟩ := h
  exact ⟨_, by rw [filled, htext]⟩

end Fragment

/-- A text with one value for each of its slots. -/
structure Clause where
  text : String
  values : List Value
  fits : values.length = Text.slotCount text.toList

namespace Clause

open Text (Filling IsSolid slotCount slotCount_eq_zero_iff)

/-- The clause with its values rendered in its slots. -/
def filled (render : Value → String) (c : Clause) : String := Text.fill c.text (c.values.map render)

/-- The clause with what is rendered for its slots. -/
def filling (render : Value → String) (c : Clause) : Filling where
  text := c.text.toList
  texts := c.values.map fun v => (render v).toList
  fits := by simp [c.fits]

theorem toList_filled (render : Value → String) (c : Clause) :
    (c.filled render).toList = (c.filling render).filled := by
  simp [filled, Text.fill, filling, Filling.filled, Function.comp_def]

/-- A clause without slots. -/
def constant (s : String) (h : '?' ∉ s.toList) : Clause := ⟨s, [], (slotCount_eq_zero_iff.2 h).symm⟩

/-- A balanced fragment as a clause. -/
def ofFragment (f : Fragment) (h : f.IsBalanced) : Clause := ⟨f.text.written, f.values, h.length_values⟩

/-- One clause after the other. -/
def append (c d : Clause) : Clause where
  text := c.text ++ d.text
  values := c.values ++ d.values
  fits := by simp [c.fits, d.fits]

/-- Clauses with a glue between them. -/
def intercalate (glue : String) (hglue : '?' ∉ glue.toList) (cs : List Clause) : Clause where
  text := glue.intercalate (cs.map text)
  values := cs.flatMap values
  fits := by
    have h := Filling.fits_intercalate hglue (cs.map (filling fun _ => ""))
    simpa [filling, List.flatMap_map, Function.comp_def, List.length_flatMap] using h

@[simp] theorem filled_constant (render : Value → String) (s : String) (h : '?' ∉ s.toList) :
    (constant s h).filled render = s := by
  simp [filled, Text.fill, constant]

theorem filled_ofFragment (render : Value → String) {f : Fragment} (h : f.IsBalanced) :
    (ofFragment f h).filled render = (f.filled render).text.written := by
  obtain ⟨s, htext, -⟩ := h
  simp [filled, ofFragment, Fragment.filled, htext, Piece.written]

@[simp] theorem filled_append (render : Value → String) (c d : Clause) :
    (c.append d).filled render = c.filled render ++ d.filled render := by
  have h := Filling.filled_append (c.filling render) (d.filling render)
  rw [← String.toList_inj, String.toList_append, toList_filled, toList_filled, toList_filled, ← h]
  simp [filling, append, Filling.append]

theorem filled_intercalate (render : Value → String) (glue : String) (hglue : '?' ∉ glue.toList)
    (cs : List Clause) :
    (intercalate glue hglue cs).filled render = glue.intercalate (cs.map (filled render)) := by
  have h := Filling.filled_intercalate hglue (cs.map (filling render))
  -- Rendering the values of the joined clauses is joining the rendered clauses, as fillings.
  have hsame : (intercalate glue hglue cs).filling render =
      Filling.intercalate hglue (cs.map (filling render)) := by
    simp [filling, intercalate, Filling.intercalate, List.flatMap_map, List.map_flatMap,
      Function.comp_def]
  rw [← String.toList_inj, toList_filled, hsame, h, String.toList_intercalate]
  simp [toList_filled, Function.comp_def]

/-- **A statement keeps every value at the slot of its clause.** -/
theorem joinNonBlank_filled {render : Value → String} (hrender : ∀ v, IsSolid (render v).toList)
    (cs : List Clause) :
    slotCount (Text.joinNonBlank " " (cs.map text)).toList = (cs.flatMap values).length ∧
      Text.fill (Text.joinNonBlank " " (cs.map text)) ((cs.flatMap values).map render) =
        Text.joinNonBlank " " (cs.map (filled render)) := by
  have hsolid : ∀ p ∈ cs.map (filling render), ∀ t ∈ p.texts, IsSolid t := by
    intro p hp t ht
    obtain ⟨c, -, rfl⟩ := List.mem_map.1 hp
    obtain ⟨v, -, rfl⟩ := List.mem_map.1 ht
    exact hrender v
  have htexts : (cs.map (filling render)).flatMap Filling.texts =
      ((cs.flatMap values).map render).map String.toList := by
    simp [filling, List.flatMap_map, List.map_flatMap, Function.comp_def]
  have hblank : '?' ∉ " ".toList := by decide
  have htext : (cs.map text).map String.toList = (cs.map (filling render)).map Filling.text := by
    simp [filling, Function.comp_def]
  have hfilled : (cs.map (filled render)).map String.toList =
      (cs.map (filling render)).map Filling.filled := by
    simp [toList_filled, Function.comp_def]
  obtain ⟨hcount, hfill⟩ := Text.joinNonBlank_filled hblank hsolid htext hfilled
  rw [htexts] at hcount hfill
  refine ⟨by simpa using hcount, ?_⟩
  rw [Text.fill, hfill, String.ofList_toList]

end Clause

end FluentSql
