import FluentSql.Record.Scope
import FluentSql.Proofs.Connection.Marks
/-
# FluentSql.Proofs.Record.Scope — what a record meets again after it did something in its world.

A record that the heap keeps is published there before anything happens in the world, and renewed from
there afterwards. Going through values and looking for drivers leaves records alone, so the record that
comes back is the one that was published (`renewed_eq`), and the world it sees is the one that was
left.
-/

namespace FluentSql

theorem Heap.replace_eq_self {h : Heap} {id : Nat} {cell : Cell} (hcell : h.cell? id = some cell) :
    h.replace id cell = h := by
  obtain ⟨hlt, hget⟩ := List.getElem?_eq_some_iff.1 hcell
  subst hget
  simp only [Heap.replace, List.set_getElem_self]

theorem Heap.replace_of_cell?_eq_none {h : Heap} {id : Nat} (hcell : h.cell? id = none)
    (cell : Cell) : h.replace id cell = h := by
  have hle : h.cells.length ≤ id := List.getElem?_eq_none_iff.1 hcell
  simp only [Heap.replace, List.set_eq_of_length_le hle]

namespace Record

open Step (Keeps Triple)

variable {E : Environment} {α : Type}

namespace Scope

theorem cell?_published {s : Scope E} {id : Nat} (hnumber : s.number = some id) {cell : Cell}
    (hcell : s.world.heap.cell? id = some cell) :
    s.published.heap.cell? id = some (.record s.record) := by
  simp only [published, hnumber]
  exact Heap.cell?_replace_self hcell _

theorem session_published (s : Scope E) : s.published.session = s.world.session := by
  unfold published
  split <;> rfl

theorem outside_published (s : Scope E) : s.published.outside = s.world.outside := by
  unfold published
  split <;> rfl

theorem world_renewed (s : Scope E) (w : World E.State) : (s.renewed w).world = w := by
  unfold renewed
  split <;> rfl

/-- A record that is put in place of the one that is published changes nothing else. -/
theorem isLike_published (s : Scope E) (r : Record) :
    s.published.heap.IsLike { s with record := r }.published.heap := by
  cases hnumber : s.number with
  | none =>
      simp only [published, hnumber]
      exact Heap.IsLike.refl _
  | some id =>
      simp only [published, hnumber]
      cases hcell : s.world.heap.cell? id with
      | none =>
          simp only [Heap.replace_of_cell?_eq_none hcell]
          exact Heap.IsLike.refl _
      | some cell =>
          have hself := Heap.cell?_replace_self hcell (.record s.record)
          have hlike := Heap.isLike_replace_record hself r
          simpa only [Heap.replace, List.set_set] using hlike

/-- The record comes back unchanged, and sees the world as it was left. -/
theorem renewed_eq {s : Scope E} {w : World E.State} (hd : s.published.heap.Drains w.heap) :
    (s.renewed w).record = s.record ∧ (s.renewed w).number = s.number ∧
      (s.renewed w).published = w := by
  cases hnumber : s.number with
  | none =>
      have hrenewed : s.renewed w = { s with world := w } := by simp only [renewed, hnumber]; rfl
      simp only [hrenewed, published, hnumber, and_self]
  | some id =>
      cases hcell : s.world.heap.cell? id with
      | some cell =>
          -- The record was published, and streams are all that has changed since.
          have hrecord := hd.cell?_record (cell?_published hnumber hcell)
          have hrenewed : s.renewed w = { s with world := w } := by
            simp only [renewed, hnumber, Option.bind_some, hrecord]
          refine ⟨by rw [hrenewed], by rw [hrenewed, hnumber], ?_⟩
          simp only [hrenewed, published, hnumber, Heap.replace_eq_self hrecord]
      | none =>
          -- The heap keeps nothing under the number, before and after.
          have hnone : w.heap.cell? id = none := by
            have hsame : s.published.heap.cell? id = none := by
              simp only [published, hnumber, Heap.replace_of_cell?_eq_none hcell, hcell]
            rcases hd id with heq | ⟨rest, _, hrest, -⟩
            · rw [heq, hsame]
            · rw [hsame] at hrest
              cases hrest
          have hrenewed : s.renewed w = { s with world := w } := by
            simp only [renewed, hnumber, Option.bind_some, hnone]
          refine ⟨by rw [hrenewed], by rw [hrenewed, hnumber], ?_⟩
          simp only [hrenewed, published, hnumber, Heap.replace_of_cell?_eq_none hnone]

/-- The scope with the record in its place in the heap. -/
def republished (s : Scope E) : Scope E := { s with world := s.published }

theorem renewed_published (s : Scope E) : s.renewed s.published = s.republished := by
  obtain ⟨hrecord, hnumber, -⟩ := Scope.renewed_eq (s := s) (w := s.published) (Heap.Drains.refl _)
  show Scope.mk (s.renewed s.published).record (s.renewed s.published).world (s.renewed s.published).number = _
  rw [hrecord, hnumber, Scope.world_renewed]
  rfl

theorem published_republished (s : Scope E) : s.republished.published = s.published := by
  rw [← s.renewed_published]
  exact (Scope.renewed_eq (Heap.Drains.refl _)).2.2

/-- Publishing the record again changes nothing. -/
theorem republished_republished (s : Scope E) : s.republished.republished = s.republished := by
  rw [republished, s.published_republished]
  rfl

/-- A scope that holds a record and comes from another scope by going through values, looking for
drivers and changing the record. The marks that the connection of the record can get have a property. -/
structure Holds (P : String → Prop) (s : Scope E) (r : Record) (s' : Scope E) : Prop where
  record : s'.record = r
  heap : s.published.heap.IsLike s'.published.heap
  session : Connection.Follows s.world.session s'.world.session
  marks : s'.world.session.HasMarks P r.connection

/-- A world that comes from another one by going through values and looking for drivers. -/
structure Visits (P : String → Prop) (connection : String) (w w' : World E.State) : Prop where
  heap : w.heap.Drains w'.heap
  session : Connection.Follows w.session w'.session
  marks : w'.session.HasMarks P connection

/-- Looking for drivers leaves the heap as it is. -/
theorem Visits.of_opensWith {P : String → Prop} {connection : String} {w w' : World E.State}
    (h : Connection.OpensWith P connection w w') : Visits P connection w w' :=
  ⟨h.heap ▸ Heap.Drains.refl _, h.session, h.marks⟩

end Scope

open Scope (Holds Visits)

variable {P : String → Prop} {s : Scope E} {r : Record}

theorem holds_self (h : s.world.session.HasMarks P s.record.connection) : Holds P s s.record s :=
  ⟨rfl, Heap.IsLike.refl _, .refl _, h⟩

/-- Every mark has the property that says nothing. -/
theorem hasMarks_true (connection : String) (session : Session) :
    session.HasMarks (fun _ => True) connection :=
  .inr ⟨fun _ _ _ => trivial, fun _ _ => trivial, fun _ _ _ _ => trivial, trivial⟩

theorem perform_bindCurrent (next : Record → Record.Action E α) (s : Scope E) :
    (current >>= next).perform s = (next s.record).perform s := rfl

theorem perform_inWorld {action : FluentSql.Action E α} {result : Except Failure α}
    {w : World E.State} (hrun : action.perform s.published = (result, w)) :
    (inWorld action).perform s = (result, s.renewed w) := by
  rw [inWorld, Step.perform_onPart, hrun]

/-- What leaves the world as it is does no more than publish the record. -/
theorem perform_inWorld_of_same {s : Scope E} {action : FluentSql.Action E α} {a : α}
    (hrun : action.perform s.published = (.ok a, s.published)) :
    (inWorld action).perform s = (.ok a, s.republished) := by
  rw [perform_inWorld hrun, s.renewed_published]

/-- The row that data stand for are their fields, which takes nothing from the world. -/
theorem perform_rowOf_of_entries? {data : Value} {entries : Row} {w : World E.State}
    (hdata : w.heap.entries? data = some entries) :
    (rowOf data : FluentSql.Action E Row).perform w = (.ok entries, w) := by
  have hget : (get : FluentSql.Action E (World E.State)).perform w = (.ok w, w) := rfl
  have hcontent := Heap.content_eq_map hdata
  have hnone : (Connection.cacheBehind? data : FluentSql.Action E (Option CacheRef)).perform w = (.ok none, w) := by
    cases data with
    | ref id =>
        rw [Connection.cacheBehind?, Step.perform_bind_ok hget]
        cases hcell : w.heap.cell? id with
        | none => rfl
        | some cell =>
            cases cell with
            | cache => simp [Heap.content, hcell] at hcontent
            | _ => rfl
    | _ => rfl
  have htrue : (Connection.isTrue data : FluentSql.Action E Bool).perform w = (.ok (!entries.isEmpty), w) := by
    rw [Connection.isTrue, Step.perform_bind_ok hnone]
    dsimp only
    rw [Step.perform_bind_ok hget, Heap.isTrue, hcontent]
    rfl
  rw [rowOf, Step.perform_bind_ok htrue]
  cases entries with
  | nil => rfl
  | cons first rest =>
      exact Session.perform_inHeap (Heap.perform_row_of_entries? hdata)

theorem triple_bindCurrent {β : Type} {I : Scope E → Prop} {next : Record → Record.Action E β}
    {Q : β → Scope E → Prop} {F : Scope E → Prop}
    (h : ∀ s, I s → Triple (· = s) (next s.record) Q F) : Triple I (current >>= next) Q F :=
  fun s hs => h s hs s rfl

theorem triple_bindHeap {β : Type} {I : Scope E → Prop} {next : Heap → Record.Action E β}
    {Q : β → Scope E → Prop} {F : Scope E → Prop}
    (h : ∀ s, I s → Triple (· = s) (next s.published.heap) Q F) : Triple I (heap >>= next) Q F :=
  fun s hs => h s hs s rfl

/-- Changing the record changes nothing else. -/
theorem triple_change {f : Record → Record} (hconnection : (f r).connection = r.connection) :
    Triple (Holds P s r) (change f : Record.Action E Unit) (fun _ => Holds P s (f r))
      (Holds P s r) := by
  refine Triple.modify fun s' hs' => ⟨by rw [hs'.record], ?_, hs'.session, ?_⟩
  · exact hs'.heap.trans (s'.isLike_published _)
  · rw [hconnection]
    exact hs'.marks

/-- The record comes back as it was from a world where streams were drained and drivers looked for. -/
theorem Scope.Holds.renewed {s' : Scope E} (hs' : Holds P s r s') {w : World E.State}
    (hw : Visits P r.connection s'.published w) : Holds P s r (s'.renewed w) := by
  obtain ⟨hrecord, -, hpublished⟩ := Scope.renewed_eq hw.heap
  refine ⟨hrecord.trans hs'.record, ?_, ?_, ?_⟩
  · rw [hpublished]
    exact hs'.heap.trans hw.heap.isLike
  · have hsession := hw.session
    rw [Scope.session_published] at hsession
    rw [← Scope.session_published (s'.renewed w), hpublished]
    exact hs'.session.trans hsession
  · rw [← Scope.session_published, hpublished]
    exact hw.marks

/-- What happens in the world leaves the record alone if it drains streams and looks for drivers
only. -/
theorem triple_inWorld {s' : Scope E} (hs' : Holds P s r s') {action : FluentSql.Action E α}
    {Q : α → Prop}
    (h : s'.published.session.HasMarks P r.connection → Triple (· = s'.published) action
      (fun a w => Visits P r.connection s'.published w ∧ Q a) (Visits P r.connection s'.published)) :
    Triple (· = s') (inWorld action) (fun a t => Holds P s r t ∧ Q a) (Holds P s r) := by
  have hmarks : s'.published.session.HasMarks P r.connection := by
    rw [Scope.session_published]
    exact hs'.marks
  refine Triple.onPart s' (h hmarks) rfl ?_ ?_
  · rintro a w ⟨hw, hQ⟩
    exact ⟨hs'.renewed hw, hQ⟩
  · exact fun w hw => hs'.renewed hw

/-- Going through values in the heap. -/
theorem triple_inHeap {s' : Scope E} (hs' : Holds P s r s') {step : Step Heap α} {Q : α → Prop}
    (h : Triple (· = s'.published.heap) step (fun a h' => s'.published.heap.Drains h' ∧ Q a)
      s'.published.heap.Drains) :
    Triple (· = s') (inHeap step : Record.Action E α) (fun a t => Holds P s r t ∧ Q a)
      (Holds P s r) := by
  refine triple_inWorld hs' fun hmarks => Session.triple_inHeap _ rfl h ?_ ?_
  · rintro a h' ⟨hd, hQ⟩
    exact ⟨⟨hd, .refl _, hmarks⟩, hQ⟩
  · intro h' hd
    exact ⟨hd, .refl _, hmarks⟩

/-- What a step gives in every heap it gives in the heap of the record. -/
theorem triple_inAnyHeap {step : Step Heap α} {Q : α → Prop}
    (h : ∀ h : Heap, Triple (· = h) step (fun a h' => h.Drains h' ∧ Q a) h.Drains) :
    Triple (Holds P s r) (inHeap step : Record.Action E α) (fun a s' => Holds P s r s' ∧ Q a)
      (Holds P s r) :=
  Triple.of_states fun _ hs' => triple_inHeap hs' (h _)

/-- A step that drains streams at most. -/
theorem keeps_inHeap {step : Step Heap α} (h : ∀ h : Heap, Keeps h.Drains step) :
    Keeps (Holds P s r) (inHeap step : Record.Action E α) := by
  have hstep : ∀ h : Heap, Triple (· = h) step (fun _ h' => h.Drains h' ∧ True) h.Drains := fun before =>
    (h before).consequence (fun _ hs => hs ▸ Heap.Drains.refl _) (fun _ _ hs => ⟨hs, trivial⟩)
      fun _ hs => hs
  exact (triple_inAnyHeap hstep).post fun _ _ ht => ht.1

/-- A name is quoted with a mark that the connection can get. -/
theorem triple_quote_text (name : String) :
    Triple (Holds P s r) (quote (.text name) : Record.Action E String)
      (fun quoted s' => Holds P s r s' ∧ ∃ mark, P mark ∧ quoted = Identifier.quoteName mark name)
      (Holds P s r) := by
  refine triple_bindCurrent fun s' hs' => ?_
  rw [hs'.record]
  refine triple_inWorld hs' fun hmarks => ?_
  refine (Connection.triple_quote_text (P := P) (w := s'.published) name).consequence ?_ ?_ ?_
  · rintro _ rfl
    exact .refl hmarks
  · exact fun quoted w hw => ⟨.of_opensWith hw.1, hw.2⟩
  · exact fun w hw => .of_opensWith hw

/-- Statements are written with a mark that the connection can get. -/
theorem triple_rendering :
    Triple (Holds P s r) (rendering : Record.Action E Rendering)
      (fun rendering s' => Holds P s r s' ∧ P rendering.mark) (Holds P s r) := by
  refine triple_bindCurrent fun s' hs' => ?_
  rw [hs'.record]
  refine triple_inWorld hs' fun hmarks => ?_
  refine (Connection.triple_rendering (P := P) (w := s'.published)).consequence ?_ ?_ ?_
  · rintro _ rfl
    exact .refl hmarks
  · exact fun quoted w hw => ⟨.of_opensWith hw.1, hw.2⟩
  · exact fun w hw => .of_opensWith hw

end Record

end FluentSql
