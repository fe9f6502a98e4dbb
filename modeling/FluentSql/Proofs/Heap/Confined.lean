import FluentSql.Proofs.Heap.Within
import FluentSql.Proofs.Step.Mirror
import FluentSql.Record.Condition
/-
# FluentSql.Proofs.Heap.Confined — going through what lies within a part of a heap.

To go through a value within a closed set of numbers is confined to this set. In two heaps that agree on the set the
same comes up, and of all streams none are used up but those of the set. If the heaps agree on a larger set they still
do afterwards (`Heap.Beside`). This holds of everything that a builder does with a value.
-/

namespace FluentSql

open Step (Mirrors Repeats)

namespace Heap

/-! ## Draining a part of a heap -/

/-- The second heap differs from the first at most in streams of the set, of which some items are taken. -/
def DrainsIn (T : Set Nat) (h h' : Heap) : Prop :=
  ∀ id, h'.cell? id = h.cell? id ∨ (id ∈ T ∧ ∃ rest rest',
    h.cell? id = some (.stream rest) ∧ h'.cell? id = some (.stream rest') ∧ rest' ⊆ rest)

/-- Two heaps in the course of a step that goes through what lies within a set. They came from two others by draining
it, and agree on a larger set. -/
structure Beside (S T : Set Nat) (h h' g g' : Heap) : Prop where
  agrees : g.Agrees S g'
  subset : T ⊆ S
  closed : g.Closed T
  drains : h.DrainsIn T g
  drains' : h'.DrainsIn T g'

variable {α : Type} {S T : Set Nat} {h h' h'' g g' : Heap} {P : α → Prop} {v w : Value}

theorem DrainsIn.refl (h : Heap) : h.DrainsIn T h := fun _ => .inl rfl

theorem DrainsIn.drains (hd : h.DrainsIn T h') : h.Drains h' := by
  intro id
  rcases hd id with heq | ⟨-, rest, rest', hrest, hrest', -⟩
  · exact .inl heq
  · exact .inr ⟨rest, rest', hrest, hrest'⟩

theorem DrainsIn.trans (hd : h.DrainsIn T h') (hd' : h'.DrainsIn T h'') : h.DrainsIn T h'' := by
  intro id
  rcases hd id with heq | ⟨hid, rest, rest', hrest, hrest', hsubset⟩
  · rw [← heq]
    exact hd' id
  · rcases hd' id with heq' | ⟨-, _, rest'', hmid, hrest'', hsubset'⟩
    · exact .inr ⟨hid, rest, rest', hrest, heq'.trans hrest', hsubset⟩
    · rw [hrest'] at hmid
      cases hmid
      exact .inr ⟨hid, rest, rest'', hrest, hrest'', List.Subset.trans hsubset' hsubset⟩

theorem DrainsIn.closed (hd : h.DrainsIn T h') (hclosed : h.Closed S) : h'.Closed S := by
  intro id hid cell hcell
  rcases hd id with heq | ⟨-, rest, rest', hrest, hrest', hsubset⟩
  · exact hclosed id hid cell (heq ▸ hcell)
  · have hwithin : Value.AllWithin S rest := hclosed id hid _ hrest
    rw [hrest'] at hcell
    cases hcell
    exact Value.allWithin_iff.2 fun item hitem => Value.allWithin_iff.1 hwithin item (hsubset hitem)

theorem drainsIn_replace {id : Nat} {rest : List Value} (hid : id ∈ T) (hrest : h.cell? id = some (.stream rest))
    (count : Nat) : h.DrainsIn T (h.replace id (.stream (rest.drop count))) := by
  intro other
  by_cases hne : other = id
  · subst hne
    exact .inr ⟨hid, rest, _, hrest, cell?_replace_self hrest _, List.drop_subset _ _⟩
  · exact .inl (cell?_replace_of_ne hne _)

namespace Beside

/-- The two heaps agree on the set that is gone through, too. -/
theorem agreesOn (hb : Beside S T h h' g g') : g.Agrees T g' :=
  ⟨hb.agrees.like, fun id hid => hb.agrees.shown id (hb.subset hid), hb.closed⟩

theorem start (hagrees : h.Agrees S h') (hsubset : T ⊆ S) (hclosed : h.Closed T) : Beside S T h h' h h' :=
  ⟨hagrees, hsubset, hclosed, .refl h, .refl h'⟩

/-- The same stream is drained in both heaps. -/
theorem replace (hb : Beside S T h h' g g') {id : Nat} {rest : List Value} (hid : id ∈ T)
    (hrest : g.cell? id = some (.stream rest)) (hrest' : g'.cell? id = some (.stream rest)) (count : Nat) :
    Beside S T h h' (g.replace id (.stream (rest.drop count))) (g'.replace id (.stream (rest.drop count))) := by
  have hd := drainsIn_replace hid hrest count
  have hd' := drainsIn_replace hid hrest' count
  refine ⟨⟨?_, ?_, hd.closed hb.agrees.closed⟩, hb.subset, hd.closed hb.closed, hb.drains.trans hd,
    hb.drains'.trans hd'⟩
  · exact (hd.drains.isLike.symm.trans hb.agrees.like).trans hd'.drains.isLike
  · intro other hother
    by_cases hne : other = id
    · subst hne
      rw [cell?_replace_self hrest, cell?_replace_self hrest']
    · rw [cell?_replace_of_ne hne, cell?_replace_of_ne hne]
      exact hb.agrees.shown other hother

end Beside

/-- What is found by looking into values of the set is the same in both heaps. -/
theorem repeats_bindGet {next : Heap → Step Heap α} (hsame : ∀ g g', g.Agrees T g' → next g' = next g)
    (hnext : ∀ g, g.Closed T → Repeats (Beside S T h h') P (next g)) :
    Repeats (Beside S T h h') P (get >>= next) := by
  refine Mirrors.bindGet fun g g' hb => ?_
  rw [hsame g g' hb.agreesOn]
  exact hnext g hb.closed

/-! ## Going through values -/

theorem repeats_skip (hv : v.Within T) (count : Nat) : Repeats (Beside S T h h') (fun _ => True) (skip v count) := by
  intro g g' hb
  cases v with
  | ref id =>
      have hget : ∀ f : Heap, (get : Step Heap Heap).perform f = (.ok f, f) := fun _ => rfl
      rw [skip, Step.perform_bind_ok (hget g), Step.perform_bind_ok (hget g')]
      rcases hb.agreesOn.cell? hv with heq | ⟨r, r', hr, hr', -⟩
      · rw [heq]
        cases hcell : g.cell? id with
        | none => exact ⟨⟨rfl, trivial⟩, hb⟩
        | some cell =>
            cases cell with
            | stream rest => exact ⟨⟨rfl, trivial⟩, hb.replace hv hcell (heq.trans hcell) count⟩
            | _ => exact ⟨⟨rfl, trivial⟩, hb⟩
      · rw [hr, hr']
        exact ⟨⟨rfl, trivial⟩, hb⟩
  | _ => exact ⟨⟨rfl, trivial⟩, hb⟩

theorem repeats_items (hv : v.Within T) :
    Repeats (Beside S T h h') (fun all => ∀ item ∈ all, item.Within T) (items v) := by
  refine repeats_bindGet (fun g g' hs => by rw [hs.items?_eq hv]) fun g hclosed => ?_
  refine Repeats.bind (Repeats.lift fun all hall => hclosed.items? hv hall) fun all hall => ?_
  exact Repeats.bind (repeats_skip hv _) fun _ _ => Repeats.pure hall

theorem repeats_forItems {f : Value → Step Heap α} (hv : v.Within T)
    (hf : ∀ item, item.Within T → Repeats (Beside S T h h') P (f item)) :
    Repeats (Beside S T h h') (fun as => ∀ a ∈ as, P a) (forItems v f) := by
  refine repeats_bindGet (fun g g' hs => by rw [hs.items?_eq hv]) fun g hclosed => ?_
  refine Repeats.bind (Repeats.lift fun all hall => hclosed.items? hv hall) fun all hall => ?_
  exact Repeats.mapM fun item hitem => Repeats.bind (repeats_skip hv 1) fun _ _ => hf item (hall item hitem)

theorem repeats_itemsThrough (isLast : Value → Bool) (hv : v.Within T) :
    Repeats (Beside S T h h') (fun all => ∀ item ∈ all, item.Within T) (itemsThrough isLast v) := by
  refine repeats_bindGet (fun g g' hs => by rw [hs.items?_eq hv]) fun g hclosed => ?_
  refine Repeats.bind (Repeats.lift fun all hall => hclosed.items? hv hall) fun all hall => ?_
  refine Repeats.bind (repeats_skip hv _) fun _ _ => Repeats.pure fun item hitem => ?_
  exact hall item (List.mem_of_mem_take hitem)

theorem repeats_requireKey (hv : v.Within T) : Repeats (Beside S T h h') (fun _ => True) (requireKey v) := by
  refine repeats_bindGet (fun g g' hs => by rw [hs.isKey_eq hv]) fun g _ => ?_
  split
  · exact Repeats.throw _
  · exact Repeats.pure trivial

theorem repeats_entryOf? {entries : Row} (hv : v.Within T) (hentries : Value.EntriesWithin T entries) :
    Repeats (Beside S T h h') (fun found => ∀ w, found = some w → w.Within T) (entryOf? v entries) :=
  Repeats.bind (repeats_requireKey hv) fun _ _ => Repeats.pure fun _ hfound => hentries.get? hfound

theorem repeats_hasKey {entries : Row} (hv : v.Within T) (hentries : Value.EntriesWithin T entries) :
    Repeats (Beside S T h h') (fun _ => True) (hasKey v entries) :=
  Repeats.bind (repeats_entryOf? hv hentries) fun _ _ => Repeats.pure trivial

theorem repeats_isAmong {items : List Value} (hv : v.Within T) (hw : w.Within T)
    (hitems : ∀ item ∈ items, item.Within T) : Repeats (Beside S T h h') (fun _ => True) (isAmong v w items) := by
  refine repeats_bindGet (fun g g' hs => by rw [hs.seek_eq hv hitems]) fun g _ => ?_
  exact Repeats.bind (repeats_skip hw _) fun _ _ => Repeats.lift fun _ _ => trivial

/-- Whether a value holds an item is looked for within the values. -/
theorem repeats_contains (hv : v.Within T) (hw : w.Within T) :
    Repeats (Beside S T h h') (fun _ => True) (contains v w) := by
  refine repeats_bindGet (fun g g' hs => ?_) fun g hclosed => ?_
  · have hwithin := hs.closed.content hw
    rw [hs.content_eq hv, hs.content_eq hw]
    split
    all_goals try rfl
    -- What refers to something is a record, a result set, or holds nothing.
    rename_i id hcontent
    rw [hcontent] at hwithin
    rcases hs.cell? hwithin with heq | ⟨r, r', hr, hr', hunbuilt⟩
    · rw [heq]
      split
      · rfl
      · rename_i list hcell
        rw [hs.listItems_eq (hs.closed id hwithin _ hcell)]
      · rfl
    · obtain ⟨-, -, -, hchanges, -⟩ := Record.unbuilt_eq_iff.1 hunbuilt
      simp only [hr, hr', hchanges]
  · have hwithin := hclosed.content hw
    split
    · exact Repeats.bind (Repeats.lift (P := fun _ => True) fun _ _ => trivial) fun _ _ => Repeats.pure trivial
    · exact Repeats.bind (Repeats.lift (P := fun _ => True) fun _ _ => trivial) fun _ _ => Repeats.pure trivial
    · exact Repeats.lift fun _ _ => trivial
    · rename_i entries hcontent
      rw [hcontent] at hwithin
      exact repeats_hasKey hv hwithin
    · rename_i items hcontent
      rw [hcontent] at hwithin
      exact repeats_isAmong hv hw (Value.allWithin_iff.1 hwithin)
    · rename_i items hcontent
      rw [hcontent] at hwithin
      exact repeats_isAmong hv hw (Value.allWithin_iff.1 hwithin)
    · rename_i items hcontent
      rw [hcontent] at hwithin
      exact repeats_isAmong hv hw (Value.allWithin_iff.1 hwithin)
    · rename_i id hcontent
      rw [hcontent] at hwithin
      split
      · rename_i r hcell
        exact repeats_hasKey hv (hclosed id hwithin _ hcell)
      · rename_i list hcell
        exact repeats_isAmong hv hw (hclosed.listItems (hclosed id hwithin _ hcell))
      · exact Repeats.throw _
    · exact Repeats.throw _

/-- What is quoted of a value is the same in both heaps. -/
theorem repeats_identifier (hv : v.Within T) : Repeats (Beside S T h h') (fun _ => True) (identifier v) := by
  refine Mirrors.bindGet fun g g' hb => ?_
  rw [hb.agreesOn.isIterable_eq hv, hb.agreesOn.settle_eq hv]
  split
  · exact Mirrors.pure ⟨rfl, trivial⟩
  · -- The items are settled in the heaps that there were before any was taken.
    refine Mirrors.bind (repeats_itemsThrough _ hv) ?_
    rintro all _ ⟨rfl, hall⟩
    rw [hb.agreesOn.settleAll_eq hall]
    exact Mirrors.pure ⟨rfl, trivial⟩

end Heap

end FluentSql
