import FluentSql.Heap.Walk
import FluentSql.Proofs.Step.Triple
/-
# FluentSql.Proofs.Heap.Drains — going through values leaves everything but streams alone.

Going through a value takes the items of streams away and changes nothing else, so lists, tuples and
mappings stay what they are, and so do records. A view of the heap that does not look into streams or
records is the same before and after (`IsLike`).
-/

namespace FluentSql.Heap

open Step (Keeps Triple perform_bind_ok)

/-- The second heap differs from the first at most in what is left of its streams. -/
def Drains (h h' : Heap) : Prop :=
  ∀ id, h'.cell? id = h.cell? id ∨
    ∃ rest rest', h.cell? id = some (.stream rest) ∧ h'.cell? id = some (.stream rest')

/-- The heaps differ at most in what is left of their streams and in what their records hold. -/
def IsLike (h h' : Heap) : Prop :=
  ∀ id, h'.cell? id = h.cell? id ∨
    (∃ rest rest', h.cell? id = some (.stream rest) ∧ h'.cell? id = some (.stream rest')) ∨
    ∃ r r', h.cell? id = some (.record r) ∧ h'.cell? id = some (.record r')

variable {h h' h'' : Heap}

/-! ## The relations -/

theorem cell?_replace_self {id : Nat} {cell : Cell} (hcell : h.cell? id = some cell) (cell' : Cell) :
    (h.replace id cell').cell? id = some cell' := by
  have hlt : id < h.cells.length := (List.getElem?_eq_some_iff.1 hcell).1
  simp [cell?, replace, hlt]

theorem Drains.refl (h : Heap) : h.Drains h := fun _ => .inl rfl

theorem IsLike.refl (h : Heap) : h.IsLike h := fun _ => .inl rfl

theorem Drains.isLike (hd : h.Drains h') : h.IsLike h' := by
  intro id
  rcases hd id with heq | hstream
  · exact .inl heq
  · exact .inr (.inl hstream)

theorem Drains.trans (h₁ : h.Drains h') (h₂ : h'.Drains h'') : h.Drains h'' := by
  intro id
  rcases h₁ id with heq₁ | ⟨rest, rest', hrest, hrest'⟩
  · rw [← heq₁]
    exact h₂ id
  · rcases h₂ id with heq₂ | ⟨_, rest'', -, hrest''⟩
    · exact .inr ⟨rest, rest', hrest, heq₂.trans hrest'⟩
    · exact .inr ⟨rest, rest'', hrest, hrest''⟩

theorem IsLike.trans (h₁ : h.IsLike h') (h₂ : h'.IsLike h'') : h.IsLike h'' := by
  intro id
  rcases h₁ id with heq₁ | ⟨rest, rest', hrest, hrest'⟩ | ⟨r, r', hr, hr'⟩
  · rw [← heq₁]
    exact h₂ id
  · rcases h₂ id with heq₂ | ⟨_, rest'', -, hrest''⟩ | ⟨_, _, hrecord, -⟩
    · exact .inr (.inl ⟨rest, rest', hrest, heq₂.trans hrest'⟩)
    · exact .inr (.inl ⟨rest, rest'', hrest, hrest''⟩)
    · rw [hrest'] at hrecord
      cases hrecord
  · rcases h₂ id with heq₂ | ⟨_, _, hstream, -⟩ | ⟨_, r'', -, hr''⟩
    · exact .inr (.inr ⟨r, r', hr, heq₂.trans hr'⟩)
    · rw [hr'] at hstream
      cases hstream
    · exact .inr (.inr ⟨r, r'', hr, hr''⟩)

theorem Drains.cell?_record (hd : h.Drains h') {id : Nat} {r : Record}
    (hr : h.cell? id = some (.record r)) : h'.cell? id = some (.record r) := by
  rcases hd id with heq | ⟨rest, _, hrest, -⟩
  · rw [heq, hr]
  · rw [hr] at hrest
    cases hrest

theorem drains_replace_stream {id : Nat} {rest : List Value}
    (hrest : h.cell? id = some (.stream rest)) (rest' : List Value) :
    h.Drains (h.replace id (.stream rest')) := by
  intro other
  by_cases hne : other = id
  · subst hne
    exact .inr ⟨rest, rest', hrest, cell?_replace_self hrest _⟩
  · exact .inl (cell?_replace_of_ne hne _)

/-- Another record under a number changes nothing that matters here. -/
theorem isLike_replace_record {id : Nat} {r : Record} (hr : h.cell? id = some (.record r))
    (r' : Record) : h.IsLike (h.replace id (.record r')) := by
  intro other
  by_cases hne : other = id
  · subst hne
    exact .inr (.inr ⟨r, r', hr, cell?_replace_self hr _⟩)
  · exact .inl (cell?_replace_of_ne hne _)

/-! ## What stays in view -/

theorem IsLike.content (hl : h.IsLike h') (v : Value) :
    h'.content v = h.content v ∨
      ∃ rest rest', h.content v = .stream rest ∧ h'.content v = .stream rest' := by
  cases v with
  | ref id =>
      rcases hl id with heq | ⟨rest, rest', hrest, hrest'⟩ | ⟨r, r', hr, hr'⟩
      · left
        simp only [Heap.content, heq]
      · right
        exact ⟨rest, rest', by simp only [Heap.content, hrest], by simp only [Heap.content, hrest']⟩
      · left
        simp only [Heap.content, hr, hr']
  | _ => exact .inl rfl

theorem IsLike.entries? (hl : h.IsLike h') (v : Value) : h'.entries? v = h.entries? v := by
  rcases hl.content v with heq | ⟨rest, rest', hrest, hrest'⟩
  · simp only [Heap.entries?, heq]
  · simp only [Heap.entries?, hrest, hrest']

theorem IsLike.asItems (hl : h.IsLike h') (v : Value) : h'.asItems v = h.asItems v := by
  rcases hl.content v with heq | ⟨rest, rest', hrest, hrest'⟩
  · simp only [Heap.asItems, heq]
  · simp only [Heap.asItems, hrest, hrest']

/-! ## Going through values -/

/-- Taking items never fails, and takes them from a stream only. -/
theorem exists_perform_skip (h : Heap) (v : Value) (count : Nat) :
    ∃ h', (skip v count).perform h = (.ok (), h') ∧ h.Drains h' := by
  cases v with
  | ref id =>
      have hget : (get : Step Heap Heap).perform h = (.ok h, h) := rfl
      rw [skip, perform_bind_ok hget]
      cases hcell : h.cell? id with
      | none => exact ⟨h, rfl, Drains.refl h⟩
      | some cell =>
          cases cell with
          | stream rest => exact ⟨_, rfl, drains_replace_stream hcell _⟩
          | _ => exact ⟨h, rfl, Drains.refl h⟩
  | _ => exact ⟨h, rfl, Drains.refl h⟩

theorem keeps_skip (h : Heap) (v : Value) (count : Nat) : Keeps h.Drains (skip v count) := by
  intro current hcurrent
  obtain ⟨left, hskip, hleft⟩ := exists_perform_skip current v count
  rw [hskip]
  exact hcurrent.trans hleft

/-- Only streams can be gone through just once. -/
theorem perform_skip_of_content_ne_stream {h : Heap} {v : Value}
    (hne : ∀ rest, h.content v ≠ .stream rest) (count : Nat) :
    (skip v count).perform h = (.ok (), h) := by
  cases v with
  | ref id =>
      have hcell : ∀ rest, h.cell? id ≠ some (.stream rest) := by
        intro rest hrest
        exact hne rest (by simp only [Heap.content, hrest])
      have hget : (get : Step Heap Heap).perform h = (.ok h, h) := rfl
      -- The cell is no stream (`hcell`), so nothing is left behind but the cell as it was.
      simp only [skip, Step.perform_bind, hget]
      rfl
  | _ => rfl

theorem keeps_items (h : Heap) (v : Value) : Keeps h.Drains (items v) := by
  refine Keeps.bind Keeps.get fun current => ?_
  refine Keeps.bind (Keeps.lift _) fun all => ?_
  exact Keeps.bind (keeps_skip h v _) fun _ => Keeps.pure _

theorem triple_items (h : Heap) (v : Value) :
    Triple (· = h) (items v) (fun all h' => h.Drains h' ∧ h.items? v = .ok all) h.Drains := by
  refine Triple.bindGet fun current hcurrent => ?_
  subst hcurrent
  refine Triple.bindKnown (I := current.Drains) (R := fun all => current.items? v = .ok all)
    (Triple.lift ?_ ?_) fun all hall => ?_
  · rintro all hall s rfl
    exact ⟨Drains.refl _, hall⟩
  · rintro failure _ s rfl
    exact Drains.refl _
  · refine Triple.bind (keeps_skip current v _) fun _ => ?_
    exact Triple.pure fun _ hs => ⟨hs, hall⟩

theorem keeps_itemsThrough (h : Heap) (isLast : Value → Bool) (v : Value) :
    Keeps h.Drains (itemsThrough isLast v) := by
  refine Keeps.bind Keeps.get fun current => ?_
  refine Keeps.bind (Keeps.lift _) fun all => ?_
  exact Keeps.bind (keeps_skip h v _) fun _ => Keeps.pure _

theorem keeps_requireKey (h : Heap) (v : Value) : Keeps h.Drains (requireKey v) := by
  refine Keeps.bind Keeps.get fun current => ?_
  split
  · exact Keeps.throw _
  · exact Keeps.pure ()

/-- What is found under a key is the value that the entries have for it. -/
theorem triple_entryOf? (h : Heap) (key : Value) (entries : Row) :
    Triple h.Drains (entryOf? key entries)
      (fun found h' => h.Drains h' ∧ found = Entries.get? key entries) h.Drains :=
  Triple.bind (keeps_requireKey h key) fun _ => Triple.pure fun _ hs => ⟨hs, rfl⟩

theorem keeps_entryOf? (h : Heap) (key : Value) (entries : Row) :
    Keeps h.Drains (entryOf? key entries) :=
  (triple_entryOf? h key entries).post fun _ _ hs => hs.1

/-- What each item gives has a property if it has it whatever the item is. -/
theorem triple_forItems {α : Type} (h : Heap) (v : Value) {f : Value → Step Heap α} {R : α → Prop}
    (hf : ∀ item, Triple h.Drains (f item) (fun a h' => h.Drains h' ∧ R a) h.Drains) :
    Triple h.Drains (forItems v f) (fun all h' => h.Drains h' ∧ ∀ a ∈ all, R a) h.Drains := by
  refine Triple.bind (R := fun _ => h.Drains) Keeps.get fun current => ?_
  refine Triple.bind (R := fun _ => h.Drains) (Keeps.lift _) fun all => ?_
  exact Triple.mapM_all fun item _ => Triple.bind (keeps_skip h v 1) fun _ => hf item

theorem keeps_forItems {α : Type} (h : Heap) (v : Value) {f : Value → Step Heap α}
    (hf : ∀ item, Keeps h.Drains (f item)) : Keeps h.Drains (forItems v f) := by
  have hall := triple_forItems h v (R := fun _ => True) fun item =>
    (hf item).post fun _ _ hs => ⟨hs, trivial⟩
  exact hall.post fun _ _ hs => hs.1

theorem keeps_hasKey (h : Heap) (key : Value) (entries : Row) :
    Keeps h.Drains (hasKey key entries) :=
  Keeps.bind (keeps_entryOf? h key entries) fun _ => Keeps.pure _

theorem keeps_isAmong (h : Heap) (item holder : Value) (items : List Value) :
    Keeps h.Drains (isAmong item holder items) := by
  refine Keeps.bind Keeps.get fun current => ?_
  exact Keeps.bind (keeps_skip h holder _) fun _ => Keeps.lift _

theorem keeps_contains (h : Heap) (item holder : Value) : Keeps h.Drains (contains item holder) := by
  refine Keeps.bind Keeps.get fun current => ?_
  split
  · exact Keeps.bind (Keeps.lift _) fun _ => Keeps.pure _
  · exact Keeps.bind (Keeps.lift _) fun _ => Keeps.pure _
  · exact Keeps.lift _
  · exact keeps_hasKey h item _
  · exact keeps_isAmong h item holder _
  · exact keeps_isAmong h item holder _
  · exact keeps_isAmong h item holder _
  · split
    · exact keeps_hasKey h item _
    · exact keeps_isAmong h item holder _
    · exact Keeps.throw _
  · exact Keeps.throw _

/-- A pair is taken out of what holds it. -/
theorem keeps_pair (h : Heap) (v : Value) : Keeps h.Drains (pair v) := by
  refine Keeps.bind (keeps_items h v) fun all => ?_
  split
  · exact Keeps.bind (keeps_requireKey h _) fun _ => Keeps.pure _
  · exact Keeps.throw _

/-- The keys and values of what is no mapping are taken out of it. -/
theorem keeps_row (h : Heap) (v : Value) : Keeps h.Drains (row v) := by
  refine Keeps.bind Keeps.get fun current => ?_
  split
  · exact Keeps.pure _
  · exact Keeps.bind (keeps_forItems h v fun item => keeps_pair h item) fun _ => Keeps.pure _

theorem content_eq_map {h : Heap} {v : Value} {entries : Row} (hv : h.entries? v = some entries) :
    h.content v = .map entries := by
  rw [entries?] at hv
  split at hv
  · rename_i hcontent
    rw [hcontent, Option.some.inj hv]
  · cases hv

theorem perform_row_of_entries? {h : Heap} {v : Value} {entries : Row} (hv : h.entries? v = some entries) :
    (row v).perform h = (.ok entries, h) := by
  have hget : (get : Step Heap Heap).perform h = (.ok h, h) := rfl
  rw [row, perform_bind_ok hget, hv]
  rfl

theorem keeps_identifier (h : Heap) (v : Value) : Keeps h.Drains (identifier v) := by
  refine Keeps.bind Keeps.get fun current => ?_
  split
  · exact Keeps.pure _
  · exact Keeps.bind (keeps_itemsThrough h _ v) fun _ => Keeps.pure _

/-- A name is quoted as it is. -/
theorem triple_identifier_text (h : Heap) (name : String) :
    Triple (· = h) (identifier (.text name)) (fun v h' => h' = h ∧ v = .text name) (fun _ => False) := by
  intro h' hh
  exact ⟨hh, settle_eq_self h' rfl⟩

/-- Nothing is among no items. -/
theorem triple_contains_of_asItems_eq_nil {h : Heap} {holder : Value}
    (hnil : h.asItems holder = []) (item : Value) :
    Triple (· = h) (contains item holder) (fun found h' => h' = h ∧ found = false)
      (fun _ => False) := by
  have hcontent : h.content holder = .list [] ∨ h.content holder = .tuple [] := by
    unfold asItems at hnil
    split at hnil
    · rename_i items heq
      exact .inl (hnil ▸ heq)
    · rename_i items heq
      exact .inr (hnil ▸ heq)
    · cases hnil
  -- A list or tuple is not used up by looking through it.
  have hskip := perform_skip_of_content_ne_stream (h := h) (v := holder)
    (by rcases hcontent with heq | heq <;> simp [heq])
  have nothing : Triple (· = h) (isAmong item holder []) (fun found h' => h' = h ∧ found = false)
      (fun _ => False) := by
    refine Triple.bindGet ?_
    rintro _ rfl
    refine Triple.bind (R := fun _ h' => h' = _) ?_ fun _ => Triple.pure fun _ hs => ⟨hs, rfl⟩
    rintro _ rfl
    rw [hskip]
  refine Triple.bindGet ?_
  rintro _ rfl
  rcases hcontent with heq | heq
  · simp only [heq]
    exact nothing
  · simp only [heq]
    exact nothing

end FluentSql.Heap
