import FluentSql.Text.Blank
/-
# FluentSql.Proofs.Text.Slots — texts with question marks, and what goes into them.

A slot is a question mark anywhere in a text. Filling puts given texts into the slots from left to
right. A `Filling` is a text together with exactly one text for each of its slots; putting fillings
together and trimming them gives fillings again, and filling commutes with both. So when a statement
is put together from pieces, every piece keeps the texts that it came with.

Trimming commutes with filling only if what goes into a slot has no blank at its ends (`IsSolid`): a
text that starts with a blank would be cut where it stands first.
-/

namespace FluentSql.Text

/-! ## Filling slots -/

/-- The number of slots of a text. -/
def slotCount (cs : List Char) : Nat := cs.count '?'

/-- The text with texts in its slots, from left to right. Slots without a text stay. -/
def fillSlots : List Char → List (List Char) → List Char
  | [], _ => []
  | c :: cs, [] => c :: cs
  | c :: cs, t :: ts => if c = '?' then t ++ fillSlots cs ts else c :: fillSlots cs (t :: ts)

@[simp] theorem slotCount_nil : slotCount [] = 0 := rfl

@[simp] theorem slotCount_append (cs ds : List Char) :
    slotCount (cs ++ ds) = slotCount cs + slotCount ds := by
  simp [slotCount]

theorem slotCount_eq_zero_iff {cs : List Char} : slotCount cs = 0 ↔ '?' ∉ cs :=
  List.count_eq_zero

@[simp] theorem fillSlots_nil (cs : List Char) : fillSlots cs [] = cs := by
  cases cs <;> rfl

theorem fillSlots_append {cs : List Char} {ts : List (List Char)}
    (h : ts.length = slotCount cs) (ds : List Char) (us : List (List Char)) :
    fillSlots (cs ++ ds) (ts ++ us) = fillSlots cs ts ++ fillSlots ds us := by
  induction cs generalizing ts with
  | nil =>
      have hts : ts = [] := List.eq_nil_of_length_eq_zero h
      subst hts
      simp
  | cons c cs ih =>
      by_cases hc : c = '?'
      · subst hc
        cases ts with
        | nil => simp [slotCount] at h
        | cons t ts =>
            have hts : ts.length = slotCount cs := by simpa [slotCount] using h
            simp [fillSlots, ih hts]
      · have hts : ts.length = slotCount cs := by simpa [slotCount, hc] using h
        cases ts with
        | nil =>
            -- Nothing goes into the first text, so all texts are for the second.
            have step := ih hts
            cases us with
            | nil => simp
            | cons u us => simpa [fillSlots, hc] using step
        | cons t ts => simp [fillSlots, hc, ← ih hts]

theorem fillSlots_eq_nil_iff {cs : List Char} {ts : List (List Char)} (hts : ∀ t ∈ ts, t ≠ []) :
    fillSlots cs ts = [] ↔ cs = [] := by
  cases cs with
  | nil => simp [fillSlots]
  | cons c cs =>
      cases ts with
      | nil => simp [fillSlots]
      | cons t ts =>
          have ht : t ≠ [] := hts t (by simp)
          by_cases hc : c = '?' <;> simp [fillSlots, hc, ht]

/-! ## Trimming around slots -/

/-- A text that trimming leaves alone wherever it stands: it is not empty, and neither its first nor
its last character is blank. -/
structure IsSolid (t : List Char) : Prop where
  ne_nil : t ≠ []
  head : ∀ c ∈ t.head?, isBlank c = false
  last : ∀ c ∈ t.getLast?, isBlank c = false

/-- A known text is solid when its two ends compute to characters that are not blank. -/
theorem IsSolid.of_ends {t : List Char} (hhead : t.head?.any (fun c => !isBlank c) = true)
    (hlast : t.getLast?.any (fun c => !isBlank c) = true) : IsSolid t := by
  obtain ⟨first, hfirst, hsolid⟩ := (Option.any_eq_true _ _).1 hhead
  obtain ⟨final, hfinal, hend⟩ := (Option.any_eq_true _ _).1 hlast
  refine ⟨?_, ?_, ?_⟩
  · intro hnil
    simp [hnil] at hfirst
  · intro c hc
    obtain rfl : c = first := Option.some_inj.1 (hc.symm.trans hfirst)
    simpa using hsolid
  · intro c hc
    obtain rfl : c = final := Option.some_inj.1 (hc.symm.trans hfinal)
    simpa using hend

theorem dropEndWhile_cons_of_ne_nil {p : Char → Bool} {cs : List Char} (c : Char)
    (h : dropEndWhile p cs ≠ []) : dropEndWhile p (c :: cs) = c :: dropEndWhile p cs := by
  obtain ⟨d, ds, hds⟩ := List.exists_cons_of_ne_nil h
  simp [dropEndWhile, hds]

theorem dropEndWhile_append (p : Char → Bool) (cs ds : List Char) :
    dropEndWhile p (cs ++ ds) =
      if dropEndWhile p ds = [] then dropEndWhile p cs else cs ++ dropEndWhile p ds := by
  induction cs with
  | nil => simp [dropEndWhile]
  | cons c cs ih =>
      by_cases hd : dropEndWhile p ds = []
      · simp [dropEndWhile, ih, hd]
      · have hcs : dropEndWhile p (cs ++ ds) ≠ [] := by simp [ih, hd]
        rw [List.cons_append, dropEndWhile_cons_of_ne_nil c hcs, ih]
        simp [hd]

theorem IsSolid.dropEndWhile_eq {t : List Char} (ht : IsSolid t) : dropEndWhile isBlank t = t := by
  have hc : isBlank (t.getLast ht.ne_nil) = false :=
    ht.last _ (by simp [List.getLast?_eq_some_getLast ht.ne_nil])
  have hcut := List.dropLast_concat_getLast ht.ne_nil
  have hlast : dropEndWhile isBlank [t.getLast ht.ne_nil] = [t.getLast ht.ne_nil] := by
    simp [dropEndWhile, hc]
  calc dropEndWhile isBlank t
      = dropEndWhile isBlank (t.dropLast ++ [t.getLast ht.ne_nil]) := by rw [hcut]
    _ = t.dropLast ++ [t.getLast ht.ne_nil] := by rw [dropEndWhile_append, hlast]; simp
    _ = t := hcut

theorem IsSolid.dropWhile_append {t : List Char} (ht : IsSolid t) (cs : List Char) :
    (t ++ cs).dropWhile isBlank = t ++ cs := by
  obtain ⟨c, rest, rfl⟩ := List.exists_cons_of_ne_nil ht.ne_nil
  have hc : isBlank c = false := ht.head c (by simp)
  simp [hc]

/-- There is nothing to trim. -/
theorem IsSolid.trimChars_eq {t : List Char} (ht : IsSolid t) : trimChars t = t := by
  have hstart := ht.dropWhile_append []
  rw [List.append_nil] at hstart
  rw [trimChars, hstart, ht.dropEndWhile_eq]

theorem dropWhile_fillSlots (cs : List Char) {ts : List (List Char)} (hts : ∀ t ∈ ts, IsSolid t) :
    (fillSlots cs ts).dropWhile isBlank = fillSlots (cs.dropWhile isBlank) ts := by
  induction cs with
  | nil => simp [fillSlots]
  | cons c cs ih =>
      cases ts with
      | nil => simp
      | cons t ts =>
          by_cases hc : c = '?'
          · -- Neither the slot nor what fills it is blank at the start.
            have hblank : isBlank '?' = false := by decide
            subst hc
            simp [fillSlots, hblank, (hts t (by simp)).dropWhile_append]
          · by_cases hb : isBlank c = true
            · simp [fillSlots, hc, hb, ih]
            · simp [fillSlots, hc, hb]

theorem dropEndWhile_fillSlots (cs : List Char) {ts : List (List Char)}
    (hts : ∀ t ∈ ts, IsSolid t) :
    dropEndWhile isBlank (fillSlots cs ts) = fillSlots (dropEndWhile isBlank cs) ts := by
  induction cs generalizing ts with
  | nil => simp [fillSlots, dropEndWhile]
  | cons c cs ih =>
      cases ts with
      | nil => simp
      | cons t ts =>
          have hempty : ∀ {ds : List Char} {us : List (List Char)}, (∀ u ∈ us, IsSolid u) →
              (fillSlots ds us = [] ↔ ds = []) := by
            intro ds us hus
            exact fillSlots_eq_nil_iff fun u hu => (hus u hu).ne_nil
          by_cases hc : c = '?'
          · -- What fills the slot ends solid, so nothing in front of it is cut off.
            have hus : ∀ u ∈ ts, IsSolid u := fun u hu => hts u (by simp [hu])
            have hblank : isBlank '?' = false := by decide
            subst hc
            simp only [fillSlots, if_true, dropEndWhile_append, ih hus, hempty hus,
              (hts t (by simp)).dropEndWhile_eq]
            by_cases hcs : dropEndWhile isBlank cs = []
            · simp [dropEndWhile, hcs, hblank, fillSlots]
            · simp [dropEndWhile_cons_of_ne_nil _ hcs, hcs, fillSlots]
          · have hrest := ih hts
            simp only [fillSlots, hc, if_false]
            by_cases hcs : dropEndWhile isBlank cs = []
            · by_cases hb : isBlank c = true <;>
                simp [dropEndWhile, hrest, hcs, hb, hc, fillSlots]
            · have hne : dropEndWhile isBlank (fillSlots cs (t :: ts)) ≠ [] := by
                rw [hrest, ne_eq, hempty hts]
                exact hcs
              rw [dropEndWhile_cons_of_ne_nil c hne, dropEndWhile_cons_of_ne_nil c hcs, hrest]
              simp [fillSlots, hc]

/-- Trimming commutes with filling. -/
theorem trimChars_fillSlots (cs : List Char) {ts : List (List Char)} (hts : ∀ t ∈ ts, IsSolid t) :
    trimChars (fillSlots cs ts) = fillSlots (trimChars cs) ts := by
  unfold trimChars
  rw [dropWhile_fillSlots cs hts, dropEndWhile_fillSlots _ hts]

theorem slotCount_dropWhile (cs : List Char) :
    slotCount (cs.dropWhile isBlank) = slotCount cs := by
  induction cs with
  | nil => rfl
  | cons c cs ih =>
      by_cases hb : isBlank c = true
      · have hc : c ≠ '?' := by rintro rfl; revert hb; decide
        simpa [hb, slotCount, hc] using ih
      · simp [hb]

theorem slotCount_dropEndWhile (cs : List Char) :
    slotCount (dropEndWhile isBlank cs) = slotCount cs := by
  induction cs with
  | nil => rfl
  | cons c cs ih =>
      have hsum : slotCount (c :: cs) = slotCount [c] + slotCount cs :=
        slotCount_append [c] cs
      rw [hsum, ← ih]
      cases hcs : dropEndWhile isBlank cs with
      | cons d ds => simp only [dropEndWhile, hcs]; exact slotCount_append [c] (d :: ds)
      | nil =>
          -- Nothing is left behind `c`, which goes as well if it is blank; but then it is no slot.
          by_cases hb : isBlank c = true
          · have hc : c ≠ '?' := by rintro rfl; revert hb; decide
            simp [dropEndWhile, hcs, hb, slotCount, hc]
          · simp [dropEndWhile, hcs, hb]

/-- A slot is not blank, so trimming takes none away. -/
@[simp] theorem slotCount_trimChars (cs : List Char) : slotCount (trimChars cs) = slotCount cs := by
  rw [trimChars, slotCount_dropEndWhile, slotCount_dropWhile]

end FluentSql.Text
