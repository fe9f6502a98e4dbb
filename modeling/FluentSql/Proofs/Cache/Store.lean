import FluentSql.Cache.Store
/-
# FluentSql.Proofs.Cache.Store — what a store of rows keeps.

Keeping rows changes what stands under one key of one connection. Clearing a connection leaves nothing of it
and everything of the others, provided that no connection is there twice.
-/

namespace FluentSql

namespace Entries

variable {κ α : Type} [BEq κ]

theorem get?_put [EquivBEq κ] (key other : κ) (value : α) (entries : Entries κ α) :
    get? other (put key value entries) = if key == other then some value else get? other entries := by
  induction entries with
  | nil => rfl
  | cons e rest ih =>
      by_cases hkey : e.1 == key
      · have hsame : (e.1 == other) = (key == other) := BEq.congr_left hkey
        by_cases hother : key == other <;> simp [put, get?, hkey, hsame, hother]
      · by_cases hother : e.1 == other
        · have hne : (key == other) = false := by
            refine Bool.eq_false_iff.2 fun hkeyOther => hkey ?_
            exact BEq.trans hother (BEq.symm hkeyOther)
          simp [put, get?, hkey, hother, hne]
        · simp [put, get?, hkey, hother, ih]

theorem get?_congr [EquivBEq κ] {key other : κ} (h : key == other) (entries : Entries κ α) :
    get? key entries = get? other entries := by
  induction entries with
  | nil => rfl
  | cons e rest ih =>
      have hsame : (e.1 == key) = (e.1 == other) := BEq.congr_right h
      rw [get?, get?, hsame, ih]

/-- No key is there twice. -/
def Distinct (entries : Entries κ α) : Prop :=
  (keys entries).Pairwise fun key other => (key == other) = false

theorem Distinct.put [EquivBEq κ] {entries : Entries κ α} (h : entries.Distinct) (key : κ) (value : α) :
    (put key value entries).Distinct := by
  unfold Distinct
  rw [keys_put]
  split
  · exact h
  · rename_i hnew
    rw [contains_eq_any_keys] at hnew
    refine List.pairwise_append.2 ⟨h, List.pairwise_singleton _ _, ?_⟩
    intro other hother last hlast
    rw [List.mem_singleton.1 hlast]
    exact Bool.eq_false_iff.2 fun hsame => hnew (List.any_eq_true.2 ⟨other, hother, hsame⟩)

theorem Distinct.erase {entries : Entries κ α} (h : entries.Distinct) (key : κ) :
    (erase key entries).Distinct := h.sublist (keys_erase_sublist key entries)

theorem get?_eq_none_iff {key : κ} {entries : Entries κ α} :
    get? key entries = none ↔ ∀ other ∈ keys entries, (other == key) = false := by
  have hany := contains_eq_any_keys key entries
  rw [contains] at hany
  rw [← Option.isNone_iff_eq_none, ← Option.not_isSome, hany]
  simp

theorem get?_erase_self [EquivBEq κ] {entries : Entries κ α} (h : entries.Distinct) (key : κ) :
    get? key (erase key entries) = none := by
  induction entries with
  | nil => rfl
  | cons e rest ih =>
      obtain ⟨hfirst, hrest⟩ := List.pairwise_cons.1 h
      by_cases hsame : e.1 == key
      · rw [erase, if_pos hsame, get?_eq_none_iff]
        intro other hother
        have hne := hfirst other hother
        rw [BEq.congr_left hsame] at hne
        rwa [BEq.comm]
      · rw [erase, if_neg hsame, get?, if_neg hsame]
        exact ih hrest

end Entries

namespace Cache.Store

/-! ## The entries of a connection -/

theorem shelf_prepare_self (connection : Value) (store : Store) :
    (store.prepare connection).shelf connection = store.shelf connection := by
  simp [prepare, shelf]

theorem shelf_put_self (key kept connection : Value) (store : Store) :
    (store.put key kept connection).shelf connection = Entries.put key kept (store.shelf connection) := by
  simp [put, shelf]

theorem shelf_clear_self {store : Store} (h : Entries.Distinct store) (connection : Value) :
    (store.clear connection).shelf connection = [] := by
  rw [clear, shelf, Entries.get?_erase_self h]
  rfl

/-! ## What is kept -/

theorem get?_eq (key connection : Value) (store : Store) :
    store.get? key connection = (Entries.get? connection store).bind (Entries.get? key) := by
  rw [get?, shelf]
  cases Entries.get? connection store <;> rfl

/-- What is kept after something was kept. -/
theorem get?_put (key other kept connection : Value) (store : Store) :
    (store.put key kept connection).get? other connection =
      if key == other then some kept else store.get? other connection := by
  rw [get?_eq, put, Entries.get?_put_self, Option.bind_some, Entries.get?_put]
  rfl

theorem get?_put_of_ne {connection other : Value} (h : (other == connection) = false)
    (key kept wanted : Value) (store : Store) :
    (store.put key kept connection).get? wanted other = store.get? wanted other := by
  rw [get?_eq, put, Entries.get?_put_of_ne h, ← get?_eq]

/-- A connection that has entries now has those that it had. -/
theorem get?_prepare (key connection other : Value) (store : Store) :
    (store.prepare connection).get? key other = store.get? key other := by
  rw [get?_eq, prepare, Entries.get?_put]
  split
  · rename_i hsame
    rw [Option.bind_some, get?, shelf, shelf, Entries.get?_congr hsame]
  · rw [get?_eq]

theorem get?_clear_self {store : Store} (h : Entries.Distinct store) (key connection : Value) :
    (store.clear connection).get? key connection = none := by
  rw [get?_eq, clear, Entries.get?_erase_self h]
  rfl

theorem get?_clear_of_ne {connection other : Value} (h : (other == connection) = false) (key : Value)
    (store : Store) : (store.clear connection).get? key other = store.get? key other := by
  rw [get?_eq, clear, Entries.get?_erase_of_ne h, ← get?_eq]

end Cache.Store

end FluentSql
