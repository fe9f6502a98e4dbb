/-
# FluentSql.Entries — entries in the order in which they were first written.

A list of keys with their values. Writing to a key that is present replaces its value in place,
writing to a new key appends it, and erasing removes the key, so that writing it again puts it last.
The names of columns and connections are keys, and so are values, which may count as the same key
without being the same value: the key that stays is the one that was written first.
-/

namespace FluentSql

/-- Keys with values, in order. -/
abbrev Entries (κ α : Type) := List (κ × α)

namespace Entries

variable {κ α : Type}

/-- The keys, in order. -/
def keys (entries : Entries κ α) : List κ := entries.map (·.1)

/-- The values, in order. -/
def values (entries : Entries κ α) : List α := entries.map (·.2)

variable [BEq κ]

/-- The value of a key. -/
def get? (key : κ) : Entries κ α → Option α
  | [] => none
  | (other, value) :: rest => if other == key then some value else get? key rest

/-- Whether the key is present. -/
def contains (key : κ) (entries : Entries κ α) : Bool := (get? key entries).isSome

/-- Writes a value to a key. -/
def put (key : κ) (value : α) : Entries κ α → Entries κ α
  | [] => [(key, value)]
  | (other, old) :: rest =>
    if other == key then (other, value) :: rest else (other, old) :: put key value rest

/-- Removes a key. -/
def erase (key : κ) : Entries κ α → Entries κ α
  | [] => []
  | (other, value) :: rest => if other == key then rest else (other, value) :: erase key rest

/-- Writes all of `updates`, one after the other. -/
def putAll (entries updates : Entries κ α) : Entries κ α :=
  updates.foldl (fun acc e => put e.1 e.2 acc) entries

/-- The entries that writing the pairs in order leaves: a repeated key keeps its first place and
takes its last value. -/
def ofPairs (pairs : List (κ × α)) : Entries κ α := putAll [] pairs

@[simp] theorem get?_nil (key : κ) : get? key ([] : Entries κ α) = none := rfl

@[simp] theorem get?_put_self [ReflBEq κ] (key : κ) (value : α) (entries : Entries κ α) :
    get? key (put key value entries) = some value := by
  induction entries with
  | nil => simp [put, get?]
  | cons e rest ih => by_cases h : e.1 == key <;> simp [put, get?, h, ih]

/-- Writing to a key leaves what stands under another one. -/
theorem get?_put_of_ne [EquivBEq κ] {key other : κ} (h : (other == key) = false) (value : α)
    (entries : Entries κ α) : get? other (put key value entries) = get? other entries := by
  have hk : (key == other) = false := by rw [BEq.comm]; exact h
  induction entries with
  | nil => simp [put, get?, hk]
  | cons e rest ih =>
    by_cases he : e.1 == key
    · have ho : (e.1 == other) = false := by rw [BEq.congr_left he]; exact hk
      simp [put, get?, he, ho]
    · by_cases ho : e.1 == other <;> simp [put, get?, he, ho, ih]

theorem contains_eq_any_keys (key : κ) (entries : Entries κ α) :
    contains key entries = (keys entries).any (· == key) := by
  induction entries with
  | nil => rfl
  | cons e rest ih =>
    simp only [contains, keys] at ih
    by_cases h : e.1 == key <;> simp [contains, get?, keys, h, ih]

theorem contains_iff_mem_keys [LawfulBEq κ] (key : κ) (entries : Entries κ α) :
    contains key entries = true ↔ key ∈ keys entries := by
  rw [contains_eq_any_keys, List.any_eq_true]
  constructor
  · rintro ⟨other, hmem, heq⟩
    exact eq_of_beq heq ▸ hmem
  · intro hmem
    exact ⟨key, hmem, BEq.rfl⟩

/-- Erasing a key leaves what stands under another one. -/
theorem get?_erase_of_ne [EquivBEq κ] {key other : κ} (h : (other == key) = false)
    (entries : Entries κ α) : get? other (erase key entries) = get? other entries := by
  have hk : (key == other) = false := by rw [BEq.comm]; exact h
  induction entries with
  | nil => rfl
  | cons e rest ih =>
    by_cases he : e.1 == key
    · have ho : (e.1 == other) = false := by rw [BEq.congr_left he]; exact hk
      simp [erase, get?, he, ho]
    · by_cases ho : e.1 == other <;> simp [erase, get?, he, ho, ih]

/-- The keys after a write: a new key comes last. -/
theorem keys_put (key : κ) (value : α) (entries : Entries κ α) :
    keys (put key value entries) =
      if contains key entries then keys entries else keys entries ++ [key] := by
  induction entries with
  | nil => simp [put, keys, contains]
  | cons e rest ih =>
    by_cases he : e.1 == key
    · simp [put, keys, contains, get?, he]
    · simp only [keys, contains] at ih
      simp only [put, keys, contains, get?, he, Bool.false_eq_true, if_false, List.map_cons, ih]
      split <;> simp_all

theorem nodup_keys_put [LawfulBEq κ] {entries : Entries κ α} (h : (keys entries).Nodup) (key : κ)
    (value : α) : (keys (put key value entries)).Nodup := by
  rw [keys_put]
  split
  · exact h
  · rename_i hn
    rw [contains_iff_mem_keys] at hn
    exact List.nodup_append.2 ⟨h, by simp, by
      intro a ha b hb hab
      simp only [List.mem_singleton] at hb
      exact hn (hb ▸ hab ▸ ha)⟩

theorem keys_erase_sublist (key : κ) (entries : Entries κ α) :
    (keys (erase key entries)).Sublist (keys entries) := by
  induction entries with
  | nil => simp [erase, keys]
  | cons e rest ih =>
    by_cases he : e.1 == key
    · simp [erase, keys, he]
    · simpa [erase, keys, he] using ih

end Entries

end FluentSql
