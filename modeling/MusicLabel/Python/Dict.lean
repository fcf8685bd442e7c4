import Mathlib.Data.List.Nodup

/-
  Python's `dict` as the royalty engine uses it: insertion-ordered
  entries with each key once. Assigning to a present key replaces its
  value in place; a new key goes to the end, so iteration visits keys in
  the order they first arrived.

  Main declarations:
    * `PyDict` (carrying `Nodup` of its keys)
    * `PyDict.get?`, `PyDict.getD`, `PyDict.set`
    * `PyDict.get?_set`, `PyDict.keys_set`, `PyDict.entries_eq_map_keys`
-/

------------------------------------------------------------
-- Entry Lists
------------------------------------------------------------

namespace MusicLabel

namespace PyDict

variable {K V : Type} [DecidableEq K]

/- `d[k] = v` on the entry list. -/
def insertEntry
    (k : K)
    (v : V) : List (K × V) → List (K × V)
  | [] => [(k, v)]
  | (k', v') :: rest =>
      if k' = k then (k, v) :: rest else (k', v') :: insertEntry k v rest

/- The value of the first entry with key `k`. -/
def lookupEntry
    (k : K) : List (K × V) → Option V
  | [] => none
  | (k', v') :: rest => if k' = k then some v' else lookupEntry k rest

/- Assignment keeps the keys of a present key and appends a new one. -/
theorem keys_insertEntry
    (k : K)
    (v : V)
    (entries : List (K × V)) :
    (insertEntry k v entries).map Prod.fst =
      if k ∈ entries.map Prod.fst then entries.map Prod.fst
      else entries.map Prod.fst ++ [k] := by
  induction entries with
  | nil => simp [insertEntry]
  | cons entry rest ih =>
      obtain ⟨k', v'⟩ := entry
      by_cases hk : k' = k
      · simp [insertEntry, hk]
      · by_cases hMem : k ∈ rest.map Prod.fst
        · simp_all [insertEntry, Ne.symm hk]
        · simp_all [insertEntry, Ne.symm hk]

/- Looking up after an assignment. -/
theorem lookupEntry_insertEntry
    (k k₀ : K)
    (v : V)
    (entries : List (K × V)) :
    lookupEntry k₀ (insertEntry k v entries) =
      if k = k₀ then some v else lookupEntry k₀ entries := by
  induction entries with
  | nil => simp [insertEntry, lookupEntry]
  | cons entry rest ih =>
      obtain ⟨k', v'⟩ := entry
      by_cases hk : k' = k
      · subst hk
        by_cases hk₀ : k' = k₀ <;> simp [insertEntry, lookupEntry, hk₀]
      · simp only [insertEntry, hk, ↓reduceIte, lookupEntry, ih]
        by_cases hk₀ : k' = k₀
        · subst hk₀
          simp [Ne.symm hk]
        · simp [hk₀]

/- A key is found exactly when it is among the keys. -/
theorem lookupEntry_isSome
    (k : K)
    (entries : List (K × V)) :
    (lookupEntry k entries).isSome ↔ k ∈ entries.map Prod.fst := by
  induction entries with
  | nil => simp [lookupEntry]
  | cons entry rest ih =>
      obtain ⟨k', v'⟩ := entry
      by_cases hk : k' = k
      · simp [lookupEntry, hk]
      · simp [lookupEntry, hk, ih, Ne.symm hk]

/- Assigning to an absent key appends its entry. -/
theorem insertEntry_of_not_mem
    (k : K)
    (v : V)
    (entries : List (K × V))
    (hAbsent : k ∉ entries.map Prod.fst) :
    insertEntry k v entries = entries ++ [(k, v)] := by
  induction entries with
  | nil => rfl
  | cons entry rest ih =>
      obtain ⟨k', v'⟩ := entry
      simp only [List.map_cons, List.mem_cons, not_or] at hAbsent
      simp [insertEntry, Ne.symm hAbsent.1, ih hAbsent.2]

/- Looking up in mapped values. -/
theorem lookupEntry_map
    {W : Type}
    (f : K → V → W)
    (k : K)
    (entries : List (K × V)) :
    lookupEntry k (entries.map fun entry => (entry.1, f entry.1 entry.2)) =
      (lookupEntry k entries).map (f k) := by
  induction entries with
  | nil => rfl
  | cons entry rest ih =>
      obtain ⟨k', v'⟩ := entry
      by_cases hk : k' = k
      · subst hk
        simp [lookupEntry]
      · simp [lookupEntry, hk, ih]

/- With its keys distinct, an entry list is its keys with their values. -/
theorem entries_eq_map_lookupEntry
    (entries : List (K × V))
    (hNodup : (entries.map Prod.fst).Nodup)
    (default : V) :
    entries =
      (entries.map Prod.fst).map fun k => (k, (lookupEntry k entries).getD default) := by
  induction entries with
  | nil => rfl
  | cons entry rest ih =>
      obtain ⟨k, v⟩ := entry
      simp only [List.map_cons, List.nodup_cons] at hNodup ⊢
      simp only [lookupEntry, ↓reduceIte, Option.getD_some, List.cons.injEq, true_and]
      refine (ih hNodup.2).trans (List.map_congr_left fun k' hk' => ?_)
      have hne : k ≠ k' := fun h => hNodup.1 (h ▸ hk')
      simp [hne]

/- With its keys distinct, the entries with key `k` are the one `lookupEntry` finds. -/
theorem filter_key_eq_lookupEntry
    (k : K)
    (entries : List (K × V))
    (hNodup : (entries.map Prod.fst).Nodup) :
    entries.filter (fun entry => entry.1 = k) = (lookupEntry k entries).toList.map (k, ·) := by
  induction entries with
  | nil => rfl
  | cons entry rest ih =>
      obtain ⟨k', v'⟩ := entry
      simp only [List.map_cons, List.nodup_cons] at hNodup
      by_cases hk : k' = k
      · subst hk
        have hAbsent : lookupEntry k' rest = none := by
          rw [← Option.not_isSome_iff_eq_none, lookupEntry_isSome]
          exact hNodup.1
        simp [lookupEntry, ih hNodup.2, hAbsent]
      · simp [lookupEntry, hk, ih hNodup.2]

end PyDict

end MusicLabel

------------------------------------------------------------
-- Dictionaries
------------------------------------------------------------

namespace MusicLabel

/- A Python `dict`: entries in insertion order, each key once. -/
structure PyDict (K V : Type) [DecidableEq K] where
  entries : List (K × V)
  nodup : (entries.map Prod.fst).Nodup

namespace PyDict

variable {K V : Type} [DecidableEq K]

/- `{}`. -/
def empty : PyDict K V :=
  ⟨[], List.nodup_nil⟩

/- The keys, in iteration order. -/
def keys (d : PyDict K V) : List K :=
  d.entries.map Prod.fst

/- `d.get(k)`. -/
def get? (d : PyDict K V) (k : K) : Option V :=
  lookupEntry k d.entries

/- `d.get(k, default)`. -/
def getD (d : PyDict K V) (k : K) (default : V) : V :=
  (d.get? k).getD default

/- `d[k] = v`. -/
def set (d : PyDict K V) (k : K) (v : V) : PyDict K V :=
  ⟨insertEntry k v d.entries, by
    rw [keys_insertEntry]
    by_cases hMem : k ∈ d.entries.map Prod.fst
    · rw [if_pos hMem]
      exact d.nodup
    · rw [if_neg hMem]
      exact List.nodup_append.mpr
        ⟨d.nodup, List.nodup_singleton k, List.disjoint_singleton.mpr hMem⟩⟩

@[simp] theorem get?_empty
    (k : K) :
    (empty : PyDict K V).get? k = none :=
  rfl

@[simp] theorem keys_empty :
    (empty : PyDict K V).keys = [] :=
  rfl

@[simp] theorem getD_empty
    (k : K)
    (default : V) :
    (empty : PyDict K V).getD k default = default :=
  rfl

@[simp] theorem get?_set
    (d : PyDict K V)
    (k k₀ : K)
    (v : V) :
    (d.set k v).get? k₀ = if k = k₀ then some v else d.get? k₀ :=
  lookupEntry_insertEntry k k₀ v d.entries

@[simp] theorem getD_set
    (d : PyDict K V)
    (k k₀ : K)
    (v default : V) :
    (d.set k v).getD k₀ default = if k = k₀ then v else d.getD k₀ default := by
  by_cases h : k = k₀ <;> simp [getD, h]

/- A dict is its keys, each with its value. -/
theorem entries_eq_map_keys
    (d : PyDict K V)
    (default : V) :
    d.entries = d.keys.map fun k => (k, d.getD k default) :=
  entries_eq_map_lookupEntry d.entries d.nodup default

/- Assignment keeps the key order and appends a new key. -/
theorem keys_set
    (d : PyDict K V)
    (k : K)
    (v : V) :
    (d.set k v).keys = if k ∈ d.keys then d.keys else d.keys ++ [k] :=
  keys_insertEntry k v d.entries

/- The entries with key `k`: the one entry of a present key, none otherwise. -/
theorem filter_entries_key
    (d : PyDict K V)
    (k : K) :
    d.entries.filter (fun entry => entry.1 = k) = (d.get? k).toList.map (k, ·) :=
  filter_key_eq_lookupEntry k d.entries d.nodup

/- Assigning to an absent key appends its entry. -/
theorem entries_set_of_not_mem
    (d : PyDict K V)
    (k : K)
    (v : V)
    (hAbsent : k ∉ d.keys) :
    (d.set k v).entries = d.entries ++ [(k, v)] :=
  insertEntry_of_not_mem k v d.entries hAbsent

/- An entry is in the dict exactly when looking its key up finds its value. -/
theorem mem_entries_iff
    {d : PyDict K V}
    {k : K}
    {v : V} :
    (k, v) ∈ d.entries ↔ d.get? k = some v := by
  have hFilter : (k, v) ∈ d.entries ↔ (k, v) ∈ d.entries.filter (fun entry => entry.1 = k) := by
    simp
  rw [hFilter, filter_entries_key]
  cases d.get? k <;> simp [eq_comm]

/- A key is present exactly when it is among the keys. -/
theorem isSome_get?
    (d : PyDict K V)
    (k : K) :
    (d.get? k).isSome ↔ k ∈ d.keys :=
  lookupEntry_isSome k d.entries

end PyDict

end MusicLabel
