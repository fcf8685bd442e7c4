import MusicLabel.Royalty.Manager
import Mathlib.Data.List.Dedup

/-
  The grouping loop of `calculate`, refined to what it is for: the
  groups are the distinct artist keys of the rows the filter keeps, in
  the order of their first occurrence, each with exactly its own rows in
  feed order.

  `by_artist.setdefault(a, []).append(row)` is a dict assignment, so the
  keys of the dict grow as `appendKey` says, and the rows of one key are
  the rows with that key.

  Correctness is proven by:
    * `keys_groupByArtist`, `getD_groupByArtist`: the loop on any dict
    * `groupByArtist_entries`: the loop from `{}`
    * `groupKeys_filter`, `rowsOf_filter`: removing one artist's rows
      removes its group and changes no other
    * `groupKeys_some`, `rowsOf_some`: a non-empty filter keeps only the
      named artist's group, with its rows

  Main declarations:
    * `RoyaltyManager.firstOccurrences`, `RoyaltyManager.groupKeys`,
      `RoyaltyManager.rowsOf`
    * `RoyaltyManager.groupByArtist_entries`
-/

------------------------------------------------------------
-- Groups
------------------------------------------------------------

namespace MusicLabel

namespace RoyaltyManager

/-
  The keys of a dict after an assignment to `key`: unchanged when the
  key is present, the key appended otherwise.
-/
def appendKey (keys : List String) (key : String) : List String :=
  if key ∈ keys then keys else keys ++ [key]

/- The distinct values of a list, in the order of their first occurrence. -/
def firstOccurrences (keys : List String) : List String :=
  keys.foldl appendKey []

/- The rows the artist filter keeps. -/
def selectedRows (artist : Option String) (rows : List Row) : List Row :=
  rows.filter fun row => !filterSkips artist row.key

/- The artists `calculate` visits, in the order it visits them. -/
def groupKeys (artist : Option String) (rows : List Row) : List String :=
  firstOccurrences ((selectedRows artist rows).map Row.key)

/- The rows of one artist, in feed order. -/
def rowsOf (artist : Option String) (rows : List Row) (a : String) : List Row :=
  (selectedRows artist rows).filter fun row => row.key = a

theorem mem_foldl_appendKey
    {key : String}
    (keys seen : List String) :
    key ∈ keys.foldl appendKey seen ↔ key ∈ seen ∨ key ∈ keys := by
  induction keys generalizing seen with
  | nil => simp
  | cons first keys ih =>
      rw [List.foldl_cons, ih]
      by_cases hFirst : first ∈ seen
      · by_cases hKey : key = first
        · subst hKey
          simp [appendKey, hFirst]
        · simp [appendKey, hFirst, hKey]
      · simp [appendKey, hFirst, or_assoc]

theorem nodup_foldl_appendKey
    (keys : List String)
    {seen : List String}
    (hSeen : seen.Nodup) :
    (keys.foldl appendKey seen).Nodup := by
  induction keys generalizing seen with
  | nil => exact hSeen
  | cons first keys ih =>
      apply ih
      unfold appendKey
      split
      · exact hSeen
      · exact List.nodup_append.mpr ⟨hSeen, List.nodup_singleton first,
          List.disjoint_singleton.mpr ‹_›⟩

/- The first occurrences are the distinct values, so there are as many. -/
theorem length_firstOccurrences
    (keys : List String) :
    (firstOccurrences keys).length = keys.dedup.length :=
  List.Perm.length_eq <|
    (List.perm_ext_iff_of_nodup (nodup_foldl_appendKey keys List.nodup_nil)
      (List.nodup_dedup keys)).mpr fun key => by
        simp [firstOccurrences, mem_foldl_appendKey]

end RoyaltyManager

end MusicLabel

------------------------------------------------------------
-- The Grouping Loop
------------------------------------------------------------

namespace MusicLabel

namespace RoyaltyManager

variable (artist : Option String)

@[simp] theorem selectedRows_nil :
    selectedRows artist [] = [] :=
  rfl

theorem selectedRows_cons
    (row : Row)
    (rows : List Row) :
    selectedRows artist (row :: rows) =
      if filterSkips artist row.key then selectedRows artist rows
      else row :: selectedRows artist rows := by
  by_cases hSkip : filterSkips artist row.key <;>
    simp [selectedRows, List.filter_cons, hSkip]

/- The keys of the grouping dict, from any dict. -/
theorem keys_groupByArtist
    (rows : List Row)
    (byArtist : PyDict String (List Row)) :
    (groupByArtist artist rows byArtist).keys =
      ((selectedRows artist rows).map Row.key).foldl appendKey byArtist.keys := by
  induction rows generalizing byArtist with
  | nil => rfl
  | cons row rows ih =>
      rw [selectedRows_cons]
      by_cases hSkip : filterSkips artist row.key
      · simp only [groupByArtist, hSkip, ↓reduceIte, ih]
      · simp only [groupByArtist, hSkip, ↓reduceIte, Bool.false_eq_true, ih,
          PyDict.keys_set, List.map_cons, List.foldl_cons, appendKey]

/- The rows of one key of the grouping dict, from any dict. -/
theorem getD_groupByArtist
    (rows : List Row)
    (byArtist : PyDict String (List Row))
    (a : String) :
    (groupByArtist artist rows byArtist).getD a [] =
      byArtist.getD a [] ++ (selectedRows artist rows).filter fun row => row.key = a := by
  induction rows generalizing byArtist with
  | nil => simp [groupByArtist]
  | cons row rows ih =>
      rw [selectedRows_cons]
      by_cases hSkip : filterSkips artist row.key
      · simp only [groupByArtist, hSkip, ↓reduceIte, ih]
      · simp only [groupByArtist, hSkip, ↓reduceIte, Bool.false_eq_true, ih,
          PyDict.getD_set, List.filter_cons]
        by_cases hKey : row.key = a
        · subst hKey
          simp
        · simp [hKey]

/-
  The groups `calculate` visits: its distinct artist keys in the order
  of their first occurrence, each with its own rows in feed order.
-/
theorem groupByArtist_entries
    (rows : List Row) :
    (groupByArtist artist rows PyDict.empty).entries =
      (groupKeys artist rows).map fun a => (a, rowsOf artist rows a) := by
  rw [PyDict.entries_eq_map_keys _ [], keys_groupByArtist]
  simp only [getD_groupByArtist, PyDict.getD_empty, List.nil_append, PyDict.keys_empty]
  rfl

end RoyaltyManager

end MusicLabel

------------------------------------------------------------
-- Removing One Artist's Rows
------------------------------------------------------------

namespace MusicLabel

namespace RoyaltyManager

variable (artist : Option String)

/- Dropping some keys before or after the first occurrences is the same. -/
theorem foldl_appendKey_filter
    (p : String → Bool)
    (keys seen : List String) :
    (keys.filter p).foldl appendKey (seen.filter p) =
      (keys.foldl appendKey seen).filter p := by
  induction keys generalizing seen with
  | nil => rfl
  | cons key keys ih =>
      rw [List.foldl_cons, ← ih]
      by_cases hKey : p key
      · have hStep : appendKey (seen.filter p) key = (appendKey seen key).filter p := by
          by_cases hMem : key ∈ seen <;> simp [appendKey, hMem, hKey]
        simp only [List.filter_cons, hKey, ↓reduceIte, List.foldl_cons, hStep]
      · have hStep : seen.filter p = (appendKey seen key).filter p := by
          unfold appendKey
          split <;> simp [hKey]
        simp only [List.filter_cons, hKey, Bool.false_eq_true, ↓reduceIte, hStep]

/- Without the rows of `b`, the artists are the same less `b`. -/
theorem groupKeys_filter
    (rows : List Row)
    (b : String) :
    groupKeys artist (rows.filter fun row => row.key ≠ b) =
      (groupKeys artist rows).filter fun a => a ≠ b := by
  have hSelected :
      (selectedRows artist (rows.filter fun row => row.key ≠ b)).map Row.key =
        ((selectedRows artist rows).map Row.key).filter fun a => a ≠ b := by
    simp only [selectedRows, List.filter_filter, List.filter_map]
    congr 2
    funext row
    simp [Bool.and_comm]
  unfold groupKeys firstOccurrences
  rw [hSelected, ← foldl_appendKey_filter]
  rfl

/- Without the rows of `b`, every other artist keeps its rows. -/
theorem rowsOf_filter
    (rows : List Row)
    {a b : String}
    (hab : a ≠ b) :
    rowsOf artist (rows.filter fun row => row.key ≠ b) a = rowsOf artist rows a := by
  simp only [rowsOf, selectedRows, List.filter_filter]
  congr 1
  funext row
  by_cases hKey : row.key = a
  · simp [hKey, hab]
  · simp [hKey]

end RoyaltyManager

end MusicLabel

------------------------------------------------------------
-- Selecting One Artist
------------------------------------------------------------

namespace MusicLabel

namespace RoyaltyManager

@[simp] theorem selectedRows_none
    (rows : List Row) :
    selectedRows none rows = rows := by
  simp [selectedRows, filterSkips]

/- A non-empty filter keeps exactly the rows of the artist it names. -/
theorem selectedRows_some
    {a : String}
    (ha : a ≠ "")
    (rows : List Row) :
    selectedRows (some a) rows = rows.filter fun row => row.key = a :=
  List.filter_congr fun row _ => by simp [filterSkips, ha]

/- Under a non-empty filter the only group left is the named artist's. -/
theorem groupKeys_some
    {a : String}
    (ha : a ≠ "")
    (rows : List Row) :
    groupKeys (some a) rows = (groupKeys none rows).filter fun b => b = a := by
  have hSelected : (selectedRows (some a) rows).map Row.key =
      ((selectedRows none rows).map Row.key).filter fun b => b = a := by
    rw [selectedRows_some ha, selectedRows_none, List.filter_map]
    rfl
  unfold groupKeys firstOccurrences
  rw [hSelected, ← foldl_appendKey_filter]
  rfl

/- The named artist keeps its rows under its own filter. -/
theorem rowsOf_some
    {a : String}
    (ha : a ≠ "")
    (rows : List Row) :
    rowsOf (some a) rows a = rowsOf none rows a := by
  simp only [rowsOf, selectedRows_some ha, selectedRows_none, List.filter_filter, Bool.and_self]

end RoyaltyManager

end MusicLabel
