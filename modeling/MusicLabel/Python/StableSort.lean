import Mathlib.Data.List.Sort

/-
  `sorted(items, key=key)` and `sorted(items, key=key, reverse=True)`.
  CPython's sort is stable, and with `reverse=True` it still keeps the
  items of one key in their input order, so its result is the one list
  that is ordered by the key and keeps each key's items in input order.
  The models write it as Mathlib's insertion sort under an order that
  compares keys; this module proves that the insertion sort meets that
  contract, so it stands for Timsort.

  Correctness is proven by:
    * `StableSort.filter_insertionSort`: each key's items keep their order
    * `StableSort.eq_of_sorted_of_filter_eq`: such a list is unique
    * `StableSort.insertionSort_eq_iff`

  Main declarations:
    * `StableSort.ComparesKeys`
-/

------------------------------------------------------------
-- The Stable Sort Contract
------------------------------------------------------------

namespace MusicLabel

namespace StableSort

variable {α β : Type} [DecidableEq β] (key : α → β) (r : α → α → Prop)

/- `r` compares keys: it holds both ways exactly between items of one key. -/
def ComparesKeys : Prop :=
  ∀ a b, r a b ∧ r b a ↔ key a = key b

variable {key r}

/-
  Two lists ordered by `r` that hold the same items of each key in the
  same order are equal.
-/
theorem eq_of_sorted_of_filter_eq
    (hKeys : ComparesKeys key r)
    {l₁ l₂ : List α}
    (h₁ : l₁.Sorted r)
    (h₂ : l₂.Sorted r)
    (hFilter : ∀ k, l₁.filter (key · = k) = l₂.filter (key · = k)) :
    l₁ = l₂ := by
  have hMem : ∀ {l₁ l₂ : List α}, (∀ k, l₁.filter (key · = k) = l₂.filter (key · = k)) →
      ∀ {x}, x ∈ l₁ → x ∈ l₂ := by
    intro l₁ l₂ hFilter x h
    exact (List.mem_filter.mp (hFilter (key x) ▸ List.mem_filter.mpr ⟨h, by simp⟩)).1
  induction l₁ generalizing l₂ with
  | nil =>
      exact (List.eq_nil_iff_forall_not_mem.mpr fun x hx => by
        simpa using hMem (fun k => (hFilter k).symm) hx).symm
  | cons a t ih =>
      cases l₂ with
      | nil => simpa using hMem hFilter (List.mem_cons_self a t)
      | cons b u =>
          obtain ⟨hA, hT⟩ := List.sorted_cons.mp h₁
          obtain ⟨hB, hU⟩ := List.sorted_cons.mp h₂
          have hKey : key b = key a := by
            rcases List.mem_cons.mp (hMem (fun k => (hFilter k).symm) (List.mem_cons_self b u))
              with rfl | hb
            · rfl
            rcases List.mem_cons.mp (hMem hFilter (List.mem_cons_self a t)) with rfl | ha
            · rfl
            exact ((hKeys a b).mp ⟨hA b hb, hB a ha⟩).symm
          have hHead := hFilter (key a)
          simp only [List.filter_cons, decide_True, ↓reduceIte, hKey] at hHead
          obtain ⟨hab, -⟩ := List.cons_eq_cons.mp hHead
          subst hab
          refine congrArg (a :: ·) (ih hT hU fun k => ?_)
          have hk := hFilter k
          by_cases hKeyK : key a = k <;> simpa [List.filter_cons, hKeyK] using hk

variable [DecidableRel r]

/- The insertion sort keeps the items of each key in their input order. -/
theorem filter_insertionSort
    (hKeys : ComparesKeys key r)
    (l : List α)
    (k : β) :
    (l.insertionSort r).filter (key · = k) = l.filter (key · = k) := by
  have hPairwise : (l.filter (key · = k)).Pairwise r :=
    List.pairwise_of_forall_mem_list fun a ha b hb => by
      simp only [List.mem_filter, decide_eq_true_eq] at ha hb
      exact ((hKeys a b).mpr (ha.2.trans hb.2.symm)).1
  have hSublist := (List.sublist_insertionSort hPairwise (List.filter_sublist l)).filter
    (key · = k)
  rw [List.filter_filter, List.filter_congr (fun _ _ => Bool.and_self _)] at hSublist
  exact (hSublist.eq_of_length ((List.perm_insertionSort r l).filter _).length_eq.symm).symm

/-
  The insertion sort returns exactly the list that is ordered by `r`
  and keeps the items of each key in their input order.
-/
theorem insertionSort_eq_iff
    [IsTotal α r]
    [IsTrans α r]
    (hKeys : ComparesKeys key r)
    (l sorted : List α) :
    l.insertionSort r = sorted ↔
      sorted.Sorted r ∧ ∀ k, sorted.filter (key · = k) = l.filter (key · = k) := by
  constructor
  · rintro rfl
    exact ⟨List.sorted_insertionSort r l, filter_insertionSort hKeys l⟩
  · rintro ⟨hSorted, hFilter⟩
    exact eq_of_sorted_of_filter_eq hKeys (List.sorted_insertionSort r l) hSorted
      fun k => (filter_insertionSort hKeys l k).trans (hFilter k).symm

end StableSort

end MusicLabel
