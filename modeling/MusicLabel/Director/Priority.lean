import MusicLabel.Director.Routing
import MusicLabel.Python.StableSort

/-
  `Director.prioritize`: the tasks sorted by `_score`, largest first.

  `_score` takes the largest weight of `PRIORITY_WEIGHTS` whose keyword
  occurs in the lowered text (`0` when none does) and adds `50` when a
  deadline word occurs. `urgent` is both the heaviest keyword and a
  deadline word, so a task mentioning it scores `150`, and it is the
  only way to reach that score.

  `sorted(tasks, key=_score, reverse=True)` is a stable sort, and
  `reverse=True` keeps tasks of equal score in their input order. Those
  two properties fix the result: `prioritize_eq_iff` shows the insertion
  sort here returns exactly the list that is ordered by score and keeps
  every score's tasks in input order (`StableSort.insertionSort_eq_iff`),
  so it stands for CPython's sort.

  Correctness is proven by:
    * `Director.filter_prioritize`: each score's tasks keep their order
    * `Director.prioritize_eq_iff`: the stable sort contract
    * `Director.priorityScore_eq_top_iff`: the top score is `urgent`
    * `Director.prioritize_urgent_first`

  Main declarations:
    * `Director.priorityWeights`, `Director.deadlineWords`
    * `Director.priorityScore`, `Director.ScoresAtLeast`, `Director.prioritize`
-/

------------------------------------------------------------
-- Scores and the Sort
------------------------------------------------------------

namespace MusicLabel

namespace Director

/- `PRIORITY_WEIGHTS`, in table order. -/
def priorityWeights : List (String × Nat) :=
  [("urgent", 100), ("financial", 80), ("legal", 70), ("release", 60), ("analytics", 40),
    ("maintenance", 30), ("info", 10)]

/- The words that earn the deadline bonus. -/
def deadlineWords : List String :=
  ["срочно", "urgent", "deadline", "дедлайн", "asap"]

/- The loop body of `_score`: a keyword in the text raises the score to its weight. -/
def addWeight (text : String) (score : Nat) (entry : String × Nat) : Nat :=
  if Text.containsStr text entry.1 then max score entry.2 else score

section Prioritize

/- `str.lower`. -/
variable (lower : String → String)

/- `_score(t)`. -/
def priorityScore (task : AgentTask) : Nat :=
  let text := lower task.text
  let score := priorityWeights.foldl (addWeight text) 0
  if deadlineWords.any (Text.containsStr text) then score + 50 else score

/- The order of `prioritize`: `a` may stand before `b` when it scores at least as much. -/
def ScoresAtLeast (a b : AgentTask) : Prop :=
  priorityScore lower b ≤ priorityScore lower a

instance : DecidableRel (ScoresAtLeast lower) :=
  fun a b => inferInstanceAs (Decidable (priorityScore lower b ≤ priorityScore lower a))

instance : IsTotal AgentTask (ScoresAtLeast lower) :=
  ⟨fun a b => le_total (priorityScore lower b) (priorityScore lower a)⟩

instance : IsTrans AgentTask (ScoresAtLeast lower) :=
  ⟨fun _ _ _ hab hbc => le_trans hbc hab⟩

/- `sorted(tasks, key=_score, reverse=True)`, as a stable insertion sort. -/
def prioritize (tasks : List AgentTask) : List AgentTask :=
  tasks.insertionSort (ScoresAtLeast lower)

end Prioritize

end Director

end MusicLabel

------------------------------------------------------------
-- The Stable Sort Contract
------------------------------------------------------------

namespace MusicLabel

namespace Director

section Prioritize

variable (lower : String → String)

/- `ScoresAtLeast` holds both ways exactly between tasks of one score. -/
theorem comparesKeys_scoresAtLeast :
    StableSort.ComparesKeys (priorityScore lower) (ScoresAtLeast lower) :=
  fun _ _ => ⟨fun h => le_antisymm h.2 h.1, fun h => ⟨h.symm.le, h.le⟩⟩

theorem sorted_prioritize
    (tasks : List AgentTask) :
    (prioritize lower tasks).Sorted (ScoresAtLeast lower) :=
  List.sorted_insertionSort _ tasks

/- The tasks of each score come out in their input order. -/
theorem filter_prioritize
    (tasks : List AgentTask)
    (k : Nat) :
    (prioritize lower tasks).filter (priorityScore lower · = k) =
      tasks.filter (priorityScore lower · = k) :=
  StableSort.filter_insertionSort (comparesKeys_scoresAtLeast lower) tasks k

/-
  `prioritize` returns exactly the list that orders the tasks by score,
  largest first, and keeps the tasks of each score in their input
  order: the contract of Python's stable `sorted` with `reverse=True`.
-/
theorem prioritize_eq_iff
    (tasks sorted : List AgentTask) :
    prioritize lower tasks = sorted ↔
      sorted.Sorted (ScoresAtLeast lower) ∧
        ∀ k, sorted.filter (priorityScore lower · = k) =
          tasks.filter (priorityScore lower · = k) :=
  StableSort.insertionSort_eq_iff (comparesKeys_scoresAtLeast lower) tasks sorted

end Prioritize

end Director

end MusicLabel

------------------------------------------------------------
-- Urgent Tasks First
------------------------------------------------------------

namespace MusicLabel

namespace Director

theorem foldl_addWeight_le
    (text : String)
    {bound : Nat}
    (entries : List (String × Nat))
    (init : Nat)
    (hEntries : ∀ entry ∈ entries, entry.2 ≤ bound)
    (hInit : init ≤ bound) :
    entries.foldl (addWeight text) init ≤ bound := by
  induction entries generalizing init with
  | nil => exact hInit
  | cons entry entries ih =>
      refine ih _ (fun e he => hEntries e (List.mem_cons_of_mem _ he)) ?_
      have hEntry := hEntries entry (List.mem_cons_self _ _)
      unfold addWeight
      split <;> omega

/- A keyword only ever raises the score. -/
theorem le_foldl_addWeight
    (text : String)
    (entries : List (String × Nat))
    (init : Nat) :
    init ≤ entries.foldl (addWeight text) init := by
  induction entries generalizing init with
  | nil => exact le_rfl
  | cons entry entries ih =>
      refine le_trans ?_ (ih _)
      unfold addWeight
      split
      · exact le_max_left _ _
      · exact le_rfl

/- Below a bound every weight respects, the score reaches it exactly through an entry of that weight. -/
theorem foldl_addWeight_eq_iff
    (text : String)
    {bound : Nat}
    (entries : List (String × Nat))
    (init : Nat)
    (hEntries : ∀ entry ∈ entries, entry.2 ≤ bound)
    (hInit : init < bound) :
    entries.foldl (addWeight text) init = bound ↔
      ∃ entry ∈ entries, Text.containsStr text entry.1 = true ∧ entry.2 = bound := by
  induction entries generalizing init with
  | nil => simp [Nat.ne_of_lt hInit]
  | cons entry entries ih =>
      have hEntry := hEntries entry (List.mem_cons_self _ _)
      have hRest : ∀ e ∈ entries, e.2 ≤ bound := fun e he => hEntries e (List.mem_cons_of_mem _ he)
      simp only [List.foldl_cons, List.mem_cons, or_and_right, exists_or, exists_eq_left]
      by_cases hMatch : Text.containsStr text entry.1 = true
      · rw [addWeight, if_pos hMatch]
        by_cases hTop : entry.2 = bound
        · rw [max_eq_right (by omega), hTop]
          exact iff_of_true (le_antisymm (foldl_addWeight_le text entries bound hRest le_rfl)
            (le_foldl_addWeight text entries bound)) (.inl ⟨hMatch, rfl⟩)
        · simp only [hTop, and_false, false_or]
          exact ih _ hRest (max_lt hInit (lt_of_le_of_ne hEntry hTop))
      · rw [addWeight, if_neg hMatch]
        simp only [hMatch, Bool.false_eq_true, false_and, false_or]
        exact ih _ hRest hInit

/- In a list ordered by a key, largest first, the items of the largest possible key come first. -/
theorem eq_filter_top_append
    {α : Type}
    (key : α → Nat)
    {top : Nat}
    {l : List α}
    (hSorted : l.Sorted fun a b => key b ≤ key a)
    (hTop : ∀ x ∈ l, key x ≤ top) :
    l = l.filter (key · = top) ++ l.filter (key · ≠ top) := by
  induction l with
  | nil => rfl
  | cons a t ih =>
      obtain ⟨hA, hT⟩ := List.sorted_cons.mp hSorted
      have hRest := ih hT fun x hx => hTop x (List.mem_cons_of_mem a hx)
      by_cases hKey : key a = top
      · simp only [List.filter_cons, hKey, decide_True, ↓reduceIte, ne_eq, not_true_eq_false,
          decide_False, Bool.false_eq_true, List.cons_append]
        exact congrArg (a :: ·) hRest
      · have hBelow : ∀ x ∈ t, key x ≠ top := fun x hx =>
          Nat.ne_of_lt (lt_of_le_of_lt (hA x hx)
            (lt_of_le_of_ne (hTop a (List.mem_cons_self a t)) hKey))
        rw [List.filter_cons_of_neg (by simpa using hKey),
          List.filter_cons_of_pos (by simpa using hKey),
          List.filter_eq_nil_iff.mpr (by simpa using hBelow),
          List.filter_eq_self.mpr (by simpa using hBelow), List.nil_append]

section Score

variable (lower : String → String)

/- The weighted part of `_score` is at most `100`. -/
theorem weight_le
    (text : String) :
    priorityWeights.foldl (addWeight text) 0 ≤ 100 :=
  foldl_addWeight_le text priorityWeights 0 (by decide) (Nat.zero_le _)

/- The weighted part of `_score` is `100` exactly when `urgent` occurs. -/
theorem weight_eq_top_iff
    (text : String) :
    priorityWeights.foldl (addWeight text) 0 = 100 ↔ Text.containsStr text "urgent" = true := by
  rw [foldl_addWeight_eq_iff text priorityWeights 0 (by decide) (by norm_num)]
  simp [priorityWeights]

theorem priorityScore_le
    (task : AgentTask) :
    priorityScore lower task ≤ 150 := by
  have hWeight := weight_le (lower task.text)
  simp only [priorityScore]
  split <;> omega

/- A task scores the top score `150` exactly when its lowered text contains `urgent`. -/
theorem priorityScore_eq_top_iff
    (task : AgentTask) :
    priorityScore lower task = 150 ↔ Text.containsStr (lower task.text) "urgent" = true := by
  have hWeight := weight_le (lower task.text)
  rw [← weight_eq_top_iff]
  simp only [priorityScore]
  split
  case isTrue => constructor <;> intro <;> omega
  case isFalse hNoDeadline =>
    refine ⟨fun h => by omega, fun hTop => absurd ?_ hNoDeadline⟩
    simp [deadlineWords, (weight_eq_top_iff _).mp hTop]

/-
  `prioritize` puts every task whose lowered text contains `urgent`
  first, in input order, and no such task after them.
-/
theorem prioritize_urgent_first
    (tasks : List AgentTask) :
    ∃ rest, prioritize lower tasks =
        tasks.filter (fun task => Text.containsStr (lower task.text) "urgent") ++ rest ∧
      ∀ task ∈ rest, Text.containsStr (lower task.text) "urgent" = false := by
  refine ⟨(prioritize lower tasks).filter (priorityScore lower · ≠ 150), ?_, ?_⟩
  · calc prioritize lower tasks
        = (prioritize lower tasks).filter (priorityScore lower · = 150) ++
            (prioritize lower tasks).filter (priorityScore lower · ≠ 150) :=
          eq_filter_top_append (priorityScore lower) (sorted_prioritize lower tasks)
            fun task _ => priorityScore_le lower task
      _ = tasks.filter (fun task => Text.containsStr (lower task.text) "urgent") ++
            (prioritize lower tasks).filter (priorityScore lower · ≠ 150) := by
          rw [filter_prioritize]
          congr 1
          exact List.filter_congr fun task _ => by simp [priorityScore_eq_top_iff]
  · intro task hTask
    have hNotTop := (List.mem_filter.mp hTask).2
    simp only [ne_eq, decide_eq_true_eq] at hNotTop
    exact Bool.eq_false_iff.mpr fun h => hNotTop ((priorityScore_eq_top_iff lower task).mpr h)

end Score

end Director

end MusicLabel
