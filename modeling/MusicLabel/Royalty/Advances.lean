import MusicLabel.Royalty.Payout
import MusicLabel.Python.DecimalText

/-
  The states the test setters reach, and the two queries over the
  advances cache.

  A run of `set_split` and `set_advance` calls assigns, in order, the
  conversions `Decimal(str(v))` that return; a conversion that raises
  assigns nothing. So an artist's entry is the last value assigned to
  it, and a cache lists its artists in the order of their first
  assignment.

  `check_advances` is its loop over the cache, refined to a filter: the
  visited advances above zero in insertion order, or the
  `InvalidOperation` of the first NaN it compares. For one artist it
  is `get_artist_balance` read as a list.

  Main declarations:
    * `SetterCall.splitEntry`, `SetterCall.advanceEntry`
    * `RoyaltyManager.reach_caches`
    * `RoyaltyManager.checkAdvances_eq`, `RoyaltyManager.checkAdvances_of_artist`
-/

------------------------------------------------------------
-- Setter Runs
------------------------------------------------------------

namespace MusicLabel

namespace SetterCall

/- The assignment a call makes to the splits cache, when its conversion returns. -/
def splitEntry : SetterCall → Option (String × Decimal)
  | setSplit artist splitPct => splitPct.toDecimal.toOption.map (artist, ·)
  | setAdvance _ _ => none

/- The assignment a call makes to the advances cache, when its conversion returns. -/
def advanceEntry : SetterCall → Option (String × Decimal)
  | setSplit _ _ => none
  | setAdvance artist amount => amount.toDecimal.toOption.map (artist, ·)

end SetterCall

namespace RoyaltyManager

open Decimal

/- The values a list of assignments gives one key, in order. -/
def storedValues (key : String) (assignments : List (String × Decimal)) : List Decimal :=
  assignments.filterMap fun assignment =>
    if assignment.1 = key then some assignment.2 else none

/- The dict after one optional assignment. -/
def assignOpt
    (d : PyDict String Decimal) : Option (String × Decimal) → PyDict String Decimal
  | some (key, value) => d.set key value
  | none => d

theorem splitsCache_applySetter
    (m : RoyaltyManager)
    (call : SetterCall) :
    (applySetter m call).splitsCache = assignOpt m.splitsCache call.splitEntry := by
  cases call with
  | setSplit artist splitPct =>
      cases h : splitPct.toDecimal <;>
        simp [applySetter, setSplit, h, SetterCall.splitEntry, Except.toOption, assignOpt]
  | setAdvance artist amount =>
      cases h : amount.toDecimal <;>
        simp [applySetter, setAdvance, h, SetterCall.splitEntry, assignOpt]

theorem advancesCache_applySetter
    (m : RoyaltyManager)
    (call : SetterCall) :
    (applySetter m call).advancesCache = assignOpt m.advancesCache call.advanceEntry := by
  cases call with
  | setSplit artist splitPct =>
      cases h : splitPct.toDecimal <;>
        simp [applySetter, setSplit, h, SetterCall.advanceEntry, assignOpt]
  | setAdvance artist amount =>
      cases h : amount.toDecimal <;>
        simp [applySetter, setAdvance, h, SetterCall.advanceEntry, Except.toOption, assignOpt]

section Runs

/-
  One cache of the manager, and the assignment each call makes to it:
  every result about runs is stated once for both caches.
-/
variable
  (cache : RoyaltyManager → PyDict String Decimal)
  (entry : SetterCall → Option (String × Decimal))
  (hStep : ∀ m call, cache (applySetter m call) = assignOpt (cache m) (entry call))

include hStep

/- A key's entry after a run: its last assigned value, else what it was. -/
theorem get?_foldl_applySetter
    (calls : List SetterCall)
    (m : RoyaltyManager)
    (key : String) :
    (cache (calls.foldl applySetter m)).get? key =
      (storedValues key (calls.filterMap entry)).getLast?.or ((cache m).get? key) := by
  induction calls generalizing m with
  | nil => rfl
  | cons call calls ih =>
      rw [List.foldl_cons, ih, hStep, List.filterMap_cons]
      cases hEntry : entry call with
      | none => rfl
      | some assignment =>
          obtain ⟨k, v⟩ := assignment
          by_cases hKey : k = key
          · subst hKey
            have hCons : storedValues k ((k, v) :: calls.filterMap entry) =
                [v] ++ storedValues k (calls.filterMap entry) := by
              simp [storedValues]
            rw [hCons, List.getLast?_append, Option.or_assoc]
            simp [assignOpt]
          · simp [storedValues, assignOpt, hKey]

/- The keys after a run: the old keys, then each newly assigned key once. -/
theorem keys_foldl_applySetter
    (calls : List SetterCall)
    (m : RoyaltyManager) :
    (cache (calls.foldl applySetter m)).keys =
      ((calls.filterMap entry).map Prod.fst).foldl appendKey (cache m).keys := by
  induction calls generalizing m with
  | nil => rfl
  | cons call calls ih =>
      rw [List.foldl_cons, ih, hStep, List.filterMap_cons]
      cases hEntry : entry call with
      | none => rfl
      | some assignment => simp [assignOpt, PyDict.keys_set, appendKey]

end Runs

/-
  Every decimal the two caches hold lies within the exponent bounds, as
  every `Decimal` value does.
-/
def CachesInRange (m : RoyaltyManager) : Prop :=
  (∀ entry ∈ m.splitsCache.entries, entry.2.inRange) ∧
    ∀ entry ∈ m.advancesCache.entries, entry.2.inRange

instance : DecidablePred CachesInRange := fun m =>
  inferInstanceAs (Decidable ((∀ entry ∈ m.splitsCache.entries, entry.2.inRange) ∧
    ∀ entry ∈ m.advancesCache.entries, entry.2.inRange))

/- An assignment of a value within the bounds keeps a cache within them. -/
theorem inRange_assignOpt
    {d : PyDict String Decimal}
    (hd : ∀ entry ∈ d.entries, entry.2.inRange)
    {assignment : Option (String × Decimal)}
    (hAssignment : ∀ entry ∈ assignment, entry.2.inRange) :
    ∀ entry ∈ (assignOpt d assignment).entries, entry.2.inRange := by
  rintro ⟨key, value⟩ hEntry
  cases assignment with
  | none => exact hd _ hEntry
  | some assigned =>
      rw [assignOpt, PyDict.mem_entries_iff, PyDict.get?_set] at hEntry
      split_ifs at hEntry with hKey
      · cases hEntry
        exact hAssignment assigned rfl
      · exact hd _ (PyDict.mem_entries_iff.mpr hEntry)

/- A setter call keeps both caches within the bounds: it stores only what `Decimal(str(v))` returns. -/
theorem cachesInRange_applySetter
    {m : RoyaltyManager}
    (hm : m.CachesInRange)
    (call : SetterCall) :
    (applySetter m call).CachesInRange := by
  have hConverted : ∀ (v : Value) (key : String),
      ∀ entry ∈ v.toDecimal.toOption.map (key, ·), entry.2.inRange := by
    intro v key entry hEntry
    cases hv : v.toDecimal with
    | error e => simp [hv, Except.toOption] at hEntry
    | ok d =>
        simp only [hv, Except.toOption, Option.map_some', Option.mem_def,
          Option.some.injEq] at hEntry
        subst hEntry
        exact Value.inRange_of_toDecimal hv
  rw [CachesInRange, splitsCache_applySetter, advancesCache_applySetter]
  cases call with
  | setSplit artist splitPct =>
      exact ⟨inRange_assignOpt hm.1 (hConverted splitPct artist), hm.2⟩
  | setAdvance artist amount =>
      exact ⟨hm.1, inRange_assignOpt hm.2 (hConverted amount artist)⟩

/- Every state the setters reach from empty caches holds only decimals within the bounds. -/
theorem cachesInRange_reach
    (calls : List SetterCall) :
    (reach calls).CachesInRange := by
  have hRun : ∀ m, m.CachesInRange → (calls.foldl applySetter m).CachesInRange := by
    induction calls with
    | nil => exact fun _ hm => hm
    | cons call calls ih => exact fun m hm => ih _ (cachesInRange_applySetter hm call)
  exact hRun empty ⟨nofun, nofun⟩

/-
  The states the setters reach from empty caches: in each cache an
  artist holds the value `Decimal(str(v))` of the last call for it whose
  conversion returned (no entry if none did), and the artists are
  listed in the order of their first such call. Every value they hold
  lies within the exponent bounds.
-/
theorem reach_caches
    (calls : List SetterCall)
    (artist : String) :
    (reach calls).splitsCache.get? artist =
        (storedValues artist (calls.filterMap SetterCall.splitEntry)).getLast? ∧
      (reach calls).splitsCache.keys =
        firstOccurrences ((calls.filterMap SetterCall.splitEntry).map Prod.fst) ∧
      (reach calls).advancesCache.get? artist =
        (storedValues artist (calls.filterMap SetterCall.advanceEntry)).getLast? ∧
      (reach calls).advancesCache.keys =
        firstOccurrences ((calls.filterMap SetterCall.advanceEntry).map Prod.fst) ∧
      (reach calls).CachesInRange := by
  refine ⟨?_, ?_, ?_, ?_, cachesInRange_reach calls⟩
  · rw [reach, get?_foldl_applySetter _ _ splitsCache_applySetter]
    simp [empty]
  · exact keys_foldl_applySetter _ _ splitsCache_applySetter calls empty
  · rw [reach, get?_foldl_applySetter _ _ advancesCache_applySetter]
    simp [empty]
  · exact keys_foldl_applySetter _ _ advancesCache_applySetter calls empty

end RoyaltyManager

end MusicLabel

------------------------------------------------------------
-- Advance Queries
------------------------------------------------------------

namespace MusicLabel

namespace RoyaltyManager

open Decimal

/- The advances `check_advances` visits: all, or one artist's under a non-empty filter. -/
def visitedAdvances (m : RoyaltyManager) (artist : Option String) : List (String × Decimal) :=
  m.advancesCache.entries.filter fun entry => !filterSkips artist entry.1

/- The line `check_advances` lists for a visited advance above zero. -/
def activeAdvance (entry : String × Decimal) : Option ActiveAdvance :=
  if cmp entry.2 decimalZero = .gt then some ⟨entry.1, entry.2.toSciString, "active"⟩ else none

/- `balance > 0`: `InvalidOperation` on a NaN, the order otherwise. -/
theorem gt_decimalZero
    (balance : Decimal) :
    liftSignal (gt balance decimalZero) =
      if balance.isNaN then .error (.decimal .invalidOperation)
      else .ok (decide (cmp balance decimalZero = .gt)) := by
  have hZero : decimalZero.isNaN = false := rfl
  by_cases hNaN : balance.isNaN <;> simp [gt, hNaN, hZero]

/-
  The loop of `check_advances` over any list of entries: the visited
  ones above zero in order, or `InvalidOperation` when one visited
  balance is a NaN.
-/
theorem foldr_checkAdvancesStep
    (artist : Option String)
    (entries : List (String × Decimal)) :
    entries.foldr (checkAdvancesStep artist) (.ok []) =
      if (entries.filter fun entry => !filterSkips artist entry.1).any
          (fun entry => entry.2.isNaN) then
        .error (.decimal .invalidOperation)
      else .ok ((entries.filter fun entry => !filterSkips artist entry.1).filterMap
        activeAdvance) := by
  induction entries with
  | nil => rfl
  | cons entry entries ih =>
      obtain ⟨name, balance⟩ := entry
      rw [List.foldr_cons, ih, List.filter_cons, checkAdvancesStep]
      by_cases hSkip : filterSkips artist name
      · rw [if_neg (show ¬(!filterSkips artist name) = true by simp [hSkip])]
        simp [hSkip]
      · by_cases hNaN : balance.isNaN
        · simp [hSkip, gt_decimalZero, hNaN, Except.bind]
        · by_cases hRest : (entries.filter fun entry => !filterSkips artist entry.1).any
              (fun entry => entry.2.isNaN)
          · simp [hSkip, gt_decimalZero, hNaN, hRest, Except.bind, Except.map]
          · by_cases hPositive : cmp balance decimalZero = .gt <;>
              simp [hSkip, gt_decimalZero, hNaN, hRest, hPositive, Except.bind, Except.map,
                activeAdvance]

/-
  `check_advances(artist)`: the visited advances above zero, in
  insertion order, as `str(balance)` with the status `active`; the
  first NaN balance compared raises `InvalidOperation`.
-/
theorem checkAdvances_eq
    (m : RoyaltyManager)
    (artist : Option String) :
    m.checkAdvances artist =
      if (visitedAdvances m artist).any (fun entry => entry.2.isNaN) then
        .error (.decimal .invalidOperation)
      else .ok ((visitedAdvances m artist).filterMap activeAdvance) :=
  foldr_checkAdvancesStep artist m.advancesCache.entries

/-
  For one artist `check_advances` is `get_artist_balance` read as a
  list: it raises exactly when the balance query raises, lists the
  artist with the same remaining balance when the status is
  `has_advance`, and nothing when it is `clear`.
-/
theorem checkAdvances_of_artist
    (m : RoyaltyManager)
    {artist : String}
    (hArtist : artist ≠ "") :
    m.checkAdvances (some artist) = (m.getArtistBalance artist).map fun balance =>
      if balance.status = "has_advance" then [⟨artist, balance.advanceRemaining, "active"⟩]
      else [] := by
  have hVisited : visitedAdvances m (some artist) =
      (m.advancesCache.get? artist).toList.map (artist, ·) := by
    rw [visitedAdvances, ← PyDict.filter_entries_key]
    exact List.filter_congr fun entry _ => by simp [filterSkips, hArtist]
  rw [checkAdvances, foldr_checkAdvancesStep, ← visitedAdvances, hVisited, getArtistBalance]
  cases hAdvance : m.advancesCache.get? artist with
  | none =>
      rw [PyDict.getD, hAdvance]
      rfl
  | some balance =>
      by_cases hNaN : balance.isNaN
      · simp [PyDict.getD, hAdvance, gt_decimalZero, hNaN, Except.map]
      · by_cases hPositive : cmp balance decimalZero = .gt <;>
          simp [PyDict.getD, hAdvance, gt_decimalZero, hNaN, hPositive, Except.map,
            activeAdvance]

/- The theorem at an artist with an outstanding advance of `7500.00`. -/
theorem checkAdvances_of_artist_at_outstanding_advance :
    let m : RoyaltyManager :=
      ⟨PyDict.empty, PyDict.empty.set "A" (.finite false 750000 (-2))⟩
    "A" ≠ "" ∧ m.checkAdvances (some "A") = .ok [⟨"A", "7500.00", "active"⟩] ∧
      m.checkAdvances (some "A") = (m.getArtistBalance "A").map fun balance =>
        if balance.status = "has_advance" then [⟨"A", balance.advanceRemaining, "active"⟩]
        else [] := by
  intro m
  exact ⟨by decide, by decide, checkAdvances_of_artist m (by decide)⟩

end RoyaltyManager

end MusicLabel
