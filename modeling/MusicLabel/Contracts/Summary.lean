import MusicLabel.Contracts.Audit
import MusicLabel.Python.FloatValue

/-
  `ContractManager.generate_summary`, and the range of the splits it
  averages, over whole runs of `add_contract` and `update_split` calls.

  The summary counts the registry by status and averages the splits of
  the active contracts: `sum(splits) / len(active)`, the float sum
  starting from the integer `0`, so from `0.0 + first`, and `0` when no
  contract is active.

  `update_split` only sets splits that pass its guard
  `0.0 <= new_pct <= 1.0`, and `add_contract` does not check. So every
  run whose added contracts pass the guard keeps every split of the
  registry within it (`run_allInRange`), and then the average split
  passes the guard too: each partial sum is a float between `0` and the
  number of its terms, and the rounded quotient stays within `[0, 1]`.

  Correctness is proven by:
    * `ContractManager.step_allInRange`, `ContractManager.run_allInRange`
    * `ContractManager.inRange_iff`: the guard on the number a float denotes
    * `ContractManager.foldl_add_bounded`: the partial sums
    * `ContractManager.averageSplit_inRange`

  Main declarations:
    * `ContractSummary`, `ContractManager.generateSummary`
    * `ContractManager.AllInRange`, `Call.AddsInRange`
-/

------------------------------------------------------------
-- The Summary
------------------------------------------------------------

namespace MusicLabel

/- The dictionary `generate_summary` returns. -/
structure ContractSummary where
  total : Nat
  active : Nat
  expired : Nat
  placeholders : Nat
  averageSplit : Value
  artistsWithFiles : Nat
  auditLogEntries : Nat
  deriving DecidableEq

namespace ContractManager

/-
  `sum(splits)` for a non-empty list of floats, as CPython 3.11 adds
  them: `0 + first`, then `+` each next one, each sum rounded (3.12 and
  later compensate the rounding).
-/
def floatSum (splits : List PyFloat) : PyFloat :=
  splits.foldl PyFloat.add (PyFloat.zero false)

/- `c.file_path` is truthy: set and not empty. -/
def hasFile (contract : ContractRecord) : Bool :=
  match contract.filePath with
  | some filePath => filePath ≠ ""
  | none => false

/- `generate_summary()`. -/
def generateSummary (s : ContractManager) : ContractSummary :=
  let active := s.records.filter (·.status = "active")
  let expired := s.records.filter (·.status = "expired")
  let placeholders := s.records.filter (·.status = "placeholder")
  { total := s.records.length
    active := active.length
    expired := expired.length
    placeholders := placeholders.length
    averageSplit :=
      if active ≠ [] then
        .float (PyFloat.divNat (floatSum (active.map (·.splitPct))) active.length)
      else .int 0
    artistsWithFiles := (s.records.filter hasFile).length
    auditLogEntries := s.auditLog.length }

end ContractManager

end MusicLabel

------------------------------------------------------------
-- Splits in Range over Runs
------------------------------------------------------------

namespace MusicLabel

/- A call adds no contract whose split fails the guard of `update_split`. -/
def Call.AddsInRange : Call → Prop
  | .addContract (.fresh contract) => ContractManager.InRange contract.splitPct
  | _ => True

instance (call : Call) : Decidable call.AddsInRange :=
  match call with
  | .addContract (.fresh contract) =>
      inferInstanceAs (Decidable (ContractManager.InRange contract.splitPct))
  | .addContract (.registered _) => isTrue trivial
  | .updateSplit .. => isTrue trivial

namespace ContractManager

/- Every registered contract has a split within `0.0 <= split <= 1.0`. -/
def AllInRange (s : ContractManager) : Prop :=
  ∀ ref ∈ s.contracts, InRange (s.record ref).splitPct

instance (s : ContractManager) : Decidable s.AllInRange :=
  inferInstanceAs (Decidable (∀ ref ∈ s.contracts, _))

theorem record_allocate_self
    (s : ContractManager)
    (contract : ContractRecord) :
    (s.allocate contract).record s.objects.length = contract := by
  simp [record, allocate]

theorem step_fresh
    (s : ContractManager)
    (contract : ContractRecord) :
    step s (.addContract (.fresh contract)) = s.allocate contract :=
  rfl

theorem step_registered
    (s : ContractManager)
    (ref : Nat) :
    step s (.addContract (.registered ref)) =
      if hRef : ref < s.objects.length then s.register ref hRef else s := by
  simp only [step, addContract]
  split <;> rfl

/- Every call that adds no split out of range keeps every split in range. -/
theorem step_allInRange
    {s : ContractManager}
    (call : Call)
    (hCall : call.AddsInRange)
    (h : s.AllInRange) :
    (step s call).AllInRange := by
  cases call with
  | addContract contract =>
      cases contract with
      | fresh contract =>
          intro r hr
          rw [step_fresh] at hr ⊢
          rcases List.mem_append.mp hr with hOld | hNew
          · rw [record_allocate contract (s.refsValid r hOld)]
            exact h r hOld
          · rw [List.mem_singleton.mp hNew, record_allocate_self]
            exact hCall
      | registered ref =>
          rw [step_registered]
          split
          next hRef =>
            intro r hr
            rcases List.mem_append.mp hr with hOld | hNew
            · exact h r hOld
            · rw [List.mem_singleton.mp hNew]
              exact h ref (s.objectsRegistered ref hRef)
          next => exact h
  | updateSplit artist newPct reason =>
      rcases updateSplit_cases artist newPct reason s with
        ⟨message, hError, -⟩ | ⟨ref, hFirst, hRange, hOk⟩
      · simp only [step, hError, stateAfter]
        exact h
      · simp only [step, hOk, stateAfter]
        intro r hr
        by_cases hRef : ref = r
        · subst hRef
          rw [record_appendAudit, record_setSplitPct_self newPct (lt_of_firstContract hFirst)]
          exact hRange
        · rw [record_appendAudit, record_setSplitPct_ne newPct hRef]
          exact h r hr

/- Every run whose added contracts pass the guard keeps every split in range. -/
theorem run_allInRange
    {s : ContractManager}
    (calls : List Call)
    (hCalls : ∀ call ∈ calls, call.AddsInRange)
    (h : s.AllInRange) :
    (run s calls).AllInRange := by
  induction calls generalizing s with
  | nil => exact h
  | cons call calls ih =>
      exact ih (fun c hc => hCalls c (List.mem_cons_of_mem call hc))
        (step_allInRange call (hCalls call (List.mem_cons_self call calls)) h)

theorem records_inRange
    {s : ContractManager}
    (h : s.AllInRange) :
    ∀ contract ∈ s.records, InRange contract.splitPct := by
  intro contract hContract
  obtain ⟨r, hr, rfl⟩ := List.mem_map.mp hContract
  exact h r hr

end ContractManager

end MusicLabel

------------------------------------------------------------
-- The Average Split
------------------------------------------------------------

namespace MusicLabel

namespace ContractManager

open PyFloat

/- A finite float denoting a number between `0` and `bound`. -/
def Bounded (x : PyFloat) (bound : ℚ) : Prop :=
  ∃ s m e, x.kind = .finite s m e ∧ 0 ≤ Kind.value (.finite s m e) ∧
    Kind.value (.finite s m e) ≤ bound

@[simp] theorem value_zero_significand
    (negative : Bool)
    (exponent : ℤ) :
    Kind.value (.finite negative 0 exponent) = 0 := by
  cases negative <;> simp [Kind.value, Decimal.signed]

theorem kind_zeroPct : zeroPct.kind = .finite false 0 (-1074) := by decide

theorem kind_onePct : onePct.kind = .finite false (2 ^ 52) (-52) := by decide

theorem bounded_iff
    {x : PyFloat}
    {s : Bool}
    {m : ℕ}
    {e : ℤ}
    {bound : ℚ}
    (hx : x.kind = .finite s m e) :
    Bounded x bound ↔ 0 ≤ Kind.value (.finite s m e) ∧ Kind.value (.finite s m e) ≤ bound := by
  constructor
  · rintro ⟨s', m', e', hKind, hBounds⟩
    rw [hx] at hKind
    cases hKind
    exact hBounds
  · exact fun hBounds => ⟨s, m, e, hx, hBounds⟩

/- The guard `0.0 <= x <= 1.0` holds of the floats denoting a number in `[0, 1]`. -/
theorem inRange_iff
    (x : PyFloat) :
    InRange x ↔ Bounded x 1 := by
  have hOne : Kind.value (.finite false (2 ^ 52) (-52)) = 1 := by
    norm_num [Kind.value, Decimal.signed]
  unfold InRange PyFloat.le PyFloat.isNaN
  rw [kind_zeroPct, kind_onePct]
  cases hx : x.kind with
  | finite s m e =>
      rw [bounded_iff hx]
      simp only [order_finite, value_zero_significand, hOne]
      simp [compare_gt_iff_gt]
  | infinity t => cases t <;> simp [order, Bounded, hx]
  | nan => simp [Bounded, hx]

/-
  A float encoding a non-negative number `r` up to `bound`, with a
  positive sign unless `r` is zero, denotes `r`.
-/
theorem bounded_of_encodes
    {x : PyFloat}
    {negative : Bool}
    {r bound : ℚ}
    (h : Encodes negative r x.kind)
    (h0 : 0 ≤ r)
    (hBound : r ≤ bound)
    (hFinite : bound < 2 ^ 1024)
    (hSign : negative = false ∨ r = 0) :
    Bounded x bound := by
  cases hx : x.kind with
  | finite s m e =>
      rw [hx] at h
      obtain ⟨hs, hValue, -⟩ := h
      have hDenotes : Kind.value (.finite s m e) = r := by
        rcases hSign with hPositive | rfl
        · rw [hs, hPositive]
          simpa [Kind.value, Decimal.signed] using hValue
        · simp [Kind.value, Decimal.signed, hValue]
      exact (bounded_iff hx).mpr ⟨hDenotes ▸ h0, hDenotes ▸ hBound⟩
  | infinity t =>
      rw [hx] at h
      exact absurd (h.2.trans hBound) (not_le.mpr hFinite)
  | nan =>
      rw [hx] at h
      exact h.elim

/- Adding a split in range to a partial sum up to `k` gives a partial sum up to `k + 1`. -/
theorem bounded_add
    {acc x : PyFloat}
    {k : ℕ}
    (hAcc : Bounded acc k)
    (hx : Bounded x 1)
    (hk : k + 1 ≤ 2 ^ 53) :
    Bounded (add acc x) (k + 1 : ℕ) := by
  obtain ⟨s, m, e, hKindAcc, hAcc0, hAccK⟩ := hAcc
  obtain ⟨t, n, f, hKindX, hx0, hx1⟩ := hx
  have hTotal0 : 0 ≤ Kind.value (.finite s m e) + Kind.value (.finite t n f) := by linarith
  have hTotalK : Kind.value (.finite s m e) + Kind.value (.finite t n f) ≤ (k + 1 : ℕ) := by
    push_cast
    linarith
  have hRound : roundBinary (Kind.value (.finite s m e) + Kind.value (.finite t n f)) ≤
      (k + 1 : ℕ) := by
    rcases hTotal0.lt_or_eq with hPos | hZero
    · calc roundBinary (Kind.value (.finite s m e) + Kind.value (.finite t n f))
          ≤ roundBinary ((k + 1 : ℕ) : ℚ) := roundBinary_mono hPos hTotalK
        _ = (k + 1 : ℕ) := roundBinary_natCast (by omega) hk
    · rw [← hZero, roundBinary_zero]
      positivity
  have hEncodes := kind_add hKindAcc hKindX
  rw [abs_of_nonneg hTotal0] at hEncodes
  refine bounded_of_encodes hEncodes (roundBinary_nonneg hTotal0) hRound ?_ ?_
  · have : ((k + 1 : ℕ) : ℚ) ≤ 2 ^ 53 := by exact_mod_cast hk
    linarith
  · split_ifs with hZero
    · right
      rw [hZero, roundBinary_zero]
    · left
      exact decide_eq_false (not_lt.mpr hTotal0)

/- The partial sums of splits in range: a finite float between `0` and the number of terms. -/
theorem foldl_add_bounded
    {acc : PyFloat}
    {k : ℕ}
    {splits : List PyFloat}
    (hAcc : Bounded acc k)
    (hSplits : ∀ x ∈ splits, Bounded x 1)
    (hLen : k + splits.length ≤ 2 ^ 53) :
    Bounded (splits.foldl add acc) (k + splits.length : ℕ) := by
  induction splits generalizing acc k with
  | nil => simpa using hAcc
  | cons x splits ih =>
      rw [List.length_cons] at hLen
      have hRest := ih (bounded_add hAcc (hSplits x (List.mem_cons_self x splits)) (by omega))
        (fun y hy => hSplits y (List.mem_cons_of_mem x hy)) (by omega)
      rw [List.foldl_cons, List.length_cons, show k + (splits.length + 1) = k + 1 + splits.length by omega]
      exact hRest

/- Dividing a sum of `n` splits in range by `n` gives a number in `[0, 1]`. -/
theorem bounded_divNat
    {x : PyFloat}
    {n : ℕ}
    (hn : 0 < n)
    (hx : Bounded x n) :
    Bounded (divNat x n) 1 := by
  obtain ⟨s, m, e, hKind, hx0, hxn⟩ := hx
  rcases Nat.eq_zero_or_pos m with rfl | hm
  · -- a zero divides to the zero of its sign
    have hZero : (divNat x n).kind = .finite s 0 (-1074) := by
      simp only [divNat, hKind]
      split_ifs <;>
        simp only [Nat.zero_mul, ofRatio, ↓reduceIte, zero,
          kind_pack s (by norm_num : 0 < 2047) (by norm_num : 0 < 2 ^ 52)]
    exact ⟨s, 0, -1074, hZero, by simp, by simp⟩
  · have hSign : s = false := by
      cases s
      · rfl
      · have : (0 : ℚ) < m * 2 ^ e := mul_pos (by exact_mod_cast hm) (two_zpow_pos e)
        simp [Kind.value, Decimal.signed] at hx0
        linarith
    subst hSign
    have hValue : Kind.value (.finite false m e) = m * 2 ^ e := by
      simp [Kind.value, Decimal.signed]
    rw [hValue] at hxn
    have hPos : (0 : ℚ) < m * 2 ^ e / n :=
      div_pos (mul_pos (by exact_mod_cast hm) (two_zpow_pos e)) (by exact_mod_cast hn)
    have hQuotient : (m : ℚ) * 2 ^ e / n ≤ 1 := by
      rw [div_le_one (by exact_mod_cast hn)]
      exact hxn
    have hRound : roundBinary ((m : ℚ) * 2 ^ e / n) ≤ 1 := by
      calc roundBinary ((m : ℚ) * 2 ^ e / n) ≤ roundBinary ((1 : ℕ) : ℚ) :=
            roundBinary_mono hPos (by exact_mod_cast hQuotient)
        _ = 1 := by rw [roundBinary_natCast one_pos (by norm_num), Nat.cast_one]
    exact bounded_of_encodes (kind_divNat hKind hm hn) (roundBinary_nonneg hPos.le) hRound
      (by norm_num) (.inl rfl)

/-
  The average split of the summary passes the guard of `update_split`
  when every active split does, for fewer than `2^53` active contracts.
-/
theorem averageSplit_inRange
    (s : ContractManager)
    (hSplits : ∀ contract ∈ s.records, contract.status = "active" → InRange contract.splitPct)
    (hCount : (s.records.filter (·.status = "active")).length ≤ 2 ^ 53) :
    (s.records.filter (·.status = "active") = [] ∧ (generateSummary s).averageSplit = .int 0) ∨
      (s.records.filter (·.status = "active") ≠ [] ∧
        ∃ average, (generateSummary s).averageSplit = .float average ∧ InRange average) := by
  unfold generateSummary
  dsimp only
  split
  case isFalse hNone => exact .inl ⟨not_not.mp hNone, rfl⟩
  case isTrue hActive =>
    refine .inr ⟨hActive, _, rfl, (inRange_iff _).mpr ?_⟩
    have hZero : Bounded (zero false) (0 : ℕ) :=
      ⟨false, 0, -1074, by decide, by simp, by simp⟩
    have hSum := @foldl_add_bounded (zero false) 0
      ((s.records.filter (·.status = "active")).map (·.splitPct)) hZero
      (fun x hx => by
        obtain ⟨contract, hContract, rfl⟩ := List.mem_map.mp hx
        obtain ⟨hMem, hStatus⟩ := List.mem_filter.mp hContract
        exact (inRange_iff _).mp (hSplits contract hMem (of_decide_eq_true hStatus)))
      (by simpa using hCount)
    rw [Nat.zero_add, List.length_map] at hSum
    exact bounded_divNat (List.length_pos.mpr hActive) hSum

end ContractManager

end MusicLabel

------------------------------------------------------------
-- The Average over Runs
------------------------------------------------------------

namespace MusicLabel

namespace ContractManager

/-
  Over every run whose added contracts pass the guard of `update_split`,
  from a registry whose splits pass it, the average split of the
  summary passes the guard too, or is the integer `0` when no contract
  is active (for fewer than `2^53` active contracts).
-/
theorem generateSummary_run_averageSplit
    (s : ContractManager)
    (calls : List Call)
    (hStart : s.AllInRange)
    (hCalls : ∀ call ∈ calls, call.AddsInRange)
    (hCount : ((run s calls).records.filter (·.status = "active")).length ≤ 2 ^ 53) :
    ((run s calls).records.filter (·.status = "active") = [] ∧
        (generateSummary (run s calls)).averageSplit = .int 0) ∨
      ((run s calls).records.filter (·.status = "active") ≠ [] ∧
        ∃ average, (generateSummary (run s calls)).averageSplit = .float average ∧
          InRange average) :=
  averageSplit_inRange (run s calls)
    (fun contract hContract _ =>
      records_inRange (run_allInRange calls hCalls hStart) contract hContract)
    hCount

set_option exponentiation.threshold 1100 in
theorem generateSummary_run_averageSplit_at_two_contracts :
    (empty "Макс").AllInRange ∧
    (∀ call ∈ [Call.addContract (.fresh { artist := "A", splitPct := PyFloat.ofDecimal false 6 (-1) }),
        Call.addContract (.fresh { artist := "B", splitPct := PyFloat.ofDecimal false 4 (-1) }),
        Call.updateSplit "A" (PyFloat.ofDecimal false 5 (-1)) "renegotiated"],
      call.AddsInRange) ∧
    ((run (empty "Макс")
        [Call.addContract (.fresh { artist := "A", splitPct := PyFloat.ofDecimal false 6 (-1) }),
          Call.addContract (.fresh { artist := "B", splitPct := PyFloat.ofDecimal false 4 (-1) }),
          Call.updateSplit "A" (PyFloat.ofDecimal false 5 (-1)) "renegotiated"]).records.filter
        (·.status = "active")).length ≤ 2 ^ 53 ∧
    let s := run (empty "Макс")
      [Call.addContract (.fresh { artist := "A", splitPct := PyFloat.ofDecimal false 6 (-1) }),
        Call.addContract (.fresh { artist := "B", splitPct := PyFloat.ofDecimal false 4 (-1) }),
        Call.updateSplit "A" (PyFloat.ofDecimal false 5 (-1)) "renegotiated"]
    ((s.records.filter (·.status = "active") = [] ∧ (generateSummary s).averageSplit = .int 0) ∨
      (s.records.filter (·.status = "active") ≠ [] ∧
        ∃ average, (generateSummary s).averageSplit = .float average ∧ InRange average)) :=
  ⟨by decide, by decide, by decide,
    generateSummary_run_averageSplit _ _ (by decide) (by decide) (by decide)⟩

end ContractManager

end MusicLabel
