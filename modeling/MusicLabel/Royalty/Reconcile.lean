import MusicLabel.Royalty.Payout

/-
  `RoyaltyManager.reconcile`: the check of computed payouts against the
  amounts actually paid.

  Its guard returns nothing when either argument is empty, so an empty
  map of actual amounts reports no payout as missing. Past the guard it
  reports each payout by the rule `reconcileRule`, in order; the
  difference it reports is the subtraction of the decimal context,
  rounded to 28 digits.

  Reconciling the payouts of `calculate` against exactly their net
  amounts reports nothing: every net payout is a number, and a number
  compares equal to itself.

  Main declarations:
    * `Discrepancy`, `RoyaltyManager.reconcile`
    * `RoyaltyManager.reconcileRule`, `RoyaltyManager.AmountsCompare`
    * `RoyaltyManager.reconcile_result`
    * `RoyaltyManager.reconcile_calculate_exact`
-/

------------------------------------------------------------
-- Reconciliation
------------------------------------------------------------

namespace MusicLabel

/-
  A record of `reconcile`: its `type`, and the amounts as the strings
  `str` gives them.
-/
inductive Discrepancy
  | missingActual (artist quarter calculated : String)
  | amountMismatch (artist quarter calculated actual difference : String)
  deriving DecidableEq, Repr

namespace Discrepancy

/- The `"type"` field. -/
def type : Discrepancy → String
  | missingActual .. => "missing_actual"
  | amountMismatch .. => "amount_mismatch"

/- The `"artist"` field. -/
def artist : Discrepancy → String
  | missingActual artist .. => artist
  | amountMismatch artist .. => artist

end Discrepancy

namespace RoyaltyManager

/-
  The loop body of `reconcile` for one payout: `missing_actual` when
  the artist has no actual amount, `amount_mismatch` with
  `actual - net_payout` when the amounts differ, nothing otherwise.
-/
def discrepancyFor
    (quarter : String)
    (actualPayouts : PyDict String Decimal)
    (payout : ArtistPayout) : Except PyError (Option Discrepancy) :=
  match actualPayouts.get? payout.artist with
  | none =>
      .ok (some (.missingActual payout.artist quarter
        payout.netPayout.toSciString))
  | some actual =>
      (liftSignal (Decimal.eq actual payout.netPayout)).bind fun same =>
        if same then .ok none
        else
          (liftSignal (Decimal.sub actual payout.netPayout)).map fun diff =>
            some (.amountMismatch payout.artist quarter
              payout.netPayout.toSciString actual.toSciString diff.toSciString)

/- The loop of `reconcile` over the payouts, in order. -/
def collectDiscrepancies
    (quarter : String)
    (actualPayouts : PyDict String Decimal) :
    List ArtistPayout → Except PyError (List Discrepancy)
  | [] => .ok []
  | payout :: payouts =>
      (discrepancyFor quarter actualPayouts payout).bind fun found =>
        (collectDiscrepancies quarter actualPayouts payouts).map fun rest =>
          found.toList ++ rest

/- The warning `"Reconciliation: %d discrepancies for %s"`. -/
def reconciliationWarning (count : Nat) (quarter : String) : LogRecord :=
  ⟨.warning, "Reconciliation: " ++ Nat.repr count ++ " discrepancies for " ++ quarter⟩

/-
  `reconcile(quarter, calculated, actual_payouts)`: nothing when either
  argument is missing or empty (`if not calculated or not
  actual_payouts: return []`), the discrepancies of the payouts in order
  otherwise, with a warning when there are any.
-/
def reconcile
    (quarter : String)
    (calculated : Option (List ArtistPayout))
    (actualPayouts : Option (PyDict String Decimal)) :
    Logged (List Discrepancy) :=
  match calculated, actualPayouts with
  | some (payout :: payouts), some actual =>
      if actual.entries = [] then ⟨[], .ok []⟩
      else
        match collectDiscrepancies quarter actual (payout :: payouts) with
        | .ok [] => ⟨[], .ok []⟩
        | .ok found => ⟨[reconciliationWarning found.length quarter], .ok found⟩
        | .error e => ⟨[], .error e⟩
  | _, _ => ⟨[], .ok []⟩

end RoyaltyManager

end MusicLabel

------------------------------------------------------------
-- The Per-Payout Rule
------------------------------------------------------------

namespace MusicLabel

namespace RoyaltyManager

/-
  Comparing the actual amount of a payout's artist with its net payout
  raises nothing: neither is a signalling NaN, and the difference of
  unequal amounts does not overflow.
-/
def AmountsCompare
    (actualPayouts : PyDict String Decimal)
    (payout : ArtistPayout) : Prop :=
  ∀ actual, actualPayouts.get? payout.artist = some actual →
    actual.isSignaling = false ∧ payout.netPayout.isSignaling = false ∧
      (¬ Decimal.NumEq actual payout.netPayout →
        ∃ diff, Decimal.sub actual payout.netPayout = .ok diff)

/-
  The rule for one payout: `missing_actual` when its artist has no
  actual amount, nothing when the amounts are equal, and otherwise
  `amount_mismatch` carrying `actual - net_payout`.
-/
def reconcileRule
    (quarter : String)
    (actualPayouts : PyDict String Decimal)
    (payout : ArtistPayout) : Option Discrepancy :=
  match actualPayouts.get? payout.artist with
  | none =>
      some (.missingActual payout.artist quarter payout.netPayout.toSciString)
  | some actual =>
      if Decimal.NumEq actual payout.netPayout then none
      else
        (Decimal.sub actual payout.netPayout).toOption.map fun diff =>
          .amountMismatch payout.artist quarter payout.netPayout.toSciString
            actual.toSciString diff.toSciString

/- The loop body follows the rule when the amounts compare. -/
theorem discrepancyFor_eq
    {quarter : String}
    {actualPayouts : PyDict String Decimal}
    {payout : ArtistPayout}
    (hCompare : AmountsCompare actualPayouts payout) :
    discrepancyFor quarter actualPayouts payout =
      .ok (reconcileRule quarter actualPayouts payout) := by
  unfold discrepancyFor reconcileRule
  cases hGet : actualPayouts.get? payout.artist with
  | none => rfl
  | some actual =>
      obtain ⟨hActual, hNet, hDiff⟩ := hCompare actual hGet
      simp only [Decimal.eq_eq_ok hActual hNet, liftSignal_ok, Except.bind]
      by_cases hEq : Decimal.NumEq actual payout.netPayout
      · simp [hEq]
      · obtain ⟨diff, hSub⟩ := hDiff hEq
        simp [hEq, hSub, Except.map, Except.toOption]

/- The loop reports the payouts by the rule, in order. -/
theorem collectDiscrepancies_eq
    (quarter : String)
    (actualPayouts : PyDict String Decimal)
    (payouts : List ArtistPayout)
    (hCompare : ∀ payout ∈ payouts, AmountsCompare actualPayouts payout) :
    collectDiscrepancies quarter actualPayouts payouts =
      .ok (payouts.filterMap (reconcileRule quarter actualPayouts)) := by
  induction payouts with
  | nil => rfl
  | cons payout payouts ih =>
      simp only [List.forall_mem_cons] at hCompare
      simp only [collectDiscrepancies, discrepancyFor_eq hCompare.1, Except.bind,
        ih hCompare.2, Except.map, List.filterMap_cons]
      cases reconcileRule quarter actualPayouts payout <;> rfl

/- No payout is reported when every artist has an equal actual amount. -/
theorem reconcileRule_eq_none_iff
    {quarter : String}
    {actualPayouts : PyDict String Decimal}
    {payout : ArtistPayout}
    (hCompare : AmountsCompare actualPayouts payout) :
    reconcileRule quarter actualPayouts payout = none ↔
      ∃ actual, actualPayouts.get? payout.artist = some actual ∧
        Decimal.NumEq actual payout.netPayout := by
  unfold reconcileRule
  cases hGet : actualPayouts.get? payout.artist with
  | none => simp
  | some actual =>
      by_cases hEq : Decimal.NumEq actual payout.netPayout
      · simp [hEq]
      · obtain ⟨diff, hSub⟩ := (hCompare actual hGet).2.2 hEq
        simp [hEq, hSub, Except.toOption]

/- A reported record names the artist of its payout. -/
theorem artist_of_reconcileRule
    {quarter : String}
    {actualPayouts : PyDict String Decimal}
    {payout : ArtistPayout}
    {found : Discrepancy}
    (h : reconcileRule quarter actualPayouts payout = some found) :
    found.artist = payout.artist := by
  unfold reconcileRule at h
  split at h
  · cases h
    rfl
  · split at h
    · cases h
    · obtain ⟨diff, -, rfl⟩ := Option.map_eq_some'.mp h
      rfl

end RoyaltyManager

end MusicLabel

------------------------------------------------------------
-- Reconciliation Results
------------------------------------------------------------

namespace MusicLabel

namespace RoyaltyManager

/- With an empty map of actual amounts the guard reports nothing. -/
theorem reconcile_empty_actual
    (quarter : String)
    (calculated : Option (List ArtistPayout))
    (actualPayouts : PyDict String Decimal)
    (hEmpty : actualPayouts.entries = []) :
    reconcile quarter calculated (some actualPayouts) = ⟨[], .ok []⟩ := by
  rcases calculated with _ | _ | ⟨payout, payouts⟩ <;> simp [reconcile, hEmpty]

/- Past the guard, `reconcile` reports the payouts by the rule. -/
theorem reconcile_result_of_nonempty
    (quarter : String)
    (payouts : List ArtistPayout)
    (actualPayouts : PyDict String Decimal)
    (hNonempty : actualPayouts.entries ≠ [])
    (hCompare : ∀ payout ∈ payouts, AmountsCompare actualPayouts payout) :
    (reconcile quarter (some payouts) (some actualPayouts)).result =
      .ok (payouts.filterMap (reconcileRule quarter actualPayouts)) := by
  cases payouts with
  | nil => rfl
  | cons payout rest =>
      simp only [reconcile, hNonempty, ↓reduceIte,
        collectDiscrepancies_eq quarter actualPayouts _ hCompare]
      split <;> simp_all

/-
  What `reconcile` reports. With no actual amounts it reports nothing.
  Otherwise, when no comparison raises, it reports each payout by
  `reconcileRule` in order: `missing_actual` for an artist without an
  actual amount and `amount_mismatch` with the context difference for
  an unequal amount. It then reports nothing exactly when every artist
  has an equal actual amount, and it names no artist that has no payout.
-/
theorem reconcile_result
    (quarter : String)
    (payouts : List ArtistPayout)
    (actualPayouts : PyDict String Decimal)
    (hCompare : ∀ payout ∈ payouts, AmountsCompare actualPayouts payout) :
    (actualPayouts.entries = [] →
      (reconcile quarter (some payouts) (some actualPayouts)).result = .ok []) ∧
    (actualPayouts.entries ≠ [] →
      (reconcile quarter (some payouts) (some actualPayouts)).result =
        .ok (payouts.filterMap (reconcileRule quarter actualPayouts)) ∧
      (payouts.filterMap (reconcileRule quarter actualPayouts) = [] ↔
        ∀ payout ∈ payouts, ∃ actual,
          actualPayouts.get? payout.artist = some actual ∧
            Decimal.NumEq actual payout.netPayout) ∧
      ∀ found ∈ payouts.filterMap (reconcileRule quarter actualPayouts),
        ∃ payout ∈ payouts, found.artist = payout.artist) := by
  refine ⟨fun hEmpty => by rw [reconcile_empty_actual _ _ _ hEmpty],
    fun hNonempty => ⟨reconcile_result_of_nonempty quarter payouts
      actualPayouts hNonempty hCompare, ?_, ?_⟩⟩
  · rw [List.filterMap_eq_nil_iff]
    exact forall₂_congr fun payout hMem =>
      reconcileRule_eq_none_iff (hCompare payout hMem)
  · intro found hFound
    obtain ⟨payout, hMem, hRule⟩ := List.mem_filterMap.mp hFound
    exact ⟨payout, hMem, artist_of_reconcileRule hRule⟩

/- The theorem at one payout whose actual amount matches it. -/
theorem reconcile_result_at_matching_payout :
    let payout : ArtistPayout :=
      ⟨"A", "Q4 2025", .finite false 1 0, .finite false 1 0,
        .finite false 1 (-2), .finite false 0 (-2), .finite false 1 (-2), 0, 0⟩
    let paid := PyDict.empty.set "A" (.finite false 1 (-2))
    (∀ p ∈ [payout], AmountsCompare paid p) ∧
      (reconcile "Q4 2025" (some [payout]) (some paid)).result = .ok [] := by
  intro payout paid
  have hCompare : ∀ p ∈ [payout], AmountsCompare paid p := by
    intro p hp actual hActual
    simp only [List.mem_singleton] at hp
    subst hp
    simp only [paid, PyDict.get?_set, ↓reduceIte, Option.some.injEq] at hActual
    subst hActual
    exact ⟨rfl, rfl, fun hNe => (hNe (by decide)).elim⟩
  refine ⟨hCompare, ?_⟩
  rw [((reconcile_result "Q4 2025" [payout] paid hCompare).2 (by decide)).1]
  decide

/-
  A payout whose artist has no actual amount goes unreported when the
  map of actual amounts is empty, and the reported difference of
  `1E+28` and `0.01` is rounded to 28 digits, not exact.
-/
theorem reconcile_skips_empty_actual_and_rounds_difference :
    let payout : ArtistPayout :=
      ⟨"A", "Q4 2025", .finite false 1 0, .finite false 1 0,
        .finite false 1 (-2), .finite false 0 (-2), .finite false 1 (-2), 0, 0⟩
    (PyDict.empty : PyDict String Decimal).get? "A" = none ∧
      (reconcile "Q4 2025" (some [payout]) (some PyDict.empty)).result = .ok [] ∧
      (reconcile "Q4 2025" (some [payout])
          (some (PyDict.empty.set "A" (.finite false 1 28)))).result =
        .ok [.amountMismatch "A" "Q4 2025" "0.01" "1E+28"
          "1.000000000000000000000000000E+28"] := by
  decide

end RoyaltyManager

end MusicLabel

------------------------------------------------------------
-- Reconciling Computed Payouts
------------------------------------------------------------

namespace MusicLabel

namespace RoyaltyManager

open Decimal

/- The net payout of every payout `calculate` returns is a number. -/
theorem isNaN_netPayout_of_mem_calculate
    {m : RoyaltyManager}
    {quarter : String}
    {artist : Option String}
    {feed : List Row}
    {payouts : List ArtistPayout}
    {payout : ArtistPayout}
    (h : (calculate m quarter artist (some feed)).result = .ok payouts)
    (hPayout : payout ∈ payouts) :
    payout.netPayout.isNaN = false := by
  obtain ⟨-, -, -, -, -, -, hMin, hNet⟩ := payoutSpec_of_mem_calculate m quarter artist feed h hPayout
  obtain ⟨hAdvance, hShare⟩ := pyMin_isNaN hMin
  have hDeducted : payout.advanceDeducted.isNaN = false := by
    rw [pyMin_eq_ok hAdvance hShare, Except.ok.injEq] at hMin
    rw [← hMin]
    split <;> assumption
  exact isNaN_of_sub hShare hDeducted hNet

/-
  Reconciling what `calculate` returned against actual amounts that
  give every payout's artist exactly its net payout reports no
  discrepancy and logs nothing, whatever else the map holds.
-/
theorem reconcile_calculate_exact
    (m : RoyaltyManager)
    (quarter : String)
    (artist : Option String)
    (feed : List Row)
    (payouts : List ArtistPayout)
    (h : (calculate m quarter artist (some feed)).result = .ok payouts)
    (actualPayouts : PyDict String Decimal)
    (hActual : ∀ payout ∈ payouts, actualPayouts.get? payout.artist = some payout.netPayout) :
    reconcile quarter (some payouts) (some actualPayouts) = ⟨[], .ok []⟩ := by
  have hNumber := fun payout (hMem : payout ∈ payouts) => isNaN_netPayout_of_mem_calculate h hMem
  have hCompare : ∀ payout ∈ payouts, AmountsCompare actualPayouts payout := by
    intro payout hMem actual hGet
    rw [hActual payout hMem, Option.some.injEq] at hGet
    subst hGet
    have hSignaling := isSignaling_of_isNaN (hNumber payout hMem)
    exact ⟨hSignaling, hSignaling, fun hNe =>
      (hNe ⟨hNumber payout hMem, hNumber payout hMem, cmp_self (hNumber payout hMem)⟩).elim⟩
  have hNone : payouts.filterMap (reconcileRule quarter actualPayouts) = [] :=
    List.filterMap_eq_nil_iff.mpr fun payout hMem =>
      (reconcileRule_eq_none_iff (hCompare payout hMem)).mpr
        ⟨_, hActual payout hMem, hNumber payout hMem, hNumber payout hMem,
          cmp_self (hNumber payout hMem)⟩
  cases payouts with
  | nil => rfl
  | cons first rest =>
      have hNonempty : actualPayouts.entries ≠ [] := fun hEmpty => by
        have hFirst := hActual first (List.mem_cons_self first rest)
        simp [PyDict.get?, hEmpty, PyDict.lookupEntry] at hFirst
      simp only [reconcile, hNonempty, ↓reduceIte,
        collectDiscrepancies_eq quarter actualPayouts _ hCompare, hNone]

/- The theorem at one artist paid exactly the `7000.00` computed for it. -/
theorem reconcile_calculate_exact_at_paid_artist :
    let m : RoyaltyManager := ⟨PyDict.empty.set "A" (.finite false 7 (-1)), PyDict.empty⟩
    let payout : ArtistPayout :=
      ⟨"A", "Q4 2025", .finite false 1000000 (-2), .finite false 7 (-1),
        .finite false 700000 (-2), .finite false 0 0, .finite false 700000 (-2), 0, 0⟩
    let paid := PyDict.empty.set "A" (.finite false 700000 (-2))
    (calculate m "Q4 2025" none (some [⟨some "A", some (.str "10000.00"), none, none⟩])).result =
        .ok [payout] ∧
      (∀ p ∈ [payout], paid.get? p.artist = some p.netPayout) ∧
      reconcile "Q4 2025" (some [payout]) (some paid) = ⟨[], .ok []⟩ := by
  intro m payout paid
  have h : (calculate m "Q4 2025" none
      (some [⟨some "A", some (.str "10000.00"), none, none⟩])).result = .ok [payout] := by
    decide
  have hPaid : ∀ p ∈ [payout], paid.get? p.artist = some p.netPayout := by
    decide
  exact ⟨h, hPaid, reconcile_calculate_exact m _ none _ [payout] h paid hPaid⟩

end RoyaltyManager

end MusicLabel
