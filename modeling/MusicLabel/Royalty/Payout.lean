import MusicLabel.Royalty.Calculate
import MusicLabel.Python.DecimalValue

/-
  The advance netting of `calculate`: `deducted = min(advance, share)`
  and `net = share - deducted`, as bounds on every payout it returns.

  The deduction is one of its two operands, and the net is the context
  difference, which rounds to 28 digits. With a non-negative advance
  and a non-negative share the deduction lies in `[0, min(advance,
  share)]` and the net in `[0, share]`. Nothing in `set_advance` keeps
  an advance non-negative, and a negative split or refunds make a
  negative share, so the bounds need both conditions.

  Main declarations:
    * `SetterCall`, `RoyaltyManager.reach`
    * `RoyaltyManager.payoutSpec_bounds`
    * `RoyaltyManager.calculate_nets_advance`
-/

------------------------------------------------------------
-- Reachable States
------------------------------------------------------------

namespace MusicLabel

/- A call of the test setters `set_split` and `set_advance`. -/
inductive SetterCall
  | setSplit (artist : String) (splitPct : Value)
  | setAdvance (artist : String) (amount : Value)

namespace RoyaltyManager

/- One setter call; a conversion that raises leaves the caches as they were. -/
def applySetter (m : RoyaltyManager) : SetterCall → RoyaltyManager
  | .setSplit artist splitPct =>
      match setSplit artist splitPct m with
      | .ok _ m' => m'
      | .error _ m' => m'
  | .setAdvance artist amount =>
      match setAdvance artist amount m with
      | .ok _ m' => m'
      | .error _ m' => m'

/- The manager a run of setter calls reaches from empty caches. -/
def reach (calls : List SetterCall) : RoyaltyManager :=
  calls.foldl applySetter empty

end RoyaltyManager

end MusicLabel

------------------------------------------------------------
-- Advance Netting
------------------------------------------------------------

namespace MusicLabel

namespace RoyaltyManager

open Decimal

/- `Decimal("0")` is the zero the bounds are stated against. -/
theorem decimalZero_eq :
    decimalZero = .finite false 0 0 :=
  rfl

/-
  The netting of one payout: the deduction is the smaller of the
  advance and the share (the advance on a tie), the net is their
  context difference, and with a non-negative advance and share both
  stay in range.
-/
theorem payoutSpec_bounds
    {m : RoyaltyManager}
    {quarter : String}
    {rows : List Row}
    {payout : ArtistPayout}
    (hSpec : PayoutSpec m quarter rows payout) :
    let advance := m.advancesCache.getD payout.artist decimalZero
    payout.advanceDeducted =
        (if cmp payout.artistShare advance = .lt then payout.artistShare else advance) ∧
      sub payout.artistShare payout.advanceDeducted = .ok payout.netPayout ∧
      (Le decimalZero advance → Le decimalZero payout.artistShare →
        Le decimalZero payout.advanceDeducted ∧ Le payout.advanceDeducted advance ∧
          Le payout.advanceDeducted payout.artistShare ∧
          Le decimalZero payout.netPayout ∧ Le payout.netPayout payout.artistShare) := by
  dsimp only
  obtain ⟨-, -, -, -, -, ⟨product, -, hQuantize⟩, hMin, hNet⟩ := hSpec
  generalize m.advancesCache.getD payout.artist decimalZero = advance at hMin ⊢
  obtain ⟨hAdvance, hShare⟩ := pyMin_isNaN hMin
  have hDeducted := (pyMin_eq_ok hAdvance hShare).symm.trans hMin
  simp only [Except.ok.injEq] at hDeducted
  refine ⟨hDeducted.symm, hNet, fun hAdvanceNonneg hShareNonneg => ?_⟩
  obtain ⟨s, q, hShareEq, hDigits⟩ :=
    quantize_finite (by decide) (by decide) hQuantize hShare
  rw [← hDeducted] at hNet ⊢
  rw [decimalZero_eq] at hAdvanceNonneg hShareNonneg ⊢
  rw [hShareEq] at hNet hShareNonneg ⊢
  by_cases hLt : cmp (finite s q (-2)) advance = .lt
  · -- the whole share is deducted
    rw [if_pos hLt] at hNet ⊢
    refine ⟨hShareNonneg, le_of_cmp_lt rfl hAdvance hLt, le_refl_of_isNaN rfl,
      sub_bounds hDigits (by decide) hShareNonneg (le_refl_of_isNaN rfl) hNet⟩
  · -- the advance is deducted: it is finite, since `+Infinity` exceeds every share
    rw [if_neg hLt] at hNet ⊢
    have hBelow := le_of_not_cmp_lt (by rfl) hAdvance hLt
    cases advance with
    | nan => simp [isNaN] at hAdvance
    | infinity negative =>
        cases negative
        · simp [Decimal.cmp] at hLt
        · simp [Le, Decimal.cmp, isNaN] at hAdvanceNonneg
    | finite t d f =>
        exact ⟨hAdvanceNonneg, le_refl_of_isNaN rfl, hBelow,
          sub_bounds hDigits (by decide) hAdvanceNonneg hBelow hNet⟩

/-
  The payouts `calculate` returns, from any state of the manager and
  any feed: each deducts `min(advance, share)` (a missing advance read
  as zero), its net is the context difference `share - deducted`, and
  when the advance and the share are not negative, `0 <= deducted <=
  min(advance, share)` and `0 <= net <= share`.
-/
theorem calculate_nets_advance
    (m : RoyaltyManager)
    (quarter : String)
    (artist : Option String)
    (feed : List Row)
    (payouts : List ArtistPayout)
    (h : (calculate m quarter artist (some feed)).result = .ok payouts) :
    ∀ payout ∈ payouts,
      let advance := m.advancesCache.getD payout.artist decimalZero
      payout.advanceDeducted =
          (if cmp payout.artistShare advance = .lt then payout.artistShare else advance) ∧
        sub payout.artistShare payout.advanceDeducted = .ok payout.netPayout ∧
        (Le decimalZero advance → Le decimalZero payout.artistShare →
          Le decimalZero payout.advanceDeducted ∧ Le payout.advanceDeducted advance ∧
            Le payout.advanceDeducted payout.artistShare ∧
            Le decimalZero payout.netPayout ∧ Le payout.netPayout payout.artistShare) :=
  fun _ hPayout => payoutSpec_bounds (payoutSpec_of_mem_calculate m quarter artist feed h hPayout)

/- The theorem at the spec's first scenario: `10000.00` at `0.70` against a `7500.00` advance. -/
theorem calculate_nets_advance_at_first_scenario :
    let m : RoyaltyManager :=
      ⟨PyDict.empty.set "A" (.finite false 7 (-1)),
        PyDict.empty.set "A" (.finite false 750000 (-2))⟩
    let payout : ArtistPayout :=
      ⟨"A", "Q4 2025", .finite false 1000000 (-2), .finite false 7 (-1),
        .finite false 700000 (-2), .finite false 700000 (-2), .finite false 0 (-2), 0, 0⟩
    (calculate m "Q4 2025" none (some [⟨some "A", some (.str "10000.00"), none, none⟩])).result =
        .ok [payout] ∧
      Le decimalZero payout.advanceDeducted ∧ Le payout.netPayout payout.artistShare := by
  intro m payout
  have h : (calculate m "Q4 2025" none
      (some [⟨some "A", some (.str "10000.00"), none, none⟩])).result = .ok [payout] := by
    decide
  obtain ⟨-, -, hBounds⟩ :=
    calculate_nets_advance m "Q4 2025" none _ [payout] h payout (List.mem_singleton_self _)
  have hInRange := hBounds (by decide) (by decide)
  exact ⟨h, hInRange.1, hInRange.2.2.2.2⟩

/-
  Two states reached by the setters: with the advance `-100` the payout
  deducts `-100` and pays `600.00` out of a share of `500.00`; with the
  advance `1e-30` the context difference rounds, and the net equals the
  share although a positive amount was deducted.
-/
set_option maxRecDepth 20000 in
theorem calculate_pays_more_than_share :
    let half := PyFloat.ofBits 0x3fe0000000000000
    let feed : List Row := [⟨some "A", some (.int 1000), none, none⟩]
    (calculate (reach [.setSplit "A" (.float half), .setAdvance "A" (.int (-100))])
        "Q4 2025" none (some feed)).result =
      .ok [⟨"A", "Q4 2025", .finite false 1000 0, .finite false 5 (-1),
        .finite false 50000 (-2), .finite true 100 0, .finite false 60000 (-2), 0, 0⟩] ∧
    (calculate (reach [.setSplit "A" (.float half),
        .setAdvance "A" (.float (PyFloat.ofBits 0x39b4484bfeebc2a0))])
        "Q4 2025" none (some feed)).result =
      .ok [⟨"A", "Q4 2025", .finite false 1000 0, .finite false 5 (-1),
        .finite false 50000 (-2), .finite false 1 (-30),
        .finite false 5000000000000000000000000000 (-25), 0, 0⟩] ∧
    NumEq (.finite false 5000000000000000000000000000 (-25)) (.finite false 50000 (-2)) := by
  decide

end RoyaltyManager

end MusicLabel
