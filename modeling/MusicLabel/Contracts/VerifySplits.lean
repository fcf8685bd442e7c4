import MusicLabel.Contracts.Manager
import MusicLabel.Python.Dict
import MusicLabel.Python.FloatValue

/-
  `ContractManager.verify_splits`: the check of the database's split
  table against the contract registry.

  The loop runs over the registry, not over the database table: every
  contract is checked, once per registration, and an artist that has a
  database split but no contract is never seen. A contract is reported
  when its artist has no database split, or when the float
  `abs(db_pct - split_pct)` exceeds the float `0.001`.

  A split is never beyond the tolerance of itself: `x - x` is `0.0` or
  a NaN, and `0.001 < nan` is false. So a table that agrees with the
  registry is reported clean, whatever its splits.

  On finite splits the float check is the exact gap rounded once to a
  float, against the float nearest `0.001`, which lies just above it.
  So a gap of at most `0.001` is never reported, and one of at least
  `0.001 + 10^-18` always is; a table within `0.001` of every contract
  is reported clean.

  Main declarations:
    * `SplitMismatch`, `ContractManager.verifySplits`
    * `ContractManager.verifySplits_reports_contracts`
    * `ContractManager.verifySplits_of_matching_table`
    * `ContractManager.exceedsTolerance_finite`
    * `ContractManager.mismatchFor_tolerance_boundary`
    * `ContractManager.verifySplits_within_tolerance`
-/

------------------------------------------------------------
-- Split Verification
------------------------------------------------------------

namespace MusicLabel

/- A record of `verify_splits`, with its fractions. -/
inductive SplitMismatch
  | missingInDb (artist : String) (contractSplit : PyFloat)
  | mismatch (artist : String) (contractSplit dbSplit : PyFloat)
  deriving DecidableEq

namespace SplitMismatch

/- The `"type"` field. -/
def type : SplitMismatch → String
  | missingInDb .. => "missing_in_db"
  | mismatch .. => "mismatch"

/- The `"artist"` field. -/
def artist : SplitMismatch → String
  | missingInDb artist _ => artist
  | mismatch artist _ _ => artist

end SplitMismatch

namespace ContractManager

/- The float literal `0.001`. -/
def tolerance : PyFloat :=
  PyFloat.ofDecimal false 1 (-3)

/- `abs(db_pct - contract.split_pct) > 0.001`, in float arithmetic. -/
def exceedsTolerance (dbPct contractPct : PyFloat) : Bool :=
  PyFloat.lt tolerance (PyFloat.abs (PyFloat.sub dbPct contractPct))

/- The loop body of `verify_splits` for one contract. -/
def mismatchFor
    (dbSplits : PyDict String PyFloat)
    (contract : ContractRecord) : Option SplitMismatch :=
  match dbSplits.get? contract.artist with
  | none => some (.missingInDb contract.artist contract.splitPct)
  | some dbPct =>
      if exceedsTolerance dbPct contract.splitPct then
        some (.mismatch contract.artist contract.splitPct dbPct)
      else none

/- The warning `"Split verification: %d mismatches found"`. -/
def verificationWarning (count : Nat) : LogRecord :=
  ⟨.warning, "Split verification: " ++ Nat.repr count ++ " mismatches found"⟩

/-
  `verify_splits(db_splits)`: the loop over `self.contracts`, with a
  missing table read as `{}`.
-/
def verifySplits
    (s : ContractManager)
    (dbSplits : Option (PyDict String PyFloat)) : Logged (List SplitMismatch) :=
  let mismatches := s.records.filterMap (mismatchFor (dbSplits.getD PyDict.empty))
  ⟨if mismatches = [] then [] else [verificationWarning mismatches.length],
    .ok mismatches⟩

end ContractManager

end MusicLabel

------------------------------------------------------------
-- Who Is Reported
------------------------------------------------------------

namespace MusicLabel

namespace ContractManager

/- The loop body reports exactly the flagged contracts. -/
theorem mismatchFor_isSome_iff
    (dbSplits : PyDict String PyFloat)
    (contract : ContractRecord) :
    (mismatchFor dbSplits contract).isSome ↔
      (dbSplits.get? contract.artist = none ∨
        ∃ dbPct, dbSplits.get? contract.artist = some dbPct ∧
          exceedsTolerance dbPct contract.splitPct = true) := by
  unfold mismatchFor
  cases dbSplits.get? contract.artist with
  | none => simp
  | some dbPct => by_cases h : exceedsTolerance dbPct contract.splitPct <;> simp [h]

/- A contract is flagged: no database split, or one beyond the tolerance. -/
def Flagged
    (dbSplits : PyDict String PyFloat)
    (contract : ContractRecord) : Prop :=
  dbSplits.get? contract.artist = none ∨
    ∃ dbPct, dbSplits.get? contract.artist = some dbPct ∧
      exceedsTolerance dbPct contract.splitPct = true

instance
    (dbSplits : PyDict String PyFloat)
    (contract : ContractRecord) :
    Decidable (Flagged dbSplits contract) :=
  decidable_of_iff _ (mismatchFor_isSome_iff dbSplits contract)

/- A record names the artist of the contract it reports. -/
theorem artist_of_mismatchFor
    {dbSplits : PyDict String PyFloat}
    {contract : ContractRecord}
    {found : SplitMismatch}
    (h : mismatchFor dbSplits contract = some found) :
    found.artist = contract.artist := by
  unfold mismatchFor at h
  split at h
  · cases h
    rfl
  · split at h
    · cases h
      rfl
    · cases h

/-
  What `verify_splits` reports: it never raises; its records are, in
  the order of the registry, one for each flagged contract (so an
  artist registered twice is reported twice); and an artist is named
  exactly when one of its contracts is flagged. An artist with a
  database split and no contract is never named.
-/
theorem verifySplits_reports_contracts
    (s : ContractManager)
    (dbSplits : PyDict String PyFloat) :
    (verifySplits s (some dbSplits)).result =
        .ok (s.records.filterMap (mismatchFor dbSplits)) ∧
      (s.records.filter fun contract =>
          decide (Flagged dbSplits contract)).length =
        (s.records.filterMap (mismatchFor dbSplits)).length ∧
      ∀ artist,
        (∃ found ∈ s.records.filterMap (mismatchFor dbSplits),
            found.artist = artist) ↔
          ∃ contract ∈ s.records, contract.artist = artist ∧
            Flagged dbSplits contract := by
  refine ⟨rfl, ?_, fun artist => ⟨?_, ?_⟩⟩
  · rw [List.length_filterMap_eq_countP, List.countP_eq_length_filter]
    congr 2
    funext contract
    exact Bool.eq_iff_iff.mpr
      (by simpa using (mismatchFor_isSome_iff dbSplits contract).symm)
  · rintro ⟨found, hFound, rfl⟩
    obtain ⟨contract, hMem, hReport⟩ := List.mem_filterMap.mp hFound
    exact ⟨contract, hMem, (artist_of_mismatchFor hReport).symm,
      (mismatchFor_isSome_iff dbSplits contract).mp (by simp [hReport])⟩
  · rintro ⟨contract, hMem, rfl, hFlagged⟩
    obtain ⟨found, hReport⟩ := Option.isSome_iff_exists.mp
      ((mismatchFor_isSome_iff dbSplits contract).mpr hFlagged)
    exact ⟨found, List.mem_filterMap.mpr ⟨contract, hMem, hReport⟩,
      artist_of_mismatchFor hReport⟩

/-
  A registry holding one contract for `A` at `0.5`, checked against a
  table that knows only `B`: `A` is reported as missing from the
  database and `B` is not reported.
-/
theorem verifySplits_reports_registry_side :
    let s := (ContractManager.empty "Max").allocate
      { artist := "A", splitPct := PyFloat.ofDecimal false 5 (-1) }
    let dbSplits := PyDict.empty.set "B" (PyFloat.ofDecimal false 5 (-1))
    dbSplits.get? "A" = none ∧ s.firstContract "B" = none ∧
      (verifySplits s (some dbSplits)).result =
        .ok [.missingInDb "A" (PyFloat.ofDecimal false 5 (-1))] := by
  decide

end ContractManager

end MusicLabel

------------------------------------------------------------
-- A Table That Agrees With the Registry
------------------------------------------------------------

namespace MusicLabel

namespace ContractManager

/- The float literal `0.001` is `4611686018427388 * 2^-62`. -/
theorem kind_tolerance :
    tolerance.kind = .finite false 4611686018427388 (-62) := by
  decide

/- A split is never beyond the tolerance of itself, not even a NaN or an infinity. -/
theorem exceedsTolerance_self
    (x : PyFloat) :
    exceedsTolerance x x = false := by
  rw [exceedsTolerance, PyFloat.sub_self]
  split
  · have hZero : (PyFloat.abs (PyFloat.zero false)).kind = .finite false 0 (-1074) := by
      decide
    simp [PyFloat.lt, PyFloat.isNaN, kind_tolerance, hZero, PyFloat.order_finite_zero]
  · have hNaN : (PyFloat.abs PyFloat.nan).isNaN = true := by
      decide
    simp [PyFloat.lt, hNaN]

/-
  Checking the registry against a table that gives every contract's
  artist exactly that contract's split reports nothing and logs
  nothing, whatever the splits are (NaN and infinite ones included).
-/
theorem verifySplits_of_matching_table
    (s : ContractManager)
    (dbSplits : PyDict String PyFloat)
    (hMatch : ∀ contract ∈ s.records, dbSplits.get? contract.artist = some contract.splitPct) :
    verifySplits s (some dbSplits) = ⟨[], .ok []⟩ := by
  have hNone : s.records.filterMap (mismatchFor dbSplits) = [] :=
    List.filterMap_eq_nil_iff.mpr fun contract hMem => by
      simp only [mismatchFor, hMatch contract hMem, exceedsTolerance_self, Bool.false_eq_true,
        ↓reduceIte]
  simp [verifySplits, hNone]

/- The theorem at a registry of one contract for `A` at `0.5`, with the same table. -/
theorem verifySplits_of_matching_table_at_one_contract :
    let s := (ContractManager.empty "Max").allocate
      { artist := "A", splitPct := PyFloat.ofDecimal false 5 (-1) }
    let dbSplits := PyDict.empty.set "A" (PyFloat.ofDecimal false 5 (-1))
    (∀ contract ∈ s.records, dbSplits.get? contract.artist = some contract.splitPct) ∧
      verifySplits s (some dbSplits) = ⟨[], .ok []⟩ := by
  intro s dbSplits
  have hMatch : ∀ contract ∈ s.records,
      dbSplits.get? contract.artist = some contract.splitPct := by
    decide
  exact ⟨hMatch, verifySplits_of_matching_table s dbSplits hMatch⟩

end ContractManager

end MusicLabel

------------------------------------------------------------
-- The Tolerance Boundary
------------------------------------------------------------

namespace MusicLabel

namespace ContractManager

open PyFloat

/-
  On finite splits the check is the exact gap, rounded once to a float,
  against the float nearest `0.001`.
-/
theorem exceedsTolerance_finite
    {a b : PyFloat}
    {s t : Bool}
    {m n : ℕ}
    {e f : ℤ}
    (ha : a.kind = .finite s m e)
    (hb : b.kind = .finite t n f) :
    exceedsTolerance a b =
      decide (Kind.value (.finite false 4611686018427388 (-62)) <
        roundBinary |Kind.value (.finite s m e) - Kind.value (.finite t n f)|) :=
  lt_of_encodes kind_tolerance (by norm_num [Kind.value, Decimal.signed])
    (encodes_abs (kind_sub ha hb))

/- The float `0.001` is `4611686018427388 * 2^-62`, and rounding fixes it and the next float. -/
theorem value_tolerance :
    Kind.value (.finite false 4611686018427388 (-62)) = 4611686018427388 * 2 ^ (-62 : ℤ) ∧
      roundBinary (4611686018427388 * 2 ^ (-62 : ℤ)) = 4611686018427388 * 2 ^ (-62 : ℤ) ∧
      roundBinary (4611686018427389 * 2 ^ (-62 : ℤ)) = 4611686018427389 * 2 ^ (-62 : ℤ) := by
  refine ⟨by simp [Kind.value, Decimal.signed], ?_, ?_⟩
  · exact_mod_cast roundBinary_of_float (m := 4611686018427388) (by norm_num) (by norm_num)
      (by decide)
  · exact_mod_cast roundBinary_of_float (m := 4611686018427389) (by norm_num) (by norm_num)
      (by decide)

/- A gap of at most `1/1000` rounds to at most the float `0.001`. -/
theorem roundBinary_le_tolerance
    {gap : ℚ}
    (hNonneg : 0 ≤ gap)
    (hGap : gap ≤ 1 / 1000) :
    roundBinary gap ≤ Kind.value (.finite false 4611686018427388 (-62)) := by
  obtain ⟨hValue, hTolerance, -⟩ := value_tolerance
  rw [hValue]
  rcases hNonneg.lt_or_eq with hPos | hZero
  · rw [← hTolerance]
    exact roundBinary_mono hPos (hGap.trans (by norm_num))
  · rw [← hZero, roundBinary_zero]
    positivity

/- A gap of at least `1/1000 + 10^-18` rounds to at least the float after `0.001`. -/
theorem tolerance_lt_roundBinary
    {gap : ℚ}
    (hGap : 1 / 1000 + 1 / 10 ^ 18 ≤ gap) :
    Kind.value (.finite false 4611686018427388 (-62)) < roundBinary gap := by
  obtain ⟨hValue, -, hNext⟩ := value_tolerance
  calc Kind.value (.finite false 4611686018427388 (-62))
      < 4611686018427389 * 2 ^ (-62 : ℤ) := by rw [hValue]; norm_num
    _ = roundBinary (4611686018427389 * 2 ^ (-62 : ℤ)) := hNext.symm
    _ ≤ roundBinary gap := roundBinary_mono (by norm_num) (le_trans (by norm_num) hGap)

/- A contract whose finite engine split is within `0.001` of its own is not reported. -/
theorem mismatchFor_of_close
    {dbSplits : PyDict String PyFloat}
    {contract : ContractRecord}
    {dbPct : PyFloat}
    (hDb : dbSplits.get? contract.artist = some dbPct)
    {s t : Bool}
    {m n : ℕ}
    {e f : ℤ}
    (hDbKind : dbPct.kind = .finite s m e)
    (hKind : contract.splitPct.kind = .finite t n f)
    (hGap : |Kind.value (.finite s m e) - Kind.value (.finite t n f)| ≤ 1 / 1000) :
    mismatchFor dbSplits contract = none := by
  have hLe := roundBinary_le_tolerance (abs_nonneg _) hGap
  simp only [mismatchFor, hDb, exceedsTolerance_finite hDbKind hKind,
    decide_eq_false (not_lt.mpr hLe), Bool.false_eq_true, ↓reduceIte]

/- A contract whose finite engine split is `0.001 + 10^-18` or more away is reported. -/
theorem mismatchFor_of_far
    {dbSplits : PyDict String PyFloat}
    {contract : ContractRecord}
    {dbPct : PyFloat}
    (hDb : dbSplits.get? contract.artist = some dbPct)
    {s t : Bool}
    {m n : ℕ}
    {e f : ℤ}
    (hDbKind : dbPct.kind = .finite s m e)
    (hKind : contract.splitPct.kind = .finite t n f)
    (hGap : 1 / 1000 + 1 / 10 ^ 18 ≤ |Kind.value (.finite s m e) - Kind.value (.finite t n f)|) :
    mismatchFor dbSplits contract = some (.mismatch contract.artist contract.splitPct dbPct) := by
  simp only [mismatchFor, hDb, exceedsTolerance_finite hDbKind hKind,
    decide_eq_true (tolerance_lt_roundBinary hGap), ↓reduceIte]

/-
  The tolerance boundary of `verify_splits` for an artist whose engine
  split and contract split are finite floats: a gap of at most `0.001`
  between the numbers they denote is never reported, and a gap of
  `0.001 + 10^-18` or more is always reported as a mismatch.
-/
theorem mismatchFor_tolerance_boundary
    (dbSplits : PyDict String PyFloat)
    (contract : ContractRecord)
    {dbPct : PyFloat}
    (hDb : dbSplits.get? contract.artist = some dbPct)
    {s t : Bool}
    {m n : ℕ}
    {e f : ℤ}
    (hDbKind : dbPct.kind = .finite s m e)
    (hKind : contract.splitPct.kind = .finite t n f) :
    (|Kind.value (.finite s m e) - Kind.value (.finite t n f)| ≤ 1 / 1000 →
        mismatchFor dbSplits contract = none) ∧
      (1 / 1000 + 1 / 10 ^ 18 ≤ |Kind.value (.finite s m e) - Kind.value (.finite t n f)| →
        mismatchFor dbSplits contract =
          some (.mismatch contract.artist contract.splitPct dbPct)) :=
  ⟨mismatchFor_of_close hDb hDbKind hKind, mismatchFor_of_far hDb hDbKind hKind⟩

/-
  The theorem at the splits `0.6` and `0.65` (a five-point gap, reported)
  and at `0.6` and `0.6005` (a gap of `0.0005`, not reported).
-/
theorem mismatchFor_tolerance_boundary_at_spec_gaps :
    let dbSplits := PyDict.empty.set "A" (PyFloat.ofDecimal false 6 (-1))
    let wide : ContractRecord := { artist := "A", splitPct := PyFloat.ofDecimal false 65 (-2) }
    let close : ContractRecord := { artist := "A", splitPct := PyFloat.ofDecimal false 6005 (-4) }
    mismatchFor dbSplits wide =
        some (.mismatch "A" wide.splitPct (PyFloat.ofDecimal false 6 (-1))) ∧
      mismatchFor dbSplits close = none := by
  intro dbSplits wide close
  have hDb : dbSplits.get? "A" = some (PyFloat.ofDecimal false 6 (-1)) := by decide
  have hSix : (PyFloat.ofDecimal false 6 (-1)).kind = .finite false 5404319552844595 (-53) := by
    decide
  have hWide : wide.splitPct.kind = .finite false 5854679515581645 (-53) := by
    decide
  have hClose : close.splitPct.kind = .finite false 5408823152471966 (-53) := by
    decide
  exact ⟨(mismatchFor_tolerance_boundary dbSplits wide hDb hSix hWide).2
      (by norm_num [Kind.value, Decimal.signed, abs_div]),
    (mismatchFor_tolerance_boundary dbSplits close hDb hSix hClose).1
      (by norm_num [Kind.value, Decimal.signed, abs_div])⟩

/-
  A table that gives every contract's artist a finite split within
  `0.001` of that contract's finite split makes `verify_splits` report
  nothing and log nothing: the float noise the tolerance absorbs.
-/
theorem verifySplits_within_tolerance
    (s : ContractManager)
    (dbSplits : PyDict String PyFloat)
    (hClose : ∀ contract ∈ s.records, ∃ dbPct negative m e negative' n f,
      dbSplits.get? contract.artist = some dbPct ∧
        dbPct.kind = .finite negative m e ∧
        contract.splitPct.kind = .finite negative' n f ∧
        |Kind.value (.finite negative m e) - Kind.value (.finite negative' n f)| ≤ 1 / 1000) :
    verifySplits s (some dbSplits) = ⟨[], .ok []⟩ := by
  have hNone : s.records.filterMap (mismatchFor dbSplits) = [] :=
    List.filterMap_eq_nil_iff.mpr fun contract hMem => by
      obtain ⟨_, _, _, _, _, _, _, hDb, hDbKind, hKind, hGap⟩ := hClose contract hMem
      exact mismatchFor_of_close hDb hDbKind hKind hGap
  simp [verifySplits, hNone]

/-
  The theorem at a registry of `A` at `0.6` and `B` at `0.3`, against a
  table of `A` at `0.6005` and `B` at `0.3`.
-/
theorem verifySplits_within_tolerance_at_two_contracts :
    let s := ((ContractManager.empty "Max").allocate
        { artist := "A", splitPct := PyFloat.ofDecimal false 6 (-1) }).allocate
      { artist := "B", splitPct := PyFloat.ofDecimal false 3 (-1) }
    let dbSplits := (PyDict.empty.set "A" (PyFloat.ofDecimal false 6005 (-4))).set "B"
      (PyFloat.ofDecimal false 3 (-1))
    (∀ contract ∈ s.records, ∃ dbPct negative m e negative' n f,
      dbSplits.get? contract.artist = some dbPct ∧
        dbPct.kind = .finite negative m e ∧
        contract.splitPct.kind = .finite negative' n f ∧
        |Kind.value (.finite negative m e) - Kind.value (.finite negative' n f)| ≤ 1 / 1000) ∧
      verifySplits s (some dbSplits) = ⟨[], .ok []⟩ := by
  intro s dbSplits
  have hRecords : s.records =
      [{ artist := "A", splitPct := PyFloat.ofDecimal false 6 (-1) },
        { artist := "B", splitPct := PyFloat.ofDecimal false 3 (-1) }] := by
    decide
  have hClose : ∀ contract ∈ s.records, ∃ dbPct negative m e negative' n f,
      dbSplits.get? contract.artist = some dbPct ∧
        dbPct.kind = .finite negative m e ∧
        contract.splitPct.kind = .finite negative' n f ∧
        |Kind.value (.finite negative m e) - Kind.value (.finite negative' n f)| ≤ 1 / 1000 := by
    rw [hRecords]
    intro contract hMem
    simp only [List.mem_cons, List.mem_singleton, List.not_mem_nil, or_false] at hMem
    rcases hMem with rfl | rfl
    · refine ⟨PyFloat.ofDecimal false 6005 (-4), false, 5408823152471966, -53, false,
        5404319552844595, -53, by decide,
        by decide, by decide, ?_⟩
      norm_num [Kind.value, Decimal.signed, abs_div]
    · refine ⟨PyFloat.ofDecimal false 3 (-1), false, 5404319552844595, -54, false,
        5404319552844595, -54, by decide,
        by decide, by decide, ?_⟩
      norm_num [Kind.value, Decimal.signed]
  exact ⟨hClose, verifySplits_within_tolerance s dbSplits hClose⟩

end ContractManager

end MusicLabel
