import MusicLabel.Royalty.Grouping

/-
  What `calculate` returns, for every feed: one payout for each artist
  of the feed the filter keeps and the split table knows, in the order
  of the artist's first row, each computed from that artist's rows
  alone; or an exception, when some artist's computation raises.

  The artist's computation sums its rows in the decimal context, one
  `+=` at a time; applies the split (a context product, then a
  `ROUND_HALF_UP` quantize to the cent); and nets the advance.

  Correctness is proven by:
    * `accumulate_eq_ok`: the inner loop, field by field
    * `payoutFor_eq_ok_none`, `payoutSpec_of_payoutFor`: one artist
    * `collectPayouts_result`: the second loop
    * `calculate_eq`, `calculate_payouts`: the whole call
    * `calculate_without_artist`: the call with one artist's rows removed

  Main declarations:
    * `RoyaltyManager.contextSum`, `RoyaltyManager.trackNames`
    * `RoyaltyManager.PayoutSpec`
    * `RoyaltyManager.calculate_payouts`
-/

------------------------------------------------------------
-- One Artist
------------------------------------------------------------

namespace MusicLabel

namespace RoyaltyManager

/- `gross += amount` over a list of amounts, in the decimal context. -/
def contextSum : Decimal → List Decimal → Except PyError Decimal
  | gross, [] => .ok gross
  | gross, amount :: amounts =>
      (liftSignal (Decimal.add gross amount)).bind fun gross => contextSum gross amounts

/- The non-empty track names of some rows, in order. -/
def trackNames (rows : List Row) : List String :=
  (rows.filterMap Row.track).filter fun track => track ≠ ""

/-
  The payout of an artist with rows `rows`, as `calculate` computes it:
  the context sum of the amounts from `Decimal("0")`, the sum of
  `int(streams)`, the number of distinct non-empty tracks, the split of
  the table, the share `(gross * split).quantize(Decimal("0.01"),
  ROUND_HALF_UP)`, the deduction `min(advance, share)` with a missing
  advance read as zero, and the context difference of the two.
-/
def PayoutSpec
    (m : RoyaltyManager)
    (quarter : String)
    (rows : List Row)
    (payout : ArtistPayout) : Prop :=
  payout.quarter = quarter ∧
  (∃ amounts, rows.mapM Row.amount = .ok amounts ∧
    contextSum decimalZero amounts = .ok payout.grossRevenue) ∧
  (∃ counts, rows.mapM Row.streamCount = .ok counts ∧
    payout.streamsCount = counts.sum) ∧
  payout.tracksCount = (trackNames rows).dedup.length ∧
  m.splitsCache.get? payout.artist = some payout.splitPct ∧
  (∃ product, Decimal.mul payout.grossRevenue payout.splitPct = .ok product ∧
    Decimal.quantize product cent .halfUp = .ok payout.artistShare) ∧
  Decimal.pyMin (m.advancesCache.getD payout.artist decimalZero) payout.artistShare =
    .ok payout.advanceDeducted ∧
  Decimal.sub payout.artistShare payout.advanceDeducted = .ok payout.netPayout

theorem foldl_appendKey_trackNames_cons
    (row : Row)
    (rows : List Row)
    (tracks : List String) :
    (trackNames (row :: rows)).foldl appendKey tracks =
      (trackNames rows).foldl appendKey (addTrack tracks row.track) := by
  unfold trackNames
  cases hTrack : row.track with
  | none => simp [hTrack, addTrack]
  | some track =>
      by_cases hEmpty : track = ""
      · simp [hTrack, hEmpty, addTrack]
      · by_cases hMem : track ∈ tracks <;>
          simp [hTrack, hEmpty, hMem, addTrack, appendKey]

/- The inner loop, field by field: amounts, streams and tracks. -/
theorem accumulate_eq_ok
    {totals totals' : Totals}
    {rows : List Row}
    (h : accumulate totals rows = .ok totals') :
    ∃ amounts counts, rows.mapM Row.amount = .ok amounts ∧
      rows.mapM Row.streamCount = .ok counts ∧
      contextSum totals.gross amounts = .ok totals'.gross ∧
      totals'.streams = totals.streams + counts.sum ∧
      totals'.tracks = (trackNames rows).foldl appendKey totals.tracks := by
  induction rows generalizing totals with
  | nil =>
      cases h
      exact ⟨[], [], rfl, rfl, rfl, by simp, rfl⟩
  | cons row rows ih =>
      obtain ⟨next, hRow, hRest⟩ := bind_eq_ok.mp h
      obtain ⟨amount, hAmount, hRow⟩ := bind_eq_ok.mp hRow
      obtain ⟨gross, hGross, hRow⟩ := bind_eq_ok.mp hRow
      obtain ⟨count, hCount, hRow⟩ := bind_eq_ok.mp hRow
      cases hRow
      obtain ⟨amounts, counts, hAmounts, hCounts, hSum, hStreams, hTracks⟩ := ih hRest
      refine ⟨amount :: amounts, count :: counts, ?_, ?_, ?_, ?_, ?_⟩
      · rw [List.mapM_cons, hAmount, hAmounts]
        rfl
      · rw [List.mapM_cons, hCount, hCounts]
        rfl
      · simpa [contextSum, hGross, Except.bind] using hSum
      · rw [hStreams, List.sum_cons]
        simp only [Int.add_assoc]
      · rw [hTracks, foldl_appendKey_trackNames_cons]

/- The split is the only thing whose absence `calculate` forgives. -/
theorem applySplit_eq_royaltyCalculation
    {m : RoyaltyManager}
    {revenue : Decimal}
    {artist message : String}
    (h : m.applySplit revenue artist = .error (.royaltyCalculation message)) :
    m.splitsCache.get? artist = none := by
  unfold applySplit at h
  cases hSplit : m.splitsCache.get? artist with
  | none => rfl
  | some splitPct =>
      rw [hSplit] at h
      cases hShare : (Decimal.mul revenue splitPct).bind
          (fun product => Decimal.quantize product cent .halfUp) <;>
        simp [hShare, liftSignal] at h

variable {m : RoyaltyManager} {quarter artist : String} {rows : List Row}

/- An artist is skipped exactly when its rows sum and it has no split. -/
theorem payoutFor_eq_ok_none :
    payoutFor m quarter artist rows = .ok none ↔
      (∃ totals, accumulate Totals.init rows = .ok totals) ∧
        m.splitsCache.get? artist = none := by
  constructor
  · intro h
    obtain ⟨totals, hTotals, hSkip⟩ := bind_eq_ok.mp h
    refine ⟨⟨totals, hTotals⟩, ?_⟩
    split at hSkip
    · exact applySplit_eq_royaltyCalculation ‹_›
    · cases hSkip
    · cases hPayout : buildPayout m quarter artist totals ‹_› <;>
        simp [hPayout, Except.map] at hSkip
  · rintro ⟨⟨totals, hTotals⟩, hSplit⟩
    simp [payoutFor, hTotals, Except.bind, applySplit, hSplit]

/- A payout of one artist meets the specification. -/
theorem payoutSpec_of_payoutFor
    {payout : ArtistPayout}
    (h : payoutFor m quarter artist rows = .ok (some payout)) :
    payout.artist = artist ∧ PayoutSpec m quarter rows payout := by
  obtain ⟨totals, hTotals, hPayout⟩ := bind_eq_ok.mp h
  obtain ⟨amounts, counts, hAmounts, hCounts, hSum, hStreams, hTracks⟩ :=
    accumulate_eq_ok hTotals
  split at hPayout
  · cases hPayout
  · cases hPayout
  · rename_i artistShare hShare
    cases hBuild : buildPayout m quarter artist totals artistShare with
    | error e => simp [hBuild, Except.map] at hPayout
    | ok built =>
        simp only [hBuild, Except.map, Except.ok.injEq, Option.some.injEq] at hPayout
        subst hPayout
        obtain ⟨deducted, hDeducted, hNet⟩ := bind_eq_ok.mp hBuild
        cases hSub : Decimal.sub artistShare deducted with
        | error e => simp [hSub, Except.map] at hNet
        | ok net =>
            simp only [hSub, liftSignal_ok, Except.map, Except.ok.injEq] at hNet
            subst hNet
            unfold applySplit at hShare
            cases hSplit : m.splitsCache.get? artist with
            | none => simp [hSplit] at hShare
            | some splitPct =>
                obtain ⟨product, hProduct, hQuantize⟩ :=
                  bind_eq_ok.mp (liftSignal_eq_ok.mp (by simpa [hSplit] using hShare))
                refine ⟨rfl, rfl, ⟨amounts, hAmounts, hSum⟩, ⟨counts, hCounts, ?_⟩, ?_,
                  by simp [hSplit, PyDict.getD], ⟨product, ?_, hQuantize⟩,
                  liftSignal_eq_ok.mp hDeducted, hSub⟩
                · simpa [Totals.init] using hStreams
                · rw [hTracks]
                  exact length_firstOccurrences _
                · simpa [PyDict.getD, hSplit] using hProduct

/- A group whose computation returns gives a payout exactly with a split. -/
theorem isSome_payout_iff
    {found : Option ArtistPayout}
    (h : payoutFor m quarter artist rows = .ok found) :
    found.isSome ↔ (m.splitsCache.get? artist).isSome := by
  cases found with
  | none =>
      simp [(payoutFor_eq_ok_none.mp h).2]
  | some payout =>
      obtain ⟨hArtist, -, -, -, -, hSplit, -⟩ := payoutSpec_of_payoutFor h
      simp [← hArtist, hSplit]

end RoyaltyManager

end MusicLabel

------------------------------------------------------------
-- The Second Loop
------------------------------------------------------------

namespace MusicLabel

namespace RoyaltyManager

/- The payout a group contributes when its computation returns. -/
def payoutOf
    (m : RoyaltyManager)
    (quarter : String)
    (group : String × List Row) : Option ArtistPayout :=
  match payoutFor m quarter group.1 group.2 with
  | .ok found => found
  | .error _ => none

/- The computation of a group raises nothing. -/
def GroupReturns
    (m : RoyaltyManager)
    (quarter : String)
    (group : String × List Row) : Prop :=
  ∃ found, payoutFor m quarter group.1 group.2 = .ok found

variable (m : RoyaltyManager) (quarter : String)

/-
  The second loop returns exactly when no group raises, and then with
  the payouts of the groups in order, having logged one warning for
  each group without a payout.
-/
theorem collectPayouts_result
    (groups : List (String × List Row))
    (payouts : List ArtistPayout) :
    (collectPayouts m quarter groups).result = .ok payouts ↔
      (∀ group ∈ groups, GroupReturns m quarter group) ∧
        payouts = groups.filterMap (payoutOf m quarter) := by
  induction groups generalizing payouts with
  | nil => simp [collectPayouts, eq_comm]
  | cons group groups ih =>
      obtain ⟨artist, rows⟩ := group
      cases hGroup : payoutFor m quarter artist rows with
      | error e =>
          simp [collectPayouts, hGroup, GroupReturns]
      | ok found =>
          have hReturns : GroupReturns m quarter (artist, rows) := ⟨found, hGroup⟩
          cases found with
          | none =>
              simp [collectPayouts, hGroup, ih, hReturns, payoutOf]
          | some payout =>
              simp only [collectPayouts, hGroup, List.forall_mem_cons, hReturns, true_and,
                List.filterMap_cons, payoutOf]
              cases hRest : (collectPayouts m quarter groups).result with
              | error e =>
                  simp only [Except.map, reduceCtorEq, false_iff, not_and]
                  intro hAll hEq
                  exact absurd ((ih _).mpr ⟨hAll, rfl⟩) (by simp [hRest])
              | ok rest =>
                  have hIh := (ih rest).mp hRest
                  simp only [Except.map, Except.ok.injEq]
                  constructor
                  · rintro rfl
                    exact ⟨hIh.1, by rw [hIh.2]⟩
                  · rintro ⟨-, rfl⟩
                    rw [hIh.2]

variable {m quarter}

theorem payoutOf_eq_some
    {group : String × List Row}
    {payout : ArtistPayout} :
    payoutOf m quarter group = some payout ↔
      payoutFor m quarter group.1 group.2 = .ok (some payout) := by
  unfold payoutOf
  split <;> simp_all

/- A group yields at most the payout of its own artist. -/
theorem artist_of_payoutOf
    {a : String}
    {rows : List Row}
    {payout : ArtistPayout}
    (h : payoutOf m quarter (a, rows) = some payout) :
    payout.artist = a :=
  (payoutSpec_of_payoutFor (payoutOf_eq_some.mp h)).1

/- A returning group yields a payout exactly when its artist has a split. -/
theorem map_artist_payoutOf
    {a : String}
    {rows : List Row}
    (hReturns : GroupReturns m quarter (a, rows)) :
    (payoutOf m quarter (a, rows)).map (·.artist) =
      if (m.splitsCache.get? a).isSome then some a else none := by
  obtain ⟨found, hGroup⟩ := hReturns
  have hSome := isSome_payout_iff hGroup
  have hOf : payoutOf m quarter (a, rows) = found := by simp [payoutOf, hGroup]
  cases found with
  | none => simp_all
  | some payout =>
      simp only [Option.isSome_some, true_iff] at hSome
      simp [hOf, hSome, artist_of_payoutOf (hOf.trans rfl)]

/- A returning group is skipped exactly when its artist has no split. -/
theorem payoutOf_eq_none_iff
    {a : String}
    {rows : List Row}
    (hReturns : GroupReturns m quarter (a, rows)) :
    payoutOf m quarter (a, rows) = none ↔ (m.splitsCache.get? a).isNone := by
  rw [← Option.map_eq_none', map_artist_payoutOf hReturns]
  cases m.splitsCache.get? a <;> simp

variable (m quarter)

/- The log of a returning second loop: a warning for each skipped group. -/
theorem collectPayouts_log
    (groups : List (String × List Row))
    (hReturns : ∀ group ∈ groups, GroupReturns m quarter group) :
    (collectPayouts m quarter groups).log =
      (groups.filter fun group => payoutOf m quarter group = none).map
        fun group => noSplitWarning group.1 := by
  induction groups with
  | nil => rfl
  | cons group groups ih =>
      obtain ⟨artist, rows⟩ := group
      simp only [List.forall_mem_cons] at hReturns
      obtain ⟨found, hGroup⟩ := hReturns.1
      cases found <;> simp [collectPayouts, hGroup, ih hReturns.2, payoutOf, List.filter_cons]

end RoyaltyManager

end MusicLabel

------------------------------------------------------------
-- The Whole Call
------------------------------------------------------------

namespace MusicLabel

namespace RoyaltyManager

variable (m : RoyaltyManager) (quarter : String) (artist : Option String) (feed : List Row)

/- `calculate` returns what its second loop returns over the groups. -/
theorem calculate_result_eq :
    (calculate m quarter artist (some feed)).result =
      (collectPayouts m quarter
        ((groupKeys artist feed).map fun a => (a, rowsOf artist feed a))).result := by
  simp only [calculate, Option.getD_some, groupByArtist_entries]
  split <;> simp_all

/- A returning `calculate` logs what its second loop logged, then its count. -/
theorem calculate_log
    {payouts : List ArtistPayout}
    (h : (calculate m quarter artist (some feed)).result = .ok payouts) :
    (calculate m quarter artist (some feed)).log =
      (collectPayouts m quarter
          ((groupKeys artist feed).map fun a => (a, rowsOf artist feed a))).log ++
        [calculatedInfo quarter payouts.length] := by
  simp only [calculate, Option.getD_some, groupByArtist_entries] at h ⊢
  split at h <;> simp_all

/- `calculate` over the groups of the feed. -/
theorem calculate_eq
    (payouts : List ArtistPayout) :
    (calculate m quarter artist (some feed)).result = .ok payouts ↔
      (∀ a ∈ groupKeys artist feed, GroupReturns m quarter (a, rowsOf artist feed a)) ∧
        payouts = (groupKeys artist feed).filterMap fun a =>
          payoutOf m quarter (a, rowsOf artist feed a) := by
  rw [calculate_result_eq, collectPayouts_result, List.forall_mem_map, List.filterMap_map]
  rfl

/- `calculate` returns at most one payout for each artist. -/
theorem nodup_artist_calculate
    {payouts : List ArtistPayout}
    (h : (calculate m quarter artist (some feed)).result = .ok payouts) :
    (payouts.map ArtistPayout.artist).Nodup := by
  obtain ⟨hReturns, rfl⟩ := (calculate_eq m quarter artist feed payouts).mp h
  rw [List.map_filterMap, List.filterMap_congr fun a hMem => map_artist_payoutOf (hReturns a hMem)]
  refine (nodup_foldl_appendKey _ List.nodup_nil).filterMap fun a a' b ha ha' => ?_
  split at ha <;> split at ha' <;> simp_all

/- Every payout `calculate` returns is computed from its artist's rows. -/
theorem payoutSpec_of_mem_calculate
    {payouts : List ArtistPayout}
    {payout : ArtistPayout}
    (h : (calculate m quarter artist (some feed)).result = .ok payouts)
    (hPayout : payout ∈ payouts) :
    PayoutSpec m quarter (rowsOf artist feed payout.artist) payout := by
  obtain ⟨-, rfl⟩ := (calculate_eq m quarter artist feed payouts).mp h
  obtain ⟨a, -, hOf⟩ := List.mem_filterMap.mp hPayout
  obtain ⟨hArtist, hSpec⟩ := payoutSpec_of_payoutFor (payoutOf_eq_some.mp hOf)
  rw [hArtist]
  exact hSpec

/-
  What `calculate` returns for a feed. It returns normally exactly when
  no artist's computation raises. It then returns one payout for each
  artist key of the rows the filter keeps that has a split, in the order
  of the key's first row; it logs one warning for each such key without
  a split, then the closing record; and each payout is computed from its
  artist's rows alone, as `PayoutSpec` says: the amounts summed one `+=`
  at a time in the 28-digit context, the context product with the split
  quantized to the cent, the advance netted in the context.
-/
theorem calculate_payouts :
    ((∃ payouts, (calculate m quarter artist (some feed)).result = .ok payouts) ↔
      ∀ a ∈ groupKeys artist feed,
        ∃ found, payoutFor m quarter a (rowsOf artist feed a) = .ok found) ∧
    ∀ payouts, (calculate m quarter artist (some feed)).result = .ok payouts →
      payouts.map (·.artist) =
        (groupKeys artist feed).filter (fun a => (m.splitsCache.get? a).isSome) ∧
      (calculate m quarter artist (some feed)).log =
        ((groupKeys artist feed).filter fun a => (m.splitsCache.get? a).isNone).map
            noSplitWarning ++
          [calculatedInfo quarter payouts.length] ∧
      ∀ payout ∈ payouts, PayoutSpec m quarter (rowsOf artist feed payout.artist) payout := by
  refine ⟨⟨fun ⟨payouts, h⟩ => ((calculate_eq m quarter artist feed payouts).mp h).1,
    fun hAll => ⟨_, (calculate_eq m quarter artist feed _).mpr ⟨hAll, rfl⟩⟩⟩, ?_⟩
  intro payouts h
  obtain ⟨hAll, rfl⟩ := (calculate_eq m quarter artist feed payouts).mp h
  refine ⟨?_, ?_, ?_⟩
  · -- one payout per key with a split, in key order
    rw [List.map_filterMap, List.filterMap_congr fun a ha => map_artist_payoutOf (hAll a ha)]
    exact congrFun (List.filterMap_eq_filter _) _
  · -- the warnings of the skipped keys, then the closing record
    have hGroups : ∀ group ∈ (groupKeys artist feed).map fun a => (a, rowsOf artist feed a),
        GroupReturns m quarter group := by
      simpa using hAll
    rw [calculate_log m quarter artist feed h, collectPayouts_log m quarter _ hGroups,
      List.filter_map, List.map_map]
    congr 1
    exact congrArg _ (List.filter_congr fun a ha => Bool.eq_iff_iff.mpr (by
      simpa using payoutOf_eq_none_iff (hAll a ha)))
  · -- each payout from its own rows
    exact fun payout => payoutSpec_of_mem_calculate m quarter artist feed h

/-
  A feed whose amounts `0.1` and `1E-30` sum to a gross rounded to 28
  digits, and a gross whose product with the split `0.045` is rounded
  to 28 digits before the quantize: the exact product is below half a
  cent, yet the share is a whole cent.
-/
theorem calculate_rounds_gross_and_share :
    let oneDigit : RoyaltyManager := ⟨PyDict.empty.set "A" (.finite false 1 0), PyDict.empty⟩
    let splitRate : RoyaltyManager := ⟨PyDict.empty.set "A" (.finite false 45 (-3)), PyDict.empty⟩
    ((calculate oneDigit "Q4 2025" none (some
        [⟨some "A", some (.str "0.1"), none, none⟩,
          ⟨some "A", some (.str "1E-30"), none, none⟩])).result.toOption.map
        (·.map (·.grossRevenue)) =
      some [.finite false 1000000000000000000000000000 (-28)] ∧
      Decimal.cmp (.finite false 1000000000000000000000000000 (-28))
        (.finite false 100000000000000000000000000001 (-30)) = .lt) ∧
    ((calculate splitRate "Q4 2025" none (some
        [⟨some "A", some (.str "0.1111111111111111111111111111"), none, none⟩])).result.toOption.map
        (·.map (·.artistShare)) =
      some [.finite false 1 (-2)] ∧
      1111111111111111111111111111 * 45 = 49999999999999999999999999995 ∧
      Decimal.cmp (.finite false 49999999999999999999999999995 (-31))
        (.finite false 5 (-3)) = .lt) := by
  decide

end RoyaltyManager

end MusicLabel

------------------------------------------------------------
-- Removing One Artist
------------------------------------------------------------

namespace MusicLabel

namespace RoyaltyManager

variable (m : RoyaltyManager) (quarter : String) (artist : Option String) (feed : List Row)

/-
  `calculate` with and without the rows of one artist `b`. When the
  feed without them returns `payouts'`, the whole feed returns normally
  exactly when the computation of `b` raises nothing, and then its
  payouts for the other artists are `payouts'`, in the same order.
-/
theorem calculate_without_artist
    (b : String)
    (payouts' : List ArtistPayout)
    (h' : (calculate m quarter artist
      (some (feed.filter fun row => row.key ≠ b))).result = .ok payouts') :
    ((∃ payouts, (calculate m quarter artist (some feed)).result = .ok payouts) ↔
      (b ∈ groupKeys artist feed →
        ∃ found, payoutFor m quarter b (rowsOf artist feed b) = .ok found)) ∧
    ∀ payouts, (calculate m quarter artist (some feed)).result = .ok payouts →
      payouts.filter (fun payout => payout.artist ≠ b) = payouts' := by
  obtain ⟨hOthers, rfl⟩ := (calculate_eq m quarter artist _ payouts').mp h'
  rw [groupKeys_filter] at hOthers ⊢
  have hOthers : ∀ a ∈ groupKeys artist feed, a ≠ b →
      GroupReturns m quarter (a, rowsOf artist feed a) := fun a ha hab => by
    have hReturns := hOthers a (List.mem_filter.mpr ⟨ha, by simpa using hab⟩)
    rwa [rowsOf_filter artist feed hab] at hReturns
  refine ⟨⟨fun ⟨payouts, h⟩ hb => ((calculate_eq m quarter artist feed payouts).mp h).1 b hb,
    fun hb => ⟨_, (calculate_eq m quarter artist feed _).mpr ⟨fun a ha => ?_, rfl⟩⟩⟩, ?_⟩
  · by_cases hab : a = b
    · subst hab
      exact hb ha
    · exact hOthers a ha hab
  · intro payouts h
    obtain ⟨-, rfl⟩ := (calculate_eq m quarter artist feed payouts).mp h
    rw [List.filter_filterMap, List.filterMap_filter]
    refine List.filterMap_congr fun a _ => ?_
    by_cases hab : a = b
    · subst hab
      cases hOf : payoutOf m quarter (a, rowsOf artist feed a) with
      | none => simp
      | some payout => simp [artist_of_payoutOf hOf]
    · rw [rowsOf_filter artist feed hab]
      cases hOf : payoutOf m quarter (a, rowsOf artist feed a) with
      | none => simp [hab, hOf]
      | some payout => simp [hab, hOf, artist_of_payoutOf hOf]

/-
  A feed where artist `B` has a row with a null revenue: without `B`
  the feed returns normally, and with it the whole batch raises
  `InvalidOperation` from `Decimal("None")`.
-/
theorem calculate_fails_on_null_revenue :
    let splits : RoyaltyManager :=
      ⟨(PyDict.empty.set "A" (.finite false 5 (-1))).set "B" (.finite false 5 (-1)), PyDict.empty⟩
    let feed : List Row :=
      [⟨some "B", some .none, none, none⟩, ⟨some "A", some (.int 100), none, none⟩]
    (calculate splits "Q4 2025" none (some (feed.filter fun row => row.key ≠ "B"))).result.toBool =
        true ∧
      (calculate splits "Q4 2025" none (some feed)).result = .error (.decimal .invalidOperation) := by
  decide

/- The theorem at a feed where `B`, without a split, is only skipped. -/
theorem calculate_without_artist_at_skipped_artist :
    let splits : RoyaltyManager := ⟨PyDict.empty.set "A" (.finite false 5 (-1)), PyDict.empty⟩
    let feed : List Row :=
      [⟨some "A", some (.int 100), none, none⟩, ⟨some "B", some (.int 7), none, none⟩]
    let payoutA : ArtistPayout :=
      ⟨"A", "Q4 2025", .finite false 100 0, .finite false 5 (-1), .finite false 5000 (-2),
        .finite false 0 0, .finite false 5000 (-2), 0, 0⟩
    (calculate splits "Q4 2025" none (some (feed.filter fun row => row.key ≠ "B"))).result =
        .ok [payoutA] ∧
      ∀ payouts, (calculate splits "Q4 2025" none (some feed)).result = .ok payouts →
        payouts.filter (fun payout => payout.artist ≠ "B") = [payoutA] := by
  intro splits feed payoutA
  have h' : (calculate splits "Q4 2025" none
      (some (feed.filter fun row => row.key ≠ "B"))).result = .ok [payoutA] := by
    decide
  exact ⟨h', (calculate_without_artist splits "Q4 2025" none feed "B" _ h').2⟩

end RoyaltyManager

end MusicLabel

------------------------------------------------------------
-- The Artist Filter
------------------------------------------------------------

namespace MusicLabel

namespace RoyaltyManager

variable (m : RoyaltyManager) (quarter : String) (feed : List Row)

/-
  The artist filter of `calculate` only selects. When the call without
  a filter returns, the call filtered to a non-empty name `a` returns
  exactly the payouts of the unfiltered call whose artist is `a` (none,
  or the one payout of `a`).
-/
theorem calculate_filtered
    {a : String}
    (ha : a ≠ "")
    (payouts : List ArtistPayout)
    (h : (calculate m quarter none (some feed)).result = .ok payouts) :
    (calculate m quarter (some a) (some feed)).result =
      .ok (payouts.filter fun payout => payout.artist = a) := by
  obtain ⟨hReturns, rfl⟩ := (calculate_eq m quarter none feed payouts).mp h
  rw [calculate_eq, groupKeys_some ha]
  refine ⟨fun b hb => ?_, ?_⟩
  · obtain ⟨hMem, hba⟩ := List.mem_filter.mp hb
    obtain rfl : b = a := by simpa using hba
    rw [rowsOf_some ha]
    exact hReturns b hMem
  · rw [List.filter_filterMap, List.filterMap_filter]
    refine List.filterMap_congr fun b _ => ?_
    by_cases hba : b = a
    · subst hba
      rw [rowsOf_some ha]
      cases hOf : payoutOf m quarter (b, rowsOf none feed b) with
      | none => simp
      | some payout => simp [artist_of_payoutOf hOf]
    · cases hOf : payoutOf m quarter (b, rowsOf none feed b) with
      | none => simp [hba]
      | some payout => simp [hba, artist_of_payoutOf hOf]

/- The theorem at a feed of two artists, filtered to `A`. -/
theorem calculate_filtered_at_two_artists :
    let splits : RoyaltyManager :=
      ⟨(PyDict.empty.set "A" (.finite false 5 (-1))).set "B" (.finite false 5 (-1)), PyDict.empty⟩
    let feed : List Row :=
      [⟨some "B", some (.int 10), none, none⟩, ⟨some "A", some (.int 100), none, none⟩]
    let payoutA : ArtistPayout :=
      ⟨"A", "Q4 2025", .finite false 100 0, .finite false 5 (-1), .finite false 5000 (-2),
        .finite false 0 0, .finite false 5000 (-2), 0, 0⟩
    let payoutB : ArtistPayout :=
      ⟨"B", "Q4 2025", .finite false 10 0, .finite false 5 (-1), .finite false 500 (-2),
        .finite false 0 0, .finite false 500 (-2), 0, 0⟩
    "A" ≠ "" ∧ (calculate splits "Q4 2025" none (some feed)).result = .ok [payoutB, payoutA] ∧
      (calculate splits "Q4 2025" (some "A") (some feed)).result =
        .ok ([payoutB, payoutA].filter fun payout => payout.artist = "A") := by
  intro splits feed payoutA payoutB
  have h : (calculate splits "Q4 2025" none (some feed)).result = .ok [payoutB, payoutA] := by
    decide
  exact ⟨by decide, h, calculate_filtered splits "Q4 2025" feed (by decide) _ h⟩

end RoyaltyManager

end MusicLabel
