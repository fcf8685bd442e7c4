import MusicLabel.Analytics.Grouping

/-
  `detect_trends` and `forecast` on one artist's quarters.

  Both sum the artist's streams per quarter and sort the quarters as
  strings, so each quarter comes once, in increasing order. `detect_trends`
  compares each quarter of the last `periods` with the one before it;
  Python's `[-periods:]` keeps all of them when `periods` is `0` and
  drops the first `-periods` when it is negative. `forecast` averages the
  differences of consecutive quarters, which add up to the last quarter
  less the first one.

  Floats enter through the percentages. When the artist's streams never
  fall from one quarter to a later one, every percentage and their
  average are non-negative, so the trend is never `"declining"`.

  Correctness is proven by:
    * `AnalyticsAgent.sortedQuarters_spec`: the quarters, once each, increasing
    * `AnalyticsAgent.detectTrends_window`: the quarters compared
    * `AnalyticsAgent.detectTrends_not_declining`: rising streams
    * `AnalyticsAgent.forecast_linear`: the base quarter, the average
      difference and the predictions
    * `AnalyticsAgent.trendReports_spec`: the three together
-/

------------------------------------------------------------
-- Quarters
------------------------------------------------------------

namespace MusicLabel

open RoyaltyManager (appendKey firstOccurrences)

namespace AnalyticsAgent

/- The rows of one artist, as `detect_trends` and `forecast` select them. -/
def artistRows (s : AnalyticsAgent) (artist : String) : List StreamData :=
  s.data.filter (·.artist = artist)

/- The streams of the rows of one quarter. -/
def quarterStreams (rows : List StreamData) (q : String) : ℤ :=
  ((rows.filter (·.quarter = q)).map (·.streams)).sum

theorem foldl_add_streams
    (rows : List StreamData)
    (streams : ℤ) :
    rows.foldl (fun streams d => streams + d.streams) streams =
      streams + (rows.map (·.streams)).sum := by
  induction rows generalizing streams with
  | nil => simp
  | cons d rows ih =>
      rw [List.foldl_cons, ih, List.map_cons, List.sum_cons]
      omega

/- `quarterly[q]` is the streams of quarter `q`. -/
theorem getD_quarterly
    (rows : List StreamData)
    (q : String) :
    (quarterly rows).getD q 0 = quarterStreams rows q := by
  rw [quarterly, getD_foldl_accumulate, PyDict.getD_empty, foldl_add_streams, zero_add]
  rfl

/- `sorted(quarterly.keys())`: each quarter of the rows once, in increasing order. -/
theorem sortedQuarters_spec
    (rows : List StreamData) :
    (sortedQuarters (quarterly rows)).Sorted (· < ·) ∧
      ∀ q, q ∈ sortedQuarters (quarterly rows) ↔ q ∈ rows.map (·.quarter) := by
  have hPerm := List.perm_insertionSort (· ≤ ·) (quarterly rows).keys
  have hMem : ∀ q, q ∈ sortedQuarters (quarterly rows) ↔ q ∈ rows.map (·.quarter) := fun q => by
    rw [sortedQuarters, hPerm.mem_iff, quarterly, keys_foldl_accumulate,
      RoyaltyManager.mem_foldl_appendKey]
    simp
  exact ⟨(List.sorted_insertionSort _ _).lt_of_le (hPerm.nodup_iff.mpr (quarterly rows).nodup),
    hMem⟩

/- `xs[-periods:]` keeps the last `periods` when it is positive, all when it is `0`. -/
theorem length_sliceFrom_neg
    {α : Type}
    (periods : ℤ)
    (xs : List α) :
    (sliceFrom (-periods) xs).length =
      if 0 < periods then min periods.toNat xs.length else xs.length - (-periods).toNat := by
  rw [sliceFrom, List.length_drop]
  split_ifs <;> omega

/- A window of the quarters is a tail of them, so it is increasing too. -/
theorem sliceFrom_sortedQuarters
    (rows : List StreamData)
    (start : ℤ) :
    sliceFrom start (sortedQuarters (quarterly rows)) <:+ sortedQuarters (quarterly rows) ∧
      (sliceFrom start (sortedQuarters (quarterly rows))).Sorted (· < ·) :=
  ⟨List.drop_suffix _ _, (sortedQuarters_spec rows).1.sublist (List.drop_suffix _ _).sublist⟩

/- Consecutive elements of a sorted list are in order. -/
theorem rel_of_mem_zip_tail
    {α : Type}
    {r : α → α → Prop}
    {xs : List α}
    (hSorted : xs.Sorted r)
    {pair : α × α}
    (hPair : pair ∈ xs.zip xs.tail) :
    r pair.1 pair.2 := by
  induction xs with
  | nil => cases hPair
  | cons x xs ih =>
      cases xs with
      | nil => cases hPair
      | cons y ys =>
          rw [List.tail_cons, List.zip_cons_cons, List.mem_cons] at hPair
          rcases hPair with rfl | hRest
          · exact List.rel_of_sorted_cons hSorted y (List.mem_cons_self y ys)
          · exact ih hSorted.of_cons hRest

/- Both elements of a consecutive pair are elements of the list. -/
theorem mem_of_mem_zip_tail
    {α : Type}
    {xs : List α}
    {pair : α × α}
    (hPair : pair ∈ xs.zip xs.tail) :
    pair.1 ∈ xs ∧ pair.2 ∈ xs :=
  ⟨List.of_mem_zip hPair |>.1, List.mem_of_mem_tail (List.of_mem_zip hPair).2⟩

/- The last element of a strictly increasing list is one of its elements and the greatest. -/
theorem getLastD_greatest
    {xs : List String}
    (hSorted : xs.Sorted (· < ·))
    (hNonempty : xs ≠ [])
    (d : String) :
    xs.getLastD d ∈ xs ∧ ∀ q ∈ xs, q ≤ xs.getLastD d := by
  induction xs generalizing d with
  | nil => exact absurd rfl hNonempty
  | cons x xs ih =>
      cases xs with
      | nil => simp
      | cons y ys =>
          obtain ⟨hMem, hLe⟩ := ih hSorted.of_cons (List.cons_ne_nil y ys) x
          rw [List.getLastD_cons]
          refine ⟨List.mem_cons_of_mem x hMem, fun q hq => ?_⟩
          rcases List.mem_cons.mp hq with rfl | hRest
          · exact (List.rel_of_sorted_cons hSorted y (List.mem_cons_self y ys)).le.trans
              (hLe y (List.mem_cons_self y ys))
          · exact hLe q hRest

/- The first element of a strictly increasing list is the least. -/
theorem headD_least
    {xs : List String}
    (hSorted : xs.Sorted (· < ·))
    (d : String) :
    ∀ q ∈ xs, xs.headD d ≤ q := by
  cases xs with
  | nil => simp
  | cons x rest =>
      intro q hq
      rcases List.mem_cons.mp hq with rfl | hRest
      · exact le_refl _
      · exact (List.rel_of_sorted_cons hSorted q hRest).le

/- The differences of consecutive values add up to the last value less the first. -/
theorem sum_zip_tail_sub
    (v : String → ℤ) :
    (xs : List String) → xs ≠ [] →
      ((xs.zip xs.tail).map fun (prevQ, currQ) => v currQ - v prevQ).sum =
        v (xs.getLastD "") - v (xs.headD "")
  | [x], _ => by simp
  | x :: y :: rest, _ => by
      have ih := sum_zip_tail_sub v (y :: rest) (List.cons_ne_nil y rest)
      simp only [List.tail_cons, List.zip_cons_cons, List.map_cons, List.sum_cons,
        List.headD_cons, List.getLastD_cons] at ih ⊢
      rw [ih]
      omega

end AnalyticsAgent

end MusicLabel

------------------------------------------------------------
-- Monadic Steps
------------------------------------------------------------

namespace MusicLabel

/- Each result of a successful `mapM` is what its own input gave. -/
theorem forall₂_of_mapM_ok
    {α β ε : Type}
    {f : α → Except ε β}
    {xs : List α}
    {ys : List β}
    (h : xs.mapM f = .ok ys) :
    List.Forall₂ (fun x y => f x = .ok y) xs ys := by
  induction xs generalizing ys with
  | nil =>
      cases h
      exact .nil
  | cons x xs ih =>
      rw [List.mapM_cons] at h
      cases hX : f x with
      | error e => rw [hX] at h; cases h
      | ok y =>
          cases hXs : xs.mapM f with
          | error e => rw [hX, hXs] at h; cases h
          | ok ys' =>
              rw [hX, hXs] at h
              cases h
              exact .cons hX (ih hXs)

/- Related lists agree on what the relation ties together. -/
theorem map_eq_of_forall₂
    {α β γ : Type}
    {R : α → β → Prop}
    {g : β → γ}
    {k : α → γ}
    {xs : List α}
    {ys : List β}
    (h : List.Forall₂ R xs ys)
    (hR : ∀ x y, R x y → g y = k x) :
    ys.map g = xs.map k := by
  induction h with
  | nil => rfl
  | cons hHead _ ih => rw [List.map_cons, List.map_cons, ih, hR _ _ hHead]

/- Each result of a relation's list comes from some element it relates to. -/
theorem exists_of_forall₂_of_mem
    {α β : Type}
    {R : α → β → Prop}
    {xs : List α}
    {ys : List β}
    (h : List.Forall₂ R xs ys)
    {y : β}
    (hy : y ∈ ys) :
    ∃ x ∈ xs, R x y := by
  induction h with
  | nil => cases hy
  | cons hHead _ ih =>
      rcases List.mem_cons.mp hy with rfl | hRest
      · exact ⟨_, List.mem_cons_self _ _, hHead⟩
      · obtain ⟨x, hx, hR⟩ := ih hRest
        exact ⟨x, List.mem_cons_of_mem _ hx, hR⟩

namespace AnalyticsAgent

/- What a `detect_trends` that reports a trend has computed. -/
theorem detectTrends_eq_trend
    {s : AnalyticsAgent}
    {artist : String}
    {periods : ℤ}
    {a dir : String}
    {g : PyFloat}
    {p : ℕ}
    {cs : List TrendChange}
    (h : s.detectTrends artist periods = .ok (.trend a dir g p cs)) :
    let rows := artistRows s artist
    let window := sliceFrom (-periods) (sortedQuarters (quarterly rows))
    2 ≤ window.length ∧ a = artist ∧ p = window.length ∧
      (window.zip window.tail).mapM (fun (prevQ, currQ) => changeOf (quarterly rows) prevQ currQ) =
        .ok cs ∧
      ∃ avg, (PyFloat.sum (cs.map (·.changePct))).divInt cs.length = .ok avg ∧
        dir = direction avg ∧ g = avg.roundDigits 1 := by
  intro rows window
  unfold detectTrends at h
  simp only [pure, Except.pure, bind, Except.bind] at h
  split_ifs at h with hRows hShort
  · cases h
  · cases h
  · split at h
    · cases h
    · next changes hChanges =>
        split at h
        · cases h
        · next avg hAvg =>
            cases h
            exact ⟨not_lt.mp hShort, rfl, rfl, hChanges, avg, hAvg, rfl, rfl⟩

/- A change names the two quarters it compares. -/
theorem changeOf_quarters
    {quarterly : PyDict String ℤ}
    {prevQ currQ : String}
    {c : TrendChange}
    (h : changeOf quarterly prevQ currQ = .ok c) :
    c.fromQuarter = prevQ ∧ c.toQuarter = currQ := by
  simp only [changeOf] at h
  split at h
  · cases hRatio : PyFloat.trueDiv (quarterly.getD currQ 0 - quarterly.getD prevQ 0)
        (quarterly.getD prevQ 0).toNat with
    | error e => simp [hRatio, Except.map] at h
    | ok ratio =>
        simp only [hRatio, Except.map, Except.ok.injEq] at h
        subst h
        exact ⟨rfl, rfl⟩
  · cases h
    exact ⟨rfl, rfl⟩

end AnalyticsAgent

end MusicLabel

------------------------------------------------------------
-- The Quarters Compared
------------------------------------------------------------

namespace MusicLabel

namespace AnalyticsAgent

variable {s : AnalyticsAgent} {artist : String} {periods : ℤ}
variable {a dir : String} {g : PyFloat} {p : ℕ} {cs : List TrendChange}

/-
  A trend compares the last `periods` of the artist's quarters (all of
  them for `periods = 0`, all but the first `-periods` for a negative
  one), each with the quarter before it, in increasing order, and
  reports how many quarters it looked at.
-/
theorem detectTrends_window
    (h : s.detectTrends artist periods = .ok (.trend a dir g p cs)) :
    let quarters := sortedQuarters (quarterly (artistRows s artist))
    let window := sliceFrom (-periods) quarters
    window <:+ quarters ∧
      p = (if 0 < periods then min periods.toNat quarters.length
        else quarters.length - (-periods).toNat) ∧
      2 ≤ p ∧
      cs.map (fun c => (c.fromQuarter, c.toQuarter)) = window.zip window.tail ∧
      ∀ c ∈ cs, c.fromQuarter < c.toQuarter := by
  intro quarters window
  obtain ⟨hLength, -, rfl, hChanges, -⟩ := detectTrends_eq_trend h
  obtain ⟨hSuffix, hSorted⟩ := sliceFrom_sortedQuarters (artistRows s artist) (-periods)
  have hPairs : cs.map (fun c => (c.fromQuarter, c.toQuarter)) = window.zip window.tail := by
    refine (map_eq_of_forall₂ (forall₂_of_mapM_ok hChanges) fun ⟨prevQ, currQ⟩ c hc => ?_).trans
      (List.map_id _)
    obtain ⟨hFrom, hTo⟩ := changeOf_quarters hc
    rw [hFrom, hTo]
    rfl
  refine ⟨hSuffix, length_sliceFrom_neg periods quarters, hLength, hPairs, fun c hc => ?_⟩
  have hPair : (c.fromQuarter, c.toQuarter) ∈ window.zip window.tail :=
    hPairs ▸ List.mem_map_of_mem _ hc
  exact rel_of_mem_zip_tail hSorted hPair

end AnalyticsAgent

end MusicLabel

------------------------------------------------------------
-- Rising Streams
------------------------------------------------------------

namespace MusicLabel

namespace AnalyticsAgent

theorem kind_ofNat_hundred :
    (PyFloat.ofNat 100).kind = .finite false (100 * 2 ^ 46) (-46) := by
  decide

theorem kind_neg_five :
    (PyFloat.ofRatio true 5 1).kind = .finite true (5 * 2 ^ 50) (-50) := by
  decide

/- A quarter that does not fall behind the one before it changes by a non-negative percentage. -/
theorem nonNeg_changeOf
    {quarterly : PyDict String ℤ}
    {prevQ currQ : String}
    {c : TrendChange}
    (hRising : quarterly.getD prevQ 0 ≤ quarterly.getD currQ 0)
    (h : changeOf quarterly prevQ currQ = .ok c) :
    c.changePct.kind.NonNeg := by
  simp only [changeOf] at h
  split_ifs at h with hPrev hCurr
  · cases hRatio : PyFloat.trueDiv (quarterly.getD currQ 0 - quarterly.getD prevQ 0)
        (quarterly.getD prevQ 0).toNat with
    | error e => simp [hRatio, Except.map] at h
    | ok ratio =>
        simp only [hRatio, Except.map, Except.ok.injEq] at h
        subst h
        obtain ⟨m, e, hKind⟩ := PyFloat.trueDiv_ok (by omega) (by omega) hRatio
        exact PyFloat.nonNeg_roundDigits (PyFloat.nonNeg_mul hKind kind_ofNat_hundred) 1
  · cases h
    exact PyFloat.nonNeg_ofNat 100
  · cases h
    exact PyFloat.nonNeg_zero

/- A non-negative average is never `"declining"`. -/
theorem direction_ne_declining
    {avg : PyFloat}
    (h : avg.kind.NonNeg) :
    direction avg ≠ "declining" := by
  rw [direction, PyFloat.lt_eq_false_of_nonNeg h kind_neg_five (by norm_num)]
  simp only [Bool.false_eq_true, ↓reduceIte]
  split_ifs <;> simp

/-
  When the artist's streams never fall from one quarter to a later one,
  every change `detect_trends` reports is non-negative, so is the
  average, and the trend is not `"declining"`.
-/
theorem detectTrends_not_declining
    (hRising : ∀ q₁ ∈ (artistRows s artist).map (·.quarter),
      ∀ q₂ ∈ (artistRows s artist).map (·.quarter),
        q₁ ≤ q₂ → quarterStreams (artistRows s artist) q₁ ≤ quarterStreams (artistRows s artist) q₂)
    (h : s.detectTrends artist periods = .ok (.trend a dir g p cs)) :
    dir ≠ "declining" ∧ g.kind.NonNeg ∧ ∀ c ∈ cs, c.changePct.kind.NonNeg := by
  obtain ⟨hTwo, -, -, hChanges, avg, hAvg, rfl, rfl⟩ := detectTrends_eq_trend h
  obtain ⟨hSuffix, hWindow⟩ := sliceFrom_sortedQuarters (artistRows s artist) (-periods)
  have hMem := (sortedQuarters_spec (artistRows s artist)).2
  have hChange : ∀ c ∈ cs, c.changePct.kind.NonNeg := by
    intro c hc
    obtain ⟨⟨prevQ, currQ⟩, hPair, hOk⟩ := exists_of_forall₂_of_mem (forall₂_of_mapM_ok hChanges) hc
    have ⟨hPrev, hCurr⟩ := mem_of_mem_zip_tail hPair
    refine nonNeg_changeOf ?_ hOk
    rw [getD_quarterly, getD_quarterly]
    exact hRising _ ((hMem _).mp (hSuffix.subset hPrev)) _ ((hMem _).mp (hSuffix.subset hCurr))
      (rel_of_mem_zip_tail hWindow hPair).le
  have hAverage : avg.kind.NonNeg :=
    PyNum.nonNeg_divInt
      (PyNum.nonNeg_sum _ fun x hx => by
        obtain ⟨c, hc, rfl⟩ := List.mem_map.mp hx
        exact hChange c hc)
      (by
        have hLength := (forall₂_of_mapM_ok hChanges).length_eq
        rw [List.length_zip, List.length_tail] at hLength
        omega)
      hAvg
  exact ⟨direction_ne_declining hAverage, PyFloat.nonNeg_roundDigits hAverage 1, hChange⟩

end AnalyticsAgent

end MusicLabel

------------------------------------------------------------
-- The Forecast
------------------------------------------------------------

namespace MusicLabel

namespace AnalyticsAgent

variable {s : AnalyticsAgent} {artist : String} {quartersAhead : ℤ}
variable {a base : String} {bs avg : ℤ} {fs : List (String × ℤ)}

/- What a `forecast` that extrapolates has computed. -/
theorem forecast_eq_linear
    (h : s.forecast artist quartersAhead = .ok (.linear a base bs avg fs)) :
    let rows := artistRows s artist
    let sortedQ := sortedQuarters (quarterly rows)
    let deltas := (sortedQ.zip sortedQ.tail).map fun (prevQ, currQ) =>
      (quarterly rows).getD currQ 0 - (quarterly rows).getD prevQ 0
    2 ≤ sortedQ.length ∧ base = sortedQ.getLastD "" ∧ bs = (quarterly rows).getD base 0 ∧
      ∃ avgDelta, PyFloat.trueDiv deltas.sum deltas.length = .ok avgDelta ∧
        avgDelta.toInt = .ok avg ∧
        (List.range quartersAhead.toNat).mapM (fun j => do
          let streams ← predicted bs avgDelta (j + 1)
          return ("+" ++ Nat.repr (j + 1), streams)) = .ok fs := by
  intro rows sortedQ deltas
  unfold forecast at h
  simp only [pure, Except.pure, bind, Except.bind] at h
  split_ifs at h with hRows hShort
  · cases h
  · cases h
  · split at h
    · cases h
    · next avgDelta hAvgDelta =>
        split at h
        · cases h
        · next forecasts hForecasts =>
            split at h
            · cases h
            · next avgInt hAvgInt =>
                cases h
                exact ⟨not_lt.mp hShort, rfl, rfl, avgDelta, hAvgDelta, hAvgInt, hForecasts⟩

/- `max(0, ...)`: no prediction is negative. -/
theorem predicted_nonneg
    {lastValue : ℤ}
    {avgDelta : PyFloat}
    {i : ℕ}
    {streams : ℤ}
    (h : predicted lastValue avgDelta i = .ok streams) :
    0 ≤ streams := by
  simp only [predicted, bind, Except.bind, pure, Except.pure] at h
  split at h
  · cases h
  · split at h
    · cases h
    · split at h
      · cases h
      · cases h
        exact le_max_left 0 _

/- An entry of the forecast: its label, and a prediction that is not negative. -/
theorem forecastEntry_ok
    {lastValue : ℤ}
    {avgDelta : PyFloat}
    {j : ℕ}
    {f : String × ℤ}
    (h : (do
      let streams ← predicted lastValue avgDelta (j + 1)
      return ("+" ++ Nat.repr (j + 1), streams) : Except PyError (String × ℤ)) = .ok f) :
    f.1 = "+" ++ Nat.repr (j + 1) ∧ 0 ≤ f.2 := by
  simp only [bind, Except.bind, pure, Except.pure] at h
  split at h
  · cases h
  · next streams hStreams =>
      cases h
      exact ⟨rfl, predicted_nonneg hStreams⟩

/-
  A forecast starts from the artist's greatest quarter and its streams;
  its average difference is that quarter's streams less the least
  quarter's, over one less than the number of quarters, truncated; it
  predicts `quarters_ahead` quarters, labelled `+1`, `+2`, …, none of
  them negative.
-/
theorem forecast_linear
    (h : s.forecast artist quartersAhead = .ok (.linear a base bs avg fs)) :
    let rows := artistRows s artist
    let quarters := rows.map (·.quarter)
    base ∈ quarters ∧ (∀ q ∈ quarters, q ≤ base) ∧ bs = quarterStreams rows base ∧
      (∃ first ∈ quarters, (∀ q ∈ quarters, first ≤ q) ∧ ∃ avgDelta,
        PyFloat.trueDiv (bs - quarterStreams rows first) (quarters.dedup.length - 1) = .ok avgDelta ∧
        avgDelta.toInt = .ok avg) ∧
      fs.map (·.1) = (List.range quartersAhead.toNat).map (fun j => "+" ++ Nat.repr (j + 1)) ∧
      ∀ f ∈ fs, 0 ≤ f.2 := by
  intro rows quarters
  obtain ⟨hTwo, rfl, rfl, avgDelta, hAvgDelta, hAvgInt, hForecasts⟩ := forecast_eq_linear h
  obtain ⟨hSorted, hMem⟩ := sortedQuarters_spec rows
  set sortedQ := sortedQuarters (quarterly rows)
  have hNonempty : sortedQ ≠ [] := List.ne_nil_of_length_pos (by omega)
  obtain ⟨hLastMem, hLastGreatest⟩ := getLastD_greatest hSorted hNonempty ""
  have hCount : sortedQ.length = quarters.dedup.length := by
    have hKeys : (quarterly rows).keys = RoyaltyManager.firstOccurrences quarters :=
      keys_foldl_accumulate _ _ _ rows PyDict.empty
    rw [← RoyaltyManager.length_firstOccurrences, ← hKeys]
    exact (List.perm_insertionSort _ _).length_eq
  have hSum := sum_zip_tail_sub (fun q => (quarterly rows).getD q 0) sortedQ hNonempty
  simp only [List.length_map, List.length_zip, List.length_tail] at hAvgDelta
  rw [hSum, min_eq_right (Nat.sub_le _ _), hCount] at hAvgDelta
  have hFirstMem : sortedQ.headD "" ∈ sortedQ := by
    cases hQ : sortedQ with
    | nil => exact absurd hQ hNonempty
    | cons x rest => exact List.mem_cons_self x rest
  have hEntries := forall₂_of_mapM_ok hForecasts
  refine ⟨(hMem _).mp hLastMem, fun q hq => hLastGreatest q ((hMem q).mpr hq),
    getD_quarterly rows _, ⟨_, (hMem _).mp hFirstMem, fun q hq => headD_least hSorted "" q
      ((hMem q).mpr hq), avgDelta, ?_, hAvgInt⟩, ?_, fun f hf => ?_⟩
  · simpa only [getD_quarterly] using hAvgDelta
  · exact map_eq_of_forall₂ hEntries fun _ _ hEntry => (forecastEntry_ok hEntry).1
  · obtain ⟨j, -, hEntry⟩ := exists_of_forall₂_of_mem hEntries hf
    exact (forecastEntry_ok hEntry).2

end AnalyticsAgent

end MusicLabel

------------------------------------------------------------
-- The Reports Together
------------------------------------------------------------

namespace MusicLabel

namespace AnalyticsAgent

/-
  What `detect_trends` and `forecast` report on an artist, over any rows
  loaded: a trend compares the quarters of its window, each with the one
  before it, in increasing order, and is never `"declining"` when the
  artist's streams never fall from one quarter to a later one; a
  forecast extrapolates from the greatest quarter by the average
  difference of the quarters, and predicts no negative streams.
-/
theorem trendReports_spec
    (s : AnalyticsAgent)
    (artist : String) :
    (∀ periods a dir g p cs, s.detectTrends artist periods = .ok (.trend a dir g p cs) →
      let quarters := sortedQuarters (quarterly (artistRows s artist))
      let window := sliceFrom (-periods) quarters
      window <:+ quarters ∧
        p = (if 0 < periods then min periods.toNat quarters.length
          else quarters.length - (-periods).toNat) ∧
        2 ≤ p ∧
        cs.map (fun c => (c.fromQuarter, c.toQuarter)) = window.zip window.tail ∧
        ∀ c ∈ cs, c.fromQuarter < c.toQuarter) ∧
    (∀ periods a dir g p cs,
      (∀ q₁ ∈ (artistRows s artist).map (·.quarter), ∀ q₂ ∈ (artistRows s artist).map (·.quarter),
        q₁ ≤ q₂ → quarterStreams (artistRows s artist) q₁ ≤ quarterStreams (artistRows s artist) q₂) →
      s.detectTrends artist periods = .ok (.trend a dir g p cs) →
      dir ≠ "declining" ∧ g.kind.NonNeg ∧ ∀ c ∈ cs, c.changePct.kind.NonNeg) ∧
    ∀ quartersAhead a base bs avg fs, s.forecast artist quartersAhead = .ok (.linear a base bs avg fs) →
      let rows := artistRows s artist
      let quarters := rows.map (·.quarter)
      base ∈ quarters ∧ (∀ q ∈ quarters, q ≤ base) ∧ bs = quarterStreams rows base ∧
        (∃ first ∈ quarters, (∀ q ∈ quarters, first ≤ q) ∧ ∃ avgDelta,
          PyFloat.trueDiv (bs - quarterStreams rows first) (quarters.dedup.length - 1) = .ok avgDelta ∧
          avgDelta.toInt = .ok avg) ∧
        fs.map (·.1) = (List.range quartersAhead.toNat).map (fun j => "+" ++ Nat.repr (j + 1)) ∧
        ∀ f ∈ fs, 0 ≤ f.2 :=
  ⟨fun _ _ _ _ _ _ h => detectTrends_window h,
    fun _ _ _ _ _ _ hRising h => detectTrends_not_declining hRising h,
    fun _ _ _ _ _ _ h => forecast_linear h⟩

set_option exponentiation.threshold 1100 in
set_option maxRecDepth 8000 in
/-
  The theorem for an artist whose streams rise from `100` to `150`: a
  `"growing"` trend of `50.0` percent over the last two quarters, and a
  forecast of `200` and `250` streams.
-/
theorem trendReports_spec_at_rising_artist :
    let s : AnalyticsAgent := ⟨[⟨"A", "2025-Q1", 100, PyFloat.ofNat 1, "", "", ""⟩,
      ⟨"A", "2025-Q2", 150, PyFloat.ofNat 1, "", "", ""⟩]⟩
    let rows := artistRows s "A"
    let quarters := sortedQuarters (quarterly rows)
    let window := sliceFrom (-2) quarters
    let cs : List TrendChange := [⟨"2025-Q1", "2025-Q2", PyFloat.ofNat 50⟩]
    let fs : List (String × ℤ) := [("+1", 200), ("+2", 250)]
    s.detectTrends "A" 2 = .ok (.trend "A" "growing" (PyFloat.ofNat 50) 2 cs) ∧
      (∀ q₁ ∈ rows.map (·.quarter), ∀ q₂ ∈ rows.map (·.quarter),
        q₁ ≤ q₂ → quarterStreams rows q₁ ≤ quarterStreams rows q₂) ∧
      s.forecast "A" 2 = .ok (.linear "A" "2025-Q2" 150 50 fs) ∧
      (window <:+ quarters ∧
        2 = (if 0 < (2 : ℤ) then min (2 : ℤ).toNat quarters.length
          else quarters.length - (-(2 : ℤ)).toNat) ∧
        2 ≤ 2 ∧
        cs.map (fun c => (c.fromQuarter, c.toQuarter)) = window.zip window.tail ∧
        ∀ c ∈ cs, c.fromQuarter < c.toQuarter) ∧
      ("growing" ≠ "declining" ∧ (PyFloat.ofNat 50).kind.NonNeg ∧ ∀ c ∈ cs, c.changePct.kind.NonNeg) ∧
      ("2025-Q2" ∈ rows.map (·.quarter) ∧ (∀ q ∈ rows.map (·.quarter), q ≤ "2025-Q2") ∧
        150 = quarterStreams rows "2025-Q2" ∧
        (∃ first ∈ rows.map (·.quarter), (∀ q ∈ rows.map (·.quarter), first ≤ q) ∧ ∃ avgDelta,
          PyFloat.trueDiv (150 - quarterStreams rows first) ((rows.map (·.quarter)).dedup.length - 1) =
            .ok avgDelta ∧ avgDelta.toInt = .ok 50) ∧
        fs.map (·.1) = (List.range (2 : ℤ).toNat).map (fun j => "+" ++ Nat.repr (j + 1)) ∧
        ∀ f ∈ fs, 0 ≤ f.2) := by
  intro s rows quarters window cs fs
  have hSorted : sortedQuarters (quarterly rows) = ["2025-Q1", "2025-Q2"] := by
    have hKeys : (quarterly rows).keys = ["2025-Q1", "2025-Q2"] := by decide
    rw [sortedQuarters, hKeys]
    simp [List.insertionSort, List.orderedInsert]
    decide
  have hTrend : s.detectTrends "A" 2 = .ok (.trend "A" "growing" (PyFloat.ofNat 50) 2 cs) := by
    unfold detectTrends
    rw [show s.data.filter (·.artist = "A") = rows from rfl]
    dsimp only
    rw [hSorted]
    decide
  have hForecast : s.forecast "A" 2 = .ok (.linear "A" "2025-Q2" 150 50 fs) := by
    unfold forecast
    rw [show s.data.filter (·.artist = "A") = rows from rfl]
    dsimp only
    rw [hSorted]
    decide
  have hRising : ∀ q₁ ∈ rows.map (·.quarter), ∀ q₂ ∈ rows.map (·.quarter),
      q₁ ≤ q₂ → quarterStreams rows q₁ ≤ quarterStreams rows q₂ := by
    have hQuarters : rows.map (·.quarter) = ["2025-Q1", "2025-Q2"] := by decide
    have hFirst : quarterStreams rows "2025-Q1" = 100 := by decide
    have hSecond : quarterStreams rows "2025-Q2" = 150 := by decide
    have hOrder : ¬ "2025-Q2" ≤ "2025-Q1" := by simp; decide
    intro q₁ h₁ q₂ h₂ hLe
    rw [hQuarters, List.mem_pair] at h₁ h₂
    rcases h₁ with rfl | rfl <;> rcases h₂ with rfl | rfl
    · exact le_rfl
    · rw [hFirst, hSecond]; omega
    · exact absurd hLe hOrder
    · exact le_rfl
  have hReports := trendReports_spec s "A"
  exact ⟨hTrend, hRising, hForecast, hReports.1 _ _ _ _ _ _ hTrend,
    hReports.2.1 _ _ _ _ _ _ hRising hTrend, hReports.2.2 _ _ _ _ _ _ hForecast⟩

end AnalyticsAgent

end MusicLabel
