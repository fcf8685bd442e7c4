import MusicLabel.Analytics.Agent
import MusicLabel.Royalty.Grouping

/-
  The grouping loop every report of the analytics agent runs, refined
  to what it is for: its keys are the distinct keys of the rows in the
  order of their first occurrence, each key's entry is what its own rows
  make of it, and a measure each row raises by its own amount sums over
  the entries to its sum over the rows.

  From these, `analyze_streams`, `platform_breakdown` and
  `geography_report` keep every stream: the streams of the groups add
  up to the streams of the rows they were built from.

  Correctness is proven by:
    * `keys_foldl_accumulate`, `get?_foldl_accumulate`: the loop on any dict
    * `sum_foldl_accumulate`: a measure summed over the entries
    * `totalsBy_spec`: the groups of `{"streams", "revenue"}` totals
    * `analyzeStreams_consistent`, `platformBreakdown_consistent`,
      `geographyReport_consistent`: the reports
    * `analyzeStreams_loadData`: loading more rows continues every group
      where it stopped
    * `AnalyticsAgent.groupingReports_spec`: the reports together
-/

------------------------------------------------------------
-- The Loop on Any Dict
------------------------------------------------------------

namespace MusicLabel

namespace PyDict

variable {K V : Type} [DecidableEq K]

/- Summed over the entries, an assignment trades the old value's measure, if any, for the new one's. -/
theorem sum_insertEntry
    (g : V → ℤ)
    (k : K)
    (v : V)
    (entries : List (K × V)) :
    ((insertEntry k v entries).map fun entry => g entry.2).sum =
      (entries.map fun entry => g entry.2).sum - ((lookupEntry k entries).map g).getD 0 + g v := by
  induction entries with
  | nil => simp [insertEntry, lookupEntry]
  | cons entry rest ih =>
      obtain ⟨k', v'⟩ := entry
      by_cases hk : k' = k
      · simp only [insertEntry, lookupEntry, hk, ↓reduceIte, List.map_cons, List.sum_cons,
          Option.map_some', Option.getD_some]
        omega
      · simp only [insertEntry, lookupEntry, hk, ↓reduceIte, List.map_cons, List.sum_cons, ih]
        omega

/- Summed over the entries, `d[k] = v` trades the old value's measure, if any, for `v`'s. -/
theorem sum_set
    (g : V → ℤ)
    (d : PyDict K V)
    (k : K)
    (v : V) :
    ((d.set k v).entries.map fun entry => g entry.2).sum =
      (d.entries.map fun entry => g entry.2).sum - ((d.get? k).map g).getD 0 + g v :=
  sum_insertEntry g k v d.entries

end PyDict

open RoyaltyManager (appendKey firstOccurrences)

section Accumulate

variable {α : Type}
variable (key : StreamData → String) (init : StreamData → α) (update : α → StreamData → α)

/- The keys grow as assignments make them: a new key goes to the end. -/
theorem keys_foldl_accumulate
    (rows : List StreamData)
    (groups : PyDict String α) :
    (rows.foldl (accumulate key init update) groups).keys =
      (rows.map key).foldl appendKey groups.keys := by
  induction rows generalizing groups with
  | nil => rfl
  | cons d rows ih =>
      rw [List.foldl_cons, ih, accumulate, PyDict.keys_set]
      rfl

/- Each key's entry is updated by its own rows, in order, and by no other row. -/
theorem get?_foldl_accumulate
    (rows : List StreamData)
    (groups : PyDict String α)
    (k : String) :
    (rows.foldl (accumulate key init update) groups).get? k =
      (rows.filter (key · = k)).foldl (fun entry d => some (update (entry.getD (init d)) d))
        (groups.get? k) := by
  induction rows generalizing groups with
  | nil => rfl
  | cons d rows ih =>
      rw [List.foldl_cons, ih, accumulate, PyDict.get?_set, List.filter_cons]
      by_cases hKey : key d = k
      · subst hKey
        simp
      · simp [hKey]

/- With one initial entry for every key, an entry is its rows folded into what it held. -/
theorem getD_foldl_some
    (zero : α)
    (rows : List StreamData)
    (entry : Option α) :
    (rows.foldl (fun entry d => some (update (entry.getD zero) d)) entry).getD zero =
      rows.foldl update (entry.getD zero) := by
  induction rows generalizing entry with
  | nil => rfl
  | cons d rows ih => exact ih _

/- Once a key has its entry, each further row of it only updates the entry. -/
theorem foldl_some_update
    (rows : List StreamData)
    (entry : α) :
    rows.foldl (fun entry d => some (update (entry.getD (init d)) d)) (some entry) =
      some (rows.foldl update entry) := by
  induction rows generalizing entry with
  | nil => rfl
  | cons d rows ih => exact ih _

/- With a fixed initial entry, each key's rows continue what its entry held, `zero` if none. -/
theorem getD_foldl_accumulate
    (zero : α)
    (rows : List StreamData)
    (groups : PyDict String α)
    (k : String) :
    (rows.foldl (accumulate key (fun _ => zero) update) groups).getD k zero =
      (rows.filter (key · = k)).foldl update (groups.getD k zero) := by
  rw [PyDict.getD, get?_foldl_accumulate, getD_foldl_some]
  rfl

/- The step: a measure that starts at `0` and that each row raises by `gain`, summed over the entries. -/
theorem sum_accumulate
    (measure : α → ℤ)
    (gain : StreamData → ℤ)
    (hInit : ∀ d, measure (init d) = 0)
    (hUpdate : ∀ entry d, measure (update entry d) = measure entry + gain d)
    (groups : PyDict String α)
    (d : StreamData) :
    ((accumulate key init update groups d).entries.map fun entry => measure entry.2).sum =
      (groups.entries.map fun entry => measure entry.2).sum + gain d := by
  rw [accumulate, PyDict.sum_set, hUpdate]
  cases groups.get? (key d) with
  | none =>
      simp only [Option.map_none', Option.getD_none, hInit]
      omega
  | some entry =>
      simp only [Option.map_some', Option.getD_some]
      omega

/- The run: the measure summed over the entries grows by the rows' gains. -/
theorem sum_foldl_accumulate
    (measure : α → ℤ)
    (gain : StreamData → ℤ)
    (hInit : ∀ d, measure (init d) = 0)
    (hUpdate : ∀ entry d, measure (update entry d) = measure entry + gain d)
    (rows : List StreamData)
    (groups : PyDict String α) :
    ((rows.foldl (accumulate key init update) groups).entries.map fun entry => measure entry.2).sum =
      (groups.entries.map fun entry => measure entry.2).sum + (rows.map gain).sum := by
  induction rows generalizing groups with
  | nil => simp
  | cons d rows ih =>
      rw [List.foldl_cons, ih, sum_accumulate key init update measure gain hInit hUpdate,
        List.map_cons, List.sum_cons]
      omega

end Accumulate

end MusicLabel

------------------------------------------------------------
-- Stream Totals
------------------------------------------------------------

namespace MusicLabel

open RoyaltyManager (appendKey firstOccurrences)

namespace StreamTotals

/- A run of rows adds their streams and adds their revenues left to right. -/
theorem foldl_addRow
    (rows : List StreamData)
    (totals : StreamTotals) :
    rows.foldl addRow totals =
      ⟨totals.streams + (rows.map (·.streams)).sum,
        (rows.map (·.revenue)).foldl PyFloat.add totals.revenue⟩ := by
  induction rows generalizing totals with
  | nil => simp
  | cons d rows ih =>
      rw [List.foldl_cons, ih]
      simp only [addRow, List.map_cons, List.sum_cons, List.foldl_cons, StreamTotals.mk.injEq,
        and_true]
      omega

end StreamTotals

namespace AnalyticsAgent

/- The totals of the rows of one key: their streams, and their revenues added from `0.0`. -/
def totalsOf (key : StreamData → String) (rows : List StreamData) (k : String) : StreamTotals :=
  let own := rows.filter (key · = k)
  ⟨(own.map (·.streams)).sum, (own.map (·.revenue)).foldl PyFloat.add (PyFloat.zero false)⟩

/-
  The groups of a totals loop: the distinct keys in the order of their
  first occurrence, each with the totals of its own rows, and the
  streams of the groups add up to the streams of the rows.
-/
theorem totalsBy_spec
    (key : StreamData → String)
    (rows : List StreamData) :
    (totalsBy key rows).keys = firstOccurrences (rows.map key) ∧
      (∀ k, (totalsBy key rows).getD k StreamTotals.zero = totalsOf key rows k) ∧
      ((totalsBy key rows).entries.map (·.2.streams)).sum = (rows.map (·.streams)).sum := by
  refine ⟨keys_foldl_accumulate key _ _ rows PyDict.empty, fun k => ?_, ?_⟩
  · rw [totalsBy, getD_foldl_accumulate, PyDict.getD_empty, StreamTotals.foldl_addRow]
    simp [totalsOf, StreamTotals.zero]
  · rw [totalsBy, sum_foldl_accumulate key _ _ StreamTotals.streams StreamData.streams
      (fun _ => rfl) (fun _ _ => rfl)]
    simp [PyDict.empty]

/- The dict of `mapValues`: the same keys, each value mapped. -/
theorem get?_mapValues
    {β γ : Type}
    (f : β → γ)
    (d : PyDict String β)
    (k : String) :
    (mapValues f d).get? k = (d.get? k).map f :=
  PyDict.lookupEntry_map (fun _ => f) k d.entries

@[simp] theorem keys_mapValues
    {β γ : Type}
    (f : β → γ)
    (d : PyDict String β) :
    (mapValues f d).keys = d.keys := by
  simp [mapValues, PyDict.keys, Function.comp_def]

/- A measure of the mapped values summed over the entries. -/
theorem sum_mapValues
    {β γ : Type}
    (f : β → γ)
    (g : γ → ℤ)
    (d : PyDict String β) :
    ((mapValues f d).entries.map fun entry => g entry.2).sum =
      (d.entries.map fun entry => g (f entry.2)).sum := by
  simp [mapValues, Function.comp_def]

end AnalyticsAgent

end MusicLabel

------------------------------------------------------------
-- Reports
------------------------------------------------------------

namespace MusicLabel

open RoyaltyManager (firstOccurrences)

namespace AnalyticsAgent

variable (s : AnalyticsAgent)

/-
  `analyze_streams`: the artists and the quarters of the selected rows,
  each once in the order of first occurrence and counted, each with the
  totals of its rows; the streams of the artists and those of the
  quarters each add up to the total streams.
-/
theorem analyzeStreams_consistent
    (artist quarter : Option String) :
    let rows := s.filter artist quarter
    let analysis := s.analyzeStreams artist quarter
    analysis.byArtist.keys = firstOccurrences (rows.map (·.artist)) ∧
      analysis.byQuarter.keys = firstOccurrences (rows.map (·.quarter)) ∧
      (∀ a, analysis.byArtist.getD a StreamTotals.zero = totalsOf (·.artist) rows a) ∧
      (∀ q, analysis.byQuarter.getD q StreamTotals.zero = totalsOf (·.quarter) rows q) ∧
      analysis.artistsCount = (rows.map (·.artist)).dedup.length ∧
      analysis.quartersCount = (rows.map (·.quarter)).dedup.length ∧
      (analysis.byArtist.entries.map (·.2.streams)).sum = analysis.totalStreams ∧
      (analysis.byQuarter.entries.map (·.2.streams)).sum = analysis.totalStreams := by
  obtain ⟨hArtistKeys, hArtist, hArtistSum⟩ := totalsBy_spec (·.artist) (s.filter artist quarter)
  obtain ⟨hQuarterKeys, hQuarter, hQuarterSum⟩ :=
    totalsBy_spec (·.quarter) (s.filter artist quarter)
  have hCount : ∀ (key : StreamData → String),
      (totalsBy key (s.filter artist quarter)).entries.length =
        ((s.filter artist quarter).map key).dedup.length := fun key => by
    rw [← List.length_map _ Prod.fst, ← PyDict.keys, (totalsBy_spec key _).1,
      RoyaltyManager.length_firstOccurrences]
  exact ⟨hArtistKeys, hQuarterKeys, hArtist, hQuarter, hCount _, hCount _, hArtistSum,
    hQuarterSum⟩

/-
  `platform_breakdown`: the platforms of the selected rows, `"unknown"`
  for none, each once in the order of first occurrence, each with the
  streams of its rows, its revenue rounded to two decimals, and a share
  of `0.0` when the total revenue is not positive; the platforms' streams
  add up to the rows'.
-/
theorem platformBreakdown_consistent
    (artist : Option String) :
    let rows := s.filter artist none
    let totalRevenue := rows.foldl (fun total d => total.add d.revenue) (PyFloat.zero false)
    (s.platformBreakdown artist).keys = firstOccurrences (rows.map platformKey) ∧
      (∀ p ∈ (s.platformBreakdown artist).keys, ∃ share,
        (s.platformBreakdown artist).get? p =
          some ⟨(totalsOf platformKey rows p).streams,
            (totalsOf platformKey rows p).revenue.roundDigits 2, share⟩ ∧
        (PyFloat.lt (PyFloat.zero false) totalRevenue = false → share = PyFloat.zero false)) ∧
      ((s.platformBreakdown artist).entries.map (·.2.streams)).sum = (rows.map (·.streams)).sum := by
  obtain ⟨hKeys, hTotals, hSum⟩ := totalsBy_spec platformKey (s.filter artist none)
  refine ⟨by rw [platformBreakdown, keys_mapValues, hKeys], fun p hp => ?_, ?_⟩
  · rw [platformBreakdown, keys_mapValues, ← PyDict.isSome_get?, Option.isSome_iff_exists] at hp
    obtain ⟨totals, hGet⟩ := hp
    have hOf : totals = totalsOf platformKey (s.filter artist none) p := by
      rw [← hTotals, PyDict.getD, hGet, Option.getD_some]
    refine ⟨_, by rw [platformBreakdown, get?_mapValues, hGet, hOf]; rfl, fun hTotal => ?_⟩
    simp [hTotal]
  · rw [platformBreakdown, sum_mapValues]
    exact hSum

/-
  `geography_report`: the countries of the selected rows, `"unknown"`
  for none, each once in the order of first occurrence, each with the
  streams of its rows and its revenue rounded to two decimals; the
  countries' streams add up to the rows'.
-/
theorem geographyReport_consistent
    (artist : Option String) :
    let rows := s.filter artist none
    (s.geographyReport artist).keys = firstOccurrences (rows.map countryKey) ∧
      (∀ c ∈ (s.geographyReport artist).keys,
        (s.geographyReport artist).get? c =
          some ⟨(totalsOf countryKey rows c).streams,
            (totalsOf countryKey rows c).revenue.roundDigits 2⟩) ∧
      ((s.geographyReport artist).entries.map (·.2.streams)).sum = (rows.map (·.streams)).sum := by
  obtain ⟨hKeys, hTotals, hSum⟩ := totalsBy_spec countryKey (s.filter artist none)
  refine ⟨by rw [geographyReport, keys_mapValues, hKeys], fun c hc => ?_, ?_⟩
  · rw [geographyReport, keys_mapValues, ← PyDict.isSome_get?, Option.isSome_iff_exists] at hc
    obtain ⟨totals, hGet⟩ := hc
    rw [geographyReport, get?_mapValues, hGet, ← hTotals, PyDict.getD, hGet]
    rfl
  · rw [geographyReport, sum_mapValues]
    exact hSum

end AnalyticsAgent

end MusicLabel

------------------------------------------------------------
-- Loading More Rows
------------------------------------------------------------

namespace MusicLabel

open RoyaltyManager (appendKey)

namespace AnalyticsAgent

variable (s : AnalyticsAgent)

/- The filter of the extended data keeps the old rows it kept, then the new ones it keeps. -/
theorem filter_loadData
    (batch : List StreamData)
    (artist quarter : Option String) :
    (s.loadData batch).filter artist quarter =
      s.filter artist quarter ++ (AnalyticsAgent.mk batch).filter artist quarter := by
  unfold filter loadData
  split <;> split <;> simp [List.filter_append]

/- Assignments only ever append keys. -/
theorem prefix_foldl_appendKey
    (keys : List String) :
    (ks : List String) → keys <+: ks.foldl appendKey keys
  | [] => List.prefix_refl keys
  | k :: ks => by
      refine List.IsPrefix.trans ?_ (prefix_foldl_appendKey (appendKey keys k) ks)
      unfold appendKey
      split
      · exact List.prefix_refl keys
      · exact List.prefix_append keys [k]

/-
  A totals loop over more rows continues the loop over the first ones:
  the keys so far stay first, in their order, and each key's new rows
  continue its totals where they stopped.
-/
theorem totalsBy_append
    (key : StreamData → String)
    (rows added : List StreamData) :
    (totalsBy key rows).keys <+: (totalsBy key (rows ++ added)).keys ∧
      ∀ k, (totalsBy key (rows ++ added)).getD k StreamTotals.zero =
        (added.filter (key · = k)).foldl StreamTotals.addRow
          ((totalsBy key rows).getD k StreamTotals.zero) := by
  have hAppend : totalsBy key (rows ++ added) =
      added.foldl (accumulate key (fun _ => StreamTotals.zero) StreamTotals.addRow)
        (totalsBy key rows) :=
    List.foldl_append _ _ _ _
  rw [hAppend, keys_foldl_accumulate]
  exact ⟨prefix_foldl_appendKey _ _, getD_foldl_accumulate key StreamTotals.addRow _ added _⟩

/-
  `load_data` then `analyze_streams`: the total grows by the streams of
  the new rows the filters keep, the artists and quarters seen before
  keep their places in front, and each artist's and each quarter's new
  rows continue its totals where they stopped, revenue added on in the
  same left-to-right order.
-/
theorem analyzeStreams_loadData
    (batch : List StreamData)
    (artist quarter : Option String) :
    let added := (AnalyticsAgent.mk batch).filter artist quarter
    let before := s.analyzeStreams artist quarter
    let after := (s.loadData batch).analyzeStreams artist quarter
    after.totalStreams = before.totalStreams + (added.map (·.streams)).sum ∧
      before.byArtist.keys <+: after.byArtist.keys ∧
      before.byQuarter.keys <+: after.byQuarter.keys ∧
      (∀ a, after.byArtist.getD a StreamTotals.zero =
        (added.filter (·.artist = a)).foldl StreamTotals.addRow
          (before.byArtist.getD a StreamTotals.zero)) ∧
      ∀ q, after.byQuarter.getD q StreamTotals.zero =
        (added.filter (·.quarter = q)).foldl StreamTotals.addRow
          (before.byQuarter.getD q StreamTotals.zero) := by
  intro added before after
  obtain ⟨hArtistKeys, hArtist⟩ := totalsBy_append (·.artist) (s.filter artist quarter) added
  obtain ⟨hQuarterKeys, hQuarter⟩ := totalsBy_append (·.quarter) (s.filter artist quarter) added
  have hRows : (s.loadData batch).filter artist quarter = s.filter artist quarter ++ added :=
    filter_loadData s batch artist quarter
  simp only [after, before, analyzeStreams, hRows, List.map_append, List.sum_append]
  exact ⟨trivial, hArtistKeys, hQuarterKeys, hArtist, hQuarter⟩

end AnalyticsAgent

end MusicLabel

------------------------------------------------------------
-- The Reports Together
------------------------------------------------------------

namespace MusicLabel

open RoyaltyManager (firstOccurrences)

namespace AnalyticsAgent

variable (s : AnalyticsAgent)

/-
  The grouping reports over any rows loaded and any filters:
  `analyze_streams`, `platform_breakdown` and `geography_report` list
  the keys of the selected rows once each, in the order of first
  occurrence, with what the rows of each key add up to, and lose no
  stream; a later `load_data(batch)` continues every group of
  `analyze_streams` where it stopped.
-/
theorem groupingReports_spec
    (artist quarter : Option String)
    (batch : List StreamData) :
    (let rows := s.filter artist quarter
     let analysis := s.analyzeStreams artist quarter
     analysis.byArtist.keys = firstOccurrences (rows.map (·.artist)) ∧
      analysis.byQuarter.keys = firstOccurrences (rows.map (·.quarter)) ∧
      (∀ a, analysis.byArtist.getD a StreamTotals.zero = totalsOf (·.artist) rows a) ∧
      (∀ q, analysis.byQuarter.getD q StreamTotals.zero = totalsOf (·.quarter) rows q) ∧
      analysis.artistsCount = (rows.map (·.artist)).dedup.length ∧
      analysis.quartersCount = (rows.map (·.quarter)).dedup.length ∧
      (analysis.byArtist.entries.map (·.2.streams)).sum = analysis.totalStreams ∧
      (analysis.byQuarter.entries.map (·.2.streams)).sum = analysis.totalStreams) ∧
    (let rows := s.filter artist none
     let totalRevenue := rows.foldl (fun total d => total.add d.revenue) (PyFloat.zero false)
     (s.platformBreakdown artist).keys = firstOccurrences (rows.map platformKey) ∧
      (∀ p ∈ (s.platformBreakdown artist).keys, ∃ share,
        (s.platformBreakdown artist).get? p =
          some ⟨(totalsOf platformKey rows p).streams,
            (totalsOf platformKey rows p).revenue.roundDigits 2, share⟩ ∧
        (PyFloat.lt (PyFloat.zero false) totalRevenue = false → share = PyFloat.zero false)) ∧
      ((s.platformBreakdown artist).entries.map (·.2.streams)).sum = (rows.map (·.streams)).sum) ∧
    (let rows := s.filter artist none
     (s.geographyReport artist).keys = firstOccurrences (rows.map countryKey) ∧
      (∀ c ∈ (s.geographyReport artist).keys,
        (s.geographyReport artist).get? c =
          some ⟨(totalsOf countryKey rows c).streams,
            (totalsOf countryKey rows c).revenue.roundDigits 2⟩) ∧
      ((s.geographyReport artist).entries.map (·.2.streams)).sum = (rows.map (·.streams)).sum) ∧
    (let added := (AnalyticsAgent.mk batch).filter artist quarter
     let before := s.analyzeStreams artist quarter
     let after := (s.loadData batch).analyzeStreams artist quarter
     after.totalStreams = before.totalStreams + (added.map (·.streams)).sum ∧
      before.byArtist.keys <+: after.byArtist.keys ∧
      before.byQuarter.keys <+: after.byQuarter.keys ∧
      (∀ a, after.byArtist.getD a StreamTotals.zero =
        (added.filter (·.artist = a)).foldl StreamTotals.addRow
          (before.byArtist.getD a StreamTotals.zero)) ∧
      ∀ q, after.byQuarter.getD q StreamTotals.zero =
        (added.filter (·.quarter = q)).foldl StreamTotals.addRow
          (before.byQuarter.getD q StreamTotals.zero)) :=
  ⟨analyzeStreams_consistent s artist quarter, platformBreakdown_consistent s artist,
    geographyReport_consistent s artist, analyzeStreams_loadData s batch artist quarter⟩

end AnalyticsAgent

end MusicLabel
