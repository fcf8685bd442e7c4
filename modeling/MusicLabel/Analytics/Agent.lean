import MusicLabel.Python.Number
import MusicLabel.Python.Dict

/-
  The streaming analytics of `analytics.py`: `AnalyticsAgent` holds
  `StreamData` rows, one per artist, quarter, platform, country and
  track, and reports on them: totals grouped by artist and by quarter,
  quarter-over-quarter trends, a linear forecast, the top tracks, the
  revenue by platform and by country, revenue per stream, and a digest.

  Every report groups rows with the same loop: the first row of a key
  creates its entry, and each row adds its streams and its revenue to
  it (`accumulate`). Streams are integers and add exactly; revenue is a
  float, added left to right.

  `datetime.utcnow().isoformat()` is a parameter. `db_connection`,
  `olap_client` and the `BaseAgent` fields are read by no method.

  Main declarations:
    * `StreamData`, `AnalyticsAgent`, `StreamTotals`, `accumulate`
    * `AnalyticsAgent.analyzeStreams`, `AnalyticsAgent.detectTrends`,
      `AnalyticsAgent.forecast`, `AnalyticsAgent.topTracks`,
      `AnalyticsAgent.platformBreakdown`, `AnalyticsAgent.geographyReport`,
      `AnalyticsAgent.calculateRps`, `AnalyticsAgent.generateDigest`
-/

------------------------------------------------------------
-- Rows, Groups and Slices
------------------------------------------------------------

namespace MusicLabel

/- `StreamData`, with its defaults; streams are an `int` and revenue a `float`, as annotated. -/
structure StreamData where
  artist : String
  quarter : String
  streams : Int
  revenue : PyFloat
  platform : String := ""
  country : String := ""
  track : String := ""
  deriving DecidableEq

/- The field of `AnalyticsAgent` its methods read: `_data`. -/
structure AnalyticsAgent where
  data : List StreamData

/- The `{"streams", "revenue"}` dict of a group. -/
structure StreamTotals where
  streams : Int
  revenue : PyFloat
  deriving DecidableEq

namespace StreamTotals

/- `{"streams": 0, "revenue": 0.0}`. -/
def zero : StreamTotals :=
  ⟨0, PyFloat.zero false⟩

/- `entry["streams"] += d.streams; entry["revenue"] += d.revenue`. -/
def addRow (totals : StreamTotals) (d : StreamData) : StreamTotals :=
  ⟨totals.streams + d.streams, totals.revenue.add d.revenue⟩

end StreamTotals

/-
  One pass of a grouping loop: `if key not in groups: groups[key] =
  init(d)`, then the entry updated with the row.
-/
def accumulate
    {α : Type}
    (key : StreamData → String)
    (init : StreamData → α)
    (update : α → StreamData → α)
    (groups : PyDict String α)
    (d : StreamData) : PyDict String α :=
  groups.set (key d) (update ((groups.get? (key d)).getD (init d)) d)

/- `xs[start:]`: a negative start counts from the end. -/
def sliceFrom {α : Type} (start : Int) (xs : List α) : List α :=
  xs.drop (if start < 0 then (xs.length + start).toNat else start.toNat)

/- `xs[:stop]`: a negative stop counts from the end. -/
def sliceTo {α : Type} (stop : Int) (xs : List α) : List α :=
  xs.take (if stop < 0 then (xs.length + stop).toNat else stop.toNat)

/- `if text:`: `None` and `""` are false. -/
def isGiven (text : Option String) : Option String :=
  match text with
  | some value => if value = "" then none else some value
  | none => none

namespace AnalyticsAgent

/- `load_data(data)`: `self._data.extend(data)`. -/
def loadData (s : AnalyticsAgent) (data : List StreamData) : AnalyticsAgent :=
  ⟨s.data ++ data⟩

/- `_filter(artist, quarter)`: a given artist, then a given quarter, keeps its rows. -/
def filter (s : AnalyticsAgent) (artist quarter : Option String) : List StreamData :=
  let rows := match isGiven artist with
    | some artist => s.data.filter (·.artist = artist)
    | none => s.data
  match isGiven quarter with
  | some quarter => rows.filter (·.quarter = quarter)
  | none => rows

end AnalyticsAgent

end MusicLabel

------------------------------------------------------------
-- Totals by Artist and by Quarter
------------------------------------------------------------

namespace MusicLabel

/- The dict `analyze_streams` returns. -/
structure StreamAnalysis where
  totalStreams : Int
  totalRevenue : PyNum
  artistsCount : Nat
  quartersCount : Nat
  byArtist : PyDict String StreamTotals
  byQuarter : PyDict String StreamTotals

namespace AnalyticsAgent

/- The groups of a loop of `analyze_streams`, keyed by `key`. -/
def totalsBy (key : StreamData → String) (rows : List StreamData) : PyDict String StreamTotals :=
  rows.foldl (accumulate key (fun _ => StreamTotals.zero) StreamTotals.addRow) PyDict.empty

/-
  `analyze_streams(artist, quarter)`. The loop fills `by_artist` and
  `by_quarter` together; neither reads the other, so they are built one
  after the other here.
-/
def analyzeStreams (s : AnalyticsAgent) (artist quarter : Option String) : StreamAnalysis :=
  let filtered := s.filter artist quarter
  let byArtist := totalsBy (·.artist) filtered
  let byQuarter := totalsBy (·.quarter) filtered
  ⟨(filtered.map (·.streams)).sum, (PyFloat.sum (filtered.map (·.revenue))).round 2,
    byArtist.entries.length, byQuarter.entries.length, byArtist, byQuarter⟩

end AnalyticsAgent

end MusicLabel

------------------------------------------------------------
-- Trends and Forecasts
------------------------------------------------------------

namespace MusicLabel

/- An entry of `changes` in `detect_trends`. -/
structure TrendChange where
  fromQuarter : String
  toQuarter : String
  changePct : PyFloat
  deriving DecidableEq

/- The dicts `detect_trends` returns. -/
inductive TrendReport
  | noData (artist : String)
  | insufficientData (artist : String) (periods : Nat)
  | trend (artist direction : String) (averageGrowthPct : PyFloat) (periods : Nat)
      (changes : List TrendChange)
  deriving DecidableEq

/- The dicts `forecast` returns; a forecast entry is `quarter_offset` and `predicted_streams`. -/
inductive Forecast
  | noData (artist : String)
  | tooFewQuarters (artist : String)
  | linear (artist baseQuarter : String) (baseStreams avgDelta : Int)
      (forecast : List (String × Int))
  deriving DecidableEq

namespace AnalyticsAgent

/- `quarterly`: the streams of each quarter, quarters in order of first occurrence. -/
def quarterly (rows : List StreamData) : PyDict String Int :=
  rows.foldl (accumulate (·.quarter) (fun _ => 0) fun streams d => streams + d.streams) PyDict.empty

/- `sorted(quarterly.keys())`. -/
def sortedQuarters (quarterly : PyDict String Int) : List String :=
  quarterly.keys.insertionSort (· ≤ ·)

/- The change from one quarter to the next, in percent. -/
def changeOf (quarterly : PyDict String Int) (prevQ currQ : String) :
    Except PyError TrendChange :=
  let prevVal := quarterly.getD prevQ 0
  let currVal := quarterly.getD currQ 0
  if 0 < prevVal then
    (PyFloat.trueDiv (currVal - prevVal) prevVal.toNat).map fun ratio =>
      ⟨prevQ, currQ, (ratio.mul (PyFloat.ofNat 100)).roundDigits 1⟩
  else .ok ⟨prevQ, currQ, if 0 < currVal then PyFloat.ofNat 100 else PyFloat.zero false⟩

/- `"growing"` above `5`, `"declining"` below `-5`, `"stable"` otherwise (a NaN included). -/
def direction (avgGrowth : PyFloat) : String :=
  if PyFloat.lt (PyFloat.ofNat 5) avgGrowth then "growing"
  else if PyFloat.lt avgGrowth (PyFloat.ofRatio true 5 1) then "declining"
  else "stable"

/- `detect_trends(artist, periods)`. -/
def detectTrends (s : AnalyticsAgent) (artist : String) (periods : Int) :
    Except PyError TrendReport := do
  let data := s.data.filter (·.artist = artist)
  if data = [] then return .noData artist
  let quarterly := quarterly data
  let sortedQuarters := sliceFrom (-periods) (sortedQuarters quarterly)
  if sortedQuarters.length < 2 then return .insufficientData artist sortedQuarters.length
  let changes ← (sortedQuarters.zip sortedQuarters.tail).mapM fun (prevQ, currQ) =>
    changeOf quarterly prevQ currQ
  let avgGrowth ← (PyFloat.sum (changes.map (·.changePct))).divInt changes.length
  return .trend artist (direction avgGrowth) (avgGrowth.roundDigits 1) sortedQuarters.length changes

/- `max(0, int(last_value + avg_delta * i))`, the forecast `i` quarters ahead. -/
def predicted (lastValue : Int) (avgDelta : PyFloat) (i : Nat) : Except PyError Int := do
  let step ← avgDelta.mulInt i
  let value ← PyFloat.intAdd lastValue step
  let streams ← value.toInt
  return max 0 streams

/- `forecast(artist, quarters_ahead)`. -/
def forecast (s : AnalyticsAgent) (artist : String) (quartersAhead : Int) :
    Except PyError Forecast := do
  let data := s.data.filter (·.artist = artist)
  if data = [] then return .noData artist
  let quarterly := quarterly data
  let sortedQ := sortedQuarters quarterly
  if sortedQ.length < 2 then return .tooFewQuarters artist
  let deltas := (sortedQ.zip sortedQ.tail).map fun (prevQ, currQ) =>
    quarterly.getD currQ 0 - quarterly.getD prevQ 0
  let avgDelta ← PyFloat.trueDiv deltas.sum deltas.length
  let baseQuarter := sortedQ.getLastD ""
  let lastValue := quarterly.getD baseQuarter 0
  let forecasts ← (List.range quartersAhead.toNat).mapM fun j => do
    let streams ← predicted lastValue avgDelta (j + 1)
    return ("+" ++ Nat.repr (j + 1), streams)
  let avgDeltaInt ← avgDelta.toInt
  return .linear artist baseQuarter lastValue avgDeltaInt forecasts

end AnalyticsAgent

end MusicLabel

------------------------------------------------------------
-- Tracks, Platforms, Countries and Revenue per Stream
------------------------------------------------------------

namespace MusicLabel

/- An entry of `top_tracks`. -/
structure TrackEntry where
  track : String
  artist : String
  streams : Int
  revenue : PyFloat
  deriving DecidableEq

/- An entry of `platform_breakdown`. -/
structure PlatformShare where
  streams : Int
  revenue : PyFloat
  sharePct : PyFloat
  deriving DecidableEq

/- The dict `calculate_rps` returns. -/
structure RevenuePerStream where
  overallRps : PyNum
  totalStreams : Int
  totalRevenue : PyNum
  byArtist : PyDict String PyNum

namespace TrackEntry

/- `track_streams[key]["streams"] += d.streams; ...["revenue"] += d.revenue`. -/
def addRow (entry : TrackEntry) (d : StreamData) : TrackEntry :=
  { entry with streams := entry.streams + d.streams, revenue := entry.revenue.add d.revenue }

end TrackEntry

namespace AnalyticsAgent

/- `d.track or f"{d.artist} - unknown"`. -/
def trackKey (d : StreamData) : String :=
  if d.track = "" then d.artist ++ " - unknown" else d.track

/- The order of `top_tracks`: `a` may stand before `b` when it has at least as many streams. -/
def StreamsAtLeast (a b : TrackEntry) : Prop :=
  b.streams ≤ a.streams

instance : DecidableRel StreamsAtLeast :=
  fun a b => inferInstanceAs (Decidable (b.streams ≤ a.streams))

/- The entries of `track_streams`, one per track key, in order of first occurrence. -/
def trackStreams (rows : List StreamData) : PyDict String TrackEntry :=
  rows.foldl (accumulate trackKey (fun d => ⟨trackKey d, d.artist, 0, PyFloat.zero false⟩)
    TrackEntry.addRow) PyDict.empty

/-
  `top_tracks(n, quarter)`: the tracks sorted by streams, most first,
  with `sorted(..., reverse=True)`, a stable sort written as an
  insertion sort, then `[:n]`.
-/
def topTracks (s : AnalyticsAgent) (n : Int) (quarter : Option String) : List TrackEntry :=
  sliceTo n (((trackStreams (s.filter none quarter)).entries.map (·.2)).insertionSort StreamsAtLeast)

/- `d.platform or "unknown"`. -/
def platformKey (d : StreamData) : String :=
  if d.platform = "" then "unknown" else d.platform

/- `d.country or "unknown"`. -/
def countryKey (d : StreamData) : String :=
  if d.country = "" then "unknown" else d.country

/- The entries of a dict with `f` applied to each value, as the loops that mutate them in place leave them. -/
def mapValues {α β : Type} (f : α → β) (d : PyDict String α) : PyDict String β :=
  ⟨d.entries.map fun entry => (entry.1, f entry.2), by simpa [List.map_map] using d.nodup⟩

/-
  `platform_breakdown(artist)`: each platform's revenue rounded to two
  decimals, and its share of the unrounded total, computed from the
  rounded revenue, in percent to one decimal; `0.0` when the total is
  not positive.
-/
def platformBreakdown (s : AnalyticsAgent) (artist : Option String) :
    PyDict String PlatformShare :=
  let filtered := s.filter artist none
  let platforms := totalsBy platformKey filtered
  let totalRevenue := filtered.foldl (fun total d => total.add d.revenue) (PyFloat.zero false)
  mapValues (fun totals =>
    let revenue := totals.revenue.roundDigits 2
    ⟨totals.streams, revenue,
      if PyFloat.lt (PyFloat.zero false) totalRevenue then
        ((revenue.div totalRevenue).mul (PyFloat.ofNat 100)).roundDigits 1
      else PyFloat.zero false⟩) platforms

/- `geography_report(artist)`: each country's totals, revenue rounded to two decimals. -/
def geographyReport (s : AnalyticsAgent) (artist : Option String) :
    PyDict String StreamTotals :=
  mapValues (fun totals => { totals with revenue := totals.revenue.roundDigits 2 })
    (totalsBy countryKey (s.filter artist none))

/- `round(revenue / streams, 6) if streams > 0 else 0`. -/
def rps (revenue : PyNum) (streams : Int) : Except PyError PyNum :=
  if 0 < streams then (revenue.divInt streams).map fun x => .float (x.roundDigits 6)
  else .ok (.int 0)

/- `calculate_rps(artist)`: the rounded total revenue per stream, and each artist's unrounded. -/
def calculateRps (s : AnalyticsAgent) (artist : Option String) : Except PyError RevenuePerStream := do
  let analysis := s.analyzeStreams artist none
  let overallRps ← rps analysis.totalRevenue analysis.totalStreams
  let byArtist ← analysis.byArtist.entries.foldlM (fun (byArtistRps : PyDict String PyNum) entry =>
    (rps (.float entry.2.revenue) entry.2.streams).map (byArtistRps.set entry.1 ·)) PyDict.empty
  return ⟨overallRps, analysis.totalStreams, analysis.totalRevenue, byArtist⟩

end AnalyticsAgent

end MusicLabel

------------------------------------------------------------
-- The Digest
------------------------------------------------------------

namespace MusicLabel

/- The dict `generate_digest` returns. -/
structure Digest where
  period : String
  generatedAt : String
  totalStreams : Int
  totalRevenue : PyNum
  artistsActive : Nat
  topTracks : List TrackEntry
  highlights : List String

namespace AnalyticsAgent

/-
  `f"{total_revenue:,.2f}"`. The total is an `int` only when no row is
  counted, and then it is `0`, which the digest never prints.
-/
def formatRevenue : PyNum → String
  | .int n => formatGrouped n ++ ".00"
  | .float x => x.formatGroupedFixed2

/- `total_revenue > 0`. -/
def revenuePositive : PyNum → Bool
  | .int n => 0 < n
  | .float x => PyFloat.lt (PyFloat.zero false) x

/- `_generate_highlights(analysis)`. -/
def generateHighlights (analysis : StreamAnalysis) : List String :=
  (if 0 < analysis.totalStreams then
    ["Total streams: " ++ formatGrouped analysis.totalStreams] else []) ++
  (if revenuePositive analysis.totalRevenue then
    ["Total revenue: " ++ formatRevenue analysis.totalRevenue ++ " RUB"] else []) ++
  (if 0 < analysis.artistsCount then
    ["Active artists: " ++ Nat.repr analysis.artistsCount] else [])

/- `generate_digest(period)` at the clock reading `generatedAt`. -/
def generateDigest (s : AnalyticsAgent) (period generatedAt : String) : Digest :=
  let analysis := s.analyzeStreams none none
  ⟨period, generatedAt, analysis.totalStreams, analysis.totalRevenue, analysis.artistsCount,
    s.topTracks 5 none, generateHighlights analysis⟩

end AnalyticsAgent

end MusicLabel
