import MusicLabel.Analytics.Tracks

/-
  `calculate_rps` and `generate_digest`, the reports built on
  `analyze_streams`.

  `calculate_rps` divides revenue by streams, overall and for each
  artist of `analyze_streams`, in the same order; a count of streams
  that is not positive gives the `int` `0` instead. The loop over the
  artists stops at the first division that raises.

  `generate_digest` reports the totals of all rows, the number of
  distinct artists, the five top tracks, and a highlight for each of
  the three numbers that is positive.

  Correctness is proven by:
    * `foldlM_set_ok`: a loop that files each entry's result under its key
    * `AnalyticsAgent.calculateRps_spec`
    * `AnalyticsAgent.generateDigest_spec`
    * `AnalyticsAgent.digestReports_spec`: with `top_tracks` and the
      format of the streams
-/

------------------------------------------------------------
-- A Loop of Assignments
------------------------------------------------------------

namespace MusicLabel

open RoyaltyManager (appendKey)

/- Assigning keys that are all new, one after another, appends them in order. -/
theorem foldl_appendKey_of_nodup
    (keys : List String) :
    (ks : List String) → (keys ++ ks).Nodup → ks.foldl appendKey keys = keys ++ ks
  | [], _ => by simp
  | k :: ks, hNodup => by
      have hNew : k ∉ keys := fun hk =>
        (List.nodup_append.mp hNodup).2.2 hk (List.mem_cons_self k ks)
      rw [List.foldl_cons, appendKey, if_neg hNew,
        foldl_appendKey_of_nodup (keys ++ [k]) ks (by simpa using hNodup)]
      simp

section SetLoop

variable {α β ε : Type} (g : String × α → Except ε β)

/-
  A loop that files each entry's result under the entry's key and stops
  at the first error: when it finishes, each key of the entries holds
  its own entry's result, and every other key what it held.
-/
theorem foldlM_set_ok
    (entries : List (String × α))
    (hNodup : (entries.map (·.1)).Nodup)
    (start : PyDict String β)
    {d : PyDict String β}
    (h : entries.foldlM (fun acc entry => (g entry).map (acc.set entry.1 ·)) start = .ok d) :
    d.keys = (entries.map (·.1)).foldl appendKey start.keys ∧
      (∀ entry ∈ entries, ∃ v, g entry = .ok v ∧ d.get? entry.1 = some v) ∧
      ∀ k, k ∉ entries.map (·.1) → d.get? k = start.get? k := by
  induction entries generalizing start with
  | nil =>
      cases h
      exact ⟨rfl, by simp, fun _ _ => rfl⟩
  | cons e rest ih =>
      rw [List.foldlM_cons] at h
      cases hE : g e with
      | error err => rw [hE] at h; cases h
      | ok v =>
          rw [hE] at h
          rw [List.map_cons, List.nodup_cons] at hNodup
          obtain ⟨hKeys, hMem, hOther⟩ := ih hNodup.2 (start.set e.1 v) h
          refine ⟨by rw [hKeys, PyDict.keys_set]; rfl, fun entry hEntry => ?_, fun k hk => ?_⟩
          · rcases List.mem_cons.mp hEntry with rfl | hIn
            · exact ⟨v, hE, by rw [hOther _ hNodup.1, PyDict.get?_set, if_pos rfl]⟩
            · exact hMem entry hIn
          · rw [List.map_cons, List.mem_cons, not_or] at hk
            rw [hOther k hk.2, PyDict.get?_set, if_neg (Ne.symm hk.1)]

end SetLoop

end MusicLabel

------------------------------------------------------------
-- Revenue per Stream
------------------------------------------------------------

namespace MusicLabel

namespace AnalyticsAgent

variable {s : AnalyticsAgent}

/- Revenue per stream is the `int` `0` exactly when there are no positive streams. -/
theorem rps_eq_int_zero_iff
    {revenue : PyNum}
    {streams : ℤ}
    {v : PyNum}
    (h : rps revenue streams = .ok v) :
    v = .int 0 ↔ streams ≤ 0 := by
  unfold rps at h
  split at h
  · cases hDiv : revenue.divInt streams with
    | error e => rw [hDiv] at h; cases h
    | ok x =>
        rw [hDiv] at h
        cases h
        simp only [reduceCtorEq, false_iff, not_le]
        assumption
  · cases h
    simp only [true_iff]
    omega

/-
  `calculate_rps(artist)` reports the totals of `analyze_streams(artist)`
  and their revenue per stream, and for each artist of it, in the same
  order, that artist's revenue per stream: the `int` `0` exactly when
  the artist has no positive streams.
-/
theorem calculateRps_spec
    {artist : Option String}
    {r : RevenuePerStream}
    (h : s.calculateRps artist = .ok r) :
    let analysis := s.analyzeStreams artist none
    rps analysis.totalRevenue analysis.totalStreams = .ok r.overallRps ∧
      (r.overallRps = .int 0 ↔ analysis.totalStreams ≤ 0) ∧
      r.totalStreams = analysis.totalStreams ∧ r.totalRevenue = analysis.totalRevenue ∧
      r.byArtist.keys = analysis.byArtist.keys ∧
      ∀ name totals, analysis.byArtist.get? name = some totals →
        ∃ v, rps (.float totals.revenue) totals.streams = .ok v ∧ r.byArtist.get? name = some v ∧
          (v = .int 0 ↔ totals.streams ≤ 0) := by
  intro analysis
  unfold calculateRps at h
  simp only [bind, Except.bind, pure, Except.pure] at h
  split at h
  · cases h
  · next overall hOverall =>
      split at h
      · cases h
      · next byArtist hByArtist =>
          cases h
          obtain ⟨hKeys, hMem, -⟩ := foldlM_set_ok _ analysis.byArtist.entries
            analysis.byArtist.nodup PyDict.empty hByArtist
          refine ⟨hOverall, rps_eq_int_zero_iff hOverall, rfl, rfl, ?_, fun name totals hGet => ?_⟩
          · rw [hKeys, PyDict.keys_empty, foldl_appendKey_of_nodup [] _ analysis.byArtist.nodup]
            rfl
          · obtain ⟨v, hRps, hSet⟩ := hMem (name, totals) (PyDict.mem_entries_iff.mpr hGet)
            exact ⟨v, hRps, hSet, rps_eq_int_zero_iff hRps⟩

end AnalyticsAgent

end MusicLabel

------------------------------------------------------------
-- The Digest
------------------------------------------------------------

namespace MusicLabel

namespace AnalyticsAgent

/-
  `generate_digest` reports the streams of all rows, their revenue
  summed and rounded to two decimals, the number of distinct artists,
  the five top tracks, and a highlight for each of these three numbers
  that is positive, in that order.
-/
theorem generateDigest_spec
    (s : AnalyticsAgent)
    (period generatedAt : String) :
    let digest := s.generateDigest period generatedAt
    digest.totalStreams = (s.data.map (·.streams)).sum ∧
      digest.totalRevenue = (PyFloat.sum (s.data.map (·.revenue))).round 2 ∧
      digest.artistsActive = (s.data.map (·.artist)).dedup.length ∧
      digest.topTracks = s.topTracks 5 none ∧
      digest.highlights =
        (if 0 < digest.totalStreams then
          ["Total streams: " ++ formatGrouped digest.totalStreams] else []) ++
        (if revenuePositive digest.totalRevenue then
          ["Total revenue: " ++ formatRevenue digest.totalRevenue ++ " RUB"] else []) ++
        (if 0 < digest.artistsActive then
          ["Active artists: " ++ Nat.repr digest.artistsActive] else []) := by
  have hAll : s.filter none none = s.data := rfl
  have hCount := (analyzeStreams_consistent s none none).2.2.2.2.1
  simp only [hAll] at hCount
  exact ⟨rfl, rfl, hCount, rfl, rfl⟩

end AnalyticsAgent

end MusicLabel

------------------------------------------------------------
-- The Reports Together
------------------------------------------------------------

namespace MusicLabel

namespace AnalyticsAgent

/-
  The reports built on the groups, over any rows loaded:
  `top_tracks(n, quarter)` lists each track at most once, with the totals
  of its rows, most streams first, ahead of every track it leaves out,
  and once `n` reaches the number of tracks it loses no stream;
  `calculate_rps(artist)` divides the totals of `analyze_streams(artist)`,
  overall and for each artist in order; `generate_digest` reports the
  totals of all rows, the number of distinct artists, the five top
  tracks and its highlights, where `format(n, ",")` writes the streams as
  the digits of `str(n)` in groups of three after a first group of one
  to three.
-/
theorem digestReports_spec
    (s : AnalyticsAgent)
    (n : ℤ)
    (quarter artist : Option String)
    (period generatedAt : String) :
    (let rows := s.filter none quarter
     let top := s.topTracks n quarter
     top.Sorted StreamsAtLeast ∧
      (top.map (·.track)).Nodup ∧
      (∀ e ∈ top, trackOf rows e.track = some e) ∧
      ∀ k other, trackOf rows k = some other → other ∉ top → ∀ e ∈ top, other.streams ≤ e.streams) ∧
    (((s.filter none quarter).map trackKey).dedup.length ≤ n →
      ((s.topTracks n quarter).map (·.streams)).sum = ((s.filter none quarter).map (·.streams)).sum) ∧
    (∀ r, s.calculateRps artist = .ok r →
      let analysis := s.analyzeStreams artist none
      rps analysis.totalRevenue analysis.totalStreams = .ok r.overallRps ∧
        (r.overallRps = .int 0 ↔ analysis.totalStreams ≤ 0) ∧
        r.totalStreams = analysis.totalStreams ∧ r.totalRevenue = analysis.totalRevenue ∧
        r.byArtist.keys = analysis.byArtist.keys ∧
        ∀ name totals, analysis.byArtist.get? name = some totals →
          ∃ v, rps (.float totals.revenue) totals.streams = .ok v ∧ r.byArtist.get? name = some v ∧
            (v = .int 0 ↔ totals.streams ≤ 0)) ∧
    (let digest := s.generateDigest period generatedAt
     digest.totalStreams = (s.data.map (·.streams)).sum ∧
      digest.totalRevenue = (PyFloat.sum (s.data.map (·.revenue))).round 2 ∧
      digest.artistsActive = (s.data.map (·.artist)).dedup.length ∧
      digest.topTracks = s.topTracks 5 none ∧
      digest.highlights =
        (if 0 < digest.totalStreams then
          ["Total streams: " ++ formatGrouped digest.totalStreams] else []) ++
        (if revenuePositive digest.totalRevenue then
          ["Total revenue: " ++ formatRevenue digest.totalRevenue ++ " RUB"] else []) ++
        (if 0 < digest.artistsActive then
          ["Active artists: " ++ Nat.repr digest.artistsActive] else []) ∧
      (formatGrouped digest.totalStreams).data.filter (· ≠ ',') = (toString digest.totalStreams).data ∧
      ∃ (first : List Char) (groups : List (List Char)),
        (formatGrouped digest.totalStreams).data =
          (if digest.totalStreams < 0 then ['-'] else []) ++ first ++ (groups.map (',' :: ·)).flatten ∧
        first ++ groups.flatten = (Nat.repr digest.totalStreams.natAbs).data ∧ 1 ≤ first.length ∧
        first.length ≤ 3 ∧ ∀ g ∈ groups, g.length = 3) := by
  obtain ⟨hStreams, hRevenue, hArtists, hTop, hHighlights⟩ := generateDigest_spec s period generatedAt
  exact ⟨topTracks_spec s n quarter, sum_topTracks_streams s n quarter, fun _ h => calculateRps_spec h,
    hStreams, hRevenue, hArtists, hTop, hHighlights, filter_formatGrouped _, formatGrouped_shape _⟩

set_option exponentiation.threshold 1100 in
set_option maxRecDepth 8000 in
/-
  The theorem for two artists with one track each and a revenue of `1.0`
  per stream: all tracks fit in `n = 5`, and `calculate_rps()` returns.
-/
theorem digestReports_spec_at_two_artists :
    let s : AnalyticsAgent := ⟨[⟨"A", "2025-Q1", 100, PyFloat.ofNat 100, "", "", "t1"⟩,
      ⟨"B", "2025-Q1", 100, PyFloat.ofNat 100, "", "", "t2"⟩]⟩
    let r : RevenuePerStream := ⟨.float (PyFloat.ofNat 1), 200, .float (PyFloat.ofNat 200),
      (PyDict.empty.set "A" (.float (PyFloat.ofNat 1))).set "B" (.float (PyFloat.ofNat 1))⟩
    let analysis := s.analyzeStreams none none
    ((s.filter none none).map trackKey).dedup.length ≤ (5 : ℤ) ∧ s.calculateRps none = .ok r ∧
      ((s.topTracks 5 none).map (·.streams)).sum = ((s.filter none none).map (·.streams)).sum ∧
      rps analysis.totalRevenue analysis.totalStreams = .ok r.overallRps ∧
      (r.overallRps = .int 0 ↔ analysis.totalStreams ≤ 0) ∧
      r.totalStreams = analysis.totalStreams ∧ r.totalRevenue = analysis.totalRevenue ∧
      r.byArtist.keys = analysis.byArtist.keys ∧
      ∀ name totals, analysis.byArtist.get? name = some totals →
        ∃ v, rps (.float totals.revenue) totals.streams = .ok v ∧ r.byArtist.get? name = some v ∧
          (v = .int 0 ↔ totals.streams ≤ 0) := by
  intro s r analysis
  have hAll : ((s.filter none none).map trackKey).dedup.length ≤ (5 : ℤ) := by decide
  have hRps : s.calculateRps none = .ok r := by simp only [s, r]; rfl
  have hReports := digestReports_spec s 5 none none "2025-Q1" "2025-04-01"
  exact ⟨hAll, hRps, hReports.2.1 hAll, hReports.2.2.1 r hRps⟩

end AnalyticsAgent

end MusicLabel
