import MusicLabel.Analytics.Grouping

/-
  `top_tracks(n, quarter)`: the tracks of the selected rows, each with
  the totals of its rows, sorted by streams, most first, then cut to
  the first `n`.

  A track's key is its title, or `"<artist> - unknown"` for a row with
  none, and its entry takes the artist of the first row with that key.
  The list returned names each track at most once, gives it the totals
  of all its rows, is sorted, and leaves out no track with more streams
  than one it lists; when `n` reaches the number of tracks it lists
  them all, and their streams add up to the streams of the rows.

  Correctness is proven by:
    * `AnalyticsAgent.get?_trackStreams`: the entry of each track
    * `AnalyticsAgent.topTracks_spec`: the top-`n` contract
    * `AnalyticsAgent.sum_topTracks_streams`: nothing is lost when all fit
-/

------------------------------------------------------------
-- The Entry of a Track
------------------------------------------------------------

namespace MusicLabel

namespace TrackEntry

/- A run of rows adds their streams and their revenues left to right. -/
theorem foldl_addRow
    (rows : List StreamData)
    (entry : TrackEntry) :
    rows.foldl addRow entry =
      { entry with
        streams := entry.streams + (rows.map (·.streams)).sum
        revenue := (rows.map (·.revenue)).foldl PyFloat.add entry.revenue } := by
  induction rows generalizing entry with
  | nil => simp
  | cons d rows ih =>
      rw [List.foldl_cons, ih]
      simp only [addRow, List.map_cons, List.sum_cons, List.foldl_cons, TrackEntry.mk.injEq,
        true_and, and_true]
      omega

end TrackEntry

namespace AnalyticsAgent

instance : IsTotal TrackEntry StreamsAtLeast :=
  ⟨fun a b => le_total b.streams a.streams⟩

instance : IsTrans TrackEntry StreamsAtLeast :=
  ⟨fun _ _ _ hab hbc => le_trans hbc hab⟩

/-
  The entry of the track with key `k`: the key, the artist of its first
  row, and the streams and revenues of its rows; none without rows.
-/
def trackOf (rows : List StreamData) (k : String) : Option TrackEntry :=
  match rows.filter (trackKey · = k) with
  | [] => none
  | d :: own =>
      some ⟨k, d.artist, ((d :: own).map (·.streams)).sum,
        ((d :: own).map (·.revenue)).foldl PyFloat.add (PyFloat.zero false)⟩

/- An entry names the key it is filed under. -/
theorem track_of_trackOf
    {rows : List StreamData}
    {k : String}
    {e : TrackEntry}
    (h : trackOf rows k = some e) :
    e.track = k := by
  unfold trackOf at h
  split at h
  · cases h
  · cases h
    rfl

/- The loop of `top_tracks` leaves each track the entry its rows make. -/
theorem get?_trackStreams
    (rows : List StreamData)
    (k : String) :
    (trackStreams rows).get? k = trackOf rows k := by
  rw [trackStreams, get?_foldl_accumulate]
  unfold trackOf
  split
  · next hNone => rw [hNone]; rfl
  · next d own hOwn =>
      have hKey : trackKey d = k := by
        have hMem : d ∈ rows.filter (trackKey · = k) := hOwn ▸ List.mem_cons_self d own
        simpa using (List.mem_filter.mp hMem).2
      rw [hOwn, List.foldl_cons, PyDict.get?_empty, Option.getD_none, foldl_some_update,
        TrackEntry.foldl_addRow]
      simp [TrackEntry.addRow, hKey]

/- The entries of the loop are the tracks' entries, and each is filed under its own title. -/
theorem mem_trackStreams_values
    {rows : List StreamData}
    {e : TrackEntry} :
    e ∈ (trackStreams rows).entries.map (·.2) ↔ trackOf rows e.track = some e := by
  constructor
  · intro hValue
    obtain ⟨⟨k, e⟩, hEntry, rfl⟩ := List.mem_map.mp hValue
    have hOf : trackOf rows k = some e := by
      rw [← get?_trackStreams, ← PyDict.mem_entries_iff]
      exact hEntry
    rwa [track_of_trackOf hOf]
  · intro hOf
    exact List.mem_map.mpr ⟨(e.track, e), PyDict.mem_entries_iff.mpr
      ((get?_trackStreams rows e.track).trans hOf), rfl⟩

/- The titles of the entries are the keys of the loop, so each comes once. -/
theorem nodup_trackStreams_tracks
    (rows : List StreamData) :
    ((trackStreams rows).entries.map (·.2.track)).Nodup := by
  have hTracks : (trackStreams rows).entries.map (·.2.track) = (trackStreams rows).keys := by
    refine List.map_congr_left fun entry hEntry => ?_
    exact track_of_trackOf ((get?_trackStreams rows entry.1).symm.trans
      (PyDict.mem_entries_iff.mp hEntry))
  rw [hTracks]
  exact (trackStreams rows).nodup

end AnalyticsAgent

end MusicLabel

------------------------------------------------------------
-- The Top Tracks
------------------------------------------------------------

namespace MusicLabel

namespace AnalyticsAgent

variable (s : AnalyticsAgent) (n : Int) (quarter : Option String)

/-
  `top_tracks(n, quarter)` lists each track at most once, with the
  totals of all its rows, most streams first, and every track it leaves
  out has no more streams than any track it lists.
-/
theorem topTracks_spec :
    let rows := s.filter none quarter
    let top := s.topTracks n quarter
    top.Sorted StreamsAtLeast ∧
      (top.map (·.track)).Nodup ∧
      (∀ e ∈ top, trackOf rows e.track = some e) ∧
      ∀ k other, trackOf rows k = some other → other ∉ top → ∀ e ∈ top, other.streams ≤ e.streams := by
  intro rows top
  set values := (trackStreams rows).entries.map (·.2)
  set sorted := values.insertionSort StreamsAtLeast
  have hPerm : sorted.Perm values := List.perm_insertionSort _ values
  have hSorted : sorted.Sorted StreamsAtLeast := List.sorted_insertionSort _ values
  obtain ⟨m, hTop⟩ : ∃ m, top = sorted.take m := ⟨_, rfl⟩
  have hSub : top.Sublist sorted := hTop ▸ List.take_sublist m sorted
  refine ⟨hSorted.sublist hSub, ?_, fun e he => ?_, fun k other hOther hOut e he => ?_⟩
  · have hValues : (values.map (·.track)).Nodup := by
      simpa [values, Function.comp_def] using nodup_trackStreams_tracks rows
    exact ((hPerm.map _).nodup_iff.mpr hValues).sublist (hSub.map _)
  · exact mem_trackStreams_values.mp (hPerm.subset (hSub.subset he))
  · have hValue : other ∈ sorted := hPerm.mem_iff.mpr <| mem_trackStreams_values.mpr
      (track_of_trackOf hOther ▸ hOther)
    rw [← List.take_append_drop m sorted] at hSorted hValue
    rw [hTop] at hOut he
    have hDropped : other ∈ sorted.drop m := (List.mem_append.mp hValue).resolve_left hOut
    exact (List.pairwise_append.mp hSorted).2.2 e he other hDropped

/-
  When `n` reaches the number of tracks, `top_tracks` lists every track
  and loses no stream.
-/
theorem sum_topTracks_streams
    (hAll : ((s.filter none quarter).map trackKey).dedup.length ≤ n) :
    ((s.topTracks n quarter).map (·.streams)).sum = ((s.filter none quarter).map (·.streams)).sum := by
  set rows := s.filter none quarter
  set values := (trackStreams rows).entries.map (·.2)
  have hLength : values.length = (rows.map trackKey).dedup.length := by
    rw [List.length_map, ← List.length_map _ Prod.fst, ← PyDict.keys, trackStreams,
      keys_foldl_accumulate, PyDict.keys_empty, ← RoyaltyManager.length_firstOccurrences]
    rfl
  have hTake : s.topTracks n quarter = values.insertionSort StreamsAtLeast := by
    rw [topTracks, sliceTo, List.take_of_length_le]
    rw [List.length_insertionSort, hLength]
    split <;> omega
  have hSum := sum_foldl_accumulate trackKey (fun d => ⟨trackKey d, d.artist, 0, PyFloat.zero false⟩)
    TrackEntry.addRow TrackEntry.streams StreamData.streams (fun _ => rfl) (fun _ _ => rfl) rows
    PyDict.empty
  rw [hTake, ((List.perm_insertionSort _ values).map _).sum_eq]
  simpa [values, PyDict.empty, Function.comp_def] using hSum

end AnalyticsAgent

end MusicLabel
