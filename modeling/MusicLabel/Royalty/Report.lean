import MusicLabel.Royalty.Advances

/-
  `RoyaltyManager.generate_report`: the report metadata for one artist
  and quarter, with the payout amounts as strings and the report's file
  name.

  The file name interpolates the artist as it is and replaces only the
  spaces of the quarter. It holds a path separator or NUL exactly when
  one of its parts does, and it determines the artist and the quarter
  only when neither contains an underscore.

  A report built from what `calculate` returned shows each paid
  artist's own payout (there is one per artist), and `Decimal(s)` reads
  its amount strings back to the payout's decimals exactly: every amount
  is a context result or a value of the caches, so it lies within the
  exponent bounds `Decimal(s)` accepts.

  Main declarations:
    * `RoyaltyManager.reportFilename`, `RoyaltyManager.generateReport`
    * `RoyaltyManager.reportFilename_safe_iff`
    * `RoyaltyManager.reportFilename_injective`
    * `RoyaltyManager.generateReport_of_calculate`
-/

------------------------------------------------------------
-- Report Metadata
------------------------------------------------------------

namespace MusicLabel

namespace RoyaltyManager

/- The `"payout"` part of a report: amounts as `str` prints them. -/
structure PayoutSummary where
  grossRevenue : String
  splitPct : String
  artistShare : String
  advanceDeducted : String
  netPayout : String
  deriving DecidableEq, Repr

/- The report metadata `generate_report` returns (without its timestamp). -/
structure Report where
  artist : String
  quarter : String
  format : String
  payout : PayoutSummary
  filename : String
  deriving DecidableEq, Repr

/- `c` with a space read as an underscore. -/
def underscoreSpace (c : Char) : Char :=
  if c = ' ' then '_' else c

/- `quarter.replace(' ', '_')`. -/
def underscoreSpaces (quarter : String) : String :=
  ⟨quarter.data.map underscoreSpace⟩

/- `f"royalty_{artist}_{quarter.replace(' ', '_')}.{fmt}"`. -/
def reportFilename (artist quarter fmt : String) : String :=
  "royalty_" ++ artist ++ "_" ++ underscoreSpaces quarter ++ "." ++ fmt

/- The amounts of a payout, or `"0"` each without one. -/
def PayoutSummary.of : Option ArtistPayout → PayoutSummary
  | some p =>
      ⟨p.grossRevenue.toSciString, p.splitPct.toSciString,
        p.artistShare.toSciString, p.advanceDeducted.toSciString,
        p.netPayout.toSciString⟩
  | none => ⟨"0", "0", "0", "0", "0"⟩

/-
  `generate_report(artist, quarter, fmt, payouts)`: the first payout of
  the artist among `payouts`, if any, and the file name.
-/
def generateReport
    (artist quarter fmt : String)
    (payouts : Option (List ArtistPayout)) : Report :=
  let payout := (payouts.getD []).find? fun p => p.artist = artist
  ⟨artist, quarter, fmt, PayoutSummary.of payout, reportFilename artist quarter fmt⟩

end RoyaltyManager

end MusicLabel

------------------------------------------------------------
-- File Name Safety and Injectivity
------------------------------------------------------------

namespace MusicLabel

namespace RoyaltyManager

/-
  A string is a single safe path component: no `/`, no `\\`, no NUL.
-/
def IsSafeComponent (s : String) : Prop :=
  '/' ∉ s.data ∧ '\\' ∉ s.data ∧ '\x00' ∉ s.data

instance (s : String) : Decidable (IsSafeComponent s) := by
  unfold IsSafeComponent
  infer_instance

/- The characters of the file name, part by part. -/
theorem reportFilename_data
    (artist quarter fmt : String) :
    (reportFilename artist quarter fmt).data =
      "royalty_".data ++ artist.data ++ '_' ::
        ((quarter.data.map underscoreSpace) ++ '.' :: fmt.data) := by
  simp [reportFilename, underscoreSpaces, String.data_append]

/- Replacing spaces leaves every other character where it was. -/
theorem mem_map_underscoreSpace
    {c : Char}
    (hSpace : c ≠ ' ')
    (hUnderscore : c ≠ '_')
    (cs : List Char) :
    c ∈ cs.map underscoreSpace ↔ c ∈ cs := by
  constructor
  · intro h
    obtain ⟨d, hd, hEq⟩ := List.mem_map.mp h
    unfold underscoreSpace at hEq
    split at hEq
    · exact absurd hEq.symm hUnderscore
    · exact hEq ▸ hd
  · intro h
    exact List.mem_map.mpr ⟨c, h, by simp [underscoreSpace, hSpace]⟩

/-
  A character that is not in `royalty_` and is no space, underscore or
  dot occurs in the file name exactly when it occurs in a part.
-/
theorem mem_reportFilename_data
    {c : Char}
    (hPrefix : c ∉ "royalty_".data)
    (hSpace : c ≠ ' ')
    (hUnderscore : c ≠ '_')
    (hDot : c ≠ '.')
    (artist quarter fmt : String) :
    c ∈ (reportFilename artist quarter fmt).data ↔
      c ∈ artist.data ∨ c ∈ quarter.data ∨ c ∈ fmt.data := by
  simp only [reportFilename_data, List.mem_append, List.mem_cons, hPrefix, hUnderscore, hDot,
    mem_map_underscoreSpace hSpace hUnderscore, false_or]

/-
  The file name is a safe path component exactly when the artist, the
  quarter and the format are.
-/
theorem reportFilename_safe_iff
    (artist quarter fmt : String) :
    IsSafeComponent (reportFilename artist quarter fmt) ↔
      IsSafeComponent artist ∧ IsSafeComponent quarter ∧
        IsSafeComponent fmt := by
  simp only [IsSafeComponent,
    mem_reportFilename_data (c := '/') (by decide) (by decide) (by decide) (by decide),
    mem_reportFilename_data (c := '\\') (by decide) (by decide) (by decide) (by decide),
    mem_reportFilename_data (c := '\x00') (by decide) (by decide) (by decide) (by decide),
    not_or]
  -- the same nine facts, grouped by character on the left and by part on the right
  constructor
  · rintro ⟨⟨a₁, q₁, f₁⟩, ⟨a₂, q₂, f₂⟩, ⟨a₃, q₃, f₃⟩⟩
    exact ⟨⟨a₁, a₂, a₃⟩, ⟨q₁, q₂, q₃⟩, ⟨f₁, f₂, f₃⟩⟩
  · rintro ⟨⟨a₁, a₂, a₃⟩, ⟨q₁, q₂, q₃⟩, ⟨f₁, f₂, f₃⟩⟩
    exact ⟨⟨a₁, q₁, f₁⟩, ⟨a₂, q₂, f₂⟩, ⟨a₃, q₃, f₃⟩⟩

/- Two lists split at a separator that neither prefix contains. -/
theorem append_cons_inj_of_not_mem
    {x : Char}
    {l₁ l₂ r₁ r₂ : List Char}
    (h₁ : x ∉ l₁)
    (h₂ : x ∉ l₂)
    (hEq : l₁ ++ x :: r₁ = l₂ ++ x :: r₂) :
    l₁ = l₂ ∧ r₁ = r₂ := by
  induction l₁ generalizing l₂ with
  | nil =>
      cases l₂ with
      | nil => simpa using hEq
      | cons y l₂ =>
          simp only [List.nil_append, List.cons_append, List.cons.injEq] at hEq
          exact absurd (hEq.1 ▸ List.mem_cons_self y l₂) h₂
  | cons y l₁ ih =>
      cases l₂ with
      | nil =>
          simp only [List.nil_append, List.cons_append, List.cons.injEq] at hEq
          exact absurd (hEq.1 ▸ List.mem_cons_self y l₁) h₁
      | cons z l₂ =>
          simp only [List.cons_append, List.cons.injEq] at hEq
          obtain ⟨hl, hr⟩ := ih (fun h => h₁ (List.mem_cons_of_mem y h))
            (fun h => h₂ (List.mem_cons_of_mem z h)) hEq.2
          exact ⟨by rw [hEq.1, hl], hr⟩

/- Replacing spaces is injective on text without underscores. -/
theorem map_underscoreSpace_injective
    {l₁ l₂ : List Char}
    (h₁ : '_' ∉ l₁)
    (h₂ : '_' ∉ l₂)
    (hEq : l₁.map underscoreSpace = l₂.map underscoreSpace) :
    l₁ = l₂ := by
  induction l₁ generalizing l₂ with
  | nil => simpa using hEq.symm
  | cons c l₁ ih =>
      cases l₂ with
      | nil => simp at hEq
      | cons d l₂ =>
          simp only [List.map_cons, List.cons.injEq] at hEq
          have hc : c ≠ '_' := fun h => h₁ (h ▸ List.mem_cons_self c l₁)
          have hd : d ≠ '_' := fun h => h₂ (h ▸ List.mem_cons_self d l₂)
          have hHead : c = d := by
            unfold underscoreSpace at hEq
            by_cases hcs : c = ' ' <;> by_cases hds : d = ' ' <;>
              simp_all
          rw [hHead, ih (fun h => h₁ (List.mem_cons_of_mem c h))
            (fun h => h₂ (List.mem_cons_of_mem d h)) hEq.2]

/-
  With one format, the file name determines the artist and the quarter
  when neither contains an underscore.
-/
theorem reportFilename_injective
    {artist₁ artist₂ quarter₁ quarter₂ : String}
    (fmt : String)
    (hArtist₁ : '_' ∉ artist₁.data)
    (hArtist₂ : '_' ∉ artist₂.data)
    (hQuarter₁ : '_' ∉ quarter₁.data)
    (hQuarter₂ : '_' ∉ quarter₂.data)
    (hEq : reportFilename artist₁ quarter₁ fmt =
      reportFilename artist₂ quarter₂ fmt) :
    artist₁ = artist₂ ∧ quarter₁ = quarter₂ := by
  have hData := congrArg String.data hEq
  simp only [reportFilename_data, List.append_assoc,
    List.append_cancel_left_eq] at hData
  obtain ⟨hArtist, hRest⟩ :=
    append_cons_inj_of_not_mem hArtist₁ hArtist₂ hData
  have hQuarter := List.append_cancel_right hRest
  exact ⟨String.ext hArtist, String.ext
    (map_underscoreSpace_injective hQuarter₁ hQuarter₂ hQuarter)⟩

/-
  What the file name guarantees: it is a safe path component exactly
  when its parts are, and with one format two distinct pairs whose
  artists and quarters are free of underscores get distinct names.
-/
theorem reportFilename_safe_and_injective_without_underscores
    (artist quarter fmt : String) :
    (IsSafeComponent (reportFilename artist quarter fmt) ↔
      IsSafeComponent artist ∧ IsSafeComponent quarter ∧
        IsSafeComponent fmt) ∧
    ∀ artist' quarter' : String,
      '_' ∉ artist.data → '_' ∉ artist'.data →
      '_' ∉ quarter.data → '_' ∉ quarter'.data →
      (artist, quarter) ≠ (artist', quarter') →
      reportFilename artist quarter fmt ≠ reportFilename artist' quarter' fmt :=
  ⟨reportFilename_safe_iff artist quarter fmt,
    fun _ _ hArtist hArtist' hQuarter hQuarter' hDistinct hEq => hDistinct <| by
      obtain ⟨rfl, rfl⟩ := reportFilename_injective fmt hArtist hArtist' hQuarter hQuarter' hEq
      rfl⟩

/- The theorem at two artists with one spaced quarter. -/
theorem reportFilename_safe_and_injective_at_spaced_quarter :
    '_' ∉ "Alice".data ∧ '_' ∉ "Bob".data ∧ '_' ∉ "Q4 2025".data ∧
      ("Alice", "Q4 2025") ≠ ("Bob", "Q4 2025") ∧
      reportFilename "Alice" "Q4 2025" "pdf" ≠ reportFilename "Bob" "Q4 2025" "pdf" :=
  ⟨by decide, by decide, by decide, by decide,
    (reportFilename_safe_and_injective_without_underscores
      "Alice" "Q4 2025" "pdf").2 "Bob" "Q4 2025"
      (by decide) (by decide) (by decide) (by decide) (by decide)⟩

/-
  A slash in the artist's name reaches the file name, and two different
  pairs give the same file name.
-/
theorem reportFilename_unsafe_and_colliding :
    ¬ IsSafeComponent (reportFilename "AC/DC" "Q4 2025" "pdf") ∧
      reportFilename "a_b" "Q4 2025" "pdf" =
        reportFilename "a" "b_Q4 2025" "pdf" := by
  decide

end RoyaltyManager

end MusicLabel

------------------------------------------------------------
-- Report Amounts
------------------------------------------------------------

namespace MusicLabel

namespace RoyaltyManager

open Decimal

/- The context sum of `calculate` starts and stays within the bounds. -/
theorem inRange_of_contextSum
    {gross result : Decimal}
    (hGross : gross.inRange) :
    (amounts : List Decimal) → contextSum gross amounts = .ok result → result.inRange
  | [], h => by
      cases h
      exact hGross
  | amount :: amounts, h => by
      obtain ⟨sum, hSum, hRest⟩ := bind_eq_ok.mp h
      exact inRange_of_contextSum (inRange_of_add (liftSignal_eq_ok.mp hSum)) amounts hRest

/-
  Every amount of a payout lies within the bounds when the caches do:
  the split and the advance come from the caches, the rest are context
  results.
-/
theorem inRange_of_payoutSpec
    {m : RoyaltyManager}
    (hm : m.CachesInRange)
    {quarter : String}
    {rows : List Row}
    {payout : ArtistPayout}
    (h : PayoutSpec m quarter rows payout) :
    payout.grossRevenue.inRange ∧ payout.splitPct.inRange ∧ payout.artistShare.inRange ∧
      payout.advanceDeducted.inRange ∧ payout.netPayout.inRange := by
  obtain ⟨-, ⟨amounts, -, hGross⟩, -, -, hSplit, ⟨product, -, hShare⟩, hDeducted, hNet⟩ := h
  have hShareRange := inRange_of_quantize hShare
  have hAdvance : (m.advancesCache.getD payout.artist decimalZero).inRange := by
    unfold PyDict.getD
    cases hGet : m.advancesCache.get? payout.artist with
    | none => rfl
    | some advance => exact hm.2 _ (PyDict.mem_entries_iff.mpr hGet)
  exact ⟨inRange_of_contextSum (show decimalZero.inRange from rfl) amounts hGross,
    hm.1 _ (PyDict.mem_entries_iff.mpr hSplit), hShareRange,
    (eq_operand_of_pyMin hDeducted).elim (· ▸ hAdvance) (· ▸ hShareRange), inRange_of_sub hNet⟩

/-
  The report of an artist paid by `calculate`, from the payouts it
  returned: the artist's own payout, each amount printed by `str` so
  that `Decimal(s)` gives back the same decimal (sign, coefficient and
  exponent), whatever quarter and format the report is asked for.
-/
theorem generateReport_of_calculate
    (m : RoyaltyManager)
    (hm : m.CachesInRange)
    (quarter : String)
    (artist : Option String)
    (feed : List Row)
    (payouts : List ArtistPayout)
    (h : (calculate m quarter artist (some feed)).result = .ok payouts)
    (payout : ArtistPayout)
    (hPayout : payout ∈ payouts)
    (reportQuarter fmt : String) :
    let summary := (generateReport payout.artist reportQuarter fmt (some payouts)).payout
    parse summary.grossRevenue = .ok payout.grossRevenue ∧
      parse summary.splitPct = .ok payout.splitPct ∧
      parse summary.artistShare = .ok payout.artistShare ∧
      parse summary.advanceDeducted = .ok payout.advanceDeducted ∧
      parse summary.netPayout = .ok payout.netPayout := by
  have hFind : payouts.find? (fun p => p.artist = payout.artist) = some payout := by
    cases hFound : payouts.find? (fun p => p.artist = payout.artist) with
    | none => simpa using List.find?_eq_none.mp hFound payout hPayout
    | some found =>
        have hSame : found.artist = payout.artist := by simpa using List.find?_some hFound
        rw [List.inj_on_of_nodup_map (nodup_artist_calculate m quarter artist feed h)
          (List.mem_of_find?_eq_some hFound) hPayout hSame]
  obtain ⟨hGross, hSplit, hShare, hDeducted, hNet⟩ :=
    inRange_of_payoutSpec hm (payoutSpec_of_mem_calculate m quarter artist feed h hPayout)
  simp only [generateReport, Option.getD_some, hFind, PayoutSummary.of, parse_toSciString _ hGross,
    parse_toSciString _ hSplit, parse_toSciString _ hShare, parse_toSciString _ hDeducted,
    parse_toSciString _ hNet, and_self]

/- The theorem at the spec's first scenario, for the report of `A`. -/
theorem generateReport_of_calculate_at_first_scenario :
    let m : RoyaltyManager :=
      ⟨PyDict.empty.set "A" (.finite false 7 (-1)),
        PyDict.empty.set "A" (.finite false 750000 (-2))⟩
    let payout : ArtistPayout :=
      ⟨"A", "Q4 2025", .finite false 1000000 (-2), .finite false 7 (-1),
        .finite false 700000 (-2), .finite false 700000 (-2), .finite false 0 (-2), 0, 0⟩
    let summary := (generateReport "A" "Q4 2025" "pdf" (some [payout])).payout
    m.CachesInRange ∧
      (calculate m "Q4 2025" none (some [⟨some "A", some (.str "10000.00"), none, none⟩])).result =
        .ok [payout] ∧
      summary = ⟨"10000.00", "0.7", "7000.00", "7000.00", "0.00"⟩ ∧
      parse summary.grossRevenue = .ok payout.grossRevenue ∧
      parse summary.splitPct = .ok payout.splitPct ∧
      parse summary.artistShare = .ok payout.artistShare ∧
      parse summary.advanceDeducted = .ok payout.advanceDeducted ∧
      parse summary.netPayout = .ok payout.netPayout := by
  intro m payout summary
  have h : (calculate m "Q4 2025" none
      (some [⟨some "A", some (.str "10000.00"), none, none⟩])).result = .ok [payout] := by
    decide
  have hm : m.CachesInRange := by
    decide
  exact ⟨hm, h, by decide, generateReport_of_calculate m hm _ none _ [payout] h payout
    (List.mem_singleton_self payout) "Q4 2025" "pdf"⟩

end RoyaltyManager

end MusicLabel
