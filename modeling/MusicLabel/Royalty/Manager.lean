import MusicLabel.Python.Value
import MusicLabel.Python.Dict

/-
  The royalty engine of `royalty_manager.py`: the `RoyaltyManager`
  state (its split and advance caches), the test setters that fill
  them, and `calculate`, which groups a revenue feed by artist, sums
  each artist's rows, applies the artist's split and nets the advance.

  `calculate` is read-only. Its effects are its result, an exception,
  and the records it sends to the module logger, which is the warning
  channel for skipped artists.

  Main declarations:
    * `RoyaltyManager`, `ArtistPayout`, `Row`
    * `RoyaltyManager.applySplit`, `RoyaltyManager.setSplit`,
      `RoyaltyManager.setAdvance`
    * `RoyaltyManager.groupByArtist`, `RoyaltyManager.accumulate`,
      `RoyaltyManager.buildPayout`, `RoyaltyManager.payoutFor`,
      `RoyaltyManager.calculate`
    * `RoyaltyManager.checkAdvancesStep`, `RoyaltyManager.checkAdvances`,
      `RoyaltyManager.getArtistBalance`
-/

------------------------------------------------------------
-- Records and State
------------------------------------------------------------

namespace MusicLabel

/- `ArtistPayout`: one artist's result for a quarter. -/
structure ArtistPayout where
  artist : String
  quarter : String
  grossRevenue : Decimal
  splitPct : Decimal
  artistShare : Decimal
  advanceDeducted : Decimal
  netPayout : Decimal
  tracksCount : Nat
  streamsCount : Int
  deriving DecidableEq, Repr

/-
  One row of `revenue_data`, with the fields `calculate` reads; `none`
  is an absent key. Artist names and track names are text, and a null
  track reads as an absent one.
-/
structure Row where
  artist : Option String
  revenue : Option Value
  streams : Option Value
  track : Option String
  deriving DecidableEq

/- The artist key of a row, `row.get("artist", "Unknown")`. -/
def Row.key (row : Row) : String :=
  row.artist.getD "Unknown"

/- The amount of a row, `Decimal(str(row.get("revenue", 0)))`. -/
def Row.amount (row : Row) : Except PyError Decimal :=
  (row.revenue.getD (.int 0)).toDecimal

/- The streams of a row, `int(row.get("streams", 0))`. -/
def Row.streamCount (row : Row) : Except PyError Int :=
  (row.streams.getD (.int 0)).toInt

/- The split and advance caches of a `RoyaltyManager`. -/
structure RoyaltyManager where
  splitsCache : PyDict String Decimal
  advancesCache : PyDict String Decimal

namespace RoyaltyManager

/- A fresh manager: both caches empty. -/
def empty : RoyaltyManager :=
  ⟨PyDict.empty, PyDict.empty⟩

/- `Decimal("0")`. -/
def decimalZero : Decimal :=
  .finite false 0 0

/- `Decimal("0.01")`, the quantum of a payout. -/
def cent : Decimal :=
  .finite false 1 (-2)

end RoyaltyManager

end MusicLabel

------------------------------------------------------------
-- Splits and Advances
------------------------------------------------------------

namespace MusicLabel

namespace RoyaltyManager

/- The message of the `RoyaltyCalculationError` of a missing split. -/
def splitNotFound (artist : String) : String :=
  "Split not found for artist \x27" ++ artist ++
    "\x27. Check contracts or set default."

/-
  `apply_split`: the revenue times the artist's split, quantized to a
  cent with `ROUND_HALF_UP`; `RoyaltyCalculationError` without a split.
-/
def applySplit
    (m : RoyaltyManager)
    (revenue : Decimal)
    (artist : String) : Except PyError Decimal :=
  match m.splitsCache.get? artist with
  | none => .error (.royaltyCalculation (splitNotFound artist))
  | some splitPct =>
      liftSignal ((Decimal.mul revenue splitPct).bind fun product =>
        Decimal.quantize product cent .halfUp)

/- `set_split`: `_splits_cache[artist] = Decimal(str(split_pct))`. -/
def setSplit
    (artist : String)
    (splitPct : Value) : EStateM PyError RoyaltyManager Unit :=
  fun m =>
    match splitPct.toDecimal with
    | .ok d => .ok () { m with splitsCache := m.splitsCache.set artist d }
    | .error e => .error e m

/- `set_advance`: `_advances_cache[artist] = Decimal(str(amount))`. -/
def setAdvance
    (artist : String)
    (amount : Value) : EStateM PyError RoyaltyManager Unit :=
  fun m =>
    match amount.toDecimal with
    | .ok d => .ok () { m with advancesCache := m.advancesCache.set artist d }
    | .error e => .error e m

end RoyaltyManager

end MusicLabel

------------------------------------------------------------
-- Calculation
------------------------------------------------------------

namespace MusicLabel

namespace RoyaltyManager

/-
  The filter test of the grouping loop, `artist and a != artist`: a row
  is skipped only under a non-empty filter naming another artist.
-/
def filterSkips (artist : Option String) (a : String) : Bool :=
  match artist with
  | some name => name ≠ "" ∧ a ≠ name
  | none => false

/-
  The grouping loop: `by_artist.setdefault(a, []).append(row)` for every
  row the filter keeps.
-/
def groupByArtist
    (artist : Option String) :
    List Row → PyDict String (List Row) → PyDict String (List Row)
  | [], byArtist => byArtist
  | row :: rows, byArtist =>
      if filterSkips artist row.key then groupByArtist artist rows byArtist
      else
        groupByArtist artist rows
          (byArtist.set row.key (byArtist.getD row.key [] ++ [row]))

/- The running totals of the inner loop: `gross`, `streams`, `tracks`. -/
structure Totals where
  gross : Decimal
  streams : Int
  tracks : List String
  deriving DecidableEq

/- The totals before the first row. -/
def Totals.init : Totals :=
  ⟨decimalZero, 0, []⟩

/- `tracks.add(track)` when the track is truthy (a non-empty string). -/
def addTrack (tracks : List String) : Option String → List String
  | some track => if track ≠ "" ∧ track ∉ tracks then tracks ++ [track] else tracks
  | none => tracks

/-
  One row of the inner loop: `gross += Decimal(str(revenue))`, then
  `streams += int(streams)`, then the track; absent fields read as `0`.
-/
def addRow (totals : Totals) (row : Row) : Except PyError Totals :=
  row.amount.bind fun amount =>
    (liftSignal (Decimal.add totals.gross amount)).bind fun gross =>
      row.streamCount.bind fun streams =>
        .ok ⟨gross, totals.streams + streams, addTrack totals.tracks row.track⟩

/- The inner loop over one artist's rows. -/
def accumulate (totals : Totals) : List Row → Except PyError Totals
  | [] => .ok totals
  | row :: rows => (addRow totals row).bind fun totals => accumulate totals rows

/-
  The rest of one artist's iteration once `apply_split` returned its
  share: `deducted = min(advance, artist_share)`, `net = artist_share -
  deducted`, and the payout.
-/
def buildPayout
    (m : RoyaltyManager)
    (quarter artistName : String)
    (totals : Totals)
    (artistShare : Decimal) : Except PyError ArtistPayout :=
  let advance := m.advancesCache.getD artistName decimalZero
  (liftSignal (Decimal.pyMin advance artistShare)).bind fun deducted =>
    (liftSignal (Decimal.sub artistShare deducted)).map fun net =>
      { artist := artistName
        quarter := quarter
        grossRevenue := totals.gross
        splitPct := m.splitsCache.getD artistName decimalZero
        artistShare := artistShare
        advanceDeducted := deducted
        netPayout := net
        tracksCount := totals.tracks.length
        streamsCount := totals.streams }

/-
  One artist of the second loop: its payout, or `none` when
  `apply_split` raised `RoyaltyCalculationError`, the one exception the
  loop catches; every other exception leaves `calculate`.
-/
def payoutFor
    (m : RoyaltyManager)
    (quarter artistName : String)
    (rows : List Row) : Except PyError (Option ArtistPayout) :=
  (accumulate Totals.init rows).bind fun totals =>
    match m.applySplit totals.gross artistName with
    | .error (.royaltyCalculation _) => .ok none
    | .error e => .error e
    | .ok artistShare => (buildPayout m quarter artistName totals artistShare).map some

/- The warning of a skipped artist, `"No split for %s, skipping"`. -/
def noSplitWarning (artistName : String) : LogRecord :=
  ⟨.warning, "No split for " ++ artistName ++ ", skipping"⟩

/-
  The second loop of `calculate` over the groups in iteration order:
  the records it logs before it ends, and the payouts or the exception.
-/
def collectPayouts
    (m : RoyaltyManager)
    (quarter : String) :
    List (String × List Row) → Logged (List ArtistPayout)
  | [] => ⟨[], .ok []⟩
  | (artistName, rows) :: groups =>
      match payoutFor m quarter artistName rows with
      | .error e => ⟨[], .error e⟩
      | .ok none =>
          let rest := collectPayouts m quarter groups
          ⟨noSplitWarning artistName :: rest.log, rest.result⟩
      | .ok (some payout) =>
          let rest := collectPayouts m quarter groups
          ⟨rest.log, rest.result.map (payout :: ·)⟩

/- The closing record, `"Calculated royalties for Q=%s: %d artists"`. -/
def calculatedInfo (quarter : String) (count : Nat) : LogRecord :=
  ⟨.info, "Calculated royalties for Q=" ++ quarter ++ ": " ++
    Nat.repr count ++ " artists"⟩

/-
  `calculate(quarter, artist, revenue_data)`: group the feed by artist,
  then compute each group's payout in the groups' order.
-/
def calculate
    (m : RoyaltyManager)
    (quarter : String)
    (artist : Option String)
    (revenueData : Option (List Row)) : Logged (List ArtistPayout) :=
  let byArtist := groupByArtist artist (revenueData.getD []) PyDict.empty
  let collected := collectPayouts m quarter byArtist.entries
  match collected.result with
  | .ok results => ⟨collected.log ++ [calculatedInfo quarter results.length], .ok results⟩
  | .error e => ⟨collected.log, .error e⟩

end RoyaltyManager

end MusicLabel

------------------------------------------------------------
-- Advance Queries
------------------------------------------------------------

namespace MusicLabel

namespace RoyaltyManager

/- An entry of `check_advances`. -/
structure ActiveAdvance where
  artist : String
  remainingBalance : String
  status : String
  deriving DecidableEq, Repr

/-
  One iteration of the loop of `check_advances`, in front of the rest
  of the loop: skip a filtered name, else compare `balance > 0` (a NaN
  raises) and list a positive balance.
-/
def checkAdvancesStep
    (artist : Option String)
    (entry : String × Decimal)
    (rest : Except PyError (List ActiveAdvance)) : Except PyError (List ActiveAdvance) :=
  if filterSkips artist entry.1 then rest
  else
    (liftSignal (Decimal.gt entry.2 decimalZero)).bind fun positive =>
      rest.map fun rest =>
        if positive then ⟨entry.1, entry.2.toSciString, "active"⟩ :: rest
        else rest

/-
  `check_advances(artist)`: the advances above zero, in insertion order,
  under the same filter as `calculate`; a NaN balance raises.
-/
def checkAdvances
    (m : RoyaltyManager)
    (artist : Option String) : Except PyError (List ActiveAdvance) :=
  m.advancesCache.entries.foldr (checkAdvancesStep artist) (.ok [])

/- The result of `get_artist_balance`. -/
structure ArtistBalance where
  artist : String
  advanceRemaining : String
  status : String
  deriving DecidableEq, Repr

/-
  `get_artist_balance(artist)`: the advance (zero when absent) and
  whether it is still outstanding; a NaN balance raises.
-/
def getArtistBalance
    (m : RoyaltyManager)
    (artist : String) : Except PyError ArtistBalance :=
  let advance := m.advancesCache.getD artist decimalZero
  (liftSignal (Decimal.gt advance decimalZero)).map fun positive =>
    ⟨artist, advance.toSciString, if positive then "has_advance" else "clear"⟩

end RoyaltyManager

end MusicLabel
