import MusicLabel.Contracts.Manager
import MusicLabel.Python.DateText

/-
  `ContractManager.check_expirations`: the contracts that expire within
  `days_ahead` days of today.

  The loop reads each contract's `expiry_date` with
  `strptime(.., "%Y-%m-%d")`. A missing or empty date is skipped, and a
  date that does not parse is logged and skipped. A parsed date on or
  before `today + days_ahead` is reported with its days left, counted
  from today, and marked `"expired"` when that count is at most zero, so
  a contract expiring today is reported expired. `today` is the UTC date
  the call reads from the clock, a parameter here.

  Only the deadline can raise: `timedelta(days=days_ahead)` and
  `today + ...` raise `OverflowError` when the deadline leaves the
  calendar, before any contract is read. Otherwise the call reports, in
  registry order, exactly the contracts whose parsed date lies at most
  `days_ahead` days after today: the date comparisons of the loop are
  comparisons of ordinals.

  Correctness is proven by:
    * `ContractManager.deadline_eq`: the deadline, or the overflow
    * `ContractManager.expirationLoop_eq`: the loop, in day counts
    * `ContractManager.checkExpirations_eq`: the whole call

  Main declarations:
    * `ExpiringContract`, `ContractManager.checkExpirations`
    * `ContractManager.expiringWithin`, `ContractManager.badDateOf`
-/

------------------------------------------------------------
-- The Expiration Check
------------------------------------------------------------

namespace MusicLabel

/- An entry of `check_expirations`. -/
structure ExpiringContract where
  artist : String
  expiryDate : String
  daysLeft : Int
  status : String
  deriving DecidableEq

namespace ContractManager

/- The warning `"Bad date format for %s: %s"`. -/
def badDateWarning (artist expiryDate : String) : LogRecord :=
  ⟨.warning, "Bad date format for " ++ artist ++ ": " ++ expiryDate⟩

/- `%d` of an integer. -/
def formatInt (n : Int) : String :=
  (if n < 0 then "-" else "") ++ Nat.repr n.natAbs

/- The closing record `"Expiration check (%d days): %d contracts flagged"`. -/
def expirationInfo (daysAhead : Int) (count : Nat) : LogRecord :=
  ⟨.info, "Expiration check (" ++ formatInt daysAhead ++ " days): " ++ Nat.repr count ++
    " contracts flagged"⟩

/- `"expired" if days_left <= 0 else "expiring_soon"`. -/
def expiryStatus (daysLeft : Int) : String :=
  if daysLeft ≤ 0 then "expired" else "expiring_soon"

/-
  The loop of `check_expirations` over the registry, against `today`
  and the deadline: the records it logs before it ends, and the entries
  or the exception of a parse or a subtraction.
-/
def expirationLoop
    (today deadline : PyDate) :
    List ContractRecord → Logged (List ExpiringContract)
  | [] => ⟨[], .ok []⟩
  | contract :: contracts =>
      match contract.expiryDate with
      | none => expirationLoop today deadline contracts
      | some expiryDate =>
          if expiryDate = "" then expirationLoop today deadline contracts
          else
            match PyDate.strptime expiryDate with
            | .error .valueError =>
                let rest := expirationLoop today deadline contracts
                ⟨badDateWarning contract.artist expiryDate :: rest.log, rest.result⟩
            | .error e => ⟨[], .error e⟩
            | .ok exp =>
                if exp.le deadline then
                  match exp.sub today with
                  | .error e => ⟨[], .error e⟩
                  | .ok daysLeft =>
                      let rest := expirationLoop today deadline contracts
                      ⟨rest.log, rest.result.map
                        (⟨contract.artist, expiryDate, daysLeft, expiryStatus daysLeft⟩ :: ·)⟩
                else expirationLoop today deadline contracts

/-
  `check_expirations(days_ahead)` on the day `today`: the deadline
  `today + timedelta(days=days_ahead)`, the loop, and the closing record.
-/
def checkExpirations
    (s : ContractManager)
    (today : PyDate)
    (daysAhead : Int) : Logged (List ExpiringContract) :=
  match (PyDate.timedeltaDays daysAhead).bind today.addDays with
  | .error e => ⟨[], .error e⟩
  | .ok deadline =>
      let flagged := expirationLoop today deadline s.records
      match flagged.result with
      | .ok expiring => ⟨flagged.log ++ [expirationInfo daysAhead expiring.length], .ok expiring⟩
      | .error e => ⟨flagged.log, .error e⟩

end ContractManager

end MusicLabel

------------------------------------------------------------
-- The Check in Day Counts
------------------------------------------------------------

namespace MusicLabel

namespace ContractManager

open Datetime

/-
  What `check_expirations` reports for one contract, in day counts: its
  entry when its date parses to a day at most `daysAhead` days after
  `today`.
-/
def expiringWithin
    (today : PyDate)
    (daysAhead : Int)
    (contract : ContractRecord) : Option ExpiringContract :=
  match contract.expiryDate with
  | none => none
  | some expiryDate =>
      match PyDate.strptime expiryDate with
      | .ok exp =>
          let daysLeft := exp.toOrdinal - today.toOrdinal
          if daysLeft ≤ daysAhead then
            some ⟨contract.artist, expiryDate, daysLeft, expiryStatus daysLeft⟩
          else none
      | .error _ => none

/- The warning of a contract whose date is set but does not parse. -/
def badDateOf (contract : ContractRecord) : Option LogRecord :=
  match contract.expiryDate with
  | none => none
  | some expiryDate =>
      match PyDate.strptime expiryDate with
      | .ok _ => none
      | .error _ =>
          if expiryDate = "" then none else some (badDateWarning contract.artist expiryDate)

/- `date(year, month, day)` raises nothing but `ValueError`. -/
theorem new_error
    {year month day : Int}
    {e : PyError}
    (h : PyDate.new year month day = .error e) :
    e = .valueError := by
  unfold PyDate.new at h
  split_ifs at h <;> cases h <;> rfl

/- `strptime` raises nothing but `ValueError`. -/
theorem strptime_error
    {s : String}
    {e : PyError}
    (h : PyDate.strptime s = .error e) :
    e = .valueError := by
  unfold PyDate.strptime at h
  split at h
  case h_1 => cases h; rfl
  case h_2 =>
    split_ifs at h
    · cases h; rfl
    · split at h
      · exact new_error h
      · cases h; rfl

theorem strptime_empty :
    PyDate.strptime "" = .error .valueError :=
  rfl

/-
  The deadline `today + timedelta(days=days_ahead)`: the date
  `days_ahead` days after today while that stays in the calendar, and
  `OverflowError` otherwise.
-/
theorem deadline_eq
    (today : PyDate)
    (daysAhead : Int) :
    (if 0 < today.toOrdinal + daysAhead ∧ today.toOrdinal + daysAhead ≤ maxOrdinal then
      ∃ deadline, (PyDate.timedeltaDays daysAhead).bind today.addDays = .ok deadline ∧
        deadline.toOrdinal = today.toOrdinal + daysAhead
    else (PyDate.timedeltaDays daysAhead).bind today.addDays = .error .overflowError) := by
  have hToday := PyDate.toOrdinal_bounds today
  unfold maxOrdinal at hToday
  split
  case isTrue hRange =>
    have hSmall : ¬999999999 < |daysAhead| := by
      unfold maxOrdinal at hRange
      exact not_lt.mpr (abs_le.mpr ⟨by omega, by omega⟩)
    rw [PyDate.timedeltaDays, if_neg hSmall]
    exact PyDate.addDays_of_range today hRange
  case isFalse hOut =>
    unfold PyDate.timedeltaDays
    split
    · rfl
    · exact PyDate.addDays_of_not_range today hOut

/-
  The loop against a deadline `daysAhead` days after today: the
  warnings of the dates that do not parse, and the entries of
  `expiringWithin`, in registry order.
-/
theorem expirationLoop_eq
    (today deadline : PyDate)
    {daysAhead : Int}
    (hDeadline : deadline.toOrdinal = today.toOrdinal + daysAhead)
    (contracts : List ContractRecord) :
    expirationLoop today deadline contracts =
      ⟨contracts.filterMap badDateOf,
        .ok (contracts.filterMap (expiringWithin today daysAhead))⟩ := by
  induction contracts with
  | nil => rfl
  | cons contract contracts ih =>
      rw [List.filterMap_cons, List.filterMap_cons, expirationLoop]
      unfold badDateOf expiringWithin at ih ⊢
      cases hDate : contract.expiryDate with
      | none => simpa using ih
      | some expiryDate =>
          dsimp only
          by_cases hEmpty : expiryDate = ""
          · subst hEmpty
            simpa [strptime_empty] using ih
          · rw [if_neg hEmpty]
            cases hParse : PyDate.strptime expiryDate with
            | error e =>
                rw [strptime_error hParse, ih]
                simp [hEmpty]
            | ok exp =>
                dsimp only
                by_cases hWithin : exp.toOrdinal - today.toOrdinal ≤ daysAhead
                · rw [if_pos ((PyDate.le_iff exp deadline).mpr (by omega)), PyDate.sub_eq, ih,
                    if_pos hWithin]
                  rfl
                · rw [if_neg (fun hLe => hWithin (by
                    have := (PyDate.le_iff exp deadline).mp hLe
                    omega)), ih, if_neg hWithin]

/-
  `check_expirations(days_ahead)`, in day counts: `OverflowError`, with
  nothing logged, when `today + days_ahead` leaves the calendar;
  otherwise one warning per set date that does not parse, the closing
  record, and the contracts whose date lies at most `days_ahead` days
  after today, with the days left and their status.
-/
theorem checkExpirations_eq
    (s : ContractManager)
    (today : PyDate)
    (daysAhead : Int) :
    checkExpirations s today daysAhead =
      if 0 < today.toOrdinal + daysAhead ∧ today.toOrdinal + daysAhead ≤ maxOrdinal then
        let expiring := s.records.filterMap (expiringWithin today daysAhead)
        ⟨s.records.filterMap badDateOf ++ [expirationInfo daysAhead expiring.length],
          .ok expiring⟩
      else ⟨[], .error .overflowError⟩ := by
  have hDeadline := deadline_eq today daysAhead
  unfold checkExpirations
  split at hDeadline
  case isTrue hRange =>
    obtain ⟨deadline, hOk, hOrd⟩ := hDeadline
    rw [hOk, if_pos hRange]
    dsimp only
    rw [expirationLoop_eq today deadline hOrd]
  case isFalse hOut =>
    rw [hDeadline, if_neg hOut]

end ContractManager

end MusicLabel

------------------------------------------------------------
-- Dates Written YYYY-MM-DD
------------------------------------------------------------

namespace MusicLabel

namespace ContractManager

open Datetime

/-
  A registered contract whose expiry date is the ISO text of a day at
  most `days_ahead` days after today is reported, with the days left,
  and as expired exactly when that day is today or earlier.
-/
theorem checkExpirations_reports_isoformat
    (s : ContractManager)
    (today : PyDate)
    (daysAhead : Int)
    (hRange : 0 < today.toOrdinal + daysAhead ∧ today.toOrdinal + daysAhead ≤ maxOrdinal)
    {contract : ContractRecord}
    (hContract : contract ∈ s.records)
    {exp : PyDate}
    (hDate : contract.expiryDate = some exp.isoformat)
    (hWithin : exp.toOrdinal ≤ today.toOrdinal + daysAhead) :
    ∃ expiring, (checkExpirations s today daysAhead).result = .ok expiring ∧
      ⟨contract.artist, exp.isoformat, exp.toOrdinal - today.toOrdinal,
        if exp.le today then "expired" else "expiring_soon"⟩ ∈ expiring := by
  have hDeadline := deadline_eq today daysAhead
  rw [if_pos hRange] at hDeadline
  obtain ⟨deadline, hOk, hOrd⟩ := hDeadline
  have hStatus : expiryStatus (exp.toOrdinal - today.toOrdinal) =
      if exp.le today then "expired" else "expiring_soon" := by
    unfold expiryStatus
    by_cases hPast : exp.toOrdinal ≤ today.toOrdinal
    · rw [if_pos (by omega), if_pos ((PyDate.le_iff exp today).mpr hPast)]
    · rw [if_neg (by omega), if_neg fun hLe => hPast ((PyDate.le_iff exp today).mp hLe)]
  unfold checkExpirations
  rw [hOk]
  dsimp only
  rw [expirationLoop_eq today deadline hOrd]
  refine ⟨_, rfl, List.mem_filterMap.mpr ⟨contract, hContract, ?_⟩⟩
  unfold expiringWithin
  rw [hDate]
  dsimp only
  rw [PyDate.strptime_isoformat_eq_new, PyDate.new_eq_ok exp.yearRange exp.monthRange exp.dayRange]
  dsimp only
  rw [if_pos (show exp.toOrdinal - today.toOrdinal ≤ daysAhead by omega), hStatus]

theorem checkExpirations_reports_isoformat_at_quarter_end :
    let today : PyDate := ⟨2025, 1, 1, by decide, by decide, by decide⟩
    let exp : PyDate := ⟨2025, 3, 31, by decide, by decide, by decide⟩
    let contract : ContractRecord :=
      { artist := "A", splitPct := PyFloat.ofBits 0, expiryDate := some "2025-03-31" }
    (0 < today.toOrdinal + 90 ∧ today.toOrdinal + 90 ≤ maxOrdinal) ∧
      contract ∈ ((empty "Макс").allocate contract).records ∧
      contract.expiryDate = some exp.isoformat ∧ exp.toOrdinal ≤ today.toOrdinal + 90 ∧
      ∃ expiring,
        (checkExpirations ((empty "Макс").allocate contract) today 90).result = .ok expiring ∧
        ⟨contract.artist, exp.isoformat, exp.toOrdinal - today.toOrdinal,
          if exp.le today then "expired" else "expiring_soon"⟩ ∈ expiring :=
  ⟨by decide, by decide, by decide, by decide,
    checkExpirations_reports_isoformat _ _ 90 (by decide) (by decide) (by decide) (by decide)⟩

end ContractManager

end MusicLabel
