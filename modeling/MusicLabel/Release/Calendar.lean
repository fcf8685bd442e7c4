import MusicLabel.Release.Manager
import MusicLabel.Python.StableSort

/-
  The views of the calendar: `get_calendar` and `get_catalog`.

  `get_calendar(month)` keeps the releases whose date starts with the
  month (all of them when no month or an empty one is given) and sorts
  their entries by date with Python's stable sort, so releases of one
  date stay in calendar order. `get_catalog` counts the calendar and
  lists its entries through `get_calendar()`.

  Correctness is proven by:
    * `ReleaseManager.getCalendar_eq_iff`: the stable sort contract
-/

------------------------------------------------------------
-- The Calendar
------------------------------------------------------------

namespace MusicLabel

namespace ReleaseManager

instance : IsTotal CalendarEntry DateNotAfter :=
  ⟨fun a b => le_total a.releaseDate b.releaseDate⟩

instance : IsTrans CalendarEntry DateNotAfter :=
  ⟨fun _ _ _ => le_trans⟩

/- `DateNotAfter` holds both ways exactly between entries of one date. -/
theorem comparesKeys_dateNotAfter :
    StableSort.ComparesKeys (·.releaseDate) DateNotAfter :=
  fun _ _ => ⟨fun h => le_antisymm h.1 h.2, fun h => ⟨h.le, h.ge⟩⟩

/-
  `get_calendar(month)` returns exactly the list that orders the
  entries of the kept releases by date and keeps those of each date in
  calendar order.
-/
theorem getCalendar_eq_iff
    (s : ReleaseManager)
    (month : Option String)
    (entries : List CalendarEntry) :
    s.getCalendar month = entries ↔
      entries.Sorted DateNotAfter ∧
        ∀ date, entries.filter (·.releaseDate = date) =
          ((s.records.filter (inMonth month)).map calendarEntry).filter (·.releaseDate = date) :=
  StableSort.insertionSort_eq_iff comparesKeys_dateNotAfter _ entries

end ReleaseManager

end MusicLabel
