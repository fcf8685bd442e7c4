import MusicLabel.Python.Dict
import MusicLabel.Python.Regex
import MusicLabel.Python.Value

/-
  The release pipeline of `release_manager.py`: `ReleaseManager` keeps
  the release calendar, numbers new releases `REL-0001`, `REL-0002`, …
  from its counter, validates a release's metadata, and submits it to
  the distributor.

  `calendar` is a Python list of `Release` objects, and
  `upload_to_koala` assigns `release.status` on the object it is given,
  so, as for the contract registry, the calendar is modelled with its
  objects: a heap of releases addressed by position, and the list of
  references `calendar`.

  `date.today()` and `datetime.utcnow().isoformat()` are parameters, and
  so is `repr` of a string, which `str` of the list of validation errors
  applies to each error (it escapes the characters the Unicode database
  does not call printable).

  Main declarations:
    * `Release`, `ReleaseManager`, `ReleaseError`
    * `ReleaseManager.releaseId`, `ReleaseManager.createRelease`
    * `ReleaseManager.validateMetadata`, `ReleaseManager.uploadToKoala`
    * `ReleaseManager.trackStatus`, `ReleaseManager.notifyArtist`
    * `ReleaseManager.getCalendar`, `ReleaseManager.getCatalog`
-/

------------------------------------------------------------
-- Releases and the Calendar
------------------------------------------------------------

namespace MusicLabel

/-
  `Release`, with its dataclass defaults (`distributor_id`, which no
  method reads, is left out).
-/
structure Release where
  id : String
  artist : String
  title : String
  tracks : List String
  releaseDate : String
  releaseType : String := "single"
  status : String := "draft"
  upc : Option String := none
  isrcList : List String := []
  artworkUrl : Option String := none
  dspStatuses : PyDict String String := PyDict.empty

instance : Inhabited Release :=
  ⟨⟨"", "", "", [], "", "single", "draft", none, [], none, PyDict.empty⟩⟩

/-
  A `ReleaseManager`: whether `distributor_client` is set, the heap of
  its release objects, the references of `calendar` into it, and
  `_id_counter`. Every reference names an object and every object is
  in the calendar.
-/
structure ReleaseManager where
  distributorClient : Bool
  objects : List Release
  calendar : List Nat
  idCounter : Int
  refsValid : ∀ ref ∈ calendar, ref < objects.length
  objectsRegistered : ∀ ref < objects.length, ref ∈ calendar

/- The exceptions `upload_to_koala` raises. -/
inductive ReleaseError
  | runtime (message : String)
  | releaseValidation (message : String)
  deriving DecidableEq, Repr

namespace ReleaseManager

/- A manager with no releases and the counter at `0`. -/
def new (distributorClient : Bool) : ReleaseManager :=
  ⟨distributorClient, [], [], 0, by simp, by simp⟩

/- The object a reference names. -/
def record (s : ReleaseManager) (ref : Nat) : Release :=
  s.objects.getD ref default

/- The calendar as Python iterates it: `self.calendar`. -/
def records (s : ReleaseManager) : List Release :=
  s.calendar.map s.record

/- `_find_release(release_id)`: the first release of the calendar with that id. -/
def findRelease (s : ReleaseManager) (releaseId : String) : Option Nat :=
  s.calendar.find? fun ref => (s.record ref).id = releaseId

end ReleaseManager

end MusicLabel

------------------------------------------------------------
-- Creating Releases
------------------------------------------------------------

namespace MusicLabel

namespace ReleaseManager

/-
  `format(n, "04d")`: the digits of `|n|`, zero-filled on the left so
  that with the sign they take at least four places.
-/
def formatId (n : Int) : String :=
  if n < 0 then "-" ++ PyDate.zeroPadded 3 (-n) else PyDate.zeroPadded 4 n

/- `f"REL-{n:04d}"`. -/
def releaseId (n : Int) : String :=
  "REL-" ++ formatId n

/- `_next_id()`: the counter raised by one, and the id of its new value. -/
def nextId (s : ReleaseManager) : String × ReleaseManager :=
  let counter := s.idCounter + 1
  (releaseId counter, { s with idCounter := counter })

/- A new object appended to the heap and to the calendar. -/
def allocate (s : ReleaseManager) (release : Release) : ReleaseManager :=
  { s with
    objects := s.objects ++ [release]
    calendar := s.calendar ++ [s.objects.length]
    refsValid := by
      intro r hr
      rcases List.mem_append.mp hr with hOld | hNew
      · have := s.refsValid r hOld
        simp only [List.length_append, List.length_singleton]
        omega
      · rw [List.mem_singleton.mp hNew]
        simp
    objectsRegistered := by
      intro r hr
      simp only [List.length_append, List.length_singleton] at hr
      rcases Nat.lt_succ_iff_lt_or_eq.mp hr with hOld | hNew
      · exact List.mem_append_left _ (s.objectsRegistered r hOld)
      · exact List.mem_append_right _ (List.mem_singleton.mpr hNew) }

/- The record `create_release` logs. -/
def createdInfo (release : Release) : LogRecord :=
  ⟨.info, "Release created: " ++ release.artist ++ " - " ++ release.title ++ " (" ++
    release.id ++ ") [" ++ release.releaseDate ++ "]"⟩

/- What `create_release` logs, the object it returns, and the manager after it. -/
structure Created where
  log : List LogRecord
  ref : Nat
  manager : ReleaseManager

/-
  `create_release(artist, title, tracks, release_date, release_type)`:
  a `draft` release under the next id, appended to the calendar.
-/
def createRelease
    (artist title : String)
    (tracks : List String)
    (releaseDate releaseType : String)
    (s : ReleaseManager) : Created :=
  let (id, s) := s.nextId
  let release : Release := { id, artist, title, tracks, releaseDate, releaseType }
  ⟨[createdInfo release], s.objects.length, s.allocate release⟩

end ReleaseManager

end MusicLabel

------------------------------------------------------------
-- Validation and Upload
------------------------------------------------------------

namespace MusicLabel

namespace ReleaseManager

open Regex Strptime

/- `r"^\d{12,13}$"`. -/
def upcPattern : List Repeat :=
  [⟨[.digit], 12, 13⟩]

/- `r"^[A-Z]{2}[A-Z0-9]{3}\d{7}$"`. -/
def isrcPattern : List Repeat :=
  [⟨[.range 'A' 'Z'], 2, 2⟩, ⟨[.range 'A' 'Z', .range '0' '9'], 3, 3⟩, ⟨[.digit], 7, 7⟩]

/- `not text or not text.strip()`. -/
def isBlank (text : String) : Bool :=
  text = "" || Text.strip Text.isSpace text.data = []

/- What `validate_metadata` logs, and the errors it returns. -/
structure Validated where
  log : List LogRecord
  errors : List String

/- The object `upload_to_koala` is given: an object of the heap, or one outside it. -/
inductive ReleaseObject
  | fresh (release : Release)
  | registered (ref : Nat)

/- The dict `upload_to_koala` returns. -/
structure UploadReply where
  releaseId : String
  status : String
  submittedAt : String
  deriving DecidableEq, Repr

/- What uploading one release logs and returns or raises, and the release after it. -/
structure UploadedRelease where
  log : List LogRecord
  result : Except ReleaseError UploadReply
  release : Release

/- What `upload_to_koala` logs and returns or raises, and the manager after it. -/
structure Uploaded where
  log : List LogRecord
  result : Except ReleaseError UploadReply
  manager : ReleaseManager

/- The object at `ref` with its status replaced. -/
def setStatus (s : ReleaseManager) (ref : Nat) (status : String) : ReleaseManager :=
  { s with
    objects := s.objects.modify (fun r => { r with status }) ref
    refsValid := fun r hr => by
      simpa using s.refsValid r hr
    objectsRegistered := fun r hr =>
      s.objectsRegistered r (by simpa using hr) }

section Validation

/- `repr` of a string. -/
variable (strRepr : String → String)

/- `str` of a list of strings. -/
def listRepr (items : List String) : String :=
  "[" ++ ", ".intercalate (items.map strRepr) ++ "]"

/-
  The date check of `validate_metadata`. `strptime` raises only
  `ValueError` (`ContractManager.strptime_error`), which the `except`
  catches.
-/
def releaseDateErrors (today : PyDate) (releaseDate : String) : List String :=
  match PyDate.strptime releaseDate with
  | .ok relDate =>
      if relDate.cmp today = .lt then ["Release date " ++ releaseDate ++ " is in the past"]
      else []
  | .error _ => ["Invalid release date format: " ++ releaseDate]

/- `validate_metadata(release)` on the day `today`. -/
def validateMetadata (today : PyDate) (release : Release) : Validated :=
  let upc := release.upc.getD ""
  let errors :=
    (if isBlank release.title then ["Title is empty"] else []) ++
    (if isBlank release.artist then ["Artist is empty"] else []) ++
    (if release.tracks = [] then ["No tracks in release"] else []) ++
    releaseDateErrors today release.releaseDate ++
    (if upc ≠ "" ∧ fullMatch upcPattern upc = false then ["Invalid UPC: " ++ upc] else []) ++
    release.isrcList.filterMap (fun isrc =>
      if fullMatch isrcPattern isrc then none else some ("Invalid ISRC: " ++ isrc)) ++
    (if release.artworkUrl.getD "" = "" then ["No artwork provided"] else [])
  ⟨if errors = [] then []
    else [⟨.warning, "Validation errors for " ++ release.id ++ ": " ++ listRepr strRepr errors⟩],
    errors⟩

/- The body of `upload_to_koala` on one release. -/
def upload (today : PyDate) (submittedAt : String) (distributorClient : Bool) (release : Release) :
    UploadedRelease :=
  if !distributorClient then
    ⟨[], .error (.runtime "Distributor client not configured"), release⟩
  else
    let validated := validateMetadata strRepr today release
    if validated.errors ≠ [] then
      ⟨validated.log,
        .error (.releaseValidation ("Validation errors: " ++ listRepr strRepr validated.errors)),
        release⟩
    else
      ⟨[⟨.info, "Release " ++ release.id ++ " submitted to distributor"⟩],
        .ok ⟨release.id, "submitted", submittedAt⟩, { release with status := "submitted" }⟩

/-
  `upload_to_koala(release)` on the day `today`, at the clock reading
  `submittedAt`: the status it assigns lands on the object, so a heap
  object changes in the calendar and one outside the heap changes
  nothing the manager holds. A heap position past the last object
  names no object: no such call exists, and there is no result.
-/
def uploadToKoala
    (today : PyDate)
    (submittedAt : String)
    (release : ReleaseObject)
    (s : ReleaseManager) : Option Uploaded :=
  match release with
  | .fresh release =>
      let uploaded := upload strRepr today submittedAt s.distributorClient release
      some ⟨uploaded.log, uploaded.result, s⟩
  | .registered ref =>
      if ref < s.objects.length then
        let uploaded := upload strRepr today submittedAt s.distributorClient (s.record ref)
        some ⟨uploaded.log, uploaded.result, s.setStatus ref uploaded.release.status⟩
      else none

end Validation

end ReleaseManager

end MusicLabel

------------------------------------------------------------
-- Status, Notifications, Calendar and Catalog
------------------------------------------------------------

namespace MusicLabel

/- The dict `track_status` returns. -/
structure TrackStatus where
  releaseId : String
  title : String
  artist : String
  overallStatus : String
  releaseDate : String
  dspStatuses : PyDict String String

/- The dict `notify_artist` returns. -/
structure Notification where
  artist : String
  releaseId : String
  message : String
  status : String
  deriving DecidableEq, Repr

/- An entry of `get_calendar`. -/
structure CalendarEntry where
  id : String
  artist : String
  title : String
  releaseDate : String
  type : String
  status : String
  tracksCount : Nat
  deriving DecidableEq, Repr

/- The dict `get_catalog` returns. -/
structure Catalog where
  totalReleases : Nat
  live : Nat
  totalTracks : Nat
  artists : List String
  releases : List CalendarEntry
  deriving DecidableEq, Repr

namespace ReleaseManager

/- The statuses `track_status` reports for a release with none of its own. -/
def defaultDspStatuses : PyDict String String :=
  ((((PyDict.empty.set "Spotify" "pending").set "Apple Music" "pending").set
    "Yandex Music" "pending").set "VK Music" "pending")

/- `track_status(release_id)`: `None` when no release has the id. -/
def trackStatus (s : ReleaseManager) (releaseId : String) : Option TrackStatus :=
  (s.findRelease releaseId).map fun ref =>
    let release := s.record ref
    ⟨release.id, release.title, release.artist, release.status, release.releaseDate,
      if release.dspStatuses.entries = [] then defaultDspStatuses else release.dspStatuses⟩

/- The messages of `notify_artist`, by status. -/
def notifyMessages (release : Release) : PyDict String String :=
  (((PyDict.empty.set "submitted"
      ("Релиз \"" ++ release.title ++ "\" отправлен на площадки! Дата выхода: " ++
        release.releaseDate ++ ".")).set "live"
      ("Релиз \"" ++ release.title ++ "\" вышел на всех площадках!")).set "rejected"
      ("Релиз \"" ++ release.title ++ "\" отклонён. Проверьте метаданные."))

/- `notify_artist(artist, release, status)`. -/
def notifyArtist (artist : String) (release : Release) (status : String) : Notification :=
  ⟨artist, release.id,
    (notifyMessages release).getD status
      ("Статус релиза \"" ++ release.title ++ "\": " ++ status),
    status⟩

/- The entry of a release in `get_calendar`. -/
def calendarEntry (release : Release) : CalendarEntry :=
  ⟨release.id, release.artist, release.title, release.releaseDate, release.releaseType,
    release.status, release.tracks.length⟩

/- The releases `get_calendar(month)` keeps: all of them unless `month` is a non-empty prefix. -/
def inMonth (month : Option String) (release : Release) : Bool :=
  match month with
  | some month => month = "" || month.data.isPrefixOf release.releaseDate.data
  | none => true

/- The order of `get_calendar`: `a` may stand before `b` when its date is not later. -/
def DateNotAfter (a b : CalendarEntry) : Prop :=
  a.releaseDate ≤ b.releaseDate

instance : DecidableRel DateNotAfter :=
  fun a b => inferInstanceAs (Decidable (a.releaseDate ≤ b.releaseDate))

/-
  `get_calendar(month)`: the kept releases in calendar order, then
  `sorted(result, key=lambda x: x["release_date"])`, a stable sort
  written as an insertion sort.
-/
def getCalendar (s : ReleaseManager) (month : Option String) : List CalendarEntry :=
  ((s.records.filter (inMonth month)).map calendarEntry).insertionSort DateNotAfter

/-
  `get_catalog()`. `list(set(...))` lists the artists in the order of
  the string hashes of the process; here each comes once, in calendar
  order of its last release.
-/
def getCatalog (s : ReleaseManager) : Catalog :=
  ⟨s.records.length, (s.records.filter (·.status = "live")).length,
    (s.records.map (·.tracks.length)).sum, (s.records.map (·.artist)).dedup,
    s.getCalendar none⟩

end ReleaseManager

end MusicLabel
