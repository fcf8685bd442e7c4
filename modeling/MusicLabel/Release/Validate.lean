import MusicLabel.Release.Manager

/-
  What `validate_metadata` accepts, and what `upload_to_koala` does
  with a release.

  The UPC pattern accepts twelve or thirteen Unicode decimal digits; the
  ISRC pattern two ASCII capitals, three ASCII capitals or digits, and
  seven Unicode decimal digits. Both accept one newline after them,
  since `$` matches before a final newline, and neither accepts a
  hyphen, so an ISRC written `CC-XXX-YY-NNNNN`, as the comment above
  the check spells it, is reported invalid.

  A release passes when its title and artist are not blank, it has
  tracks, its date parses and is not before today, its UPC (when set)
  and every ISRC have those forms, and it has artwork. An upload then needs a
  distributor client: with one, a release that passes becomes
  `submitted`; otherwise the call raises and the calendar is as it was.

  Correctness is proven by:
    * `ReleaseManager.fullMatch_upcPattern_iff`, `ReleaseManager.fullMatch_isrcPattern_iff`
    * `ReleaseManager.validateMetadata_errors_eq_nil_iff`
    * `ReleaseManager.upload_spec`: the upload of one release
    * `ReleaseManager.uploadToKoala_registered`: the upload of a calendar object

  Main declarations:
    * `ReleaseManager.UpcForm`, `ReleaseManager.IsrcForm`, `ReleaseManager.ValidMetadata`
-/

------------------------------------------------------------
-- The UPC and ISRC Patterns
------------------------------------------------------------

namespace MusicLabel

namespace ReleaseManager

open Regex Strptime

@[simp] theorem accepts_digit
    (c : Char) :
    accepts [.digit] c = (Text.digitValue c).isSome := by
  simp [accepts, CharClass.accepts]

@[simp] theorem accepts_range
    (lo hi c : Char) :
    accepts [.range lo hi] c = (lo ≤ c && c ≤ hi) := by
  simp [accepts, CharClass.accepts]

@[simp] theorem accepts_range_range
    (lo hi lo' hi' c : Char) :
    accepts [.range lo hi, .range lo' hi'] c = ((lo ≤ c && c ≤ hi) || (lo' ≤ c && c ≤ hi')) := by
  simp [accepts, CharClass.accepts]

/- A UPC of twelve or thirteen decimal digits, then nothing or one newline. -/
def UpcForm (upc : String) : Prop :=
  ∃ digits tail, upc.data = digits ++ tail ∧ (digits.length = 12 ∨ digits.length = 13) ∧
    (∀ c ∈ digits, (Text.digitValue c).isSome) ∧ (tail = [] ∨ tail = ['\n'])

/-
  An ISRC of two ASCII capitals, three ASCII capitals or digits, and
  seven decimal digits, then nothing or one newline.
-/
def IsrcForm (isrc : String) : Prop :=
  ∃ country code digits tail, isrc.data = country ++ code ++ digits ++ tail ∧
    country.length = 2 ∧ code.length = 3 ∧ digits.length = 7 ∧
    (∀ c ∈ country, 'A' ≤ c ∧ c ≤ 'Z') ∧
    (∀ c ∈ code, ('A' ≤ c ∧ c ≤ 'Z') ∨ ('0' ≤ c ∧ c ≤ '9')) ∧
    (∀ c ∈ digits, (Text.digitValue c).isSome) ∧ (tail = [] ∨ tail = ['\n'])

/- The UPC pattern matches exactly the UPCs of that form. -/
theorem fullMatch_upcPattern_iff
    (upc : String) :
    fullMatch upcPattern upc = true ↔ UpcForm upc := by
  simp only [UpcForm, fullMatch_iff, upcPattern, List.forall₂_cons_left_iff, List.forall₂_nil_left_iff,
    Fits, accepts_digit]
  constructor
  · rintro ⟨_, tail, hData, ⟨digits, _, ⟨hLo, hHi, hDigits⟩, rfl, rfl⟩, hTail⟩
    exact ⟨digits, tail, by simpa using hData, by omega, hDigits, hTail⟩
  · rintro ⟨digits, tail, hData, hLength, hDigits, hTail⟩
    exact ⟨[digits], tail, by simpa using hData, ⟨digits, [], ⟨by omega, by omega, hDigits⟩,
      rfl, rfl⟩, hTail⟩

/- The ISRC pattern matches exactly the ISRCs of that form. -/
theorem fullMatch_isrcPattern_iff
    (isrc : String) :
    fullMatch isrcPattern isrc = true ↔ IsrcForm isrc := by
  simp only [IsrcForm, fullMatch_iff, isrcPattern, List.forall₂_cons_left_iff, List.forall₂_nil_left_iff,
    Fits, accepts_digit, accepts_range, accepts_range_range, Bool.and_eq_true, Bool.or_eq_true,
    decide_eq_true_eq]
  constructor
  · rintro ⟨_, tail, hData, ⟨country, _, ⟨hLo₁, hHi₁, hCountry⟩,
      ⟨code, _, ⟨hLo₂, hHi₂, hCode⟩, ⟨digits, _, ⟨hLo₃, hHi₃, hDigits⟩, rfl, rfl⟩, rfl⟩, rfl⟩,
      hTail⟩
    exact ⟨country, code, digits, tail, by simpa using hData, by omega, by omega, by omega,
      hCountry, hCode, hDigits, hTail⟩
  · rintro ⟨country, code, digits, tail, hData, hLen₁, hLen₂, hLen₃, hCountry, hCode, hDigits,
      hTail⟩
    exact ⟨[country, code, digits], tail, by simpa using hData,
      ⟨country, _, ⟨by omega, by omega, hCountry⟩, ⟨code, _, ⟨by omega, by omega, hCode⟩,
        ⟨digits, [], ⟨by omega, by omega, hDigits⟩, rfl, rfl⟩, rfl⟩, rfl⟩, hTail⟩

end ReleaseManager

end MusicLabel

------------------------------------------------------------
-- The Metadata that Passes
------------------------------------------------------------

namespace MusicLabel

namespace ReleaseManager

/- The metadata `validate_metadata` accepts on the day `today`. -/
structure ValidMetadata (today : PyDate) (release : Release) : Prop where
  title : Text.strip Text.isSpace release.title.data ≠ []
  artist : Text.strip Text.isSpace release.artist.data ≠ []
  tracks : release.tracks ≠ []
  releaseDate : ∃ relDate, PyDate.strptime release.releaseDate = .ok relDate ∧
    today.toOrdinal ≤ relDate.toOrdinal
  upc : ∀ upc, release.upc = some upc → upc ≠ "" → UpcForm upc
  isrcList : ∀ isrc ∈ release.isrcList, IsrcForm isrc
  artworkUrl : ∃ url, release.artworkUrl = some url ∧ url ≠ ""

/- A text is blank exactly when stripping it leaves nothing. -/
theorem isBlank_eq_false_iff
    (text : String) :
    isBlank text = false ↔ Text.strip Text.isSpace text.data ≠ [] := by
  simp only [isBlank, Bool.or_eq_false_iff, decide_eq_false_iff_not]
  constructor
  · exact fun h => h.2
  · intro h
    refine ⟨fun hEmpty => h ?_, h⟩
    rw [hEmpty]
    rfl

theorem releaseDate_errors_eq_nil_iff
    (today : PyDate)
    (releaseDate : String) :
    releaseDateErrors today releaseDate = [] ↔
      ∃ relDate, PyDate.strptime releaseDate = .ok relDate ∧
        today.toOrdinal ≤ relDate.toOrdinal := by
  unfold releaseDateErrors
  cases PyDate.strptime releaseDate with
  | error e => simp
  | ok relDate => simp [PyDate.cmp_eq_compare_toOrdinal, compare_lt_iff_lt]

theorem upc_errors_eq_nil_iff
    (upc : Option String) :
    (if upc.getD "" ≠ "" ∧ Regex.fullMatch upcPattern (upc.getD "") = false then
        ["Invalid UPC: " ++ upc.getD ""] else []) = [] ↔
      ∀ code, upc = some code → code ≠ "" → UpcForm code := by
  cases upc <;> simp [← fullMatch_upcPattern_iff]

theorem artwork_errors_eq_nil_iff
    (artworkUrl : Option String) :
    (if artworkUrl.getD "" = "" then ["No artwork provided"] else []) = [] ↔
      ∃ url, artworkUrl = some url ∧ url ≠ "" := by
  cases artworkUrl <;> simp

section Validation

variable (strRepr : String → String)

/- `validate_metadata` returns no error exactly for the metadata it accepts. -/
theorem validateMetadata_errors_eq_nil_iff
    (today : PyDate)
    (release : Release) :
    (validateMetadata strRepr today release).errors = [] ↔ ValidMetadata today release := by
  simp only [validateMetadata, List.append_eq_nil, releaseDate_errors_eq_nil_iff,
    upc_errors_eq_nil_iff, artwork_errors_eq_nil_iff]
  simp only [List.filterMap_eq_nil_iff, ite_eq_right_iff, reduceCtorEq, imp_false,
    Bool.not_eq_true, isBlank_eq_false_iff, and_assoc]
  constructor
  · rintro ⟨hTitle, hArtist, hTracks, hDate, hUpc, hIsrc, hArtwork⟩
    exact ⟨hTitle, hArtist, hTracks, hDate, hUpc,
      fun isrc h => (fullMatch_isrcPattern_iff isrc).mp (by simpa using hIsrc isrc h), hArtwork⟩
  · rintro ⟨hTitle, hArtist, hTracks, hDate, hUpc, hIsrc, hArtwork⟩
    exact ⟨hTitle, hArtist, hTracks, hDate, hUpc,
      fun isrc h => by simp [(fullMatch_isrcPattern_iff isrc).mpr (hIsrc isrc h)], hArtwork⟩

end Validation

end ReleaseManager

end MusicLabel

------------------------------------------------------------
-- Uploads
------------------------------------------------------------

namespace MusicLabel

namespace ReleaseManager

section Upload

variable (strRepr : String → String) (today : PyDate) (submittedAt : String)

/-
  With a client and valid metadata the release becomes `submitted` and
  the reply names it; otherwise the call raises and the release stays
  as it was.
-/
theorem upload_spec
    (distributorClient : Bool)
    (release : Release) :
    (distributorClient = true ∧ ValidMetadata today release →
      (upload strRepr today submittedAt distributorClient release).result =
          .ok ⟨release.id, "submitted", submittedAt⟩ ∧
        (upload strRepr today submittedAt distributorClient release).release =
          { release with status := "submitted" }) ∧
    (¬(distributorClient = true ∧ ValidMetadata today release) →
      (∃ e, (upload strRepr today submittedAt distributorClient release).result = .error e) ∧
        (upload strRepr today submittedAt distributorClient release).release = release) := by
  rw [← validateMetadata_errors_eq_nil_iff strRepr]
  unfold upload
  by_cases hValid : (validateMetadata strRepr today release).errors = [] <;>
    cases distributorClient <;> simp [hValid]

/- Giving an object its own status back changes nothing. -/
theorem setStatus_record_status
    (s : ReleaseManager)
    (ref : Nat) :
    s.setStatus ref (s.record ref).status = s := by
  have hObjects :
      s.objects.modify (fun r => { r with status := (s.record ref).status }) ref = s.objects := by
    apply List.ext_getElem?
    intro i
    by_cases hi : ref = i
    · subst hi
      rw [List.getElem?_modify_eq]
      cases hGet : s.objects[ref]? <;> simp [record, hGet]
    · rw [List.getElem?_modify_ne _ _ hi]
  cases s
  simp only [setStatus, ReleaseManager.mk.injEq]
  exact ⟨trivial, hObjects, trivial, trivial⟩

/-
  An upload of a calendar object succeeds exactly when the client is
  set and the object's metadata is valid on that day, and then only
  the object's status changes, to `submitted`; a failed upload raises
  and leaves the manager as it was.
-/
theorem uploadToKoala_registered
    {s : ReleaseManager}
    {ref : Nat}
    (hRef : ref < s.objects.length) :
    ∃ uploaded, uploadToKoala strRepr today submittedAt (.registered ref) s = some uploaded ∧
      (s.distributorClient = true ∧ ValidMetadata today (s.record ref) →
        uploaded.result = .ok ⟨(s.record ref).id, "submitted", submittedAt⟩ ∧
          uploaded.manager = s.setStatus ref "submitted") ∧
      (¬(s.distributorClient = true ∧ ValidMetadata today (s.record ref)) →
        (∃ e, uploaded.result = .error e) ∧ uploaded.manager = s) := by
  obtain ⟨hOk, hFail⟩ := upload_spec strRepr today submittedAt s.distributorClient (s.record ref)
  refine ⟨_, by simp only [uploadToKoala, if_pos hRef]; rfl, fun h => ?_, fun h => ?_⟩
  · obtain ⟨hResult, hRelease⟩ := hOk h
    exact ⟨hResult, by rw [hRelease]⟩
  · obtain ⟨hResult, hRelease⟩ := hFail h
    exact ⟨hResult, by rw [hRelease, setStatus_record_status]⟩

end Upload

theorem uploadToKoala_registered_at_created_release :
    let s := (createRelease "Мира" "Полночь" ["Полночь"] "2026-03-01" "single" (new true)).manager
    let today : PyDate := ⟨2026, 2, 1, by decide, by decide, by decide⟩
    0 < s.objects.length ∧
      ∃ uploaded, uploadToKoala id today "2026-02-01T10:00:00" (.registered 0) s = some uploaded ∧
        (s.distributorClient = true ∧ ValidMetadata today (s.record 0) →
          uploaded.result = .ok ⟨(s.record 0).id, "submitted", "2026-02-01T10:00:00"⟩ ∧
            uploaded.manager = s.setStatus 0 "submitted") ∧
        (¬(s.distributorClient = true ∧ ValidMetadata today (s.record 0)) →
          (∃ e, uploaded.result = .error e) ∧ uploaded.manager = s) :=
  ⟨by decide, uploadToKoala_registered id _ _ (by decide)⟩

end ReleaseManager

end MusicLabel
