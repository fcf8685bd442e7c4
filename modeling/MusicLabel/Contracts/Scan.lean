import MusicLabel.Contracts.Manager
import Mathlib.Data.List.Infix

/-
  `ContractManager.scan_contracts`: the contract files of a cloud
  storage listing.

  The call awaits `storage_client.list_files(base_path)`, which is its
  input here, and keeps the files whose name ends in `.pdf`, `.docx` or
  `.doc`, in listing order, each with its path, name, modification time
  and type `name.rsplit(".", 1)[-1]`. A missing key of a listing entry
  reads as `""`. The type is the text after the last dot, so it is
  always `pdf`, `docx` or `doc`.

  Correctness is proven by:
    * `ContractManager.afterLastDot_of_suffix`: the text after the last dot
    * `ContractManager.filterMap_scanEntry`: the loop over the listing
    * `ContractManager.scanContracts_eq`: the files kept, every field, and their types

  Main declarations:
    * `StorageFile`, `ContractFile`, `ContractManager.scanContracts`
-/

------------------------------------------------------------
-- Scanning a Listing
------------------------------------------------------------

namespace MusicLabel

/- An entry of the storage listing, with the keys it may carry. -/
structure StorageFile where
  name : Option String
  path : Option String
  modified : Option String
  deriving DecidableEq

/- An entry of `scan_contracts`. -/
structure ContractFile where
  path : String
  name : String
  type : String
  modified : String
  deriving DecidableEq

namespace ContractManager

/- The suffixes `(".pdf", ".docx", ".doc")`. -/
def contractSuffixes : List String :=
  [".pdf", ".docx", ".doc"]

/- `name.endswith(suffixes)` for a tuple of suffixes. -/
def endsWithAny (name : String) (suffixes : List String) : Bool :=
  suffixes.any fun suffix => suffix.data.isSuffixOf name.data

/- `name.rsplit(".", 1)[-1]`: the text after the last dot, or the whole name. -/
def afterLastDot (name : String) : String :=
  String.mk (name.data.reverse.takeWhile (· ≠ '.')).reverse

/- The loop body of `scan_contracts` for one listing entry. -/
def scanEntry (file : StorageFile) : Option ContractFile :=
  let name := file.name.getD ""
  if endsWithAny name contractSuffixes then
    some ⟨file.path.getD "", name, afterLastDot name, file.modified.getD ""⟩
  else none

/- The record `"Scanned %s: found %d contract files"`. -/
def scannedInfo (basePath : String) (count : Nat) : LogRecord :=
  ⟨.info, "Scanned " ++ basePath ++ ": found " ++ Nat.repr count ++ " contract files"⟩

/-
  `scan_contracts(base_path)` once the listing `files` of `base_path`
  has been awaited.
-/
def scanContracts (basePath : String) (files : List StorageFile) : Logged (List ContractFile) :=
  let found := files.filterMap scanEntry
  ⟨[scannedInfo basePath found.length], .ok found⟩

end ContractManager

end MusicLabel

------------------------------------------------------------
-- What a Scan Reports
------------------------------------------------------------

namespace MusicLabel

namespace ContractManager

/- A name ending in a dot and a dotless extension has that extension after its last dot. -/
theorem afterLastDot_of_suffix
    {name extension : String}
    (hDotless : '.' ∉ extension.data)
    (hSuffix : ('.' :: extension.data) <:+ name.data) :
    afterLastDot name = extension := by
  obtain ⟨stem, hStem⟩ := hSuffix
  have hKeep : ∀ c ∈ extension.data.reverse, decide (c ≠ '.') = true := by
    intro c hc
    simp only [decide_eq_true_eq]
    rintro rfl
    exact hDotless (List.mem_reverse.mp hc)
  simp only [afterLastDot, ← hStem, List.reverse_append, List.reverse_cons, List.append_assoc,
    List.singleton_append]
  rw [List.takeWhile_append_of_pos hKeep, List.takeWhile_cons_of_neg (by simp),
    List.append_nil, List.reverse_reverse]

theorem endsWithAny_iff
    (name : String)
    (suffixes : List String) :
    endsWithAny name suffixes = true ↔ ∃ suffix ∈ suffixes, suffix.data <:+ name.data := by
  simp [endsWithAny, List.isSuffixOf_iff_suffix]

/- A contract file name ends in a dot and its type, one of `pdf`, `docx` and `doc`. -/
theorem afterLastDot_of_contractSuffix
    {name : String}
    (h : endsWithAny name contractSuffixes = true) :
    afterLastDot name ∈ ["pdf", "docx", "doc"] ∧
      ('.' :: (afterLastDot name).data) <:+ name.data := by
  obtain ⟨suffix, hMem, hSuffix⟩ := (endsWithAny_iff _ _).mp h
  simp only [contractSuffixes, List.mem_cons, List.mem_singleton, List.not_mem_nil,
    or_false] at hMem
  rcases hMem with rfl | rfl | rfl
  · rw [@afterLastDot_of_suffix _ "pdf" (by decide) hSuffix]
    exact ⟨by simp, hSuffix⟩
  · rw [@afterLastDot_of_suffix _ "docx" (by decide) hSuffix]
    exact ⟨by simp, hSuffix⟩
  · rw [@afterLastDot_of_suffix _ "doc" (by decide) hSuffix]
    exact ⟨by simp, hSuffix⟩

/- The loop keeps the contract files and builds each one's entry. -/
theorem filterMap_scanEntry
    (files : List StorageFile) :
    files.filterMap scanEntry =
      (files.filter fun file => endsWithAny (file.name.getD "") contractSuffixes).map fun file =>
        ⟨file.path.getD "", file.name.getD "", afterLastDot (file.name.getD ""),
          file.modified.getD ""⟩ := by
  induction files with
  | nil => rfl
  | cons file files ih =>
      by_cases h : endsWithAny (file.name.getD "") contractSuffixes = true <;>
        simp [scanEntry, h, ih]

/-
  `scan_contracts` reports, in listing order, exactly the entries whose
  name (`""` when missing) ends in `.pdf`, `.docx` or `.doc`, each with
  its path, name and modification time (`""` when missing) and the
  text after its last dot as type; that type is `pdf`, `docx` or `doc`,
  and the name ends in a dot and the type.
-/
theorem scanContracts_eq
    (basePath : String)
    (files : List StorageFile) :
    let found : List ContractFile :=
      (files.filter fun file => endsWithAny (file.name.getD "") contractSuffixes).map fun file =>
        ⟨file.path.getD "", file.name.getD "", afterLastDot (file.name.getD ""),
          file.modified.getD ""⟩
    scanContracts basePath files = ⟨[scannedInfo basePath found.length], .ok found⟩ ∧
      ∀ file ∈ found, file.type ∈ ["pdf", "docx", "doc"] ∧
        ('.' :: file.type.data) <:+ file.name.data := by
  intro found
  refine ⟨by rw [scanContracts, filterMap_scanEntry], fun file hFile => ?_⟩
  obtain ⟨entry, hEntry, rfl⟩ := List.mem_map.mp hFile
  exact afterLastDot_of_contractSuffix (List.mem_filter.mp hEntry).2

end ContractManager

end MusicLabel
