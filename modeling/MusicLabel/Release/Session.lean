import MusicLabel.Release.Validate
import Mathlib.Data.List.GetD

/-
  The release manager as a state machine: `create_release` and
  `upload_to_koala` calls in any order.

  Over every run the heap keeps the objects it started with and gains
  one `draft` release per create call, in call order, numbered on from
  the counter, and the calendar gains exactly their references. Every
  object keeps all its fields but its status, and its status changes
  only to `submitted`, through an upload of that very object with the
  client set, on a day its metadata was valid.

  From a calendar whose ids are distinct and not yet handed out by the
  counter (a new manager's empty calendar is one), the ids stay distinct
  over every run, since `f"REL-{n:04d}"` never repeats an id, and so
  `_find_release`, and with it `track_status`, finds each release of
  the calendar by its id.

  Correctness is proven by:
    * `ReleaseManager.step_evolved`, `ReleaseManager.run_history`
    * `ReleaseManager.releaseId_injective`
    * `ReleaseManager.step_idsFresh`, `ReleaseManager.run_findRelease`

  Main declarations:
    * `ReleaseCall`, `ReleaseManager.step`, `ReleaseManager.run`
    * `ReleaseManager.createdBy`, `ReleaseManager.Evolved`, `ReleaseManager.IdsFresh`
-/

------------------------------------------------------------
-- Calls and Runs
------------------------------------------------------------

namespace MusicLabel

/- A call on the release manager. -/
inductive ReleaseCall
  | createRelease (artist title : String) (tracks : List String) (releaseDate releaseType : String)
  | uploadToKoala (today : PyDate) (submittedAt : String) (release : ReleaseManager.ReleaseObject)

/- A release with its status blanked: two releases agree on every other field when these agree. -/
def Release.dropStatus (release : Release) : Release :=
  { release with status := "" }

namespace ReleaseManager

section Session

/- `repr` of a string. -/
variable (strRepr : String → String)

/- One call; an upload naming no object is no call. -/
def step (s : ReleaseManager) : ReleaseCall → ReleaseManager
  | .createRelease artist title tracks releaseDate releaseType =>
      (createRelease artist title tracks releaseDate releaseType s).manager
  | .uploadToKoala today submittedAt release =>
      match uploadToKoala strRepr today submittedAt release s with
      | some uploaded => uploaded.manager
      | none => s

/- A run of calls. -/
def run (calls : List ReleaseCall) (s : ReleaseManager) : ReleaseManager :=
  calls.foldl (step strRepr) s

end Session

/- The release `create_release` makes when the counter stands at `counter`. -/
def newRelease
    (counter : Int)
    (artist title : String)
    (tracks : List String)
    (releaseDate releaseType : String) : Release :=
  { id := releaseId (counter + 1), artist, title, tracks, releaseDate, releaseType }

/- The releases the create calls of a run make, numbered on from `counter`. -/
def createdBy : Int → List ReleaseCall → List Release
  | _, [] => []
  | counter, .createRelease artist title tracks releaseDate releaseType :: calls =>
      newRelease counter artist title tracks releaseDate releaseType :: createdBy (counter + 1) calls
  | counter, .uploadToKoala _ _ _ :: calls => createdBy counter calls

/-
  `now` is the object `first` after the calls `calls`: it agrees with
  `first` on every field but the status, and a changed status is
  `submitted`, set with the client set by an upload of the object at
  `ref` among the calls, on a day the metadata was valid.
-/
def Evolved
    (distributorClient : Bool)
    (calls : List ReleaseCall)
    (ref : Nat)
    (first now : Release) : Prop :=
  now.dropStatus = first.dropStatus ∧
    (now.status = first.status ∨
      now.status = "submitted" ∧ distributorClient = true ∧
        ∃ today submittedAt, ReleaseCall.uploadToKoala today submittedAt (.registered ref) ∈ calls ∧
          ValidMetadata today first)

end ReleaseManager

end MusicLabel

------------------------------------------------------------
-- One Call
------------------------------------------------------------

namespace MusicLabel

namespace ReleaseManager

variable {s : ReleaseManager}

/- Changing only the status keeps every other field. -/
@[simp] theorem dropStatus_withStatus
    (release : Release)
    (status : String) :
    ({ release with status } : Release).dropStatus = release.dropStatus :=
  rfl

/- The metadata check reads no status. -/
theorem validMetadata_dropStatus
    (today : PyDate)
    (release : Release) :
    ValidMetadata today release.dropStatus ↔ ValidMetadata today release :=
  ⟨fun ⟨h₁, h₂, h₃, h₄, h₅, h₆, h₇⟩ => ⟨h₁, h₂, h₃, h₄, h₅, h₆, h₇⟩,
    fun ⟨h₁, h₂, h₃, h₄, h₅, h₆, h₇⟩ => ⟨h₁, h₂, h₃, h₄, h₅, h₆, h₇⟩⟩

theorem record_setStatus_self
    {ref : Nat}
    (status : String)
    (hRef : ref < s.objects.length) :
    (s.setStatus ref status).record ref = { s.record ref with status } := by
  simp [record, setStatus, List.getElem?_modify_eq, List.getElem?_eq_getElem hRef]

theorem record_setStatus_ne
    {ref r : Nat}
    (status : String)
    (hr : ref ≠ r) :
    (s.setStatus ref status).record r = s.record r := by
  simp [record, setStatus, List.getElem?_modify_ne _ _ hr]

theorem evolved_refl
    (distributorClient : Bool)
    (calls : List ReleaseCall)
    (ref : Nat)
    (release : Release) :
    Evolved distributorClient calls ref release release :=
  ⟨rfl, .inl rfl⟩

/- Two stretches of a run compose. -/
theorem evolved_trans
    {distributorClient : Bool}
    {calls calls' : List ReleaseCall}
    {ref : Nat}
    {first middle now : Release}
    (hFirst : Evolved distributorClient calls ref first middle)
    (hNow : Evolved distributorClient calls' ref middle now) :
    Evolved distributorClient (calls ++ calls') ref first now := by
  obtain ⟨hDrop, hStatus⟩ := hFirst
  obtain ⟨hDrop', hStatus'⟩ := hNow
  have hValid : ∀ today, ValidMetadata today middle ↔ ValidMetadata today first := fun today => by
    rw [← validMetadata_dropStatus, hDrop, validMetadata_dropStatus]
  refine ⟨hDrop'.trans hDrop, ?_⟩
  rcases hStatus' with hSame' | ⟨hSubmitted, hClient, today, submittedAt, hCall, hMeta⟩
  · rcases hStatus with hSame | ⟨hSubmitted, hClient, today, submittedAt, hCall, hMeta⟩
    · exact .inl (hSame'.trans hSame)
    · exact .inr ⟨hSame'.trans hSubmitted, hClient, today, submittedAt,
        List.mem_append_left _ hCall, hMeta⟩
  · exact .inr ⟨hSubmitted, hClient, today, submittedAt, List.mem_append_right _ hCall,
      (hValid today).mp hMeta⟩

/-
  Everything one call can do: create a release, upload a calendar
  object, which then takes its own status back or, with the client set
  and valid metadata, `submitted`, or leave the manager as it was.
-/
theorem step_cases
    (strRepr : String → String)
    (call : ReleaseCall) :
    (∃ artist title tracks releaseDate releaseType,
        call = .createRelease artist title tracks releaseDate releaseType ∧
        step strRepr s call = ({ s with idCounter := s.idCounter + 1 }).allocate
          (newRelease s.idCounter artist title tracks releaseDate releaseType)) ∨
      (∃ today submittedAt ref status,
        call = .uploadToKoala today submittedAt (.registered ref) ∧ ref < s.objects.length ∧
        step strRepr s call = s.setStatus ref status ∧
        (status = (s.record ref).status ∨
          status = "submitted" ∧ s.distributorClient = true ∧ ValidMetadata today (s.record ref))) ∨
      ((∃ today submittedAt release, call = .uploadToKoala today submittedAt release) ∧
        step strRepr s call = s) := by
  cases call with
  | createRelease artist title tracks releaseDate releaseType =>
      exact .inl ⟨_, _, _, _, _, rfl, rfl⟩
  | uploadToKoala today submittedAt release =>
      cases release with
      | fresh release => exact .inr (.inr ⟨⟨today, submittedAt, _, rfl⟩, rfl⟩)
      | registered ref =>
          by_cases hRef : ref < s.objects.length
          · obtain ⟨hOk, hFail⟩ :=
              upload_spec strRepr today submittedAt s.distributorClient (s.record ref)
            refine .inr (.inl ⟨today, submittedAt, ref,
              (upload strRepr today submittedAt s.distributorClient (s.record ref)).release.status,
              rfl, hRef, by simp only [step, uploadToKoala, if_pos hRef], ?_⟩)
            by_cases hValid : s.distributorClient = true ∧ ValidMetadata today (s.record ref)
            · exact .inr ⟨by rw [(hOk hValid).2], hValid⟩
            · exact .inl (by rw [(hFail hValid).2])
          · exact .inr (.inr ⟨⟨today, submittedAt, _, rfl⟩, by simp [step, uploadToKoala, hRef]⟩)

/- The releases a run creates: those of its first call, then those of the rest. -/
theorem createdBy_cons
    (counter : Int)
    (call : ReleaseCall)
    (calls : List ReleaseCall) :
    createdBy counter (call :: calls) =
      createdBy counter [call] ++ createdBy (counter + (createdBy counter [call]).length) calls := by
  cases call <;> simp [createdBy]

/-
  One call keeps the client, raises the counter by the releases it
  creates, and appends their objects and references.
-/
theorem step_frame
    (strRepr : String → String)
    (call : ReleaseCall) :
    (step strRepr s call).distributorClient = s.distributorClient ∧
      (step strRepr s call).idCounter = s.idCounter + (createdBy s.idCounter [call]).length ∧
      (step strRepr s call).calendar =
        s.calendar ++ (List.range (createdBy s.idCounter [call]).length).map (s.objects.length + ·) ∧
      (step strRepr s call).objects.length =
        s.objects.length + (createdBy s.idCounter [call]).length := by
  rcases step_cases (s := s) strRepr call with
    ⟨artist, title, tracks, releaseDate, releaseType, rfl, hStep⟩ |
    ⟨today, submittedAt, ref, status, rfl, -, hStep, -⟩ | ⟨⟨today, submittedAt, release, rfl⟩, hStep⟩
  · simp [hStep, allocate, createdBy, List.range_succ]
  · simp [hStep, setStatus, createdBy]
  · simp [hStep, createdBy]

/- One call evolves every object from its first version, the new ones included. -/
theorem step_evolved
    (strRepr : String → String)
    (call : ReleaseCall)
    (ref : Nat) :
    Evolved s.distributorClient [call] ref ((s.objects ++ createdBy s.idCounter [call]).getD ref default)
      ((step strRepr s call).record ref) := by
  rcases step_cases (s := s) strRepr call with
    ⟨artist, title, tracks, releaseDate, releaseType, rfl, hStep⟩ |
    ⟨today, submittedAt, target, status, rfl, hTarget, hStep, hStatus⟩ |
    ⟨⟨today, submittedAt, release, rfl⟩, hStep⟩
  · rw [hStep]
    exact evolved_refl _ _ _ _
  · rw [hStep]
    simp only [createdBy, List.append_nil]
    by_cases hRef : target = ref
    · subst hRef
      rw [record_setStatus_self status hTarget]
      refine ⟨rfl, ?_⟩
      rcases hStatus with hSame | ⟨hSubmitted, hClient, hValid⟩
      · exact .inl hSame
      · exact .inr ⟨hSubmitted, hClient, today, submittedAt, List.mem_singleton_self _, hValid⟩
    · rw [record_setStatus_ne status hRef]
      exact evolved_refl _ _ _ _
  · rw [hStep]
    simp only [createdBy, List.append_nil]
    exact evolved_refl _ _ _ _

end ReleaseManager

end MusicLabel

------------------------------------------------------------
-- Runs
------------------------------------------------------------

namespace MusicLabel

namespace ReleaseManager

section Session

variable (strRepr : String → String)

theorem run_cons
    (call : ReleaseCall)
    (calls : List ReleaseCall)
    (s : ReleaseManager) :
    run strRepr (call :: calls) s = run strRepr calls (step strRepr s call) :=
  rfl

/-
  A run keeps the client, raises the counter by the releases it
  creates, and appends their objects and references, in call order.
-/
theorem run_frame
    (calls : List ReleaseCall)
    (s : ReleaseManager) :
    (run strRepr calls s).distributorClient = s.distributorClient ∧
      (run strRepr calls s).idCounter = s.idCounter + (createdBy s.idCounter calls).length ∧
      (run strRepr calls s).calendar =
        s.calendar ++ (List.range (createdBy s.idCounter calls).length).map (s.objects.length + ·) ∧
      (run strRepr calls s).objects.length =
        s.objects.length + (createdBy s.idCounter calls).length := by
  induction calls generalizing s with
  | nil => simp [run, createdBy]
  | cons call calls ih =>
      obtain ⟨hClient, hCounter, hCalendar, hLength⟩ := step_frame strRepr call (s := s)
      obtain ⟨hClient', hCounter', hCalendar', hLength'⟩ := ih (step strRepr s call)
      rw [hCounter] at hCounter' hCalendar' hLength'
      rw [run_cons, createdBy_cons, List.length_append]
      refine ⟨hClient'.trans hClient, by rw [hCounter']; push_cast; omega, ?_,
        by rw [hLength', hLength]; omega⟩
      rw [hCalendar', hCalendar, hLength, List.range_add, List.map_append, List.map_map,
        List.append_assoc]
      simp only [Function.comp_def, Nat.add_assoc]

/- A run evolves every object from its first version, the ones it creates included. -/
theorem run_evolved
    (calls : List ReleaseCall)
    (s : ReleaseManager)
    (ref : Nat) :
    Evolved s.distributorClient calls ref ((s.objects ++ createdBy s.idCounter calls).getD ref default)
      ((run strRepr calls s).record ref) := by
  induction calls generalizing s with
  | nil =>
      simp only [createdBy, List.append_nil]
      exact evolved_refl _ _ _ _
  | cons call calls ih =>
      obtain ⟨hClient, hCounter, -, hLength⟩ := step_frame strRepr call (s := s)
      have hRest := ih (step strRepr s call)
      rw [hClient, hCounter] at hRest
      rw [run_cons, createdBy_cons, ← List.append_assoc]
      have hFirst : (s.objects ++ createdBy s.idCounter [call]).length =
          (step strRepr s call).objects.length := by
        rw [List.length_append, hLength]
      by_cases hRef : ref < (step strRepr s call).objects.length
      · rw [List.getD_append _ _ _ _ hRef] at hRest
        rw [List.getD_append _ _ _ _ (hFirst ▸ hRef)]
        exact evolved_trans (step_evolved strRepr call ref) hRest
      · rw [List.getD_append_right _ _ _ _ (by omega)] at hRest
        rw [List.getD_append_right _ _ _ _ (by omega), hFirst]
        exact evolved_trans (evolved_refl _ [call] ref _) hRest

/-
  Over any run the counter rises by one for each create call, the heap
  and the calendar gain exactly the releases those calls create, in
  call order, and every object keeps all its fields but its status,
  which changes only to `submitted`, by an upload of that object with
  the client set, on a day its metadata was valid.
-/
theorem run_history
    (calls : List ReleaseCall)
    (s : ReleaseManager) :
    (run strRepr calls s).idCounter = s.idCounter + (createdBy s.idCounter calls).length ∧
      (run strRepr calls s).calendar =
        s.calendar ++ (List.range (createdBy s.idCounter calls).length).map (s.objects.length + ·) ∧
      (run strRepr calls s).objects.length =
        s.objects.length + (createdBy s.idCounter calls).length ∧
      ∀ ref, Evolved s.distributorClient calls ref
        ((s.objects ++ createdBy s.idCounter calls).getD ref default)
        ((run strRepr calls s).record ref) := by
  obtain ⟨-, hCounter, hCalendar, hLength⟩ := run_frame strRepr calls s
  exact ⟨hCounter, hCalendar, hLength, run_evolved strRepr calls s⟩

end Session

end ReleaseManager

end MusicLabel

------------------------------------------------------------
-- Release Ids
------------------------------------------------------------

namespace MusicLabel

namespace ReleaseManager

/- The digits `zeroPadded` writes are digits. -/
theorem lt_ten_of_mem_paddedDigits
    {width : Nat}
    {n : Int}
    {d : Nat}
    (h : d ∈ PyDate.paddedDigits width n) :
    d < 10 := by
  rcases List.mem_append.mp h with hZero | hDigit
  · rw [(List.mem_replicate.mp hZero).2]
    norm_num
  · exact Text.reprDigits_lt hDigit

/- Reading back the characters `zeroPadded` writes gives its digits. -/
theorem map_digitValue_zeroPadded
    (width : Nat)
    (n : Int) :
    (PyDate.zeroPadded width n).data.map Text.digitValue =
      (PyDate.paddedDigits width n).map some := by
  rw [PyDate.zeroPadded_data, List.map_map]
  exact List.map_congr_left fun d hd => PyDate.digitValue_digitChar (lt_ten_of_mem_paddedDigits hd)

/- Zero-padding writes different non-negative numbers differently. -/
theorem zeroPadded_injective
    {width : Nat}
    {n m : Int}
    (hn : 0 ≤ n)
    (hm : 0 ≤ m)
    (h : PyDate.zeroPadded width n = PyDate.zeroPadded width m) :
    n = m := by
  have hDigits := congrArg (fun text => text.data.map Text.digitValue) h
  simp only [map_digitValue_zeroPadded] at hDigits
  have hValue := congrArg Text.digitsToNat
    (List.map_injective_iff.mpr (Option.some_injective Nat) hDigits)
  simp only [PyDate.paddedDigits, Text.digitsToNat_replicate_append,
    Text.digitsToNat_reprDigits] at hValue
  omega

/- No digit is written `-`. -/
theorem digitChar_ne_minus :
    ∀ d < 10, Nat.digitChar d ≠ '-' := by
  decide

/- A negative id never reads as a non-negative one: the sign is no digit. -/
theorem sign_ne_zeroPadded
    (k m : Int) :
    "-" ++ PyDate.zeroPadded 3 k ≠ PyDate.zeroPadded 4 m := by
  intro h
  have hHead := congrArg (fun text => text.data.head?) h
  obtain ⟨d, ds, hDigits⟩ := List.exists_cons_of_ne_nil
    (List.append_ne_nil_of_right_ne_nil _ (Text.reprDigits_ne_nil m.toNat))
  have hd := @lt_ten_of_mem_paddedDigits 4 m d (by
    rw [PyDate.paddedDigits, hDigits]
    exact List.mem_cons_self d ds)
  simp only [String.data_append, PyDate.zeroPadded_data, PyDate.paddedDigits, hDigits] at hHead
  exact digitChar_ne_minus d hd (Option.some_injective _ hHead).symm

/- A common prefix cancels. -/
theorem prefix_cancel
    {pre a b : String}
    (h : pre ++ a = pre ++ b) :
    a = b := by
  have hData := congrArg String.data h
  simp only [String.data_append] at hData
  cases a
  cases b
  exact congrArg String.mk (List.append_cancel_left hData)

/- `format(n, "04d")` writes different integers differently. -/
theorem formatId_injective :
    Function.Injective formatId := by
  intro n m h
  unfold formatId at h
  split_ifs at h with hn hm hm
  · have := zeroPadded_injective (by omega) (by omega) (prefix_cancel h)
    omega
  · exact absurd h (sign_ne_zeroPadded _ _)
  · exact absurd h.symm (sign_ne_zeroPadded _ _)
  · exact zeroPadded_injective (by omega) (by omega) h

/- `f"REL-{n:04d}"` never repeats an id. -/
theorem releaseId_injective :
    Function.Injective releaseId :=
  fun _ _ h => formatId_injective (prefix_cancel h)

end ReleaseManager

end MusicLabel

------------------------------------------------------------
-- Fresh Ids over Runs
------------------------------------------------------------

namespace MusicLabel

namespace ReleaseManager

/-
  The ids of the calendar are distinct, and none is an id the counter
  has still to hand out.
-/
structure IdsFresh (s : ReleaseManager) : Prop where
  nodup : (s.records.map (·.id)).Nodup
  unused : ∀ id ∈ s.records.map (·.id), ∀ n, s.idCounter < n → id ≠ releaseId n

variable {s : ReleaseManager}

theorem records_allocate
    (release : Release) :
    (s.allocate release).records = s.records ++ [release] := by
  simp only [records, allocate, List.map_append, List.map_singleton]
  congr 1
  · exact List.map_congr_left fun ref hRef => List.getD_append _ _ _ _ (s.refsValid ref hRef)
  · simp [record]

theorem id_record_setStatus
    (ref r : Nat)
    (status : String) :
    ((s.setStatus ref status).record r).id = (s.record r).id := by
  by_cases hr : ref = r
  · subst hr
    simp only [record, setStatus, List.getD_eq_getElem?_getD, List.getElem?_modify_eq]
    cases s.objects[ref]? <;> rfl
  · rw [record_setStatus_ne status hr]

/- One call appends the ids of the releases it creates and changes no other id. -/
theorem step_ids
    (strRepr : String → String)
    (call : ReleaseCall) :
    (step strRepr s call).records.map (·.id) =
      s.records.map (·.id) ++ (createdBy s.idCounter [call]).map (·.id) := by
  rcases step_cases (s := s) strRepr call with
    ⟨artist, title, tracks, releaseDate, releaseType, rfl, hStep⟩ |
    ⟨today, submittedAt, ref, status, rfl, -, hStep, -⟩ | ⟨⟨today, submittedAt, release, rfl⟩, hStep⟩
  · rw [hStep, records_allocate]
    simp [createdBy]
    rfl
  · rw [hStep]
    simp only [records, List.map_map, createdBy, List.map_nil, List.append_nil]
    exact List.map_congr_left fun r _ => id_record_setStatus ref r status
  · simp [hStep, createdBy]

/- Every call keeps the ids distinct and unused above the counter. -/
theorem step_idsFresh
    (strRepr : String → String)
    (call : ReleaseCall)
    (h : IdsFresh s) :
    IdsFresh (step strRepr s call) := by
  obtain ⟨-, hCounter, -, -⟩ := step_frame strRepr call (s := s)
  have hIds := step_ids strRepr call (s := s)
  cases call with
  | createRelease artist title tracks releaseDate releaseType =>
      simp only [createdBy, newRelease, List.length_singleton, List.map_singleton,
        Nat.cast_one] at hCounter hIds
      have hNew : releaseId (s.idCounter + 1) ∉ s.records.map (·.id) :=
        fun hMem => h.unused _ hMem _ (by omega) rfl
      refine ⟨?_, fun id hId n hn => ?_⟩
      · rw [hIds]
        exact List.nodup_append.mpr
          ⟨h.nodup, List.nodup_singleton _, List.disjoint_singleton.mpr hNew⟩
      · rw [hIds] at hId
        rw [hCounter] at hn
        rcases List.mem_append.mp hId with hOld | hCreated
        · exact h.unused id hOld n (by omega)
        · rw [List.mem_singleton.mp hCreated]
          exact fun hEq => by have := releaseId_injective hEq; omega
  | uploadToKoala today submittedAt release =>
      simp only [createdBy, List.length_nil, Nat.cast_zero, add_zero, List.map_nil,
        List.append_nil] at hCounter hIds
      exact ⟨hIds ▸ h.nodup, fun id hId n hn => h.unused id (hIds ▸ hId) n (hCounter ▸ hn)⟩

/- With distinct ids, `_find_release` finds each release of the calendar under its id. -/
theorem findRelease_of_idsFresh
    (h : IdsFresh s)
    {ref : Nat}
    (hRef : ref ∈ s.calendar) :
    s.findRelease (s.record ref).id = some ref := by
  have hSome : (s.findRelease (s.record ref).id).isSome :=
    List.find?_isSome.mpr ⟨ref, hRef, by simp⟩
  obtain ⟨found, hFound⟩ := Option.isSome_iff_exists.mp hSome
  have hNodup : (s.calendar.map fun r => (s.record r).id).Nodup := by
    simpa [records, List.map_map] using h.nodup
  rw [hFound]
  exact congrArg some (List.inj_on_of_nodup_map hNodup (List.mem_of_find?_eq_some hFound) hRef
    (by simpa using List.find?_some hFound))

section Session

variable (strRepr : String → String)

theorem run_idsFresh
    (calls : List ReleaseCall)
    (s : ReleaseManager)
    (h : IdsFresh s) :
    IdsFresh (run strRepr calls s) := by
  induction calls generalizing s with
  | nil => exact h
  | cons call calls ih => exact ih _ (step_idsFresh strRepr call h)

/-
  From a calendar whose ids are distinct and not yet handed out by the
  counter, after any run `_find_release` finds every release of the
  calendar under its id, so `track_status` reports on that release.
-/
theorem run_findRelease
    (calls : List ReleaseCall)
    (s : ReleaseManager)
    (h : IdsFresh s) :
    ∀ ref ∈ (run strRepr calls s).calendar,
      (run strRepr calls s).findRelease ((run strRepr calls s).record ref).id = some ref :=
  fun _ hRef => findRelease_of_idsFresh (run_idsFresh strRepr calls s h) hRef

end Session

theorem run_findRelease_at_new_manager :
    let calls := [ReleaseCall.createRelease "Мира" "Полночь" ["Полночь"] "2026-03-01" "single",
      .createRelease "Мира" "Рассвет" ["Рассвет", "Закат"] "2026-04-01" "ep",
      .uploadToKoala ⟨2026, 2, 1, by decide, by decide, by decide⟩ "2026-02-01T10:00:00"
        (.registered 0)]
    IdsFresh (new true) ∧
      ∀ ref ∈ (run id calls (new true)).calendar,
        (run id calls (new true)).findRelease ((run id calls (new true)).record ref).id = some ref :=
  let hNew : IdsFresh (new true) := ⟨List.nodup_nil, fun _ h => by simp [new, records] at h⟩
  ⟨hNew, run_findRelease id _ _ hNew⟩

end ReleaseManager

end MusicLabel
