import MusicLabel.Contracts.Manager

/-
  The audit trail of split changes, over whole runs of `add_contract`
  and `update_split` calls.

  A run is a list of calls applied in order; a call that raises
  `ContractError` is caught by the caller and leaves the registry as it
  was. A call either logs nothing, and then only appends references and
  objects, or is a successful `update_split`, which sets the split of
  the artist's first contract and appends one entry (`step_cases`).
  Every invariant below is derived from that one lemma.

  Correctness is proven by:
    * `updateSplit_cases`: what one `update_split` can do
    * `step_chainFrom`, `run_chainFrom`: the chain of an artist's entries
      is kept by every call, hence by every run
    * `run_entriesOf_of_none`: an artist without a contract gains no entry

  Main declarations:
    * `Call`, `ContractManager.step`, `ContractManager.run`
    * `ContractManager.SplitChain`, `ContractManager.entriesOf`
    * `ContractManager.auditLog_chain`
-/

------------------------------------------------------------
-- Runs of Calls
------------------------------------------------------------

namespace MusicLabel

/- A call a client makes on the registry. -/
inductive Call
  | addContract (contract : ContractObject)
  | updateSplit (artist : String) (newPct : PyFloat) (reason : String)
  deriving DecidableEq

namespace ContractManager

/- The state a call leaves, whether it returns or raises. -/
def stateAfter {ε α : Type} : EStateM.Result ε ContractManager α → ContractManager
  | .ok _ s => s
  | .error _ s => s

/- One call, its `ContractError` caught. -/
def step (s : ContractManager) : Call → ContractManager
  | .addContract contract => stateAfter (addContract contract s)
  | .updateSplit artist newPct reason => stateAfter (updateSplit artist newPct reason s)

/- The calls of a run, in order. -/
def run (s : ContractManager) (calls : List Call) : ContractManager :=
  calls.foldl step s

@[simp] theorem run_nil (s : ContractManager) :
    run s [] = s :=
  rfl

@[simp] theorem run_cons
    (s : ContractManager)
    (call : Call)
    (calls : List Call) :
    run s (call :: calls) = run (step s call) calls :=
  rfl

theorem run_append
    (s : ContractManager)
    (calls more : List Call) :
    run s (calls ++ more) = run (run s calls) more :=
  List.foldl_append _ _ _ _

/- `0.0 <= new_pct <= 1.0`, the guard of `update_split`. -/
def InRange (newPct : PyFloat) : Prop :=
  PyFloat.le zeroPct newPct = true ∧ PyFloat.le newPct onePct = true

instance (newPct : PyFloat) : Decidable (InRange newPct) :=
  inferInstanceAs (Decidable (_ ∧ _))

/- The entry `update_split` logs for the contract at `ref`. -/
def auditEntry
    (s : ContractManager)
    (artist : String)
    (ref : Nat)
    (newPct : PyFloat)
    (reason : String) : AuditEntry :=
  ⟨artist, (s.record ref).splitPct, newPct, reason, s.name⟩

/- The entries of the audit log about one artist, in order. -/
def entriesOf (s : ContractManager) (artist : String) : List AuditEntry :=
  s.auditLog.filter (·.artist == artist)

/-
  The entries take a split from `first` to `last`: the first entry
  starts from `first`, each later one from where the one before it
  left the split, and the last leaves it at `last`.
-/
def SplitChain : PyFloat → List AuditEntry → PyFloat → Prop
  | first, [], last => first = last
  | first, entry :: entries, last =>
      entry.oldSplit = first ∧ SplitChain entry.newSplit entries last

end ContractManager

end MusicLabel

------------------------------------------------------------
-- One Call
------------------------------------------------------------

namespace MusicLabel

namespace ContractManager

variable {s : ContractManager} {artist a : String} {ref : Nat}

/-
  What `update_split` can do: raise `ContractError`, with the registry
  unchanged, when the split is out of range or the artist has no
  contract; or set the split of the artist's first contract and log the
  change.
-/
theorem updateSplit_cases
    (artist : String)
    (newPct : PyFloat)
    (reason : String)
    (s : ContractManager) :
    (∃ message, updateSplit artist newPct reason s = .error (.contract message) s ∧
      (¬ InRange newPct ∨ s.firstContract artist = none)) ∨
    ∃ ref, s.firstContract artist = some ref ∧ InRange newPct ∧
      updateSplit artist newPct reason s =
        .ok (s.auditEntry artist ref newPct reason)
          ((s.setSplitPct ref newPct).appendAudit (s.auditEntry artist ref newPct reason)) := by
  unfold updateSplit
  by_cases hRange : InRange newPct
  · have hGuard : (!(PyFloat.le zeroPct newPct && PyFloat.le newPct onePct)) = false := by
      simp [hRange.1, hRange.2]
    rw [if_neg (by simp [hGuard])]
    cases hFirst : s.firstContract artist with
    | none => exact .inl ⟨_, rfl, .inr rfl⟩
    | some ref => exact .inr ⟨ref, rfl, hRange, rfl⟩
  · have hGuard : (!(PyFloat.le zeroPct newPct && PyFloat.le newPct onePct)) = true := by
      revert hRange
      unfold InRange
      cases PyFloat.le zeroPct newPct <;> cases PyFloat.le newPct onePct <;> decide
    rw [if_pos hGuard]
    exact .inl ⟨_, rfl, .inl hRange⟩

/-
  What one call can do: log nothing, and then only append references
  and objects; or be a successful `update_split`.
-/
theorem step_cases
    (s : ContractManager)
    (call : Call) :
    ((step s call).auditLog = s.auditLog ∧
      (∃ extra, (step s call).contracts = s.contracts ++ extra) ∧
      ∀ r < s.objects.length, (step s call).record r = s.record r) ∨
    ∃ artist newPct reason ref,
      s.firstContract artist = some ref ∧
      step s call =
        (s.setSplitPct ref newPct).appendAudit (s.auditEntry artist ref newPct reason) := by
  cases call with
  | addContract contract =>
      left
      cases contract with
      | fresh contract =>
          exact ⟨rfl, ⟨_, rfl⟩, fun r hr => record_allocate contract hr⟩
      | registered ref =>
          simp only [step, addContract]
          split
          · exact ⟨rfl, ⟨_, rfl⟩, fun _ _ => rfl⟩
          · exact ⟨rfl, ⟨[], (List.append_nil _).symm⟩, fun _ _ => rfl⟩
  | updateSplit artist newPct reason =>
      rcases updateSplit_cases artist newPct reason s with
        ⟨message, hError, -⟩ | ⟨ref, hFirst, -, hOk⟩
      · have hStep : step s (.updateSplit artist newPct reason) = s := by
          simp only [step, hError, stateAfter]
        rw [hStep]
        exact .inl ⟨rfl, ⟨[], (List.append_nil _).symm⟩, fun _ _ => rfl⟩
      · exact .inr ⟨artist, newPct, reason, ref, hFirst, by simp only [step, hOk, stateAfter]⟩

/- A call keeps the first contract of every artist that has one. -/
theorem firstContract_step
    (call : Call)
    (h : s.firstContract a = some ref) :
    (step s call).firstContract a = some ref := by
  rcases step_cases s call with
    ⟨-, ⟨extra, hContracts⟩, hRecords⟩ | ⟨artist, newPct, reason, ref', -, hStep⟩
  · exact firstContract_of_extends hContracts
      (fun r hr => by rw [hRecords r (s.refsValid r hr)]) h
  · rw [hStep, firstContract_appendAudit, firstContract_setSplitPct, h]

/- A call adds no entry about an artist without a contract. -/
theorem entriesOf_step_of_none
    (call : Call)
    (h : s.firstContract a = none) :
    entriesOf (step s call) a = entriesOf s a := by
  rcases step_cases s call with
    ⟨hLog, -, -⟩ | ⟨artist, newPct, reason, ref', hFirst, hStep⟩
  · simp only [entriesOf, hLog]
  · have hArtist : artist ≠ a := by
      rintro rfl
      rw [h] at hFirst
      cases hFirst
    simp [hStep, entriesOf, auditEntry, hArtist]

/- A call only appends to the audit log. -/
theorem auditLog_prefix_step
    (s : ContractManager)
    (call : Call) :
    s.auditLog <+: (step s call).auditLog := by
  rcases step_cases s call with ⟨hLog, -, -⟩ | ⟨artist, newPct, reason, ref, -, hStep⟩
  · exact hLog ▸ List.prefix_refl _
  · rw [hStep]
    exact List.prefix_append _ _

end ContractManager

end MusicLabel

------------------------------------------------------------
-- The Chain of an Artist's Entries
------------------------------------------------------------

namespace MusicLabel

namespace ContractManager

variable {s : ContractManager} {a : String} {ref : Nat} {first : PyFloat}

theorem splitChain_append_singleton
    (first : PyFloat)
    (entries : List AuditEntry)
    (entry : AuditEntry)
    (last : PyFloat) :
    SplitChain first (entries ++ [entry]) last ↔
      SplitChain first entries entry.oldSplit ∧ entry.newSplit = last := by
  induction entries generalizing first with
  | nil => simp [SplitChain, eq_comm]
  | cons head entries ih => simp [SplitChain, ih, and_assoc]

/-
  The invariant of an artist `a` whose first contract is at `ref`: the
  entries about `a` take its split from `first` to the split the
  contract holds now.
-/
def ChainFrom
    (a : String)
    (ref : Nat)
    (first : PyFloat)
    (s : ContractManager) : Prop :=
  s.firstContract a = some ref ∧
    SplitChain first (entriesOf s a) (s.record ref).splitPct

/- Every call keeps the chain. -/
theorem step_chainFrom
    (call : Call)
    (h : ChainFrom a ref first s) :
    ChainFrom a ref first (step s call) := by
  obtain ⟨hFirst, hChain⟩ := h
  refine ⟨firstContract_step call hFirst, ?_⟩
  rcases step_cases s call with
    ⟨hLog, -, hRecords⟩ | ⟨artist, newPct, reason, ref', hFirst', hStep⟩
  · rw [entriesOf, hLog, hRecords ref (lt_of_firstContract hFirst)]
    exact hChain
  · rw [hStep]
    by_cases hArtist : artist = a
    · -- an update of `a` itself extends the chain by its entry
      subst hArtist
      obtain rfl : ref' = ref := Option.some.inj (hFirst'.symm.trans hFirst)
      have hEntries :
          entriesOf ((s.setSplitPct ref' newPct).appendAudit
              (s.auditEntry artist ref' newPct reason)) artist =
            entriesOf s artist ++ [s.auditEntry artist ref' newPct reason] := by
        simp [entriesOf, auditEntry]
      rw [hEntries, record_appendAudit,
        record_setSplitPct_self newPct (lt_of_firstContract hFirst),
        splitChain_append_singleton]
      exact ⟨hChain, rfl⟩
    · -- an update of another artist touches neither its entries nor `ref`
      have hRef : ref' ≠ ref := by
        rintro rfl
        exact hArtist ((artist_of_firstContract hFirst').symm.trans
          (artist_of_firstContract hFirst))
      simpa [entriesOf, auditEntry, hArtist,
        record_setSplitPct_ne newPct hRef] using hChain

/- Every run keeps the chain. -/
theorem run_chainFrom
    (calls : List Call)
    (h : ChainFrom a ref first s) :
    ChainFrom a ref first (run s calls) := by
  induction calls generalizing s with
  | nil => exact h
  | cons call calls ih => exact ih (step_chainFrom call h)

/- A run keeps the first contract of every artist that has one. -/
theorem firstContract_run
    (calls : List Call)
    (h : s.firstContract a = some ref) :
    (run s calls).firstContract a = some ref := by
  induction calls generalizing s with
  | nil => exact h
  | cons call calls ih => exact ih (firstContract_step call h)

/- A run adds no entry about an artist that still has no contract. -/
theorem run_entriesOf_of_none
    (calls : List Call)
    (h : (run s calls).firstContract a = none) :
    entriesOf (run s calls) a = entriesOf s a := by
  induction calls generalizing s with
  | nil => rfl
  | cons call calls ih =>
      have hNone : s.firstContract a = none := by
        cases hFirst : s.firstContract a with
        | none => rfl
        | some ref =>
            simp [firstContract_run calls (firstContract_step call hFirst)] at h
      rw [run_cons, ih h, entriesOf_step_of_none call hNone]

/- A run only appends to the audit log. -/
theorem auditLog_prefix_run
    (s : ContractManager)
    (calls : List Call) :
    s.auditLog <+: (run s calls).auditLog := by
  induction calls generalizing s with
  | nil => exact List.prefix_refl _
  | cons call calls ih => exact (auditLog_prefix_step s call).trans (ih _)

/-
  The call of a run after which an artist first has a contract: the
  run is cut there, and before its last call the artist had none (or
  the contract was there from the start).
-/
theorem exists_entry_of_firstContract
    (s₀ : ContractManager)
    (calls : List Call)
    (h : (run s₀ calls).firstContract a = some ref) :
    ∃ pre post, calls = pre ++ post ∧ (run s₀ pre).firstContract a = some ref ∧
      (pre = [] ∨ ∃ before call, pre = before ++ [call] ∧
        (run s₀ before).firstContract a = none) := by
  induction calls generalizing s₀ with
  | nil => exact ⟨[], [], rfl, h, .inl rfl⟩
  | cons call calls ih =>
      cases hStart : s₀.firstContract a with
      | some ref' =>
          obtain rfl : ref' = ref :=
            Option.some.inj ((firstContract_run (call :: calls) hStart).symm.trans h)
          exact ⟨[], call :: calls, rfl, hStart, .inl rfl⟩
      | none =>
          obtain ⟨pre, post, rfl, hPre, hEntry⟩ := ih (step s₀ call) h
          refine ⟨call :: pre, post, rfl, hPre, .inr ?_⟩
          rcases hEntry with rfl | ⟨before, last, rfl, hNone⟩
          · exact ⟨[], call, rfl, hStart⟩
          · exact ⟨call :: before, last, rfl, hNone⟩

/- When an artist enters the registry, no entry about it is logged yet. -/
theorem entriesOf_run_at_entry
    {s₀ : ContractManager}
    (hEmpty : s₀.auditLog = [])
    {pre : List Call}
    (hEntry : pre = [] ∨ ∃ before call, pre = before ++ [call] ∧
      (run s₀ before).firstContract a = none) :
    entriesOf (run s₀ pre) a = [] := by
  have hStart : entriesOf s₀ a = [] := by
    simp [entriesOf, hEmpty]
  rcases hEntry with rfl | ⟨before, call, rfl, hNone⟩
  · exact hStart
  · rw [run_append, run_cons, run_nil, entriesOf_step_of_none call hNone,
      run_entriesOf_of_none before hNone, hStart]

end ContractManager

end MusicLabel

------------------------------------------------------------
-- The Audit Trail of a Run
------------------------------------------------------------

namespace MusicLabel

namespace ContractManager

/-
  The audit trail over any run from a registry with an empty log. One
  `update_split` either raises `ContractError`, leaving the registry as
  it was, when the split is outside `[0, 1]` (NaN included) or the
  artist has no contract; or it sets only the split of the artist's
  first contract, to a value in `[0, 1]`, and appends one entry. So
  every earlier log is a prefix of every later one. And for every
  artist with a contract in the registry, `get_contract_status` reports
  one, of that artist, and the artist's entries form a chain from the
  split its first contract held when it entered the registry to the
  split reported; every contract it reports is such a one.
-/
theorem auditLog_chain
    (s₀ : ContractManager)
    (hEmpty : s₀.auditLog = [])
    (calls : List Call) :
    (∀ (s : ContractManager) artist newPct reason e s',
      updateSplit artist newPct reason s = .error e s' →
        s' = s ∧ (∃ message, e = .contract message) ∧
          (¬ InRange newPct ∨ s.firstContract artist = none)) ∧
    (∀ (s : ContractManager) artist newPct reason entry s',
      updateSplit artist newPct reason s = .ok entry s' →
        ∃ ref, s.firstContract artist = some ref ∧ InRange newPct ∧
          s'.name = s.name ∧ s'.contracts = s.contracts ∧
          s'.objects =
            s.objects.modify (fun contract => { contract with splitPct := newPct }) ref ∧
          s'.auditLog = s.auditLog ++ [entry] ∧
          entry = ⟨artist, (s.record ref).splitPct, newPct, reason, s.name⟩) ∧
    (∀ pre post, calls = pre ++ post →
      (run s₀ pre).auditLog <+: (run s₀ calls).auditLog) ∧
    (∀ a, (∃ ref ∈ (run s₀ calls).contracts, ((run s₀ calls).record ref).artist = a) →
      ∃ contract, (run s₀ calls).getContractStatus a = some contract ∧ contract.artist = a ∧
        ∃ pre post ref, calls = pre ++ post ∧
          (run s₀ pre).firstContract a = some ref ∧
          (pre = [] ∨ ∃ before call, pre = before ++ [call] ∧
            (run s₀ before).firstContract a = none) ∧
          SplitChain ((run s₀ pre).record ref).splitPct
            (entriesOf (run s₀ calls) a) contract.splitPct) ∧
    ∀ a contract, (run s₀ calls).getContractStatus a = some contract →
      ∃ pre post ref, calls = pre ++ post ∧
        (run s₀ pre).firstContract a = some ref ∧
        (pre = [] ∨ ∃ before call, pre = before ++ [call] ∧
          (run s₀ before).firstContract a = none) ∧
        SplitChain ((run s₀ pre).record ref).splitPct
          (entriesOf (run s₀ calls) a) contract.splitPct := by
  have hReported : ∀ a contract, (run s₀ calls).getContractStatus a = some contract →
      ∃ pre post ref, calls = pre ++ post ∧
        (run s₀ pre).firstContract a = some ref ∧
        (pre = [] ∨ ∃ before call, pre = before ++ [call] ∧
          (run s₀ before).firstContract a = none) ∧
        SplitChain ((run s₀ pre).record ref).splitPct
          (entriesOf (run s₀ calls) a) contract.splitPct := by
    intro a contract hStatus
    obtain ⟨ref, hFirst, rfl⟩ := Option.map_eq_some'.mp hStatus
    obtain ⟨pre, post, rfl, hPre, hEntry⟩ :=
      exists_entry_of_firstContract s₀ calls hFirst
    have hStart : ChainFrom a ref ((run s₀ pre).record ref).splitPct (run s₀ pre) :=
      ⟨hPre, by rw [entriesOf_run_at_entry hEmpty hEntry]; rfl⟩
    have hChain := (run_chainFrom post hStart).2
    rw [← run_append] at hChain
    exact ⟨pre, post, ref, rfl, hPre, hEntry, hChain⟩
  refine ⟨?_, ?_, ?_, fun a hHas => ?_, hReported⟩
  · intro s artist newPct reason e s' h
    rcases updateSplit_cases artist newPct reason s with
      ⟨message, hError, hWhy⟩ | ⟨ref, -, -, hOk⟩
    · rw [hError] at h
      cases h
      exact ⟨rfl, ⟨message, rfl⟩, hWhy⟩
    · rw [hOk] at h
      cases h
  · intro s artist newPct reason entry s' h
    rcases updateSplit_cases artist newPct reason s with
      ⟨message, hError, -⟩ | ⟨ref, hFirst, hRange, hOk⟩
    · rw [hError] at h
      cases h
    · rw [hOk] at h
      cases h
      exact ⟨ref, hFirst, hRange, rfl, rfl, rfl, rfl, rfl⟩
  · rintro pre post rfl
    rw [run_append]
    exact auditLog_prefix_run _ post
  · obtain ⟨ref, hFirst⟩ : ∃ ref, (run s₀ calls).firstContract a = some ref :=
      Option.isSome_iff_exists.mp (List.find?_isSome.mpr (by simpa using hHas))
    have hStatus : (run s₀ calls).getContractStatus a = some ((run s₀ calls).record ref) := by
      rw [getContractStatus, hFirst, Option.map_some']
    have hArtist : ((run s₀ calls).record ref).artist = a := by
      simpa using List.find?_some (show (run s₀ calls).contracts.find? _ = some ref from hFirst)
    exact ⟨_, hStatus, hArtist, hReported a _ hStatus⟩

/- The theorem at a run that registers `A` at `0.5` and moves it to `0.7`. -/
set_option exponentiation.threshold 1100 in
theorem auditLog_chain_after_update :
    let calls := [Call.addContract (.fresh
        { artist := "A", splitPct := PyFloat.ofDecimal false 5 (-1) }),
      .updateSplit "A" (PyFloat.ofDecimal false 7 (-1)) "renegotiated"]
    (empty "Max").auditLog = [] ∧
      (∃ ref ∈ (run (empty "Max") calls).contracts,
        ((run (empty "Max") calls).record ref).artist = "A") ∧
      ∃ contract, (run (empty "Max") calls).getContractStatus "A" = some contract ∧
        contract.artist = "A" ∧
        ∃ pre post ref, calls = pre ++ post ∧
          (run (empty "Max") pre).firstContract "A" = some ref ∧
          (pre = [] ∨ ∃ before call, pre = before ++ [call] ∧
            (run (empty "Max") before).firstContract "A" = none) ∧
          SplitChain ((run (empty "Max") pre).record ref).splitPct
            (entriesOf (run (empty "Max") calls) "A") contract.splitPct := by
  intro calls
  have hHas : ∃ ref ∈ (run (empty "Max") calls).contracts,
      ((run (empty "Max") calls).record ref).artist = "A" := by
    decide
  exact ⟨rfl, hHas, (auditLog_chain (empty "Max") rfl calls).2.2.2.1 "A" hHas⟩

end ContractManager

end MusicLabel
