import MusicLabel.Python.Value

/-
  The contract registry of `contract_manager.py`.

  `contracts` is a Python list of `ContractRecord` objects, and
  `update_split` assigns `contract.split_pct` on the object it finds, so
  the registry is modelled with its objects: a heap of records addressed
  by position, and the list of references `contracts`. The same object
  may be registered twice; an update then shows at both positions.

  Main declarations:
    * `ContractRecord`, `AuditEntry`, `ContractManager`
    * `ContractManager.records`, `ContractManager.firstContract`
    * `ContractManager.addContract`, `ContractManager.updateSplit`
    * `ContractManager.getContractStatus`
    * `ContractManager.firstContract_of_extends`
-/

------------------------------------------------------------
-- Records and the Registry
------------------------------------------------------------

namespace MusicLabel

instance : Inhabited PyFloat :=
  ⟨PyFloat.ofBits 0⟩

/- `ContractRecord`, with its dataclass defaults. -/
structure ContractRecord where
  artist : String
  splitPct : PyFloat
  signedDate : Option String := none
  expiryDate : Option String := none
  filePath : Option String := none
  fileType : String := "pdf"
  status : String := "active"
  notes : String := ""
  deriving DecidableEq, Inhabited

/-
  An entry of the audit log: who changed which split from what to what,
  and why (the timestamp, which nothing reads, is left out).
-/
structure AuditEntry where
  artist : String
  oldSplit : PyFloat
  newSplit : PyFloat
  reason : String
  changedBy : String
  deriving DecidableEq

/-
  A `ContractManager`: its name, the heap of its contract objects, the
  references of `contracts` into it, and `_audit_log`. Every reference
  names an object and every object is registered.
-/
structure ContractManager where
  name : String
  objects : List ContractRecord
  contracts : List Nat
  auditLog : List AuditEntry
  refsValid : ∀ ref ∈ contracts, ref < objects.length
  objectsRegistered : ∀ ref < objects.length, ref ∈ contracts

namespace ContractManager

/- A manager named `name` with no contracts and an empty audit log. -/
def empty (name : String) : ContractManager :=
  ⟨name, [], [], [], by simp, by simp⟩

/- The object a reference names. -/
def record (s : ContractManager) (ref : Nat) : ContractRecord :=
  s.objects.getD ref default

/- The registry as Python iterates it: `self.contracts`. -/
def records (s : ContractManager) : List ContractRecord :=
  s.contracts.map s.record

/- The first registered object of an artist, as both lookups find it. -/
def firstContract (s : ContractManager) (artist : String) : Option Nat :=
  s.contracts.find? fun ref => (s.record ref).artist = artist

end ContractManager

end MusicLabel

------------------------------------------------------------
-- Operations
------------------------------------------------------------

namespace MusicLabel

/-
  The argument of `add_contract`: a new object, or an object already in
  the registry, by its position in the heap.
-/
inductive ContractObject
  | fresh (contract : ContractRecord)
  | registered (ref : Nat)
  deriving DecidableEq

namespace ContractManager

/- The registry with one more reference appended. -/
def register
    (s : ContractManager)
    (ref : Nat)
    (hRef : ref < s.objects.length) : ContractManager :=
  { s with
    contracts := s.contracts ++ [ref]
    refsValid := by
      intro r hr
      rcases List.mem_append.mp hr with hOld | hNew
      · exact s.refsValid r hOld
      · rw [List.mem_singleton.mp hNew]
        exact hRef
    objectsRegistered := fun r hr =>
      List.mem_append_left _ (s.objectsRegistered r hr) }

/- A new object allocated and registered. -/
def allocate
    (s : ContractManager)
    (contract : ContractRecord) : ContractManager :=
  { s with
    objects := s.objects ++ [contract]
    contracts := s.contracts ++ [s.objects.length]
    refsValid := by
      intro r hr
      rcases List.mem_append.mp hr with hOld | hNew
      · have := s.refsValid r hOld
        simp only [List.length_append, List.length_singleton]
        omega
      · rw [List.mem_singleton.mp hNew]
        simp
    objectsRegistered := by
      intro r hr
      simp only [List.length_append, List.length_singleton] at hr
      rcases Nat.lt_succ_iff_lt_or_eq.mp hr with hOld | hNew
      · exact List.mem_append_left _ (s.objectsRegistered r hOld)
      · exact List.mem_append_right _ (List.mem_singleton.mpr hNew) }

/-
  `add_contract(contract)`: `self.contracts.append(contract)`. A heap
  position past the last object names no object; no such call exists,
  and it is read as no call.
-/
def addContract (contract : ContractObject) : EStateM PyError ContractManager Unit :=
  fun s =>
    match contract with
    | .fresh record => .ok () (s.allocate record)
    | .registered ref =>
        if hRef : ref < s.objects.length then .ok () (s.register ref hRef)
        else .ok () s

/- The object at `ref` with its split replaced. -/
def setSplitPct
    (s : ContractManager)
    (ref : Nat)
    (newPct : PyFloat) : ContractManager :=
  { s with
    objects := s.objects.modify (fun c => { c with splitPct := newPct }) ref
    refsValid := fun r hr => by
      simpa using s.refsValid r hr
    objectsRegistered := fun r hr =>
      s.objectsRegistered r (by simpa using hr) }

/- `self._audit_log.append(entry)`. -/
def appendAudit (s : ContractManager) (entry : AuditEntry) : ContractManager :=
  { s with auditLog := s.auditLog ++ [entry] }

/- `0.0` and `1.0`. -/
def zeroPct : PyFloat := PyFloat.ofBits 0
def onePct : PyFloat := PyFloat.ofBits 0x3FF0000000000000

/- The message of the `ContractError` of an invalid split. -/
def invalidSplit (newPct : PyFloat) : String :=
  "Invalid split percentage: " ++ newPct.repr ++ ". Must be 0.0-1.0."

/- The message of the `ContractError` of a missing contract. -/
def contractNotFound (artist : String) : String :=
  "Contract not found for artist: " ++ artist

/-
  `update_split(artist, new_pct, reason)`: check `0.0 <= new_pct <= 1.0`,
  find the first contract of the artist, set its split, and append the
  change to the audit log.
-/
def updateSplit
    (artist : String)
    (newPct : PyFloat)
    (reason : String) : EStateM PyError ContractManager AuditEntry :=
  fun s =>
    if !(PyFloat.le zeroPct newPct && PyFloat.le newPct onePct) then
      .error (.contract (invalidSplit newPct)) s
    else
      match s.firstContract artist with
      | none => .error (.contract (contractNotFound artist)) s
      | some ref =>
          let entry : AuditEntry :=
            ⟨artist, (s.record ref).splitPct, newPct, reason, s.name⟩
          .ok entry ((s.setSplitPct ref newPct).appendAudit entry)

/- `get_contract_status(artist)`: all fields of the first contract. -/
def getContractStatus
    (s : ContractManager)
    (artist : String) : Option ContractRecord :=
  (s.firstContract artist).map s.record

end ContractManager

end MusicLabel

------------------------------------------------------------
-- Frame Lemmas
------------------------------------------------------------

namespace MusicLabel

namespace ContractManager

variable {s : ContractManager} {artist : String} {ref : Nat}

/- The first contract of an artist is registered and is the artist's. -/
theorem artist_of_firstContract
    (h : s.firstContract artist = some ref) :
    (s.record ref).artist = artist := by
  simpa using List.find?_some h

theorem lt_of_firstContract
    (h : s.firstContract artist = some ref) :
    ref < s.objects.length :=
  s.refsValid ref (List.mem_of_find?_eq_some h)

private theorem find?_eq_of_forall_mem
    {l : List Nat}
    {p q : Nat → Bool}
    (h : ∀ x ∈ l, p x = q x) :
    l.find? p = l.find? q := by
  induction l with
  | nil => rfl
  | cons x xs ih =>
      simp only [List.forall_mem_cons] at h
      simp only [List.find?_cons, h.1, ih h.2]

/-
  A registry that only appends references, and keeps the artist of
  every registered object, keeps the first contract of every artist.
-/
theorem firstContract_of_extends
    {s' : ContractManager}
    {extra : List Nat}
    (hContracts : s'.contracts = s.contracts ++ extra)
    (hArtists : ∀ r ∈ s.contracts, (s'.record r).artist = (s.record r).artist)
    (h : s.firstContract artist = some ref) :
    s'.firstContract artist = some ref := by
  unfold firstContract at h ⊢
  rw [hContracts, List.find?_append,
    find?_eq_of_forall_mem fun r hr => by rw [hArtists r hr], h]
  rfl

@[simp] theorem auditLog_appendAudit
    (entry : AuditEntry) :
    (s.appendAudit entry).auditLog = s.auditLog ++ [entry] :=
  rfl

@[simp] theorem record_appendAudit
    (entry : AuditEntry)
    (r : Nat) :
    (s.appendAudit entry).record r = s.record r :=
  rfl

@[simp] theorem firstContract_appendAudit
    (entry : AuditEntry) :
    (s.appendAudit entry).firstContract artist = s.firstContract artist :=
  rfl

@[simp] theorem auditLog_setSplitPct
    (r : Nat)
    (newPct : PyFloat) :
    (s.setSplitPct r newPct).auditLog = s.auditLog :=
  rfl

theorem record_allocate
    (contract : ContractRecord)
    {r : Nat}
    (hr : r < s.objects.length) :
    (s.allocate contract).record r = s.record r := by
  simp [record, allocate, List.getElem?_append_left hr]

theorem record_setSplitPct_self
    (newPct : PyFloat)
    (hRef : ref < s.objects.length) :
    (s.setSplitPct ref newPct).record ref = { s.record ref with splitPct := newPct } := by
  simp [record, setSplitPct, List.getElem?_modify_eq, List.getElem?_eq_getElem hRef]

theorem record_setSplitPct_ne
    (newPct : PyFloat)
    {r : Nat}
    (hr : ref ≠ r) :
    (s.setSplitPct ref newPct).record r = s.record r := by
  simp [record, setSplitPct, List.getElem?_modify_ne _ _ hr]

/- Setting a split keeps the artist of every object. -/
theorem artist_record_setSplitPct
    (newPct : PyFloat)
    (r : Nat) :
    ((s.setSplitPct ref newPct).record r).artist = (s.record r).artist := by
  by_cases hr : ref = r
  · subst hr
    by_cases hRef : ref < s.objects.length
    · rw [record_setSplitPct_self newPct hRef]
    · simp [record, setSplitPct, List.getElem?_modify_eq,
        List.getElem?_eq_none (Nat.le_of_not_lt hRef)]
  · rw [record_setSplitPct_ne newPct hr]

theorem firstContract_setSplitPct
    (newPct : PyFloat) :
    (s.setSplitPct ref newPct).firstContract artist = s.firstContract artist := by
  unfold firstContract
  simp only [artist_record_setSplitPct]
  rfl

end ContractManager

end MusicLabel
