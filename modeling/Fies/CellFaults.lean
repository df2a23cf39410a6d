import Fies.Controller
import Fies.FaultLibrary

/-!
# Single-cell fault handlers

The static faults TF, WDF, RDF, IRF, DRDF and the dynamic faults RDFxy, IRFxy,
DRDFxy of `fault-injection-controller.c`, with the loggers that record the
writes dynamic faults are sensitized by.

Every handler has the same frame: an access of the wrong kind returns at
once; otherwise the handler sets `address_in_use`, decodes the mode string,
computes a faulty word, merges it under the mask with the access value, lends
the merged word to `fault_injection_controller_new_value` through
`params.mask`, restores the mask and clears `address_in_use`.  The handlers
differ in the faulty word and in where the merged word goes: the access value
(TF, WDF, IRF), the access value and then the cell (RDF), or the cell alone
(DRDF).  `singleCellFault` and `dynamicCellFault` are that frame; each source
handler is one of them applied to its own mode position and formulas.
-/

namespace Fies

open CRuntime BitMask Machine

/-- Where a single-cell handler sends the merged word. -/
inductive CellSink
  /-- overwrite the access value (TF, WDF, IRF) -/
  | access
  /-- overwrite the access value, then write it to the cell when the fault is
  active (RDF) -/
  | accessThenCell
  /-- write it to the cell and leave the access value (DRDF) -/
  | cell
  deriving DecidableEq, Repr

def CellSink.writesCell : CellSink → Bool
  | .access => false
  | _ => true

def CellSink.deliveredValue : CellSink → BitVec 32 → BitVec 32 → BitVec 32
  | .cell, _, value => value
  | _, merged, _ => merged

/-- The content of the faulty cell as the handlers read it: the register, or
the `MEMORY_WIDTH / 8` bytes at the address. -/
def cellWord (env : Machine) (fiInfo : FaultInjectionInfo) (addr : BitVec 64) : BitVec 32 :=
  if fiInfo.faultOnRegister ≠ 0 then env.readCpuRegister addr
  else env.cpuMemoryRwDebugRead addr memoryCellBytes

/-- The machine after a new value is written to the cell `addr` names. -/
def cellWrite (env : Machine) (fiInfo : FaultInjectionInfo) (addr : BitVec 64)
    (word : BitVec 32) : Machine :=
  (doInjectMemoryRegister env addr
    { fiInfo with accessTriggeredContentFault := 0, bitFlip := 0, newValue := 1,
                  bitValue := word }).1

theorem getLsbD_cellWord_cellWrite_memory (env : Machine) (fiInfo : FaultInjectionInfo)
    (addr : BitVec 64) (word : BitVec 32) (hreg : fiInfo.faultOnRegister = 0)
    (haddr : fiInfo.faultOnAddress = 0) {i : Nat} (hi : i < memoryWidth) :
    (cellWord (cellWrite env fiInfo addr word) fiInfo addr).getLsbD i = word.getLsbD i := by
  rw [cellWrite, doInjectMemoryRegister_newValue_cell env addr
    { fiInfo with accessTriggeredContentFault := 0, bitFlip := 0, newValue := 1,
                  bitValue := word } haddr rfl rfl (by simp)]
  simp only [cellWord, hreg, ne_eq, not_true_eq_false, if_false, cpuMemoryRwDebugRead,
    cpuMemoryRwDebugWrite]
  exact getLsbD_readBytes_writeBytes env (addr.setWidth 32) word memoryCellBytes (by decide) i
    (by simpa [memoryWidth, memoryCellBytes] using hi)

theorem cellWord_cellWrite_register (env : Machine) (fiInfo : FaultInjectionInfo)
    (addr : BitVec 64) (word : BitVec 32) (hreg : fiInfo.faultOnRegister ≠ 0)
    (haddr : fiInfo.faultOnAddress = 0) (hslt : (addr.setWidth 32).slt 16 = true) :
    cellWord (cellWrite env fiInfo addr word) fiInfo addr = word := by
  rw [cellWrite, doInjectMemoryRegister_newValue_cell env addr
    { fiInfo with accessTriggeredContentFault := 0, bitFlip := 0, newValue := 1,
                  bitValue := word } haddr rfl rfl (by simp)]
  simp only [cellWord, hreg, ne_eq, not_false_eq_true, if_true]
  exact readCpuRegister_doInjectNewRegisterValueArm env addr _ hslt

theorem getLsbD_cellWord_elim_cellWrite_memory (env : Machine) (fiInfo : FaultInjectionInfo)
    (addr : BitVec 64) (o : Option (BitVec 32)) (hreg : fiInfo.faultOnRegister = 0)
    (haddr : fiInfo.faultOnAddress = 0) {i : Nat} (hi : i < memoryWidth) :
    (cellWord (o.elim env (cellWrite env fiInfo addr)) fiInfo addr).getLsbD i =
      (o.getD (cellWord env fiInfo addr)).getLsbD i := by
  cases o with
  | none => rfl
  | some w => exact getLsbD_cellWord_cellWrite_memory env fiInfo addr w hreg haddr hi

theorem cellWord_elim_cellWrite_register (env : Machine) (fiInfo : FaultInjectionInfo)
    (addr : BitVec 64) (o : Option (BitVec 32)) (hreg : fiInfo.faultOnRegister ≠ 0)
    (haddr : fiInfo.faultOnAddress = 0) (hslt : (addr.setWidth 32).slt 16 = true) :
    cellWord (o.elim env (cellWrite env fiInfo addr)) fiInfo addr = o.getD (cellWord env fiInfo addr) := by
  cases o with
  | none => rfl
  | some w => exact cellWord_cellWrite_register env fiInfo addr w hreg haddr hslt

/-- Deliver the word now in `params.mask` as the sink says. -/
def deliverMerged (sink : CellSink) (c : Controller) (fault : Fault) (fiInfo : FaultInjectionInfo)
    (addr : BitVec 64) (value : BitVec 32) : Except CError (Controller × Fault × BitVec 32) :=
  match sink with
  | .access => do
      let (c, value64, fault) ←
        faultInjectionControllerNewValue c (value.setWidth 64) fault fiInfo 0
      pure (c, fault, value64.setWidth 32)
  | .accessThenCell => do
      let (c, value64, fault) ←
        faultInjectionControllerNewValue c (value.setWidth 64) fault fiInfo 0
      -- the write-back selects the cell path, so `*addr` is left alone
      let env :=
        if fault.isActive then
          (doInjectMemoryRegister c.env addr
            { fiInfo with accessTriggeredContentFault := 0, newValue := 1,
                          bitValue := fault.params.mask }).1
        else c.env
      pure ({ c with env }, fault, value64.setWidth 32)
  | .cell => do
      let (c, _, fault) ←
        faultInjectionControllerNewValue c addr fault { fiInfo with accessTriggeredContentFault := 0 } 0
      pure (c, fault, value)

theorem deliverMerged_of_active (sink : CellSink) (c : Controller) (fault : Fault)
    {fiInfo : FaultInjectionInfo} (addr : BitVec 64) (value : BitVec 32)
    (hactive : activeNow fault 0 (getTimer c) = true)
    (hcontent : fiInfo.accessTriggeredContentFault ≠ 0) (hbf : fiInfo.bitFlip = 0) :
    ∃ c', deliverMerged sink c fault fiInfo addr value =
        .ok (c', { fault with isActive := true }, sink.deliveredValue fault.params.mask value) ∧
      c'.env = if sink.writesCell then cellWrite c.env fiInfo addr fault.params.mask
        else c.env := by
  cases sink with
  | access =>
      obtain ⟨kind, hnv⟩ :=
        faultInjectionControllerNewValue_of_active (value.setWidth 64) fiInfo hactive
      have hbuf := doInjectMemoryRegister_newValue_buffer c.env (value.setWidth 64)
        { fiInfo with bitFlip := 0, newValue := 1, bitValue := fault.params.mask } hcontent rfl
        (by simp)
      simp only [deliverMerged, hnv, Except.ok_bind, injectOnce, hbuf]
      simp [CellSink.deliveredValue, CellSink.writesCell]
  | accessThenCell =>
      obtain ⟨kind, hnv⟩ :=
        faultInjectionControllerNewValue_of_active (value.setWidth 64) fiInfo hactive
      have hbuf := doInjectMemoryRegister_newValue_buffer c.env (value.setWidth 64)
        { fiInfo with bitFlip := 0, newValue := 1, bitValue := fault.params.mask } hcontent rfl
        (by simp)
      simp only [deliverMerged, hnv, Except.ok_bind, injectOnce, hbuf]
      simp [CellSink.deliveredValue, CellSink.writesCell, cellWrite, hbf]
  | cell =>
      obtain ⟨kind, hnv⟩ := faultInjectionControllerNewValue_of_active addr
        { fiInfo with accessTriggeredContentFault := 0 } hactive
      simp only [deliverMerged, hnv, Except.ok_bind, injectOnce]
      simp [CellSink.deliveredValue, CellSink.writesCell, cellWrite]

theorem deliverMerged_frame {sink : CellSink} {c c' : Controller} {fault fault' : Fault}
    {fiInfo : FaultInjectionInfo} {addr : BitVec 64} {value value' : BitVec 32}
    (h : deliverMerged sink c fault fiInfo addr value = .ok (c', fault', value')) :
    c' = { c with env := c'.env, stats := c'.stats } := by
  cases sink with
  | access =>
      obtain ⟨⟨c₁, b₁, f₁⟩, hnv, hrest⟩ := Except.bind_eq_ok_iff.mp h
      cases hrest
      exact faultInjectionControllerNewValue_frame hnv
  | accessThenCell =>
      obtain ⟨⟨c₁, b₁, f₁⟩, hnv, hrest⟩ := Except.bind_eq_ok_iff.mp h
      cases hrest
      rw [faultInjectionControllerNewValue_frame hnv]
  | cell =>
      obtain ⟨⟨c₁, b₁, f₁⟩, hnv, hrest⟩ := Except.bind_eq_ok_iff.mp h
      cases hrest
      exact faultInjectionControllerNewValue_frame hnv

/-- The frame of the static handlers: `ignoredAccess` returns at once, the
character at `modeIndex` of the mode selects the faulty word as a function of
the cell content and the access value. -/
def singleCellFault (ignoredAccess : AccessType) (modeIndex : Nat)
    (faultWord : Char → Option (BitVec 32 → BitVec 32 → BitVec 32)) (sink : CellSink)
    (c : Controller) (fault : Fault) (fiInfo : FaultInjectionInfo) (addr : BitVec 64)
    (value : BitVec 32) (accessType : AccessType) :
    Except CError (Controller × Fault × BitVec 32) :=
  if accessType = ignoredAccess then pure ({ c with addressInUse := 0 }, fault, value)
  else
    let c := { c with addressInUse := addr }
    -- only TF and WDF use the cell content; reading it has no effect
    let memword := cellWord c.env fiInfo addr
    let mask := fault.params.mask
    match faultWord (cChar (fault.mode.getD "") modeIndex) with
    | none => pure ({ c with addressInUse := 0 }, fault, value)
    | some word => do
        let lent := { fault with params := { fault.params with mask := merge (word memword value) mask value } }
        let (c, fault, value) ← deliverMerged sink c lent fiInfo addr value
        pure ({ c with addressInUse := 0 },
          { fault with params := { fault.params with mask := mask } }, value)

theorem singleCellFault_of_active {ignoredAccess : AccessType} {modeIndex : Nat}
    {faultWord : Char → Option (BitVec 32 → BitVec 32 → BitVec 32)} (sink : CellSink)
    {c : Controller} {fault : Fault} {fiInfo : FaultInjectionInfo} (addr : BitVec 64)
    (value : BitVec 32) {accessType : AccessType} {word : BitVec 32 → BitVec 32 → BitVec 32}
    (hacc : accessType ≠ ignoredAccess)
    (hword : faultWord (cChar (fault.mode.getD "") modeIndex) = some word)
    (hactive : activeNow fault 0 (getTimer c) = true)
    (hcontent : fiInfo.accessTriggeredContentFault ≠ 0) (hbf : fiInfo.bitFlip = 0) :
    ∃ c', singleCellFault ignoredAccess modeIndex faultWord sink c fault fiInfo addr value
        accessType = .ok (c', { fault with isActive := true }, sink.deliveredValue
          (merge (word (cellWord c.env fiInfo addr) value) fault.params.mask value) value) ∧
      c'.env = if sink.writesCell then
          cellWrite c.env fiInfo addr (merge (word (cellWord c.env fiInfo addr) value)
            fault.params.mask value)
        else c.env := by
  obtain ⟨c', hdeliver, henv⟩ := deliverMerged_of_active sink { c with addressInUse := addr }
    { fault with params := { fault.params with
      mask := merge (word (cellWord c.env fiInfo addr) value) fault.params.mask value } }
    addr value hactive hcontent hbf
  refine ⟨{ c' with addressInUse := 0 }, ?_, henv⟩
  unfold singleCellFault
  rw [if_neg hacc]
  simp only [hword, hdeliver, Except.ok_bind, Except.pure_eq_ok]

theorem singleCellFault_addressInUse {ignoredAccess : AccessType} {modeIndex : Nat}
    {faultWord : Char → Option (BitVec 32 → BitVec 32 → BitVec 32)} {sink : CellSink}
    {c c' : Controller} {fault fault' : Fault} {fiInfo : FaultInjectionInfo} {addr : BitVec 64}
    {value value' : BitVec 32} {accessType : AccessType}
    (h : singleCellFault ignoredAccess modeIndex faultWord sink c fault fiInfo addr value
      accessType = .ok (c', fault', value')) :
    c'.addressInUse = 0 := by
  unfold singleCellFault at h
  split_ifs at h
  · cases h
    rfl
  · split at h
    · cases h
      rfl
    · obtain ⟨r, -, hr⟩ := Except.bind_eq_ok_iff.mp h
      cases hr
      rfl

/-- The faulty word of TF0 (`memword | value`: a 0 written over a 1 stays 1)
and TF1 (`memword & value`: a 1 written over a 0 stays 0). -/
def tfWord : Char → Option (BitVec 32 → BitVec 32 → BitVec 32)
  | '0' => some fun memword value => memword ||| value
  | '1' => some fun memword value => memword &&& value
  | _ => none

/-- The faulty word of WDF0 (`~(memword & ~value)`) and WDF1
(`~memword & value`): a non-transition write flips the bit. -/
def wdfWord : Char → Option (BitVec 32 → BitVec 32 → BitVec 32)
  | '0' => some fun memword value => ~~~(memword &&& ~~~value)
  | '1' => some fun memword value => ~~~memword &&& value
  | _ => none

/-- The faulty word of the read faults: all ones for x = 0, zero for x = 1. -/
def readFaultWord : Char → Option (BitVec 32 → BitVec 32 → BitVec 32)
  | '0' => some fun _ _ => BitVec.allOnes 32
  | '1' => some fun _ _ => 0
  | _ => none

/-- `fault_injection_controller_tf`. -/
def faultInjectionControllerTf : Controller → Fault → FaultInjectionInfo → BitVec 64 →
    BitVec 32 → AccessType → Except CError (Controller × Fault × BitVec 32) :=
  singleCellFault .readAccessType 2 tfWord .access

/-- `fault_injection_controller_rdf`. -/
def faultInjectionControllerRdf : Controller → Fault → FaultInjectionInfo → BitVec 64 →
    BitVec 32 → AccessType → Except CError (Controller × Fault × BitVec 32) :=
  singleCellFault .writeAccessType 3 readFaultWord .accessThenCell

/-- `fault_injection_controller_wdf`. -/
def faultInjectionControllerWdf : Controller → Fault → FaultInjectionInfo → BitVec 64 →
    BitVec 32 → AccessType → Except CError (Controller × Fault × BitVec 32) :=
  singleCellFault .readAccessType 3 wdfWord .access

/-- `fault_injection_controller_irf`. -/
def faultInjectionControllerIrf : Controller → Fault → FaultInjectionInfo → BitVec 64 →
    BitVec 32 → AccessType → Except CError (Controller × Fault × BitVec 32) :=
  singleCellFault .writeAccessType 3 readFaultWord .access

/-- `fault_injection_controller_drdf`. -/
def faultInjectionControllerDrdf : Controller → Fault → FaultInjectionInfo → BitVec 64 →
    BitVec 32 → AccessType → Except CError (Controller × Fault × BitVec 32) :=
  singleCellFault .writeAccessType 4 readFaultWord .cell

/-! ## Dynamic faults -/

/-- The body of the loop of the dynamic handlers for bit `i`: the faulty
value if the bit's last write was `op`, the access value's bit otherwise. -/
def dynamicFaultBit (history : Nat → Option CellOps) (op : CellOps) (faultyBitSet : Bool)
    (value faultValue : BitVec 32) (i : Nat) : BitVec 32 :=
  if history i = some op then
    if faultyBitSet then faultValue ||| intBit (BitVec.ofNat 32 i)
    else faultValue &&& ~~~(intBit (BitVec.ofNat 32 i))
  else faultValue ||| (value &&& BitVec.ofNat 32 (2 ^ i))

/-- The loop `for (i = 0; i < MEMORY_WIDTH; i++)` of the dynamic handlers,
from `fault_value = 0`.  Bits from `MEMORY_WIDTH` on stay 0. -/
def dynamicFaultWord (history : Nat → Option CellOps) (op : CellOps) (faultyBitSet : Bool)
    (value : BitVec 32) : BitVec 32 :=
  (List.range memoryWidth).foldl (dynamicFaultBit history op faultyBitSet value) 0

/-- The operation sensitizing a dynamic fault with digits `x`, `y`, and whether
its faulty bit reads 1. -/
def dynamicSensitizer : Char → Char → Option (CellOps × Bool)
  | '0', '0' => some (.ops0w0, true)
  | '0', '1' => some (.ops0w1, false)
  | '1', '0' => some (.ops1w0, true)
  | '1', '1' => some (.ops1w1, false)
  | _, _ => none

/-- Whether `ops_on_memory_cell[id - 1]` and `ops_on_register_cell[id - 1]`
exist.  `init_ops_on_cell` allocated `getMaxIDInFaultList()` rows at the reload,
and the fault list changes only at a reload.  The index is the `unsigned`
`fault->id - 1`, so an id of 0 or below names a row far past the end. -/
def opsRowAllocated (faults : List Fault) (fault : Fault) : Bool :=
  decide ((fault.id - 1).toNat < (getMaxIDInFaultList faults).toNat)

theorem opsRowAllocated_of_mem {faults : List Fault} {fault : Fault} (hmem : fault ∈ faults)
    (hid : 0 < fault.id.toInt) : opsRowAllocated faults fault = true := by
  have hmax := le_getMaxIDInFaultList hmem
  have hmsb : fault.id.msb = false := by
    rw [BitVec.toInt_eq_msb_cond] at hid
    cases h : fault.id.msb <;> simp_all
    omega
  have hnat : (fault.id.toNat : Int) = fault.id.toInt := by
    rw [BitVec.toInt_eq_msb_cond, hmsb]
    rfl
  have hsub : (fault.id - 1).toNat = fault.id.toNat - 1 := by
    rw [BitVec.toNat_sub_of_le]
    · rfl
    · rw [BitVec.le_def]
      simp
      omega
  simp only [opsRowAllocated, decide_eq_true_eq, hsub]
  omega

/-- The frame of the dynamic handlers: reads only, the digits at `modeIndex`
and the next position name the sensitizing write. -/
def dynamicCellFault (modeIndex : Nat) (sink : CellSink) (c : Controller) (fault : Fault)
    (fiInfo : FaultInjectionInfo) (addr : BitVec 64) (value : BitVec 32)
    (accessType : AccessType) : Except CError (Controller × Fault × BitVec 32) :=
  if accessType = .writeAccessType then pure ({ c with addressInUse := 0 }, fault, value)
  else
    let c := { c with addressInUse := addr }
    let opsOnCell := if fiInfo.faultOnRegister ≠ 0 then c.opsOnRegisterCell else c.opsOnMemoryCell
    let mask := fault.params.mask
    let id := fault.id - 1
    let mode := fault.mode.getD ""
    match dynamicSensitizer (cChar mode modeIndex) (cChar mode (modeIndex + 1)) with
    | none => pure ({ c with addressInUse := 0 }, fault, value)
    | some (op, faultyBitSet) => do
        if !opsRowAllocated c.faults fault then throw .outOfBounds
        let faultValue := dynamicFaultWord (opsOnCell id) op faultyBitSet value
        let lent := { fault with params := { fault.params with mask := merge faultValue mask value } }
        let (c, fault, value) ← deliverMerged sink c lent fiInfo addr value
        pure ({ c with addressInUse := 0 },
          { fault with params := { fault.params with mask := mask } }, value)

/-- `fault_injection_controller_rdf_dyn`. -/
def faultInjectionControllerRdfDyn : Controller → Fault → FaultInjectionInfo → BitVec 64 →
    BitVec 32 → AccessType → Except CError (Controller × Fault × BitVec 32) :=
  dynamicCellFault 3 .accessThenCell

/-- `fault_injection_controller_irf_dyn`. -/
def faultInjectionControllerIrfDyn : Controller → Fault → FaultInjectionInfo → BitVec 64 →
    BitVec 32 → AccessType → Except CError (Controller × Fault × BitVec 32) :=
  dynamicCellFault 3 .access

/-- `fault_injection_controller_drdf_dyn`. -/
def faultInjectionControllerDrdfDyn : Controller → Fault → FaultInjectionInfo → BitVec 64 →
    BitVec 32 → AccessType → Except CError (Controller × Fault × BitVec 32) :=
  dynamicCellFault 4 .cell

/-! ## Recording writes -/

/-- The mask loop of `log_cell_operations_*`: for each mask bit, the write of
`value` over `memword` is recorded under the fault's `id - 1`. -/
def logCellOperations (ops : BitVec 32 → Nat → Option CellOps) (memword : BitVec 32)
    (fault : Fault) (value : BitVec 32) : BitVec 32 → Nat → Option CellOps :=
  forEachSetBit
    (fun ops setBit =>
      let bitPos := bitIndex setBit
      let id := fault.id - 1
      Function.update ops id
        (Function.update (ops id) bitPos
          (some (CellOps.ofWrite (memword &&& setBit ≠ 0) (value &&& setBit ≠ 0)))))
    fault.params.mask ops

theorem logCellOperations_apply (ops : BitVec 32 → Nat → Option CellOps) (memword : BitVec 32)
    (fault : Fault) (value : BitVec 32) (id : BitVec 32) (i : Nat) :
    logCellOperations ops memword fault value id i =
      if id = fault.id - 1 ∧ fault.params.mask.getLsbD i = true then
        some (CellOps.ofWrite (memword.getLsbD i) (value.getLsbD i))
      else ops id i := by
  have hbits : ∀ k ∈ setBits fault.params.mask, k < 32 := fun k hk => (mem_setBits.mp hk).1
  have hmem : i ∈ setBits fault.params.mask ↔ fault.params.mask.getLsbD i = true := by
    rw [mem_setBits]
    exact ⟨And.right, fun h => ⟨BitVec.lt_of_getLsbD h, h⟩⟩
  unfold logCellOperations
  rw [forEachSetBit_eq_foldl]
  simp only [← hmem]
  generalize setBits fault.params.mask = bits at hbits ⊢
  induction bits generalizing ops with
  | nil => simp
  | cons k bits ih =>
      have hk : k < 32 := hbits k List.mem_cons_self
      rw [List.foldl_cons, ih _ (fun k' hk' => hbits k' (List.mem_cons_of_mem k hk'))]
      simp only [bitIndex_twoPow hk, decide_and_twoPow_ne_zero hk, List.mem_cons]
      by_cases hid : id = fault.id - 1
      · subst hid
        by_cases hik : i = k
        · subst hik
          simp
        · simp [hik]
      · rw [if_neg (fun h => hid h.1), if_neg (fun h => hid h.1), Function.update_of_ne hid]

/-- The state after `log_cell_operations_memory` has recorded an access:
writes only, against the cell content. -/
def memoryOpsLogged (c : Controller) (fault : Fault) (addr : BitVec 64)
    (value : BitVec 32) (accessType : AccessType) : Controller :=
  if accessType = .writeAccessType then
    let memword := c.env.cpuMemoryRwDebugRead addr memoryCellBytes
    { c with opsOnMemoryCell := logCellOperations c.opsOnMemoryCell memword fault value }
  else c

/-- `log_cell_operations_memory`: the first pass of the mask loop indexes the
row `id - 1`, and a row that was never allocated is a crash. -/
def logCellOperationsMemory (c : Controller) (fault : Fault) (addr : BitVec 64)
    (value : BitVec 32) (accessType : AccessType) : Except CError Controller :=
  if accessType = .writeAccessType ∧ fault.params.mask ≠ 0 ∧ !opsRowAllocated c.faults fault then
    throw .outOfBounds
  else pure (memoryOpsLogged c fault addr value accessType)

def registerOpsLogged (c : Controller) (fault : Fault) (addr : BitVec 64)
    (value : BitVec 32) (accessType : AccessType) : Controller :=
  if accessType = .writeAccessType then
    let memword := c.env.readCpuRegister addr
    { c with opsOnRegisterCell := logCellOperations c.opsOnRegisterCell memword fault value }
  else c

/-- `log_cell_operations_register`, with the same row index as the memory one. -/
def logCellOperationsRegister (c : Controller) (fault : Fault) (addr : BitVec 64)
    (value : BitVec 32) (accessType : AccessType) : Except CError Controller :=
  if accessType = .writeAccessType ∧ fault.params.mask ≠ 0 ∧ !opsRowAllocated c.faults fault then
    throw .outOfBounds
  else pure (registerOpsLogged c fault addr value accessType)

theorem logCellOperationsMemory_of_allocated {c : Controller} {fault : Fault}
    (addr : BitVec 64) (value : BitVec 32) (accessType : AccessType)
    (hrow : opsRowAllocated c.faults fault = true) :
    logCellOperationsMemory c fault addr value accessType =
      .ok (memoryOpsLogged c fault addr value accessType) := by
  simp [logCellOperationsMemory, hrow]

theorem logCellOperationsRegister_of_allocated {c : Controller} {fault : Fault}
    (addr : BitVec 64) (value : BitVec 32) (accessType : AccessType)
    (hrow : opsRowAllocated c.faults fault = true) :
    logCellOperationsRegister c fault addr value accessType =
      .ok (registerOpsLogged c fault addr value accessType) := by
  simp [logCellOperationsRegister, hrow]

@[simp] theorem logCellOperationsMemory_read (c : Controller) (fault : Fault) (addr : BitVec 64)
    (value : BitVec 32) : logCellOperationsMemory c fault addr value .readAccessType = .ok c := by
  simp [logCellOperationsMemory, memoryOpsLogged]

@[simp] theorem logCellOperationsRegister_read (c : Controller) (fault : Fault) (addr : BitVec 64)
    (value : BitVec 32) : logCellOperationsRegister c fault addr value .readAccessType = .ok c := by
  simp [logCellOperationsRegister, registerOpsLogged]

theorem logCellOperationsMemory_eq_ok {c c' : Controller} {fault : Fault} {addr : BitVec 64}
    {value : BitVec 32} {accessType : AccessType}
    (h : logCellOperationsMemory c fault addr value accessType = .ok c') :
    c' = memoryOpsLogged c fault addr value accessType := by
  unfold logCellOperationsMemory at h
  split at h
  · cases h
  · exact (Except.ok.inj h).symm

theorem logCellOperationsRegister_eq_ok {c c' : Controller} {fault : Fault} {addr : BitVec 64}
    {value : BitVec 32} {accessType : AccessType}
    (h : logCellOperationsRegister c fault addr value accessType = .ok c') :
    c' = registerOpsLogged c fault addr value accessType := by
  unfold logCellOperationsRegister at h
  split at h
  · cases h
  · exact (Except.ok.inj h).symm

@[simp] theorem memoryOpsLogged_env (c : Controller) (fault : Fault) (addr : BitVec 64)
    (value : BitVec 32) (accessType : AccessType) :
    (memoryOpsLogged c fault addr value accessType).env = c.env := by
  unfold memoryOpsLogged
  split <;> rfl

@[simp] theorem memoryOpsLogged_read (c : Controller) (fault : Fault) (addr : BitVec 64)
    (value : BitVec 32) : memoryOpsLogged c fault addr value .readAccessType = c :=
  rfl

@[simp] theorem registerOpsLogged_read (c : Controller) (fault : Fault)
    (addr : BitVec 64) (value : BitVec 32) :
    registerOpsLogged c fault addr value .readAccessType = c :=
  rfl

@[simp] theorem memoryOpsLogged_faults (c : Controller) (fault : Fault) (addr : BitVec 64)
    (value : BitVec 32) (accessType : AccessType) :
    (memoryOpsLogged c fault addr value accessType).faults = c.faults := by
  unfold memoryOpsLogged
  split <;> rfl

@[simp] theorem registerOpsLogged_faults (c : Controller) (fault : Fault) (addr : BitVec 64)
    (value : BitVec 32) (accessType : AccessType) :
    (registerOpsLogged c fault addr value accessType).faults = c.faults := by
  unfold registerOpsLogged
  split <;> rfl

@[simp] theorem getTimer_memoryOpsLogged (c : Controller) (fault : Fault)
    (addr : BitVec 64) (value : BitVec 32) (accessType : AccessType) :
    getTimer (memoryOpsLogged c fault addr value accessType) = getTimer c := by
  unfold memoryOpsLogged
  split <;> rfl

@[simp] theorem registerOpsLogged_env (c : Controller) (fault : Fault) (addr : BitVec 64)
    (value : BitVec 32) (accessType : AccessType) :
    (registerOpsLogged c fault addr value accessType).env = c.env := by
  unfold registerOpsLogged
  split <;> rfl

@[simp] theorem getTimer_registerOpsLogged (c : Controller) (fault : Fault)
    (addr : BitVec 64) (value : BitVec 32) (accessType : AccessType) :
    getTimer (registerOpsLogged c fault addr value accessType) = getTimer c := by
  unfold registerOpsLogged
  split <;> rfl

end Fies
