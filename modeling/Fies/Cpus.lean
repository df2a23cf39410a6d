import Fies.MaskFaults

/-!
# The CPU-less memory-content path

`address_space_rw` and `address_space_read` call `fault_injection_controller_init`
with `env == NULL`.  For FI_MEMORY_CONTENT the call then walks QEMU's CPU list
from the static cursor `next_cpu` (the first CPU when it is NULL) to its end,
unless `exit_request` is set, and runs `fault_injection_controller_memory_content`
once with each CPU's `env`; the loop leaves `next_cpu` NULL.

No handler reads `next_cpu`: moving the cursor before a call moves it in the
result and changes nothing else (`faultInjectionControllerMemoryContent_withCursor`).
The walk is therefore the env call repeated once for each CPU left on the list
(`memoryContentOnCpus_of_not_exitRequest`), and it agrees with one env call
exactly when one pass runs.
-/

namespace Fies

open CRuntime BitMask Machine

def Controller.withCursor (c : Controller) (n : Option Nat) : Controller := { c with nextCpu := n }

def cursorAt {γ : Type} (n : Option Nat) (r : Controller × γ) : Controller × γ :=
  (r.1.withCursor n, r.2)

@[simp] theorem cursorAt_fst {γ : Type} (n : Option Nat) (r : Controller × γ) :
    (cursorAt n r).1 = r.1.withCursor n := rfl

@[simp] theorem cursorAt_snd {γ : Type} (n : Option Nat) (r : Controller × γ) :
    (cursorAt n r).2 = r.2 := rfl

@[simp] theorem Controller.withCursor_nextCpu (c : Controller) (n : Option Nat) :
    (c.withCursor n).nextCpu = n := rfl

@[simp] theorem Controller.withCursor_withCursor (c : Controller) (m n : Option Nat) :
    (c.withCursor m).withCursor n = c.withCursor n := rfl

theorem Controller.withCursor_self (c : Controller) : c.withCursor c.nextCpu = c := rfl

@[simp] theorem Controller.withCursor_faults (c : Controller) (n : Option Nat) :
    (c.withCursor n).faults = c.faults := rfl

theorem withCursor_addressInUse (c : Controller) (n : Option Nat) (a : BitVec 64) :
    { c.withCursor n with addressInUse := a } = { c with addressInUse := a }.withCursor n := rfl

theorem getTimer_withCursor (c : Controller) (n : Option Nat) :
    getTimer (c.withCursor n) = getTimer c := rfl

theorem readCouplingCell_withCursor (c : Controller) (n : Option Nat)
    (fiInfo : FaultInjectionInfo) (addr : BitVec 64) (word : BitVec 32) :
    readCouplingCell (c.withCursor n) fiInfo addr word = readCouplingCell c fiInfo addr word := rfl

/-! ## Value handlers -/

/-- A value handler that never reads `next_cpu`.  Reducible, so that `simp`
rewrites with it. -/
@[reducible] def ValueHandlerIgnoresCursor
    (h : Controller → BitVec 64 → Fault → FaultInjectionInfo → BitVec 32 →
      Except CError (Controller × BitVec 64 × Fault)) : Prop :=
  ∀ c n buf fault fiInfo pc,
    h (c.withCursor n) buf fault fiInfo pc = cursorAt n <$> h c buf fault fiInfo pc

theorem activateAndInject_withCursor (c : Controller) (n : Option Nat) (buf : BitVec 64)
    (fault : Fault) (pc : BitVec 32) (inject : String → Controller × BitVec 64) :
    activateAndInject (c.withCursor n) buf fault pc (fun kind => cursorAt n (inject kind)) =
      cursorAt n <$> activateAndInject c buf fault pc inject := by
  unfold activateAndInject
  rw [getTimer_withCursor]
  cases faultActivation fault pc (getTimer c) with
  | error e => rfl
  | ok a =>
      simp only [Except.ok_bind]
      cases a.injects <;> rfl

theorem injectOnce_loop_withCursor (c : Controller) (n : Option Nat) (buf : BitVec 64)
    (fault : Fault) (pass : BitVec 32 → FaultInjectionInfo) (kind : String) (mask : BitVec 32) :
    forEachSetBit (fun (cb : Controller × BitVec 64) setBit =>
        injectOnce cb.1 cb.2 fault (pass setBit) kind) mask (c.withCursor n, buf) =
      cursorAt n (forEachSetBit (fun (cb : Controller × BitVec 64) setBit =>
        injectOnce cb.1 cb.2 fault (pass setBit) kind) mask (c, buf)) := by
  rw [forEachSetBit_eq_foldl, forEachSetBit_eq_foldl]
  show List.foldl _ (cursorAt n (c, buf)) _ = _
  exact List.foldl_hom (cursorAt n) fun cb i => rfl

theorem faultInjectionControllerBf_ignoresCursor :
    ValueHandlerIgnoresCursor faultInjectionControllerBf := by
  intro c n buf fault fiInfo pc
  unfold faultInjectionControllerBf
  simp only [injectOnce_loop_withCursor]
  exact activateAndInject_withCursor c n buf fault pc _

theorem faultInjectionControllerRs_ignoresCursor :
    ValueHandlerIgnoresCursor faultInjectionControllerRs := by
  intro c n buf fault fiInfo pc
  unfold faultInjectionControllerRs
  simp only [injectOnce_loop_withCursor]
  exact activateAndInject_withCursor c n buf fault pc _

theorem faultInjectionControllerNewValue_ignoresCursor :
    ValueHandlerIgnoresCursor faultInjectionControllerNewValue := fun c n buf fault _ pc =>
  activateAndInject_withCursor c n buf fault pc fun kind => injectOnce c buf fault _ kind

theorem valueFaultHandler_ignoresCursor {mode : String}
    {h : Controller → BitVec 64 → Fault → FaultInjectionInfo → BitVec 32 →
      Except CError (Controller × BitVec 64 × Fault)}
    (hmode : valueFaultHandler mode = some h) : ValueHandlerIgnoresCursor h := by
  rcases valueFaultHandler_eq_some hmode with ⟨-, rfl⟩ | ⟨-, rfl⟩ | ⟨-, rfl⟩
  · exact faultInjectionControllerBf_ignoresCursor
  · exact faultInjectionControllerNewValue_ignoresCursor
  · exact faultInjectionControllerRs_ignoresCursor

theorem valueModeOnAccess_withCursor
    {h : Controller → BitVec 64 → Fault → FaultInjectionInfo → BitVec 32 →
      Except CError (Controller × BitVec 64 × Fault)}
    (hh : ValueHandlerIgnoresCursor h) (c : Controller) (n : Option Nat) (fault : Fault)
    (fiInfo : FaultInjectionInfo) (value : BitVec 32) :
    valueModeOnAccess h (c.withCursor n) fault fiInfo value =
      cursorAt n <$> valueModeOnAccess h c fault fiInfo value := by
  unfold valueModeOnAccess
  simp only [hh c n, bind_map_left, map_bind]
  rfl

/-! ## Content handlers -/

/-- A content handler that never reads `next_cpu`. -/
@[reducible] def CellHandlerIgnoresCursor (h : CellHandler) : Prop :=
  ∀ c n fault fiInfo addr value accessType,
    h (c.withCursor n) fault fiInfo addr value accessType =
      cursorAt n <$> h c fault fiInfo addr value accessType

theorem deliverMerged_withCursor (sink : CellSink) (c : Controller) (n : Option Nat)
    (fault : Fault) (fiInfo : FaultInjectionInfo) (addr : BitVec 64) (value : BitVec 32) :
    deliverMerged sink (c.withCursor n) fault fiInfo addr value =
      cursorAt n <$> deliverMerged sink c fault fiInfo addr value := by
  cases sink <;>
    simp only [deliverMerged, faultInjectionControllerNewValue_ignoresCursor, bind_map_left,
      map_bind] <;>
    rfl

theorem singleCellFault_ignoresCursor {ignoredAccess : AccessType} {modeIndex : Nat}
    {faultWord : Char → Option (BitVec 32 → BitVec 32 → BitVec 32)} {sink : CellSink} :
    CellHandlerIgnoresCursor (singleCellFault ignoredAccess modeIndex faultWord sink) := by
  intro c n fault fiInfo addr value accessType
  unfold singleCellFault
  simp only [↓withCursor_addressInUse]
  split
  · rfl
  · split
    · rfl
    · simp only [deliverMerged_withCursor, bind_map_left, map_bind]
      rfl

theorem dynamicCellFault_ignoresCursor {modeIndex : Nat} {sink : CellSink} :
    CellHandlerIgnoresCursor (dynamicCellFault modeIndex sink) := by
  intro c n fault fiInfo addr value accessType
  unfold dynamicCellFault
  simp only [↓withCursor_addressInUse]
  split
  · rfl
  · split
    · rfl
    · cases hrow : opsRowAllocated c.faults fault
      · simp only [Controller.withCursor_faults, hrow, Bool.not_false, if_true]
        rfl
      · simp only [Controller.withCursor_faults, hrow, Bool.not_true, Bool.false_eq_true, if_false,
          deliverMerged_withCursor, bind_map_left, map_bind]
        rfl

theorem cellFaultHandler_ignoresCursor {mode : String} {h : CellHandler}
    (hmode : cellFaultHandler mode = some h) : CellHandlerIgnoresCursor h := by
  rcases cellFaultHandler_eq_some hmode with ⟨_, _, _, _, rfl⟩ | ⟨_, _, rfl⟩
  · exact singleCellFault_ignoresCursor
  · exact dynamicCellFault_ignoresCursor

/-! The exits of the coupling handlers. -/

theorem stopHandler_withCursor (c : Controller) (n : Option Nat) (fault : Fault)
    (value : BitVec 32) :
    stopHandler (c.withCursor n) fault value = cursorAt n <$> stopHandler c fault value := rfl

theorem writeCellAtAddressInUse_withCursor (c : Controller) (n : Option Nat) (fault : Fault)
    (fiInfo : FaultInjectionInfo) :
    writeCellAtAddressInUse (c.withCursor n) fault fiInfo =
      cursorAt n <$> writeCellAtAddressInUse c fault fiInfo := by
  unfold writeCellAtAddressInUse
  simp only [faultInjectionControllerNewValue_ignoresCursor, bind_map_left, map_bind]
  rfl

theorem writeAccessValue_withCursor (c : Controller) (n : Option Nat) (fault : Fault)
    (fiInfo : FaultInjectionInfo) (value : BitVec 32) :
    writeAccessValue (c.withCursor n) fault fiInfo value =
      cursorAt n <$> writeAccessValue c fault fiInfo value := by
  unfold writeAccessValue
  simp only [faultInjectionControllerNewValue_ignoresCursor, bind_map_left, map_bind]
  rfl

theorem faultInjectionControllerCfst_ignoresCursor (direction : Bool) :
    CellHandlerIgnoresCursor fun c fault fiInfo addr value accessType =>
      faultInjectionControllerCfst c fault fiInfo addr value accessType direction := by
  intro c n fault fiInfo addr value accessType
  unfold faultInjectionControllerCfst
  cases direction <;>
    simp only [Bool.false_eq_true, ↓reduceIte, ↓withCursor_addressInUse,
      readCouplingCell_withCursor]
  all_goals split
  all_goals split
  all_goals
    simp only [stopHandler_withCursor, writeCellAtAddressInUse_withCursor,
      writeAccessValue_withCursor, pure_bind, bind_map_left, map_bind, cursorAt_fst,
      cursorAt_snd]
  all_goals rfl

theorem faultInjectionControllerCfds_ignoresCursor :
    CellHandlerIgnoresCursor faultInjectionControllerCfds := by
  intro c n fault fiInfo addr value accessType
  unfold faultInjectionControllerCfds
  simp only [↓withCursor_addressInUse, readCouplingCell_withCursor]
  split
  all_goals split
  all_goals
    simp only [stopHandler_withCursor, writeCellAtAddressInUse_withCursor,
      writeAccessValue_withCursor, pure_bind, bind_map_left, map_bind, cursorAt_fst,
      cursorAt_snd]
  all_goals rfl

theorem writeCouplingFault_ignoresCursor
    {intraOf : String → BitVec 32 → BitVec 32 → BitVec 32 → BitVec 32 → IntraStep}
    {interOf : String → BitVec 32 → BitVec 32 → BitVec 32 → Option (BitVec 32)} :
    CellHandlerIgnoresCursor (writeCouplingFault intraOf interOf) := by
  intro c n fault fiInfo addr value accessType
  unfold writeCouplingFault
  simp only [↓withCursor_addressInUse, readCouplingCell_withCursor]
  split
  · rfl
  · split
    all_goals split
    all_goals
      simp only [stopHandler_withCursor, writeAccessValue_withCursor, pure_bind, bind_map_left,
        map_bind, cursorAt_fst, cursorAt_snd]
    all_goals rfl

theorem readCouplingFault_ignoresCursor {name : String} {sink : CellSink} :
    CellHandlerIgnoresCursor (readCouplingFault name sink) := by
  intro c n fault fiInfo addr value accessType
  unfold readCouplingFault
  simp only [↓withCursor_addressInUse, readCouplingCell_withCursor]
  split
  · rfl
  · cases sink <;> simp only [reduceCtorEq, ↓reduceIte]
    all_goals split
    all_goals split
    all_goals
      simp only [stopHandler_withCursor, writeCellAtAddressInUse_withCursor,
        writeAccessValue_withCursor, pure_bind, bind_map_left, map_bind, cursorAt_fst,
        cursorAt_snd, ↓withCursor_addressInUse]
    all_goals rfl

theorem CouplingMode.handler_ignoresCursor (k : CouplingMode) :
    CellHandlerIgnoresCursor k.handler := by
  cases k
  · exact faultInjectionControllerCfst_ignoresCursor true
  · exact faultInjectionControllerCfds_ignoresCursor
  all_goals first
    | exact writeCouplingFault_ignoresCursor
    | exact readCouplingFault_ignoresCursor

/-! ## The dispatcher -/

theorem toStep_withCursor {h : CellHandler} (hh : CellHandlerIgnoresCursor h) (c : Controller)
    (n : Option Nat) (fault : Fault) (fiInfo : FaultInjectionInfo) (addr : BitVec 64)
    (value : BitVec 32) (accessType : AccessType) :
    CellHandler.toStep <$> h (c.withCursor n) fault fiInfo addr value accessType =
      cursorAt n <$> (CellHandler.toStep <$> h c fault fiInfo addr value accessType) := by
  rw [hh, Functor.map_map, Functor.map_map]
  rfl

theorem memoryContentMode_withCursor (c : Controller) (n : Option Nat) (fault : Fault)
    (fiInfo : FaultInjectionInfo) (addr : BitVec 64) (value : BitVec 32)
    (accessType : AccessType) (mode : String) :
    memoryContentMode (c.withCursor n) fault fiInfo addr value accessType mode =
      cursorAt n <$> memoryContentMode c fault fiInfo addr value accessType mode := by
  unfold memoryContentMode
  dsimp only
  split
  next h hvalue =>
    split
    · rfl
    · exact valueModeOnAccess_withCursor (valueFaultHandler_ignoresCursor hvalue) c n fault
        fiInfo value
  next h _ hcell =>
    split
    · rfl
    · exact toStep_withCursor (cellFaultHandler_ignoresCursor hcell) c n fault fiInfo addr value
        accessType
  next =>
    split
    · exact toStep_withCursor (faultInjectionControllerCfst_ignoresCursor false) c n fault fiInfo
        addr value accessType
    · split
      · exact toStep_withCursor (faultInjectionControllerCfst_ignoresCursor true) c n fault fiInfo
          addr value accessType
      · rfl
  next =>
    split
    · rfl
    · exact toStep_withCursor faultInjectionControllerCfds_ignoresCursor c n fault fiInfo addr
        value accessType
  next =>
    split
    · rfl
    · exact toStep_withCursor (CouplingMode.handler_ignoresCursor _) c n fault fiInfo addr value
        accessType
  next => rfl

theorem logCellOperationsMemory_withCursor (c : Controller) (n : Option Nat) (fault : Fault)
    (addr : BitVec 64) (value : BitVec 32) (accessType : AccessType) :
    logCellOperationsMemory (c.withCursor n) fault addr value accessType =
      (·.withCursor n) <$> logCellOperationsMemory c fault addr value accessType := by
  unfold logCellOperationsMemory memoryOpsLogged
  split_ifs <;> first | rfl | (exfalso; simp_all)

theorem memoryContentStep_withCursor (addr : BitVec 64) (accessType : AccessType)
    (c : Controller) (n : Option Nat) (value : BitVec 32) (fault : Fault) :
    memoryContentStep addr accessType (c.withCursor n) value fault =
      cursorAt n <$> memoryContentStep addr accessType c value fault := by
  unfold memoryContentStep
  cases contentFaultApplies fault addr with
  | error e => rfl
  | ok applies =>
      simp only [Except.ok_bind]
      split
      · rfl
      · split
        · split
          · simp only [logCellOperationsMemory_withCursor, bind_map_left, memoryContentMode_withCursor,
              map_bind]
          · rfl
        · rfl

theorem forEachFaultListElement_withCursor {β : Type}
    {step : Controller → β → Fault → Except CError (Controller × β × Fault)}
    (hstep : ∀ c n b fault, step (c.withCursor n) b fault = cursorAt n <$> step c b fault)
    (c : Controller) (n : Option Nat) (b : β) (faults : List Fault) :
    forEachFaultListElement step (c.withCursor n) b faults =
      cursorAt n <$> forEachFaultListElement step c b faults := by
  induction faults generalizing c b with
  | nil => rfl
  | cons fault faults ih =>
      simp only [forEachFaultListElement, hstep, bind_map_left, map_bind]
      congr 1
      funext r
      simp only [cursorAt_fst, cursorAt_snd, ih, bind_map_left]
      rfl

theorem runFaultList_withCursor {β : Type}
    {step : Controller → β → Fault → Except CError (Controller × β × Fault)}
    (hstep : ∀ c n b fault, step (c.withCursor n) b fault = cursorAt n <$> step c b fault)
    (c : Controller) (n : Option Nat) (b : β) :
    runFaultList step (c.withCursor n) b = cursorAt n <$> runFaultList step c b := by
  unfold runFaultList
  rw [show (c.withCursor n).faults = c.faults from rfl, forEachFaultListElement_withCursor hstep,
    bind_map_left, map_bind]
  rfl

theorem faultInjectionControllerMemoryContent_withCursor (c : Controller) (n : Option Nat)
    (addr : BitVec 64) (value : BitVec 32) (accessType : AccessType) :
    faultInjectionControllerMemoryContent (c.withCursor n) addr value accessType =
      cursorAt n <$> faultInjectionControllerMemoryContent c addr value accessType :=
  runFaultList_withCursor (memoryContentStep_withCursor addr accessType) c n value

/-! ## The CPU loop -/

/-- `k` calls of `fault_injection_controller_memory_content` in a row, each on
the state and the value the call before left. -/
def memoryContentTimes (k : Nat) (c : Controller) (addr : BitVec 64) (value : BitVec 32)
    (accessType : AccessType) : Except CError (Controller × BitVec 32) :=
  match k with
  | 0 => pure (c, value)
  | k + 1 => do
      let (c, value) ← faultInjectionControllerMemoryContent c addr value accessType
      memoryContentTimes k c addr value accessType

theorem memoryContentTimes_one (c : Controller) (addr : BitVec 64) (value : BitVec 32)
    (accessType : AccessType) :
    memoryContentTimes 1 c addr value accessType =
      faultInjectionControllerMemoryContent c addr value accessType := by
  unfold memoryContentTimes memoryContentTimes
  cases faultInjectionControllerMemoryContent c addr value accessType <;> rfl

theorem memoryContentTimes_withCursor (k : Nat) (c : Controller) (n : Option Nat)
    (addr : BitVec 64) (value : BitVec 32) (accessType : AccessType) :
    memoryContentTimes k (c.withCursor n) addr value accessType =
      cursorAt n <$> memoryContentTimes k c addr value accessType := by
  induction k generalizing c value with
  | zero => rfl
  | succ k ih =>
      simp only [memoryContentTimes, faultInjectionControllerMemoryContent_withCursor,
        bind_map_left, map_bind]
      congr 1
      funext r
      exact ih r.1 r.2

theorem foldlM_memoryContent (cpus : List Nat) (c : Controller) (addr : BitVec 64)
    (value : BitVec 32) (accessType : AccessType) :
    cpus.foldlM (fun (cv : Controller × BitVec 32) _ =>
        faultInjectionControllerMemoryContent cv.1 addr cv.2 accessType) (c, value) =
      memoryContentTimes cpus.length c addr value accessType := by
  induction cpus generalizing c value with
  | nil => rfl
  | cons i cpus ih =>
      simp only [List.foldlM_cons, List.length_cons, memoryContentTimes]
      congr 1
      funext r
      exact ih r.1 r.2

theorem memoryContentOnCpus_of_exitRequest {c : Controller} (addr : BitVec 64)
    (value : BitVec 32) (accessType : AccessType) (hexit : c.exitRequest = true) :
    ∃ n, memoryContentOnCpus c addr value accessType = .ok (c.withCursor n, value) := by
  unfold memoryContentOnCpus
  dsimp only
  split
  · exact ⟨_, rfl⟩
  · rw [if_pos hexit]
    exact ⟨_, rfl⟩

theorem memoryContentTimes_setNextCpu (k : Nat) (c : Controller) (n : Option Nat)
    (addr : BitVec 64) (value : BitVec 32) (accessType : AccessType) :
    (do
        let (c, value) ← memoryContentTimes k { c with nextCpu := n } addr value accessType
        pure ({ c with nextCpu := none }, value)) =
      cursorAt none <$> memoryContentTimes k c addr value accessType := by
  have hcursor : memoryContentTimes k { c with nextCpu := n } addr value accessType =
      cursorAt n <$> memoryContentTimes k c addr value accessType :=
    memoryContentTimes_withCursor k c n addr value accessType
  rw [hcursor, bind_map_left]
  cases memoryContentTimes k c addr value accessType <;> rfl

theorem memoryContentOnCpus_of_not_exitRequest {c : Controller} (addr : BitVec 64)
    (value : BitVec 32) (accessType : AccessType) (hexit : c.exitRequest = false) :
    memoryContentOnCpus c addr value accessType =
      cursorAt none <$>
        memoryContentTimes (c.cpuCount - c.nextCpu.getD 0) c addr value accessType := by
  unfold memoryContentOnCpus
  cases hnext : c.nextCpu with
  | none =>
      by_cases hcpu : 0 < c.cpuCount
      · simp only [hcpu, if_true, Option.getD_none]
        rw [if_neg (by simp [hexit]), foldlM_memoryContent, List.length_range']
        exact memoryContentTimes_setNextCpu _ c _ addr value accessType
      · simp only [hcpu, if_false, Option.getD_none]
        rw [show c.cpuCount - 0 = 0 by omega]
        rfl
  | some i =>
      simp only [Option.getD_some]
      rw [if_neg (by simp [hexit]), foldlM_memoryContent, List.length_range']
      exact memoryContentTimes_setNextCpu _ c _ addr value accessType

/-! ## The two paths of `fault_injection_controller_init` -/

theorem faultInjectionControllerInit_memoryContent {c : Controller} {addr : BitVec 64}
    (envGiven : Bool) (value : BitVec 32) (accessType : AccessType)
    (hfree : addr ≠ c.addressInUse) :
    faultInjectionControllerInit c envGiven addr value .fiMemoryContent accessType =
      (fun r => (r.1, addr, r.2)) <$>
        if envGiven then
          faultInjectionControllerMemoryContent (profilerLog c addr accessType) addr value accessType
        else memoryContentOnCpus (profilerLog c addr accessType) addr value accessType := by
  cases envGiven <;>
    simp only [faultInjectionControllerInit, profilerLog_addressInUse, hfree, if_false,
      Bool.false_eq_true, if_true, bind_pure_comp]

/-- The CPU-less FI_MEMORY_CONTENT call against the env call.  The env call
is one call of `fault_injection_controller_memory_content`.  The CPU-less call
makes none under `exit_request` (only the cursor moves) and otherwise one for
each CPU from the cursor to the end of the list, leaving the cursor NULL; so it
agrees with the env call, up to the cursor, when one CPU is left. -/
theorem memoryContentWithoutEnv_once_per_cpu (c : Controller) (addr : BitVec 64)
    (value : BitVec 32) (accessType : AccessType) (hfree : addr ≠ c.addressInUse) :
    faultInjectionControllerInit c true addr value .fiMemoryContent accessType =
        (fun r => (r.1, addr, r.2)) <$>
          memoryContentTimes 1 (profilerLog c addr accessType) addr value accessType ∧
      (c.exitRequest = true → ∃ n,
        faultInjectionControllerInit c false addr value .fiMemoryContent accessType =
          .ok ((profilerLog c addr accessType).withCursor n, addr, value)) ∧
      (c.exitRequest = false →
        faultInjectionControllerInit c false addr value .fiMemoryContent accessType =
          (fun r => (r.1.withCursor none, addr, r.2)) <$>
            memoryContentTimes (c.cpuCount - c.nextCpu.getD 0) (profilerLog c addr accessType) addr
              value accessType) ∧
      (c.exitRequest = false → c.cpuCount - c.nextCpu.getD 0 = 1 →
        faultInjectionControllerInit c false addr value .fiMemoryContent accessType =
          (fun r => (r.1.withCursor none, r.2)) <$>
            faultInjectionControllerInit c true addr value .fiMemoryContent accessType) := by
  have henv : faultInjectionControllerInit c true addr value .fiMemoryContent accessType =
      (fun r => (r.1, addr, r.2)) <$>
        memoryContentTimes 1 (profilerLog c addr accessType) addr value accessType := by
    rw [faultInjectionControllerInit_memoryContent true value accessType hfree, if_pos rfl,
      memoryContentTimes_one]
  have hcpus : c.exitRequest = false →
      faultInjectionControllerInit c false addr value .fiMemoryContent accessType =
        (fun r => (r.1.withCursor none, addr, r.2)) <$>
          memoryContentTimes (c.cpuCount - c.nextCpu.getD 0) (profilerLog c addr accessType) addr
            value accessType := by
    intro hexit
    rw [faultInjectionControllerInit_memoryContent false value accessType hfree,
      if_neg Bool.false_ne_true, memoryContentOnCpus_of_not_exitRequest addr value accessType
        (by rw [profilerLog_exitRequest, hexit]),
      profilerLog_cpuCount, profilerLog_nextCpu, Functor.map_map]
    rfl
  refine ⟨henv, ?_, hcpus, ?_⟩
  · intro hexit
    obtain ⟨n, hloop⟩ := memoryContentOnCpus_of_exitRequest (c := profilerLog c addr accessType)
      addr value accessType (by rw [profilerLog_exitRequest, hexit])
    refine ⟨n, ?_⟩
    rw [faultInjectionControllerInit_memoryContent false value accessType hfree,
      if_neg Bool.false_ne_true, hloop]
    rfl
  · intro hexit hone
    rw [hcpus hexit, henv, hone, Functor.map_map]

def bitFlipOnTwoCpus : Controller :=
  { Controller.loaded Machine.zero
      [Fault.permanent "ACCESS" "RAM" "MEMORY CELL" "BIT-FLIP" ⟨0x100, 0x200, 1, -1, -1⟩] with
    cpuCount := 2 }

theorem memoryContentWithoutEnv_once_per_cpu_twoCpus :
    (0x100 : BitVec 64) ≠ bitFlipOnTwoCpus.addressInUse ∧
      faultInjectionControllerInit bitFlipOnTwoCpus false 0x100 0 .fiMemoryContent
          .writeAccessType =
        (fun r => (r.1.withCursor none, 0x100, r.2)) <$>
          memoryContentTimes 2 (profilerLog bitFlipOnTwoCpus 0x100 .writeAccessType) 0x100 0
            .writeAccessType :=
  ⟨by decide, (memoryContentWithoutEnv_once_per_cpu _ _ _ _ (by decide)).2.2.1 rfl⟩

/-- A write of 0 to the cell: the env call flips bit 0 and delivers 1; the
CPU-less call flips it once per CPU and delivers 0. -/
example :
    (faultInjectionControllerInit bitFlipOnTwoCpus true 0x100 0 .fiMemoryContent
        .writeAccessType).map (·.2.2) = .ok 1 ∧
      (faultInjectionControllerInit bitFlipOnTwoCpus false 0x100 0 .fiMemoryContent
        .writeAccessType).map (·.2.2) = .ok 0 := by
  decide +kernel

/-! ## A value fault, pass after pass -/

/-- An ACCESS-triggered RAM MEMORY CELL fault on the accessed cell with a value
mode, bit 31 of its mask clear and a positive id, whose `cf_address` is another
cell. -/
structure AccessValueFault (fault : Fault) (mode : String) (addr : BitVec 64) : Prop where
  trigger : fault.trigger = some "ACCESS"
  component : fault.component = some "RAM"
  target : fault.target = some "MEMORY CELL"
  mode_eq : fault.mode = some mode
  value : mode = "BIT-FLIP" ∨ mode = "SF" ∨ mode = "NEW VALUE"
  msb : fault.params.mask.msb = false
  address : fault.params.address = addr.setWidth 32
  cfAddress : fault.params.cfAddress ≠ addr.setWidth 32
  idPos : 0 < fault.id.toInt

example : AccessValueFault
    (Fault.permanent "ACCESS" "RAM" "MEMORY CELL" "BIT-FLIP" ⟨0x100, 0x200, 1, -1, -1⟩)
    "BIT-FLIP" 0x100 :=
  ⟨rfl, rfl, rfl, rfl, .inl rfl, by decide, by decide, by decide, by decide⟩

/-- What one pass makes of the access value: the mask word on its 64-bit copy. -/
def accessWord (fault : Fault) (mode : String) (value : BitVec 32) : BitVec 32 :=
  (maskWord mode (fault.params.mask.setWidth 64) (fault.params.setBit.setWidth 64)
    (value.setWidth 64)).setWidth 32

theorem faultInjectionControllerMemoryContent_single {c : Controller} {f : Fault}
    (addr : BitVec 64) (value : BitVec 32) (accessType : AccessType) (hfaults : c.faults = [f]) :
    faultInjectionControllerMemoryContent c addr value accessType =
      (memoryContentStep addr accessType c value f).map fun r =>
        ({ r.1 with faults := [r.2.2] }, r.2.1) := by
  unfold faultInjectionControllerMemoryContent runFaultList
  rw [hfaults]
  simp only [forEachFaultListElement]
  cases memoryContentStep addr accessType c value f <;> rfl

theorem memoryContent_valueFault_pass {c : Controller} {fault : Fault} {mode : String}
    {addr : BitVec 64} (hfault : AccessValueFault fault mode addr) {b : Bool}
    (hfaults : c.faults = [{ fault with isActive := b }])
    (hactive : activeNow fault 0 (getTimer c) = true) (value : BitVec 32)
    (accessType : AccessType) :
    ∃ c', faultInjectionControllerMemoryContent c addr value accessType =
        .ok (c', accessWord fault mode value) ∧
      c'.faults = [{ fault with isActive := true }] ∧ getTimer c' = getTimer c := by
  obtain ⟨a, ha, hinj⟩ := activeNow_iff.mp hactive
  obtain ⟨h, hh⟩ : ∃ h, valueFaultHandler mode = some h := by
    apply Option.isSome_iff_exists.mp
    rcases hfault.value with rfl | rfl | rfl <;> simp [valueFaultHandler]
  have hrow : opsRowAllocated c.faults { fault with isActive := b } = true :=
    opsRowAllocated_of_mem (by rw [hfaults]; exact List.mem_singleton_self _) hfault.idPos
  have ha' : faultActivation { fault with isActive := b } 0
      (getTimer (memoryOpsLogged c { fault with isActive := b } addr value accessType)) =
        .ok a := by
    rw [getTimer_memoryOpsLogged]
    exact ha
  obtain ⟨c₁, buf₁, hrun, hinjected⟩ := @valueFaultHandler_injected mode h
    (memoryOpsLogged c { fault with isActive := b } addr value accessType)
    (value.setWidth 64) { fault with isActive := b } memoryContentInfo 0 a hh ha' hinj hfault.msb rfl
  have hbuf : buf₁ = maskWord mode (fault.params.mask.setWidth 64)
      (fault.params.setBit.setWidth 64) (value.setWidth 64) :=
    (hinjected.buffer (.inr (by decide))).2
  refine ⟨{ c₁ with faults := [{ fault with isActive := true }] }, ?_, rfl, ?_⟩
  · rw [faultInjectionControllerMemoryContent_single addr value accessType hfaults,
      @memoryContentStep_of_memoryCell addr accessType c value { fault with isActive := b } mode
        hfault.address hfault.trigger hfault.component hfault.target hfault.mode_eq hrow]
    unfold memoryContentMode valueModeOnAccess
    simp only [hh, if_neg hfault.cfAddress, hrun, hbuf]
    rfl
  · show getTimer c₁ = getTimer c
    rw [hinjected.frame]
    exact getTimer_memoryOpsLogged c _ addr value accessType

theorem memoryContentTimes_valueFault {c : Controller} {fault : Fault} {mode : String}
    {addr : BitVec 64} (hfault : AccessValueFault fault mode addr) {b : Bool}
    (hfaults : c.faults = [{ fault with isActive := b }])
    (hactive : activeNow fault 0 (getTimer c) = true) (k : Nat) (value : BitVec 32)
    (accessType : AccessType) :
    ∃ c', memoryContentTimes k c addr value accessType =
      .ok (c', (accessWord fault mode)^[k] value) := by
  induction k generalizing c b value with
  | zero => exact ⟨c, rfl⟩
  | succ k ih =>
      obtain ⟨c₁, hpass, hfaults₁, htimer⟩ :=
        memoryContent_valueFault_pass hfault hfaults hactive value accessType
      obtain ⟨c', hrest⟩ := ih hfaults₁ (htimer ▸ hactive) (accessWord fault mode value)
      refine ⟨c', ?_⟩
      simp only [memoryContentTimes, hpass, Except.ok_bind, hrest, Function.iterate_succ_apply]

theorem accessWord_bitFlip (fault : Fault) (value : BitVec 32) :
    accessWord fault "BIT-FLIP" value = value ^^^ fault.params.mask := by
  apply BitVec.eq_of_getLsbD_eq
  intro i hi
  simp [accessWord, hi]

theorem accessWord_bitFlip_iterate (fault : Fault) (value : BitVec 32) (k : Nat) :
    (accessWord fault "BIT-FLIP")^[k] value =
      if Even k then value else value ^^^ fault.params.mask := by
  induction k with
  | zero => simp
  | succ k ih =>
      rw [Function.iterate_succ_apply', ih, accessWord_bitFlip]
      by_cases hk : Even k
      · rw [if_pos hk, if_neg (fun h => Nat.even_add_one.mp h hk)]
      · rw [if_neg hk, if_pos (Nat.even_add_one.mpr hk), BitVec.xor_assoc, BitVec.xor_self,
          BitVec.xor_zero]

theorem memoryContentWithoutEnv_bitFlip_parity {c : Controller} {fault : Fault}
    {addr : BitVec 64} (hfault : AccessValueFault fault "BIT-FLIP" addr) (hfaults : c.faults = [fault])
    (hactive : activeNow fault 0 (getTimer c) = true) (hfree : addr ≠ c.addressInUse)
    (hexit : c.exitRequest = false) (value : BitVec 32) (accessType : AccessType) :
    (faultInjectionControllerInit c true addr value .fiMemoryContent accessType).map (·.2.2) =
        .ok (value ^^^ fault.params.mask) ∧
      (faultInjectionControllerInit c false addr value .fiMemoryContent accessType).map (·.2.2) =
        .ok (if Even (c.cpuCount - c.nextCpu.getD 0) then value else value ^^^ fault.params.mask) := by
  have hfaults' : (profilerLog c addr accessType).faults = [{ fault with isActive := fault.isActive }] := by
    rw [profilerLog_faults, hfaults]
  have hactive' : activeNow fault 0 (getTimer (profilerLog c addr accessType)) = true := by
    rw [getTimer_profilerLog]
    exact hactive
  obtain ⟨c₁, hone⟩ := memoryContent_valueFault_pass hfault hfaults' hactive' value accessType
  obtain ⟨c', hall⟩ := memoryContentTimes_valueFault hfault hfaults' hactive'
    (c.cpuCount - c.nextCpu.getD 0) value accessType
  constructor
  · rw [faultInjectionControllerInit_memoryContent true value accessType hfree, if_pos rfl,
      hone.1, accessWord_bitFlip]
    rfl
  · rw [faultInjectionControllerInit_memoryContent false value accessType hfree,
      if_neg Bool.false_ne_true, memoryContentOnCpus_of_not_exitRequest addr value accessType
        (by rw [profilerLog_exitRequest, hexit]),
      profilerLog_cpuCount, profilerLog_nextCpu, hall, ← accessWord_bitFlip_iterate]
    rfl

end Fies
