import Fies.BitMask
import Fies.ExceptBind
import Fies.Machine

/-!
# Controller state, statistics and activation

The global state of `fault-injection-controller.c` and
`fault-injection-data-analyzer.c` around the machine: `address_in_use`, the
time origin `timer_value` with the virtual clock, the injection counters and
`id_array`, the per-fault histories of dynamic faults, the static variables of
the look-up-error injector and the fault list.

The activation branches (PC trigger, then type TRANSIENT, INTERMITTEND,
PERMANENT) appear four times in the source.  `_bf`, `_new_value` and `_rs`
run the same branches around different injections; they are one definition,
`activateAndInject`, with the injection as its parameter.
`_set_fault_active` folds the PC comparison into its first test and keeps its
own body.
-/

namespace Fies

open CRuntime BitMask

/-- The counters of `fault-injection-data-analyzer.c` and `id_array`, which
marks the ids already counted. -/
structure Statistics where
  numInjectedFaults : Nat
  numInjectedFaultsRamTrans : Nat
  numInjectedFaultsRamPerm : Nat
  numInjectedFaultsCpuTrans : Nat
  numInjectedFaultsCpuPerm : Nat
  numInjectedFaultsRegisterTrans : Nat
  numInjectedFaultsRegisterPerm : Nat
  idArray : BitVec 32 → Bool

/-- `incr_num_injected_faults(id, fault_type)`: an id is counted once; the
total is incremented before the category is looked at, and an unknown
category leaves the id unmarked. -/
def incrNumInjectedFaults (st : Statistics) (id : BitVec 32) (faultType : String) : Statistics :=
  let id := id - 1
  if st.idArray id then st
  else
    let st := { st with numInjectedFaults := st.numInjectedFaults + 1 }
    let mark := Function.update st.idArray id true
    if faultType = "ram trans" then
      { st with numInjectedFaultsRamTrans := st.numInjectedFaultsRamTrans + 1, idArray := mark }
    else if faultType = "ram perm" then
      { st with numInjectedFaultsRamPerm := st.numInjectedFaultsRamPerm + 1, idArray := mark }
    else if faultType = "cpu trans" then
      { st with numInjectedFaultsCpuTrans := st.numInjectedFaultsCpuTrans + 1, idArray := mark }
    else if faultType = "cpu perm" then
      { st with numInjectedFaultsCpuPerm := st.numInjectedFaultsCpuPerm + 1, idArray := mark }
    else if faultType = "reg trans" then
      { st with numInjectedFaultsRegisterTrans := st.numInjectedFaultsRegisterTrans + 1,
                idArray := mark }
    else if faultType = "reg perm" then
      { st with numInjectedFaultsRegisterPerm := st.numInjectedFaultsRegisterPerm + 1,
                idArray := mark }
    else st

/-- One line of `profiling_memory.txt` or `profiling_registers.txt`: the
accessed address as `(int)*addr` and the access kind.  A write line also
prints `(int)value`, the buffer's pointer, which the model leaves out. -/
structure ProfileRecord where
  address : BitVec 32
  accessType : AccessType
  deriving DecidableEq, Repr

/-- The state the controller functions read and write. -/
structure Controller where
  env : Machine
  /-- `static hwaddr address_in_use`, initially `UINT64_MAX`. -/
  addressInUse : BitVec 64
  /-- `timer_value`, the virtual time of the last reload. -/
  timerValue : Int
  /-- `qemu_clock_get_ns(QEMU_CLOCK_VIRTUAL)` at the moment of the call. -/
  clock : Int
  stats : Statistics
  /-- `ops_on_memory_cell[id - 1][bit]`; `none` is the `-1` of no record.  Only
the rows of the ids 1 to `getMaxIDInFaultList()` exist: an access to another row
is the crash `opsRowAllocated` tests for, and the model never reads it.  A row
is a block of `MEMORY_WIDTH * sizeof(int *)` bytes, room for 32 `int`s on a
64-bit host, so every bit of a 32-bit mask is logged inside it; only the first
`MEMORY_WIDTH` entries are set to -1, and only they are ever read. -/
  opsOnMemoryCell : BitVec 32 → Nat → Option CellOps
  opsOnRegisterCell : BitVec 32 → Nat → Option CellOps
  lookUp : LookUpState
  faults : List Fault
  /-- the number of CPUs on QEMU's CPU list -/
  cpuCount : Nat
  /-- `static CPUState *next_cpu`, as a position on the CPU list; `none` is NULL -/
  nextCpu : Option Nat
  /-- QEMU's `exit_request` -/
  exitRequest : Bool
  /-- the `profile_registers` and `profile_ram_addresses` switches -/
  profileRegisters : Bool
  profileRamAddresses : Bool
  /-- the lines written to the two profiling files, oldest first -/
  profilingRegisters : List ProfileRecord
  profilingMemory : List ProfileRecord

/-- The counters at QEMU start, all zero, with no id counted. -/
def Statistics.initial : Statistics :=
  ⟨0, 0, 0, 0, 0, 0, 0, fun _ => false⟩

/-- The controller at QEMU start, from the static initialisers: `address_in_use`
is `UINT64_MAX`, `timer_value`, `lockup_pc`, `saved_insn` and the counters are
0, no history is recorded, the fault list is empty and profiling is off. -/
def Controller.initial (env : Machine) (clock : Int) (cpuCount : Nat) : Controller where
  env := env
  addressInUse := BitVec.allOnes 64
  timerValue := 0
  clock := clock
  stats := Statistics.initial
  opsOnMemoryCell := fun _ _ => none
  opsOnRegisterCell := fun _ _ => none
  lookUp := ⟨0, 0⟩
  faults := []
  cpuCount := cpuCount
  nextCpu := none
  exitRequest := false
  profileRegisters := false
  profileRamAddresses := false
  profilingRegisters := []
  profilingMemory := []

@[simp] theorem Controller.initial_env (env : Machine) (clock : Int) (cpuCount : Nat) :
    (Controller.initial env clock cpuCount).env = env :=
  rfl

/-- The state at QEMU start on one CPU, at virtual time 0, with a library of
`faults` loaded. -/
def Controller.loaded (env : Machine) (faults : List Fault) : Controller :=
  { Controller.initial env 0 1 with faults }

/-- `fault_injection_controller_getTimer()`. -/
def getTimer (c : Controller) : Int := c.clock - c.timerValue

@[simp] theorem getTimer_env (c : Controller) (env : Machine) :
    getTimer { c with env } = getTimer c := rfl

@[simp] theorem getTimer_stats (c : Controller) (stats : Statistics) :
    getTimer { c with stats } = getTimer c := rfl

@[simp] theorem getTimer_addressInUse (c : Controller) (a : BitVec 64) :
    getTimer { c with addressInUse := a } = getTimer c := rfl

/-! ## Activation -/

/-- How the trigger and type branches of `_bf`, `_new_value` and `_rs`
resolve for a fault. -/
inductive Activation
  /-- the PC matches, or the time is inside a TRANSIENT or INTERMITTEND window:
  inject and count as "trans" -/
  | transient
  /-- PERMANENT: inject and count as "perm" -/
  | permanent
  /-- a branch applies but the fault is outside it: `is_active = 0` -/
  | inactive
  /-- no branch applies: return without touching `is_active` -/
  | unchanged
  deriving DecidableEq, Repr

/-- The branch structure of `fault_injection_controller_bf`: a PC-triggered
fault is active at its PC, otherwise the type decides with the elapsed time.
The interval division is evaluated only inside the window. -/
def faultActivation (fault : Fault) (pc : BitVec 32) (currentTimerValue : Int) :
    Except CError Activation :=
  if fault.trigger = some "PC" then
    pure (if pc = fault.params.address then .transient else .inactive)
  else if fault.type = some "TRANSIENT" then do
    let (startTime, stopTime, _) ← timeNormalization fault false
    pure (if currentTimerValue > startTime ∧ currentTimerValue < stopTime then .transient
      else .inactive)
  else if fault.type = some "INTERMITTEND" then do
    let (startTime, stopTime, interval) ← timeNormalization fault true
    if currentTimerValue > startTime ∧ currentTimerValue < stopTime then
      if interval = 0 then throw .divisionByZero
      else
        pure (if (currentTimerValue.tdiv interval).tmod 2 = 0 then .transient else .inactive)
    else pure .inactive
  else if fault.type = some "PERMANENT" then pure .permanent
  else pure .unchanged

def Int64Range (v : Int) : Prop := -2 ^ 63 ≤ v ∧ v < 2 ^ 63

theorem timeNormalization_int64 (fault : Fault) (withInterval : Bool) :
    Except.Post (timeNormalization fault withInterval) fun r =>
      Int64Range r.1 ∧ Int64Range r.2.1 ∧ Int64Range r.2.2 := by
  have hint : ∀ x : BitVec 32, -2 ^ 31 ≤ x.toInt ∧ x.toInt < 2 ^ 31 := fun x =>
    ⟨by simpa using BitVec.le_toInt x, by simpa using @BitVec.toInt_lt 32 x⟩
  unfold timeNormalization
  refine Except.post_bind (fun _ _ => trivial) fun t _ => ?_
  refine Except.post_bind (fun _ _ => trivial) fun d _ => ?_
  have ht := hint t
  have hd := hint d
  dsimp only
  split
  on_goal 1 =>
    refine Except.post_bind (fun _ _ => trivial) fun x _ => ?_
    have hx := hint x
    simp only [Except.pure_eq_ok, Except.ok_bind]
  on_goal 2 => simp only [Except.pure_eq_ok, Except.ok_bind]
  all_goals
    split
    · exact Except.post_pure (by simp only [Int64Range]; omega)
    · refine Except.post_bind (fun _ _ => trivial) fun _ _ => ?_
      split
      · exact Except.post_pure (by simp only [Int64Range, scaleMs]; omega)
      · refine Except.post_bind (fun _ _ => trivial) fun _ _ => ?_
        split
        · exact Except.post_pure (by simp only [Int64Range, scaleMs, scaleUs]; omega)
        · refine Except.post_bind (fun _ _ => trivial) fun _ _ => ?_
          split
          · exact Except.post_pure (by
              simp only [Int64Range, scaleMs, scaleNs]; omega)
          · exact Except.post_pure (by simp only [Int64Range]; omega)

/-- A timer of "10MS" with a duration and an interval of "10US": all three come
out in milliseconds, 10^7 ns, where the units written give 10^4 ns for the
last two. -/
theorem timeNormalization_scales_by_timer_unit :
    timeNormalization ⟨1, some "RAM", some "MEMORY CELL", some "BIT-FLIP", some "TIME",
        some "10MS", some "INTERMITTEND", some "10US", some "10US", false,
        ⟨0x100, -1, 1, -1, -1⟩⟩ true = .ok (10000000, 10000000, 10000000) := by
  decide

def Activation.injects : Activation → Bool
  | .transient => true
  | .permanent => true
  | _ => false

def Activation.isActive (a : Activation) (before : Bool) : Bool :=
  match a with
  | .transient => true
  | .permanent => true
  | .inactive => false
  | .unchanged => before

def Activation.kind : Activation → String
  | .permanent => "perm"
  | _ => "trans"

/-- The fault injects now: its activation evaluates without error to a branch
that injects. -/
def activeNow (fault : Fault) (pc : BitVec 32) (t : Int) : Bool :=
  match faultActivation fault pc t with
  | .ok a => a.injects
  | .error _ => false

theorem activeNow_iff {fault : Fault} {pc : BitVec 32} {t : Int} :
    activeNow fault pc t = true ↔ ∃ a, faultActivation fault pc t = .ok a ∧ a.injects = true := by
  unfold activeNow
  cases faultActivation fault pc t with
  | error e => simp
  | ok a => simp

theorem Activation.isActive_of_injects {a : Activation} (h : a.injects = true) (before : Bool) :
    a.isActive before = true := by
  cases a <;> simp_all [Activation.injects, Activation.isActive]

/-- The counter category of `_bf`, `_new_value` and `_rs`. -/
def injectionCategory (fiInfo : FaultInjectionInfo) (kind : String) : String :=
  (if fiInfo.faultOnRegister ≠ 0 then "reg " else "ram ") ++ kind

/-- The branches shared by `_bf`, `_new_value` and `_rs`: when the fault is
active, `inject kind` performs the injection on the controller and the buffer;
the fault's `is_active` records the outcome. -/
def activateAndInject (c : Controller) (buf : BitVec 64) (fault : Fault) (pc : BitVec 32)
    (inject : String → Controller × BitVec 64) : Except CError (Controller × BitVec 64 × Fault) :=
  do
  let a ← faultActivation fault pc (getTimer c)
  let (c, buf) := if a.injects then inject a.kind else (c, buf)
  pure (c, buf, { fault with isActive := a.isActive fault.isActive })

theorem activateAndInject_of_injects {c : Controller} {buf : BitVec 64} {fault : Fault}
    {pc : BitVec 32} {inject : String → Controller × BitVec 64} {a : Activation}
    (ha : faultActivation fault pc (getTimer c) = .ok a) (hinj : a.injects = true) :
    activateAndInject c buf fault pc inject =
      .ok ((inject a.kind).1, (inject a.kind).2, { fault with isActive := true }) := by
  simp only [activateAndInject, ha, Except.ok_bind, hinj, if_true,
    Activation.isActive_of_injects hinj]
  rfl

theorem activateAndInject_of_active {c : Controller} {buf : BitVec 64} {fault : Fault}
    {pc : BitVec 32} {inject : String → Controller × BitVec 64}
    (h : activeNow fault pc (getTimer c) = true) :
    ∃ kind, activateAndInject c buf fault pc inject =
      .ok ((inject kind).1, (inject kind).2, { fault with isActive := true }) := by
  obtain ⟨a, ha, hinj⟩ := activeNow_iff.mp h
  exact ⟨a.kind, activateAndInject_of_injects ha hinj⟩

/-- `log2(set_bit)` stored into a `uint32_t`, for the `int` loops of `_bf` and
`_rs`: exact for a positive power of two; `INT_MIN` is negative, its `log2` is
NaN, and the x86-64 conversion of NaN gives 0. -/
def log2OfIntBit (setBit : BitVec 32) : BitVec 32 :=
  if setBit.msb then 0 else BitVec.ofNat 32 (bitIndex setBit)

/-- One injection through `do_inject_memory_register`, counted for the fault. -/
def injectOnce (c : Controller) (buf : BitVec 64) (fault : Fault) (fiInfo : FaultInjectionInfo)
    (kind : String) : Controller × BitVec 64 :=
  let (env, buf) := doInjectMemoryRegister c.env buf fiInfo
  ({ c with env, stats := incrNumInjectedFaults c.stats fault.id (injectionCategory fiInfo kind) },
    buf)

/-- `fault_injection_controller_bf`: flip every bit of the mask. -/
def faultInjectionControllerBf (c : Controller) (addr : BitVec 64) (fault : Fault)
    (fiInfo : FaultInjectionInfo) (pc : BitVec 32) :
    Except CError (Controller × BitVec 64 × Fault) :=
  let fiInfo := { fiInfo with bitFlip := 1 }
  activateAndInject c addr fault pc fun kind =>
    forEachSetBit
      (fun (cb : Controller × BitVec 64) setBit =>
        injectOnce cb.1 cb.2 fault { fiInfo with injectedBit := log2OfIntBit setBit } kind)
      fault.params.mask (c, addr)

/-- `fault_injection_controller_new_value`: write the mask as the new value. -/
def faultInjectionControllerNewValue (c : Controller) (addr : BitVec 64) (fault : Fault)
    (fiInfo : FaultInjectionInfo) (pc : BitVec 32) :
    Except CError (Controller × BitVec 64 × Fault) :=
  let fiInfo := { fiInfo with bitFlip := 0, newValue := 1 }
  activateAndInject c addr fault pc fun kind =>
    injectOnce c addr fault { fiInfo with bitValue := fault.params.mask } kind

theorem faultInjectionControllerNewValue_of_active {c : Controller} (buf : BitVec 64)
    {fault : Fault} (fiInfo : FaultInjectionInfo) {pc : BitVec 32}
    (h : activeNow fault pc (getTimer c) = true) :
    ∃ kind, faultInjectionControllerNewValue c buf fault fiInfo pc =
      .ok ((injectOnce c buf fault
          { fiInfo with bitFlip := 0, newValue := 1, bitValue := fault.params.mask } kind).1,
        (injectOnce c buf fault
          { fiInfo with bitFlip := 0, newValue := 1, bitValue := fault.params.mask } kind).2,
        { fault with isActive := true }) :=
  activateAndInject_of_active h

theorem faultInjectionControllerNewValue_frame {c c' : Controller} {buf buf' : BitVec 64}
    {fault fault' : Fault} {fiInfo : FaultInjectionInfo} {pc : BitVec 32}
    (h : faultInjectionControllerNewValue c buf fault fiInfo pc = .ok (c', buf', fault')) :
    c' = { c with env := c'.env, stats := c'.stats } := by
  unfold faultInjectionControllerNewValue activateAndInject at h
  obtain ⟨a, -, hrest⟩ := Except.bind_eq_ok_iff.mp h
  by_cases hinj : a.injects = true
  · simp only [hinj, if_true, Except.pure_eq_ok, Except.ok.injEq, Prod.mk.injEq] at hrest
    obtain ⟨rfl, -, -⟩ := hrest
    rfl
  · simp only [hinj, Bool.false_eq_true, if_false, Except.pure_eq_ok, Except.ok.injEq,
      Prod.mk.injEq] at hrest
    obtain ⟨rfl, -, -⟩ := hrest
    rfl

/-- `fault_injection_controller_rs`: set or reset every bit of the mask as
`set_bit` says. -/
def faultInjectionControllerRs (c : Controller) (addr : BitVec 64) (fault : Fault)
    (fiInfo : FaultInjectionInfo) (pc : BitVec 32) :
    Except CError (Controller × BitVec 64 × Fault) :=
  let fiInfo := { fiInfo with bitFlip := 0 }
  activateAndInject c addr fault pc fun kind =>
    forEachSetBit
      (fun (cb : Controller × BitVec 64) setBit =>
        injectOnce cb.1 cb.2 fault
          { fiInfo with
            injectedBit := log2OfIntBit setBit
            bitValue := if fault.params.setBit &&& setBit ≠ 0 then 1 else 0 } kind)
      fault.params.mask (c, addr)

/-- `fault_injection_controller_set_fault_active(fault, component, pc)`: the
activity of a CPU fault.  A PC-triggered fault away from its PC is not
rejected here but falls through to the type branches. -/
def faultInjectionControllerSetFaultActive (c : Controller) (fault : Fault)
    (faultComponent : String) (pc : BitVec 32) : Except CError (Controller × Fault) :=
  let count (suffix : String) : Controller :=
    { c with stats := incrNumInjectedFaults c.stats fault.id (faultComponent ++ suffix) }
  let currentTimerValue := getTimer c
  if fault.trigger = some "PC" ∧ pc = fault.params.address then
    pure (count " trans", { fault with isActive := true })
  else if fault.type = some "TRANSIENT" then do
    let (startTime, stopTime, _) ← timeNormalization fault false
    if currentTimerValue > startTime ∧ currentTimerValue < stopTime then
      pure (count " trans", { fault with isActive := true })
    else pure (c, { fault with isActive := false })
  else if fault.type = some "INTERMITTEND" then do
    let (startTime, stopTime, interval) ← timeNormalization fault true
    if currentTimerValue > startTime ∧ currentTimerValue < stopTime then
      if interval = 0 then throw .divisionByZero
      else if (currentTimerValue.tdiv interval).tmod 2 = 0 then
        pure (count " trans", { fault with isActive := true })
      else pure (c, { fault with isActive := false })
    else pure (c, { fault with isActive := false })
  else if fault.type = some "PERMANENT" then
    pure (count " perm", { fault with isActive := true })
  else pure (c, fault)

theorem setFaultActive_permanent {c : Controller} {fault : Fault} {faultComponent : String}
    {pc : BitVec 32} (hpc : ¬(fault.trigger = some "PC" ∧ pc = fault.params.address))
    (htype : fault.type = some "PERMANENT") :
    faultInjectionControllerSetFaultActive c fault faultComponent pc =
      .ok ({ c with stats := incrNumInjectedFaults c.stats fault.id (faultComponent ++ " perm") },
        { fault with isActive := true }) := by
  simp only [faultInjectionControllerSetFaultActive, hpc, htype, if_false]
  simp

/-- A PC-triggered fault reached at another PC: `_set_fault_active` falls
through to the type branches and makes a PERMANENT one active, while the
activation of `_bf`, `_new_value` and `_rs` makes it inactive. -/
theorem setFaultActive_pcMismatch_permanent {c : Controller} {fault : Fault}
    {faultComponent : String} {pc : BitVec 32} (htrigger : fault.trigger = some "PC")
    (hpc : pc ≠ fault.params.address) (htype : fault.type = some "PERMANENT") :
    (∃ c', faultInjectionControllerSetFaultActive c fault faultComponent pc =
        .ok (c', { fault with isActive := true })) ∧
      faultActivation fault pc (getTimer c) = .ok .inactive := by
  constructor
  · exact ⟨_, setFaultActive_permanent (fun h => hpc h.2) htype⟩
  · simp [faultActivation, htrigger, hpc]

theorem setFaultActive_pcMismatch_permanent_at_0x104 :
    (∃ c', faultInjectionControllerSetFaultActive (Controller.initial Machine.zero 0 1)
        ⟨1, some "CPU", some "CONDITION FLAGS", some "ZF", some "PC", none, some "PERMANENT", none,
          none, false, ⟨0x100, -1, -1, -1, -1⟩⟩ "cpu" 0x104 =
        .ok (c', ⟨1, some "CPU", some "CONDITION FLAGS", some "ZF", some "PC", none,
          some "PERMANENT", none, none, true, ⟨0x100, -1, -1, -1, -1⟩⟩)) ∧
      faultActivation ⟨1, some "CPU", some "CONDITION FLAGS", some "ZF", some "PC", none,
          some "PERMANENT", none, none, false, ⟨0x100, -1, -1, -1, -1⟩⟩ 0x104
          (getTimer (Controller.initial Machine.zero 0 1)) = .ok .inactive :=
  setFaultActive_pcMismatch_permanent rfl (by decide) rfl

end Fies
