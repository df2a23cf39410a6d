import Fies.Fault

/-!
# The emulated ARM machine and the fault injector

The part of the QEMU CPU state that the controller reads and writes: the
general-purpose registers `env->regs`, the CPSR as `cpsr_read` shows it, the
register banks `switch_mode` swaps with, and guest memory.  A register is addressed by the C `int` register number, so an
unchecked number such as `-1` names a cell of its own.  Guest memory is a map
from 32-bit addresses to bytes, read and written little endian as
`cpu_memory_rw_debug` does on the x86 host; every page is mapped.

The second half is `fault-injection-injector.c`: the functions that flip, set
or overwrite a bit or a word in a register, in memory or in the buffer the
hook passed, and the condition-flag, instruction and look-up-error injectors.
-/

namespace Fies

/-! ## Processor modes -/

/-- The modes of `enum arm_cpu_mode`. -/
inductive CpuMode
  | usr
  | fiq
  | irq
  | svc
  | abt
  | und
  | sys
  deriving DecidableEq, Repr

/-- `CPSR_M`, the mode field. -/
def cpsrM : BitVec 32 := 0x1f#32

/-- The mode a mode field names; `none` is what `bad_mode_switch` refuses. -/
def CpuMode.ofBits (m : BitVec 32) : Option CpuMode :=
  if m = 0x10 then some .usr
  else if m = 0x11 then some .fiq
  else if m = 0x12 then some .irq
  else if m = 0x13 then some .svc
  else if m = 0x17 then some .abt
  else if m = 0x1b then some .und
  else if m = 0x1f then some .sys
  else none

/-- `bank_number(mode)`. -/
def CpuMode.bankNumber : CpuMode → Fin 6
  | .usr => 0
  | .sys => 0
  | .svc => 1
  | .abt => 2
  | .und => 3
  | .irq => 4
  | .fiq => 5

/-- The machine state: `env->regs`, the CPSR, guest memory, and the banks
`switch_mode` swaps registers with.  The CPSR always names a mode: reset puts
the CPU in SVC mode and `cpsr_write` refuses a mode `bad_mode_switch` rejects,
so the `hw_error` of `bank_number` is never reached. -/
structure Machine where
  regs : BitVec 32 → BitVec 32
  cpsr : BitVec 32
  mem : BitVec 32 → BitVec 8
  spsr : BitVec 32
  /-- `banked_spsr`, `banked_r13` and `banked_r14`, indexed by `bank_number` -/
  bankedSpsr : Fin 6 → BitVec 32
  bankedR13 : Fin 6 → BitVec 32
  bankedR14 : Fin 6 → BitVec 32
  /-- `usr_regs` and `fiq_regs`: r8 to r12 of the other modes and of FIQ -/
  usrRegs : Fin 5 → BitVec 32
  fiqRegs : Fin 5 → BitVec 32
  validMode : (CpuMode.ofBits (cpsr &&& cpsrM)).isSome

namespace Machine

/-- The machine with every register, every bank and all of memory zero, and
the CPSR as `arm_cpu_reset` leaves it: SVC mode with A, I and F set. -/
def zero : Machine :=
  ⟨fun _ => 0, 0x1d3, fun _ => 0, 0, fun _ => 0, fun _ => 0, fun _ => 0, fun _ => 0, fun _ => 0,
    by decide⟩

/-- `read_cpu_register(env, regno)`: `env->regs[(int)regno]`. -/
def readCpuRegister (env : Machine) (regno : BitVec 64) : BitVec 32 :=
  env.regs (regno.setWidth 32)

/-- `len` bytes of memory from `addr`, little endian, as `cpu_memory_rw_debug`
reads them into a zeroed word. -/
def readBytes (env : Machine) (addr : BitVec 32) : Nat → BitVec 32
  | 0 => 0
  | n + 1 => (env.mem addr).setWidth 32 ||| (env.readBytes (addr + 1) n <<< 8)

@[simp] theorem zero_readBytes (addr : BitVec 32) (n : Nat) : zero.readBytes addr n = 0 := by
  induction n generalizing addr with
  | zero => rfl
  | succ n ih =>
      rw [readBytes, ih]
      simp [zero]

/-- `len` low bytes of `word` written to memory from `addr`, little endian. -/
def writeBytes (env : Machine) (addr : BitVec 32) (word : BitVec 32) : Nat → Machine
  | 0 => env
  | n + 1 =>
      ({ env with mem := Function.update env.mem addr (word.setWidth 8) } : Machine).writeBytes
        (addr + 1) (word >>> 8) n

/-- `cpu_memory_rw_debug(cpu, addr, membytes, len, 0)` on an `unsigned` word. -/
def cpuMemoryRwDebugRead (env : Machine) (addr : BitVec 64) (len : Nat) : BitVec 32 :=
  env.readBytes (addr.setWidth 32) len

/-- `cpu_memory_rw_debug(cpu, addr, membytes, len, 0)` into the bytes of a word
that already holds `word`: its low `len` bytes are replaced. -/
def cpuMemoryRwDebugReadInto (env : Machine) (addr : BitVec 64) (len : Nat) (word : BitVec 32) :
    BitVec 32 :=
  (word &&& ~~~(BitVec.ofNat 32 (2 ^ (8 * len) - 1))) ||| env.cpuMemoryRwDebugRead addr len

/-- `cpu_memory_rw_debug(cpu, addr, membytes, len, 1)` from an `unsigned` word. -/
def cpuMemoryRwDebugWrite (env : Machine) (addr : BitVec 64) (word : BitVec 32) (len : Nat) :
    Machine :=
  env.writeBytes (addr.setWidth 32) word len

@[simp] theorem writeBytes_regs (env : Machine) (addr word : BitVec 32) (n : Nat) :
    (env.writeBytes addr word n).regs = env.regs := by
  induction n generalizing env addr word with
  | zero => rfl
  | succ n ih => simp [writeBytes, ih]

@[simp] theorem writeBytes_cpsr (env : Machine) (addr word : BitVec 32) (n : Nat) :
    (env.writeBytes addr word n).cpsr = env.cpsr := by
  induction n generalizing env addr word with
  | zero => rfl
  | succ n ih => simp [writeBytes, ih]

theorem writeBytes_mem_of_outside (env : Machine) (addr word : BitVec 32) (n : Nat)
    (b : BitVec 32) (houtside : ∀ k < n, addr + BitVec.ofNat 32 k ≠ b) :
    (env.writeBytes addr word n).mem b = env.mem b := by
  induction n generalizing env addr word with
  | zero => rfl
  | succ n ih =>
      have hrest : ∀ k < n, addr + 1 + BitVec.ofNat 32 k ≠ b := by
        intro k hk
        have hk' := houtside (k + 1) (by omega)
        rwa [BitVec.ofNat_add, BitVec.add_comm (BitVec.ofNat 32 k), ← BitVec.add_assoc] at hk'
      have hne : addr ≠ b := by simpa using houtside 0 (by omega)
      rw [writeBytes, ih _ _ _ hrest]
      simp [Function.update_of_ne (Ne.symm hne)]

theorem writeBytes_congr_of_getLsbD (env : Machine) (addr w w' : BitVec 32) (n : Nat)
    (h : ∀ i < 8 * n, w.getLsbD i = w'.getLsbD i) :
    env.writeBytes addr w n = env.writeBytes addr w' n := by
  induction n generalizing env addr w w' with
  | zero => rfl
  | succ n ih =>
      have hbyte : w.setWidth 8 = w'.setWidth 8 := by
        apply BitVec.eq_of_getLsbD_eq
        intro i hi
        simp only [BitVec.getLsbD_setWidth, hi, decide_true, Bool.true_and]
        exact h i (by omega)
      have hrest : ∀ i < 8 * n, (w >>> 8).getLsbD i = (w' >>> 8).getLsbD i := by
        intro i hi
        simp only [BitVec.getLsbD_ushiftRight]
        exact h (8 + i) (by omega)
      rw [writeBytes, writeBytes, hbyte, ih _ _ _ _ hrest]

theorem getLsbD_readBytes_writeBytes (env : Machine) (addr word : BitVec 32) (n : Nat)
    (hn : n ≤ 4) (i : Nat) (hi : i < 8 * n) :
    ((env.writeBytes addr word n).readBytes addr n).getLsbD i = word.getLsbD i := by
  induction n generalizing env addr word i with
  | zero => omega
  | succ n ih =>
      have hfirst : ((env.writeBytes addr word (n + 1))).mem addr = word.setWidth 8 := by
        rw [writeBytes, writeBytes_mem_of_outside]
        · simp
        · intro k hk
          have hk3 : k < 3 := by omega
          bv_omega
      rw [readBytes, hfirst, BitVec.getLsbD_or, BitVec.getLsbD_shiftLeft]
      by_cases hlow : i < 8
      · simp [hlow]
        omega
      · have hrest := ih ({ env with mem := Function.update env.mem addr (word.setWidth 8) })
          (addr + 1) (word >>> 8) (by omega) (i - 8) (by omega)
        rw [writeBytes, hrest, BitVec.getLsbD_ushiftRight, Nat.add_sub_cancel' (by omega)]
        simp [hlow, show i < 32 by omega]

theorem getLsbD_readBytes_of_ge (env : Machine) (addr : BitVec 32) (n : Nat) {i : Nat}
    (hi : 8 * n ≤ i) : (env.readBytes addr n).getLsbD i = false := by
  induction n generalizing addr i with
  | zero => simp [readBytes]
  | succ n ih =>
      rw [readBytes, BitVec.getLsbD_or, BitVec.getLsbD_shiftLeft, BitVec.getLsbD_setWidth,
        BitVec.getLsbD_of_ge _ i (by omega), ih (addr + 1) (show 8 * n ≤ i - 8 by omega)]
      simp

/-! ## CPSR

`cpsr_write` keeps N, Z, C, V, Q, T, the IT bits and GE outside
`uncached_cpsr` and sets each group from `val` as a whole when the mask touches
it; `cpsr_read` puts them back.  A write that changes the mode field goes
through `switch_mode`, which banks r13, r14 and the SPSR (and r8 to r12 for
FIQ), unless `bad_mode_switch` refuses the new mode, in which case the mode
field is left as it was. -/

/-- `CPSR_NZCV`. -/
def cpsrNZCV : BitVec 32 := 0xF0000000#32

def cpsrQ : BitVec 32 := 0x08000000#32

def cpsrT : BitVec 32 := 0x20#32

def cpsrIT01 : BitVec 32 := 0x06000000#32

def cpsrIT27 : BitVec 32 := 0xfc00#32

def cpsrGE : BitVec 32 := 0x000f0000#32

/-- `CACHED_CPSR_BITS`. -/
def cachedCpsrBits : BitVec 32 := cpsrT ||| cpsrGE ||| cpsrIT01 ||| cpsrIT27 ||| cpsrQ ||| cpsrNZCV

/-- A flag group of `cpsr_write`: all of it when the mask touches it. -/
def cpsrGroup (mask group : BitVec 32) : BitVec 32 :=
  if mask &&& group ≠ 0 then group else 0

/-- The bits of `cpsr_read` that `cpsr_write(env, val, mask)` takes from `val`
when the mode is not refused. -/
def cpsrWritten (mask : BitVec 32) : BitVec 32 :=
  cpsrGroup mask cpsrNZCV ||| cpsrGroup mask cpsrQ ||| cpsrGroup mask cpsrT |||
    cpsrGroup mask cpsrIT01 ||| cpsrGroup mask cpsrIT27 ||| cpsrGroup mask cpsrGE |||
    (mask &&& ~~~cachedCpsrBits)

/-- `(old & ~mask) | (val & mask)`. -/
def cpsrMerge (old val mask : BitVec 32) : BitVec 32 :=
  (old &&& ~~~mask) ||| (val &&& mask)

theorem getElem_of_and_eq_zero {x y : BitVec 32} (h : x &&& y = 0) {i : Nat} (hi : i < 32) :
    (x[i] && y[i]) = false := by
  simpa using congrArg (fun z : BitVec 32 => z[i]) h

theorem cpsrMerge_of_and_eq_zero {old val mask m : BitVec 32} (h : mask &&& m = 0) :
    cpsrMerge old val mask &&& m = old &&& m := by
  ext i hi
  have hbit := getElem_of_and_eq_zero h hi
  simp only [cpsrMerge, BitVec.getElem_and, BitVec.getElem_or, BitVec.getElem_not] at hbit ⊢
  revert hbit
  cases old[i] <;> cases val[i] <;> cases mask[i] <;> cases m[i] <;> simp

theorem cpsrMerge_of_and_eq_self {old val mask m : BitVec 32} (h : mask &&& m = m) :
    cpsrMerge old val mask &&& m = val &&& m := by
  ext i hi
  have hbit := congrArg (fun z : BitVec 32 => z[i]) h
  simp only [cpsrMerge, BitVec.getElem_and, BitVec.getElem_or, BitVec.getElem_not] at hbit ⊢
  revert hbit
  cases old[i] <;> cases val[i] <;> cases mask[i] <;> cases m[i] <;> simp

theorem and_eq_of_xor_and_eq_zero {x y m : BitVec 32} (h : (x ^^^ y) &&& m = 0) :
    x &&& m = y &&& m := by
  ext i hi
  have hbit := getElem_of_and_eq_zero h hi
  simp only [BitVec.getElem_and, BitVec.getElem_xor] at hbit ⊢
  revert hbit
  cases x[i] <;> cases y[i] <;> cases m[i] <;> simp

theorem cpsrGroup_and_cpsrM {mask group : BitVec 32} (h : group &&& cpsrM = 0) :
    cpsrGroup mask group &&& cpsrM = 0 := by
  unfold cpsrGroup
  split <;> simp [h]

theorem cpsrWritten_and_cpsrM (mask : BitVec 32) : cpsrWritten mask &&& cpsrM = mask &&& cpsrM := by
  have hcached : ~~~cachedCpsrBits &&& cpsrM = cpsrM := by decide
  simp only [cpsrWritten, BitVec.and_or_distrib_right, cpsrGroup_and_cpsrM (by decide : cpsrNZCV &&& cpsrM = 0),
    cpsrGroup_and_cpsrM (by decide : cpsrQ &&& cpsrM = 0), cpsrGroup_and_cpsrM (by decide : cpsrT &&& cpsrM = 0),
    cpsrGroup_and_cpsrM (by decide : cpsrIT01 &&& cpsrM = 0),
    cpsrGroup_and_cpsrM (by decide : cpsrIT27 &&& cpsrM = 0),
    cpsrGroup_and_cpsrM (by decide : cpsrGE &&& cpsrM = 0), BitVec.and_assoc, hcached]
  simp

/-- A mask as the controller hands it to `cpsr_write`: it writes the whole mode
field or none of it.  A mask covering part of the field could store a mode
`bad_mode_switch` never saw. -/
structure CpsrMask where
  bits : BitVec 32
  wholeMode : bits &&& cpsrM = 0 ∨ bits &&& cpsrM = cpsrM

def mode (env : Machine) : CpuMode :=
  (CpuMode.ofBits (env.cpsr &&& cpsrM)).get env.validMode

def highRegs (regs : BitVec 32 → BitVec 32) : Fin 5 → BitVec 32 :=
  fun k => regs (8 + BitVec.ofNat 32 k)

/-- `regs` with r8 to r12 copied in from `saved`. -/
def loadHighRegs (regs : BitVec 32 → BitVec 32) (saved : Fin 5 → BitVec 32) :
    BitVec 32 → BitVec 32 :=
  fun r => if h : 8 ≤ r.toNat ∧ r.toNat < 13 then saved ⟨r.toNat - 8, by omega⟩ else regs r

/-- `switch_mode(env, mode)`. -/
def switchMode (env : Machine) (mode : CpuMode) : Machine :=
  let oldMode := env.mode
  if mode = oldMode then env
  else
    let env :=
      if oldMode = .fiq then
        { env with fiqRegs := highRegs env.regs, regs := loadHighRegs env.regs env.usrRegs }
      else if mode = .fiq then
        { env with usrRegs := highRegs env.regs, regs := loadHighRegs env.regs env.fiqRegs }
      else env
    let i := oldMode.bankNumber
    let env := { env with
      bankedR13 := Function.update env.bankedR13 i (env.regs 13)
      bankedR14 := Function.update env.bankedR14 i (env.regs 14)
      bankedSpsr := Function.update env.bankedSpsr i env.spsr }
    let i := mode.bankNumber
    { env with
      regs := Function.update (Function.update env.regs 13 (env.bankedR13 i)) 14 (env.bankedR14 i)
      spsr := env.bankedSpsr i }

@[simp] theorem switchMode_cpsr (env : Machine) (mode : CpuMode) :
    (env.switchMode mode).cpsr = env.cpsr := by
  unfold switchMode
  dsimp only
  split_ifs <;> rfl

@[simp] theorem switchMode_mem (env : Machine) (mode : CpuMode) :
    (env.switchMode mode).mem = env.mem := by
  unfold switchMode
  dsimp only
  split_ifs <;> rfl

def withCpsr (env : Machine) (cpsr : BitVec 32) (h : (CpuMode.ofBits (cpsr &&& cpsrM)).isSome) :
    Machine :=
  { env with cpsr, validMode := h }

theorem cpsrMerge_mode_of_unchanged {old val : BitVec 32} {mask : CpsrMask}
    (h : (old ^^^ val) &&& mask.bits &&& cpsrM = 0) :
    cpsrMerge old val (cpsrWritten mask.bits) &&& cpsrM = old &&& cpsrM := by
  rcases mask.wholeMode with hnone | hall
  · exact cpsrMerge_of_and_eq_zero (by rw [cpsrWritten_and_cpsrM, hnone])
  · rw [cpsrMerge_of_and_eq_self (by rw [cpsrWritten_and_cpsrM, hall])]
    rw [BitVec.and_assoc, hall] at h
    exact (and_eq_of_xor_and_eq_zero h).symm

theorem cpsrMerge_mode_of_changed {old val : BitVec 32} {mask : CpsrMask}
    (h : (old ^^^ val) &&& mask.bits &&& cpsrM ≠ 0) :
    cpsrMerge old val (cpsrWritten mask.bits) &&& cpsrM = val &&& cpsrM := by
  rcases mask.wholeMode with hnone | hall
  · rw [BitVec.and_assoc, hnone] at h
    exact absurd (by simp) h
  · exact cpsrMerge_of_and_eq_self (by rw [cpsrWritten_and_cpsrM, hall])

theorem cpsrMerge_mode_of_refused (old val mask : BitVec 32) :
    cpsrMerge old val (cpsrWritten mask &&& ~~~cpsrM) &&& cpsrM = old &&& cpsrM :=
  cpsrMerge_of_and_eq_zero (by rw [BitVec.and_assoc]; simp)

/-- `cpsr_write(env, val, mask)`, seen through `cpsr_read`. -/
def cpsrWrite (env : Machine) (val : BitVec 32) (mask : CpsrMask) : Machine :=
  if h : (env.cpsr ^^^ val) &&& mask.bits &&& cpsrM = 0 then
    env.withCpsr (cpsrMerge env.cpsr val (cpsrWritten mask.bits))
      (by rw [cpsrMerge_mode_of_unchanged h]; exact env.validMode)
  else
    match hmode : CpuMode.ofBits (val &&& cpsrM) with
    | none =>
        -- `bad_mode_switch`: the mode field is dropped from the mask
        env.withCpsr (cpsrMerge env.cpsr val (cpsrWritten mask.bits &&& ~~~cpsrM))
          (by rw [cpsrMerge_mode_of_refused]; exact env.validMode)
    | some mode =>
        (env.switchMode mode).withCpsr (cpsrMerge env.cpsr val (cpsrWritten mask.bits))
          (by rw [cpsrMerge_mode_of_changed h, hmode]; rfl)

@[simp] theorem cpsrWrite_mem (env : Machine) (val : BitVec 32) (mask : CpsrMask) :
    (env.cpsrWrite val mask).mem = env.mem := by
  unfold cpsrWrite
  split
  · rfl
  · split <;> simp [withCpsr]

theorem cpsrWrite_of_mode_unchanged {env : Machine} {val : BitVec 32} {mask : CpsrMask}
    (h : (env.cpsr ^^^ val) &&& mask.bits &&& cpsrM = 0) :
    (env.cpsrWrite val mask).regs = env.regs ∧
      (env.cpsrWrite val mask).cpsr = cpsrMerge env.cpsr val (cpsrWritten mask.bits) := by
  unfold cpsrWrite
  rw [dif_pos h]
  exact ⟨rfl, rfl⟩

def setReg (env : Machine) (n v : BitVec 32) : Machine :=
  { env with regs := Function.update env.regs n v }

@[simp] theorem setReg_mem (env : Machine) (n v : BitVec 32) : (env.setReg n v).mem = env.mem :=
  rfl

@[simp] theorem setReg_cpsr (env : Machine) (n v : BitVec 32) :
    (env.setReg n v).cpsr = env.cpsr := rfl

end Machine

/-! ## The injector -/

open Machine

/-- `1 << bit` on a C `int`. -/
def intBit (bit : BitVec 32) : BitVec 32 := 1#32 <<< bit.toNat

/-- `do_inject_register_arm_bf`: flip a bit of a register, of the CPSR from
register number 16 on. -/
def doInjectRegisterArmBf (env : Machine) (registerNum : BitVec 32)
    (fiInfo : FaultInjectionInfo) : Machine :=
  if registerNum.slt 16 then
    let r := env.regs registerNum
    if (r >>> fiInfo.injectedBit.toNat) &&& 1 ≠ 0 then
      env.setReg registerNum (r &&& ~~~(intBit fiInfo.injectedBit))
    else
      env.setReg registerNum (r ||| intBit fiInfo.injectedBit)
  else
    let cpsrValue := env.cpsr
    if (env.cpsr >>> fiInfo.injectedBit.toNat) &&& 1 ≠ 0 then
      env.cpsrWrite (cpsrValue &&& ~~~(intBit fiInfo.injectedBit)) ⟨0xFFFFFFFF#32, by decide⟩
    else
      env.cpsrWrite (cpsrValue ||| intBit fiInfo.injectedBit) ⟨0xFFFFFFFF#32, by decide⟩

/-- `do_inject_register_arm_rs`: set or reset a bit of a register or the CPSR. -/
def doInjectRegisterArmRs (env : Machine) (registerNum : BitVec 32)
    (fiInfo : FaultInjectionInfo) : Machine :=
  if registerNum.slt 16 then
    let r := env.regs registerNum
    if fiInfo.bitValue ≠ 0 then env.setReg registerNum (r ||| intBit fiInfo.injectedBit)
    else env.setReg registerNum (r &&& ~~~(intBit fiInfo.injectedBit))
  else
    let cpsrValue := env.cpsr
    if fiInfo.bitValue ≠ 0 then
      env.cpsrWrite (cpsrValue ||| intBit fiInfo.injectedBit) ⟨0xFFFFFFFF#32, by decide⟩
    else
      env.cpsrWrite (cpsrValue &&& ~~~(intBit fiInfo.injectedBit)) ⟨0xFFFFFFFF#32, by decide⟩

/-- `do_inject_new_register_value_arm`. -/
def doInjectNewRegisterValueArm (env : Machine) (registerNum : BitVec 32)
    (fiInfo : FaultInjectionInfo) : Machine :=
  if registerNum.slt 16 then env.setReg registerNum fiInfo.bitValue
  else env.cpsrWrite fiInfo.bitValue ⟨0xFFFFFFFF#32, by decide⟩

theorem slt_sixteen_of_toNat_lt {addr : BitVec 64} (h : addr.toNat < 16) :
    (addr.setWidth 32).slt 16 = true := by
  rw [BitVec.slt_eq_decide]
  simp [BitVec.toInt_eq_toNat_cond]
  omega

theorem readCpuRegister_doInjectNewRegisterValueArm (env : Machine) (addr : BitVec 64)
    (fiInfo : FaultInjectionInfo) (hreg : (addr.setWidth 32).slt 16 = true) :
    (doInjectNewRegisterValueArm env (addr.setWidth 32) fiInfo).readCpuRegister addr =
      fiInfo.bitValue := by
  rw [doInjectNewRegisterValueArm, if_pos hreg]
  simp [readCpuRegister, setReg]

/-- `do_inject_register_arm`: the register number is `(int)*addr`. -/
def doInjectRegisterArm (env : Machine) (addr : BitVec 64) (fiInfo : FaultInjectionInfo) :
    Machine :=
  if fiInfo.bitFlip ≠ 0 then doInjectRegisterArmBf env (addr.setWidth 32) fiInfo
  else if fiInfo.newValue = 0 then doInjectRegisterArmRs env (addr.setWidth 32) fiInfo
  else doInjectNewRegisterValueArm env (addr.setWidth 32) fiInfo

/-- `do_inject_memory_buffer_arm_bf`: flip a bit of the 64-bit buffer; the
`int` mask `1 << bit` is sign extended. -/
def doInjectMemoryBufferArmBf (value : BitVec 64) (injectedBit : BitVec 32) : BitVec 64 :=
  if (value >>> injectedBit.toNat) &&& 1 ≠ 0 then
    value &&& (~~~(intBit injectedBit)).signExtend 64
  else
    value ||| (intBit injectedBit).signExtend 64

/-- `do_inject_memory_buffer_arm_rs`. -/
def doInjectMemoryBufferArmRs (value : BitVec 64) (fiInfo : FaultInjectionInfo) : BitVec 64 :=
  if fiInfo.bitValue ≠ 0 then value ||| (intBit fiInfo.injectedBit).signExtend 64
  else value &&& (~~~(intBit fiInfo.injectedBit)).signExtend 64

/-- `do_inject_new_memory_value_buffer_arm`: `*orig_value = fi_info.bit_value`. -/
def doInjectNewMemoryValueBufferArm (fiInfo : FaultInjectionInfo) : BitVec 64 :=
  fiInfo.bitValue.setWidth 64

/-- `MEMORY_WIDTH / 8`: the bytes of a memory cell. -/
def memoryCellBytes : Nat := 2

/-- `MEMORY_WIDTH`. -/
def memoryWidth : Nat := 16

/-- `do_inject_memory_arm_bf`: flip a bit of the memory cell at the address.
The word's two upper bytes are never written back, so they are taken as 0. -/
def doInjectMemoryArmBf (env : Machine) (injectAddress : BitVec 64) (injectedBit : BitVec 32) :
    Machine :=
  let memword := env.cpuMemoryRwDebugRead injectAddress memoryCellBytes
  if (memword >>> injectedBit.toNat) &&& 1 ≠ 0 then
    env.cpuMemoryRwDebugWrite injectAddress (memword &&& ~~~(intBit injectedBit)) memoryCellBytes
  else
    env.cpuMemoryRwDebugWrite injectAddress (memword ||| intBit injectedBit) memoryCellBytes

/-- `do_inject_memory_arm_rs`. -/
def doInjectMemoryArmRs (env : Machine) (injectAddress : BitVec 64)
    (fiInfo : FaultInjectionInfo) : Machine :=
  let memword := env.cpuMemoryRwDebugRead injectAddress memoryCellBytes
  let memword :=
    if fiInfo.bitValue ≠ 0 then memword ||| intBit fiInfo.injectedBit
    else memword &&& ~~~(intBit fiInfo.injectedBit)
  env.cpuMemoryRwDebugWrite injectAddress memword memoryCellBytes

/-- `do_inject_new_memory_value_arm`: the low bytes of `bit_value` to memory. -/
def doInjectNewMemoryValueArm (env : Machine) (injectAddress : BitVec 64)
    (fiInfo : FaultInjectionInfo) : Machine :=
  env.cpuMemoryRwDebugWrite injectAddress fiInfo.bitValue memoryCellBytes

/-- `do_inject_memory_buffer_arm`. -/
def doInjectMemoryBufferArm (addr : BitVec 64) (fiInfo : FaultInjectionInfo) : BitVec 64 :=
  if fiInfo.bitFlip ≠ 0 then doInjectMemoryBufferArmBf addr fiInfo.injectedBit
  else if fiInfo.newValue = 0 then doInjectMemoryBufferArmRs addr fiInfo
  else doInjectNewMemoryValueBufferArm fiInfo

/-- `do_inject_memory_arm`. -/
def doInjectMemoryArm (env : Machine) (addr : BitVec 64) (fiInfo : FaultInjectionInfo) :
    Machine :=
  if fiInfo.bitFlip ≠ 0 then doInjectMemoryArmBf env addr fiInfo.injectedBit
  else if fiInfo.newValue = 0 then doInjectMemoryArmRs env addr fiInfo
  else doInjectNewMemoryValueArm env addr fiInfo

/-- `do_inject_memory_register(env, addr, fi_info)`: a fault on an address or
an access-triggered content fault changes the buffer `*addr`, any other fault
the register or memory cell numbered `*addr`.  The result is the machine and
the buffer. -/
def doInjectMemoryRegister (env : Machine) (addr : BitVec 64) (fiInfo : FaultInjectionInfo) :
    Machine × BitVec 64 :=
  if fiInfo.faultOnAddress ≠ 0 ∨ fiInfo.accessTriggeredContentFault ≠ 0 then
    (env, doInjectMemoryBufferArm addr fiInfo)
  else if fiInfo.faultOnRegister ≠ 0 then
    (doInjectRegisterArm env addr fiInfo, addr)
  else
    (doInjectMemoryArm env addr fiInfo, addr)

theorem doInjectMemoryRegister_newValue_buffer (env : Machine) (buf : BitVec 64)
    (fiInfo : FaultInjectionInfo) (hcontent : fiInfo.accessTriggeredContentFault ≠ 0)
    (hbf : fiInfo.bitFlip = 0) (hnv : fiInfo.newValue ≠ 0) :
    doInjectMemoryRegister env buf fiInfo = (env, fiInfo.bitValue.setWidth 64) := by
  unfold doInjectMemoryRegister doInjectMemoryBufferArm doInjectNewMemoryValueBufferArm
  rw [if_pos (Or.inr hcontent), if_neg (by simp [hbf]), if_neg hnv]

theorem doInjectMemoryRegister_newValue_cell (env : Machine) (addr : BitVec 64)
    (fiInfo : FaultInjectionInfo) (haddr : fiInfo.faultOnAddress = 0)
    (hcontent : fiInfo.accessTriggeredContentFault = 0)
    (hbf : fiInfo.bitFlip = 0) (hnv : fiInfo.newValue ≠ 0) :
    doInjectMemoryRegister env addr fiInfo =
      (if fiInfo.faultOnRegister ≠ 0 then doInjectNewRegisterValueArm env (addr.setWidth 32) fiInfo
       else env.cpuMemoryRwDebugWrite addr fiInfo.bitValue memoryCellBytes, addr) := by
  unfold doInjectMemoryRegister
  rw [if_neg (by simp [haddr, hcontent])]
  by_cases hreg : fiInfo.faultOnRegister ≠ 0
  · rw [if_pos hreg, if_pos hreg]
    unfold doInjectRegisterArm
    rw [if_neg (by simp [hbf]), if_neg hnv]
  · rw [if_neg hreg, if_neg hreg]
    unfold doInjectMemoryArm doInjectNewMemoryValueArm
    rw [if_neg (by simp [hbf]), if_neg hnv]

/-- `do_inject_condition_flags_arm(env, name, value)`. -/
def doInjectConditionFlagsArm (env : Machine) (srcFlagName : String) (newFlagValue : BitVec 32) :
    Machine :=
  if newFlagValue ≠ 0 ∧ newFlagValue ≠ 1 then env
  else
    let flag (bit : BitVec 32) (hbit : bit &&& cpsrM = 0) : Machine :=
      if newFlagValue ≠ 0 then env.cpsrWrite bit ⟨bit, .inl hbit⟩
      else env.cpsrWrite 0 ⟨bit, .inl hbit⟩
    if srcFlagName = "CF" then flag (1#32 <<< 29) (by decide)
    else if srcFlagName = "NF" then flag (1#32 <<< 29) (by decide)
    else if srcFlagName = "QF" then flag (1#32 <<< 27) (by decide)
    else if srcFlagName = "VF" then flag (1#32 <<< 28) (by decide)
    else if srcFlagName = "ZF" then flag (1#32 <<< 30) (by decide)
    else env

theorem doInjectConditionFlagsArm_nf_one (env : Machine) :
    (doInjectConditionFlagsArm env "NF" 1).cpsr = (env.cpsr &&& ~~~cpsrNZCV) ||| 0x20000000 := by
  have hkeep : (env.cpsr ^^^ 1#32 <<< 29) &&& 1#32 <<< 29 &&& cpsrM = 0 := by
    rw [BitVec.and_assoc, show 1#32 <<< 29 &&& cpsrM = 0 by decide]
    simp
  have hwritten : cpsrWritten (1#32 <<< 29) = cpsrNZCV := by decide
  rw [show doInjectConditionFlagsArm env "NF" 1 = env.cpsrWrite (1#32 <<< 29) ⟨1#32 <<< 29, by decide⟩ by
      simp [doInjectConditionFlagsArm],
    (cpsrWrite_of_mode_unchanged hkeep).2, hwritten, cpsrMerge,
    show 1#32 <<< 29 &&& cpsrNZCV = 0x20000000 by decide]

/-- `do_inject_insn_arm(&orig_insn, repl_insn)`. -/
def doInjectInsn (_origInsn replInsn : BitVec 32) : BitVec 32 :=
  replInsn

/-- The static variables `lockup_pc` and `saved_insn` of
`do_inject_look_up_error_arm`. -/
structure LookUpState where
  lockupPc : BitVec 32
  savedInsn : BitVec 32
  deriving DecidableEq, Repr

/-- `do_inject_look_up_error_arm(env, lockup_instruction)`: replace the word at
the PC by the look-up instruction and remember it, or, once the PC has moved
on, write the remembered word back.  `saved_insn == 0` means "nothing saved". -/
def doInjectLookUpErrorArm (env : Machine) (st : LookUpState) (lockupInstruction : BitVec 32) :
    Machine × LookUpState :=
  if st.savedInsn = 0 then
    let pc := env.regs 15
    let memword := env.readBytes pc 4
    (env.writeBytes pc lockupInstruction 4, { savedInsn := memword, lockupPc := pc })
  else if env.regs 15 ≠ st.lockupPc then
    (env.writeBytes st.lockupPc st.savedInsn 4, { st with savedInsn := 0 })
  else
    (env, st)

/-- An original word 0 is taken for "nothing saved".  On zero memory, a call
at 0x100 puts the look-up instruction there and saves 0; the next call, at
0x104, saves again instead of restoring, so 0x100 keeps the look-up
instruction and 0x104 gets it too. -/
theorem doInjectLookUpErrorArm_zero_word_lost :
    ∃ r₁ r₂, doInjectLookUpErrorArm (Machine.zero.setReg 15 0x100) ⟨0, 0⟩ 0xE7F000F0 = r₁ ∧
      doInjectLookUpErrorArm (r₁.1.setReg 15 0x104) r₁.2 0xE7F000F0 = r₂ ∧
      r₂.1.readBytes 0x100 4 = 0xE7F000F0 ∧ r₂.1.readBytes 0x104 4 = 0xE7F000F0 :=
  ⟨_, _, rfl, rfl, by decide⟩

end Fies
