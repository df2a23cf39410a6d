import Fies.Experiment

/-!
# Mask faults: the word a value handler computes

`fault_injection_controller_bf` and `_rs` walk the set bits of the mask and
inject one bit per pass through `do_inject_memory_register`;
`_new_value` writes the mask at once.  A pass at bit `i < 31` changes bit `i`
of its target and nothing else: the access buffer, a register or the CPSR, or
the 16-bit memory cell.  Bit 31 is not one of them: `log2` of the negative
`INT_MIN` is NaN, which converts to 0, so that pass works on bit 0.

For a mask with bit 31 clear, BIT-FLIP therefore gives `x ^ m`, SF gives
`(x & ~m) | (s & m)` and NEW VALUE gives `m`.  On the 64-bit buffer BIT-FLIP
and SF keep bits 32..63, while NEW VALUE stores the 32-bit mask in the whole
buffer.  Every pass credits the same id in the same category, which counts once.
-/

namespace Fies

open CRuntime BitMask Machine Except

/-! ## The register a register fault works on -/

/-- The register numbered `r`, the CPSR from 16 on. -/
def registerTarget (env : Machine) (r : BitVec 32) : BitVec 32 :=
  if r.slt 16 then env.regs r else env.cpsr

/-- The word a value fault means to leave in its target `x`: the mask flipped
in (BIT-FLIP), the mask itself (NEW VALUE), `set_bit` under the mask (SF). -/
def maskWord {w : Nat} (mode : String) (mask setBit x : BitVec w) : BitVec w :=
  if mode = "BIT-FLIP" then x ^^^ mask
  else if mode = "NEW VALUE" then mask
  else merge setBit mask x

@[simp] theorem maskWord_bitFlip {w : Nat} (mask setBit x : BitVec w) :
    maskWord "BIT-FLIP" mask setBit x = x ^^^ mask :=
  if_pos rfl

@[simp] theorem maskWord_newValue {w : Nat} (mask setBit x : BitVec w) :
    maskWord "NEW VALUE" mask setBit x = mask := by
  simp [maskWord]

@[simp] theorem maskWord_sf {w : Nat} (mask setBit x : BitVec w) :
    maskWord "SF" mask setBit x = merge setBit mask x := by
  simp [maskWord]

/-! ## One pass -/

theorem log2OfIntBit_twoPow {i : Nat} (hi : i < 31) :
    log2OfIntBit (BitVec.twoPow 32 i) = BitVec.ofNat 32 i := by
  have hmsb : (BitVec.twoPow 32 i).msb = false := by
    simp [BitVec.msb_twoPow]
    omega
  simp only [log2OfIntBit, hmsb, Bool.false_eq_true, if_false, bitIndex_twoPow (show i < 32 by omega)]

theorem log2OfIntBit_twoPow_of_lt {i : Nat} (hi : i < 32) :
    log2OfIntBit (BitVec.twoPow 32 i) = if i = 31 then 0 else BitVec.ofNat 32 i := by
  by_cases h31 : i = 31
  · subst h31
    decide
  · rw [if_neg h31]
    exact log2OfIntBit_twoPow (by omega)

/-- The set-bit loop in both its forms, for every mask: the loop makes
`popcount mask` passes, one for each set bit in increasing order, each with
`set_bit = 2 ^ i`.  The `unsigned` form's `log2` gives `i`; the `int` form of
`_bf` and `_rs` gives `i` below bit 31 and 0 at bit 31. -/
theorem setBitLoops_one_pass_per_bit {σ τ : Type} (mask : BitVec 32)
    (ubody : σ → BitVec 32 → Nat → σ) (sbody : τ → BitVec 32 → BitVec 32 → τ) (s : σ) (t : τ) :
    forEachSetBit (fun (n : Nat) _ => n + 1) mask 0 = popcount mask ∧
      (setBits mask).Pairwise (· < ·) ∧
      (∀ i, i ∈ setBits mask ↔ i < 32 ∧ mask.getLsbD i = true) ∧
      forEachSetBit (fun s setBit => ubody s setBit (bitIndex setBit)) mask s =
        (setBits mask).foldl (fun s i => ubody s (BitVec.twoPow 32 i) i) s ∧
      forEachSetBit (fun t setBit => sbody t setBit (log2OfIntBit setBit)) mask t =
        (setBits mask).foldl
          (fun t i => sbody t (BitVec.twoPow 32 i) (if i = 31 then 0 else BitVec.ofNat 32 i)) t := by
  refine ⟨forEachSetBit_count mask, setBits_pairwise mask, fun i => mem_setBits, ?_, ?_⟩
  · rw [forEachSetBit_eq_foldl]
    refine List.foldl_ext _ _ s fun s i hi => ?_
    rw [bitIndex_twoPow (mem_setBits.mp hi).1]
  · rw [forEachSetBit_eq_foldl]
    refine List.foldl_ext _ _ t fun t i hi => ?_
    rw [log2OfIntBit_twoPow_of_lt (mem_setBits.mp hi).1]

/-- A mask of bit 31 alone: the `int` loop makes one pass, with `set_bit =
INT_MIN` and `pos = 0`. -/
example : forEachSetBit (fun (trace : List (BitVec 32 × BitVec 32)) setBit =>
    trace ++ [(setBit, log2OfIntBit setBit)]) 0x80000000 [] = [(0x80000000, 0)] := by
  rw [forEachSetBit_eq_foldl]
  decide

theorem intBit_ofNat {i : Nat} (hi : i < 32) : intBit (BitVec.ofNat 32 i) = BitVec.twoPow 32 i := by
  unfold intBit
  rw [BitVec.toNat_ofNat, Nat.mod_eq_of_lt (by omega)]
  rfl

theorem signExtend_twoPow {i : Nat} (hi : i < 31) :
    (BitVec.twoPow 32 i).signExtend 64 = BitVec.twoPow 64 i := by
  apply BitVec.eq_of_getLsbD_eq
  intro k hk
  simp only [BitVec.getLsbD_signExtend, BitVec.getLsbD_twoPow, BitVec.msb_twoPow]
  by_cases hik : i = k <;> simp [hik, hk] <;> omega

theorem signExtend_not_twoPow {i : Nat} (hi : i < 31) :
    (~~~BitVec.twoPow 32 i).signExtend 64 = ~~~BitVec.twoPow 64 i := by
  apply BitVec.eq_of_getLsbD_eq
  intro k hk
  simp only [BitVec.getLsbD_signExtend, BitVec.getLsbD_not, BitVec.getLsbD_twoPow,
    BitVec.msb_not, BitVec.msb_twoPow]
  by_cases hik : i = k <;> simp [hik, hk] <;> omega

theorem doInjectMemoryBufferArmBf_ofNat (v : BitVec 64) {i : Nat} (hi : i < 31) :
    doInjectMemoryBufferArmBf v (BitVec.ofNat 32 i) = v ^^^ BitVec.twoPow 64 i := by
  unfold doInjectMemoryBufferArmBf
  rw [intBit_ofNat (by omega), BitVec.toNat_ofNat, Nat.mod_eq_of_lt (by omega),
    signExtend_twoPow hi, signExtend_not_twoPow hi]
  simp only [ushiftRight_and_one_ne_zero v i (by decide : 0 < 64)]
  exact ite_getLsbD_and_not_or_eq_xor v i

theorem doInjectMemoryBufferArmRs_of_bit (v : BitVec 64) {fiInfo : FaultInjectionInfo} {i : Nat}
    (hi : i < 31) (hbit : fiInfo.injectedBit = BitVec.ofNat 32 i) :
    doInjectMemoryBufferArmRs v fiInfo =
      if fiInfo.bitValue ≠ 0 then v ||| BitVec.twoPow 64 i else v &&& ~~~BitVec.twoPow 64 i := by
  unfold doInjectMemoryBufferArmRs
  rw [hbit, intBit_ofNat (by omega), signExtend_twoPow hi, signExtend_not_twoPow hi]

theorem registerTarget_doInjectRegisterArmBf (env : Machine) {r : BitVec 32} (hreg : r.slt 16)
    {fiInfo : FaultInjectionInfo} {i : Nat} (hi : i < 32)
    (hbit : fiInfo.injectedBit = BitVec.ofNat 32 i) :
    registerTarget (doInjectRegisterArmBf env r fiInfo) r =
      registerTarget env r ^^^ BitVec.twoPow 32 i := by
  have htest : ∀ x : BitVec 32, (x >>> i) &&& 1 ≠ 0 ↔ x.getLsbD i = true :=
    fun x => ushiftRight_and_one_ne_zero x i (by decide)
  have hflip : ∀ x : BitVec 32, (if x.getLsbD i = true then x &&& ~~~BitVec.twoPow 32 i
      else x ||| BitVec.twoPow 32 i) = x ^^^ BitVec.twoPow 32 i :=
    fun x => ite_getLsbD_and_not_or_eq_xor x i
  unfold doInjectRegisterArmBf registerTarget
  rw [hbit, intBit_ofNat hi, BitVec.toNat_ofNat, Nat.mod_eq_of_lt (by omega)]
  simp only [htest, hreg, if_true]
  split_ifs <;> simp_all [setReg, ← hflip]

theorem registerTarget_doInjectRegisterArmRs (env : Machine) {r : BitVec 32} (hreg : r.slt 16)
    {fiInfo : FaultInjectionInfo} {i : Nat} (hi : i < 32)
    (hbit : fiInfo.injectedBit = BitVec.ofNat 32 i) :
    registerTarget (doInjectRegisterArmRs env r fiInfo) r =
      if fiInfo.bitValue ≠ 0 then registerTarget env r ||| BitVec.twoPow 32 i
      else registerTarget env r &&& ~~~BitVec.twoPow 32 i := by
  unfold doInjectRegisterArmRs registerTarget
  rw [hbit, intBit_ofNat hi]
  simp only [hreg, if_true]
  split_ifs <;> simp [setReg]

theorem registerTarget_doInjectNewRegisterValueArm (env : Machine) {r : BitVec 32}
    (hreg : r.slt 16) (fiInfo : FaultInjectionInfo) :
    registerTarget (doInjectNewRegisterValueArm env r fiInfo) r = fiInfo.bitValue := by
  unfold doInjectNewRegisterValueArm registerTarget
  rw [if_pos hreg, if_pos hreg]
  simp [setReg]

/-! ## The memory cell -/

theorem getLsbD_lowHalf (i : Nat) : (0xFFFF : BitVec 32).getLsbD i = decide (i < 16) := by
  rw [show (0xFFFF : BitVec 32) = BitVec.ofNat 32 (2 ^ 16 - 1) from rfl, BitVec.getLsbD_ofNat,
    Nat.testBit_two_pow_sub_one]
  by_cases hi : i < 16
  · simp [hi, show i < 32 by omega]
  · simp [hi]

theorem cpuMemoryRwDebugRead_write_cell (env : Machine) (addr : BitVec 64) (word : BitVec 32) :
    (env.cpuMemoryRwDebugWrite addr word memoryCellBytes).cpuMemoryRwDebugRead addr
      memoryCellBytes = word &&& 0xFFFF := by
  unfold cpuMemoryRwDebugWrite cpuMemoryRwDebugRead memoryCellBytes
  apply BitVec.eq_of_getLsbD_eq
  intro i hi
  rw [BitVec.getLsbD_and, getLsbD_lowHalf]
  by_cases hlow : i < 16
  · rw [getLsbD_readBytes_writeBytes _ _ _ 2 (by omega) i (by omega)]
    simp [hlow]
  · rw [getLsbD_readBytes_of_ge _ _ 2 (by omega)]
    simp [hlow]

theorem cell_doInjectMemoryArmBf_ofNat (env : Machine) (addr : BitVec 64) {i : Nat}
    (hi : i < 32) :
    (doInjectMemoryArmBf env addr (BitVec.ofNat 32 i)).cpuMemoryRwDebugRead addr memoryCellBytes =
      (env.cpuMemoryRwDebugRead addr memoryCellBytes ^^^ BitVec.twoPow 32 i) &&& 0xFFFF := by
  have htest : ∀ x : BitVec 32, (x >>> i) &&& 1 ≠ 0 ↔ x.getLsbD i = true :=
    fun x => ushiftRight_and_one_ne_zero x i (by decide)
  unfold doInjectMemoryArmBf
  rw [intBit_ofNat hi, BitVec.toNat_ofNat, Nat.mod_eq_of_lt (by omega)]
  simp only [htest]
  rw [← ite_getLsbD_and_not_or_eq_xor]
  split <;> simp_all [cpuMemoryRwDebugRead_write_cell]

theorem cell_doInjectMemoryArmRs_of_bit (env : Machine) (addr : BitVec 64)
    {fiInfo : FaultInjectionInfo} {i : Nat} (hi : i < 32)
    (hbit : fiInfo.injectedBit = BitVec.ofNat 32 i) :
    (doInjectMemoryArmRs env addr fiInfo).cpuMemoryRwDebugRead addr memoryCellBytes =
      (if fiInfo.bitValue ≠ 0 then env.cpuMemoryRwDebugRead addr memoryCellBytes ||| BitVec.twoPow 32 i
        else env.cpuMemoryRwDebugRead addr memoryCellBytes &&& ~~~BitVec.twoPow 32 i) &&& 0xFFFF := by
  unfold doInjectMemoryArmRs
  rw [hbit, intBit_ofNat hi]
  exact cpuMemoryRwDebugRead_write_cell _ _ _

theorem cell_doInjectNewMemoryValueArm (env : Machine) (addr : BitVec 64)
    (fiInfo : FaultInjectionInfo) :
    (doInjectNewMemoryValueArm env addr fiInfo).cpuMemoryRwDebugRead addr memoryCellBytes =
      fiInfo.bitValue &&& 0xFFFF :=
  cpuMemoryRwDebugRead_write_cell _ _ _

theorem cpuMemoryRwDebugRead_cell_setWidth (env : Machine) (addr : BitVec 64) :
    ((env.cpuMemoryRwDebugRead addr memoryCellBytes).setWidth 16).setWidth 32 =
      env.cpuMemoryRwDebugRead addr memoryCellBytes := by
  apply BitVec.eq_of_getLsbD_eq
  intro i hi
  rw [BitVec.getLsbD_setWidth, BitVec.getLsbD_setWidth]
  by_cases hlow : i < 16
  · simp [hlow, hi]
  · rw [cpuMemoryRwDebugRead, memoryCellBytes, getLsbD_readBytes_of_ge _ _ 2 (by omega)]
    simp [hlow]

theorem cpuMemoryRwDebugRead_cell_eq {env : Machine} {addr : BitVec 64} {y : BitVec 32}
    (h : (env.cpuMemoryRwDebugRead addr memoryCellBytes).setWidth 16 = y.setWidth 16) :
    env.cpuMemoryRwDebugRead addr memoryCellBytes = y &&& 0xFFFF := by
  rw [← cpuMemoryRwDebugRead_cell_setWidth, h]
  apply BitVec.eq_of_getLsbD_eq
  intro i hi
  rw [BitVec.getLsbD_setWidth, BitVec.getLsbD_setWidth, BitVec.getLsbD_and, getLsbD_lowHalf]
  by_cases hlow : i < 16 <;> simp [hlow, hi]

theorem setWidth_lowHalf_xor_twoPow (x : BitVec 32) (i : Nat) :
    ((x ^^^ BitVec.twoPow 32 i) &&& 0xFFFF).setWidth 16 = x.setWidth 16 ^^^ BitVec.twoPow 16 i := by
  apply BitVec.eq_of_getLsbD_eq
  intro j hj
  simp only [BitVec.getLsbD_setWidth, BitVec.getLsbD_and, BitVec.getLsbD_xor,
    BitVec.getLsbD_twoPow, getLsbD_lowHalf]
  by_cases hij : i = j
  · subst hij
    simp [hj, show i < 32 by omega]
  · simp [hij, hj]

theorem setWidth_lowHalf_or_twoPow (x : BitVec 32) (i : Nat) :
    ((x ||| BitVec.twoPow 32 i) &&& 0xFFFF).setWidth 16 = x.setWidth 16 ||| BitVec.twoPow 16 i := by
  apply BitVec.eq_of_getLsbD_eq
  intro j hj
  simp only [BitVec.getLsbD_setWidth, BitVec.getLsbD_and, BitVec.getLsbD_or,
    BitVec.getLsbD_twoPow, getLsbD_lowHalf]
  by_cases hij : i = j
  · subst hij
    simp [hj, show i < 32 by omega]
  · simp [hij, hj]

theorem setWidth_lowHalf_and_not_twoPow (x : BitVec 32) (i : Nat) :
    ((x &&& ~~~BitVec.twoPow 32 i) &&& 0xFFFF).setWidth 16 =
      x.setWidth 16 &&& ~~~BitVec.twoPow 16 i := by
  apply BitVec.eq_of_getLsbD_eq
  intro j hj
  simp only [BitVec.getLsbD_setWidth, BitVec.getLsbD_and, BitVec.getLsbD_not,
    BitVec.getLsbD_twoPow, getLsbD_lowHalf]
  by_cases hij : i = j
  · subst hij
    simp [hj, show i < 32 by omega]
  · simp [hij, hj, show j < 32 by omega]

/-! ## Where a pass lands

`do_inject_memory_register` chooses the buffer for a fault on an address or an
access-triggered content fault, else the register or the memory cell the
buffer numbers; the register and cell passes hand the buffer back. -/

section Passes

variable (env : Machine) (buf : BitVec 64) {i : Nat}

section Branches

variable (fi : FaultInjectionInfo)

theorem doInjectMemoryRegister_of_buffer
    (hbuf : fi.faultOnAddress ≠ 0 ∨ fi.accessTriggeredContentFault ≠ 0) :
    doInjectMemoryRegister env buf fi = (env, doInjectMemoryBufferArm buf fi) :=
  if_pos hbuf

theorem doInjectMemoryRegister_of_register
    (hbuf : ¬(fi.faultOnAddress ≠ 0 ∨ fi.accessTriggeredContentFault ≠ 0))
    (hreg : fi.faultOnRegister ≠ 0) :
    doInjectMemoryRegister env buf fi = (doInjectRegisterArm env buf fi, buf) := by
  rw [doInjectMemoryRegister, if_neg hbuf, if_pos hreg]

theorem doInjectMemoryRegister_of_cell
    (hbuf : ¬(fi.faultOnAddress ≠ 0 ∨ fi.accessTriggeredContentFault ≠ 0))
    (hreg : fi.faultOnRegister = 0) :
    doInjectMemoryRegister env buf fi = (doInjectMemoryArm env buf fi, buf) := by
  rw [doInjectMemoryRegister, if_neg hbuf, if_neg (by simp [hreg])]

end Branches

variable {fi : FaultInjectionInfo}

theorem doInjectMemoryBufferArm_bf (hbf : fi.bitFlip ≠ 0) (hi : i < 31)
    (hbit : fi.injectedBit = BitVec.ofNat 32 i) :
    doInjectMemoryBufferArm buf fi = buf ^^^ BitVec.twoPow 64 i := by
  rw [doInjectMemoryBufferArm, if_pos hbf, hbit, doInjectMemoryBufferArmBf_ofNat buf hi]

theorem registerTarget_doInjectRegisterArm_bf (hreg : (buf.setWidth 32).slt 16)
    (hbf : fi.bitFlip ≠ 0) (hi : i < 31) (hbit : fi.injectedBit = BitVec.ofNat 32 i) :
    registerTarget (doInjectRegisterArm env buf fi) (buf.setWidth 32) =
      registerTarget env (buf.setWidth 32) ^^^ BitVec.twoPow 32 i := by
  rw [doInjectRegisterArm, if_pos hbf, registerTarget_doInjectRegisterArmBf env hreg (by omega) hbit]

theorem cell_doInjectMemoryArm_bf (hbf : fi.bitFlip ≠ 0) (hi : i < 31)
    (hbit : fi.injectedBit = BitVec.ofNat 32 i) :
    ((doInjectMemoryArm env buf fi).cpuMemoryRwDebugRead buf memoryCellBytes).setWidth 16 =
      (env.cpuMemoryRwDebugRead buf memoryCellBytes).setWidth 16 ^^^ BitVec.twoPow 16 i := by
  rw [doInjectMemoryArm, if_pos hbf, hbit, cell_doInjectMemoryArmBf_ofNat env buf (by omega),
    setWidth_lowHalf_xor_twoPow]

theorem doInjectMemoryBufferArm_rs (hbf : fi.bitFlip = 0) (hnv : fi.newValue = 0) (hi : i < 31)
    (hbit : fi.injectedBit = BitVec.ofNat 32 i) :
    doInjectMemoryBufferArm buf fi =
      if fi.bitValue ≠ 0 then buf ||| BitVec.twoPow 64 i else buf &&& ~~~BitVec.twoPow 64 i := by
  rw [doInjectMemoryBufferArm, if_neg (by simp [hbf]), if_pos hnv,
    doInjectMemoryBufferArmRs_of_bit buf hi hbit]

theorem registerTarget_doInjectRegisterArm_rs (hreg : (buf.setWidth 32).slt 16)
    (hbf : fi.bitFlip = 0) (hnv : fi.newValue = 0) (hi : i < 31)
    (hbit : fi.injectedBit = BitVec.ofNat 32 i) :
    registerTarget (doInjectRegisterArm env buf fi) (buf.setWidth 32) =
      if fi.bitValue ≠ 0 then registerTarget env (buf.setWidth 32) ||| BitVec.twoPow 32 i
      else registerTarget env (buf.setWidth 32) &&& ~~~BitVec.twoPow 32 i := by
  rw [doInjectRegisterArm, if_neg (by simp [hbf]), if_pos hnv,
    registerTarget_doInjectRegisterArmRs env hreg (by omega) hbit]

theorem cell_doInjectMemoryArm_rs (hbf : fi.bitFlip = 0) (hnv : fi.newValue = 0) (hi : i < 31)
    (hbit : fi.injectedBit = BitVec.ofNat 32 i) :
    ((doInjectMemoryArm env buf fi).cpuMemoryRwDebugRead buf memoryCellBytes).setWidth 16 =
      if fi.bitValue ≠ 0 then
        (env.cpuMemoryRwDebugRead buf memoryCellBytes).setWidth 16 ||| BitVec.twoPow 16 i
      else (env.cpuMemoryRwDebugRead buf memoryCellBytes).setWidth 16 &&& ~~~BitVec.twoPow 16 i := by
  rw [doInjectMemoryArm, if_neg (by simp [hbf]), if_pos hnv,
    cell_doInjectMemoryArmRs_of_bit env buf (by omega) hbit]
  split
  · exact setWidth_lowHalf_or_twoPow _ i
  · exact setWidth_lowHalf_and_not_twoPow _ i

theorem doInjectMemoryBufferArm_newValue (hbf : fi.bitFlip = 0) (hnv : fi.newValue ≠ 0) :
    doInjectMemoryBufferArm buf fi = fi.bitValue.setWidth 64 := by
  rw [doInjectMemoryBufferArm, if_neg (by simp [hbf]), if_neg hnv, doInjectNewMemoryValueBufferArm]

theorem registerTarget_doInjectRegisterArm_newValue (hreg : (buf.setWidth 32).slt 16)
    (hbf : fi.bitFlip = 0) (hnv : fi.newValue ≠ 0) :
    registerTarget (doInjectRegisterArm env buf fi) (buf.setWidth 32) = fi.bitValue := by
  rw [doInjectRegisterArm, if_neg (by simp [hbf]), if_neg hnv,
    registerTarget_doInjectNewRegisterValueArm _ hreg]

theorem cell_doInjectMemoryArm_newValue (hbf : fi.bitFlip = 0) (hnv : fi.newValue ≠ 0) :
    (doInjectMemoryArm env buf fi).cpuMemoryRwDebugRead buf memoryCellBytes =
      fi.bitValue &&& 0xFFFF := by
  rw [doInjectMemoryArm, if_neg (by simp [hbf]), if_neg hnv, cell_doInjectNewMemoryValueArm]

end Passes

/-! ## The loop of `_bf` and `_rs` -/

theorem lt_thirtyOne_of_msb {mask : BitVec 32} (hmsb : mask.msb = false) {i : Nat} (hi : i < 32)
    (hmi : mask.getLsbD i = true) : i < 31 := by
  by_contra hge
  have h31 : i = 31 := by omega
  rw [BitVec.msb_eq_getLsbD_last, show 32 - 1 = i by omega, hmi] at hmsb
  exact Bool.noConfusion hmsb

theorem incrNumInjectedFaults_of_marked {st : Statistics} {id : BitVec 32} (faultType : String)
    (h : st.idArray (id - 1) = true) : incrNumInjectedFaults st id faultType = st := by
  simp only [incrNumInjectedFaults, h, if_true]

theorem incrNumInjectedFaults_idem (st : Statistics) (id : BitVec 32) {faultType : String}
    (hknown : faultType ∈ faultTypes) :
    incrNumInjectedFaults (incrNumInjectedFaults st id faultType) id faultType =
      incrNumInjectedFaults st id faultType := by
  apply incrNumInjectedFaults_of_marked
  rcases incrNumInjectedFaults_of_known st id hknown with ⟨hmark, heq⟩ | ⟨-, -, -, harr⟩
  · rw [heq]
    exact hmark
  · rw [harr]
    exact Function.update_self _ _ _

theorem injectionCategory_mem (fiInfo : FaultInjectionInfo) (a : Activation) :
    injectionCategory fiInfo a.kind ∈ faultTypes := by
  unfold injectionCategory
  cases a <;> split <;> simp [Activation.kind, faultTypes]

theorem injectOnce_eq (c : Controller) (buf : BitVec 64) (fault : Fault)
    (fiInfo : FaultInjectionInfo) (kind : String) :
    injectOnce c buf fault fiInfo kind =
      ({ c with
          env := (doInjectMemoryRegister c.env buf fiInfo).1
          stats := incrNumInjectedFaults c.stats fault.id (injectionCategory fiInfo kind) },
        (doInjectMemoryRegister c.env buf fiInfo).2) :=
  rfl

theorem injectOnce_snd_of_not_buffer {c : Controller} {buf : BitVec 64} {fault : Fault}
    {fiInfo : FaultInjectionInfo} {kind : String}
    (hbuf : ¬(fiInfo.faultOnAddress ≠ 0 ∨ fiInfo.accessTriggeredContentFault ≠ 0)) :
    (injectOnce c buf fault fiInfo kind).2 = buf := by
  simp only [injectOnce_eq, doInjectMemoryRegister, if_neg hbuf]
  split <;> rfl

theorem foldl_injectOnce (fault : Fault) (kind : String) (pass : Nat → FaultInjectionInfo)
    {category : String} (hcategory : ∀ i, injectionCategory (pass i) kind = category)
    (hknown : category ∈ faultTypes) (bits : List Nat) (cb : Controller × BitVec 64) :
    (bits.foldl (fun cb i => injectOnce cb.1 cb.2 fault (pass i) kind) cb).1 =
      { cb.1 with
        env := (bits.foldl (fun cb i => injectOnce cb.1 cb.2 fault (pass i) kind) cb).1.env
        stats := if bits = [] then cb.1.stats
          else incrNumInjectedFaults cb.1.stats fault.id category } := by
  induction bits generalizing cb with
  | nil => rfl
  | cons i bits ih =>
      rw [List.foldl_cons, ih]
      have hstats : (if bits = [] then (injectOnce cb.1 cb.2 fault (pass i) kind).1.stats
          else incrNumInjectedFaults (injectOnce cb.1 cb.2 fault (pass i) kind).1.stats fault.id
            category) = incrNumInjectedFaults cb.1.stats fault.id category := by
        split <;> simp [injectOnce_eq, hcategory, incrNumInjectedFaults_idem _ _ hknown]
      rw [hstats, if_neg (List.cons_ne_nil i bits)]
      rfl

/-- The loop `_bf` and `_rs` share: one injection per set bit of the mask, with
the flags `pass setBit`. -/
def injectionLoop (c : Controller) (buf : BitVec 64) (fault : Fault)
    (pass : BitVec 32 → FaultInjectionInfo) (kind : String) : Controller × BitVec 64 :=
  forEachSetBit
    (fun (cb : Controller × BitVec 64) setBit => injectOnce cb.1 cb.2 fault (pass setBit) kind)
    fault.params.mask (c, buf)

theorem faultInjectionControllerBf_eq (c : Controller) (addr : BitVec 64) (fault : Fault)
    (fiInfo : FaultInjectionInfo) (pc : BitVec 32) :
    faultInjectionControllerBf c addr fault fiInfo pc =
      activateAndInject c addr fault pc fun kind => injectionLoop c addr fault
        (fun setBit => { fiInfo with bitFlip := 1, injectedBit := log2OfIntBit setBit }) kind :=
  rfl

theorem faultInjectionControllerRs_eq (c : Controller) (addr : BitVec 64) (fault : Fault)
    (fiInfo : FaultInjectionInfo) (pc : BitVec 32) :
    faultInjectionControllerRs c addr fault fiInfo pc =
      activateAndInject c addr fault pc fun kind => injectionLoop c addr fault
        (fun setBit => { fiInfo with
          bitFlip := 0
          injectedBit := log2OfIntBit setBit
          bitValue := if fault.params.setBit &&& setBit ≠ 0 then 1 else 0 }) kind :=
  rfl

section Loop

variable {c : Controller} {buf : BitVec 64} {fault : Fault} {pass : BitVec 32 → FaultInjectionInfo}
  {kind : String}

theorem injectionLoop_fst {category : String}
    (hcategory : ∀ b, injectionCategory (pass b) kind = category) (hknown : category ∈ faultTypes) :
    (injectionLoop c buf fault pass kind).1 = { c with
      env := (injectionLoop c buf fault pass kind).1.env
      stats := if fault.params.mask = 0 then c.stats
        else incrNumInjectedFaults c.stats fault.id category } := by
  unfold injectionLoop
  rw [forEachSetBit_eq_foldl, foldl_injectOnce fault kind _ (fun i => hcategory _) hknown]
  simp only [setBits_eq_nil_iff]

theorem injectionLoop_env_of_buffer
    (hbuf : ∀ b, (pass b).faultOnAddress ≠ 0 ∨ (pass b).accessTriggeredContentFault ≠ 0) :
    (injectionLoop c buf fault pass kind).1.env = c.env := by
  refine forEachSetBit_invariant (fun (cb : Controller × BitVec 64) => cb.1.env = c.env) _ _ rfl ?_
  intro s b hs
  simp only [injectOnce_eq, doInjectMemoryRegister_of_buffer _ _ _ (hbuf b), hs]

theorem injectionLoop_snd_of_cell
    (hbuf : ∀ b, ¬((pass b).faultOnAddress ≠ 0 ∨ (pass b).accessTriggeredContentFault ≠ 0)) :
    (injectionLoop c buf fault pass kind).2 = buf := by
  refine forEachSetBit_invariant (fun (cb : Controller × BitVec 64) => cb.2 = buf) _ _ rfl ?_
  intro s b hs
  exact (injectOnce_snd_of_not_buffer (hbuf b)).trans hs

section Words

variable (hmsb : fault.params.mask.msb = false)
  (hbit : ∀ i, i < 31 → (pass (BitVec.twoPow 32 i)).injectedBit = BitVec.ofNat 32 i)
include hmsb hbit

theorem injectionLoop_buffer_bf
    (hbuf : ∀ b, (pass b).faultOnAddress ≠ 0 ∨ (pass b).accessTriggeredContentFault ≠ 0)
    (hbf : ∀ b, (pass b).bitFlip ≠ 0) :
    (injectionLoop c buf fault pass kind).2 = buf ^^^ fault.params.mask.setWidth 64 := by
  refine forEachSetBit_xor Prod.snd (fun _ => True) _ _ (fun _ _ _ => trivial) ?_ (c, buf) trivial
  intro s _ i hi hmi
  have hi' := lt_thirtyOne_of_msb hmsb hi hmi
  simp only [injectOnce_eq, doInjectMemoryRegister_of_buffer _ _ _ (hbuf _),
    doInjectMemoryBufferArm_bf _ (hbf _) hi' (hbit i hi')]

theorem injectionLoop_buffer_rs {setBit : BitVec 32}
    (hbuf : ∀ b, (pass b).faultOnAddress ≠ 0 ∨ (pass b).accessTriggeredContentFault ≠ 0)
    (hbf : ∀ b, (pass b).bitFlip = 0) (hnv : ∀ b, (pass b).newValue = 0)
    (hval : ∀ i, i < 32 → ((pass (BitVec.twoPow 32 i)).bitValue ≠ 0 ↔ setBit.getLsbD i = true)) :
    (injectionLoop c buf fault pass kind).2 =
      merge (setBit.setWidth 64) (fault.params.mask.setWidth 64) buf := by
  refine forEachSetBit_merge Prod.snd (fun _ => True) _ _ setBit (fun _ _ _ => trivial) ?_ (c, buf)
    trivial
  intro s _ i hi hmi
  have hi' := lt_thirtyOne_of_msb hmsb hi hmi
  simp only [injectOnce_eq, doInjectMemoryRegister_of_buffer _ _ _ (hbuf _),
    doInjectMemoryBufferArm_rs _ (hbf _) (hnv _) hi' (hbit i hi'), hval i hi]

variable (hbuf : ∀ b, ¬((pass b).faultOnAddress ≠ 0 ∨ (pass b).accessTriggeredContentFault ≠ 0))
include hbuf

theorem injectionLoop_register_bf (hreg : ∀ b, (pass b).faultOnRegister ≠ 0)
    (hnum : (buf.setWidth 32).slt 16) (hbf : ∀ b, (pass b).bitFlip ≠ 0) :
    registerTarget (injectionLoop c buf fault pass kind).1.env (buf.setWidth 32) =
      registerTarget c.env (buf.setWidth 32) ^^^ fault.params.mask := by
  have hloop := forEachSetBit_xor
    (fun (cb : Controller × BitVec 64) => registerTarget cb.1.env (buf.setWidth 32))
    (fun cb => cb.2 = buf)
    (fun (cb : Controller × BitVec 64) setBit => injectOnce cb.1 cb.2 fault (pass setBit) kind)
    fault.params.mask ?_ ?_ (c, buf) rfl
  · rw [BitVec.setWidth_eq] at hloop
    exact hloop
  · intro s b hs
    exact (injectOnce_snd_of_not_buffer (hbuf b)).trans hs
  · rintro ⟨s, sbuf⟩ (rfl : sbuf = buf) i hi hmi
    have hi' := lt_thirtyOne_of_msb hmsb hi hmi
    simp only [injectOnce_eq, doInjectMemoryRegister_of_register _ _ _ (hbuf _) (hreg _)]
    exact registerTarget_doInjectRegisterArm_bf _ _ hnum (hbf _) hi' (hbit i hi')

theorem injectionLoop_register_rs {setBit : BitVec 32} (hreg : ∀ b, (pass b).faultOnRegister ≠ 0)
    (hnum : (buf.setWidth 32).slt 16) (hbf : ∀ b, (pass b).bitFlip = 0) (hnv : ∀ b, (pass b).newValue = 0)
    (hval : ∀ i, i < 32 → ((pass (BitVec.twoPow 32 i)).bitValue ≠ 0 ↔ setBit.getLsbD i = true)) :
    registerTarget (injectionLoop c buf fault pass kind).1.env (buf.setWidth 32) =
      merge setBit fault.params.mask (registerTarget c.env (buf.setWidth 32)) := by
  have hloop := forEachSetBit_merge
    (fun (cb : Controller × BitVec 64) => registerTarget cb.1.env (buf.setWidth 32))
    (fun cb => cb.2 = buf)
    (fun (cb : Controller × BitVec 64) setBit => injectOnce cb.1 cb.2 fault (pass setBit) kind)
    fault.params.mask setBit ?_ ?_ (c, buf) rfl
  · rw [BitVec.setWidth_eq, BitVec.setWidth_eq] at hloop
    exact hloop
  · intro s b hs
    exact (injectOnce_snd_of_not_buffer (hbuf b)).trans hs
  · rintro ⟨s, sbuf⟩ (rfl : sbuf = buf) i hi hmi
    have hi' := lt_thirtyOne_of_msb hmsb hi hmi
    simp only [injectOnce_eq, doInjectMemoryRegister_of_register _ _ _ (hbuf _) (hreg _)]
    rw [registerTarget_doInjectRegisterArm_rs _ _ hnum (hbf _) (hnv _) hi' (hbit i hi')]
    simp only [hval i hi]

theorem injectionLoop_cell_bf (hreg : ∀ b, (pass b).faultOnRegister = 0)
    (hbf : ∀ b, (pass b).bitFlip ≠ 0) :
    (injectionLoop c buf fault pass kind).1.env.cpuMemoryRwDebugRead buf memoryCellBytes =
      (c.env.cpuMemoryRwDebugRead buf memoryCellBytes ^^^ fault.params.mask) &&& 0xFFFF := by
  apply cpuMemoryRwDebugRead_cell_eq
  have hloop := forEachSetBit_xor
    (fun (cb : Controller × BitVec 64) =>
      (cb.1.env.cpuMemoryRwDebugRead buf memoryCellBytes).setWidth 16)
    (fun cb => cb.2 = buf)
    (fun (cb : Controller × BitVec 64) setBit => injectOnce cb.1 cb.2 fault (pass setBit) kind)
    fault.params.mask ?_ ?_ (c, buf) rfl
  · rw [BitVec.setWidth_xor]
    exact hloop
  · intro s b hs
    exact (injectOnce_snd_of_not_buffer (hbuf b)).trans hs
  · rintro ⟨s, sbuf⟩ (rfl : sbuf = buf) i hi hmi
    have hi' := lt_thirtyOne_of_msb hmsb hi hmi
    simp only [injectOnce_eq, doInjectMemoryRegister_of_cell _ _ _ (hbuf _) (hreg _)]
    exact cell_doInjectMemoryArm_bf _ _ (hbf _) hi' (hbit i hi')

theorem injectionLoop_cell_rs {setBit : BitVec 32} (hreg : ∀ b, (pass b).faultOnRegister = 0)
    (hbf : ∀ b, (pass b).bitFlip = 0) (hnv : ∀ b, (pass b).newValue = 0)
    (hval : ∀ i, i < 32 → ((pass (BitVec.twoPow 32 i)).bitValue ≠ 0 ↔ setBit.getLsbD i = true)) :
    (injectionLoop c buf fault pass kind).1.env.cpuMemoryRwDebugRead buf memoryCellBytes =
      merge setBit fault.params.mask (c.env.cpuMemoryRwDebugRead buf memoryCellBytes) &&&
        0xFFFF := by
  apply cpuMemoryRwDebugRead_cell_eq
  have hloop := forEachSetBit_merge
    (fun (cb : Controller × BitVec 64) =>
      (cb.1.env.cpuMemoryRwDebugRead buf memoryCellBytes).setWidth 16)
    (fun cb => cb.2 = buf)
    (fun (cb : Controller × BitVec 64) setBit => injectOnce cb.1 cb.2 fault (pass setBit) kind)
    fault.params.mask setBit ?_ ?_ (c, buf) rfl
  · rw [setWidth_merge]
    exact hloop
  · intro s b hs
    exact (injectOnce_snd_of_not_buffer (hbuf b)).trans hs
  · rintro ⟨s, sbuf⟩ (rfl : sbuf = buf) i hi hmi
    have hi' := lt_thirtyOne_of_msb hmsb hi hmi
    simp only [injectOnce_eq, doInjectMemoryRegister_of_cell _ _ _ (hbuf _) (hreg _)]
    rw [cell_doInjectMemoryArm_rs _ _ (hbf _) (hnv _) hi' (hbit i hi')]
    simp only [hval i hi]

end Words

end Loop

/-! ## The three value handlers -/

/-- What an injecting value handler leaves: only the machine and the counters
change, the fault is credited once (the loops of BIT-FLIP and SF credit nothing
for an empty mask), and the target `do_inject_memory_register` chooses holds
the word `maskWord` describes: the buffer in full, a register numbered below 16,
or the 16 bits of a memory cell.  From 16 on the register is the CPSR, which
`cpsr_write` may keep from taking the word. -/
structure MaskInjected (mode : String) (c : Controller) (addr : BitVec 64) (fault : Fault)
    (fiInfo : FaultInjectionInfo) (kind : String) (c' : Controller) (buf' : BitVec 64) : Prop where
  frame : c' = { c with env := c'.env, stats := c'.stats }
  stats : c'.stats = if mode ≠ "NEW VALUE" ∧ fault.params.mask = 0 then c.stats
    else incrNumInjectedFaults c.stats fault.id (injectionCategory fiInfo kind)
  buffer : fiInfo.faultOnAddress ≠ 0 ∨ fiInfo.accessTriggeredContentFault ≠ 0 →
    c'.env = c.env ∧
      buf' = maskWord mode (fault.params.mask.setWidth 64) (fault.params.setBit.setWidth 64) addr
  register : ¬(fiInfo.faultOnAddress ≠ 0 ∨ fiInfo.accessTriggeredContentFault ≠ 0) →
    fiInfo.faultOnRegister ≠ 0 → (addr.setWidth 32).slt 16 → buf' = addr ∧
      registerTarget c'.env (addr.setWidth 32) =
        maskWord mode fault.params.mask fault.params.setBit (registerTarget c.env (addr.setWidth 32))
  cell : ¬(fiInfo.faultOnAddress ≠ 0 ∨ fiInfo.accessTriggeredContentFault ≠ 0) →
    fiInfo.faultOnRegister = 0 → buf' = addr ∧
      c'.env.cpuMemoryRwDebugRead addr memoryCellBytes =
        maskWord mode fault.params.mask fault.params.setBit
          (c.env.cpuMemoryRwDebugRead addr memoryCellBytes) &&& 0xFFFF

theorem Controller.eq_with_env_stats {c c' : Controller} {env : Machine} {stats : Statistics}
    (h : c' = { c with env, stats }) : c' = { c with env := c'.env, stats := c'.stats } := by
  subst h
  rfl

section Handlers

variable {c : Controller} {addr : BitVec 64} {fault : Fault} {fiInfo : FaultInjectionInfo}
  {pc : BitVec 32} {a : Activation}

theorem faultInjectionControllerBf_injected
    (ha : faultActivation fault pc (getTimer c) = .ok a) (hinj : a.injects = true)
    (hmsb : fault.params.mask.msb = false) :
    ∃ c' buf', faultInjectionControllerBf c addr fault fiInfo pc =
        .ok (c', buf', { fault with isActive := true }) ∧
      MaskInjected "BIT-FLIP" c addr fault fiInfo a.kind c' buf' := by
  rw [faultInjectionControllerBf_eq, activateAndInject_of_injects ha hinj]
  refine ⟨_, _, rfl, ?_⟩
  have hbit : ∀ i, i < 31 →
      ({ fiInfo with bitFlip := 1, injectedBit := log2OfIntBit (BitVec.twoPow 32 i) } :
        FaultInjectionInfo).injectedBit = BitVec.ofNat 32 i :=
    fun i hi => log2OfIntBit_twoPow hi
  have hfst := @injectionLoop_fst c addr fault
    (fun setBit => { fiInfo with bitFlip := 1, injectedBit := log2OfIntBit setBit }) a.kind _
    (fun _ => rfl) (injectionCategory_mem fiInfo a)
  have hone : (1 : BitVec 32) ≠ 0 := by decide
  refine ⟨Controller.eq_with_env_stats hfst, ?_, ?_, ?_, ?_⟩
  · rw [congrArg Controller.stats hfst]
    simp
  · intro hbuf
    exact ⟨injectionLoop_env_of_buffer fun _ => hbuf,
      injectionLoop_buffer_bf hmsb hbit (fun _ => hbuf) fun _ => hone⟩
  · intro hbuf hreg hnum
    exact ⟨injectionLoop_snd_of_cell fun _ => hbuf,
      injectionLoop_register_bf hmsb hbit (fun _ => hbuf) (fun _ => hreg) hnum fun _ => hone⟩
  · intro hbuf hreg
    exact ⟨injectionLoop_snd_of_cell fun _ => hbuf,
      injectionLoop_cell_bf hmsb hbit (fun _ => hbuf) (fun _ => hreg) fun _ => hone⟩

theorem rsBitValue_ne_zero (setBit : BitVec 32) {i : Nat} (hi : i < 32) :
    ((if setBit &&& BitVec.twoPow 32 i ≠ 0 then (1 : BitVec 32) else 0) ≠ 0) ↔
      setBit.getLsbD i = true := by
  rw [← and_twoPow_ne_zero hi]
  split
  · rename_i hbit
    exact ⟨fun _ => hbit, fun _ => by decide⟩
  · rename_i hbit
    exact ⟨fun hzero => absurd rfl hzero, fun hset => absurd hset hbit⟩

theorem faultInjectionControllerRs_injected
    (ha : faultActivation fault pc (getTimer c) = .ok a) (hinj : a.injects = true)
    (hmsb : fault.params.mask.msb = false) (hnv : fiInfo.newValue = 0) :
    ∃ c' buf', faultInjectionControllerRs c addr fault fiInfo pc =
        .ok (c', buf', { fault with isActive := true }) ∧
      MaskInjected "SF" c addr fault fiInfo a.kind c' buf' := by
  rw [faultInjectionControllerRs_eq, activateAndInject_of_injects ha hinj]
  refine ⟨_, _, rfl, ?_⟩
  set pass : BitVec 32 → FaultInjectionInfo := fun setBit => { fiInfo with
    bitFlip := 0
    injectedBit := log2OfIntBit setBit
    bitValue := if fault.params.setBit &&& setBit ≠ 0 then 1 else 0 } with hpass
  have hbit : ∀ i, i < 31 → (pass (BitVec.twoPow 32 i)).injectedBit = BitVec.ofNat 32 i :=
    fun i hi => log2OfIntBit_twoPow hi
  have hval : ∀ i, i < 32 →
      ((pass (BitVec.twoPow 32 i)).bitValue ≠ 0 ↔ fault.params.setBit.getLsbD i = true) :=
    fun i hi => rsBitValue_ne_zero fault.params.setBit hi
  have hfst := @injectionLoop_fst c addr fault pass a.kind _ (fun _ => rfl)
    (injectionCategory_mem fiInfo a)
  refine ⟨Controller.eq_with_env_stats hfst, ?_, ?_, ?_, ?_⟩
  · rw [congrArg Controller.stats hfst]
    simp
  · intro hbuf
    refine ⟨injectionLoop_env_of_buffer fun _ => hbuf, ?_⟩
    rw [maskWord_sf]
    exact injectionLoop_buffer_rs hmsb hbit (fun _ => hbuf) (fun _ => rfl) (fun _ => hnv) hval
  · intro hbuf hreg hnum
    refine ⟨injectionLoop_snd_of_cell fun _ => hbuf, ?_⟩
    rw [maskWord_sf]
    exact injectionLoop_register_rs hmsb hbit (fun _ => hbuf) (fun _ => hreg) hnum (fun _ => rfl)
      (fun _ => hnv) hval
  · intro hbuf hreg
    refine ⟨injectionLoop_snd_of_cell fun _ => hbuf, ?_⟩
    rw [maskWord_sf]
    exact injectionLoop_cell_rs hmsb hbit (fun _ => hbuf) (fun _ => hreg) (fun _ => rfl)
      (fun _ => hnv) hval

theorem faultInjectionControllerNewValue_eq (c : Controller) (addr : BitVec 64) (fault : Fault)
    (fiInfo : FaultInjectionInfo) (pc : BitVec 32) :
    faultInjectionControllerNewValue c addr fault fiInfo pc =
      activateAndInject c addr fault pc fun kind => injectOnce c addr fault
        { fiInfo with bitFlip := 0, newValue := 1, bitValue := fault.params.mask } kind :=
  rfl

theorem faultInjectionControllerNewValue_injected
    (ha : faultActivation fault pc (getTimer c) = .ok a) (hinj : a.injects = true) :
    ∃ c' buf', faultInjectionControllerNewValue c addr fault fiInfo pc =
        .ok (c', buf', { fault with isActive := true }) ∧
      MaskInjected "NEW VALUE" c addr fault fiInfo a.kind c' buf' := by
  rw [faultInjectionControllerNewValue_eq, activateAndInject_of_injects ha hinj]
  refine ⟨_, _, rfl, ?_⟩
  set fi : FaultInjectionInfo :=
    { fiInfo with bitFlip := 0, newValue := 1, bitValue := fault.params.mask } with hfi
  have hbf : fi.bitFlip = 0 := rfl
  have hnv : fi.newValue ≠ 0 := (by decide : (1 : BitVec 32) ≠ 0)
  refine ⟨Controller.eq_with_env_stats (congrArg Prod.fst (injectOnce_eq c addr fault fi a.kind)),
    ?_, ?_, ?_, ?_⟩
  · show incrNumInjectedFaults c.stats fault.id (injectionCategory fiInfo a.kind) = _
    rw [if_neg (by simp)]
  · intro hbuf
    simp only [injectOnce_eq, doInjectMemoryRegister_of_buffer _ _ fi hbuf,
      doInjectMemoryBufferArm_newValue _ hbf hnv, maskWord_newValue]
    exact ⟨trivial, rfl⟩
  · intro hbuf hreg hnum
    simp only [injectOnce_eq, doInjectMemoryRegister_of_register _ _ fi hbuf hreg,
      registerTarget_doInjectRegisterArm_newValue _ _ hnum hbf hnv, maskWord_newValue]
    exact ⟨trivial, rfl⟩
  · intro hbuf hreg
    simp only [injectOnce_eq, doInjectMemoryRegister_of_cell _ _ fi hbuf hreg,
      cell_doInjectMemoryArm_newValue _ _ hbf hnv, maskWord_newValue]
    exact ⟨trivial, rfl⟩

end Handlers

theorem valueFaultHandler_injected {mode : String}
    {h : Controller → BitVec 64 → Fault → FaultInjectionInfo → BitVec 32 →
      Except CError (Controller × BitVec 64 × Fault)}
    {c : Controller} {addr : BitVec 64} {fault : Fault} {fiInfo : FaultInjectionInfo}
    {pc : BitVec 32} {a : Activation} (hmode : valueFaultHandler mode = some h)
    (ha : faultActivation fault pc (getTimer c) = .ok a) (hinj : a.injects = true)
    (hmsb : fault.params.mask.msb = false) (hnv : fiInfo.newValue = 0) :
    ∃ c' buf', h c addr fault fiInfo pc = .ok (c', buf', { fault with isActive := true }) ∧
      MaskInjected mode c addr fault fiInfo a.kind c' buf' := by
  rcases valueFaultHandler_eq_some hmode with ⟨rfl, rfl⟩ | ⟨rfl, rfl⟩ | ⟨rfl, rfl⟩
  · exact faultInjectionControllerBf_injected ha hinj hmsb
  · exact faultInjectionControllerNewValue_injected ha hinj
  · exact faultInjectionControllerRs_injected ha hinj hmsb hnv

/-- Each of the three value handlers, with `new_value` clear, injects the word
`maskWord` describes for every mask whose bit 31 is clear. -/
theorem valueHandler_mask_word {c : Controller} {addr : BitVec 64} {fault : Fault}
    {fiInfo : FaultInjectionInfo} {pc : BitVec 32} {a : Activation}
    (ha : faultActivation fault pc (getTimer c) = .ok a) (hinj : a.injects = true)
    (hmsb : fault.params.mask.msb = false) (hnv : fiInfo.newValue = 0) :
    (∃ c' buf', faultInjectionControllerBf c addr fault fiInfo pc =
        .ok (c', buf', { fault with isActive := true }) ∧
      MaskInjected "BIT-FLIP" c addr fault fiInfo a.kind c' buf') ∧
    (∃ c' buf', faultInjectionControllerRs c addr fault fiInfo pc =
        .ok (c', buf', { fault with isActive := true }) ∧
      MaskInjected "SF" c addr fault fiInfo a.kind c' buf') ∧
    (∃ c' buf', faultInjectionControllerNewValue c addr fault fiInfo pc =
        .ok (c', buf', { fault with isActive := true }) ∧
      MaskInjected "NEW VALUE" c addr fault fiInfo a.kind c' buf') :=
  ⟨faultInjectionControllerBf_injected ha hinj hmsb, faultInjectionControllerRs_injected ha hinj hmsb hnv,
    faultInjectionControllerNewValue_injected ha hinj⟩

def maskFiveFault : Fault :=
  Fault.permanent "ACCESS" "RAM" "MEMORY CELL" "BIT-FLIP" ⟨0x100, -1, 5, -1, -1⟩

theorem valueHandler_mask_word_bitFlip :
    faultActivation maskFiveFault 0 (getTimer (Controller.loaded Machine.zero [])) = .ok .permanent ∧
      Activation.permanent.injects = true ∧ maskFiveFault.params.mask.msb = false ∧
      ({ FaultInjectionInfo.zero with accessTriggeredContentFault := 1 } :
        FaultInjectionInfo).newValue = 0 ∧
      ∃ c' buf', faultInjectionControllerBf (Controller.loaded Machine.zero []) 0x100 maskFiveFault
          { FaultInjectionInfo.zero with accessTriggeredContentFault := 1 } 0 =
          .ok (c', buf', { maskFiveFault with isActive := true }) ∧
        MaskInjected "BIT-FLIP" (Controller.loaded Machine.zero []) 0x100 maskFiveFault
          { FaultInjectionInfo.zero with accessTriggeredContentFault := 1 }
          Activation.permanent.kind c' buf' :=
  have ha : faultActivation maskFiveFault 0 (getTimer (Controller.loaded Machine.zero [])) =
      .ok .permanent := by
    simp [faultActivation, maskFiveFault, Fault.permanent]
  ⟨ha, rfl, by decide, rfl, (valueHandler_mask_word ha rfl (by decide) rfl).1⟩

/-- Bit 31 of a mask goes to bit 0, NEW VALUE clears the upper half of the
buffer, and register 16 is the CPSR: BIT-FLIP with the mask `0x80000000` turns
the buffer 0 into 1, NEW VALUE with the mask 5 turns `0xFFFFFFFF00000000` into
5, and BIT-FLIP with the mask `0x10` on register 16 asks for the invalid mode
`0x03`, so the reset CPSR `0x1d3` stays as it is. -/
theorem maskFault_bit31_and_newValue_high_half :
    (faultInjectionControllerBf (Controller.loaded Machine.zero []) 0
        (Fault.permanent "ACCESS" "RAM" "MEMORY CELL" "BIT-FLIP" ⟨0x100, -1, 0x80000000, -1, -1⟩)
        { FaultInjectionInfo.zero with accessTriggeredContentFault := 1 } 0).map (·.2.1) =
        .ok 1 ∧
      (faultInjectionControllerNewValue (Controller.loaded Machine.zero []) 0xFFFFFFFF00000000
        (Fault.permanent "ACCESS" "RAM" "MEMORY CELL" "NEW VALUE" ⟨0x100, -1, 5, -1, -1⟩)
        { FaultInjectionInfo.zero with accessTriggeredContentFault := 1 } 0).map (·.2.1) =
        .ok 5 ∧
      Machine.zero.cpsr = 0x1d3 ∧
      (faultInjectionControllerBf (Controller.loaded Machine.zero []) 16
        (Fault.permanent "ACCESS" "REGISTER" "REGISTER CELL" "BIT-FLIP" ⟨16, -1, 0x10, -1, -1⟩)
        { FaultInjectionInfo.zero with faultOnRegister := 1 } 0).map (·.1.env.cpsr) = .ok 0x1d3 := by
  decide +kernel

end Fies
