import Fies.Dispatch
import Fies.FaultLibrary

/-!
# The hooks: softmmu helpers, register helpers and the translator

Where the emulator calls `fault_injection_controller_init`.  The softmmu load
and store helpers of `softmmu_template.h` are modelled on RAM: the TLB always
hits after `tlb_fill`, and an access that runs past the end of its 1 KiB page
takes the slow path.  The guest is little endian, so its loads go through
`helper_le_ld_name`, whose address hook is commented out; the little-endian
store helper copies the decoded address back, the big-endian one does not.
A split little-endian store passes each byte through the content hook and
then through `helper_ret_stb`, which runs both hooks again.

Each helper keeps a `DATA_TYPE` of `size` bytes in a word; the hooks see it
through a `uint32_t *` whose bytes past `size` are taken as 0.

`load_reg` and `store_reg` of `translate.c` ask the register decoder hook for
a register number, hand it to the content hooks, and then read or write the
register they were given.
-/

namespace Fies

open CRuntime Machine

/-- `TARGET_PAGE_SIZE` of the ARM system emulator (`TARGET_PAGE_BITS` is 10). -/
def targetPageSize : Nat := 1024

/-- The slow-path test `DATA_SIZE > 1 && (addr & ~TARGET_PAGE_MASK) + DATA_SIZE - 1
>= TARGET_PAGE_SIZE`. -/
def crossesPage (size : Nat) (addr : BitVec 32) : Bool :=
  1 < size && decide (addr.toNat % targetPageSize + size - 1 ≥ targetPageSize)

/-- A value cast to a `DATA_TYPE` of `size` bytes. -/
def truncBytes (size : Nat) (v : BitVec 32) : BitVec 32 :=
  v &&& BitVec.ofNat 32 (2 ^ (8 * size) - 1)

theorem getLsbD_truncBytes (size : Nat) (v : BitVec 32) (i : Nat) :
    (truncBytes size v).getLsbD i = (v.getLsbD i && decide (i < 8 * size)) := by
  by_cases hi : i < 32
  · simp only [truncBytes, BitVec.getLsbD_and, BitVec.getLsbD_ofNat, Nat.testBit_two_pow_sub_one,
      hi, decide_true, Bool.true_and]
  · simp [BitVec.getLsbD_of_ge _ _ (by omega : 32 ≤ i)]

theorem writeBytes_truncBytes (env : Machine) (addr v : BitVec 32) (size : Nat) :
    env.writeBytes addr (truncBytes size v) size = env.writeBytes addr v size :=
  writeBytes_congr_of_getLsbD env addr _ _ size
    (fun i hi => by simp [getLsbD_truncBytes, hi])

/-- `bswap` of the low `size` bytes. -/
def byteSwap : Nat → BitVec 32 → BitVec 32
  | 0, _ => 0
  | n + 1, v => ((v &&& 0xFF) <<< (8 * n)) ||| byteSwap n (v >>> 8)

/-! ## Loads -/

/-- The aligned or same-page path of `helper_le_ld_name`: the bytes are read,
then the content hook sees them at `addr64`. -/
def helperLeLdInPage (size : Nat) (c : Controller) (addr64 : BitVec 64) :
    Except CError (Controller × BitVec 32) := do
  let res := c.env.readBytes (addr64.setWidth 32) size
  let (c, _, res) ← faultInjectionControllerInit c true addr64 res .fiMemoryContent .readAccessType
  pure (c, truncBytes size res)

/-- `helper_le_ld_name(env, addr, mmu_idx, retaddr)`.  There is no address
hook.  A page-crossing load reads the two aligned words around it (an aligned
load never crosses a page, so the recursive calls take the direct path),
combines them and runs the content hook on the result. -/
def helperLeLd (size : Nat) (c : Controller) (addr : BitVec 32) :
    Except CError (Controller × BitVec 32) := do
  if crossesPage size addr then
    let addr1 := addr &&& ~~~(BitVec.ofNat 32 (size - 1))
    let addr2 := addr1 + BitVec.ofNat 32 size
    let (c, res1) ← helperLeLdInPage size c (addr1.setWidth 64)
    let (c, res2) ← helperLeLdInPage size c (addr2.setWidth 64)
    let shift := (addr.toNat % size) * 8
    let res := truncBytes size ((res1 >>> shift) ||| (res2 <<< (size * 8 - shift)))
    let (c, _, res) ←
      faultInjectionControllerInit c true (addr.setWidth 64) res .fiMemoryContent .readAccessType
    pure (c, truncBytes size res)
  else helperLeLdInPage size c (addr.setWidth 64)

/-! ## Stores -/

/-- `helper_ret_stb_mmu`, the one-byte instance of `helper_le_st_name`: the
address hook, then the content hook at the decoded address, then the byte. -/
def helperRetStb (c : Controller) (addr : BitVec 32) (val : BitVec 32) :
    Except CError Controller := do
  let (c, addr64, _) ←
    faultInjectionControllerInit c true (addr.setWidth 64) 0 .fiMemoryAddr .writeAccessType
  let (c, _, val) ←
    faultInjectionControllerInit c true addr64 (truncBytes 1 val) .fiMemoryContent .writeAccessType
  pure { c with env := c.env.writeBytes (addr64.setWidth 32) (truncBytes 1 val) 1 }

/-- `helper_le_st_name(env, addr, val, mmu_idx, retaddr)`.  The decoded address
is copied back.  A page-crossing store goes byte by byte from the last: each
byte through the content hook at `addr + i`, then through `helper_ret_stb`. -/
def helperLeSt (size : Nat) (c : Controller) (addr : BitVec 32) (val : BitVec 32) :
    Except CError Controller := do
  let val := truncBytes size val
  let (c, addr64, _) ←
    faultInjectionControllerInit c true (addr.setWidth 64) 0 .fiMemoryAddr .writeAccessType
  let addr := addr64.setWidth 32
  if crossesPage size addr then
    (List.range size).reverse.foldlM
      (fun c i => do
        let temp := addr + BitVec.ofNat 32 i
        let val8 := truncBytes 1 (val >>> (i * 8))
        let (c, _, val8) ← faultInjectionControllerInit c true (temp.setWidth 64) val8
          .fiMemoryContent .writeAccessType
        helperRetStb c temp val8)
      c
  else do
    let (c, _, val) ←
      faultInjectionControllerInit c true addr64 val .fiMemoryContent .writeAccessType
    pure { c with env := c.env.writeBytes addr (truncBytes size val) size }

/-- `helper_be_st_name`: the address hook gets the value buffer and its decoded
address is never copied back; a split store passes every byte to the content
hook at that same `addr64`. -/
def helperBeSt (size : Nat) (c : Controller) (addr : BitVec 32) (val : BitVec 32) :
    Except CError Controller := do
  let val := truncBytes size val
  let (c, addr64, _) ←
    faultInjectionControllerInit c true (addr.setWidth 64) val .fiMemoryAddr .writeAccessType
  if crossesPage size addr then
    (List.range size).reverse.foldlM
      (fun c i => do
        let val8 := truncBytes 1 (val >>> ((size - 1) * 8 - i * 8))
        let (c, _, val8) ← faultInjectionControllerInit c true addr64 val8
          .fiMemoryContent .writeAccessType
        helperRetStb c (addr + BitVec.ofNat 32 i) val8)
      c
  else do
    let (c, _, val) ←
      faultInjectionControllerInit c true addr64 val .fiMemoryContent .writeAccessType
    pure { c with env := c.env.writeBytes addr (byteSwap size (truncBytes size val)) size }

/-! ## Accesses within a page -/

theorem memoryAddressStep_of_not_decoder {c : Controller} {addr : BitVec 64} {fault : Fault}
    (h : fault.params.address = addr.setWidth 32 → ∃ t k g, fault.trigger = some t ∧
      fault.component = some k ∧ fault.target = some g ∧ g ≠ "ADDRESS DECODER") :
    memoryAddressStep c addr fault = .ok (c, addr, fault) := by
  unfold memoryAddressStep
  by_cases haddr : fault.params.address = addr.setWidth 32
  · obtain ⟨t, k, g, htrigger, hcomponent, htarget, hg⟩ := h haddr
    by_cases ht : t = "ACCESS" <;> by_cases hk : k = "RAM" <;>
      simp [haddr, htrigger, hcomponent, htarget, hg, ht, hk]
  · simp [haddr]

theorem faultInjectionControllerMemoryAddress_of_no_decoder {c : Controller} {addr : BitVec 64}
    (hdecoder : ∀ f ∈ c.faults, f.params.address = addr.setWidth 32 → ∃ t k g,
      f.trigger = some t ∧ f.component = some k ∧ f.target = some g ∧ g ≠ "ADDRESS DECODER") :
    faultInjectionControllerMemoryAddress c addr = .ok (c, addr) := by
  have hpass : forEachFaultListElement memoryAddressStep c addr c.faults = .ok (c, addr, c.faults) :=
    forEachFaultListElement_of_skip
      (fun f hf _ => memoryAddressStep_of_not_decoder (hdecoder f hf))
  simp [faultInjectionControllerMemoryAddress, runFaultList, hpass]

@[simp] theorem setWidth_setWidth_widen (a : BitVec 32) : (a.setWidth 64).setWidth 32 = a := by
  simp [BitVec.setWidth_setWidth_of_le _ (by omega : 32 ≤ 64)]

theorem faultInjectionControllerInit_addr_of_no_decoder {c : Controller} {a : BitVec 32}
    (value : BitVec 32) (accessType : AccessType)
    (hdecoder : ∀ f ∈ c.faults, f.params.address = a → ∃ t k g,
      f.trigger = some t ∧ f.component = some k ∧ f.target = some g ∧ g ≠ "ADDRESS DECODER") :
    faultInjectionControllerInit c true (a.setWidth 64) value .fiMemoryAddr accessType =
      .ok (profilerLog c (a.setWidth 64) accessType, a.setWidth 64, value) := by
  by_cases hbusy : a.setWidth 64 = c.addressInUse
  · exact faultInjectionControllerInit_of_addressInUse hbusy
  · have hpass := @faultInjectionControllerMemoryAddress_of_no_decoder
      (profilerLog c (a.setWidth 64) accessType) (a.setWidth 64)
      (by simpa using hdecoder)
    simp only [faultInjectionControllerInit, profilerLog_addressInUse, hbusy, if_false, hpass]
    rfl

theorem helperLeLd_of_inPage {size : Nat} {c : Controller} {a : BitVec 32}
    (hpage : crossesPage size a = false) (hbusy : a.setWidth 64 ≠ c.addressInUse) :
    helperLeLd size c a =
      (fun r => (r.1, truncBytes size r.2)) <$> faultInjectionControllerMemoryContent
        (profilerLog c (a.setWidth 64) .readAccessType) (a.setWidth 64) (c.env.readBytes a size)
        .readAccessType := by
  simp only [helperLeLd, hpage, Bool.false_eq_true, if_false, helperLeLdInPage,
    faultInjectionControllerInit, profilerLog_addressInUse, hbusy, if_false]
  simp only [BitVec.setWidth_setWidth_of_le _ (by omega : 32 ≤ 64), BitVec.setWidth_eq, if_true]
  cases faultInjectionControllerMemoryContent (profilerLog c (a.setWidth 64) .readAccessType)
    (a.setWidth 64) (c.env.readBytes a size) .readAccessType <;> rfl

theorem helperLeSt_of_inPage {size : Nat} {c : Controller} {a v : BitVec 32}
    (hpage : crossesPage size a = false) (hbusy : a.setWidth 64 ≠ c.addressInUse)
    (hdecoder : ∀ f ∈ c.faults, f.params.address = a → ∃ t k g,
      f.trigger = some t ∧ f.component = some k ∧ f.target = some g ∧ g ≠ "ADDRESS DECODER") :
    helperLeSt size c a v =
      (fun r => { r.1 with env := r.1.env.writeBytes a (truncBytes size r.2) size }) <$>
        faultInjectionControllerMemoryContent
          (profilerLog (profilerLog c (a.setWidth 64) .writeAccessType) (a.setWidth 64)
            .writeAccessType)
          (a.setWidth 64) (truncBytes size v) .writeAccessType := by
  simp only [helperLeSt, faultInjectionControllerInit_addr_of_no_decoder _ _ hdecoder,
    Except.ok_bind, setWidth_setWidth_widen, hpage, Bool.false_eq_true, if_false]
  simp only [faultInjectionControllerInit, profilerLog_addressInUse, hbusy, if_false, if_true]
  cases faultInjectionControllerMemoryContent
    (profilerLog (profilerLog c (a.setWidth 64) .writeAccessType) (a.setWidth 64) .writeAccessType)
    (a.setWidth 64) (truncBytes size v) .writeAccessType <;> rfl

/-- A RAM ADDRESS DECODER fault that sends 0x100 to 0x200: the decoder maps
the address and a store to 0x100 lands in 0x200, but a load from 0x100 still
reads 0x100, not the 0xAB held at 0x200. -/
theorem helperLeLd_not_redirected :
    (faultInjectionControllerMemoryAddress (Controller.loaded
        { Machine.zero with mem := Function.update Machine.zero.mem 0x200 0xAB }
        [Fault.permanent "ACCESS" "RAM" "ADDRESS DECODER" "NEW VALUE" ⟨0x100, -1, 0x200, -1, -1⟩])
        0x100).map Prod.snd = .ok 0x200 ∧
      (helperLeSt 1 (Controller.loaded
        { Machine.zero with mem := Function.update Machine.zero.mem 0x200 0xAB }
        [Fault.permanent "ACCESS" "RAM" "ADDRESS DECODER" "NEW VALUE" ⟨0x100, -1, 0x200, -1, -1⟩])
        0x100 0xCD).map (fun c => c.env.mem 0x200) = .ok 0xCD ∧
      (helperLeLd 1 (Controller.loaded
        { Machine.zero with mem := Function.update Machine.zero.mem 0x200 0xAB }
        [Fault.permanent "ACCESS" "RAM" "ADDRESS DECODER" "NEW VALUE" ⟨0x100, -1, 0x200, -1, -1⟩])
        0x100).map Prod.snd = .ok 0 := by
  decide +kernel

/-! ## Registers, instructions and time -/

/-- `HELPER(fault_controller_call_reg_decoder)(env, regno)`. -/
def faultControllerCallRegDecoder (c : Controller) (regno : BitVec 32) :
    Except CError (Controller × BitVec 32) := do
  let (c, regno64, _) ←
    faultInjectionControllerInit c true (regno.setWidth 64) 0 .fiRegisterAddr .unspecified
  pure (c, regno64.setWidth 32)

/-- `HELPER(fault_controller_call_store_reg)(env, value_to_write, regno)`. -/
def faultControllerCallStoreReg (c : Controller) (valueToWrite regno : BitVec 32) :
    Except CError (Controller × BitVec 32) := do
  let (c, _, valueToWrite) ← faultInjectionControllerInit c true (regno.setWidth 64) valueToWrite
    .fiRegisterContent .writeAccessType
  pure (c, valueToWrite)

/-- `HELPER(fault_controller_call_load_reg)(env, reg_val, regno)`. -/
def faultControllerCallLoadReg (c : Controller) (regVal regno : BitVec 32) :
    Except CError (Controller × BitVec 32) := do
  let (c, _, regVal) ← faultInjectionControllerInit c true (regno.setWidth 64) regVal
    .fiRegisterContent .readAccessType
  pure (c, regVal)

/-- `load_reg_var`: a register, or for r15 the PC the instruction sees. -/
def loadRegVar (env : Machine) (pcValue reg : BitVec 32) : BitVec 32 :=
  if reg = 15 then pcValue else env.regs reg

/-- What the code `load_reg(s, reg)` emits computes: the decoder hook gives a
register number for the content hook, while the value comes from `reg`. -/
def loadReg (c : Controller) (pcValue reg : BitVec 32) :
    Except CError (Controller × BitVec 32) := do
  let (c, tcgReg) ← faultControllerCallRegDecoder c reg
  let tmp := loadRegVar c.env pcValue reg
  faultControllerCallLoadReg c tmp tcgReg

/-- What the code `store_reg(s, reg, var)` emits computes: the content hook
sees the decoded number, the move writes `cpu_R[reg]`. -/
def storeReg (c : Controller) (reg var : BitVec 32) : Except CError Controller := do
  let (c, tcgReg) ← faultControllerCallRegDecoder c reg
  let (c, var) ← faultControllerCallStoreReg c var tcgReg
  let var := if reg = 15 then var &&& ~~~1 else var
  pure { c with env := c.env.setReg reg var }

/-- The instruction hook of `disas_arm_insn`: the fetched word as the
translator then decodes it. -/
def translateInsnHook (c : Controller) (insn : BitVec 32) :
    Except CError (Controller × BitVec 32) := do
  let (c, insn64, _) ←
    faultInjectionControllerInit c true (insn.setWidth 64) 0 .fiInsn .unspecified
  pure (c, insn64.setWidth 32)

/-- `HELPER(fault_controller_call_time)(env, pc)`, run after every guest
instruction. -/
def faultControllerCallTime (c : Controller) (pc : BitVec 32) : Except CError Controller := do
  let (c, _, _) ← faultInjectionControllerInit c true (pc.setWidth 64) 0 .fiTime .unspecified
  pure c

/-- After an instruction, a PERMANENT NF = 1 fault (the one TIME-triggered
entry) sets the C flag and clears N, Z and V: the flag lands in bit 29, not in
bit 31. -/
theorem faultControllerCallTime_nf {c : Controller} {pre post : List Fault} {fault : Fault}
    {pc : BitVec 32} (hfaults : c.faults = pre ++ fault :: post)
    (hothers : ∀ f ∈ pre ++ post, f.trigger = some "ACCESS")
    (hpc : pc.setWidth 64 ≠ c.addressInUse) (htrigger : fault.trigger = some "TIME")
    (hcomponent : fault.component = some "CPU") (htarget : fault.target = some "CONDITION FLAGS")
    (hmode : fault.mode = some "NF") (htype : fault.type = some "PERMANENT")
    (hset : fault.params.setBit = 1) :
    ∃ c', faultControllerCallTime c pc = .ok c' ∧
      c'.env.cpsr = (c.env.cpsr &&& ~~~cpsrNZCV) ||| 0x20000000 := by
  set c₀ := profilerLog c (pc.setWidth 64) .unspecified with hc₀
  have hstep : timeStep (pc.setWidth 64) c₀ () fault =
      .ok ({ c₀ with stats := incrNumInjectedFaults c₀.stats fault.id "cpu perm",
                     env := doInjectConditionFlagsArm c₀.env "NF" fault.params.setBit },
        (), { fault with isActive := true }) := by
    rw [timeStep_of_conditionFlags htrigger hcomponent htarget hmode,
      whenCpuFaultActive_permanent (by simp [htrigger]) htype]
  have hrun := runFaultList_only (by simpa [hc₀] using hfaults)
    (fun f hf _ _ => timeStep_of_access (hothers f hf)) hstep
  refine ⟨{ c₀ with stats := incrNumInjectedFaults c₀.stats fault.id "cpu perm",
                    env := doInjectConditionFlagsArm c₀.env "NF" fault.params.setBit,
                    faults := pre ++ { fault with isActive := true } :: post }, ?_, ?_⟩
  · simp [faultControllerCallTime, faultInjectionControllerInit_time hpc,
      faultInjectionControllerTime, ← hc₀, hrun]
  · show (doInjectConditionFlagsArm c₀.env "NF" fault.params.setBit).cpsr = _
    rw [hset, doInjectConditionFlagsArm_nf_one, hc₀, profilerLog_env]

theorem faultControllerCallTime_nf_at_0x8000 :
    ∃ c', faultControllerCallTime (Controller.loaded Machine.zero
        [Fault.permanent "TIME" "CPU" "CONDITION FLAGS" "NF" ⟨-1, -1, -1, -1, 1⟩]) 0x8000 = .ok c' ∧
      c'.env.cpsr = (Machine.zero.cpsr &&& ~~~cpsrNZCV) ||| 0x20000000 :=
  @faultControllerCallTime_nf (Controller.loaded Machine.zero
      [Fault.permanent "TIME" "CPU" "CONDITION FLAGS" "NF" ⟨-1, -1, -1, -1, 1⟩]) [] []
    (Fault.permanent "TIME" "CPU" "CONDITION FLAGS" "NF" ⟨-1, -1, -1, -1, 1⟩) 0x8000 rfl
    (by simp) (by decide) rfl rfl rfl rfl rfl rfl

end Fies
