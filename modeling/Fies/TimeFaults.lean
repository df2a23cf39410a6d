import Fies.MaskFaults

/-!
# Time-triggered cell faults, call after call

The translator calls `fault_injection_controller_time` after every guest
instruction, and the REGISTER CELL and RAM branches run the value handler
again on every call inside the activation window.  Each call therefore applies
the fault's word once more to its target: the register `params.instruction`
names, or the 16-bit memory cell at that address.  SF and NEW VALUE are
idempotent and leave the word of one injection; BIT-FLIP undoes itself, so the
target alternates with the parity of the calls.  A call is skipped when
`cf_address` equals the PC, and returns at once on `address_in_use`.
-/

namespace Fies

open CRuntime BitMask Machine Except

/-! ## The target of a time fault -/

/-- The target of a time fault: the register `params.instruction` numbers, or
the memory cell at that address. -/
def timeTarget (fault : Fault) (env : Machine) : BitVec 32 :=
  if fault.component = some "REGISTER" then registerTarget env fault.params.instruction
  else env.cpuMemoryRwDebugRead (fault.params.instruction.signExtend 64) memoryCellBytes

/-- What one injection makes of the target: `maskWord`, cut to the 16 bits of a
memory cell. -/
def timeWord (fault : Fault) (mode : String) (x : BitVec 32) : BitVec 32 :=
  if fault.component = some "REGISTER" then maskWord mode fault.params.mask fault.params.setBit x
  else maskWord mode fault.params.mask fault.params.setBit x &&& 0xFFFF

/-- A REGISTER CELL or RAM MEMORY CELL fault of the time dispatcher with a value
mode, whose mask has bit 31 clear, on one of the registers 0 to 15. -/
structure TimeCellFault (fault : Fault) (mode : String) : Prop where
  trigger : fault.trigger = some "TIME"
  cell : (fault.component = some "REGISTER" ∧ fault.target = some "REGISTER CELL") ∨
    (fault.component = some "RAM" ∧ fault.target = some "MEMORY CELL")
  mode_eq : fault.mode = some mode
  value : mode = "BIT-FLIP" ∨ mode = "SF" ∨ mode = "NEW VALUE"
  msb : fault.params.mask.msb = false
  register : fault.component = some "REGISTER" → fault.params.instruction.slt 16

/-- A call of the time hook inside the fault's window: the PC is not the
address in use nor the fault's `cf_address`, the fault is active at the call's
time, and the guest has not written the target since the last call. -/
structure TimeCall (addressInUse : BitVec 64) (timerValue : Int) (fault : Fault)
    (call : HookCall) : Prop where
  time : call.injectionMode = .fiTime
  not_inUse : call.addr ≠ addressInUse
  not_skipped : fault.params.cfAddress ≠ call.addr.setWidth 32
  active : activeNow fault (call.addr.setWidth 32) (call.clock - timerValue) = true
  guest : ∀ env, timeTarget fault (call.guest env) = timeTarget fault env

theorem setWidth_signExtend_self (x : BitVec 32) : (x.signExtend 64).setWidth 32 = x := by
  apply BitVec.eq_of_getLsbD_eq
  intro i hi
  simp only [BitVec.getLsbD_setWidth, BitVec.getLsbD_signExtend, hi, decide_true, Bool.true_and]
  simp [show i < 64 by omega]

theorem faultActivation_setActive (fault : Fault) (b : Bool) (pc : BitVec 32) (t : Int) :
    faultActivation { fault with isActive := b } pc t = faultActivation fault pc t :=
  rfl

/-! ## One call -/

section Step

variable {c : Controller} {fault : Fault} {mode : String} {call : HookCall}

theorem HookCall.run_of_time (htime : call.injectionMode = .fiTime)
    (haddr : call.addr ≠ c.addressInUse) :
    call.run c = faultInjectionControllerTime (call.enter c) call.addr := by
  unfold HookCall.run HookCall.enter
  rw [htime, @faultInjectionControllerInit_time { c with env := call.guest c.env, clock := call.clock }
    call.envGiven call.addr call.value call.accessType haddr]
  cases faultInjectionControllerTime
    (profilerLog { c with env := call.guest c.env, clock := call.clock } call.addr call.accessType)
    call.addr <;> rfl

theorem faultInjectionControllerTime_single {c : Controller} {f : Fault} (addr : BitVec 64)
    (hfaults : c.faults = [f]) :
    faultInjectionControllerTime c addr = (timeStep addr c () f).map fun r =>
      { r.1 with faults := [r.2.2] } := by
  unfold faultInjectionControllerTime runFaultList
  rw [hfaults]
  simp only [forEachFaultListElement]
  cases timeStep addr c () f <;> rfl

theorem timeStep_of_timeCellFault (hfault : TimeCellFault fault mode) (b : Bool)
    (addr : BitVec 64) (c : Controller) :
    timeStep addr c () { fault with isActive := b } =
      timeCellFault c { fault with isActive := b }
        (if fault.component = some "REGISTER" then
          { FaultInjectionInfo.zero with faultOnRegister := 1 }
        else FaultInjectionInfo.zero) addr (addr.setWidth 32) mode := by
  rcases hfault.cell with ⟨hcomponent, htarget⟩ | ⟨hcomponent, htarget⟩
  · simp [timeStep, hfault.trigger, hcomponent, htarget, hfault.mode_eq]
  · simp [timeStep, hfault.trigger, hcomponent, htarget, hfault.mode_eq]

theorem timeFiInfo_flags (fault : Fault) :
    let fiInfo : FaultInjectionInfo := if fault.component = some "REGISTER" then
      { FaultInjectionInfo.zero with faultOnRegister := 1 } else FaultInjectionInfo.zero
    ¬(fiInfo.faultOnAddress ≠ 0 ∨ fiInfo.accessTriggeredContentFault ≠ 0) ∧ fiInfo.newValue = 0 ∧
      (fiInfo.faultOnRegister ≠ 0 ↔ fault.component = some "REGISTER") := by
  intro fiInfo
  by_cases hcomponent : fault.component = some "REGISTER"
  · simp [fiInfo, hcomponent, FaultInjectionInfo.zero]
  · simp [fiInfo, hcomponent, FaultInjectionInfo.zero]

theorem timeCall_step (hfault : TimeCellFault fault mode) {b : Bool}
    (hfaults : c.faults = [{ fault with isActive := b }])
    (hcall : TimeCall c.addressInUse c.timerValue fault call) :
    ∃ c', call.run c = .ok c' ∧ c'.faults = [{ fault with isActive := true }] ∧
      c'.addressInUse = c.addressInUse ∧ c'.timerValue = c.timerValue ∧
      timeTarget fault c'.env = timeWord fault mode (timeTarget fault c.env) := by
  obtain ⟨a, ha, hinj⟩ := activeNow_iff.mp hcall.active
  have ha' : faultActivation { fault with isActive := b } (call.addr.setWidth 32)
      (getTimer (call.enter c)) = .ok a := by
    rw [faultActivation_setActive, HookCall.getTimer_enter]
    exact ha
  obtain ⟨h, hh⟩ : ∃ h, valueFaultHandler mode = some h := by
    apply Option.isSome_iff_exists.mp
    rcases hfault.value with rfl | rfl | rfl <;> simp [valueFaultHandler]
  obtain ⟨hbuf, hnv, hreg⟩ := timeFiInfo_flags fault
  obtain ⟨c₁, buf₁, hrun, hinjected⟩ := @valueFaultHandler_injected mode h (call.enter c)
    (fault.params.instruction.signExtend 64) { fault with isActive := b }
    (if fault.component = some "REGISTER" then
      { FaultInjectionInfo.zero with faultOnRegister := 1 } else FaultInjectionInfo.zero)
    (call.addr.setWidth 32) a hh ha' hinj hfault.msb hnv
  have henv : timeTarget fault (call.enter c).env = timeTarget fault c.env := by
    rw [HookCall.enter_env]
    exact hcall.guest c.env
  refine ⟨{ c₁ with faults := [{ fault with isActive := true }] }, ?_, rfl, ?_, ?_, ?_⟩
  · rw [HookCall.run_of_time hcall.time hcall.not_inUse,
      faultInjectionControllerTime_single _ (by rw [HookCall.enter_faults]; exact hfaults),
      timeStep_of_timeCellFault hfault b]
    unfold timeCellFault
    simp only [hh, if_neg hcall.not_skipped, hrun]
    rfl
  · rw [hinjected.frame]
    exact HookCall.enter_addressInUse call c
  · rw [hinjected.frame]
    exact HookCall.enter_timerValue call c
  · show timeTarget fault c₁.env = _
    by_cases hcomponent : fault.component = some "REGISTER"
    · have hnum : ((fault.params.instruction.signExtend 64).setWidth 32).slt 16 := by
        rw [setWidth_signExtend_self]
        exact hfault.register hcomponent
      have htarget := (hinjected.register hbuf (hreg.mpr hcomponent) hnum).2
      rw [setWidth_signExtend_self] at htarget
      simp only [timeTarget, timeWord, if_pos hcomponent] at henv ⊢
      rw [htarget, henv]
    · have htarget := (hinjected.cell hbuf (by simpa [hcomponent] using hreg)).2
      simp only [timeTarget, timeWord, if_neg hcomponent] at henv ⊢
      rw [htarget, henv]

end Step

/-! ## A run of calls -/

theorem runHookCalls_timeFault {c : Controller} {fault : Fault} {mode : String}
    (hfault : TimeCellFault fault mode) {b : Bool} (hfaults : c.faults = [{ fault with isActive := b }])
    {calls : List HookCall} (hcalls : ∀ call ∈ calls, TimeCall c.addressInUse c.timerValue fault call) :
    ∃ c', runHookCalls c calls = .ok c' ∧
      timeTarget fault c'.env = (timeWord fault mode)^[calls.length] (timeTarget fault c.env) := by
  induction calls generalizing c b with
  | nil => exact ⟨c, rfl, rfl⟩
  | cons call calls ih =>
      obtain ⟨c₁, hrun, hfaults₁, haddr, htimer, htarget⟩ :=
        timeCall_step hfault hfaults (hcalls call List.mem_cons_self)
      have hcalls₁ : ∀ call' ∈ calls, TimeCall c₁.addressInUse c₁.timerValue fault call' := by
        intro call' hmem
        rw [haddr, htimer]
        exact hcalls call' (List.mem_cons_of_mem call hmem)
      obtain ⟨c', hrun', htarget'⟩ := ih hfaults₁ hcalls₁
      refine ⟨c', ?_, ?_⟩
      · unfold runHookCalls at hrun' ⊢
        rw [List.foldlM_cons, hrun]
        exact hrun'
      · rw [htarget', htarget, List.length_cons, Function.iterate_succ_apply]

/-! ## SF and NEW VALUE settle, BIT-FLIP alternates -/

theorem timeWord_idem {fault : Fault} {mode : String} (hmode : mode = "SF" ∨ mode = "NEW VALUE")
    (x : BitVec 32) : timeWord fault mode (timeWord fault mode x) = timeWord fault mode x := by
  unfold timeWord
  rcases hmode with rfl | rfl
  · split
    · simp only [maskWord_sf, merge_merge]
    · simp only [maskWord_sf]
      apply BitVec.eq_of_getLsbD_eq
      intro j _
      simp only [BitVec.getLsbD_and, getLsbD_merge]
      split <;> cases (0xFFFF : BitVec 32).getLsbD j <;> simp
  · simp only [maskWord_newValue]

theorem timeTarget_and_lowHalf {fault : Fault} (hcomponent : fault.component ≠ some "REGISTER")
    (env : Machine) : timeTarget fault env &&& 0xFFFF = timeTarget fault env := by
  unfold timeTarget
  rw [if_neg hcomponent]
  exact (cpuMemoryRwDebugRead_cell_eq rfl).symm

theorem timeWord_bitFlip_twice {fault : Fault} {x : BitVec 32}
    (hx : fault.component ≠ some "REGISTER" → x &&& 0xFFFF = x) :
    timeWord fault "BIT-FLIP" (timeWord fault "BIT-FLIP" x) = x := by
  unfold timeWord
  split
  · simp only [maskWord_bitFlip]
    rw [BitVec.xor_assoc, BitVec.xor_self, BitVec.xor_zero]
  · rename_i hcomponent
    simp only [maskWord_bitFlip]
    conv => rhs; rw [← hx hcomponent]
    apply BitVec.eq_of_getLsbD_eq
    intro j _
    simp only [BitVec.getLsbD_and, BitVec.getLsbD_xor]
    cases x.getLsbD j <;> cases fault.params.mask.getLsbD j <;>
      cases (0xFFFF : BitVec 32).getLsbD j <;> rfl

/-- After the calls of a run inside one activation window, with no guest write
to the target, an SF or NEW VALUE target holds the word of one injection, and a
BIT-FLIP target holds it after an odd number of calls and its own value after
an even number. -/
theorem timeFault_target_after_calls {c : Controller} {fault : Fault} {mode : String}
    {calls : List HookCall} (hfault : TimeCellFault fault mode) (hfaults : c.faults = [fault])
    (hcalls : ∀ call ∈ calls, TimeCall c.addressInUse c.timerValue fault call) :
    ∃ c', runHookCalls c calls = .ok c' ∧
      timeTarget fault c'.env =
        if calls = [] ∨ (mode = "BIT-FLIP" ∧ Even calls.length) then timeTarget fault c.env
        else timeWord fault mode (timeTarget fault c.env) := by
  obtain ⟨c', hrun, htarget⟩ :=
    @runHookCalls_timeFault c fault mode hfault fault.isActive hfaults calls hcalls
  refine ⟨c', hrun, ?_⟩
  rw [htarget]
  have htwice : timeWord fault "BIT-FLIP" (timeWord fault "BIT-FLIP" (timeTarget fault c.env)) =
      timeTarget fault c.env :=
    timeWord_bitFlip_twice fun hcomponent => timeTarget_and_lowHalf hcomponent c.env
  split
  · rename_i hsame
    rcases hsame with hnil | ⟨rfl, j, hj⟩
    · rw [hnil]
      rfl
    · rw [hj, ← two_mul, Function.iterate_mul]
      exact Function.iterate_fixed htwice j
  · rename_i hchanged
    obtain ⟨hne, hodd⟩ := not_or.mp hchanged
    obtain ⟨k, hk⟩ := List.exists_cons_of_ne_nil hne
    by_cases hbf : mode = "BIT-FLIP"
    · subst hbf
      obtain ⟨j, hj⟩ := Nat.not_even_iff_odd.mp fun heven => hodd ⟨rfl, heven⟩
      have hlen : calls.length = (2 * j).succ := by omega
      rw [hlen, Function.iterate_succ_apply', Function.iterate_mul,
        Function.iterate_fixed htwice j]
    · have hidem : mode = "SF" ∨ mode = "NEW VALUE" := by
        rcases hfault.value with h | h | h
        · exact absurd h hbf
        · exact .inl h
        · exact .inr h
      obtain ⟨rest, rfl⟩ := hk
      rw [List.length_cons, Function.iterate_succ_apply]
      exact Function.iterate_fixed (timeWord_idem hidem _) _

def registerTimeFault (mode : String) : Fault :=
  ⟨1, some "REGISTER", some "REGISTER CELL", some mode, some "TIME", none, some "PERMANENT", none,
    none, false, ⟨0x100, -1, 5, 3, 4⟩⟩

def timeCallAt (pc : BitVec 64) (clock : Int) : HookCall :=
  ⟨id, clock, true, pc, 0, .fiTime, .unspecified⟩

theorem timeFault_target_after_calls_sf :
    TimeCellFault (registerTimeFault "SF") "SF" ∧
      (Controller.loaded Machine.zero [registerTimeFault "SF"]).faults = [registerTimeFault "SF"] ∧
      (∀ call ∈ [timeCallAt 0x100 10, timeCallAt 0x104 20],
        TimeCall (Controller.loaded Machine.zero [registerTimeFault "SF"]).addressInUse
          (Controller.loaded Machine.zero [registerTimeFault "SF"]).timerValue
          (registerTimeFault "SF") call) ∧
      ∃ c', runHookCalls (Controller.loaded Machine.zero [registerTimeFault "SF"])
          [timeCallAt 0x100 10, timeCallAt 0x104 20] = .ok c' ∧
        timeTarget (registerTimeFault "SF") c'.env =
          if [timeCallAt 0x100 10, timeCallAt 0x104 20] = [] ∨
              ("SF" = "BIT-FLIP" ∧ Even [timeCallAt 0x100 10, timeCallAt 0x104 20].length) then
            timeTarget (registerTimeFault "SF") (Controller.loaded Machine.zero [registerTimeFault "SF"]).env
          else timeWord (registerTimeFault "SF") "SF"
            (timeTarget (registerTimeFault "SF")
              (Controller.loaded Machine.zero [registerTimeFault "SF"]).env) :=
  have hfault : TimeCellFault (registerTimeFault "SF") "SF" :=
    ⟨rfl, .inl ⟨rfl, rfl⟩, rfl, .inr (.inl rfl), by decide, fun _ => by decide⟩
  have hcalls : ∀ call ∈ [timeCallAt 0x100 10, timeCallAt 0x104 20],
      TimeCall (Controller.loaded Machine.zero [registerTimeFault "SF"]).addressInUse
        (Controller.loaded Machine.zero [registerTimeFault "SF"]).timerValue
        (registerTimeFault "SF") call := by
    intro call hmem
    simp only [List.mem_cons, List.not_mem_nil, or_false] at hmem
    rcases hmem with rfl | rfl
    · exact ⟨rfl, by decide, by decide, by decide, fun _ => rfl⟩
    · exact ⟨rfl, by decide, by decide, by decide, fun _ => rfl⟩
  ⟨hfault, rfl, hcalls, timeFault_target_after_calls hfault rfl hcalls⟩

def cpsrTimeFault : Fault :=
  { registerTimeFault "BIT-FLIP" with params := ⟨0x100, -1, 0x10, 16, 4⟩ }

/-- A BIT-FLIP time fault undoes itself: register 3 holds 5 after the first call
and 0 again after the second.  On the CPSR the flip of bit 4 turns the SVC mode
`0x13` into `0x03`, which `cpsr_write` refuses: the CPSR stays `0x1d3`. -/
theorem timeFault_bitFlip_undone :
    (runHookCalls (Controller.loaded Machine.zero [registerTimeFault "BIT-FLIP"])
        [timeCallAt 0x100 10]).map (fun c => c.env.regs 3) = .ok 5 ∧
      (runHookCalls (Controller.loaded Machine.zero [registerTimeFault "BIT-FLIP"])
        [timeCallAt 0x100 10, timeCallAt 0x104 20]).map (fun c => c.env.regs 3) = .ok 0 ∧
      Machine.zero.cpsr = 0x1d3 ∧
      (runHookCalls (Controller.loaded Machine.zero [cpsrTimeFault])
        [timeCallAt 0x100 10]).map (fun c => c.env.cpsr) = .ok 0x1d3 := by
  decide +kernel

end Fies
