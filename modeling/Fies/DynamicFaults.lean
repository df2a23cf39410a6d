import Fies.Dispatch
import Fies.FaultLibrary
import Fies.FaultPrimitives

/-!
# Dynamic single-cell faults

The mask loop of the dynamic handlers, bit by bit: below `MEMORY_WIDTH` a bit
is faulty exactly when the last write recorded for it is the sensitizing one,
and from `MEMORY_WIDTH` on the loop leaves the bit 0.  A register cell is 32
bits wide, so its upper half reads 0 under the mask whatever was written.

The modes RDFxy, IRFxy and DRDFxy name the dynamic primitives of
`FaultPrimitives`.  What an active handler makes of a read is `dynamicResult`;
a write it lets through, after the dispatcher has recorded it.
-/

namespace Fies

open CRuntime BitMask Machine FaultPrimitives

theorem getLsbD_intBit {n : Nat} (hn : n < 32) (i : Nat) :
    (intBit (BitVec.ofNat 32 n)).getLsbD i = decide (i = n) := by
  have hmod : n % 2 ^ 32 = n := Nat.mod_eq_of_lt (by omega)
  simp only [intBit, BitVec.getLsbD_shiftLeft, BitVec.toNat_ofNat, hmod, BitVec.getLsbD_one]
  by_cases hin : i = n <;> simp [hin] <;> omega

theorem getLsbD_dynamicFaultBit (history : Nat → Option CellOps) (op : CellOps)
    (faultyBitSet : Bool) (value faultValue : BitVec 32) {n : Nat} (hn : n < 32) (i : Nat) :
    (dynamicFaultBit history op faultyBitSet value faultValue n).getLsbD i =
      if i = n then
        (if history n = some op then faultyBitSet else faultValue.getLsbD n || value.getLsbD n)
      else faultValue.getLsbD i := by
  by_cases hi : i < 32
  · have hpow : (BitVec.ofNat 32 (2 ^ n)).getLsbD i = decide (i = n) := by
      rw [BitVec.getLsbD_ofNat, Nat.testBit_two_pow]
      simp [hi, eq_comm]
    unfold dynamicFaultBit
    by_cases hop : history n = some op
    · cases faultyBitSet
      · simp only [hop, if_true, Bool.false_eq_true, if_false, BitVec.getLsbD_and,
          BitVec.getLsbD_not, getLsbD_intBit hn]
        by_cases hin : i = n <;> simp [hin, hi]
      · simp only [hop, if_true, BitVec.getLsbD_or, getLsbD_intBit hn]
        by_cases hin : i = n <;> simp [hin]
    · simp only [hop, if_false, BitVec.getLsbD_or, BitVec.getLsbD_and, hpow]
      by_cases hin : i = n <;> simp [hin]
  · have hne : i ≠ n := by omega
    rw [BitVec.getLsbD_of_ge _ i (by omega), if_neg hne, BitVec.getLsbD_of_ge _ i (by omega)]

theorem getLsbD_foldl_dynamicFaultBit (history : Nat → Option CellOps) (op : CellOps)
    (faultyBitSet : Bool) (value : BitVec 32) {n : Nat} (hn : n ≤ 32) (i : Nat) :
    ((List.range n).foldl (dynamicFaultBit history op faultyBitSet value) 0).getLsbD i =
      (decide (i < n) && if history i = some op then faultyBitSet else value.getLsbD i) := by
  induction n generalizing i with
  | zero => simp
  | succ n ih =>
      have ih' := ih (by omega)
      rw [List.range_succ, List.foldl_append, List.foldl_cons, List.foldl_nil,
        getLsbD_dynamicFaultBit history op faultyBitSet value _ (by omega), ih', ih']
      by_cases hin : i = n
      · subst hin
        simp
      · have hlt : i < n + 1 ↔ i < n := by omega
        simp [hin, hlt]

theorem getLsbD_dynamicFaultWord (history : Nat → Option CellOps) (op : CellOps)
    (faultyBitSet : Bool) (value : BitVec 32) (i : Nat) :
    (dynamicFaultWord history op faultyBitSet value).getLsbD i =
      (decide (i < memoryWidth) &&
        if history i = some op then faultyBitSet else value.getLsbD i) :=
  getLsbD_foldl_dynamicFaultBit history op faultyBitSet value (by decide) i

/-- An IRF00 fault under mask bit 16 of register R1, which holds `0x10000`:
with no write recorded, the read of R1 returns 0. -/
example :
    (faultInjectionControllerRegisterContent (Controller.loaded
        { Machine.zero with regs := Function.update Machine.zero.regs 1 0x10000 }
        [Fault.permanent "ACCESS" "REGISTER" "REGISTER CELL" "IRF00" ⟨1, -1, 0x10000, -1, -1⟩])
        1 0x10000 .readAccessType).map Prod.snd = .ok 0 := by
  decide +kernel

/-! ## Modes and primitives -/

def dynamicMode : DynamicCell → String
  | .rdf false false => "RDF00"
  | .rdf false true => "RDF01"
  | .rdf true false => "RDF10"
  | .rdf true true => "RDF11"
  | .irf false false => "IRF00"
  | .irf false true => "IRF01"
  | .irf true false => "IRF10"
  | .irf true true => "IRF11"
  | .drdf false false => "DRDF00"
  | .drdf false true => "DRDF01"
  | .drdf true false => "DRDF10"
  | .drdf true true => "DRDF11"

/-- The digit position and the sink of the handler of each primitive, as
`fault_injection_controller_rdf_dyn`, `_irf_dyn` and `_drdf_dyn` instantiate
`dynamicCellFault`. -/
def dynamicFrame : DynamicCell → Nat × CellSink
  | .rdf _ _ => (3, .accessThenCell)
  | .irf _ _ => (3, .access)
  | .drdf _ _ => (4, .cell)

def dynamicHandler (p : DynamicCell) : CellHandler :=
  dynamicCellFault (dynamicFrame p).1 (dynamicFrame p).2

def CellOps.toPair : CellOps → Bool × Bool
  | .ops0w0 => (false, false)
  | .ops0w1 => (false, true)
  | .ops1w0 => (true, false)
  | .ops1w1 => (true, true)

theorem CellOps.toPair_ofWrite (x y : Bool) : (CellOps.ofWrite x y).toPair = (x, y) := by
  cases x <;> cases y <;> rfl

theorem CellOps.map_toPair_eq_some {o : Option CellOps} {x y : Bool} :
    o.map CellOps.toPair = some (x, y) ↔ o = some (CellOps.ofWrite x y) := by
  cases o with
  | none => simp
  | some op => cases op <;> cases x <;> cases y <;> simp [CellOps.toPair, CellOps.ofWrite]

theorem dynamicMode_spec (p : DynamicCell) :
    valueFaultHandler (dynamicMode p) = none ∧
      cellFaultHandler (dynamicMode p) = some (dynamicHandler p) ∧
      dynamicSensitizer (cChar (dynamicMode p) (dynamicFrame p).1)
          (cChar (dynamicMode p) ((dynamicFrame p).1 + 1)) =
        some (CellOps.ofWrite p.sensitizer.1 p.sensitizer.2, !p.sensitizer.2) := by
  cases p <;> rename_i x y <;> cases x <;> cases y <;>
    exact ⟨by simp [valueFaultHandler, dynamicMode],
      by simp only [cellFaultHandler, dynamicMode]; rfl, rfl⟩

/-! ## The handlers -/

/-- The word an active dynamic handler merges under the mask, from the history
of the fault's cell and the value read. -/
def dynamicMerged (p : DynamicCell) (history : Nat → Option CellOps) (value mask : BitVec 32) :
    BitVec 32 :=
  merge (dynamicFaultWord history (CellOps.ofWrite p.sensitizer.1 p.sensitizer.2)
    (!p.sensitizer.2) value) mask value

/-- What the handler of `p` makes of a read while its fault is active: the
value delivered, and the word written to the cell, if any. -/
def dynamicResult (p : DynamicCell) (history : Nat → Option CellOps) (value mask : BitVec 32) :
    BitVec 32 × Option (BitVec 32) :=
  ((dynamicFrame p).2.deliveredValue (dynamicMerged p history value mask) value,
    if (dynamicFrame p).2.writesCell then some (dynamicMerged p history value mask) else none)

theorem dynamicHandler_write (p : DynamicCell) (c : Controller) (fault : Fault)
    (fiInfo : FaultInjectionInfo) (addr : BitVec 64) (value : BitVec 32) :
    dynamicHandler p c fault fiInfo addr value .writeAccessType =
      .ok ({ c with addressInUse := 0 }, fault, value) := by
  cases p <;> rfl

theorem dynamicHandler_read_of_active {p : DynamicCell} (c : Controller) {fault : Fault}
    (fiInfo : FaultInjectionInfo) (addr : BitVec 64) (value : BitVec 32)
    (hmode : fault.mode = some (dynamicMode p))
    (hactive : activeNow fault 0 (getTimer c) = true)
    (hcontent : fiInfo.accessTriggeredContentFault ≠ 0) (hbf : fiInfo.bitFlip = 0)
    (hrow : opsRowAllocated c.faults fault = true) :
    ∃ stats, dynamicHandler p c fault fiInfo addr value .readAccessType =
      .ok ({ c with
          env := (dynamicResult p ((if fiInfo.faultOnRegister ≠ 0 then c.opsOnRegisterCell
              else c.opsOnMemoryCell) (fault.id - 1)) value fault.params.mask).2.elim c.env
            (cellWrite c.env fiInfo addr)
          stats
          addressInUse := 0 },
        { fault with isActive := true },
        (dynamicResult p ((if fiInfo.faultOnRegister ≠ 0 then c.opsOnRegisterCell
          else c.opsOnMemoryCell) (fault.id - 1)) value fault.params.mask).1) := by
  obtain ⟨-, -, hsens⟩ := dynamicMode_spec p
  have hmode' : fault.mode.getD "" = dynamicMode p := by rw [hmode]; rfl
  set history := (if fiInfo.faultOnRegister ≠ 0 then c.opsOnRegisterCell
    else c.opsOnMemoryCell) (fault.id - 1) with hhistory
  obtain ⟨c', hdeliver, henv⟩ := deliverMerged_of_active (dynamicFrame p).2
    { c with addressInUse := addr }
    { fault with params := { fault.params with mask := dynamicMerged p history value fault.params.mask } }
    addr value hactive hcontent hbf
  have hframe := deliverMerged_frame hdeliver
  unfold dynamicMerged at hdeliver
  refine ⟨c'.stats, ?_⟩
  unfold dynamicHandler dynamicCellFault
  simp only [reduceCtorEq, if_false, hmode', hsens, ← hhistory, hdeliver, Except.ok_bind, hrow,
    Bool.not_true, Bool.false_eq_true]
  rw [hframe, henv]
  cases hsink : (dynamicFrame p).2.writesCell <;> simp [dynamicResult, dynamicMerged, hsink]

theorem maskedAccess_read_dynamicResult (p : DynamicCell) (history : Nat → Option CellOps)
    (cell mask : BitVec 32) {i : Nat} (hi : i < memoryWidth) :
    p.maskedAccess (mask.getLsbD i) ⟨cell.getLsbD i, (history i).map CellOps.toPair⟩ .read =
      ((dynamicResult p history cell mask).1.getLsbD i,
        ⟨((dynamicResult p history cell mask).2.getD cell).getLsbD i,
          (history i).map CellOps.toPair⟩) := by
  cases p <;> rename_i x y <;>
  · have hword : (dynamicFaultWord history (CellOps.ofWrite x y) (!y) cell).getLsbD i =
        if history i = some (CellOps.ofWrite x y) then !y else cell.getLsbD i := by
      simpa [hi] using getLsbD_dynamicFaultWord history (CellOps.ofWrite x y) (!y) cell i
    have hsens : (history i).map CellOps.toPair = some (x, y) ↔
        history i = some (CellOps.ofWrite x y) := CellOps.map_toPair_eq_some
    cases hm : mask.getLsbD i <;> by_cases hs : history i = some (CellOps.ofWrite x y) <;>
      simp [DynamicCell.maskedAccess, DynamicCell.access, DynamicCell.sensitizer,
        BitState.faultFreeAccess, faultFree, dynamicResult, dynamicMerged, dynamicFrame,
        CellSink.deliveredValue, CellSink.writesCell, CellOps.toPair_ofWrite, hsens, hword, hs, hm]

/-! ## The dispatchers -/

theorem memoryContent_of_dynamicFault_read {c : Controller} {pre post : List Fault}
    {fault : Fault} {addr : BitVec 64} (value : BitVec 32) {p : DynamicCell}
    (hfaults : c.faults = pre ++ fault :: post)
    (hothers : ∀ f ∈ pre ++ post,
      f.params.address ≠ addr.setWidth 32 ∧ f.params.cfAddress ≠ addr.setWidth 32)
    (haddr : fault.params.address = addr.setWidth 32)
    (hcf : fault.params.cfAddress ≠ addr.setWidth 32) (htrigger : fault.trigger = some "ACCESS")
    (hcomponent : fault.component = some "RAM") (htarget : fault.target = some "MEMORY CELL")
    (hmode : fault.mode = some (dynamicMode p)) (hid : 0 < fault.id.toInt)
    (hactive : activeNow fault 0 (getTimer c) = true) :
    ∃ stats, faultInjectionControllerMemoryContent c addr value .readAccessType =
      .ok ({ c with
          env := (dynamicResult p (c.opsOnMemoryCell (fault.id - 1)) value fault.params.mask).2.elim
            c.env (cellWrite c.env memoryContentInfo addr)
          stats
          addressInUse := 0
          faults := pre ++ { fault with isActive := true } :: post },
        (dynamicResult p (c.opsOnMemoryCell (fault.id - 1)) value fault.params.mask).1) := by
  obtain ⟨hvalue, hcell, -⟩ := dynamicMode_spec p
  have hrow := opsRowAllocated_of_mem (hfaults ▸ List.mem_append_right pre List.mem_cons_self) hid
  obtain ⟨stats, hrun⟩ := dynamicHandler_read_of_active c memoryContentInfo addr value hmode
    hactive (by decide) rfl hrow
  set r := dynamicResult p (c.opsOnMemoryCell (fault.id - 1)) value fault.params.mask with hr
  have hstep : memoryContentStep addr .readAccessType c value fault =
      .ok ({ c with env := r.2.elim c.env (cellWrite c.env memoryContentInfo addr), stats,
                    addressInUse := 0 }, r.1, { fault with isActive := true }) := by
    rw [memoryContentStep_of_memoryCell haddr htrigger hcomponent htarget hmode hrow,
      memoryContentMode_of_cellFault hvalue hcell hcf, memoryOpsLogged_read, hrun]
    rfl
  exact ⟨stats, runFaultList_only hfaults
    (fun f hf _ _ => memoryContentStep_of_miss (hothers f hf).1 (hothers f hf).2) hstep⟩

theorem memoryContent_of_dynamicFault_write {c : Controller} {pre post : List Fault}
    {fault : Fault} {addr : BitVec 64} (value : BitVec 32) {p : DynamicCell}
    (hfaults : c.faults = pre ++ fault :: post)
    (hothers : ∀ f ∈ pre ++ post,
      f.params.address ≠ addr.setWidth 32 ∧ f.params.cfAddress ≠ addr.setWidth 32)
    (haddr : fault.params.address = addr.setWidth 32)
    (hcf : fault.params.cfAddress ≠ addr.setWidth 32) (htrigger : fault.trigger = some "ACCESS")
    (hcomponent : fault.component = some "RAM") (htarget : fault.target = some "MEMORY CELL")
    (hmode : fault.mode = some (dynamicMode p)) (hid : 0 < fault.id.toInt) :
    faultInjectionControllerMemoryContent c addr value .writeAccessType =
      .ok ({ c with
          opsOnMemoryCell := logCellOperations c.opsOnMemoryCell
            (c.env.cpuMemoryRwDebugRead addr memoryCellBytes) fault value
          addressInUse := 0
          faults := pre ++ fault :: post }, value) := by
  obtain ⟨hvalue, hcell, -⟩ := dynamicMode_spec p
  have hrow := opsRowAllocated_of_mem (hfaults ▸ List.mem_append_right pre List.mem_cons_self) hid
  have hstep : memoryContentStep addr .writeAccessType c value fault =
      .ok ({ c with
          opsOnMemoryCell := logCellOperations c.opsOnMemoryCell
            (c.env.cpuMemoryRwDebugRead addr memoryCellBytes) fault value
          addressInUse := 0 }, value, fault) := by
    rw [memoryContentStep_of_memoryCell haddr htrigger hcomponent htarget hmode hrow,
      memoryContentMode_of_cellFault hvalue hcell hcf, dynamicHandler_write]
    rfl
  exact runFaultList_only hfaults
    (fun f hf _ _ => memoryContentStep_of_miss (hothers f hf).1 (hothers f hf).2) hstep

theorem registerContent_of_dynamicFault_read {c : Controller} {pre post : List Fault}
    {fault : Fault} {addr : BitVec 64} (value : BitVec 32) {p : DynamicCell}
    (hfaults : c.faults = pre ++ fault :: post)
    (hothers : ∀ f ∈ pre ++ post,
      f.params.address ≠ addr.setWidth 32 ∧ f.params.cfAddress ≠ addr.setWidth 32)
    (haddr : fault.params.address = addr.setWidth 32)
    (hcf : fault.params.cfAddress ≠ addr.setWidth 32) (htrigger : fault.trigger = some "ACCESS")
    (hcomponent : fault.component = some "REGISTER")
    (htarget : fault.target = some "REGISTER CELL") (hmode : fault.mode = some (dynamicMode p))
    (hid : 0 < fault.id.toInt) (hactive : activeNow fault 0 (getTimer c) = true) :
    ∃ stats, faultInjectionControllerRegisterContent c addr value .readAccessType =
      .ok ({ c with
          env := (dynamicResult p (c.opsOnRegisterCell (fault.id - 1)) value
            fault.params.mask).2.elim c.env (cellWrite c.env registerContentInfo addr)
          stats
          addressInUse := 0
          faults := pre ++ { fault with isActive := true } :: post },
        (dynamicResult p (c.opsOnRegisterCell (fault.id - 1)) value fault.params.mask).1) := by
  obtain ⟨hvalue, hcell, -⟩ := dynamicMode_spec p
  have hrow := opsRowAllocated_of_mem (hfaults ▸ List.mem_append_right pre List.mem_cons_self) hid
  obtain ⟨stats, hrun⟩ := dynamicHandler_read_of_active c registerContentInfo addr value hmode
    hactive (by decide) rfl hrow
  set r := dynamicResult p (c.opsOnRegisterCell (fault.id - 1)) value fault.params.mask with hr
  have hstep : registerContentStep addr .readAccessType c value fault =
      .ok ({ c with env := r.2.elim c.env (cellWrite c.env registerContentInfo addr), stats,
                    addressInUse := 0 }, r.1, { fault with isActive := true }) := by
    rw [registerContentStep_of_registerCell haddr htrigger hcomponent htarget hmode hrow,
      registerContentMode_of_cellFault hvalue hcell hcf, registerOpsLogged_read, hrun]
    rfl
  exact ⟨stats, runFaultList_only hfaults
    (fun f hf _ _ => registerContentStep_of_miss (hothers f hf).1 (hothers f hf).2) hstep⟩

theorem registerContent_of_dynamicFault_write {c : Controller} {pre post : List Fault}
    {fault : Fault} {addr : BitVec 64} (value : BitVec 32) {p : DynamicCell}
    (hfaults : c.faults = pre ++ fault :: post)
    (hothers : ∀ f ∈ pre ++ post,
      f.params.address ≠ addr.setWidth 32 ∧ f.params.cfAddress ≠ addr.setWidth 32)
    (haddr : fault.params.address = addr.setWidth 32)
    (hcf : fault.params.cfAddress ≠ addr.setWidth 32) (htrigger : fault.trigger = some "ACCESS")
    (hcomponent : fault.component = some "REGISTER")
    (htarget : fault.target = some "REGISTER CELL") (hmode : fault.mode = some (dynamicMode p))
    (hid : 0 < fault.id.toInt) :
    faultInjectionControllerRegisterContent c addr value .writeAccessType =
      .ok ({ c with
          opsOnRegisterCell := logCellOperations c.opsOnRegisterCell (c.env.readCpuRegister addr)
            fault value
          addressInUse := 0
          faults := pre ++ fault :: post }, value) := by
  obtain ⟨hvalue, hcell, -⟩ := dynamicMode_spec p
  have hrow := opsRowAllocated_of_mem (hfaults ▸ List.mem_append_right pre List.mem_cons_self) hid
  have hstep : registerContentStep addr .writeAccessType c value fault =
      .ok ({ c with
          opsOnRegisterCell := logCellOperations c.opsOnRegisterCell (c.env.readCpuRegister addr)
            fault value
          addressInUse := 0 }, value, fault) := by
    rw [registerContentStep_of_registerCell haddr htrigger hcomponent htarget hmode hrow,
      registerContentMode_of_cellFault hvalue hcell hcf, dynamicHandler_write]
    rfl
  exact runFaultList_only hfaults
    (fun f hf _ _ => registerContentStep_of_miss (hothers f hf).1 (hothers f hf).2) hstep

end Fies
