import Fies.Dispatch
import Fies.FaultLibrary
import Fies.FaultPrimitives

/-!
# Static single-cell faults and their primitives

The modes TF0 ... DRDF1 name the primitives of `FaultPrimitives`.  Each of
the five static handlers is the frame `singleCellFault` with its own
arguments; this file relates what an active handler makes of an access to
the primitive, bit by bit, and lifts the relation through the content
dispatchers of RAM and registers.
-/

namespace Fies

open CRuntime BitMask Machine FaultPrimitives

def staticPrimitive (mode : String) : Option SingleCell :=
  if mode = "TF0" then some (.tf false)
  else if mode = "TF1" then some (.tf true)
  else if mode = "WDF0" then some (.wdf false)
  else if mode = "WDF1" then some (.wdf true)
  else if mode = "RDF0" then some (.rdf false)
  else if mode = "RDF1" then some (.rdf true)
  else if mode = "IRF0" then some (.irf false)
  else if mode = "IRF1" then some (.irf true)
  else if mode = "DRDF0" then some (.drdf false)
  else if mode = "DRDF1" then some (.drdf true)
  else none

/-- The arguments a static handler gives `singleCellFault`. -/
structure StaticFrame where
  ignoredAccess : AccessType
  modeIndex : Nat
  faultWord : Char → Option (BitVec 32 → BitVec 32 → BitVec 32)
  sink : CellSink

def StaticFrame.handler (f : StaticFrame) : CellHandler :=
  singleCellFault f.ignoredAccess f.modeIndex f.faultWord f.sink

/-- The frame of the handler of each primitive, as `fault_injection_controller_tf`
... `_drdf` instantiate it. -/
def staticFrame : SingleCell → StaticFrame
  | .tf _ => ⟨.readAccessType, 2, tfWord, .access⟩
  | .wdf _ => ⟨.readAccessType, 3, wdfWord, .access⟩
  | .rdf _ => ⟨.writeAccessType, 3, readFaultWord, .accessThenCell⟩
  | .irf _ => ⟨.writeAccessType, 3, readFaultWord, .access⟩
  | .drdf _ => ⟨.writeAccessType, 4, readFaultWord, .cell⟩

def staticDigit : SingleCell → Char
  | .tf x | .wdf x | .rdf x | .irf x | .drdf x => if x then '1' else '0'

/-- The faulty word the handler's table gives for the primitive's digit. -/
def staticWord (p : SingleCell) : BitVec 32 → BitVec 32 → BitVec 32 :=
  ((staticFrame p).faultWord (staticDigit p)).getD fun _ value => value

theorem faultWord_staticDigit (p : SingleCell) :
    (staticFrame p).faultWord (staticDigit p) = some (staticWord p) := by
  cases p <;> rename_i x <;> cases x <;> rfl

theorem staticPrimitive_spec {mode : String} {p : SingleCell}
    (h : staticPrimitive mode = some p) :
    valueFaultHandler mode = none ∧ cellFaultHandler mode = some (staticFrame p).handler ∧
      cChar mode (staticFrame p).modeIndex = staticDigit p := by
  unfold staticPrimitive at h
  simp only [ite_eq_iff, Option.some.injEq, reduceCtorEq, and_false] at h
  repeat' rcases h with ⟨rfl, rfl⟩ | ⟨-, h⟩
  all_goals exact ⟨rfl, rfl, rfl⟩

/-- What the handler of `p` makes of an access while its fault is active: the
value delivered, and the word written to the cell, if any. -/
def staticResult (p : SingleCell) (cell value mask : BitVec 32) (accessType : AccessType) :
    BitVec 32 × Option (BitVec 32) :=
  let f := staticFrame p
  if accessType = f.ignoredAccess then (value, none)
  else
    let merged := merge (staticWord p cell value) mask value
    (f.sink.deliveredValue merged value, if f.sink.writesCell then some merged else none)

/-! ## The handlers -/

theorem staticHandler_of_active {p : SingleCell} (c : Controller) {fault : Fault}
    (fiInfo : FaultInjectionInfo) (addr : BitVec 64) (value : BitVec 32)
    (accessType : AccessType) {mode : String}
    (hmode : fault.mode = some mode) (hp : staticPrimitive mode = some p)
    (hactive : activeNow fault 0 (getTimer c) = true)
    (hcontent : fiInfo.accessTriggeredContentFault ≠ 0) (hbf : fiInfo.bitFlip = 0) :
    ∃ c' fault', (staticFrame p).handler c fault fiInfo addr value accessType =
        .ok (c', fault',
          (staticResult p (cellWord c.env fiInfo addr) value fault.params.mask accessType).1) ∧
      c'.env = (staticResult p (cellWord c.env fiInfo addr) value fault.params.mask
        accessType).2.elim c.env (cellWrite c.env fiInfo addr) := by
  by_cases hacc : accessType = (staticFrame p).ignoredAccess
  · refine ⟨{ c with addressInUse := 0 }, fault, ?_, ?_⟩
    · simp [StaticFrame.handler, singleCellFault, hacc, staticResult]
    · simp [staticResult, hacc]
  · have hword : (staticFrame p).faultWord (cChar (fault.mode.getD "") (staticFrame p).modeIndex) =
        some (staticWord p) := by
      rw [hmode, Option.getD_some, (staticPrimitive_spec hp).2.2, faultWord_staticDigit]
    obtain ⟨c', hrun, henv⟩ := singleCellFault_of_active (staticFrame p).sink addr value hacc
      hword hactive hcontent hbf
    refine ⟨c', { fault with isActive := true }, ?_, ?_⟩
    · simpa [StaticFrame.handler, staticResult, hacc] using hrun
    · rw [henv]
      cases hsink : (staticFrame p).sink.writesCell <;> simp [staticResult, hacc, hsink]

/-! ## One bit -/

/-- Bit `i` of the faulty word, from bit `i` of the cell and of the access
value: the tables are bitwise. -/
def staticBit : SingleCell → Bool → Bool → Bool
  | .tf x, c, v => if x then c && v else c || v
  | .wdf x, c, v => if x then !c && v else !(c && !v)
  | .rdf x, _, _ | .irf x, _, _ | .drdf x, _, _ => !x

theorem getLsbD_staticWord (p : SingleCell) (cell value : BitVec 32) {i : Nat} (hi : i < 32) :
    (staticWord p cell value).getLsbD i = staticBit p (cell.getLsbD i) (value.getLsbD i) := by
  cases p <;> rename_i x <;> cases x <;>
    simp [staticWord, staticFrame, staticDigit, tfWord, wdfWord, readFaultWord, staticBit, hi,
      -BitVec.reduceAllOnes]

/-- `staticResult` on one bit, with `c`, `v`, `m` the bits of the cell, the
access value and the mask. -/
def staticResultBit (p : SingleCell) (c v m : Bool) (accessType : AccessType) :
    Bool × Option Bool :=
  let f := staticFrame p
  if accessType = f.ignoredAccess then (v, none)
  else
    let merged := if m then staticBit p c v else v
    (if f.sink = .cell then v else merged, if f.sink.writesCell then some merged else none)

theorem getLsbD_staticResult_fst (p : SingleCell) (cell value mask : BitVec 32)
    (accessType : AccessType) {i : Nat} (hi : i < 32) :
    (staticResult p cell value mask accessType).1.getLsbD i =
      (staticResultBit p (cell.getLsbD i) (value.getLsbD i) (mask.getLsbD i) accessType).1 := by
  by_cases hacc : accessType = (staticFrame p).ignoredAccess
  · simp [staticResult, staticResultBit, hacc]
  · simp only [staticResult, staticResultBit, hacc, if_false]
    cases (staticFrame p).sink <;>
      simp [CellSink.deliveredValue, getLsbD_staticWord p cell value hi]

theorem getLsbD_staticResult_snd (p : SingleCell) (cell value mask : BitVec 32)
    (accessType : AccessType) {i : Nat} (hi : i < 32) :
    ((staticResult p cell value mask accessType).2.getD cell).getLsbD i =
      (staticResultBit p (cell.getLsbD i) (value.getLsbD i) (mask.getLsbD i)
        accessType).2.getD (cell.getLsbD i) := by
  by_cases hacc : accessType = (staticFrame p).ignoredAccess
  · simp [staticResult, staticResultBit, hacc]
  · simp only [staticResult, staticResultBit, hacc, if_false]
    cases (staticFrame p).sink.writesCell <;> simp [getLsbD_staticWord p cell value hi]

/-- How an access to bit `i` is seen: the bit delivered, and the bit the cell
holds once the access is over (a write stores the delivered value). -/
def accessOutcome (accessType : AccessType) (delivered cellAfter : BitVec 32) (i : Nat) :
    Bool × Bool :=
  (delivered.getLsbD i,
    if accessType = .writeAccessType then delivered.getLsbD i else cellAfter.getLsbD i)

def accessOp (accessType : AccessType) (value : BitVec 32) (i : Nat) : Op :=
  if accessType = .writeAccessType then .write (value.getLsbD i) else .read

theorem staticResultBit_outcome (p : SingleCell) (c v m : Bool) (accessType : AccessType)
    (hacc : accessType = .readAccessType ∨ accessType = .writeAccessType)
    (hread : accessType = .readAccessType → v = c) :
    ((staticResultBit p c v m accessType).1,
        if accessType = .writeAccessType then (staticResultBit p c v m accessType).1
        else (staticResultBit p c v m accessType).2.getD c) =
      if m then p.apply c (if accessType = .writeAccessType then .write v else .read)
      else faultFree c (if accessType = .writeAccessType then .write v else .read) := by
  rcases hacc with rfl | rfl
  · obtain rfl := hread rfl
    cases p <;> rename_i x <;> cases x <;> cases v <;> cases m <;> decide
  · cases p <;> rename_i x <;> cases x <;> cases c <;> cases v <;> cases m <;> decide

theorem staticResult_bit (p : SingleCell) (cell value mask : BitVec 32)
    (accessType : AccessType) {i : Nat} (hi : i < 32)
    (hacc : accessType = .readAccessType ∨ accessType = .writeAccessType)
    (hread : accessType = .readAccessType → value.getLsbD i = cell.getLsbD i) :
    accessOutcome accessType (staticResult p cell value mask accessType).1
        ((staticResult p cell value mask accessType).2.getD cell) i =
      if mask.getLsbD i then p.apply (cell.getLsbD i) (accessOp accessType value i)
      else faultFree (cell.getLsbD i) (accessOp accessType value i) := by
  rw [accessOutcome, accessOp, getLsbD_staticResult_fst p cell value mask accessType hi,
    getLsbD_staticResult_snd p cell value mask accessType hi]
  exact staticResultBit_outcome p _ _ _ accessType hacc hread

/-! ## The dispatchers -/

theorem memoryContent_of_staticFault {c : Controller} {pre post : List Fault} {fault : Fault}
    {addr : BitVec 64} (value : BitVec 32) (accessType : AccessType) {mode : String}
    {p : SingleCell} (hfaults : c.faults = pre ++ fault :: post)
    (hothers : ∀ f ∈ pre ++ post,
      f.params.address ≠ addr.setWidth 32 ∧ f.params.cfAddress ≠ addr.setWidth 32)
    (haddr : fault.params.address = addr.setWidth 32)
    (hcf : fault.params.cfAddress ≠ addr.setWidth 32) (htrigger : fault.trigger = some "ACCESS")
    (hcomponent : fault.component = some "RAM") (htarget : fault.target = some "MEMORY CELL")
    (hmode : fault.mode = some mode) (hp : staticPrimitive mode = some p)
    (hid : 0 < fault.id.toInt) (hactive : activeNow fault 0 (getTimer c) = true) :
    ∃ c', faultInjectionControllerMemoryContent c addr value accessType =
        .ok (c', (staticResult p (cellWord c.env memoryContentInfo addr) value fault.params.mask
          accessType).1) ∧
      c'.env = (staticResult p (cellWord c.env memoryContentInfo addr) value fault.params.mask
        accessType).2.elim c.env (cellWrite c.env memoryContentInfo addr) := by
  obtain ⟨hvalue, hcell, -⟩ := staticPrimitive_spec hp
  have hrow := opsRowAllocated_of_mem (hfaults ▸ List.mem_append_right pre List.mem_cons_self) hid
  obtain ⟨c', fault', hrun, henv⟩ := staticHandler_of_active
    (memoryOpsLogged c fault addr value accessType) memoryContentInfo addr value
    accessType hmode hp (by simpa using hactive) (by decide) rfl
  simp only [memoryOpsLogged_env] at hrun henv
  have hstep : memoryContentStep addr accessType c value fault =
      .ok (c', (staticResult p (cellWord c.env memoryContentInfo addr) value fault.params.mask
        accessType).1, fault') := by
    rw [memoryContentStep_of_memoryCell haddr htrigger hcomponent htarget hmode hrow,
      memoryContentMode_of_cellFault hvalue hcell hcf, hrun]
    rfl
  refine ⟨{ c' with faults := pre ++ fault' :: post }, ?_, henv⟩
  exact runFaultList_only hfaults
    (fun f hf _ _ => memoryContentStep_of_miss (hothers f hf).1 (hothers f hf).2) hstep

theorem registerContent_of_staticFault {c : Controller} {pre post : List Fault} {fault : Fault}
    {addr : BitVec 64} (value : BitVec 32) (accessType : AccessType) {mode : String}
    {p : SingleCell} (hfaults : c.faults = pre ++ fault :: post)
    (hothers : ∀ f ∈ pre ++ post,
      f.params.address ≠ addr.setWidth 32 ∧ f.params.cfAddress ≠ addr.setWidth 32)
    (haddr : fault.params.address = addr.setWidth 32)
    (hcf : fault.params.cfAddress ≠ addr.setWidth 32) (htrigger : fault.trigger = some "ACCESS")
    (hcomponent : fault.component = some "REGISTER")
    (htarget : fault.target = some "REGISTER CELL")
    (hmode : fault.mode = some mode) (hp : staticPrimitive mode = some p)
    (hid : 0 < fault.id.toInt) (hactive : activeNow fault 0 (getTimer c) = true) :
    ∃ c', faultInjectionControllerRegisterContent c addr value accessType =
        .ok (c', (staticResult p (cellWord c.env registerContentInfo addr) value fault.params.mask
          accessType).1) ∧
      c'.env = (staticResult p (cellWord c.env registerContentInfo addr) value fault.params.mask
        accessType).2.elim c.env (cellWrite c.env registerContentInfo addr) := by
  obtain ⟨hvalue, hcell, -⟩ := staticPrimitive_spec hp
  have hrow := opsRowAllocated_of_mem (hfaults ▸ List.mem_append_right pre List.mem_cons_self) hid
  obtain ⟨c', fault', hrun, henv⟩ := staticHandler_of_active
    (registerOpsLogged c fault addr value accessType) registerContentInfo addr value
    accessType hmode hp (by simpa using hactive) (by decide) rfl
  simp only [registerOpsLogged_env] at hrun henv
  have hstep : registerContentStep addr accessType c value fault =
      .ok (c', (staticResult p (cellWord c.env registerContentInfo addr) value fault.params.mask
        accessType).1, fault') := by
    rw [registerContentStep_of_registerCell haddr htrigger hcomponent htarget hmode hrow,
      registerContentMode_of_cellFault hvalue hcell hcf, hrun]
    rfl
  refine ⟨{ c' with faults := pre ++ fault' :: post }, ?_, henv⟩
  exact runFaultList_only hfaults
    (fun f hf _ _ => registerContentStep_of_miss (hothers f hf).1 (hothers f hf).2) hstep

/-! ## The contract -/

/-- The contract of a content dispatcher for static faults.  Take a read or a
write of a cell (`validCell`) that an active ACCESS-triggered static fault of
the given component and target names, whose `cf_address` is elsewhere and
that no other entry names, with a positive id (the history arrays have rows
for the ids 1 to the largest); a read reads the cell.  Then bit `i < width` of
the access goes as the primitive says where the mask is set, and fault free
elsewhere. -/
def StaticFaultContract
    (dispatcher : Controller → BitVec 64 → BitVec 32 → AccessType →
      Except CError (Controller × BitVec 32))
    (component target : String) (cellRead : Machine → BitVec 64 → BitVec 32) (width : Nat)
    (validCell : BitVec 64 → Prop) : Prop :=
  ∀ (c : Controller) (pre post : List Fault) (fault : Fault) (addr : BitVec 64)
    (value : BitVec 32) (accessType : AccessType) (mode : String) (p : SingleCell),
    validCell addr → c.faults = pre ++ fault :: post →
    (∀ f ∈ pre ++ post,
      f.params.address ≠ addr.setWidth 32 ∧ f.params.cfAddress ≠ addr.setWidth 32) →
    fault.params.address = addr.setWidth 32 → fault.params.cfAddress ≠ addr.setWidth 32 →
    fault.trigger = some "ACCESS" → fault.component = some component →
    fault.target = some target → fault.mode = some mode → staticPrimitive mode = some p →
    0 < fault.id.toInt → activeNow fault 0 (getTimer c) = true →
    (accessType = .readAccessType ∨ accessType = .writeAccessType) →
    (accessType = .readAccessType →
      ∀ i < width, value.getLsbD i = (cellRead c.env addr).getLsbD i) →
    ∃ c' value', dispatcher c addr value accessType = .ok (c', value') ∧
      ∀ i < width, accessOutcome accessType value' (cellRead c'.env addr) i =
        if fault.params.mask.getLsbD i then
          p.apply ((cellRead c.env addr).getLsbD i) (accessOp accessType value i)
        else faultFree ((cellRead c.env addr).getLsbD i) (accessOp accessType value i)

theorem memoryContent_staticFaultContract :
    StaticFaultContract faultInjectionControllerMemoryContent "RAM" "MEMORY CELL"
      (fun env addr => env.cpuMemoryRwDebugRead addr memoryCellBytes) memoryWidth
      (fun _ => True) := by
  intro c pre post fault addr value accessType mode p _ hfaults hothers haddr hcf htrigger
    hcomponent htarget hmode hp hid hactive hacc hread
  obtain ⟨c', hrun, henv⟩ := memoryContent_of_staticFault value accessType hfaults hothers haddr
    hcf htrigger hcomponent htarget hmode hp hid hactive
  refine ⟨c', _, hrun, fun i hi => ?_⟩
  have hi32 : i < 32 := by simp [memoryWidth] at hi; omega
  have hafter : (c'.env.cpuMemoryRwDebugRead addr memoryCellBytes).getLsbD i =
      ((staticResult p (cellWord c.env memoryContentInfo addr) value fault.params.mask
        accessType).2.getD (cellWord c.env memoryContentInfo addr)).getLsbD i := by
    rw [henv]
    exact getLsbD_cellWord_elim_cellWrite_memory c.env memoryContentInfo addr _ rfl rfl hi
  have hbit := staticResult_bit p (cellWord c.env memoryContentInfo addr) value fault.params.mask
    accessType hi32 hacc (fun h => hread h i hi)
  simp only [accessOutcome] at hbit ⊢
  rw [hafter]
  exact hbit

theorem registerContent_staticFaultContract :
    StaticFaultContract faultInjectionControllerRegisterContent "REGISTER" "REGISTER CELL"
      (fun env addr => env.readCpuRegister addr) 32 (fun addr => addr.toNat < 16) := by
  intro c pre post fault addr value accessType mode p hreg hfaults hothers haddr hcf htrigger
    hcomponent htarget hmode hp hid hactive hacc hread
  obtain ⟨c', hrun, henv⟩ := registerContent_of_staticFault value accessType hfaults hothers
    haddr hcf htrigger hcomponent htarget hmode hp hid hactive
  refine ⟨c', _, hrun, fun i hi => ?_⟩
  have hafter : c'.env.readCpuRegister addr =
      (staticResult p (cellWord c.env registerContentInfo addr) value fault.params.mask
        accessType).2.getD (cellWord c.env registerContentInfo addr) := by
    rw [henv]
    exact cellWord_elim_cellWrite_register c.env registerContentInfo addr _ (by decide) rfl
      (slt_sixteen_of_toNat_lt hreg)
  have hbit := staticResult_bit p (cellWord c.env registerContentInfo addr) value
    fault.params.mask accessType hi hacc (fun h => hread h i hi)
  dsimp only
  rw [hafter]
  exact hbit

theorem staticFaults_follow_primitives :
    StaticFaultContract faultInjectionControllerMemoryContent "RAM" "MEMORY CELL"
        (fun env addr => env.cpuMemoryRwDebugRead addr memoryCellBytes) memoryWidth
        (fun _ => True) ∧
      StaticFaultContract faultInjectionControllerRegisterContent "REGISTER" "REGISTER CELL"
        (fun env addr => env.readCpuRegister addr) 32 (fun addr => addr.toNat < 16) :=
  ⟨memoryContent_staticFaultContract, registerContent_staticFaultContract⟩

theorem staticFaults_follow_primitives_tf1 :
    ∃ c' value', faultInjectionControllerMemoryContent
        (Controller.loaded Machine.zero
          [Fault.permanent "ACCESS" "RAM" "MEMORY CELL" "TF1" ⟨0x100, 0x200, 1, -1, -1⟩])
        0x100 1 .writeAccessType = .ok (c', value') ∧ value'.getLsbD 0 = false := by
  obtain ⟨c', value', hrun, hbits⟩ := staticFaults_follow_primitives.1
    (Controller.loaded Machine.zero
      [Fault.permanent "ACCESS" "RAM" "MEMORY CELL" "TF1" ⟨0x100, 0x200, 1, -1, -1⟩]) [] []
    (Fault.permanent "ACCESS" "RAM" "MEMORY CELL" "TF1" ⟨0x100, 0x200, 1, -1, -1⟩)
    0x100 1 .writeAccessType "TF1" (.tf true) trivial rfl (by simp) rfl (by decide) rfl rfl rfl
    rfl (by decide) (by decide) (by decide +kernel) (by simp) (by simp)
  have hbit := hbits 0 (by decide)
  simp [accessOutcome, accessOp, Fault.permanent, Controller.loaded, cpuMemoryRwDebugRead,
    SingleCell.apply] at hbit
  exact ⟨c', value', hrun, by simpa using hbit⟩

/-- A static fault whose `cf_address` is its own address is never injected:
the RAM dispatcher skips it, so a write of 1 over the 0 of a TF1 cell delivers
1, where TF1 keeps 0.  The same fault with id 0, which the loader only warns
about, has no history row, and the write crashes in the logger. -/
theorem staticFault_own_cfAddress_skipped_id_zero_crashes :
    (faultInjectionControllerMemoryContent
        (Controller.loaded Machine.zero
          [Fault.permanent "ACCESS" "RAM" "MEMORY CELL" "TF1" ⟨0x100, 0x100, 1, -1, -1⟩])
        0x100 1 .writeAccessType).map Prod.snd = .ok 1 ∧
      (SingleCell.apply (.tf true) false (.write true)).1 = false ∧
      (faultInjectionControllerMemoryContent
        (Controller.loaded Machine.zero
          [{ Fault.permanent "ACCESS" "RAM" "MEMORY CELL" "TF1" ⟨0x100, 0x200, 1, -1, -1⟩ with
            id := 0 }])
        0x100 1 .writeAccessType).map Prod.snd = .error .outOfBounds := by
  decide +kernel

end Fies
