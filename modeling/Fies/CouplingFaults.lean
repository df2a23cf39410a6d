import Fies.CellFaults

/-!
# Coupling-fault handlers

`fault_injection_controller_cfst`, `_cfds`, `_cftr`, `_cfwd`, `_cfrd`,
`_cfir` and `_cfdr`.  A coupling fault names an aggressor cell (`address`) and
a victim cell (`cf_address`); with `address == cf_address` it is an
intra-word fault whose aggressor bits are those of `set_bit`.

The inter-word case is a closed bit formula per mode.  The intra-word case is
a guard on the aggressor bits followed by a loop over the mask that skips the
aggressor bits, setting `address_in_use = 0` on each skip, and sets or clears
victim bits according to one bit of a word; `intraCouplingLoop` is that loop
and `IntraStep` the outcome of the guard.  The handlers differ in the cells
they read, in the formulas and in where the merged word goes, so each keeps
its own body around these pieces.
-/

namespace Fies

open CRuntime BitMask Machine

/-- The outcome of the guard of an intra-word branch. -/
inductive IntraStep
  /-- the aggressor condition fails: `address_in_use = 0; return` -/
  | stop
  /-- run the mask loop: a victim bit whose bit in `word` is `whenSet` is set
  (`setVictim`) or cleared -/
  | run (word : BitVec 32) (whenSet setVictim : Bool)
  deriving DecidableEq, Repr

/-- The intra-word mask loop on `(fault_value, address_in_use)`. -/
def intraCouplingLoop (setBitParam word : BitVec 32) (whenSet setVictim : Bool)
    (mask faultValue : BitVec 32) (addressInUse : BitVec 64) : BitVec 32 × BitVec 64 :=
  forEachSetBit
    (fun (st : BitVec 32 × BitVec 64) setBit =>
      if setBit &&& setBitParam ≠ 0 then (st.1, 0)
      else if decide (setBit &&& word ≠ 0) = whenSet then
        (if setVictim then st.1 ||| setBit else st.1 &&& ~~~setBit, st.2)
      else st)
    mask (faultValue, addressInUse)

/-- The register or two-byte memory cell a coupling handler reads, into a
word holding `word`. -/
def readCouplingCell (c : Controller) (fiInfo : FaultInjectionInfo) (addr : BitVec 64)
    (word : BitVec 32) : BitVec 32 :=
  if fiInfo.faultOnRegister ≠ 0 then c.env.readCpuRegister addr
  else c.env.cpuMemoryRwDebugReadInto addr memoryCellBytes word

/-- `new_value(env, &address_in_use, fault, fi_info, 0)` with the content flag
cleared: the merged word goes to the cell `address_in_use` names. -/
def writeCellAtAddressInUse (c : Controller) (fault : Fault) (fiInfo : FaultInjectionInfo) :
    Except CError (Controller × Fault) := do
  let (c, addressInUse, fault) ← faultInjectionControllerNewValue c c.addressInUse fault
    { fiInfo with accessTriggeredContentFault := 0 } 0
  pure ({ c with addressInUse }, fault)

/-- `new_value` on a copy of the access value, copied back. -/
def writeAccessValue (c : Controller) (fault : Fault) (fiInfo : FaultInjectionInfo)
    (value : BitVec 32) : Except CError (Controller × Fault × BitVec 32) := do
  let (c, value64, fault) ← faultInjectionControllerNewValue c (value.setWidth 64) fault fiInfo 0
  pure (c, fault, value64.setWidth 32)

def Fault.withMask (fault : Fault) (mask : BitVec 32) : Fault :=
  { fault with params := { fault.params with mask } }

/-- `address_in_use = 0; return`. -/
def stopHandler (c : Controller) (fault : Fault) (value : BitVec 32) :
    Except CError (Controller × Fault × BitVec 32) :=
  pure ({ c with addressInUse := 0 }, fault, value)

/-! ## State coupling -/

/-- The intra-word branches of CFST, on the aggressor word. -/
def cfstIntra (mode : String) (setBitParam memwordAggressor : BitVec 32) : IntraStep :=
  match cChar mode 4, cChar mode 5 with
  | '0', '0' => if setBitParam &&& memwordAggressor ≠ 0 then .stop else .run memwordAggressor false true
  | '0', '1' => if setBitParam &&& memwordAggressor ≠ 0 then .stop else .run memwordAggressor true false
  | '1', '0' => if setBitParam &&& memwordAggressor = 0 then .stop else .run memwordAggressor false true
  | '1', '1' => if setBitParam &&& memwordAggressor = 0 then .stop else .run memwordAggressor true false
  | _, _ => .stop

def cfstInter (mode : String) (memwordAggressor memwordVictim : BitVec 32) : Option (BitVec 32) :=
  match cChar mode 4, cChar mode 5 with
  | '0', '0' => some (~~~(memwordAggressor &&& ~~~memwordVictim))
  | '0', '1' => some (memwordAggressor &&& memwordVictim)
  | '1', '0' => some (memwordAggressor ||| memwordVictim)
  | '1', '1' => some (~~~memwordAggressor &&& memwordVictim)
  | _, _ => none

/-- `fault_injection_controller_cfst`.  With the aggressor accessed
(`direction_agressor_to_victim`) the victim cell is written at once;
with the victim accessed the access value is replaced. -/
def faultInjectionControllerCfst (c : Controller) (fault : Fault) (fiInfo : FaultInjectionInfo)
    (_addr : BitVec 64) (aggressorValue : BitVec 32) (_accessType : AccessType)
    (directionAgressorToVictim : Bool) : Except CError (Controller × Fault × BitVec 32) := do
  let (c, memwordAggressor) :=
    if directionAgressorToVictim then (c, aggressorValue)
    else
      let c := { c with addressInUse := fault.params.address.signExtend 64 }
      (c, readCouplingCell c fiInfo c.addressInUse aggressorValue)
  let c := { c with addressInUse := fault.params.cfAddress.signExtend 64 }
  let memwordVictim := readCouplingCell c fiInfo c.addressInUse 0
  let mask := fault.params.mask
  let mode := fault.mode.getD ""
  let (faultValue, addressInUse) ←
    if fault.params.address = fault.params.cfAddress then
      match cfstIntra mode fault.params.setBit memwordAggressor with
      | .stop => return (← stopHandler c fault aggressorValue)
      | .run word whenSet setVictim =>
          pure (intraCouplingLoop fault.params.setBit word whenSet setVictim mask memwordAggressor
            c.addressInUse)
    else
      match cfstInter mode memwordAggressor memwordVictim with
      | none => return (← stopHandler c fault aggressorValue)
      | some faultValue => pure (faultValue, c.addressInUse)
  let c := { c with addressInUse }
  let lent := fault.withMask (merge faultValue mask memwordVictim)
  let (c, fault, aggressorValue) ←
    if directionAgressorToVictim then do
      let (c, fault) ← writeCellAtAddressInUse c lent fiInfo
      pure (c, fault, aggressorValue)
    else writeAccessValue c lent { fiInfo with accessTriggeredContentFault := 1 } aggressorValue
  pure ({ c with addressInUse := 0 }, fault.withMask mask, aggressorValue)

/-! ## Disturb coupling -/

/-- The intra-word branches of CFDS, on the victim word. -/
def cfdsIntra (mode : String) (accessType : AccessType)
    (setBitParam before after memwordVictim : BitVec 32) : IntraStep :=
  let guard (g : BitVec 32) (whenSet setVictim : Bool) : IntraStep :=
    if setBitParam &&& g ≠ 0 then .stop else .run memwordVictim whenSet setVictim
  if mode = "CFDS0W00" ∨ mode = "CFDS0R00" then guard (before ||| after) false true
  else if mode = "CFDS0W01" ∨ mode = "CFDS0R01" then guard (before ||| after) true false
  else if mode = "CFDS1W10" ∨ mode = "CFDS1R10" then guard (~~~(before &&& after)) false true
  else if mode = "CFDS1W11" ∨ mode = "CFDS1R11" then guard (~~~(before &&& after)) true false
  else if mode = "CFDS0W10" then
    if accessType = .readAccessType then .stop else guard (~~~(~~~before &&& after)) false true
  else if mode = "CFDS0W11" then
    if accessType = .readAccessType then .stop else guard (~~~(~~~before &&& after)) true false
  else if mode = "CFDS1W00" then
    if accessType = .readAccessType then .stop else guard (~~~(before &&& ~~~after)) false true
  else if mode = "CFDS1W01" then
    if accessType = .readAccessType then .stop else guard (~~~(before &&& ~~~after)) true false
  else .stop

/-- The inter-word formulas of CFDS; `before` and `after` are the aggressor
content and the access value, `v` the victim. -/
def cfdsInter (mode : String) (accessType : AccessType) (before after v : BitVec 32) :
    Option (BitVec 32) :=
  let writeOnly (fv : BitVec 32) : Option (BitVec 32) :=
    if accessType = .readAccessType then none else some fv
  if mode = "CFDS0W00" ∨ mode = "CFDS0R00" then some ((~~~before &&& ~~~after &&& ~~~v) ||| v)
  else if mode = "CFDS0W01" ∨ mode = "CFDS0R01" then some (~~~(~~~before &&& ~~~after &&& v) &&& v)
  else if mode = "CFDS1W10" ∨ mode = "CFDS1R10" then some ((before &&& after &&& ~~~v) ||| v)
  else if mode = "CFDS1W11" ∨ mode = "CFDS1R11" then some (~~~(before &&& after &&& v) &&& v)
  else if mode = "CFDS0W10" then writeOnly ((~~~before &&& after &&& ~~~v) ||| v)
  else if mode = "CFDS0W11" then writeOnly (~~~(~~~before &&& after &&& v) &&& v)
  else if mode = "CFDS1W00" then writeOnly ((before &&& ~~~after &&& ~~~v) ||| v)
  else if mode = "CFDS1W01" then writeOnly (~~~(before &&& ~~~after &&& v) &&& v)
  else none

/-- `fault_injection_controller_cfds`: an access to the aggressor writes the
victim cell through `address_in_use`; an intra-word fault also replaces the
access value. -/
def faultInjectionControllerCfds (c : Controller) (fault : Fault) (fiInfo : FaultInjectionInfo)
    (addr : BitVec 64) (aggressorValue : BitVec 32) (accessType : AccessType) :
    Except CError (Controller × Fault × BitVec 32) := do
  let c := { c with addressInUse := addr }
  let aggressorValueBefore := readCouplingCell c fiInfo c.addressInUse 0
  let c := { c with addressInUse := fault.params.cfAddress.signExtend 64 }
  let memwordVictim := readCouplingCell c fiInfo c.addressInUse 0
  let mask := fault.params.mask
  let mode := fault.mode.getD ""
  let intra := fault.params.address = fault.params.cfAddress
  let (faultValue, addressInUse) ←
    if intra then
      match cfdsIntra mode accessType fault.params.setBit aggressorValueBefore aggressorValue
          memwordVictim with
      | .stop => return (← stopHandler c fault aggressorValue)
      | .run word whenSet setVictim =>
          pure (intraCouplingLoop fault.params.setBit word whenSet setVictim mask memwordVictim
            c.addressInUse)
    else
      match cfdsInter mode accessType aggressorValueBefore aggressorValue memwordVictim with
      | none => return (← stopHandler c fault aggressorValue)
      | some faultValue => pure (faultValue, c.addressInUse)
  let c := { c with addressInUse }
  let lent := fault.withMask (merge faultValue mask memwordVictim)
  let (c, fault) ← writeCellAtAddressInUse c lent fiInfo
  let (c, fault, aggressorValue) ←
    if intra then writeAccessValue c fault { fiInfo with accessTriggeredContentFault := 1 } aggressorValue
    else pure (c, fault, aggressorValue)
  pure ({ c with addressInUse := 0 }, fault.withMask mask, aggressorValue)

/-! ## Transition and write-disturb coupling -/

/-- The intra-word branches of CFTR; `vb` and `vv` are the cell content and
the written value, the loop tests the aggressor word. -/
def cftrIntra (mode : String) (setBitParam vb vv memwordAggressor : BitVec 32) : IntraStep :=
  let guard (g : BitVec 32) (whenSet setVictim : Bool) : IntraStep :=
    if setBitParam &&& g ≠ 0 then .stop else .run memwordAggressor whenSet setVictim
  if mode = "CFTR01" then guard (~~~(~~~vb &&& vv)) false false
  else if mode = "CFTR00" then guard (~~~(vb &&& ~~~vv)) false true
  else if mode = "CFTR11" then guard (~~~(~~~vb &&& vv)) true false
  else if mode = "CFTR10" then guard (~~~(vb &&& ~~~vv)) true true
  else .stop

def cftrInter (mode : String) (agg vb vv : BitVec 32) : Option (BitVec 32) :=
  if mode = "CFTR01" then some (~~~(~~~agg &&& ~~~vb &&& vv) &&& vv)
  else if mode = "CFTR00" then some ((~~~agg &&& vb &&& ~~~vv) ||| vv)
  else if mode = "CFTR11" then some (~~~(agg &&& ~~~vb &&& vv) &&& vv)
  else if mode = "CFTR10" then some ((agg &&& vb &&& ~~~vv) ||| vv)
  else none

def cfwdIntra (mode : String) (setBitParam vb vv memwordAggressor : BitVec 32) : IntraStep :=
  let guard (g : BitVec 32) (whenSet setVictim : Bool) : IntraStep :=
    if setBitParam &&& g ≠ 0 then .stop else .run memwordAggressor whenSet setVictim
  if mode = "CFWD00" then guard (vb ||| vv) false true
  else if mode = "CFWD01" then guard (~~~(vb &&& vv)) false false
  else if mode = "CFWD10" then guard (vb ||| vv) true true
  else if mode = "CFWD11" then guard (~~~(vb &&& vv)) true false
  else .stop

def cfwdInter (mode : String) (agg vb vv : BitVec 32) : Option (BitVec 32) :=
  if mode = "CFWD00" then some ((~~~agg &&& ~~~vb &&& ~~~vv) ||| vv)
  else if mode = "CFWD01" then some (~~~(~~~agg &&& vb &&& vv) &&& vv)
  else if mode = "CFWD10" then some ((agg &&& ~~~vb &&& ~~~vv) ||| vv)
  else if mode = "CFWD11" then some (~~~(agg &&& vb &&& vv) &&& vv)
  else none

/-- The frame of `_cftr` and `_cfwd`: writes to the victim only; the aggressor
and the victim content are read, and the written value is replaced. -/
def writeCouplingFault
    (intraOf : String → BitVec 32 → BitVec 32 → BitVec 32 → BitVec 32 → IntraStep)
    (interOf : String → BitVec 32 → BitVec 32 → BitVec 32 → Option (BitVec 32))
    (c : Controller) (fault : Fault) (fiInfo : FaultInjectionInfo) (_addr : BitVec 64)
    (victimValue : BitVec 32) (accessType : AccessType) :
    Except CError (Controller × Fault × BitVec 32) := do
  if accessType = .readAccessType then return (← stopHandler c fault victimValue)
  let c := { c with addressInUse := fault.params.address.signExtend 64 }
  let memwordAggressor := readCouplingCell c fiInfo c.addressInUse 0
  let c := { c with addressInUse := fault.params.cfAddress.signExtend 64 }
  let victimValueBefore := readCouplingCell c fiInfo c.addressInUse 0
  let mask := fault.params.mask
  let mode := fault.mode.getD ""
  let (faultValue, addressInUse) ←
    if fault.params.address = fault.params.cfAddress then
      match intraOf mode fault.params.setBit victimValueBefore victimValue memwordAggressor with
      | .stop => return (← stopHandler c fault victimValue)
      | .run word whenSet setVictim =>
          pure (intraCouplingLoop fault.params.setBit word whenSet setVictim mask victimValue
            c.addressInUse)
    else
      match interOf mode memwordAggressor victimValueBefore victimValue with
      | none => return (← stopHandler c fault victimValue)
      | some faultValue => pure (faultValue, c.addressInUse)
  let c := { c with addressInUse }
  let (c, fault, victimValue) ←
    writeAccessValue c (fault.withMask (merge faultValue mask victimValue)) fiInfo victimValue
  pure ({ c with addressInUse := 0 }, fault.withMask mask, victimValue)

/-- `fault_injection_controller_cftr`. -/
def faultInjectionControllerCftr : Controller → Fault → FaultInjectionInfo → BitVec 64 →
    BitVec 32 → AccessType → Except CError (Controller × Fault × BitVec 32) :=
  writeCouplingFault cftrIntra cftrInter

/-- `fault_injection_controller_cfwd`. -/
def faultInjectionControllerCfwd : Controller → Fault → FaultInjectionInfo → BitVec 64 →
    BitVec 32 → AccessType → Except CError (Controller × Fault × BitVec 32) :=
  writeCouplingFault cfwdIntra cfwdInter

/-- CFTR01 with aggressor bit 0 (`set_bit` 1) and victim bit 1 (mask 2) on
zeroed memory, for a write of 2: the victim bit goes from 0 to 1 while the
aggressor bit stays 0.  The inter-word fault (aggressor cell 0x200) fails the
transition and delivers 0; the intra-word fault (both bits in cell 0x100)
delivers 2, because its guard asks the aggressor bit to rise. -/
theorem cftr_intra_disagrees_with_inter :
    (faultInjectionControllerCftr (Controller.loaded Machine.zero [])
        (Fault.permanent "ACCESS" "RAM" "MEMORY CELL" "CFTR01" ⟨0x200, 0x100, 2, -1, 1⟩)
        { FaultInjectionInfo.zero with accessTriggeredContentFault := 1 } 0x100 2
        .writeAccessType).map (·.2.2) = .ok 0 ∧
      (faultInjectionControllerCftr (Controller.loaded Machine.zero [])
        (Fault.permanent "ACCESS" "RAM" "MEMORY CELL" "CFTR01" ⟨0x100, 0x100, 2, -1, 1⟩)
        { FaultInjectionInfo.zero with accessTriggeredContentFault := 1 } 0x100 2
        .writeAccessType).map (·.2.2) = .ok 2 := by
  decide +kernel

/-! ## Read coupling -/

/-- The intra-word branches of CFRD, CFIR and CFDR (`name` is the four-letter
prefix of the mode): the guard reads the aggressor bit in the value read. -/
def readCouplingIntra (name mode : String) (setBitParam vv memwordAggressor : BitVec 32) :
    IntraStep :=
  let guard (g : BitVec 32) (whenSet setVictim : Bool) : IntraStep :=
    if setBitParam &&& g ≠ 0 then .stop else .run memwordAggressor whenSet setVictim
  if mode = name ++ "00" then guard vv false true
  else if mode = name ++ "01" then guard vv true false
  else if mode = name ++ "10" then guard (~~~vv) false true
  else if mode = name ++ "11" then guard (~~~vv) true false
  else .stop

def readCouplingInter (name mode : String) (agg vv : BitVec 32) : Option (BitVec 32) :=
  if mode = name ++ "00" then some ((~~~agg &&& ~~~vv) ||| vv)
  else if mode = name ++ "01" then some (~~~(~~~agg &&& vv) &&& vv)
  else if mode = name ++ "10" then some ((agg &&& ~~~vv) ||| vv)
  else if mode = name ++ "11" then some (~~~(agg &&& vv) &&& vv)
  else none

/-- The frame of `_cfrd`, `_cfir` and `_cfdr`: reads of the victim only.  The
merged word replaces the value read (CFRD, CFIR) and is written to the victim
cell (CFRD, CFDR). -/
def readCouplingFault (name : String) (sink : CellSink) (c : Controller) (fault : Fault)
    (fiInfo : FaultInjectionInfo) (_addr : BitVec 64) (victimValue : BitVec 32)
    (accessType : AccessType) : Except CError (Controller × Fault × BitVec 32) := do
  if accessType = .writeAccessType then return (← stopHandler c fault victimValue)
  let c := { c with addressInUse := fault.params.address.signExtend 64 }
  let memwordAggressor := readCouplingCell c fiInfo c.addressInUse 0
  let mask := fault.params.mask
  let mode := fault.mode.getD ""
  let (faultValue, addressInUse) ←
    if fault.params.address = fault.params.cfAddress then
      match readCouplingIntra name mode fault.params.setBit victimValue memwordAggressor with
      | .stop => return (← stopHandler c fault victimValue)
      | .run word whenSet setVictim =>
          pure (intraCouplingLoop fault.params.setBit word whenSet setVictim mask victimValue
            c.addressInUse)
    else
      match readCouplingInter name mode memwordAggressor victimValue with
      | none => return (← stopHandler c fault victimValue)
      | some faultValue => pure (faultValue, c.addressInUse)
  let c := { c with addressInUse }
  let lent := fault.withMask (merge faultValue mask victimValue)
  let (c, lent, readValue) ←
    if sink = .cell then pure (c, lent, victimValue) else writeAccessValue c lent fiInfo victimValue
  let (c, lent) ←
    if sink = .access then pure (c, lent)
    else
      writeCellAtAddressInUse { c with addressInUse := fault.params.cfAddress.signExtend 64 } lent
        fiInfo
  pure ({ c with addressInUse := 0 }, lent.withMask mask, readValue)

/-- `fault_injection_controller_cfrd`. -/
def faultInjectionControllerCfrd : Controller → Fault → FaultInjectionInfo → BitVec 64 →
    BitVec 32 → AccessType → Except CError (Controller × Fault × BitVec 32) :=
  readCouplingFault "CFRD" .accessThenCell

/-- `fault_injection_controller_cfir`. -/
def faultInjectionControllerCfir : Controller → Fault → FaultInjectionInfo → BitVec 64 →
    BitVec 32 → AccessType → Except CError (Controller × Fault × BitVec 32) :=
  readCouplingFault "CFIR" .access

/-- `fault_injection_controller_cfdr`. -/
def faultInjectionControllerCfdr : Controller → Fault → FaultInjectionInfo → BitVec 64 →
    BitVec 32 → AccessType → Except CError (Controller × Fault × BitVec 32) :=
  readCouplingFault "CFDR" .cell

end Fies
