import Fies.CellFaults
import Fies.CouplingFaults

/-!
# The dispatchers and the controller entry point

`fault_injection_controller_init` is what every hook calls.  It logs the
access for the profiler, returns when the accessed address is the one a
handler is busy with (`address_in_use`), and otherwise hands the access to
the dispatcher of its injection mode.  Each dispatcher runs once over the
fault list; an entry is skipped (`continue`) unless its address, trigger,
component and target fit the access, and then its mode string selects a
handler.

The content dispatchers of RAM and registers share their value and
single-cell modes but not their coupling guards: the register one refuses an
unset `cf_address` and compares the victim with `(int)*addr` where the RAM one
compares the whole 64-bit `*addr`.  Each keeps its own coupling table.
-/

namespace Fies

open CRuntime BitMask Machine

/-! ## The fault-list loop -/

/-- The loop `for (element = 0; element < getNumFaultListElements(); element++)`:
`step` handles each entry with the state and the access buffer, and the entry
it gives back takes the old one's place.  No handler reads the fault list, so
the loop runs over the list taken out of the state. -/
def forEachFaultListElement {β : Type}
    (step : Controller → β → Fault → Except CError (Controller × β × Fault)) :
    Controller → β → List Fault → Except CError (Controller × β × List Fault)
  | c, b, [] => pure (c, b, [])
  | c, b, fault :: faults => do
      let (c, b, fault) ← step c b fault
      let (c, b, faults) ← forEachFaultListElement step c b faults
      pure (c, b, fault :: faults)

def runFaultList {β : Type}
    (step : Controller → β → Fault → Except CError (Controller × β × Fault))
    (c : Controller) (b : β) : Except CError (Controller × β) := do
  let (c, b, faults) ← forEachFaultListElement step c b c.faults
  pure ({ c with faults }, b)

theorem forEachFaultListElement_of_skip {β : Type}
    {step : Controller → β → Fault → Except CError (Controller × β × Fault)}
    {c : Controller} {b : β} {faults : List Fault}
    (hskip : ∀ f ∈ faults, ∀ c, step c b f = .ok (c, b, f)) :
    forEachFaultListElement step c b faults = .ok (c, b, faults) := by
  induction faults with
  | nil => rfl
  | cons f faults ih =>
      have hrest := ih (fun g hg => hskip g (List.mem_cons_of_mem f hg))
      simp [forEachFaultListElement, hskip f List.mem_cons_self, hrest]

theorem forEachFaultListElement_only {β : Type}
    {step : Controller → β → Fault → Except CError (Controller × β × Fault)}
    {c c' : Controller} {b b' : β} {pre post : List Fault} {fault fault' : Fault}
    (hskip : ∀ f ∈ pre ++ post, ∀ c b, step c b f = .ok (c, b, f))
    (hfault : step c b fault = .ok (c', b', fault')) :
    forEachFaultListElement step c b (pre ++ fault :: post) = .ok (c', b', pre ++ fault' :: post) := by
  induction pre with
  | nil =>
      have hpost : forEachFaultListElement step c' b' post = .ok (c', b', post) :=
        forEachFaultListElement_of_skip (fun f hf c => hskip f (by simpa using hf) c b')
      simp [forEachFaultListElement, hfault, hpost]
  | cons f pre ih =>
      have hrest := ih (fun g hg => hskip g (List.mem_cons_of_mem f hg))
      simp [forEachFaultListElement, hskip f List.mem_cons_self, hrest]

theorem runFaultList_only {β : Type}
    {step : Controller → β → Fault → Except CError (Controller × β × Fault)}
    {c c' : Controller} {b b' : β} {pre post : List Fault} {fault fault' : Fault}
    (hfaults : c.faults = pre ++ fault :: post)
    (hskip : ∀ f ∈ pre ++ post, ∀ c b, step c b f = .ok (c, b, f))
    (hfault : step c b fault = .ok (c', b', fault')) :
    runFaultList step c b = .ok ({ c' with faults := pre ++ fault' :: post }, b') := by
  simp [runFaultList, hfaults, forEachFaultListElement_only hskip hfault]

/-! ## Mode tables -/

def valueFaultHandler (mode : String) : Option (Controller → BitVec 64 → Fault →
    FaultInjectionInfo → BitVec 32 → Except CError (Controller × BitVec 64 × Fault)) :=
  if mode = "BIT-FLIP" then some faultInjectionControllerBf
  else if mode = "NEW VALUE" then some faultInjectionControllerNewValue
  else if mode = "SF" then some faultInjectionControllerRs
  else none

theorem valueFaultHandler_eq_some {mode : String}
    {h : Controller → BitVec 64 → Fault → FaultInjectionInfo → BitVec 32 →
      Except CError (Controller × BitVec 64 × Fault)}
    (hmode : valueFaultHandler mode = some h) :
    (mode = "BIT-FLIP" ∧ h = faultInjectionControllerBf) ∨
      (mode = "NEW VALUE" ∧ h = faultInjectionControllerNewValue) ∨
      (mode = "SF" ∧ h = faultInjectionControllerRs) := by
  unfold valueFaultHandler at hmode
  split_ifs at hmode with hbf hnew hsf <;> cases hmode
  · exact .inl ⟨hbf, rfl⟩
  · exact .inr (.inl ⟨hnew, rfl⟩)
  · exact .inr (.inr ⟨hsf, rfl⟩)

/-- The signature of the content-fault handlers. -/
abbrev CellHandler := Controller → Fault → FaultInjectionInfo → BitVec 64 → BitVec 32 →
  AccessType → Except CError (Controller × Fault × BitVec 32)

def cellFaultHandler (mode : String) : Option CellHandler :=
  if mode = "TF1" ∨ mode = "TF0" then some faultInjectionControllerTf
  else if mode = "RDF1" ∨ mode = "RDF0" then some faultInjectionControllerRdf
  else if mode = "WDF0" ∨ mode = "WDF1" then some faultInjectionControllerWdf
  else if mode = "IRF0" ∨ mode = "IRF1" then some faultInjectionControllerIrf
  else if mode = "DRDF0" ∨ mode = "DRDF1" then some faultInjectionControllerDrdf
  else if mode ∈ ["RDF00", "RDF01", "RDF10", "RDF11"] then some faultInjectionControllerRdfDyn
  else if mode ∈ ["IRF00", "IRF01", "IRF10", "IRF11"] then some faultInjectionControllerIrfDyn
  else if mode ∈ ["DRDF00", "DRDF01", "DRDF10", "DRDF11"] then
    some faultInjectionControllerDrdfDyn
  else none

theorem cellFaultHandler_eq_some {mode : String} {h : CellHandler}
    (hmode : cellFaultHandler mode = some h) :
    (∃ ignoredAccess modeIndex faultWord sink,
        h = singleCellFault ignoredAccess modeIndex faultWord sink) ∨
      ∃ modeIndex sink, h = dynamicCellFault modeIndex sink := by
  unfold cellFaultHandler at hmode
  rcases ite_eq_iff.mp hmode with ⟨-, ⟨⟩⟩ | ⟨-, hmode⟩
  · exact .inl ⟨_, _, _, _, rfl⟩
  rcases ite_eq_iff.mp hmode with ⟨-, ⟨⟩⟩ | ⟨-, hmode⟩
  · exact .inl ⟨_, _, _, _, rfl⟩
  rcases ite_eq_iff.mp hmode with ⟨-, ⟨⟩⟩ | ⟨-, hmode⟩
  · exact .inl ⟨_, _, _, _, rfl⟩
  rcases ite_eq_iff.mp hmode with ⟨-, ⟨⟩⟩ | ⟨-, hmode⟩
  · exact .inl ⟨_, _, _, _, rfl⟩
  rcases ite_eq_iff.mp hmode with ⟨-, ⟨⟩⟩ | ⟨-, hmode⟩
  · exact .inl ⟨_, _, _, _, rfl⟩
  rcases ite_eq_iff.mp hmode with ⟨-, ⟨⟩⟩ | ⟨-, hmode⟩
  · exact .inr ⟨_, _, rfl⟩
  rcases ite_eq_iff.mp hmode with ⟨-, ⟨⟩⟩ | ⟨-, hmode⟩
  · exact .inr ⟨_, _, rfl⟩
  rcases ite_eq_iff.mp hmode with ⟨-, ⟨⟩⟩ | ⟨-, hmode⟩
  · exact .inr ⟨_, _, rfl⟩
  · cases hmode

/-- The coupling-fault families. -/
inductive CouplingMode
  | cfst
  | cfds
  | cftr
  | cfwd
  | cfrd
  | cfir
  | cfdr
  deriving DecidableEq, Repr

/-- The coupling modes of the content dispatchers; CFDS has twelve strings. -/
def couplingMode (mode : String) : Option CouplingMode :=
  if mode ∈ ["CFST00", "CFST01", "CFST10", "CFST11"] then some .cfst
  else if mode ∈ ["CFDS0W00", "CFDS0W01", "CFDS1W10", "CFDS1W11", "CFDS0W10", "CFDS0W11",
      "CFDS1W00", "CFDS1W01", "CFDS0R00", "CFDS0R01", "CFDS1R10", "CFDS1R11"] then some .cfds
  else if mode ∈ ["CFTR00", "CFTR01", "CFTR10", "CFTR11"] then some .cftr
  else if mode ∈ ["CFWD00", "CFWD01", "CFWD10", "CFWD11"] then some .cfwd
  else if mode ∈ ["CFRD00", "CFRD01", "CFRD10", "CFRD11"] then some .cfrd
  else if mode ∈ ["CFIR00", "CFIR01", "CFIR10", "CFIR11"] then some .cfir
  else if mode ∈ ["CFDR00", "CFDR01", "CFDR10", "CFDR11"] then some .cfdr
  else none

/-- The victim-triggered handlers. -/
def CouplingMode.handler : CouplingMode → CellHandler
  | .cfst => fun c fault fiInfo addr value accessType =>
      faultInjectionControllerCfst c fault fiInfo addr value accessType true
  | .cfds => faultInjectionControllerCfds
  | .cftr => faultInjectionControllerCftr
  | .cfwd => faultInjectionControllerCfwd
  | .cfrd => faultInjectionControllerCfrd
  | .cfir => faultInjectionControllerCfir
  | .cfdr => faultInjectionControllerCfdr

def CellHandler.toStep (r : Controller × Fault × BitVec 32) : Controller × BitVec 32 × Fault :=
  (r.1, r.2.2, r.2.1)

/-- A value mode applied to the 32-bit access value through `uint64_t value64`. -/
def valueModeOnAccess
    (h : Controller → BitVec 64 → Fault → FaultInjectionInfo → BitVec 32 →
      Except CError (Controller × BitVec 64 × Fault))
    (c : Controller) (fault : Fault) (fiInfo : FaultInjectionInfo) (value : BitVec 32) :
    Except CError (Controller × BitVec 32 × Fault) := do
  let (c, value64, fault) ← h c (value.setWidth 64) fault fiInfo 0
  pure (c, value64.setWidth 32, fault)

/-! ## Content dispatchers -/

/-- The mode branches of `fault_injection_controller_memory_content`.  A
non-coupling mode refuses a fault whose `cf_address` is the accessed address. -/
def memoryContentMode (c : Controller) (fault : Fault) (fiInfo : FaultInjectionInfo)
    (addr : BitVec 64) (value : BitVec 32) (accessType : AccessType) (mode : String) :
    Except CError (Controller × BitVec 32 × Fault) :=
  let a := addr.setWidth 32
  let skip : Except CError (Controller × BitVec 32 × Fault) := pure (c, value, fault)
  match valueFaultHandler mode, cellFaultHandler mode, couplingMode mode with
  | some h, _, _ =>
      if fault.params.cfAddress = a then skip else valueModeOnAccess h c fault fiInfo value
  | none, some h, _ =>
      if fault.params.cfAddress = a then skip
      else CellHandler.toStep <$> h c fault fiInfo addr value accessType
  | none, none, some .cfst =>
      if fault.params.cfAddress = a then
        CellHandler.toStep <$> faultInjectionControllerCfst c fault fiInfo addr value accessType false
      else if fault.params.address = a then
        CellHandler.toStep <$> faultInjectionControllerCfst c fault fiInfo addr value accessType true
      else skip
  | none, none, some .cfds =>
      -- only an access to the aggressor disturbs the victim
      if addr = fault.params.cfAddress.signExtend 64 ∧ fault.params.address ≠ fault.params.cfAddress
      then skip
      else CellHandler.toStep <$> faultInjectionControllerCfds c fault fiInfo addr value accessType
  | none, none, some k =>
      -- only an access to the victim is sensitized
      if addr = fault.params.address.signExtend 64 ∧ fault.params.address ≠ fault.params.cfAddress
      then skip
      else CellHandler.toStep <$> k.handler c fault fiInfo addr value accessType
  | none, none, none => skip

def registerContentMode (c : Controller) (fault : Fault) (fiInfo : FaultInjectionInfo)
    (addr : BitVec 64) (value : BitVec 32) (accessType : AccessType) (mode : String) :
    Except CError (Controller × BitVec 32 × Fault) :=
  let a := addr.setWidth 32
  let skip : Except CError (Controller × BitVec 32 × Fault) := pure (c, value, fault)
  let unset := fault.params.cfAddress = -1
  match valueFaultHandler mode, cellFaultHandler mode, couplingMode mode with
  | some h, _, _ =>
      if fault.params.cfAddress = a then skip else valueModeOnAccess h c fault fiInfo value
  | none, some h, _ =>
      if fault.params.cfAddress = a then skip
      else CellHandler.toStep <$> h c fault fiInfo addr value accessType
  | none, none, some .cfst =>
      if unset then skip
      else if fault.params.cfAddress = a then
        CellHandler.toStep <$> faultInjectionControllerCfst c fault fiInfo addr value accessType false
      else if fault.params.address = a then
        CellHandler.toStep <$> faultInjectionControllerCfst c fault fiInfo addr value accessType true
      else skip
  | none, none, some .cfds =>
      if fault.params.cfAddress = a ∧ fault.params.address ≠ fault.params.cfAddress then skip
      else if unset then skip
      else CellHandler.toStep <$> faultInjectionControllerCfds c fault fiInfo addr value accessType
  | none, none, some .cfrd =>
      -- the only coupling guard here on the whole 64-bit `*addr`
      if addr = fault.params.address.signExtend 64 ∧ fault.params.address ≠ fault.params.cfAddress
      then skip
      else if unset then skip
      else CellHandler.toStep <$> faultInjectionControllerCfrd c fault fiInfo addr value accessType
  | none, none, some k =>
      if fault.params.address = a ∧ fault.params.address ≠ fault.params.cfAddress then skip
      else if unset then skip
      else CellHandler.toStep <$> k.handler c fault fiInfo addr value accessType
  | none, none, none => skip

/-- The entry test of the content dispatchers: the address or the coupled
address is the accessed one, and the trigger is neither TIME nor PC.  The
trigger is compared before any NULL test. -/
def contentFaultApplies (fault : Fault) (addr : BitVec 64) : Except CError Bool := do
  let a := addr.setWidth 32
  if fault.params.address ≠ a ∧ fault.params.cfAddress ≠ a then return false
  if (← strcmp fault.trigger "TIME") = 0 then return false
  if (← strcmp fault.trigger "PC") = 0 then return false
  pure true

theorem contentFaultApplies_of_miss {fault : Fault} {addr : BitVec 64}
    (haddr : fault.params.address ≠ addr.setWidth 32)
    (hcf : fault.params.cfAddress ≠ addr.setWidth 32) :
    contentFaultApplies fault addr = .ok false := by
  simp [contentFaultApplies, haddr, hcf]

theorem contentFaultApplies_of_access {fault : Fault} {addr : BitVec 64}
    (haddr : fault.params.address = addr.setWidth 32) (htrigger : fault.trigger = some "ACCESS") :
    contentFaultApplies fault addr = .ok true := by
  simp [contentFaultApplies, haddr, htrigger]

def memoryContentInfo : FaultInjectionInfo :=
  { FaultInjectionInfo.zero with accessTriggeredContentFault := 1 }

def registerContentInfo : FaultInjectionInfo :=
  { FaultInjectionInfo.zero with accessTriggeredContentFault := 1, faultOnRegister := 1 }

/-- One entry of `fault_injection_controller_memory_content`. -/
def memoryContentStep (addr : BitVec 64) (accessType : AccessType) (c : Controller)
    (value : BitVec 32) (fault : Fault) : Except CError (Controller × BitVec 32 × Fault) := do
  if !(← contentFaultApplies fault addr) then return (c, value, fault)
  match fault.component, fault.target, fault.mode with
  | some component, some target, some mode =>
      if component = "RAM" ∧ (target = "MEMORY CELL" ∨ target = "R/W LOGIC") then
        let c ← logCellOperationsMemory c fault addr value accessType
        memoryContentMode c fault memoryContentInfo addr value accessType mode
      else pure (c, value, fault)
  | _, _, _ => pure (c, value, fault)

theorem memoryContentMode_of_cellFault {c : Controller} {fault : Fault}
    {fiInfo : FaultInjectionInfo} {addr : BitVec 64} {value : BitVec 32}
    {accessType : AccessType} {mode : String} {h : CellHandler}
    (hvalue : valueFaultHandler mode = none) (hcell : cellFaultHandler mode = some h)
    (hcf : fault.params.cfAddress ≠ addr.setWidth 32) :
    memoryContentMode c fault fiInfo addr value accessType mode =
      CellHandler.toStep <$> h c fault fiInfo addr value accessType := by
  simp [memoryContentMode, hvalue, hcell, hcf]

theorem memoryContentStep_of_miss {addr : BitVec 64} {accessType : AccessType} {c : Controller}
    {value : BitVec 32} {fault : Fault} (haddr : fault.params.address ≠ addr.setWidth 32)
    (hcf : fault.params.cfAddress ≠ addr.setWidth 32) :
    memoryContentStep addr accessType c value fault = .ok (c, value, fault) := by
  simp [memoryContentStep, contentFaultApplies_of_miss haddr hcf]

theorem memoryContentStep_logs_memoryCell {addr : BitVec 64} {accessType : AccessType}
    {c : Controller} {value : BitVec 32} {fault : Fault} {mode : String}
    (haddr : fault.params.address = addr.setWidth 32) (htrigger : fault.trigger = some "ACCESS")
    (hcomponent : fault.component = some "RAM") (htarget : fault.target = some "MEMORY CELL")
    (hmode : fault.mode = some mode) :
    memoryContentStep addr accessType c value fault =
      logCellOperationsMemory c fault addr value accessType >>= fun c =>
        memoryContentMode c fault memoryContentInfo addr value accessType mode := by
  simp [memoryContentStep, contentFaultApplies_of_access haddr htrigger, hcomponent, htarget,
    hmode]

theorem memoryContentStep_of_memoryCell {addr : BitVec 64} {accessType : AccessType}
    {c : Controller} {value : BitVec 32} {fault : Fault} {mode : String}
    (haddr : fault.params.address = addr.setWidth 32) (htrigger : fault.trigger = some "ACCESS")
    (hcomponent : fault.component = some "RAM") (htarget : fault.target = some "MEMORY CELL")
    (hmode : fault.mode = some mode) (hrow : opsRowAllocated c.faults fault = true) :
    memoryContentStep addr accessType c value fault =
      memoryContentMode (memoryOpsLogged c fault addr value accessType) fault
        memoryContentInfo addr value accessType mode := by
  rw [memoryContentStep_logs_memoryCell haddr htrigger hcomponent htarget hmode,
    logCellOperationsMemory_of_allocated addr value accessType hrow]
  rfl

/-- `fault_injection_controller_memory_content(env, addr, value, access_type)`. -/
def faultInjectionControllerMemoryContent (c : Controller) (addr : BitVec 64) (value : BitVec 32)
    (accessType : AccessType) : Except CError (Controller × BitVec 32) :=
  runFaultList (memoryContentStep addr accessType) c value

theorem faultInjectionControllerMemoryContent_of_unnamed {c : Controller} {addr : BitVec 64}
    (value : BitVec 32) (accessType : AccessType)
    (hunnamed : ∀ f ∈ c.faults,
      f.params.address ≠ addr.setWidth 32 ∧ f.params.cfAddress ≠ addr.setWidth 32) :
    faultInjectionControllerMemoryContent c addr value accessType = .ok (c, value) := by
  have hpass : forEachFaultListElement (memoryContentStep addr accessType) c value c.faults =
      .ok (c, value, c.faults) :=
    forEachFaultListElement_of_skip
      (fun f hf _ => memoryContentStep_of_miss (hunnamed f hf).1 (hunnamed f hf).2)
  simp [faultInjectionControllerMemoryContent, runFaultList, hpass]

/-- A CFST10 fault with aggressor 0x100 and victim 0x200, mask 1, on zeroed
memory: the aggressor bit is 0, so the fault is not sensitized, yet a write of
0xFFFF to the victim delivers 0, the victim's old content merged under the
mask. -/
theorem memoryContent_cfst_victim_write_lost :
    (faultInjectionControllerMemoryContent (Controller.loaded Machine.zero
        [Fault.permanent "ACCESS" "RAM" "MEMORY CELL" "CFST10" ⟨0x100, 0x200, 1, -1, -1⟩])
        0x200 0xFFFF .writeAccessType).map Prod.snd = .ok 0 := by
  decide +kernel

def registerContentStep (addr : BitVec 64) (accessType : AccessType) (c : Controller)
    (value : BitVec 32) (fault : Fault) : Except CError (Controller × BitVec 32 × Fault) := do
  if !(← contentFaultApplies fault addr) then return (c, value, fault)
  match fault.component, fault.target, fault.mode with
  | some component, some target, some mode =>
      if component = "REGISTER" ∧ target = "REGISTER CELL" then
        let c ← logCellOperationsRegister c fault addr value accessType
        registerContentMode c fault registerContentInfo addr value accessType mode
      else pure (c, value, fault)
  | _, _, _ => pure (c, value, fault)

theorem registerContentMode_of_cellFault {c : Controller} {fault : Fault}
    {fiInfo : FaultInjectionInfo} {addr : BitVec 64} {value : BitVec 32}
    {accessType : AccessType} {mode : String} {h : CellHandler}
    (hvalue : valueFaultHandler mode = none) (hcell : cellFaultHandler mode = some h)
    (hcf : fault.params.cfAddress ≠ addr.setWidth 32) :
    registerContentMode c fault fiInfo addr value accessType mode =
      CellHandler.toStep <$> h c fault fiInfo addr value accessType := by
  simp [registerContentMode, hvalue, hcell, hcf]

theorem registerContentStep_of_miss {addr : BitVec 64} {accessType : AccessType}
    {c : Controller} {value : BitVec 32} {fault : Fault}
    (haddr : fault.params.address ≠ addr.setWidth 32)
    (hcf : fault.params.cfAddress ≠ addr.setWidth 32) :
    registerContentStep addr accessType c value fault = .ok (c, value, fault) := by
  simp [registerContentStep, contentFaultApplies_of_miss haddr hcf]

theorem registerContentStep_of_registerCell {addr : BitVec 64} {accessType : AccessType}
    {c : Controller} {value : BitVec 32} {fault : Fault} {mode : String}
    (haddr : fault.params.address = addr.setWidth 32) (htrigger : fault.trigger = some "ACCESS")
    (hcomponent : fault.component = some "REGISTER")
    (htarget : fault.target = some "REGISTER CELL") (hmode : fault.mode = some mode)
    (hrow : opsRowAllocated c.faults fault = true) :
    registerContentStep addr accessType c value fault =
      registerContentMode (registerOpsLogged c fault addr value accessType) fault
        registerContentInfo addr value accessType mode := by
  simp [registerContentStep, contentFaultApplies_of_access haddr htrigger, hcomponent, htarget,
    hmode, logCellOperationsRegister_of_allocated addr value accessType hrow]

/-- `fault_injection_controller_register_content(env, addr, value, access_type)`. -/
def faultInjectionControllerRegisterContent (c : Controller) (addr : BitVec 64)
    (value : BitVec 32) (accessType : AccessType) : Except CError (Controller × BitVec 32) :=
  runFaultList (registerContentStep addr accessType) c value

/-! ## Address decoders -/

/-- One entry of `fault_injection_controller_memory_address`: there is no NULL
test, so the component and, for RAM, the target and the mode are compared as
they are. -/
def memoryAddressStep (c : Controller) (addr : BitVec 64) (fault : Fault) :
    Except CError (Controller × BitVec 64 × Fault) := do
  if fault.params.address ≠ addr.setWidth 32 then return (c, addr, fault)
  if (← strcmp fault.trigger "ACCESS") ≠ 0 then return (c, addr, fault)
  if (← strcmp fault.component "RAM") ≠ 0 then return (c, addr, fault)
  if (← strcmp fault.target "ADDRESS DECODER") ≠ 0 then return (c, addr, fault)
  let fiInfo :=
    { FaultInjectionInfo.zero with accessTriggeredContentFault := 1, faultOnAddress := 1 }
  match valueFaultHandler (← deref .strcmp fault.mode) with
  | some h => h c addr fault fiInfo 0
  | none => pure (c, addr, fault)

/-- `fault_injection_controller_memory_address(env, addr)`. -/
def faultInjectionControllerMemoryAddress (c : Controller) (addr : BitVec 64) :
    Except CError (Controller × BitVec 64) :=
  runFaultList memoryAddressStep c addr

def registerAddressStep (c : Controller) (addr : BitVec 64) (fault : Fault) :
    Except CError (Controller × BitVec 64 × Fault) := do
  if fault.params.address ≠ addr.setWidth 32 then return (c, addr, fault)
  if (← strcmp fault.trigger "ACCESS") ≠ 0 then return (c, addr, fault)
  match fault.component, fault.target, fault.mode with
  | some component, some target, some mode =>
      if component = "REGISTER" ∧ target = "ADDRESS DECODER" then
        let fiInfo := { FaultInjectionInfo.zero with faultOnAddress := 1, faultOnRegister := 1 }
        match valueFaultHandler mode with
        | some h => h c addr fault fiInfo 0
        | none => pure (c, addr, fault)
      else pure (c, addr, fault)
  | _, _, _ => pure (c, addr, fault)

/-- `fault_injection_controller_register_address(env, addr)`. -/
def faultInjectionControllerRegisterAddress (c : Controller) (addr : BitVec 64) :
    Except CError (Controller × BitVec 64) :=
  runFaultList registerAddressStep c addr

/-! ## Instructions and time -/

/-- The activity test of the CPU branches: `set_fault_active`, then
`if (!fault->is_active) continue`. -/
def whenCpuFaultActive {β : Type} (c : Controller) (b : β) (fault : Fault) (pc : BitVec 32)
    (inject : Controller → Fault → Controller × β) : Except CError (Controller × β × Fault) := do
  let (c, fault) ← faultInjectionControllerSetFaultActive c fault "cpu" pc
  if fault.isActive then
    let (c, b) := inject c fault
    pure (c, b, fault)
  else pure (c, b, fault)

theorem whenCpuFaultActive_permanent {β : Type} {c : Controller} {b : β} {fault : Fault}
    {pc : BitVec 32} {inject : Controller → Fault → Controller × β}
    (hpc : ¬(fault.trigger = some "PC" ∧ pc = fault.params.address))
    (htype : fault.type = some "PERMANENT") :
    whenCpuFaultActive c b fault pc inject =
      .ok ((inject { c with stats := incrNumInjectedFaults c.stats fault.id "cpu perm" }
          { fault with isActive := true }).1,
        (inject { c with stats := incrNumInjectedFaults c.stats fault.id "cpu perm" }
          { fault with isActive := true }).2,
        { fault with isActive := true }) := by
  simp [whenCpuFaultActive, setFaultActive_permanent hpc htype]

/-- One entry of `fault_injection_controller_insn`: `*addr` holds the
instruction word, matched against the fault's address. -/
def insnStep (c : Controller) (insnWord : BitVec 64) (fault : Fault) :
    Except CError (Controller × BitVec 64 × Fault) := do
  if fault.params.address ≠ insnWord.setWidth 32 then return (c, insnWord, fault)
  if (← strcmp fault.trigger "ACCESS") ≠ 0 then return (c, insnWord, fault)
  match fault.component, fault.target, fault.mode with
  | some component, some target, some mode =>
      if component = "CPU" ∧ target = "INSTRUCTION DECODER" then
        if mode ≠ "NEW VALUE" then return (c, insnWord, fault)
        if fault.params.address = -1 ∨ fault.params.instruction = -1 then
          return (c, insnWord, fault)
        whenCpuFaultActive c insnWord fault 0 fun c fault =>
          (c, (doInjectInsn (insnWord.setWidth 32) fault.params.instruction).setWidth 64)
      else if component = "CPU" ∧ target = "INSTRUCTION EXECUTION" then
        if mode ≠ "NEW VALUE" then return (c, insnWord, fault)
        if fault.params.address = -1 ∨ fault.params.instruction ≠ 0xDEADBEEF then
          return (c, insnWord, fault)
        -- 0xE1A08008 is MOV R8, R8, a no-operation
        whenCpuFaultActive c insnWord fault 0 fun c _ =>
          (c, (doInjectInsn (insnWord.setWidth 32) 0xE1A08008).setWidth 64)
      else pure (c, insnWord, fault)
  | _, _, _ => pure (c, insnWord, fault)

/-- `fault_injection_controller_insn(env, addr)`. -/
def faultInjectionControllerInsn (c : Controller) (insnWord : BitVec 64) :
    Except CError (Controller × BitVec 64) :=
  runFaultList insnStep c insnWord

/-- The REGISTER CELL and RAM branches of `fault_injection_controller_time`:
the cell is the one numbered `params.instruction`, through `hwaddr
reg_mem_addr`. -/
def timeCellFault (c : Controller) (fault : Fault) (fiInfo : FaultInjectionInfo)
    (addr : BitVec 64) (pc : BitVec 32) (mode : String) :
    Except CError (Controller × Unit × Fault) := do
  let regMemAddr := fault.params.instruction.signExtend 64
  match valueFaultHandler mode with
  | some h =>
      if fault.params.cfAddress = addr.setWidth 32 then return (c, (), fault)
      let (c, _, fault) ← h c regMemAddr fault fiInfo pc
      pure (c, (), fault)
  | none => pure (c, (), fault)

/-- One entry of `fault_injection_controller_time(env, addr, access_type)`,
with `*addr` the PC. -/
def timeStep (addr : BitVec 64) (c : Controller) (u : Unit) (fault : Fault) :
    Except CError (Controller × Unit × Fault) := do
  let pc := addr.setWidth 32
  if (← strcmp fault.trigger "ACCESS") = 0 then return (c, u, fault)
  match fault.component, fault.target, fault.mode with
  | some component, some target, some mode =>
      if component = "CPU" ∧ target = "CONDITION FLAGS" then
        whenCpuFaultActive c u fault pc fun c fault =>
          ({ c with env := doInjectConditionFlagsArm c.env mode fault.params.setBit }, u)
      else if component = "CPU" ∧
          (target = "INSTRUCTION DECODER" ∨ target = "INSTRUCTION EXECUTION") then
        if mode ≠ "NEW VALUE" then return (c, u, fault)
        if fault.params.address = -1 ∧ fault.params.instruction = -1 then return (c, u, fault)
        whenCpuFaultActive c u fault pc fun c fault =>
          let (env, lookUp) := doInjectLookUpErrorArm c.env c.lookUp fault.params.instruction
          ({ c with env, lookUp }, u)
      else if component = "REGISTER" ∧ target = "REGISTER CELL" then
        timeCellFault c fault { FaultInjectionInfo.zero with faultOnRegister := 1 } addr pc mode
      else if component = "RAM" ∧ (target = "MEMORY CELL" ∨ target = "R/W LOGIC") then
        timeCellFault c fault FaultInjectionInfo.zero addr pc mode
      else pure (c, u, fault)
  | _, _, _ => pure (c, u, fault)

theorem timeStep_of_access {addr : BitVec 64} {c : Controller} {u : Unit} {fault : Fault}
    (htrigger : fault.trigger = some "ACCESS") : timeStep addr c u fault = .ok (c, u, fault) := by
  simp [timeStep, htrigger]

theorem timeStep_of_conditionFlags {addr : BitVec 64} {c : Controller} {u : Unit}
    {fault : Fault} {mode : String} (htrigger : fault.trigger = some "TIME")
    (hcomponent : fault.component = some "CPU") (htarget : fault.target = some "CONDITION FLAGS")
    (hmode : fault.mode = some mode) :
    timeStep addr c u fault = whenCpuFaultActive c u fault (addr.setWidth 32) fun c fault =>
      ({ c with env := doInjectConditionFlagsArm c.env mode fault.params.setBit }, u) := by
  simp [timeStep, htrigger, hcomponent, htarget, hmode]

/-- `fault_injection_controller_time(env, addr, access_type)`. -/
def faultInjectionControllerTime (c : Controller) (addr : BitVec 64) :
    Except CError Controller := do
  let (c, _) ← runFaultList (timeStep addr) c ()
  pure c

/-! ## The entry point -/

/-- `profiler_log(env, addr, value, access_type)`: reads and writes of the
numbers up to 15 count as register accesses, all others as memory accesses,
whichever hook made them. -/
def profilerLog (c : Controller) (addr : BitVec 64) (accessType : AccessType) : Controller :=
  let record : ProfileRecord := ⟨addr.setWidth 32, accessType⟩
  if accessType = .writeAccessType ∨ accessType = .readAccessType then
    if addr ≤ 15 then
      if c.profileRegisters then
        { c with profilingRegisters := c.profilingRegisters ++ [record] }
      else c
    else if c.profileRamAddresses then
      { c with profilingMemory := c.profilingMemory ++ [record] }
    else c
  else c

theorem profilerLog_eq_logs (c : Controller) (addr : BitVec 64) (accessType : AccessType) :
    profilerLog c addr accessType =
      { c with
        profilingRegisters := (profilerLog c addr accessType).profilingRegisters
        profilingMemory := (profilerLog c addr accessType).profilingMemory } := by
  unfold profilerLog
  split_ifs <;> rfl

section ProfilerLog

variable (c : Controller) (addr : BitVec 64) (accessType : AccessType)

@[simp] theorem profilerLog_env : (profilerLog c addr accessType).env = c.env := by
  rw [profilerLog_eq_logs]

@[simp] theorem profilerLog_addressInUse :
    (profilerLog c addr accessType).addressInUse = c.addressInUse := by
  rw [profilerLog_eq_logs]

@[simp] theorem profilerLog_faults : (profilerLog c addr accessType).faults = c.faults := by
  rw [profilerLog_eq_logs]

@[simp] theorem profilerLog_stats : (profilerLog c addr accessType).stats = c.stats := by
  rw [profilerLog_eq_logs]

@[simp] theorem profilerLog_cpuCount : (profilerLog c addr accessType).cpuCount = c.cpuCount := by
  rw [profilerLog_eq_logs]

@[simp] theorem profilerLog_nextCpu : (profilerLog c addr accessType).nextCpu = c.nextCpu := by
  rw [profilerLog_eq_logs]

@[simp] theorem profilerLog_exitRequest :
    (profilerLog c addr accessType).exitRequest = c.exitRequest := by
  rw [profilerLog_eq_logs]

@[simp] theorem getTimer_profilerLog : getTimer (profilerLog c addr accessType) = getTimer c := by
  rw [profilerLog_eq_logs]
  rfl

end ProfilerLog

/-- The CPU loop of `fault_injection_controller_init` for a call without
`env`: from `next_cpu` (the first CPU when it is NULL) to the end of the CPU
list, unless `exit_request` is set.  The CPUs share the memory the RAM
handlers act on, so each pass runs on the one machine. -/
def memoryContentOnCpus (c : Controller) (addr : BitVec 64) (value : BitVec 32)
    (accessType : AccessType) : Except CError (Controller × BitVec 32) := do
  let nextCpu := match c.nextCpu with
    | none => if 0 < c.cpuCount then some 0 else none
    | some i => some i
  let c := { c with nextCpu }
  match nextCpu with
  | none => pure (c, value)
  | some i =>
      if c.exitRequest then return (c, value)
      let (c, value) ← (List.range' i (c.cpuCount - i)).foldlM
        (fun (cv : Controller × BitVec 32) _ =>
          faultInjectionControllerMemoryContent cv.1 addr cv.2 accessType)
        (c, value)
      pure ({ c with nextCpu := none }, value)

/-- `fault_injection_controller_init(env, addr, value, injection_mode,
access_type)`: the access buffer `*addr` and the value buffer `*value` as the
call leaves them.  `envGiven` says whether `env` is non-NULL. -/
def faultInjectionControllerInit (c : Controller) (envGiven : Bool) (addr : BitVec 64)
    (value : BitVec 32) (injectionMode : InjectionMode) (accessType : AccessType) :
    Except CError (Controller × BitVec 64 × BitVec 32) := do
  let c := profilerLog c addr accessType
  if addr = c.addressInUse then return (c, addr, value)
  match injectionMode with
  | .fiMemoryAddr =>
      let (c, addr) ← faultInjectionControllerMemoryAddress c addr
      pure (c, addr, value)
  | .fiMemoryContent =>
      let (c, value) ←
        if envGiven then faultInjectionControllerMemoryContent c addr value accessType
        else memoryContentOnCpus c addr value accessType
      pure (c, addr, value)
  | .fiInsn =>
      let (c, addr) ← faultInjectionControllerInsn c addr
      pure (c, addr, value)
  | .fiRegisterAddr =>
      let (c, addr) ← faultInjectionControllerRegisterAddress c addr
      pure (c, addr, value)
  | .fiRegisterContent =>
      let (c, value) ← faultInjectionControllerRegisterContent c addr value accessType
      pure (c, addr, value)
  | .fiTime =>
      let c ← faultInjectionControllerTime c addr
      pure (c, addr, value)

theorem faultInjectionControllerInit_of_addressInUse {c : Controller} {envGiven : Bool}
    {addr : BitVec 64} {value : BitVec 32} {injectionMode : InjectionMode}
    {accessType : AccessType} (h : addr = c.addressInUse) :
    faultInjectionControllerInit c envGiven addr value injectionMode accessType =
      .ok (profilerLog c addr accessType, addr, value) := by
  simp [faultInjectionControllerInit, h]

/-- Address 0 is silenced by an unrelated fault.  With TF1 faults on the RAM
cells 0 and 0x100, a write of 1 over the 0 of cell 0 delivers 0; once a write
to 0x100 has run the other handler, which leaves `address_in_use` at 0, the
same write to cell 0 returns at once and delivers 1. -/
theorem addressZero_silenced_after_handler :
    (faultInjectionControllerInit (Controller.loaded Machine.zero
        [Fault.permanent "ACCESS" "RAM" "MEMORY CELL" "TF1" ⟨0x100, 0x200, 1, -1, -1⟩,
          Fault.permanent "ACCESS" "RAM" "MEMORY CELL" "TF1" ⟨0, 0x200, 1, -1, -1⟩])
        true 0 1 .fiMemoryContent .writeAccessType).map (·.2.2) = .ok 0 ∧
      (faultInjectionControllerInit (Controller.loaded Machine.zero
          [Fault.permanent "ACCESS" "RAM" "MEMORY CELL" "TF1" ⟨0x100, 0x200, 1, -1, -1⟩,
            Fault.permanent "ACCESS" "RAM" "MEMORY CELL" "TF1" ⟨0, 0x200, 1, -1, -1⟩])
          true 0x100 1 .fiMemoryContent .writeAccessType >>= fun r =>
        faultInjectionControllerInit r.1 true 0 1 .fiMemoryContent .writeAccessType).map
        (·.2.2) = .ok 1 := by
  decide +kernel

theorem faultInjectionControllerInit_time {c : Controller} {envGiven : Bool} {addr : BitVec 64}
    {value : BitVec 32} {accessType : AccessType} (h : addr ≠ c.addressInUse) :
    faultInjectionControllerInit c envGiven addr value .fiTime accessType =
      (fun c => (c, addr, value)) <$> faultInjectionControllerTime (profilerLog c addr accessType)
        addr := by
  simp only [faultInjectionControllerInit, profilerLog_addressInUse, h, if_false]
  cases faultInjectionControllerTime (profilerLog c addr accessType) addr <;> rfl

end Fies
