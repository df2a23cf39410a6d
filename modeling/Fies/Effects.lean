import Fies.Dispatch
import Mathlib.Logic.Relation

/-!
# What one hook call may change

A call of `fault_injection_controller_init` changes the machine, the buffers,
`address_in_use`, the dynamic-fault histories, the look-up-error state, the
CPU cursor, the `is_active` flags and the counters.  It never changes the rest:
the fault records (every field but `is_active`), the clock and its origin, the
CPU list and the profiler's switches and logs.  That rest is `Controller.frame`.
The counters change only through `incr_num_injected_faults`, each call for a
fault of the list and in the category of its component (`ram`, `reg`, `cpu`)
with `trans` or `perm`.  `CallEffect` says both.

The proof follows the calls.  The injections of `_bf`, `_new_value` and `_rs`
credit their fault under the category `fi_info` names; a content handler lends
a merged word through `params.mask` and gives the record back with the mask
restored, on every exit; each dispatcher entry checks the component, so the
category of `fi_info` is that of the fault; the loop over the list keeps the
records, and the entry point adds the profiler's line in front.
-/

namespace Fies

open CRuntime BitMask Machine Except

/-! ## Records and frames -/

def Fault.record (f : Fault) : Fault := { f with isActive := false }

@[simp] theorem Fault.record_setActive (f : Fault) (b : Bool) :
    ({ f with isActive := b } : Fault).record = f.record := rfl

theorem Fault.record_withMask (f : Fault) (m : BitVec 32) :
    (f.withMask m).record = f.record.withMask m := rfl

theorem Fault.id_eq_of_record {f g : Fault} (h : f.record = g.record) : f.id = g.id :=
  (congrArg Fault.id h : f.record.id = g.record.id)

theorem Fault.eq_setActive_of_record {f f' : Fault} (h : f'.record = f.record) :
    f' = { f with isActive := f'.isActive } := by
  cases f
  cases f'
  cases h
  rfl

theorem Fault.record_restore {f₁ fault : Fault} {m : BitVec 32}
    (h : f₁.record = (fault.withMask m).record) :
    (f₁.withMask fault.params.mask).record = fault.record := by
  rw [Fault.record_withMask, h]
  rfl

/-- The part of the state no hook call changes. -/
structure Frame where
  faults : List Fault
  clock : Int
  timerValue : Int
  cpuCount : Nat
  exitRequest : Bool
  profileRegisters : Bool
  profileRamAddresses : Bool
  profilingRegisters : List ProfileRecord
  profilingMemory : List ProfileRecord

def Controller.frame (c : Controller) : Frame :=
  ⟨c.faults.map Fault.record, c.clock, c.timerValue, c.cpuCount, c.exitRequest,
    c.profileRegisters, c.profileRamAddresses, c.profilingRegisters, c.profilingMemory⟩

/-! ## Credits -/

/-- One call of `incr_num_injected_faults(id, fault_type)` that `allowed` permits. -/
def Credit (allowed : BitVec 32 → String → Prop) (st st' : Statistics) : Prop :=
  ∃ id faultType, allowed id faultType ∧ st' = incrNumInjectedFaults st id faultType

/-- What a call may do: keep the frame and change the counters by credits
`allowed` permits. -/
structure CallEffect (allowed : BitVec 32 → String → Prop) (c c' : Controller) : Prop where
  frame : c'.frame = c.frame
  credits : Relation.ReflTransGen (Credit allowed) c.stats c'.stats

namespace CallEffect

variable {allowed : BitVec 32 → String → Prop} {c c' c'' : Controller}

theorem refl (c : Controller) : CallEffect allowed c c := ⟨rfl, .refl⟩

theorem trans (h : CallEffect allowed c c') (h' : CallEffect allowed c' c'') :
    CallEffect allowed c c'' :=
  ⟨h'.frame.trans h.frame, h.credits.trans h'.credits⟩

theorem of_stats (hframe : c'.frame = c.frame) (hstats : c'.stats = c.stats) :
    CallEffect allowed c c' :=
  ⟨hframe, hstats ▸ .refl⟩

theorem mono {allowed' : BitVec 32 → String → Prop} (h : CallEffect allowed c c')
    (himp : ∀ id t, allowed id t → allowed' id t) : CallEffect allowed' c c' :=
  ⟨h.frame, h.credits.lift id fun _ _ ⟨id, t, hat, hst⟩ => ⟨id, t, himp id t hat, hst⟩⟩

theorem setAddressInUse (c : Controller) (a : BitVec 64) :
    CallEffect allowed c { c with addressInUse := a } := of_stats rfl rfl

theorem setNextCpu (c : Controller) (nextCpu : Option Nat) :
    CallEffect allowed c { c with nextCpu } := of_stats rfl rfl

theorem setEnv (c : Controller) (env : Machine) : CallEffect allowed c { c with env } :=
  of_stats rfl rfl

end CallEffect

def creditsOf (faultId : BitVec 32) (category : String) (id : BitVec 32) (faultType : String) :
    Prop :=
  id = faultId ∧ (faultType = category ++ "trans" ∨ faultType = category ++ "perm")

def counterCategory (fiInfo : FaultInjectionInfo) : String :=
  if fiInfo.faultOnRegister ≠ 0 then "reg " else "ram "

def componentCategory : Option String → Option String
  | some "RAM" => some "ram "
  | some "REGISTER" => some "reg "
  | some "CPU" => some "cpu "
  | _ => none

/-- The credits handling `fault` may make: its id, in the category of its
component, `trans` or `perm`. -/
def faultCredits (fault : Fault) (id : BitVec 32) (faultType : String) : Prop :=
  ∃ category, componentCategory fault.component = some category ∧
    creditsOf fault.id category id faultType

/-- The credits a call may make: those of handling one of the faults. -/
def Frame.credits (frame : Frame) (id : BitVec 32) (faultType : String) : Prop :=
  ∃ f ∈ frame.faults, faultCredits f id faultType

/-! ## Injections -/

theorem Activation.kind_cases (a : Activation) : a.kind = "trans" ∨ a.kind = "perm" := by
  cases a <;> simp [Activation.kind]

theorem injectOnce_effect (c : Controller) (buf : BitVec 64) (fault : Fault)
    (fiInfo : FaultInjectionInfo) {kind : String} (hkind : kind = "trans" ∨ kind = "perm") :
    CallEffect (creditsOf fault.id (counterCategory fiInfo)) c
      (injectOnce c buf fault fiInfo kind).1 := by
  refine ⟨rfl, .single ⟨fault.id, _, ⟨rfl, ?_⟩, rfl⟩⟩
  rcases hkind with rfl | rfl <;> simp [injectionCategory, counterCategory]

theorem activateAndInject_post {c : Controller} {buf : BitVec 64} {fault : Fault}
    {pc : BitVec 32} {inject : String → Controller × BitVec 64}
    {allowed : BitVec 32 → String → Prop}
    (hinject : ∀ kind, kind = "trans" ∨ kind = "perm" → CallEffect allowed c (inject kind).1) :
    Post (activateAndInject c buf fault pc inject)
      fun r => CallEffect allowed c r.1 ∧ r.2.2.record = fault.record := by
  unfold activateAndInject
  refine post_bind (fun _ _ => trivial) fun a _ => ?_
  by_cases hinj : a.injects = true
  · simp only [hinj, if_true]
    exact post_pure ⟨hinject a.kind a.kind_cases, rfl⟩
  · simp only [hinj, Bool.false_eq_true, if_false]
    exact post_pure ⟨.refl c, rfl⟩

/-- What a value-mode handler may do: keep the frame, credit its fault under
the category of `fi_info`, give its record back. -/
def ValueHandlerSpec (h : Controller → BitVec 64 → Fault → FaultInjectionInfo → BitVec 32 →
    Except CError (Controller × BitVec 64 × Fault)) : Prop :=
  ∀ c addr fault fiInfo pc, Post (h c addr fault fiInfo pc) fun r =>
    CallEffect (creditsOf fault.id (counterCategory fiInfo)) c r.1 ∧ r.2.2.record = fault.record

theorem faultInjectionControllerBf_spec : ValueHandlerSpec faultInjectionControllerBf := by
  intro c addr fault fiInfo pc
  unfold faultInjectionControllerBf
  refine activateAndInject_post fun kind hkind => ?_
  refine forEachSetBit_invariant (fun (cb : Controller × BitVec 64) => CallEffect _ c cb.1) _ _
    (.refl c) ?_
  intro cb setBit hcb
  exact hcb.trans (injectOnce_effect cb.1 cb.2 fault
    { fiInfo with bitFlip := 1, injectedBit := log2OfIntBit setBit } hkind)

theorem faultInjectionControllerNewValue_spec :
    ValueHandlerSpec faultInjectionControllerNewValue := by
  intro c addr fault fiInfo pc
  unfold faultInjectionControllerNewValue
  exact activateAndInject_post fun kind hkind => injectOnce_effect c addr fault
    { fiInfo with bitFlip := 0, newValue := 1, bitValue := fault.params.mask } hkind

theorem faultInjectionControllerRs_spec : ValueHandlerSpec faultInjectionControllerRs := by
  intro c addr fault fiInfo pc
  unfold faultInjectionControllerRs
  refine activateAndInject_post fun kind hkind => ?_
  refine forEachSetBit_invariant (fun (cb : Controller × BitVec 64) => CallEffect _ c cb.1) _ _
    (.refl c) ?_
  intro cb setBit hcb
  exact hcb.trans (injectOnce_effect cb.1 cb.2 fault
    { fiInfo with
      bitFlip := 0
      injectedBit := log2OfIntBit setBit
      bitValue := if fault.params.setBit &&& setBit ≠ 0 then 1 else 0 } hkind)

theorem valueFaultHandler_spec {mode : String} {h} (hmode : valueFaultHandler mode = some h) :
    ValueHandlerSpec h := by
  rcases valueFaultHandler_eq_some hmode with ⟨-, rfl⟩ | ⟨-, rfl⟩ | ⟨-, rfl⟩
  · exact faultInjectionControllerBf_spec
  · exact faultInjectionControllerNewValue_spec
  · exact faultInjectionControllerRs_spec

theorem setFaultActive_post (c : Controller) (fault : Fault) (faultComponent : String)
    (pc : BitVec 32) :
    Post (faultInjectionControllerSetFaultActive c fault faultComponent pc) fun r =>
      CallEffect (creditsOf fault.id (faultComponent ++ " ")) c r.1 ∧ r.2.record = fault.record := by
  have hcount : ∀ suffix, suffix = " trans" ∨ suffix = " perm" →
      CallEffect (creditsOf fault.id (faultComponent ++ " ")) c
        { c with stats := incrNumInjectedFaults c.stats fault.id (faultComponent ++ suffix) } := by
    intro suffix hsuffix
    refine ⟨rfl, .single ⟨fault.id, _, ⟨rfl, ?_⟩, rfl⟩⟩
    rcases hsuffix with rfl | rfl <;> simp [String.append_assoc]
  unfold faultInjectionControllerSetFaultActive
  dsimp only
  split
  · exact post_pure ⟨hcount _ (.inl rfl), rfl⟩
  · split
    · refine post_bind (fun _ _ => trivial) fun _ _ => ?_
      split
      · exact post_pure ⟨hcount _ (.inl rfl), rfl⟩
      · exact post_pure ⟨.refl c, rfl⟩
    · split
      · refine post_bind (fun _ _ => trivial) fun _ _ => ?_
        split
        · split
          · exact post_error _ _
          · split
            · exact post_pure ⟨hcount _ (.inl rfl), rfl⟩
            · exact post_pure ⟨.refl c, rfl⟩
        · exact post_pure ⟨.refl c, rfl⟩
      · split
        · exact post_pure ⟨hcount _ (.inr rfl), rfl⟩
        · exact post_pure ⟨.refl c, rfl⟩

/-! ## Content handlers -/

/-- What handling a content fault may do: keep the frame, credit the fault
under `category`, give its record back. -/
def HandlerPost (category : String) (c : Controller) (fault : Fault)
    (r : Controller × Fault × BitVec 32) : Prop :=
  CallEffect (creditsOf fault.id category) c r.1 ∧ r.2.1.record = fault.record

/-- The contract of a content-fault handler. -/
def CellHandlerSpec (h : CellHandler) : Prop :=
  ∀ c fault fiInfo addr value accessType,
    Post (h c fault fiInfo addr value accessType) (HandlerPost (counterCategory fiInfo) c fault)

theorem deliverMerged_post (sink : CellSink) (c : Controller) (fault : Fault)
    (fiInfo : FaultInjectionInfo) (addr : BitVec 64) (value : BitVec 32) :
    Post (deliverMerged sink c fault fiInfo addr value)
      (HandlerPost (counterCategory fiInfo) c fault) := by
  cases sink with
  | access =>
      refine post_bind (faultInjectionControllerNewValue_spec c _ fault fiInfo 0) ?_
      rintro ⟨c₁, b₁, f₁⟩ ⟨heff, hrec⟩
      exact post_pure ⟨heff, hrec⟩
  | accessThenCell =>
      refine post_bind (faultInjectionControllerNewValue_spec c _ fault fiInfo 0) ?_
      rintro ⟨c₁, b₁, f₁⟩ ⟨heff, hrec⟩
      exact post_pure ⟨heff.trans (.setEnv c₁ _), hrec⟩
  | cell =>
      refine post_bind (faultInjectionControllerNewValue_spec c _ fault _ 0) ?_
      rintro ⟨c₁, b₁, f₁⟩ ⟨heff, hrec⟩
      exact post_pure ⟨heff, hrec⟩

theorem singleCellFault_spec {ignoredAccess : AccessType} {modeIndex : Nat}
    {faultWord : Char → Option (BitVec 32 → BitVec 32 → BitVec 32)} {sink : CellSink} :
    CellHandlerSpec (singleCellFault ignoredAccess modeIndex faultWord sink) := by
  intro c fault fiInfo addr value accessType
  unfold singleCellFault
  split
  · exact post_pure ⟨.setAddressInUse c 0, rfl⟩
  · split
    · exact post_pure ⟨(CallEffect.setAddressInUse c addr).trans (.setAddressInUse _ 0), rfl⟩
    · refine post_bind (deliverMerged_post sink _ _ fiInfo addr value) ?_
      rintro ⟨c₁, f₁, v₁⟩ ⟨heff, hrec⟩
      have heff' : CallEffect (creditsOf fault.id (counterCategory fiInfo)) _ c₁ := heff
      exact post_pure ⟨(CallEffect.setAddressInUse c addr).trans
        (heff'.trans (.setAddressInUse c₁ 0)), Fault.record_restore hrec⟩

theorem dynamicCellFault_spec {modeIndex : Nat} {sink : CellSink} :
    CellHandlerSpec (dynamicCellFault modeIndex sink) := by
  intro c fault fiInfo addr value accessType
  unfold dynamicCellFault
  split
  · exact post_pure ⟨.setAddressInUse c 0, rfl⟩
  · split <;> dsimp only <;> split
    all_goals first
      | exact post_pure ⟨(CallEffect.setAddressInUse c addr).trans (.setAddressInUse _ 0), rfl⟩
      | split
        · exact post_error _ _
        · refine post_bind (deliverMerged_post sink _ _ fiInfo addr value) ?_
          rintro ⟨c₁, f₁, v₁⟩ ⟨heff, hrec⟩
          have heff' : CallEffect (creditsOf fault.id (counterCategory fiInfo)) _ c₁ := heff
          exact post_pure ⟨(CallEffect.setAddressInUse c addr).trans
            (heff'.trans (.setAddressInUse c₁ 0)), Fault.record_restore hrec⟩

theorem writeCellAtAddressInUse_post (c : Controller) (fault : Fault)
    (fiInfo : FaultInjectionInfo) :
    Post (writeCellAtAddressInUse c fault fiInfo)
      fun r => CallEffect (creditsOf fault.id (counterCategory fiInfo)) c r.1 ∧
        r.2.record = fault.record := by
  unfold writeCellAtAddressInUse
  refine post_bind (faultInjectionControllerNewValue_spec c _ fault _ 0) ?_
  rintro ⟨c₁, a₁, f₁⟩ ⟨heff, hrec⟩
  exact post_pure ⟨heff.trans (.setAddressInUse c₁ a₁), hrec⟩

theorem writeAccessValue_post (c : Controller) (fault : Fault) (fiInfo : FaultInjectionInfo)
    (value : BitVec 32) :
    Post (writeAccessValue c fault fiInfo value) (HandlerPost (counterCategory fiInfo) c fault) := by
  unfold writeAccessValue
  refine post_bind (faultInjectionControllerNewValue_spec c _ fault fiInfo 0) ?_
  rintro ⟨c₁, b₁, f₁⟩ ⟨heff, hrec⟩
  exact post_pure ⟨heff, hrec⟩

/-! The exits of the coupling handlers: `address_in_use = 0; return` from a
state that differs from the entry in no tracked field, or one of the four ways
of writing the merged word and putting the mask back. -/

theorem stop_post {c c' : Controller} (hframe : c'.frame = c.frame) (hstats : c'.stats = c.stats)
    (fault : Fault) (value : BitVec 32) (category : String) :
    Post (stopHandler c' fault value) (HandlerPost category c fault) :=
  post_pure ⟨(CallEffect.of_stats hframe hstats).trans (.setAddressInUse c' 0), rfl⟩

theorem cellTail_post {c c' : Controller} (hframe : c'.frame = c.frame)
    (hstats : c'.stats = c.stats) (fault : Fault) (m : BitVec 32) (fiInfo : FaultInjectionInfo)
    (value : BitVec 32) :
    Post (writeCellAtAddressInUse c' (fault.withMask m) fiInfo) fun x =>
      HandlerPost (counterCategory fiInfo) c fault
        ({ x.1 with addressInUse := 0 }, x.2.withMask fault.params.mask, value) :=
  (writeCellAtAddressInUse_post c' _ fiInfo).mono fun x ⟨heff, hrec⟩ =>
    ⟨(CallEffect.of_stats hframe hstats).trans (heff.trans (.setAddressInUse x.1 0)),
      Fault.record_restore hrec⟩

theorem accessTail_post {c c' : Controller} (hframe : c'.frame = c.frame)
    (hstats : c'.stats = c.stats) (fault : Fault) (m : BitVec 32) (fiInfo : FaultInjectionInfo)
    (value : BitVec 32) :
    Post (writeAccessValue c' (fault.withMask m) fiInfo value) fun x =>
      HandlerPost (counterCategory fiInfo) c fault
        ({ x.1 with addressInUse := 0 }, x.2.1.withMask fault.params.mask, x.2.2) :=
  (writeAccessValue_post c' _ fiInfo value).mono fun x ⟨heff, hrec⟩ =>
    ⟨(CallEffect.of_stats hframe hstats).trans (heff.trans (.setAddressInUse x.1 0)),
      Fault.record_restore hrec⟩

theorem cellAccessTail_post {c c' : Controller} (hframe : c'.frame = c.frame)
    (hstats : c'.stats = c.stats) (fault : Fault) (m : BitVec 32) (fiInfo : FaultInjectionInfo)
    (value : BitVec 32) :
    Post (writeCellAtAddressInUse c' (fault.withMask m) fiInfo) fun x =>
      Post (writeAccessValue x.1 x.2 { fiInfo with accessTriggeredContentFault := 1 } value)
        fun y => HandlerPost (counterCategory fiInfo) c fault
          ({ y.1 with addressInUse := 0 }, y.2.1.withMask fault.params.mask, y.2.2) := by
  refine (writeCellAtAddressInUse_post c' _ fiInfo).mono fun x ⟨heff, hrec⟩ => ?_
  have hid : x.2.id = (fault.withMask m).id := Fault.id_eq_of_record hrec
  refine (writeAccessValue_post x.1 x.2 _ value).mono fun y ⟨heff', hrec'⟩ => ?_
  rw [hid] at heff'
  exact ⟨(CallEffect.of_stats hframe hstats).trans
      (heff.trans (heff'.trans (.setAddressInUse y.1 0))),
    Fault.record_restore (hrec'.trans hrec)⟩

theorem accessCellTail_post {c c' : Controller} (hframe : c'.frame = c.frame)
    (hstats : c'.stats = c.stats) (fault : Fault) (m : BitVec 32) (fiInfo : FaultInjectionInfo)
    (value : BitVec 32) (a : BitVec 64) :
    Post (writeAccessValue c' (fault.withMask m) fiInfo value) fun x =>
      Post (writeCellAtAddressInUse { x.1 with addressInUse := a } x.2.1 fiInfo)
        fun y => HandlerPost (counterCategory fiInfo) c fault
          ({ y.1 with addressInUse := 0 }, y.2.withMask fault.params.mask, x.2.2) := by
  refine (writeAccessValue_post c' _ fiInfo value).mono fun x ⟨heff, hrec⟩ => ?_
  have hid : x.2.1.id = (fault.withMask m).id := Fault.id_eq_of_record hrec
  refine (writeCellAtAddressInUse_post _ x.2.1 fiInfo).mono fun y ⟨heff', hrec'⟩ => ?_
  rw [hid] at heff'
  exact ⟨(CallEffect.of_stats hframe hstats).trans
      (heff.trans ((CallEffect.setAddressInUse x.1 a).trans (heff'.trans (.setAddressInUse y.1 0)))),
    Fault.record_restore (hrec'.trans hrec)⟩

/-! Each coupling handler is split down to its exits, and each exit is one of
the lemmas above. -/

theorem faultInjectionControllerCfst_spec (direction : Bool) :
    CellHandlerSpec fun c fault fiInfo addr value accessType =>
      faultInjectionControllerCfst c fault fiInfo addr value accessType direction := by
  intro c fault fiInfo addr value accessType
  unfold faultInjectionControllerCfst
  cases direction <;> simp only [Bool.false_eq_true, ↓reduceIte]
  all_goals split
  all_goals split
  all_goals try simp only [post_bind_iff, post_pure_iff]
  all_goals first
    | exact stop_post (by rfl) (by rfl) _ _ _
    | exact cellTail_post (by rfl) (by rfl) _ _ _ _
    | exact accessTail_post (by rfl) (by rfl) _ _ _ _

theorem faultInjectionControllerCfds_spec : CellHandlerSpec faultInjectionControllerCfds := by
  intro c fault fiInfo addr value accessType
  unfold faultInjectionControllerCfds
  dsimp only
  split
  all_goals split
  all_goals try simp only [post_bind_iff, post_pure_iff, *]
  all_goals first
    | exact stop_post (by rfl) (by rfl) _ _ _
    | exact cellTail_post (by rfl) (by rfl) _ _ _ _
    | exact cellAccessTail_post (by rfl) (by rfl) _ _ _ _

theorem writeCouplingFault_spec
    {intraOf : String → BitVec 32 → BitVec 32 → BitVec 32 → BitVec 32 → IntraStep}
    {interOf : String → BitVec 32 → BitVec 32 → BitVec 32 → Option (BitVec 32)} :
    CellHandlerSpec (writeCouplingFault intraOf interOf) := by
  intro c fault fiInfo addr value accessType
  unfold writeCouplingFault
  split
  · exact stop_post (by rfl) (by rfl) _ _ _
  · dsimp only
    split
    all_goals split
    all_goals try simp only [post_bind_iff, post_pure_iff]
    all_goals first
      | exact stop_post (by rfl) (by rfl) _ _ _
      | exact accessTail_post (by rfl) (by rfl) _ _ _ _

theorem readCouplingFault_spec {name : String} {sink : CellSink} :
    CellHandlerSpec (readCouplingFault name sink) := by
  intro c fault fiInfo addr value accessType
  unfold readCouplingFault
  split
  · exact stop_post (by rfl) (by rfl) _ _ _
  · dsimp only
    cases sink <;> simp only [reduceCtorEq, ↓reduceIte]
    all_goals split
    all_goals split
    all_goals try simp only [post_bind_iff, post_pure_iff]
    all_goals first
      | exact stop_post (by rfl) (by rfl) _ _ _
      | exact cellTail_post (by rfl) (by rfl) _ _ _ _
      | exact accessTail_post (by rfl) (by rfl) _ _ _ _
      | exact accessCellTail_post (by rfl) (by rfl) _ _ _ _ _

theorem cellFaultHandler_spec {mode : String} {h : CellHandler}
    (hmode : cellFaultHandler mode = some h) : CellHandlerSpec h := by
  rcases cellFaultHandler_eq_some hmode with ⟨_, _, _, _, rfl⟩ | ⟨_, _, rfl⟩
  · exact singleCellFault_spec
  · exact dynamicCellFault_spec

theorem CouplingMode.handler_spec (k : CouplingMode) : CellHandlerSpec k.handler := by
  cases k
  · exact faultInjectionControllerCfst_spec true
  · exact faultInjectionControllerCfds_spec
  all_goals first
    | exact writeCouplingFault_spec
    | exact readCouplingFault_spec

/-- A content-fault handler gives back the record it borrows: when it returns,
every field but `is_active` is as on entry. -/
def GivesBackRecord (h : CellHandler) : Prop :=
  ∀ c fault fiInfo addr value accessType c' fault' value',
    h c fault fiInfo addr value accessType = .ok (c', fault', value') →
      fault' = { fault with isActive := fault'.isActive }

theorem CellHandlerSpec.givesBackRecord {h : CellHandler} (hspec : CellHandlerSpec h) :
    GivesBackRecord h :=
  fun c fault fiInfo addr value accessType _ _ _ hrun =>
    Fault.eq_setActive_of_record (hspec c fault fiInfo addr value accessType _ hrun).2

theorem contentHandlers_give_back_record :
    GivesBackRecord faultInjectionControllerTf ∧ GivesBackRecord faultInjectionControllerRdf ∧
      GivesBackRecord faultInjectionControllerWdf ∧ GivesBackRecord faultInjectionControllerIrf ∧
      GivesBackRecord faultInjectionControllerDrdf ∧
      GivesBackRecord faultInjectionControllerRdfDyn ∧
      GivesBackRecord faultInjectionControllerIrfDyn ∧
      GivesBackRecord faultInjectionControllerDrdfDyn ∧
      (∀ direction, GivesBackRecord fun c fault fiInfo addr value accessType =>
        faultInjectionControllerCfst c fault fiInfo addr value accessType direction) ∧
      GivesBackRecord faultInjectionControllerCfds ∧ GivesBackRecord faultInjectionControllerCftr ∧
      GivesBackRecord faultInjectionControllerCfwd ∧ GivesBackRecord faultInjectionControllerCfrd ∧
      GivesBackRecord faultInjectionControllerCfir ∧ GivesBackRecord faultInjectionControllerCfdr :=
  ⟨singleCellFault_spec.givesBackRecord, singleCellFault_spec.givesBackRecord,
    singleCellFault_spec.givesBackRecord, singleCellFault_spec.givesBackRecord,
    singleCellFault_spec.givesBackRecord, dynamicCellFault_spec.givesBackRecord,
    dynamicCellFault_spec.givesBackRecord, dynamicCellFault_spec.givesBackRecord,
    fun direction => (faultInjectionControllerCfst_spec direction).givesBackRecord,
    faultInjectionControllerCfds_spec.givesBackRecord, writeCouplingFault_spec.givesBackRecord,
    writeCouplingFault_spec.givesBackRecord, readCouplingFault_spec.givesBackRecord,
    readCouplingFault_spec.givesBackRecord, readCouplingFault_spec.givesBackRecord⟩

def cfstLending : Fault :=
  Fault.permanent "ACCESS" "RAM" "MEMORY CELL" "CFST10" ⟨0x100, 0x200, 1, -1, -1⟩

theorem contentHandlers_give_back_record_cfst :
    ∃ r, faultInjectionControllerCfst (Controller.loaded Machine.zero [cfstLending]) cfstLending
        memoryContentInfo 0x200 0xFFFF .writeAccessType false = .ok r ∧
      r.2.1 = { cfstLending with isActive := r.2.1.isActive } := by
  obtain ⟨r, hr⟩ : ∃ r, faultInjectionControllerCfst (Controller.loaded Machine.zero [cfstLending])
      cfstLending memoryContentInfo 0x200 0xFFFF .writeAccessType false = .ok r := ⟨_, rfl⟩
  exact ⟨r, hr, contentHandlers_give_back_record.2.2.2.2.2.2.2.2.1 false _ _ _ _ _ _ _ _ _ hr⟩

/-! ## Dispatchers -/

/-- What an entry of a dispatcher may do with `fault`, crediting under `category`. -/
def StepPost {β : Type} (category : String) (c : Controller) (fault : Fault)
    (r : Controller × β × Fault) : Prop :=
  CallEffect (creditsOf fault.id category) c r.1 ∧ r.2.2.record = fault.record

/-- What an entry of a dispatcher may do with `fault`. -/
def EntryPost {β : Type} (c : Controller) (fault : Fault) (r : Controller × β × Fault) : Prop :=
  CallEffect (faultCredits fault) c r.1 ∧ r.2.2.record = fault.record

theorem StepPost.entry {β : Type} {category : String} {c : Controller} {fault : Fault}
    {r : Controller × β × Fault} (hcat : componentCategory fault.component = some category)
    (h : StepPost category c fault r) : EntryPost c fault r :=
  ⟨h.1.mono fun _ _ hcredit => ⟨category, hcat, hcredit⟩, h.2⟩

theorem skip_step_post {β : Type} (c : Controller) (b : β) (fault : Fault) (category : String) :
    Post (pure (c, b, fault) : Except CError (Controller × β × Fault)) (StepPost category c fault) :=
  post_pure ⟨.refl c, rfl⟩

theorem cellHandler_step_post {h : CellHandler} (hspec : CellHandlerSpec h) (c : Controller)
    (fault : Fault) (fiInfo : FaultInjectionInfo) (addr : BitVec 64) (value : BitVec 32)
    (accessType : AccessType) :
    Post (CellHandler.toStep <$> h c fault fiInfo addr value accessType)
      (StepPost (counterCategory fiInfo) c fault) :=
  post_map (hspec c fault fiInfo addr value accessType)

theorem valueModeOnAccess_post {h : Controller → BitVec 64 → Fault → FaultInjectionInfo →
      BitVec 32 → Except CError (Controller × BitVec 64 × Fault)}
    (hspec : ValueHandlerSpec h) (c : Controller) (fault : Fault) (fiInfo : FaultInjectionInfo)
    (value : BitVec 32) :
    Post (valueModeOnAccess h c fault fiInfo value) (StepPost (counterCategory fiInfo) c fault) := by
  unfold valueModeOnAccess
  refine post_bind (hspec c _ fault fiInfo 0) ?_
  rintro ⟨c₁, b₁, f₁⟩ hr
  exact post_pure hr

theorem memoryContentMode_post (c : Controller) (fault : Fault) (fiInfo : FaultInjectionInfo)
    (addr : BitVec 64) (value : BitVec 32) (accessType : AccessType) (mode : String) :
    Post (memoryContentMode c fault fiInfo addr value accessType mode)
      (StepPost (counterCategory fiInfo) c fault) := by
  unfold memoryContentMode
  dsimp only
  split
  next h hvalue =>
    split
    · exact skip_step_post c value fault _
    · exact valueModeOnAccess_post (valueFaultHandler_spec hvalue) c fault fiInfo value
  next h _ hcell =>
    split
    · exact skip_step_post c value fault _
    · exact cellHandler_step_post (cellFaultHandler_spec hcell) c fault fiInfo addr value accessType
  next =>
    split
    · exact cellHandler_step_post (faultInjectionControllerCfst_spec false) c fault fiInfo addr
        value accessType
    · split
      · exact cellHandler_step_post (faultInjectionControllerCfst_spec true) c fault fiInfo addr
          value accessType
      · exact skip_step_post c value fault _
  next =>
    split
    · exact skip_step_post c value fault _
    · exact cellHandler_step_post faultInjectionControllerCfds_spec c fault fiInfo addr value
        accessType
  next =>
    split
    · exact skip_step_post c value fault _
    · exact cellHandler_step_post (CouplingMode.handler_spec _) c fault fiInfo addr value accessType
  next => exact skip_step_post c value fault _

theorem registerContentMode_post (c : Controller) (fault : Fault) (fiInfo : FaultInjectionInfo)
    (addr : BitVec 64) (value : BitVec 32) (accessType : AccessType) (mode : String) :
    Post (registerContentMode c fault fiInfo addr value accessType mode)
      (StepPost (counterCategory fiInfo) c fault) := by
  unfold registerContentMode
  dsimp only
  split
  next h hvalue =>
    split
    · exact skip_step_post c value fault _
    · exact valueModeOnAccess_post (valueFaultHandler_spec hvalue) c fault fiInfo value
  next h _ hcell =>
    split
    · exact skip_step_post c value fault _
    · exact cellHandler_step_post (cellFaultHandler_spec hcell) c fault fiInfo addr value accessType
  next =>
    split
    · exact skip_step_post c value fault _
    · split
      · exact cellHandler_step_post (faultInjectionControllerCfst_spec false) c fault fiInfo addr
          value accessType
      · split
        · exact cellHandler_step_post (faultInjectionControllerCfst_spec true) c fault fiInfo addr
            value accessType
        · exact skip_step_post c value fault _
  next =>
    split
    · exact skip_step_post c value fault _
    · split
      · exact skip_step_post c value fault _
      · exact cellHandler_step_post faultInjectionControllerCfds_spec c fault fiInfo addr value
          accessType
  next =>
    split
    · exact skip_step_post c value fault _
    · split
      · exact skip_step_post c value fault _
      · exact cellHandler_step_post readCouplingFault_spec c fault fiInfo addr value accessType
  next =>
    split
    · exact skip_step_post c value fault _
    · split
      · exact skip_step_post c value fault _
      · exact cellHandler_step_post (CouplingMode.handler_spec _) c fault fiInfo addr value
          accessType
  next => exact skip_step_post c value fault _

theorem logCellOperationsMemory_frame (c : Controller) (fault : Fault) (addr : BitVec 64)
    (value : BitVec 32) (accessType : AccessType) :
    Post (logCellOperationsMemory c fault addr value accessType)
      fun c' => c'.frame = c.frame ∧ c'.stats = c.stats := by
  intro c' h
  rw [logCellOperationsMemory_eq_ok h]
  unfold memoryOpsLogged
  split <;> exact ⟨rfl, rfl⟩

theorem logCellOperationsRegister_frame (c : Controller) (fault : Fault) (addr : BitVec 64)
    (value : BitVec 32) (accessType : AccessType) :
    Post (logCellOperationsRegister c fault addr value accessType)
      fun c' => c'.frame = c.frame ∧ c'.stats = c.stats := by
  intro c' h
  rw [logCellOperationsRegister_eq_ok h]
  unfold registerOpsLogged
  split <;> exact ⟨rfl, rfl⟩

theorem memoryContentStep_post (addr : BitVec 64) (accessType : AccessType) (c : Controller)
    (value : BitVec 32) (fault : Fault) :
    Post (memoryContentStep addr accessType c value fault) (EntryPost c fault) := by
  unfold memoryContentStep
  refine post_bind (fun _ _ => trivial) fun applies _ => ?_
  split
  · exact post_pure ⟨.refl c, rfl⟩
  · split
    · rename_i component target mode hcomponent _ _
      split
      · rename_i hram
        have hcat : componentCategory fault.component = some "ram " := by
          rw [hcomponent, hram.1]
          rfl
        refine post_bind (logCellOperationsMemory_frame c fault addr value accessType)
          fun c₁ ⟨hframe, hstats⟩ => ?_
        exact (memoryContentMode_post c₁ fault memoryContentInfo addr value accessType mode).mono
          fun r hr => StepPost.entry hcat ⟨(CallEffect.of_stats hframe hstats).trans hr.1, hr.2⟩
      · exact post_pure ⟨.refl c, rfl⟩
    · exact post_pure ⟨.refl c, rfl⟩

theorem registerContentStep_post (addr : BitVec 64) (accessType : AccessType) (c : Controller)
    (value : BitVec 32) (fault : Fault) :
    Post (registerContentStep addr accessType c value fault) (EntryPost c fault) := by
  unfold registerContentStep
  refine post_bind (fun _ _ => trivial) fun applies _ => ?_
  split
  · exact post_pure ⟨.refl c, rfl⟩
  · split
    · rename_i component target mode hcomponent _ _
      split
      · rename_i hreg
        have hcat : componentCategory fault.component = some "reg " := by
          rw [hcomponent, hreg.1]
          rfl
        refine post_bind (logCellOperationsRegister_frame c fault addr value accessType)
          fun c₁ ⟨hframe, hstats⟩ => ?_
        exact (registerContentMode_post c₁ fault registerContentInfo addr value accessType
          mode).mono fun r hr =>
            StepPost.entry hcat ⟨(CallEffect.of_stats hframe hstats).trans hr.1, hr.2⟩
      · exact post_pure ⟨.refl c, rfl⟩
    · exact post_pure ⟨.refl c, rfl⟩

theorem strcmp_post (s : Option String) (t : String) :
    Post (strcmp s t) fun r => r = 0 → s = some t := by
  intro r hr hzero
  cases s with
  | none => cases hr
  | some s =>
      simp only [strcmp_some, Except.ok.injEq] at hr
      subst hzero
      split_ifs at hr with hst
      · rw [hst]
      all_goals simp at hr

theorem memoryAddressStep_post (c : Controller) (addr : BitVec 64) (fault : Fault) :
    Post (memoryAddressStep c addr fault) (EntryPost c fault) := by
  unfold memoryAddressStep
  split
  · exact post_pure ⟨.refl c, rfl⟩
  · refine post_bind (fun _ _ => trivial) fun _ _ => ?_
    split
    · exact post_pure ⟨.refl c, rfl⟩
    · refine post_bind (strcmp_post fault.component "RAM") fun r hr => ?_
      split
      · exact post_pure ⟨.refl c, rfl⟩
      · rename_i hzero
        have hcat : componentCategory fault.component = some "ram " := by
          rw [hr (not_not.mp hzero)]
          rfl
        refine post_bind (fun _ _ => trivial) fun _ _ => ?_
        split
        · exact post_pure ⟨.refl c, rfl⟩
        · refine post_bind (fun _ _ => trivial) fun mode _ => ?_
          split
          · rename_i h hvalue
            exact (valueFaultHandler_spec hvalue c addr fault _ 0).mono fun r hr =>
              StepPost.entry hcat hr
          · exact post_pure ⟨.refl c, rfl⟩

theorem registerAddressStep_post (c : Controller) (addr : BitVec 64) (fault : Fault) :
    Post (registerAddressStep c addr fault) (EntryPost c fault) := by
  unfold registerAddressStep
  split
  · exact post_pure ⟨.refl c, rfl⟩
  · refine post_bind (fun _ _ => trivial) fun _ _ => ?_
    split
    · exact post_pure ⟨.refl c, rfl⟩
    · split
      · rename_i component target mode hcomponent _ _
        split
        · rename_i hreg
          have hcat : componentCategory fault.component = some "reg " := by
            rw [hcomponent, hreg.1]
            rfl
          split
          · rename_i h hvalue
            exact (valueFaultHandler_spec hvalue c addr fault _ 0).mono fun r hr =>
              StepPost.entry hcat hr
          · exact post_pure ⟨.refl c, rfl⟩
        · exact post_pure ⟨.refl c, rfl⟩
      · exact post_pure ⟨.refl c, rfl⟩

theorem whenCpuFaultActive_post {β : Type} {c : Controller} {b : β} {fault : Fault}
    {pc : BitVec 32} {inject : Controller → Fault → Controller × β}
    (hinject : ∀ c f, (inject c f).1.frame = c.frame ∧ (inject c f).1.stats = c.stats) :
    Post (whenCpuFaultActive c b fault pc inject) (StepPost ("cpu" ++ " ") c fault) := by
  unfold whenCpuFaultActive
  refine post_bind (setFaultActive_post c fault "cpu" pc) ?_
  rintro ⟨c₁, f₁⟩ ⟨heff, hrec⟩
  dsimp only
  split
  · obtain ⟨hframe, hstats⟩ := hinject c₁ f₁
    exact post_pure ⟨heff.trans (.of_stats hframe hstats), hrec⟩
  · exact post_pure ⟨heff, hrec⟩

theorem componentCategory_cpu {fault : Fault} {component : String}
    (hcomponent : fault.component = some component) (hcpu : component = "CPU") :
    componentCategory fault.component = some ("cpu" ++ " ") := by
  rw [hcomponent, hcpu]
  rfl

theorem insnStep_post (c : Controller) (insnWord : BitVec 64) (fault : Fault) :
    Post (insnStep c insnWord fault) (EntryPost c fault) := by
  unfold insnStep
  split
  · exact post_pure ⟨.refl c, rfl⟩
  · refine post_bind (fun _ _ => trivial) fun _ _ => ?_
    split
    · exact post_pure ⟨.refl c, rfl⟩
    · split
      · rename_i component target mode hcomponent _ _
        split
        · rename_i hcpu
          split
          · exact post_pure ⟨.refl c, rfl⟩
          · split
            · exact post_pure ⟨.refl c, rfl⟩
            · exact (whenCpuFaultActive_post fun c' f => ⟨rfl, rfl⟩).mono fun r hr =>
                StepPost.entry (componentCategory_cpu hcomponent hcpu.1) hr
        · split
          · rename_i hcpu
            split
            · exact post_pure ⟨.refl c, rfl⟩
            · split
              · exact post_pure ⟨.refl c, rfl⟩
              · exact (whenCpuFaultActive_post fun c' f => ⟨rfl, rfl⟩).mono fun r hr =>
                  StepPost.entry (componentCategory_cpu hcomponent hcpu.1) hr
          · exact post_pure ⟨.refl c, rfl⟩
      · exact post_pure ⟨.refl c, rfl⟩

theorem timeCellFault_post (c : Controller) (fault : Fault) (fiInfo : FaultInjectionInfo)
    (addr : BitVec 64) (pc : BitVec 32) (mode : String) :
    Post (timeCellFault c fault fiInfo addr pc mode) (StepPost (counterCategory fiInfo) c fault) := by
  unfold timeCellFault
  dsimp only
  split
  · rename_i h hvalue
    split
    · exact post_pure ⟨.refl c, rfl⟩
    · refine post_bind (valueFaultHandler_spec hvalue c _ fault fiInfo pc) ?_
      rintro ⟨c₁, b₁, f₁⟩ hr
      exact post_pure hr
  · exact post_pure ⟨.refl c, rfl⟩

theorem timeStep_post (addr : BitVec 64) (c : Controller) (u : Unit) (fault : Fault) :
    Post (timeStep addr c u fault) (EntryPost c fault) := by
  unfold timeStep
  dsimp only
  refine post_bind (fun _ _ => trivial) fun _ _ => ?_
  split
  · exact post_pure ⟨.refl c, rfl⟩
  · split
    · rename_i component target mode hcomponent _ _
      split
      · rename_i hcpu
        exact (whenCpuFaultActive_post fun c' f => ⟨rfl, rfl⟩).mono fun r hr =>
          StepPost.entry (componentCategory_cpu hcomponent hcpu.1) hr
      · split
        · rename_i hcpu
          split
          · exact post_pure ⟨.refl c, rfl⟩
          · split
            · exact post_pure ⟨.refl c, rfl⟩
            · exact (whenCpuFaultActive_post fun c' f => ⟨rfl, rfl⟩).mono fun r hr =>
                StepPost.entry (componentCategory_cpu hcomponent hcpu.1) hr
        · split
          · rename_i hreg
            have hcat : componentCategory fault.component = some "reg " := by
              rw [hcomponent, hreg.1]
              rfl
            exact (timeCellFault_post c fault _ addr _ mode).mono fun r hr => StepPost.entry hcat hr
          · split
            · rename_i hram
              have hcat : componentCategory fault.component = some "ram " := by
                rw [hcomponent, hram.1]
                rfl
              exact (timeCellFault_post c fault _ addr _ mode).mono fun r hr =>
                StepPost.entry hcat hr
            · exact post_pure ⟨.refl c, rfl⟩
    · exact post_pure ⟨.refl c, rfl⟩

/-! ## The loop and the entry point -/

theorem forEachFaultListElement_post {β : Type}
    {step : Controller → β → Fault → Except CError (Controller × β × Fault)}
    (hstep : ∀ c b fault, Post (step c b fault) (EntryPost c fault)) (c : Controller) (b : β)
    (faults : List Fault) :
    Post (forEachFaultListElement step c b faults) fun r =>
      CallEffect (fun id t => ∃ f ∈ faults, faultCredits f id t) c r.1 ∧
        r.2.2.map Fault.record = faults.map Fault.record := by
  induction faults generalizing c b with
  | nil => exact post_pure ⟨.refl c, rfl⟩
  | cons fault faults ih =>
      refine post_bind (hstep c b fault) ?_
      rintro ⟨c₁, b₁, f₁⟩ ⟨heff, hrec⟩
      refine post_bind (ih c₁ b₁) ?_
      rintro ⟨c₂, b₂, fs₂⟩ ⟨heff', hrecs⟩
      refine post_pure ⟨?_, ?_⟩
      · exact (heff.mono fun id t h => ⟨fault, List.mem_cons_self, h⟩).trans
          (heff'.mono fun id t ⟨f, hf, h⟩ => ⟨f, List.mem_cons_of_mem fault hf, h⟩)
      · simp only [List.map_cons]
        rw [hrec, hrecs]

theorem runFaultList_post {β : Type}
    {step : Controller → β → Fault → Except CError (Controller × β × Fault)}
    (hstep : ∀ c b fault, Post (step c b fault) (EntryPost c fault)) (c : Controller) (b : β) :
    Post (runFaultList step c b) fun r => CallEffect c.frame.credits c r.1 := by
  unfold runFaultList
  refine post_bind (forEachFaultListElement_post hstep c b c.faults) ?_
  rintro ⟨c₁, b₁, fs₁⟩ ⟨heff, hrecs⟩
  refine post_pure ⟨?_, ?_⟩
  · have hframe := heff.frame
    simp only [Controller.frame, Frame.mk.injEq] at hframe ⊢
    exact ⟨hrecs, hframe.2⟩
  · exact (heff.mono fun id t ⟨f, hf, h⟩ => ⟨f.record, List.mem_map_of_mem hf, h⟩).credits

theorem faultInjectionControllerMemoryContent_post (c : Controller) (addr : BitVec 64)
    (value : BitVec 32) (accessType : AccessType) :
    Post (faultInjectionControllerMemoryContent c addr value accessType) fun r =>
      CallEffect c.frame.credits c r.1 :=
  runFaultList_post (memoryContentStep_post addr accessType) c value

theorem faultInjectionControllerRegisterContent_post (c : Controller) (addr : BitVec 64)
    (value : BitVec 32) (accessType : AccessType) :
    Post (faultInjectionControllerRegisterContent c addr value accessType) fun r =>
      CallEffect c.frame.credits c r.1 :=
  runFaultList_post (registerContentStep_post addr accessType) c value

theorem faultInjectionControllerMemoryAddress_post (c : Controller) (addr : BitVec 64) :
    Post (faultInjectionControllerMemoryAddress c addr) fun r => CallEffect c.frame.credits c r.1 :=
  runFaultList_post memoryAddressStep_post c addr

theorem faultInjectionControllerRegisterAddress_post (c : Controller) (addr : BitVec 64) :
    Post (faultInjectionControllerRegisterAddress c addr) fun r =>
      CallEffect c.frame.credits c r.1 :=
  runFaultList_post registerAddressStep_post c addr

theorem faultInjectionControllerInsn_post (c : Controller) (insnWord : BitVec 64) :
    Post (faultInjectionControllerInsn c insnWord) fun r => CallEffect c.frame.credits c r.1 :=
  runFaultList_post insnStep_post c insnWord

theorem faultInjectionControllerTime_post (c : Controller) (addr : BitVec 64) :
    Post (faultInjectionControllerTime c addr) fun c' => CallEffect c.frame.credits c c' := by
  unfold faultInjectionControllerTime
  refine post_bind (runFaultList_post (timeStep_post addr) c ()) ?_
  rintro ⟨c₁, u⟩ h
  exact post_pure h

theorem memoryContentOnCpus_post (c : Controller) (addr : BitVec 64) (value : BitVec 32)
    (accessType : AccessType) :
    Post (memoryContentOnCpus c addr value accessType) fun r => CallEffect c.frame.credits c r.1 := by
  unfold memoryContentOnCpus
  dsimp only
  split
  · exact post_pure (.setNextCpu c _)
  · split
    · exact post_pure (.setNextCpu c _)
    · refine post_bind (post_foldlM (fun cv => CallEffect c.frame.credits c cv.1) _ _
        (.setNextCpu c _) ?_) ?_
      · intro cv _ hcv
        refine (faultInjectionControllerMemoryContent_post cv.1 addr cv.2 accessType).mono ?_
        intro r hr
        rw [hcv.frame] at hr
        exact hcv.trans hr
      · intro cv hcv
        exact post_pure (hcv.trans (.setNextCpu cv.1 none))

theorem faultInjectionControllerInit_post (c : Controller) (envGiven : Bool) (addr : BitVec 64)
    (value : BitVec 32) (injectionMode : InjectionMode) (accessType : AccessType) :
    Post (faultInjectionControllerInit c envGiven addr value injectionMode accessType) fun r =>
      CallEffect (profilerLog c addr accessType).frame.credits (profilerLog c addr accessType) r.1 := by
  unfold faultInjectionControllerInit
  dsimp only
  split
  · exact post_pure (.refl _)
  · split
    · refine post_bind (faultInjectionControllerMemoryAddress_post _ addr) ?_
      rintro ⟨c₁, a₁⟩ h
      exact post_pure h
    · split
      · refine post_bind (faultInjectionControllerMemoryContent_post _ addr value accessType) ?_
        rintro ⟨c₁, v₁⟩ h
        exact post_pure h
      · refine post_bind (memoryContentOnCpus_post _ addr value accessType) ?_
        rintro ⟨c₁, v₁⟩ h
        exact post_pure h
    · refine post_bind (faultInjectionControllerInsn_post _ addr) ?_
      rintro ⟨c₁, a₁⟩ h
      exact post_pure h
    · refine post_bind (faultInjectionControllerRegisterAddress_post _ addr) ?_
      rintro ⟨c₁, a₁⟩ h
      exact post_pure h
    · refine post_bind (faultInjectionControllerRegisterContent_post _ addr value accessType) ?_
      rintro ⟨c₁, v₁⟩ h
      exact post_pure h
    · refine post_bind (faultInjectionControllerTime_post _ addr) ?_
      intro c₁ h
      exact post_pure h

end Fies
