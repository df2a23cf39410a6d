import Fies.Effects
import Fies.FaultLibrary
import Fies.Softmmu
import Mathlib.Data.Finset.Card

/-!
# An experiment: a reload and the hook calls after it

`qmp_fault_reload` starts an experiment; from then on the guest runs and its
hooks call `fault_injection_controller_init`.  A run is that sequence of
calls, each with what the guest did to the machine since the last one and the
virtual time it is made at.

Over a run the fault list keeps its records and the counters change only by
credits of its faults (`Fies.Effects`).  From there:

* the counters stay consistent: the total is the sum of the six categories
  and the number of ids marked in `id_array`, and only ids of the list are
  marked, when every id of the list is positive;
* each call of a read or write access writes one line to one of the two
  profiling files, which the address alone chooses.

Nothing checks the range of an id or a mask bit: an id 0 marks the entry
before `id_array`, and a mask bit from `MEMORY_WIDTH` on lies past the rows of
`ops_on_memory_cell`.
-/

namespace Fies

open CRuntime Except

/-! ## Runs -/

/-- One call of `fault_injection_controller_init` by a hook: the guest has run
on since the last call (`guest` is what it did to the machine), the virtual
clock reads `clock`, and the hook passes its arguments. -/
structure HookCall where
  guest : Machine → Machine
  clock : Int
  envGiven : Bool
  addr : BitVec 64
  value : BitVec 32
  injectionMode : InjectionMode
  accessType : AccessType

def HookCall.enter (call : HookCall) (c : Controller) : Controller :=
  profilerLog { c with env := call.guest c.env, clock := call.clock } call.addr call.accessType

def HookCall.run (call : HookCall) (c : Controller) : Except CError Controller := do
  let (c, _, _) ← faultInjectionControllerInit { c with env := call.guest c.env, clock := call.clock }
    call.envGiven call.addr call.value call.injectionMode call.accessType
  pure c

def runHookCalls (c : Controller) (calls : List HookCall) : Except CError Controller :=
  calls.foldlM (fun c call => call.run c) c

theorem Frame.credits_congr {F G : Frame} (h : F.faults = G.faults) : F.credits = G.credits := by
  unfold Frame.credits
  rw [h]

theorem Controller.frame_credits (c : Controller) :
    c.frame.credits = fun id t => ∃ f ∈ c.faults, faultCredits f id t := by
  funext id t
  simp only [Frame.credits, Controller.frame, List.mem_map, exists_exists_and_eq_and]
  rfl

theorem HookCall.run_post (call : HookCall) (c : Controller) :
    Post (call.run c) fun c' => CallEffect c.frame.credits (call.enter c) c' := by
  unfold HookCall.run
  refine post_bind (faultInjectionControllerInit_post _ _ _ _ _ _) ?_
  rintro ⟨c₁, a₁, v₁⟩ h
  refine post_pure ?_
  have hcredits : (call.enter c).frame.credits = c.frame.credits :=
    Frame.credits_congr (by simp [Controller.frame, HookCall.enter])
  have h' : CallEffect (call.enter c).frame.credits (call.enter c) c₁ := h
  rwa [hcredits] at h'

@[simp] theorem HookCall.enter_stats (call : HookCall) (c : Controller) :
    (call.enter c).stats = c.stats := by
  simp [HookCall.enter]

@[simp] theorem HookCall.enter_faults (call : HookCall) (c : Controller) :
    (call.enter c).faults = c.faults := by
  simp [HookCall.enter]

@[simp] theorem HookCall.enter_env (call : HookCall) (c : Controller) :
    (call.enter c).env = call.guest c.env := by
  simp [HookCall.enter]

@[simp] theorem HookCall.enter_addressInUse (call : HookCall) (c : Controller) :
    (call.enter c).addressInUse = c.addressInUse := by
  simp [HookCall.enter]

@[simp] theorem HookCall.enter_timerValue (call : HookCall) (c : Controller) :
    (call.enter c).timerValue = c.timerValue := by
  unfold HookCall.enter profilerLog
  split_ifs <;> rfl

theorem HookCall.getTimer_enter (call : HookCall) (c : Controller) :
    getTimer (call.enter c) = call.clock - c.timerValue := by
  rw [HookCall.enter, getTimer_profilerLog]
  rfl

theorem runHookCalls_post (c : Controller) (calls : List HookCall) :
    Post (runHookCalls c calls) fun c' => c'.faults.map Fault.record = c.faults.map Fault.record ∧
      Relation.ReflTransGen (Credit c.frame.credits) c.stats c'.stats := by
  unfold runHookCalls
  refine post_foldlM _ _ calls ⟨rfl, .refl⟩ ?_
  rintro c₁ call ⟨hrecords, hcredits⟩
  refine (call.run_post c₁).mono ?_
  intro c₂ heff
  have hrecords₂ : c₂.faults.map Fault.record = c₁.faults.map Fault.record := by
    have := congrArg Frame.faults heff.frame
    simpa [Controller.frame] using this
  have hsame : c₁.frame.credits = c.frame.credits := Frame.credits_congr hrecords
  have hstep := heff.credits
  rw [hsame, HookCall.enter_stats] at hstep
  exact ⟨hrecords₂.trans hrecords, hcredits.trans hstep⟩

/-! ## Consistent counters -/

def faultTypes : List String :=
  ["ram trans", "ram perm", "cpu trans", "cpu perm", "reg trans", "reg perm"]

def Statistics.categoryTotal (st : Statistics) : Nat :=
  st.numInjectedFaultsRamTrans + st.numInjectedFaultsRamPerm + st.numInjectedFaultsCpuTrans +
    st.numInjectedFaultsCpuPerm + st.numInjectedFaultsRegisterTrans +
    st.numInjectedFaultsRegisterPerm

def markedCount (size : Nat) (idArray : BitVec 32 → Bool) : Nat :=
  ((Finset.range size).filter fun i => idArray (BitVec.ofNat 32 i) = true).card

/-- The counters agree with each other and with the `id_array` that
`init_id_array` allocated for `faults`, and only ids of `faults` are marked:
every id is counted at most once. -/
structure StatsConsistent (faults : List Fault) (st : Statistics) : Prop where
  total_eq_categories : st.numInjectedFaults = st.categoryTotal
  total_eq_marked :
    st.numInjectedFaults = markedCount (getMaxIDInFaultList faults).toNat st.idArray
  marked_of_fault : ∀ i, st.idArray i = true → ∃ f ∈ faults, i = f.id - 1

theorem StatsConsistent.initial (faults : List Fault) :
    StatsConsistent faults Statistics.initial where
  total_eq_categories := rfl
  total_eq_marked := by simp [markedCount, Statistics.initial]
  marked_of_fault := by simp [Statistics.initial]

theorem faultCredits_known {f : Fault} {id : BitVec 32} {faultType : String}
    (h : faultCredits f id faultType) : faultType ∈ faultTypes ∧ id = f.id := by
  obtain ⟨category, hcategory, hid, htype⟩ := h
  refine ⟨?_, hid⟩
  unfold componentCategory at hcategory
  split at hcategory <;> cases hcategory <;> rcases htype with rfl | rfl <;> decide

theorem incrNumInjectedFaults_of_known (st : Statistics) (id : BitVec 32) {faultType : String}
    (hknown : faultType ∈ faultTypes) :
    (st.idArray (id - 1) = true ∧ incrNumInjectedFaults st id faultType = st) ∨
      (st.idArray (id - 1) = false ∧
        (incrNumInjectedFaults st id faultType).numInjectedFaults = st.numInjectedFaults + 1 ∧
        (incrNumInjectedFaults st id faultType).categoryTotal = st.categoryTotal + 1 ∧
        (incrNumInjectedFaults st id faultType).idArray =
          Function.update st.idArray (id - 1) true) := by
  unfold incrNumInjectedFaults
  cases hmark : st.idArray (id - 1)
  · refine .inr ⟨rfl, ?_⟩
    simp only [hmark, Bool.false_eq_true, if_false]
    simp only [faultTypes, List.mem_cons, List.not_mem_nil, or_false] at hknown
    rcases hknown with rfl | rfl | rfl | rfl | rfl | rfl <;>
      simp [Statistics.categoryTotal] <;> omega
  · refine .inl ⟨rfl, ?_⟩
    simp only [hmark, if_true]

theorem markedCount_update {size : Nat} {idArray : BitVec 32 → Bool} {j : BitVec 32}
    (hsize : size ≤ 2 ^ 32) (hj : j.toNat < size) (hfresh : idArray j = false) :
    markedCount size (Function.update idArray j true) = markedCount size idArray + 1 := by
  unfold markedCount
  have hfilter : (Finset.range size).filter
      (fun i => Function.update idArray j true (BitVec.ofNat 32 i) = true) =
      insert j.toNat ((Finset.range size).filter fun i => idArray (BitVec.ofNat 32 i) = true) := by
    ext i
    simp only [Finset.mem_filter, Finset.mem_range, Finset.mem_insert]
    by_cases hij : i = j.toNat
    · subst hij
      simp [hj]
    · have hne : i < size → BitVec.ofNat 32 i ≠ j := by
        intro hi heq
        apply hij
        rw [← heq, BitVec.toNat_ofNat, Nat.mod_eq_of_lt (by omega)]
      constructor
      · rintro ⟨hi, hmark⟩
        rw [Function.update_of_ne (hne hi)] at hmark
        exact .inr ⟨hi, hmark⟩
      · rintro (h | ⟨hi, hmark⟩)
        · exact absurd h hij
        · exact ⟨hi, by rw [Function.update_of_ne (hne hi)]; exact hmark⟩
  rw [hfilter, Finset.card_insert_of_notMem]
  simp [hfresh]

theorem toNat_sub_one_lt {x : BitVec 32} {m : Int} (hpos : 0 < x.toInt) (hle : x.toInt ≤ m) :
    (x - 1).toNat < m.toNat := by
  have hx := BitVec.toInt_eq_toNat_cond x
  have hlt := x.isLt
  rw [BitVec.toNat_sub]
  split at hx <;> simp at hx ⊢ <;> omega

theorem StatsConsistent.credit {faults : List Fault} {st st' : Statistics}
    (hpos : ∀ f ∈ faults, 0 < f.id.toInt) (h : StatsConsistent faults st)
    (hcredit : Credit (fun id t => ∃ f ∈ faults, faultCredits f id t) st st') :
    StatsConsistent faults st' := by
  obtain ⟨id, faultType, ⟨f, hf, hfc⟩, rfl⟩ := hcredit
  obtain ⟨hknown, rfl⟩ := faultCredits_known hfc
  rcases incrNumInjectedFaults_of_known st f.id hknown with
    ⟨-, hsame⟩ | ⟨hfresh, htotal, hcategories, hmark⟩
  · rw [hsame]
    exact h
  · have hidx : (f.id - 1).toNat < (getMaxIDInFaultList faults).toNat :=
      toNat_sub_one_lt (hpos f hf) (le_getMaxIDInFaultList hf)
    have hsize : (getMaxIDInFaultList faults).toNat ≤ 2 ^ 32 := by
      have := getMaxIDInFaultList_lt faults
      omega
    refine ⟨?_, ?_, ?_⟩
    · rw [htotal, hcategories, h.total_eq_categories]
    · rw [htotal, hmark, markedCount_update hsize hidx hfresh, h.total_eq_marked]
    · intro i hi
      rw [hmark] at hi
      by_cases hij : i = f.id - 1
      · exact ⟨f, hf, hij⟩
      · rw [Function.update_of_ne hij] at hi
        exact h.marked_of_fault i hi

theorem StatsConsistent.of_credits {faults : List Fault} {st st' : Statistics}
    (hpos : ∀ f ∈ faults, 0 < f.id.toInt) (h : StatsConsistent faults st)
    (hcredits : Relation.ReflTransGen (Credit fun id t => ∃ f ∈ faults, faultCredits f id t)
      st st') :
    StatsConsistent faults st' := by
  induction hcredits with
  | refl => exact h
  | tail _ hstep ih => exact ih.credit hpos hstep

/-- The counters stay consistent over every run after a reload of a list with
positive ids, and every injection counted is a credit of a fault of the list,
in the category of its component. -/
theorem injection_statistics_consistent {xmlNodeListGetString : List XmlNode → Option String}
    {c c₁ c' : Controller} {doc : XmlDocument}
    {printed : List String} {calls : List HookCall}
    (hreload : qmpFaultReload xmlNodeListGetString c doc = .ok (c₁, printed))
    (hpos : ∀ f ∈ c₁.faults, 0 < f.id.toInt) (hrun : runHookCalls c₁ calls = .ok c') :
    StatsConsistent c₁.faults c'.stats ∧
      Relation.ReflTransGen (Credit c₁.frame.credits) c₁.stats c'.stats := by
  obtain ⟨c₂, status, printed', -, hc₁⟩ := qmpFaultReload_post _ c doc _ hreload
  have hstats : c₁.stats = Statistics.initial := by
    have hc₁' : c₁ = _ := hc₁
    rw [hc₁']
  obtain ⟨-, hcredits⟩ := runHookCalls_post c₁ calls c' hrun
  refine ⟨?_, hcredits⟩
  have h0 : StatsConsistent c₁.faults c₁.stats := by
    rw [hstats]
    exact StatsConsistent.initial c₁.faults
  rw [Controller.frame_credits] at hcredits
  exact h0.of_credits hpos hcredits

def newValueLibrary : XmlDocument :=
  .root (.element "injection" [.element "fault"
    [.element "id" [.text "1"], .element "component" [.text "RAM"],
      .element "target" [.text "MEMORY CELL"], .element "mode" [.text "NEW VALUE"],
      .element "trigger" [.text "ACCESS"], .element "type" [.text "PERMANENT"],
      .element "params" [.element "address" [.text "0x100"], .element "mask" [.text "0x5"]]]])

theorem injection_statistics_consistent_newValue :
    ∃ c₁ printed c', qmpFaultReload nodeListText (Controller.initial Machine.zero 0 1) newValueLibrary =
        .ok (c₁, printed) ∧ (∀ f ∈ c₁.faults, 0 < f.id.toInt) ∧
      runHookCalls c₁ [⟨id, 0, true, 0x100, 0, .fiMemoryContent, .readAccessType⟩] = .ok c' ∧
      StatsConsistent c₁.faults c'.stats := by
  refine ⟨_, _, _, rfl, by decide, eq_ok_of_toOption_isSome (by decide +kernel), ?_⟩
  exact (@injection_statistics_consistent nodeListText (Controller.initial Machine.zero 0 1) _ _
    newValueLibrary
    _ _ rfl (by decide) (eq_ok_of_toOption_isSome _)).1

/-! ## Profiling -/

/-- The line `profiler_log` writes for a call: a read or a write, logged with
`(int)*addr` and its kind. -/
def HookCall.profileRecord (call : HookCall) : Option ProfileRecord :=
  if call.accessType = .writeAccessType ∨ call.accessType = .readAccessType then
    some ⟨call.addr.setWidth 32, call.accessType⟩
  else none

/-- The lines of a run for `profiling_registers.txt`: those of the calls at an
address up to 15. -/
def registerLines (calls : List HookCall) : List ProfileRecord :=
  calls.filterMap fun call => if call.addr ≤ 15 then call.profileRecord else none

/-- The lines of a run for `profiling_memory.txt`: those of the calls at an
address above 15. -/
def memoryLines (calls : List HookCall) : List ProfileRecord :=
  calls.filterMap fun call => if call.addr ≤ 15 then none else call.profileRecord

theorem HookCall.enter_profiling (call : HookCall) (c : Controller) :
    (call.enter c).profilingRegisters =
        c.profilingRegisters ++ (if c.profileRegisters then registerLines [call] else []) ∧
      (call.enter c).profilingMemory =
        c.profilingMemory ++ (if c.profileRamAddresses then memoryLines [call] else []) := by
  unfold HookCall.enter profilerLog registerLines memoryLines HookCall.profileRecord
  by_cases hacc : call.accessType = .writeAccessType ∨ call.accessType = .readAccessType
  · by_cases haddr : call.addr ≤ 15#64
    · by_cases hreg : c.profileRegisters = true <;> simp [hacc, haddr, hreg]
    · by_cases hmem : c.profileRamAddresses = true <;> simp [hacc, haddr, hmem]
  · simp [hacc]

theorem HookCall.enter_switches (call : HookCall) (c : Controller) :
    (call.enter c).profileRegisters = c.profileRegisters ∧
      (call.enter c).profileRamAddresses = c.profileRamAddresses := by
  unfold HookCall.enter profilerLog
  split_ifs <;> exact ⟨rfl, rfl⟩

/-- Over a run, each call of a read or write access adds its line to the
register file when its address is at most 15 and to the memory file
otherwise, as far as the switches allow; nothing else is written. -/
theorem profiling_logs_by_address {c c' : Controller} {calls : List HookCall}
    (hrun : runHookCalls c calls = .ok c') :
    c'.profilingRegisters =
        c.profilingRegisters ++ (if c.profileRegisters then registerLines calls else []) ∧
      c'.profilingMemory =
        c.profilingMemory ++ (if c.profileRamAddresses then memoryLines calls else []) := by
  induction calls generalizing c with
  | nil =>
      cases hrun
      simp [registerLines, memoryLines]
  | cons call calls ih =>
      rw [runHookCalls, List.foldlM_cons] at hrun
      obtain ⟨c₁, hc₁, hrest⟩ := bind_eq_ok_iff.mp hrun
      have hframe := (call.run_post c c₁ hc₁).frame
      have hregs : c₁.profilingRegisters = (call.enter c).profilingRegisters :=
        congrArg Frame.profilingRegisters hframe
      have hmem : c₁.profilingMemory = (call.enter c).profilingMemory :=
        congrArg Frame.profilingMemory hframe
      have hswitches : c₁.profileRegisters = c.profileRegisters ∧
          c₁.profileRamAddresses = c.profileRamAddresses :=
        ⟨(congrArg Frame.profileRegisters hframe).trans (call.enter_switches c).1,
          (congrArg Frame.profileRamAddresses hframe).trans (call.enter_switches c).2⟩
      obtain ⟨hregs', hmem'⟩ := ih hrest
      obtain ⟨hregsCall, hmemCall⟩ := call.enter_profiling c
      have hsplit : ∀ (f : HookCall → Option ProfileRecord),
          (call :: calls).filterMap f = [call].filterMap f ++ calls.filterMap f := by
        intro f
        rw [← List.filterMap_append]
        rfl
      rw [hregs', hmem', hregs, hmem, hregsCall, hmemCall, hswitches.1, hswitches.2]
      unfold registerLines memoryLines
      rw [hsplit, hsplit]
      constructor <;> split <;> simp

theorem profiling_logs_by_address_store :
    ∃ c', runHookCalls { Controller.loaded Machine.zero [] with profileRamAddresses := true }
        [⟨id, 0, true, 0x100, 7, .fiMemoryAddr, .writeAccessType⟩,
          ⟨id, 0, true, 0x100, 7, .fiMemoryContent, .writeAccessType⟩] = .ok c' ∧
      c'.profilingMemory = [] ++ memoryLines
        [⟨id, 0, true, 0x100, 7, .fiMemoryAddr, .writeAccessType⟩,
          ⟨id, 0, true, 0x100, 7, .fiMemoryContent, .writeAccessType⟩] := by
  refine ⟨_, eq_ok_of_toOption_isSome (by decide +kernel), ?_⟩
  exact (profiling_logs_by_address (eq_ok_of_toOption_isSome _)).2

/-- A store within a page goes through the address hook and the content hook,
and each logs it: the memory file gets two lines for one access.  A load from
address 8 goes to the register file. -/
theorem profiling_store_logged_twice :
    (helperLeSt 4 { Controller.loaded Machine.zero [] with
        profileRegisters := true, profileRamAddresses := true } 0x100 7).map
        (·.profilingMemory) = .ok [⟨0x100, .writeAccessType⟩, ⟨0x100, .writeAccessType⟩] ∧
      (helperLeLd 4 { Controller.loaded Machine.zero [] with
        profileRegisters := true, profileRamAddresses := true } 8).map
        (·.1.profilingRegisters) = .ok [⟨8, .readAccessType⟩] := by
  decide +kernel

/-! ## Indices -/

def faultSixAndIdZeroLibrary : XmlDocument :=
  .root (.element "injection"
    [.element "fault"
      [.element "id" [.text "6"], .element "component" [.text "RAM"],
        .element "target" [.text "MEMORY CELL"], .element "mode" [.text "NEW VALUE"],
        .element "trigger" [.text "ACCESS"], .element "type" [.text "PERMANENT"],
        .element "params"
          [.element "address" [.text "0x40200abe"], .element "mask" [.text "0x12341234"]]],
      .element "fault"
      [.element "id" [.text "0"], .element "component" [.text "RAM"],
        .element "target" [.text "MEMORY CELL"], .element "mode" [.text "NEW VALUE"],
        .element "trigger" [.text "ACCESS"], .element "type" [.text "PERMANENT"],
        .element "params"
          [.element "address" [.text "0x40200ab0"], .element "mask" [.text "0x1"]]]])

/-- After the reload the arrays have `getMaxIDInFaultList()` = 6 rows of
`MEMORY_WIDTH` = 16 entries.  A write to the cell of fault 6 logs every set bit
of the 32-bit mask and records bit 28 in row 5, outside its `MEMORY_WIDTH`
entries; a write to the cell of the fault with id 0 indexes the row
`0xFFFFFFFF` and crashes. -/
theorem perFaultIndices_out_of_range :
    memoryWidth = 16 ∧
      (qmpFaultReload nodeListText (Controller.initial Machine.zero 0 1) faultSixAndIdZeroLibrary >>= fun r =>
        runHookCalls r.1 [⟨id, 0, true, 0x40200abe, 0, .fiMemoryContent, .writeAccessType⟩]).map
        (fun c => (getMaxIDInFaultList c.faults, (c.opsOnMemoryCell 5 28).isSome)) =
        .ok (6, true) ∧
      (qmpFaultReload nodeListText (Controller.initial Machine.zero 0 1) faultSixAndIdZeroLibrary >>= fun r =>
        runHookCalls r.1
          [⟨id, 0, true, 0x40200abe, 0, .fiMemoryContent, .writeAccessType⟩,
            ⟨id, 0, true, 0x40200ab0, 0, .fiMemoryContent, .writeAccessType⟩]).map
        (fun _ => ()) = .error .outOfBounds := by
  decide +kernel

/-! ## Libraries the loader lets through -/

theorem faultInjectionControllerTime_of_null_trigger {c : Controller} {fault : Fault}
    (hfaults : c.faults = [fault]) (htrigger : fault.trigger = none) (addr : BitVec 64) :
    faultInjectionControllerTime c addr = .error (.nullString .strcmp) := by
  unfold faultInjectionControllerTime runFaultList
  rw [hfaults]
  simp [forEachFaultListElement, timeStep, htrigger, strcmp, deref]

/-- Two well-formed libraries crash an experiment.  An `<id/>` without text
hands NULL to `strtol` while loading, for a text function that gives NULL for
an empty list as libxml2 does.  A bare `<fault/>` is loaded, with a NULL
trigger, and a time call right after the reload, at any PC but
`address_in_use`, hands it to `strcmp`. -/
theorem faultLibrary_null_strings_crash {xmlNodeListGetString : List XmlNode → Option String}
    (hnull : xmlNodeListGetString [] = none) (c : Controller) :
    qmpFaultReload xmlNodeListGetString c
        (.root (.element "injection" [.element "fault" [.element "id" []]])) =
      .error (.nullString .strtol) ∧
    ∃ c₁ printed, qmpFaultReload xmlNodeListGetString c
        (.root (.element "injection" [.element "fault" []])) = .ok (c₁, printed) ∧
      ∀ (envGiven : Bool) (pc : BitVec 64) (value : BitVec 32) (accessType : AccessType),
        pc ≠ c.addressInUse →
          faultInjectionControllerInit c₁ envGiven pc value .fiTime accessType =
            .error (.nullString .strcmp) := by
  obtain ⟨c₁, printed, hload, hfaults, haddr⟩ := qmpFaultReload_bare_fault xmlNodeListGetString c
  refine ⟨qmpFaultReload_of_id_without_text xmlNodeListGetString hnull c, c₁, printed, hload, ?_⟩
  intro envGiven pc value accessType hpc
  rw [faultInjectionControllerInit_time (haddr ▸ hpc),
    faultInjectionControllerTime_of_null_trigger (by rw [profilerLog_faults, hfaults]) rfl]
  rfl

theorem faultLibrary_null_strings_crash_nodeListText :
    nodeListText [] = none ∧
      qmpFaultReload nodeListText (Controller.loaded Machine.zero [])
          (.root (.element "injection" [.element "fault" [.element "id" []]])) =
        .error (.nullString .strtol) ∧
      ∃ c₁ printed, qmpFaultReload nodeListText (Controller.loaded Machine.zero [])
          (.root (.element "injection" [.element "fault" []])) = .ok (c₁, printed) ∧
        ∀ (envGiven : Bool) (pc : BitVec 64) (value : BitVec 32) (accessType : AccessType),
          pc ≠ (Controller.loaded Machine.zero []).addressInUse →
            faultInjectionControllerInit c₁ envGiven pc value .fiTime accessType =
              .error (.nullString .strcmp) :=
  ⟨rfl, faultLibrary_null_strings_crash rfl _⟩

end Fies
