import Fies.MaskFaults

/-!
# Decoder faults along the fault list

`fault_injection_controller_memory_address`, `_register_address` and `_insn`
test every entry of the fault list against `*addr` as the entries before it
left it.  An entry that redirects the address, or replaces the instruction
word, hands its result to the entries after it, so a call follows a chain:
the word it returns is a fold over the list of one map per entry.  Each map
depends on the entry and the time alone.  The counters and `is_active` flags
the pass writes never feed back into the word, and neither does the fault
list, whose entries a pass only gives back.

The value handlers on the address buffer compute the mask word of
`MaskFaults` when the fault injects and keep the address otherwise.  The
instruction decoder tests activity with `set_fault_active`, which keeps an
entry's old `is_active` when its type is none of the three known ones.
-/

namespace Fies

open CRuntime BitMask Machine Except

/-! ## The loop as a fold -/

theorem forEachFaultListElement_fold {β : Type}
    {step : Controller → β → Fault → Except CError (Controller × β × Fault)}
    {P : Controller → Prop} {g : β → Fault → β} {faults : List Fault}
    (hstep : ∀ f ∈ faults, ∀ c b, P c → ∃ c' f', step c b f = .ok (c', g b f, f') ∧ P c') :
    ∀ {c : Controller} {b : β}, P c →
      ∃ c' faults', forEachFaultListElement step c b faults = .ok (c', faults.foldl g b, faults') ∧
        P c' := by
  induction faults with
  | nil =>
      intro c b hc
      exact ⟨c, [], rfl, hc⟩
  | cons f faults ih =>
      intro c b hc
      obtain ⟨c₁, f₁, hf, hc₁⟩ := hstep f List.mem_cons_self c b hc
      obtain ⟨c', faults', hrest, hc'⟩ :=
        ih (fun g hg => hstep g (List.mem_cons_of_mem f hg)) (b := g b f) hc₁
      refine ⟨c', f₁ :: faults', ?_, hc'⟩
      simp only [forEachFaultListElement, hf, ok_bind, hrest, List.foldl_cons]
      rfl

theorem runFaultList_fold {β : Type}
    {step : Controller → β → Fault → Except CError (Controller × β × Fault)}
    {P : Controller → Prop} {g : β → Fault → β} {c : Controller} (b : β)
    (hstep : ∀ f ∈ c.faults, ∀ c b, P c → ∃ c' f', step c b f = .ok (c', g b f, f') ∧ P c')
    (hc : P c) :
    ∃ c' faults', runFaultList step c b = .ok ({ c' with faults := faults' }, c.faults.foldl g b) ∧
      P c' := by
  obtain ⟨c', faults', hpass, hc'⟩ := forEachFaultListElement_fold hstep (b := b) hc
  refine ⟨c', faults', ?_, hc'⟩
  simp only [runFaultList, hpass, ok_bind]
  rfl

/-! ## Value handlers on the address buffer -/

theorem activateAndInject_of_not_injects {c : Controller} {buf : BitVec 64} {fault : Fault}
    {pc : BitVec 32} {inject : String → Controller × BitVec 64} {a : Activation}
    (ha : faultActivation fault pc (getTimer c) = .ok a) (hinj : a.injects = false) :
    activateAndInject c buf fault pc inject =
      .ok (c, buf, { fault with isActive := a.isActive fault.isActive }) := by
  simp only [activateAndInject, ha, ok_bind, hinj, Bool.false_eq_true, if_false]
  rfl

theorem MaskInjected.on_buffer {mode : String} {c c' : Controller} {addr buf' : BitVec 64}
    {fault : Fault} {fiInfo : FaultInjectionInfo} {kind : String}
    (hinjected : MaskInjected mode c addr fault fiInfo kind c' buf')
    (hbuf : fiInfo.faultOnAddress ≠ 0) :
    buf' = maskWord mode (fault.params.mask.setWidth 64) (fault.params.setBit.setWidth 64) addr ∧
      getTimer c' = getTimer c ∧ c'.env = c.env := by
  refine ⟨(hinjected.buffer (.inl hbuf)).2, ?_, (hinjected.buffer (.inl hbuf)).1⟩
  rw [hinjected.frame]
  rfl

/-- The word a value fault leaves in an address buffer at time `t`: its mask
word when it injects, the address itself otherwise. -/
def decoderWord (mode : String) (fault : Fault) (t : Int) (addr : BitVec 64) : BitVec 64 :=
  if activeNow fault 0 t then
    maskWord mode (fault.params.mask.setWidth 64) (fault.params.setBit.setWidth 64) addr
  else addr

theorem valueFaultHandler_on_buffer {mode : String}
    {h : Controller → BitVec 64 → Fault → FaultInjectionInfo → BitVec 32 →
      Except CError (Controller × BitVec 64 × Fault)}
    {c : Controller} {addr : BitVec 64} {fault : Fault} {fiInfo : FaultInjectionInfo}
    {a : Activation} (hmode : valueFaultHandler mode = some h)
    (ha : faultActivation fault 0 (getTimer c) = .ok a)
    (hmsb : mode ≠ "NEW VALUE" → fault.params.mask.msb = false)
    (hbuf : fiInfo.faultOnAddress ≠ 0) (hnv : fiInfo.newValue = 0) :
    ∃ c' fault', h c addr fault fiInfo 0 = .ok (c', decoderWord mode fault (getTimer c) addr, fault') ∧
      getTimer c' = getTimer c ∧ c'.env = c.env := by
  have hactive : activeNow fault 0 (getTimer c) = a.injects := by
    simp only [activeNow, ha]
  cases hinj : a.injects with
  | false =>
      have hword : decoderWord mode fault (getTimer c) addr = addr := by
        rw [decoderWord, hactive, hinj, if_neg Bool.false_ne_true]
      refine ⟨c, { fault with isActive := a.isActive fault.isActive }, ?_, rfl, rfl⟩
      rw [hword]
      rcases valueFaultHandler_eq_some hmode with ⟨-, rfl⟩ | ⟨-, rfl⟩ | ⟨-, rfl⟩
      · rw [faultInjectionControllerBf_eq]
        exact activateAndInject_of_not_injects ha hinj
      · exact activateAndInject_of_not_injects ha hinj
      · rw [faultInjectionControllerRs_eq]
        exact activateAndInject_of_not_injects ha hinj
  | true =>
      have hword : decoderWord mode fault (getTimer c) addr =
          maskWord mode (fault.params.mask.setWidth 64) (fault.params.setBit.setWidth 64) addr := by
        rw [decoderWord, hactive, hinj, if_pos rfl]
      rw [hword]
      rcases valueFaultHandler_eq_some hmode with ⟨rfl, rfl⟩ | ⟨rfl, rfl⟩ | ⟨rfl, rfl⟩
      · obtain ⟨c', buf', hrun, hinjected⟩ :=
          @faultInjectionControllerBf_injected c addr fault fiInfo 0 a ha hinj (hmsb (by decide))
        obtain ⟨rfl, hsteady⟩ := hinjected.on_buffer hbuf
        exact ⟨c', _, hrun, hsteady⟩
      · obtain ⟨c', buf', hrun, hinjected⟩ :=
          @faultInjectionControllerNewValue_injected c addr fault fiInfo 0 a ha hinj
        obtain ⟨rfl, hsteady⟩ := hinjected.on_buffer hbuf
        exact ⟨c', _, hrun, hsteady⟩
      · obtain ⟨c', buf', hrun, hinjected⟩ :=
          @faultInjectionControllerRs_injected c addr fault fiInfo 0 a ha hinj (hmsb (by decide)) hnv
        obtain ⟨rfl, hsteady⟩ := hinjected.on_buffer hbuf
        exact ⟨c', _, hrun, hsteady⟩

/-! ## Entries the decoders can run on -/

/-- The four strings a dispatcher compares are set. -/
structure Fault.Labelled (fault : Fault) : Prop where
  trigger : fault.trigger.isSome
  component : fault.component.isSome
  target : fault.target.isSome
  mode : fault.mode.isSome

/-- A value handler runs through on the entry at time `t`: its activation
evaluates, and a bit loop never reaches bit 31. -/
structure HandlerReady (t : Int) (fault : Fault) : Prop where
  activation : ∃ a, faultActivation fault 0 t = .ok a
  msb : fault.mode ≠ some "NEW VALUE" → fault.params.mask.msb = false

theorem HandlerReady.on_buffer {mode : String}
    {h : Controller → BitVec 64 → Fault → FaultInjectionInfo → BitVec 32 →
      Except CError (Controller × BitVec 64 × Fault)}
    {c : Controller} {addr : BitVec 64} {fault : Fault} {fiInfo : FaultInjectionInfo}
    (hready : HandlerReady (getTimer c) fault) (hm : fault.mode = some mode)
    (hmode : valueFaultHandler mode = some h) (hbuf : fiInfo.faultOnAddress ≠ 0)
    (hnv : fiInfo.newValue = 0) :
    ∃ c' fault', h c addr fault fiInfo 0 = .ok (c', decoderWord mode fault (getTimer c) addr, fault') ∧
      getTimer c' = getTimer c ∧ c'.env = c.env := by
  obtain ⟨a, ha⟩ := hready.activation
  refine valueFaultHandler_on_buffer hmode ha (fun hnew => hready.msb ?_) hbuf hnv
  rw [hm]
  exact fun heq => hnew (Option.some.inj heq)

/-! ## The RAM address decoder -/

/-- Where an entry of the address decoder of `component` sends the address
`a` at time `t`: an ACCESS-triggered ADDRESS DECODER fault of the component on
`a`, with a value mode, applies its word; every other entry keeps the
address. -/
def decoderStep (component : String) (t : Int) (a : BitVec 64) (fault : Fault) : BitVec 64 :=
  match fault.mode with
  | some mode =>
      if fault.params.address = a.setWidth 32 ∧ fault.trigger = some "ACCESS" ∧
          fault.component = some component ∧ fault.target = some "ADDRESS DECODER" ∧
          (valueFaultHandler mode).isSome then decoderWord mode fault t a
      else a
  | none => a

/-- The address a decoder pass ends on: the entries in list order, each on
the address the entries before it left. -/
def decoderRedirect (component : String) (t : Int) (faults : List Fault) (a : BitVec 64) :
    BitVec 64 :=
  faults.foldl (decoderStep component t) a

theorem memoryAddressStep_of_decoder {c : Controller} {addr : BitVec 64} {fault : Fault}
    {mode : String}
    {h : Controller → BitVec 64 → Fault → FaultInjectionInfo → BitVec 32 →
      Except CError (Controller × BitVec 64 × Fault)}
    (haddr : fault.params.address = addr.setWidth 32) (ht : fault.trigger = some "ACCESS")
    (hk : fault.component = some "RAM") (hg : fault.target = some "ADDRESS DECODER")
    (hm : fault.mode = some mode) (hh : valueFaultHandler mode = some h) :
    memoryAddressStep c addr fault =
      h c addr fault
        { FaultInjectionInfo.zero with accessTriggeredContentFault := 1, faultOnAddress := 1 } 0 := by
  simp [memoryAddressStep, haddr, ht, hk, hg, hm, hh, deref]

theorem memoryAddressStep_spec {c : Controller} {addr : BitVec 64} {fault : Fault}
    (hlabelled : fault.Labelled)
    (hready : fault.component = some "RAM" → fault.target = some "ADDRESS DECODER" →
      HandlerReady (getTimer c) fault) :
    ∃ c' fault', memoryAddressStep c addr fault =
        .ok (c', decoderStep "RAM" (getTimer c) addr fault, fault') ∧
      getTimer c' = getTimer c ∧ c'.env = c.env := by
  obtain ⟨trigger, ht⟩ := Option.isSome_iff_exists.mp hlabelled.trigger
  obtain ⟨component, hk⟩ := Option.isSome_iff_exists.mp hlabelled.component
  obtain ⟨target, hg⟩ := Option.isSome_iff_exists.mp hlabelled.target
  obtain ⟨mode, hm⟩ := Option.isSome_iff_exists.mp hlabelled.mode
  by_cases hentry : fault.params.address = addr.setWidth 32 ∧ trigger = "ACCESS" ∧
      component = "RAM" ∧ target = "ADDRESS DECODER" ∧ (valueFaultHandler mode).isSome
  · obtain ⟨haddr, rfl, rfl, rfl, hsome⟩ := hentry
    obtain ⟨h, hh⟩ := Option.isSome_iff_exists.mp hsome
    have hword : decoderStep "RAM" (getTimer c) addr fault = decoderWord mode fault (getTimer c) addr := by
      simp [decoderStep, haddr, ht, hk, hg, hm, hh]
    rw [hword, memoryAddressStep_of_decoder haddr ht hk hg hm hh]
    exact (hready hk hg).on_buffer hm hh (by decide) rfl
  · have hkeep : decoderStep "RAM" (getTimer c) addr fault = addr := by
      simp only [decoderStep, hm, ht, hk, hg, Option.some.injEq]
      exact if_neg hentry
    refine ⟨c, fault, ?_, rfl, rfl⟩
    rw [hkeep]
    by_cases haddr : fault.params.address = addr.setWidth 32
    · by_cases htrigger : trigger = "ACCESS"
      · subst htrigger
        by_cases hcomponent : component = "RAM"
        · subst hcomponent
          by_cases htarget : target = "ADDRESS DECODER"
          · subst htarget
            have hnone : valueFaultHandler mode = none := by
              simpa [haddr] using hentry
            simp [memoryAddressStep, haddr, ht, hk, hg, hm, hnone, deref]
          · simp [memoryAddressStep, haddr, ht, hk, hg, htarget]
        · simp [memoryAddressStep, haddr, ht, hk, hcomponent]
      · simp [memoryAddressStep, haddr, ht, htrigger]
    · simp [memoryAddressStep, haddr]

/-- `fault_injection_controller_memory_address` follows the chain of RAM
address-decoder faults: each entry meets the address the entries before it
left, and the call hands back where the chain ends. -/
theorem memoryAddress_follows_decoder_chain {c : Controller} {addr : BitVec 64}
    (hlabelled : ∀ f ∈ c.faults, f.Labelled)
    (hready : ∀ f ∈ c.faults, f.component = some "RAM" → f.target = some "ADDRESS DECODER" →
      HandlerReady (getTimer c) f) :
    ∃ c', faultInjectionControllerMemoryAddress c addr =
        .ok (c', decoderRedirect "RAM" (getTimer c) c.faults addr) ∧ getTimer c' = getTimer c := by
  have hstep : ∀ f ∈ c.faults, ∀ c₁ b, getTimer c₁ = getTimer c →
      ∃ c₂ f', memoryAddressStep c₁ b f = .ok (c₂, decoderStep "RAM" (getTimer c) b f, f') ∧
        getTimer c₂ = getTimer c := by
    intro f hf c₁ b htimer
    rw [← htimer]
    obtain ⟨c₂, f', hrun, htimer', -⟩ :=
      memoryAddressStep_spec (hlabelled f hf) fun hk hg => htimer ▸ hready f hf hk hg
    exact ⟨c₂, f', hrun, htimer'⟩
  obtain ⟨c', faults', hrun, htimer⟩ := runFaultList_fold (P := fun c₁ => getTimer c₁ = getTimer c)
    addr hstep rfl
  exact ⟨{ c' with faults := faults' }, hrun, htimer⟩

def chainedRamDecoders : Controller :=
  Controller.loaded Machine.zero
    [Fault.permanent "ACCESS" "RAM" "ADDRESS DECODER" "NEW VALUE" ⟨0x100, 0, 0x200, -1, -1⟩,
      Fault.permanent "ACCESS" "RAM" "ADDRESS DECODER" "NEW VALUE" ⟨0x200, 0, 0x300, -1, -1⟩]

theorem chainedRamDecoders_ready :
    ∀ f ∈ chainedRamDecoders.faults, f.Labelled ∧ HandlerReady 0 f := by
  intro f hf
  simp only [chainedRamDecoders, Controller.loaded, List.mem_cons, List.not_mem_nil,
    or_false] at hf
  rcases hf with rfl | rfl
  · exact ⟨⟨rfl, rfl, rfl, rfl⟩, ⟨⟨.permanent, rfl⟩, fun h => absurd rfl h⟩⟩
  · exact ⟨⟨rfl, rfl, rfl, rfl⟩, ⟨⟨.permanent, rfl⟩, fun h => absurd rfl h⟩⟩

theorem memoryAddress_follows_decoder_chain_twice :
    ∃ c', faultInjectionControllerMemoryAddress chainedRamDecoders 0x100 = .ok (c', 0x300) := by
  have hmem := chainedRamDecoders_ready
  have hend : decoderRedirect "RAM" (getTimer chainedRamDecoders) chainedRamDecoders.faults 0x100 =
      0x300 := by
    decide
  obtain ⟨c', hrun, -⟩ := @memoryAddress_follows_decoder_chain chainedRamDecoders 0x100
    (fun f hf => (hmem f hf).1) (fun f hf _ _ => (hmem f hf).2)
  rw [hend] at hrun
  exact ⟨c', hrun⟩

/-! ## The register address decoder -/

theorem registerAddressStep_of_decoder {c : Controller} {addr : BitVec 64} {fault : Fault}
    {mode : String}
    {h : Controller → BitVec 64 → Fault → FaultInjectionInfo → BitVec 32 →
      Except CError (Controller × BitVec 64 × Fault)}
    (haddr : fault.params.address = addr.setWidth 32) (ht : fault.trigger = some "ACCESS")
    (hk : fault.component = some "REGISTER") (hg : fault.target = some "ADDRESS DECODER")
    (hm : fault.mode = some mode) (hh : valueFaultHandler mode = some h) :
    registerAddressStep c addr fault =
      h c addr fault { FaultInjectionInfo.zero with faultOnAddress := 1, faultOnRegister := 1 } 0 := by
  simp [registerAddressStep, haddr, ht, hk, hg, hm, hh]

theorem registerAddressStep_spec {c : Controller} {addr : BitVec 64} {fault : Fault}
    (htrigger : fault.trigger.isSome)
    (hready : fault.component = some "REGISTER" → fault.target = some "ADDRESS DECODER" →
      HandlerReady (getTimer c) fault) :
    ∃ c' fault', registerAddressStep c addr fault =
        .ok (c', decoderStep "REGISTER" (getTimer c) addr fault, fault') ∧
      getTimer c' = getTimer c ∧ c'.env = c.env := by
  obtain ⟨trigger, ht⟩ := Option.isSome_iff_exists.mp htrigger
  by_cases hentry : fault.params.address = addr.setWidth 32 ∧ trigger = "ACCESS" ∧
      fault.component = some "REGISTER" ∧ fault.target = some "ADDRESS DECODER" ∧
      ∃ mode h, fault.mode = some mode ∧ valueFaultHandler mode = some h
  · obtain ⟨haddr, rfl, hk, hg, mode, h, hm, hh⟩ := hentry
    have hword : decoderStep "REGISTER" (getTimer c) addr fault =
        decoderWord mode fault (getTimer c) addr := by
      simp [decoderStep, haddr, ht, hk, hg, hm, hh]
    rw [hword, registerAddressStep_of_decoder haddr ht hk hg hm hh]
    exact (hready hk hg).on_buffer hm hh (by decide) rfl
  · refine ⟨c, fault, ?_, rfl, rfl⟩
    have hkeep : decoderStep "REGISTER" (getTimer c) addr fault = addr := by
      unfold decoderStep
      split
      · next mode hm =>
          refine if_neg fun hcond => hentry ?_
          obtain ⟨haddr, htrig, hk, hg, hsome⟩ := hcond
          obtain ⟨h, hh⟩ := Option.isSome_iff_exists.mp hsome
          exact ⟨haddr, Option.some.inj (ht.symm.trans htrig), hk, hg, mode, h, hm, hh⟩
      · rfl
    rw [hkeep]
    unfold registerAddressStep
    by_cases haddr : fault.params.address = addr.setWidth 32
    · by_cases htrig : trigger = "ACCESS"
      · subst htrig
        simp only [haddr, ht, strcmp_some, ne_eq, not_true_eq_false, if_false, if_true, ok_bind]
        split
        · next component target mode hk hg hm =>
            split_ifs with hdec
            · obtain ⟨rfl, rfl⟩ := hdec
              cases hh : valueFaultHandler mode with
              | none => rfl
              | some h => exact absurd ⟨haddr, rfl, hk, hg, mode, h, hm, hh⟩ hentry
            · rfl
        · rfl
      · simp [haddr, ht, htrig]
    · simp [haddr]

theorem registerAddress_follows_decoder_chain {c : Controller} {regno : BitVec 64}
    (htrigger : ∀ f ∈ c.faults, f.trigger.isSome)
    (hready : ∀ f ∈ c.faults, f.component = some "REGISTER" → f.target = some "ADDRESS DECODER" →
      HandlerReady (getTimer c) f) :
    ∃ c', faultInjectionControllerRegisterAddress c regno =
        .ok (c', decoderRedirect "REGISTER" (getTimer c) c.faults regno) ∧
      getTimer c' = getTimer c := by
  have hstep : ∀ f ∈ c.faults, ∀ c₁ b, getTimer c₁ = getTimer c →
      ∃ c₂ f', registerAddressStep c₁ b f = .ok (c₂, decoderStep "REGISTER" (getTimer c) b f, f') ∧
        getTimer c₂ = getTimer c := by
    intro f hf c₁ b htimer
    rw [← htimer]
    obtain ⟨c₂, f', hrun, htimer', -⟩ :=
      registerAddressStep_spec (htrigger f hf) fun hk hg => htimer ▸ hready f hf hk hg
    exact ⟨c₂, f', hrun, htimer'⟩
  obtain ⟨c', faults', hrun, htimer⟩ := runFaultList_fold (P := fun c₁ => getTimer c₁ = getTimer c)
    regno hstep rfl
  exact ⟨{ c' with faults := faults' }, hrun, htimer⟩

def chainedRegisterDecoders : Controller :=
  Controller.loaded Machine.zero
    [Fault.permanent "ACCESS" "REGISTER" "ADDRESS DECODER" "BIT-FLIP" ⟨1, 0, 2, -1, -1⟩,
      Fault.permanent "ACCESS" "REGISTER" "ADDRESS DECODER" "NEW VALUE" ⟨3, 0, 0, -1, -1⟩]

/-! ## The instruction decoder -/

theorem setFaultActive_of_activation {c : Controller} {fault : Fault} {faultComponent : String}
    {pc : BitVec 32} {a : Activation} (htrig : fault.trigger ≠ some "PC")
    (ha : faultActivation fault pc (getTimer c) = .ok a) :
    ∃ c', faultInjectionControllerSetFaultActive c fault faultComponent pc =
        .ok (c', { fault with isActive := a.isActive fault.isActive }) ∧
      getTimer c' = getTimer c := by
  have hpc : ¬(fault.trigger = some "PC" ∧ pc = fault.params.address) := fun h => htrig h.1
  unfold faultActivation at ha
  unfold faultInjectionControllerSetFaultActive
  rw [if_neg htrig] at ha
  rw [if_neg hpc]
  split_ifs at ha ⊢ with htransient hintermittend hpermanent
  · obtain ⟨⟨startTime, stopTime, interval⟩, hnorm, hwindow⟩ := bind_eq_ok_iff.mp ha
    obtain rfl := Except.ok.inj hwindow
    simp only [hnorm, ok_bind]
    split_ifs <;> exact ⟨_, rfl, rfl⟩
  · obtain ⟨⟨startTime, stopTime, interval⟩, hnorm, hwindow⟩ := bind_eq_ok_iff.mp ha
    simp only [hnorm, ok_bind]
    dsimp only at hwindow
    split_ifs at hwindow ⊢ <;>
      (obtain rfl := Except.ok.inj hwindow
       exact ⟨_, rfl, rfl⟩)
  · obtain rfl := Except.ok.inj ha
    exact ⟨_, rfl, rfl⟩
  · obtain rfl := Except.ok.inj ha
    exact ⟨c, rfl, rfl⟩

theorem whenCpuFaultActive_word {β : Type} {c : Controller} {b : β} {fault : Fault}
    {pc : BitVec 32} {word : Fault → β} {a : Activation} (htrig : fault.trigger ≠ some "PC")
    (ha : faultActivation fault pc (getTimer c) = .ok a) :
    ∃ c', whenCpuFaultActive c b fault pc (fun c f => (c, word f)) =
        .ok (c', if a.isActive fault.isActive then word { fault with isActive := true } else b,
          { fault with isActive := a.isActive fault.isActive }) ∧
      getTimer c' = getTimer c := by
  obtain ⟨c₁, hset, htimer⟩ := @setFaultActive_of_activation c fault "cpu" pc a htrig ha
  refine ⟨c₁, ?_, htimer⟩
  simp only [whenCpuFaultActive, hset, ok_bind]
  cases a.isActive fault.isActive <;> rfl

/-- The `is_active` that `set_fault_active` leaves on an ACCESS-triggered CPU
entry at time `t`: the activation's, or the entry's own when no type branch
applies. -/
def cpuActiveAfter (fault : Fault) (t : Int) : Bool :=
  match faultActivation fault 0 t with
  | .ok a => a.isActive fault.isActive
  | .error _ => false

/-- What the entry `fault` of `fault_injection_controller_insn` makes of the
instruction word `w` at time `t`: an active INSTRUCTION DECODER fault on `w`
substitutes its instruction, an active INSTRUCTION EXECUTION fault marked
0xDEADBEEF substitutes the no-operation 0xE1A08008. -/
def insnDecoderStep (t : Int) (w : BitVec 64) (fault : Fault) : BitVec 64 :=
  if fault.params.address = w.setWidth 32 ∧ fault.trigger = some "ACCESS" ∧
      fault.component = some "CPU" ∧ fault.mode = some "NEW VALUE" ∧ fault.params.address ≠ -1 ∧
      cpuActiveAfter fault t then
    if fault.target = some "INSTRUCTION DECODER" ∧ fault.params.instruction ≠ -1 then
      fault.params.instruction.setWidth 64
    else if fault.target = some "INSTRUCTION EXECUTION" ∧ fault.params.instruction = 0xDEADBEEF then
      (0xE1A08008 : BitVec 32).setWidth 64
    else w
  else w

def insnDecoderChain (t : Int) (faults : List Fault) (w : BitVec 64) : BitVec 64 :=
  faults.foldl (insnDecoderStep t) w

section InsnEntry

variable {c : Controller} {w : BitVec 64} {fault : Fault}
  (haddr : fault.params.address = w.setWidth 32) (ht : fault.trigger = some "ACCESS")
  (hk : fault.component = some "CPU") (hm : fault.mode = some "NEW VALUE")
  (hnot : fault.params.address ≠ -1)
include haddr ht hk hm hnot

theorem insnStep_of_decoder (hg : fault.target = some "INSTRUCTION DECODER")
    (hi : fault.params.instruction ≠ -1) :
    insnStep c w fault = whenCpuFaultActive c w fault 0 fun c fault =>
      (c, (doInjectInsn (w.setWidth 32) fault.params.instruction).setWidth 64) := by
  unfold insnStep
  rw [if_neg (not_not_intro haddr)]
  simp only [ht, hk, hg, hm, strcmp_some, if_true, ok_bind, ne_eq, not_true_eq_false, if_false,
    and_self]
  rw [if_neg (not_or.mpr ⟨hnot, hi⟩)]

theorem insnStep_of_execution (hg : fault.target = some "INSTRUCTION EXECUTION")
    (hi : fault.params.instruction = 0xDEADBEEF) :
    insnStep c w fault = whenCpuFaultActive c w fault 0 fun c _ =>
      (c, (doInjectInsn (w.setWidth 32) 0xE1A08008).setWidth 64) := by
  unfold insnStep
  rw [if_neg (not_not_intro haddr)]
  simp only [ht, hk, hg, hm, strcmp_some, if_true, ok_bind, ne_eq, not_true_eq_false, if_false,
    and_self]
  rw [if_neg (by decide), if_neg (not_or.mpr ⟨hnot, not_not_intro hi⟩)]

theorem insnDecoderStep_of_entry (t : Int) :
    insnDecoderStep t w fault =
      if cpuActiveAfter fault t then
        if fault.target = some "INSTRUCTION DECODER" ∧ fault.params.instruction ≠ -1 then
          fault.params.instruction.setWidth 64
        else if fault.target = some "INSTRUCTION EXECUTION" ∧
            fault.params.instruction = 0xDEADBEEF then
          (0xE1A08008 : BitVec 32).setWidth 64
        else w
      else w := by
  unfold insnDecoderStep
  exact if_congr ⟨fun h => h.2.2.2.2.2, fun h => ⟨haddr, ht, hk, hm, hnot, h⟩⟩ rfl rfl

end InsnEntry

/-- An entry of the instruction decoder fires: it names the word, is an
ACCESS-triggered CPU NEW VALUE fault with a defined address, and one of the
two targets applies. -/
def InsnEntryFires (w : BitVec 64) (fault : Fault) : Prop :=
  fault.params.address = w.setWidth 32 ∧ fault.trigger = some "ACCESS" ∧
    fault.component = some "CPU" ∧ fault.mode = some "NEW VALUE" ∧ fault.params.address ≠ -1 ∧
    (fault.target = some "INSTRUCTION DECODER" ∧ fault.params.instruction ≠ -1 ∨
      fault.target = some "INSTRUCTION EXECUTION" ∧ fault.params.instruction = 0xDEADBEEF)

theorem insnStep_of_pass {c : Controller} {w : BitVec 64} {fault : Fault} {trigger : String}
    (ht : fault.trigger = some trigger) (hpass : ¬InsnEntryFires w fault) :
    insnStep c w fault = .ok (c, w, fault) := by
  unfold insnStep
  by_cases haddr : fault.params.address = w.setWidth 32
  · rw [if_neg (not_not_intro haddr)]
    simp only [ht, strcmp_some, ok_bind]
    by_cases htrig : trigger = "ACCESS"
    · subst htrig
      simp only [if_true, ne_eq, not_true_eq_false, if_false]
      split
      · next component target mode hk hg hm =>
          split_ifs
          · rfl
          · rename_i hdec hmode hbad
            obtain ⟨rfl, rfl⟩ := hdec
            subst hmode
            exact absurd ⟨haddr, ht, hk, hm, fun h => hbad (.inl h),
              .inl ⟨hg, fun h => hbad (.inr h)⟩⟩ hpass
          · rfl
          · rfl
          · rename_i hexec hmode hbad
            obtain ⟨rfl, rfl⟩ := hexec
            subst hmode
            exact absurd ⟨haddr, ht, hk, hm, fun h => hbad (.inl h),
              .inr ⟨hg, Classical.not_not.mp fun h => hbad (.inr h)⟩⟩ hpass
          · rfl
          · rfl
      · rfl
    · simp [htrig]
  · rw [if_pos haddr]
    rfl

theorem insnDecoderStep_of_pass {t : Int} {w : BitVec 64} {fault : Fault}
    (hpass : ¬InsnEntryFires w fault) : insnDecoderStep t w fault = w := by
  unfold insnDecoderStep
  split_ifs with hentry hdec hexec
  · exact absurd ⟨hentry.1, hentry.2.1, hentry.2.2.1, hentry.2.2.2.1, hentry.2.2.2.2.1, .inl hdec⟩
      hpass
  · exact absurd ⟨hentry.1, hentry.2.1, hentry.2.2.1, hentry.2.2.2.1, hentry.2.2.2.2.1, .inr hexec⟩
      hpass
  · rfl
  · rfl

theorem insnStep_spec {c : Controller} {w : BitVec 64} {fault : Fault}
    (htrigger : fault.trigger.isSome)
    (hready : fault.component = some "CPU" → fault.mode = some "NEW VALUE" →
      ∃ a, faultActivation fault 0 (getTimer c) = .ok a) :
    ∃ c' fault', insnStep c w fault = .ok (c', insnDecoderStep (getTimer c) w fault, fault') ∧
      getTimer c' = getTimer c := by
  obtain ⟨trigger, ht⟩ := Option.isSome_iff_exists.mp htrigger
  by_cases hfires : InsnEntryFires w fault
  · obtain ⟨haddr, hacc, hk, hm, hnot, htarget⟩ := hfires
    obtain ⟨a, ha⟩ := hready hk hm
    have htrig : fault.trigger ≠ some "PC" := by
      rw [hacc]
      decide
    have hafter : cpuActiveAfter fault (getTimer c) = a.isActive fault.isActive := by
      simp only [cpuActiveAfter, ha]
    rcases htarget with ⟨hg, hi⟩ | ⟨hg, hi⟩
    · have hdec : fault.target = some "INSTRUCTION DECODER" ∧ fault.params.instruction ≠ -1 :=
        ⟨hg, hi⟩
      have hword : insnDecoderStep (getTimer c) w fault =
          if a.isActive fault.isActive then fault.params.instruction.setWidth 64 else w := by
        rw [insnDecoderStep_of_entry haddr hacc hk hm hnot, hafter, if_pos hdec]
      obtain ⟨c', hrun, htimer⟩ := @whenCpuFaultActive_word (BitVec 64) c w fault 0
        (fun f => (doInjectInsn (w.setWidth 32) f.params.instruction).setWidth 64) a htrig ha
      rw [hword, insnStep_of_decoder haddr hacc hk hm hnot hg hi]
      exact ⟨c', _, hrun, htimer⟩
    · have hnotdec : ¬(fault.target = some "INSTRUCTION DECODER" ∧ fault.params.instruction ≠ -1) :=
        fun h => absurd (hg.symm.trans h.1) (by decide)
      have hword : insnDecoderStep (getTimer c) w fault =
          if a.isActive fault.isActive then (0xE1A08008 : BitVec 32).setWidth 64 else w := by
        have hexec : fault.target = some "INSTRUCTION EXECUTION" ∧
            fault.params.instruction = 0xDEADBEEF := ⟨hg, hi⟩
        rw [insnDecoderStep_of_entry haddr hacc hk hm hnot, hafter, if_neg hnotdec, if_pos hexec]
      obtain ⟨c', hrun, htimer⟩ := @whenCpuFaultActive_word (BitVec 64) c w fault 0
        (fun _ => (doInjectInsn (w.setWidth 32) 0xE1A08008).setWidth 64) a htrig ha
      rw [hword, insnStep_of_execution haddr hacc hk hm hnot hg hi]
      exact ⟨c', _, hrun, htimer⟩
  · refine ⟨c, fault, ?_, rfl⟩
    rw [insnDecoderStep_of_pass hfires, insnStep_of_pass ht hfires]

theorem faultInjectionControllerInsn_chain {c : Controller} {w : BitVec 64}
    (htrigger : ∀ f ∈ c.faults, f.trigger.isSome)
    (hready : ∀ f ∈ c.faults, f.component = some "CPU" → f.mode = some "NEW VALUE" →
      ∃ a, faultActivation f 0 (getTimer c) = .ok a) :
    ∃ c', faultInjectionControllerInsn c w = .ok (c', insnDecoderChain (getTimer c) c.faults w) ∧
      getTimer c' = getTimer c := by
  have hstep : ∀ f ∈ c.faults, ∀ c₁ b, getTimer c₁ = getTimer c →
      ∃ c₂ f', insnStep c₁ b f = .ok (c₂, insnDecoderStep (getTimer c) b f, f') ∧
        getTimer c₂ = getTimer c := by
    intro f hf c₁ b htimer
    rw [← htimer]
    exact insnStep_spec (htrigger f hf) fun hk hm => htimer ▸ hready f hf hk hm
  obtain ⟨c', faults', hrun, htimer⟩ := runFaultList_fold (P := fun c₁ => getTimer c₁ = getTimer c)
    w hstep rfl
  exact ⟨{ c' with faults := faults' }, hrun, htimer⟩

/-! ## The hooks -/

theorem faultInjectionControllerInit_insn {c : Controller} {envGiven : Bool} {addr : BitVec 64}
    (value : BitVec 32) (accessType : AccessType) (hfree : addr ≠ c.addressInUse) :
    faultInjectionControllerInit c envGiven addr value .fiInsn accessType =
      (fun r => (r.1, r.2, value)) <$> faultInjectionControllerInsn (profilerLog c addr accessType) addr := by
  simp only [faultInjectionControllerInit, profilerLog_addressInUse, hfree, if_false, bind_pure_comp]

theorem faultInjectionControllerInit_registerAddr {c : Controller} {envGiven : Bool}
    {addr : BitVec 64} (value : BitVec 32) (accessType : AccessType)
    (hfree : addr ≠ c.addressInUse) :
    faultInjectionControllerInit c envGiven addr value .fiRegisterAddr accessType =
      (fun r => (r.1, r.2, value)) <$>
        faultInjectionControllerRegisterAddress (profilerLog c addr accessType) addr := by
  simp only [faultInjectionControllerInit, profilerLog_addressInUse, hfree, if_false, bind_pure_comp]

theorem hookWord_of_addressInUse {c : Controller} {w : BitVec 32} {mode : InjectionMode}
    (hbusy : w.setWidth 64 = c.addressInUse) :
    ∃ c', (do
        let (c, w64, _) ← faultInjectionControllerInit c true (w.setWidth 64) 0 mode .unspecified
        pure (c, w64.setWidth 32) : Except CError (Controller × BitVec 32)) = .ok (c', w) ∧
      getTimer c' = getTimer c := by
  refine ⟨profilerLog c (w.setWidth 64) .unspecified, ?_, getTimer_profilerLog _ _ _⟩
  rw [faultInjectionControllerInit_of_addressInUse hbusy]
  simp [BitVec.setWidth_setWidth_of_le]

/-- What the translator decodes: the instruction hook of `disas_arm_insn`
hands it the word the chain of INSTRUCTION DECODER and INSTRUCTION EXECUTION
faults ends on, and the fetched word itself when it is the value of
`address_in_use`. -/
theorem translator_decodes_insn_chain {c : Controller} {insn : BitVec 32}
    (htrigger : ∀ f ∈ c.faults, f.trigger.isSome)
    (hready : ∀ f ∈ c.faults, f.component = some "CPU" → f.mode = some "NEW VALUE" →
      ∃ a, faultActivation f 0 (getTimer c) = .ok a) :
    (insn.setWidth 64 = c.addressInUse →
      ∃ c', translateInsnHook c insn = .ok (c', insn) ∧ getTimer c' = getTimer c) ∧
    (insn.setWidth 64 ≠ c.addressInUse →
      ∃ c', translateInsnHook c insn =
          .ok (c', (insnDecoderChain (getTimer c) c.faults (insn.setWidth 64)).setWidth 32) ∧
        getTimer c' = getTimer c) := by
  refine ⟨fun hbusy => hookWord_of_addressInUse hbusy, fun hfree => ?_⟩
  have hfaults := profilerLog_faults c (insn.setWidth 64) .unspecified
  have hclock := getTimer_profilerLog c (insn.setWidth 64) .unspecified
  obtain ⟨c', hrun, htimer⟩ := @faultInjectionControllerInsn_chain
    (profilerLog c (insn.setWidth 64) .unspecified) (insn.setWidth 64)
    (hfaults ▸ htrigger) (by rw [hfaults, hclock]; exact hready)
  refine ⟨c', ?_, htimer.trans hclock⟩
  rw [translateInsnHook, faultInjectionControllerInit_insn 0 .unspecified hfree, hrun, ← hfaults,
    ← hclock]
  rfl

/-- What the register decoder hook gives `load_reg` and `store_reg`: the
number the chain of register ADDRESS DECODER faults ends on, and the number
itself when it is the value of `address_in_use`. -/
theorem regDecoderHook_follows_decoder_chain {c : Controller} {regno : BitVec 32}
    (htrigger : ∀ f ∈ c.faults, f.trigger.isSome)
    (hready : ∀ f ∈ c.faults, f.component = some "REGISTER" → f.target = some "ADDRESS DECODER" →
      HandlerReady (getTimer c) f) :
    (regno.setWidth 64 = c.addressInUse →
      ∃ c', faultControllerCallRegDecoder c regno = .ok (c', regno) ∧ getTimer c' = getTimer c) ∧
    (regno.setWidth 64 ≠ c.addressInUse →
      ∃ c', faultControllerCallRegDecoder c regno =
          .ok (c', (decoderRedirect "REGISTER" (getTimer c) c.faults (regno.setWidth 64)).setWidth 32) ∧
        getTimer c' = getTimer c) := by
  refine ⟨fun hbusy => hookWord_of_addressInUse hbusy, fun hfree => ?_⟩
  have hfaults := profilerLog_faults c (regno.setWidth 64) .unspecified
  have hclock := getTimer_profilerLog c (regno.setWidth 64) .unspecified
  obtain ⟨c', hrun, htimer⟩ := @registerAddress_follows_decoder_chain
    (profilerLog c (regno.setWidth 64) .unspecified) (regno.setWidth 64)
    (hfaults ▸ htrigger) (by rw [hfaults, hclock]; exact hready)
  refine ⟨c', ?_, htimer.trans hclock⟩
  rw [faultControllerCallRegDecoder, faultInjectionControllerInit_registerAddr 0 .unspecified hfree,
    hrun, ← hfaults, ← hclock]
  rfl

theorem regDecoderHook_follows_decoder_chain_twice :
    ∃ c', faultControllerCallRegDecoder chainedRegisterDecoders 1 = .ok (c', 0) := by
  have hready : ∀ f ∈ chainedRegisterDecoders.faults, HandlerReady 0 f := by
    intro f hf
    simp only [chainedRegisterDecoders, Controller.loaded, List.mem_cons, List.not_mem_nil,
      or_false] at hf
    rcases hf with rfl | rfl
    · exact ⟨⟨.permanent, rfl⟩, fun _ => rfl⟩
    · exact ⟨⟨.permanent, rfl⟩, fun h => absurd rfl h⟩
  have hend : (decoderRedirect "REGISTER" (getTimer chainedRegisterDecoders)
      chainedRegisterDecoders.faults ((1 : BitVec 32).setWidth 64)).setWidth 32 = 0 := by
    decide
  obtain ⟨c', hrun, -⟩ := (@regDecoderHook_follows_decoder_chain chainedRegisterDecoders 1
    (fun f hf => by
      simp only [chainedRegisterDecoders, Controller.loaded, List.mem_cons, List.not_mem_nil,
        or_false] at hf
      rcases hf with rfl | rfl <;> rfl)
    (fun f hf _ _ => hready f hf)).2 (by decide)
  rw [hend] at hrun
  exact ⟨c', hrun⟩

def chainedInsnFaults : Controller :=
  Controller.loaded Machine.zero
    [Fault.permanent "ACCESS" "CPU" "INSTRUCTION DECODER" "NEW VALUE" ⟨0xE3A00001, 0, 0, 0xE3A00002, -1⟩,
      Fault.permanent "ACCESS" "CPU" "INSTRUCTION EXECUTION" "NEW VALUE"
        ⟨0xE3A00002, 0, 0, 0xDEADBEEF, -1⟩]

theorem translator_decodes_insn_chain_to_nop :
    ∃ c', translateInsnHook chainedInsnFaults 0xE3A00001 = .ok (c', 0xE1A08008) := by
  have hmem : ∀ f ∈ chainedInsnFaults.faults, f.trigger.isSome ∧
      ∃ a, faultActivation f 0 (getTimer chainedInsnFaults) = .ok a := by
    intro f hf
    simp only [chainedInsnFaults, Controller.loaded, List.mem_cons, List.not_mem_nil,
      or_false] at hf
    rcases hf with rfl | rfl <;> exact ⟨rfl, .permanent, rfl⟩
  have hend : (insnDecoderChain (getTimer chainedInsnFaults) chainedInsnFaults.faults
      ((0xE3A00001 : BitVec 32).setWidth 64)).setWidth 32 = 0xE1A08008 := by
    decide
  obtain ⟨c', hrun, -⟩ := (@translator_decodes_insn_chain chainedInsnFaults 0xE3A00001
    (fun f hf => (hmem f hf).1) (fun f hf _ _ => (hmem f hf).2)).2 (by decide)
  rw [hend] at hrun
  exact ⟨c', hrun⟩

end Fies
