import Fies.Decoders
import Fies.PageCrossing

/-!
# Stores through the RAM address decoder

`helper_le_st_name` asks the address hook where to store, copies the decoded
address back, and stores there: a store that stays in its page lands at the
address the chain of RAM ADDRESS DECODER faults gives.  The address hook only
moves the buffer it is handed.  It leaves the machine and the clock alone and
gives every entry back with its record, so the content hook at the decoded
address meets the entries it would have met before.  The load helper has no
address hook (`helperLeLd_reads_bytes`): loads are not decoded.
-/

namespace Fies

open CRuntime Machine Except

theorem NoCellFaultAt.of_records {faults faults' : List Fault} {a : BitVec 32}
    (h : NoCellFaultAt faults a) (hrecords : faults'.map Fault.record = faults.map Fault.record) :
    NoCellFaultAt faults' a := by
  intro f' hf' hname
  obtain ⟨f, hf, hrec⟩ : ∃ f ∈ faults, f.record = f'.record := by
    have hmem : f'.record ∈ faults.map Fault.record := hrecords ▸ List.mem_map_of_mem hf'
    simpa using hmem
  have hparams : f.params = f'.params := (congrArg Fault.params hrec :)
  have htrigger : f.trigger = f'.trigger := (congrArg Fault.trigger hrec :)
  have hcomponent : f.component = f'.component := (congrArg Fault.component hrec :)
  have htarget : f.target = f'.target := (congrArg Fault.target hrec :)
  rw [← hparams] at hname
  rw [← htrigger, ← hcomponent, ← htarget]
  exact h f hf hname

theorem memoryAddress_chain_keeps_env {c : Controller} {addr : BitVec 64}
    (hlabelled : ∀ f ∈ c.faults, f.Labelled)
    (hready : ∀ f ∈ c.faults, f.component = some "RAM" → f.target = some "ADDRESS DECODER" →
      HandlerReady (getTimer c) f) :
    ∃ c', faultInjectionControllerMemoryAddress c addr =
        .ok (c', decoderRedirect "RAM" (getTimer c) c.faults addr) ∧
      getTimer c' = getTimer c ∧ c'.env = c.env := by
  have hstep : ∀ f ∈ c.faults, ∀ c₁ b, getTimer c₁ = getTimer c ∧ c₁.env = c.env →
      ∃ c₂ f',
        memoryAddressStep c₁ b f = .ok (c₂, decoderStep "RAM" (getTimer c) b f, f') ∧
        getTimer c₂ = getTimer c ∧ c₂.env = c.env := by
    rintro f hf c₁ b ⟨htimer, henv⟩
    rw [← htimer]
    obtain ⟨c₂, f', hrun, htimer', henv'⟩ :=
      memoryAddressStep_spec (hlabelled f hf) fun hk hg => htimer ▸ hready f hf hk hg
    exact ⟨c₂, f', hrun, htimer', henv'.trans henv⟩
  obtain ⟨c', faults', hrun, htimer, henv⟩ :=
    runFaultList_fold (P := fun c₁ => getTimer c₁ = getTimer c ∧ c₁.env = c.env) addr hstep
      ⟨rfl, rfl⟩
  exact ⟨{ c' with faults := faults' }, hrun, htimer, henv⟩

/-- A store that stays in its page at the decoded address is written there:
the address hook follows the decoder chain, and the content hook passes the
value at the decoded address when no cell fault names it. -/
theorem helperLeSt_lands_at_decoder_chain {size : Nat} {c : Controller} {a v : BitVec 32}
    (hbusy : a.setWidth 64 ≠ c.addressInUse)
    (hlabelled : ∀ f ∈ c.faults, f.Labelled)
    (hready : ∀ f ∈ c.faults, f.component = some "RAM" → f.target = some "ADDRESS DECODER" →
      HandlerReady (getTimer c) f)
    (hpage : crossesPage size
      ((decoderRedirect "RAM" (getTimer c) c.faults (a.setWidth 64)).setWidth 32) = false)
    (hcell : NoCellFaultAt c.faults
      ((decoderRedirect "RAM" (getTimer c) c.faults (a.setWidth 64)).setWidth 32)) :
    ∃ c', helperLeSt size c a v = .ok c' ∧
      c'.env = c.env.writeBytes
        ((decoderRedirect "RAM" (getTimer c) c.faults (a.setWidth 64)).setWidth 32) v size ∧
      getTimer c' = getTimer c := by
  obtain ⟨c₁, hchain, htimer, henv⟩ := @memoryAddress_chain_keeps_env
    (profilerLog c (a.setWidth 64) .writeAccessType) (a.setWidth 64)
    (by simpa using hlabelled) (by simpa using hready)
  simp only [getTimer_profilerLog, profilerLog_faults, profilerLog_env] at hchain htimer henv
  generalize decoderRedirect "RAM" (getTimer c) c.faults (a.setWidth 64) = d
    at hchain hpage hcell ⊢
  have hrecords : c₁.faults.map Fault.record = c.faults.map Fault.record := by
    have hframe := (faultInjectionControllerMemoryAddress_post _ _ _ hchain).frame
    simpa [Controller.frame] using congrArg Frame.faults hframe
  have haddr : faultInjectionControllerInit c true (a.setWidth 64) 0 .fiMemoryAddr
      .writeAccessType = .ok (c₁, d, 0) := by
    simp only [faultInjectionControllerInit, profilerLog_addressInUse, hbusy, if_false, hchain]
    rfl
  have hcontent := faultInjectionControllerInit_content_of_noCell (truncBytes size v)
    .writeAccessType (hcell.of_records hrecords)
  refine ⟨{ profilerLog c₁ d .writeAccessType with
    env := (profilerLog c₁ d .writeAccessType).env.writeBytes (d.setWidth 32)
      (truncBytes size (truncBytes size v)) size },
    ?_, ?_, ?_⟩
  · simp only [helperLeSt, haddr, ok_bind, hpage, Bool.false_eq_true, if_false, hcontent]
    rfl
  · simp [henv, writeBytes_truncBytes]
  · rw [getTimer_env, getTimer_profilerLog, htimer]

theorem helperLeSt_lands_at_decoder_chain_twice :
    ∃ c', helperLeSt 1 chainedRamDecoders 0x100 0xCD = .ok c' ∧
      c'.env = chainedRamDecoders.env.writeBytes 0x300 0xCD 1 ∧
      getTimer c' = getTimer chainedRamDecoders := by
  have hend : decoderRedirect "RAM" (getTimer chainedRamDecoders) chainedRamDecoders.faults
      ((0x100 : BitVec 32).setWidth 64) = 0x300 := by
    decide
  obtain ⟨c', hrun, henv, htimer⟩ := @helperLeSt_lands_at_decoder_chain 1 chainedRamDecoders
    0x100 0xCD (by decide) (fun f hf => (chainedRamDecoders_ready f hf).1)
    (fun f hf _ _ => (chainedRamDecoders_ready f hf).2) (by rw [hend]; decide)
    (by rw [hend]; decide)
  rw [hend] at henv
  exact ⟨c', hrun, henv, htimer⟩

end Fies
