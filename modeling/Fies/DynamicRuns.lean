import Fies.DynamicFaults
import Fies.Softmmu

/-!
# Runs of accesses to a cell with a dynamic fault

A guest access of a cell is the content hook around the access itself: a read
hands the dispatcher the cell's content and receives what it delivers, a write
hands it the value and stores what it delivers.  `CellKind` names the two
kinds of cell the hooks serve, RAM cells and registers.

One access moves every bit below `MEMORY_WIDTH` as `DynamicCell.maskedAccess`
moves it, with the bit's record read off `ops_on_*_cell[id - 1]`
(`cellAccess_step`); a run of accesses then moves it as `runAccesses` does
(`dynamicRunContract_of_laws`).  The dispatchers supply one law per kind of
access (`DynamicCellLaws`), proved for RAM and for registers.  A guest load
or store of a RAM cell that stays in its page is one such access
(`helperLeLd_eq_cellAccess`, `helperLeSt_eq_cellAccess`).
-/

namespace Fies

open CRuntime BitMask Machine FaultPrimitives

/-- A kind of cell the content hooks serve: its dispatcher, how the cell is
read and stored, where its writes are recorded, the strings its faults carry
and which addresses name a cell. -/
structure CellKind where
  dispatcher : Controller → BitVec 64 → BitVec 32 → AccessType →
    Except CError (Controller × BitVec 32)
  read : Machine → BitVec 64 → BitVec 32
  store : Machine → BitVec 64 → BitVec 32 → Machine
  history : Controller → BitVec 32 → Nat → Option CellOps
  component : String
  target : String
  valid : BitVec 64 → Prop

def ramCell : CellKind where
  dispatcher := faultInjectionControllerMemoryContent
  read env addr := env.cpuMemoryRwDebugRead addr memoryCellBytes
  store env addr v := env.cpuMemoryRwDebugWrite addr v memoryCellBytes
  history c := c.opsOnMemoryCell
  component := "RAM"
  target := "MEMORY CELL"
  valid _ := True

def registerCell : CellKind where
  dispatcher := faultInjectionControllerRegisterContent
  read env addr := env.readCpuRegister addr
  store env addr v := env.setReg (addr.setWidth 32) v
  history c := c.opsOnRegisterCell
  component := "REGISTER"
  target := "REGISTER CELL"
  valid addr := addr.toNat < 16

inductive CellAccess
  | read
  | write (value : BitVec 32)
  deriving DecidableEq, Repr

/-- One guest access of the cell `addr`: the value delivered. -/
def cellAccess (k : CellKind) (addr : BitVec 64) (c : Controller) :
    CellAccess → Except CError (Controller × BitVec 32)
  | .read => k.dispatcher c addr (k.read c.env addr) .readAccessType
  | .write v => do
      let (c, v) ← k.dispatcher c addr v .writeAccessType
      pure ({ c with env := k.store c.env addr v }, v)

/-- A run of guest accesses of the cell `addr`: the values delivered, in
order. -/
def cellRun (k : CellKind) (addr : BitVec 64) :
    Controller → List CellAccess → Except CError (Controller × List (BitVec 32))
  | c, [] => pure (c, [])
  | c, a :: as => do
      let (c, v) ← cellAccess k addr c a
      let (c, vs) ← cellRun k addr c as
      pure (c, v :: vs)

def CellAccess.bit (i : Nat) : CellAccess → Op
  | .read => .read
  | .write v => .write (v.getLsbD i)

/-- The state of the runs below: an active ACCESS-triggered dynamic fault of
primitive `p` names the cell `addr`, its `cf_address` is elsewhere, no other
entry names `addr`, and its id is positive, so that its history row exists. -/
structure DynamicSetup (k : CellKind) (c : Controller) (pre post : List Fault) (fault : Fault)
    (addr : BitVec 64) (p : DynamicCell) : Prop where
  faults : c.faults = pre ++ fault :: post
  others : ∀ f ∈ pre ++ post,
    f.params.address ≠ addr.setWidth 32 ∧ f.params.cfAddress ≠ addr.setWidth 32
  address : fault.params.address = addr.setWidth 32
  cfAddress : fault.params.cfAddress ≠ addr.setWidth 32
  trigger : fault.trigger = some "ACCESS"
  component : fault.component = some k.component
  target : fault.target = some k.target
  mode : fault.mode = some (dynamicMode p)
  idPos : 0 < fault.id.toInt
  active : activeNow fault 0 (getTimer c) = true

/-- Bit `i` of the cell and the last write recorded for it. -/
def bitState (k : CellKind) (c : Controller) (fault : Fault) (addr : BitVec 64) (i : Nat) :
    BitState :=
  ⟨(k.read c.env addr).getLsbD i, (k.history c (fault.id - 1) i).map CellOps.toPair⟩

/-- What one access does, for a kind of cell: a read delivers, and leaves in
the cell, what the handler makes of it; a write goes through and is recorded
against the cell's content; the cell reads back what is stored. -/
structure DynamicCellLaws (k : CellKind) : Prop where
  read : ∀ {c pre post fault addr p}, k.valid addr → DynamicSetup k c pre post fault addr p →
    ∃ c' v, k.dispatcher c addr (k.read c.env addr) .readAccessType = .ok (c', v) ∧
      c'.faults = pre ++ { fault with isActive := true } :: post ∧
      getTimer c' = getTimer c ∧ k.history c' = k.history c ∧
      ∀ i < memoryWidth,
        v.getLsbD i = (dynamicResult p (k.history c (fault.id - 1)) (k.read c.env addr)
          fault.params.mask).1.getLsbD i ∧
        (k.read c'.env addr).getLsbD i = ((dynamicResult p (k.history c (fault.id - 1))
          (k.read c.env addr) fault.params.mask).2.getD (k.read c.env addr)).getLsbD i
  write : ∀ {c pre post fault addr p} (v : BitVec 32), k.valid addr →
    DynamicSetup k c pre post fault addr p →
    ∃ c', k.dispatcher c addr v .writeAccessType = .ok (c', v) ∧
      c'.faults = pre ++ fault :: post ∧ getTimer c' = getTimer c ∧
      k.history c' = logCellOperations (k.history c) (k.read c.env addr) fault v
  store : ∀ env addr v, k.valid addr → ∀ i < memoryWidth,
    (k.read (k.store env addr v) addr).getLsbD i = v.getLsbD i
  history_env : ∀ (c : Controller) env, k.history { c with env } = k.history c

/-- The contract of a kind of cell for dynamic faults.  For every run of
accesses of a cell that an active dynamic fault of primitive `p` names (and no
other entry), every bit below `MEMORY_WIDTH` of every value delivered, and
the bit and its record at the end, are those of the run of the primitive
under the mask and fault free elsewhere, from the bit's content and record at
the start. -/
def DynamicRunContract (k : CellKind) : Prop :=
  ∀ (c : Controller) (pre post : List Fault) (fault : Fault) (addr : BitVec 64)
    (p : DynamicCell) (as : List CellAccess),
    k.valid addr → DynamicSetup k c pre post fault addr p →
    ∃ c' vs, cellRun k addr c as = .ok (c', vs) ∧
      ∀ i < memoryWidth,
        runAccesses (p.maskedAccess (fault.params.mask.getLsbD i)) (bitState k c fault addr i)
            (as.map (CellAccess.bit i)) =
          (vs.map (·.getLsbD i), bitState k c' fault addr i)

/-! ## One access, then a run -/

theorem DynamicSetup.keep {k : CellKind} {c c' : Controller} {pre post : List Fault}
    {fault : Fault} {addr : BitVec 64} {p : DynamicCell} (hs : DynamicSetup k c pre post fault addr p)
    {b : Bool} (hfaults : c'.faults = pre ++ { fault with isActive := b } :: post)
    (htimer : getTimer c' = getTimer c) :
    DynamicSetup k c' pre post { fault with isActive := b } addr p := by
  have hactive : activeNow { fault with isActive := b } 0 (getTimer c') = true := by
    rw [htimer]
    exact hs.active
  exact ⟨hfaults, hs.others, hs.address, hs.cfAddress, hs.trigger, hs.component, hs.target,
    hs.mode, hs.idPos, hactive⟩

theorem cellAccess_step {k : CellKind} (hk : DynamicCellLaws k) {c : Controller}
    {pre post : List Fault} {fault : Fault} {addr : BitVec 64} {p : DynamicCell}
    (hvalid : k.valid addr) (hs : DynamicSetup k c pre post fault addr p) (a : CellAccess) :
    ∃ c' v b, cellAccess k addr c a = .ok (c', v) ∧
      DynamicSetup k c' pre post { fault with isActive := b } addr p ∧
      ∀ i < memoryWidth,
        p.maskedAccess (fault.params.mask.getLsbD i) (bitState k c fault addr i) (a.bit i) =
          (v.getLsbD i, bitState k c' fault addr i) := by
  cases a with
  | read =>
      obtain ⟨c', v, hrun, hfaults, htimer, hhistory, hbits⟩ := hk.read hvalid hs
      refine ⟨c', v, true, hrun, hs.keep hfaults htimer, fun i hi => ?_⟩
      have hread := maskedAccess_read_dynamicResult p (k.history c (fault.id - 1))
        (k.read c.env addr) fault.params.mask hi
      rw [CellAccess.bit, bitState, bitState, hhistory, (hbits i hi).1, (hbits i hi).2]
      exact hread
  | write v =>
      obtain ⟨c', hrun, hfaults, htimer, hhistory⟩ := hk.write v hvalid hs
      refine ⟨{ c' with env := k.store c'.env addr v }, v, fault.isActive, ?_, hs.keep hfaults
        (by rw [getTimer_env, htimer]), fun i hi => ?_⟩
      · simp [cellAccess, hrun]
      · have hhist : k.history { c' with env := k.store c'.env addr v } (fault.id - 1) i =
            logCellOperations (k.history c) (k.read c.env addr) fault v (fault.id - 1) i := by
          rw [hk.history_env, hhistory]
        have hcell : (k.read (k.store c'.env addr v) addr).getLsbD i = v.getLsbD i :=
          hk.store _ _ _ hvalid i hi
        simp only [CellAccess.bit, DynamicCell.maskedAccess_write, bitState, hhist, hcell,
          logCellOperations_apply]
        cases hm : fault.params.mask.getLsbD i <;> simp [CellOps.toPair_ofWrite]

theorem dynamicRunContract_of_laws {k : CellKind} (hk : DynamicCellLaws k) :
    DynamicRunContract k := by
  intro c pre post fault addr p as hvalid hs
  induction as generalizing c fault with
  | nil => exact ⟨c, [], rfl, fun i _ => rfl⟩
  | cons a as ih =>
      obtain ⟨c₁, v, b, hacc, hs₁, hbits⟩ := cellAccess_step hk hvalid hs a
      obtain ⟨c', vs, hrun, hrest⟩ := ih c₁ { fault with isActive := b } hs₁
      refine ⟨c', v :: vs, by simp [cellRun, hacc, hrun], fun i hi => ?_⟩
      have hrest' : runAccesses (p.maskedAccess (fault.params.mask.getLsbD i))
          (bitState k c₁ fault addr i) (as.map (CellAccess.bit i)) =
          (vs.map (·.getLsbD i), bitState k c' fault addr i) :=
        hrest i hi
      rw [List.map_cons, runAccesses_cons, hbits i hi, hrest']
      rfl

/-! ## RAM cells and registers -/

theorem ramCell_laws : DynamicCellLaws ramCell where
  read {c pre post fault addr p} _ hs := by
    obtain ⟨stats, hrun⟩ := memoryContent_of_dynamicFault_read (ramCell.read c.env addr)
      hs.faults hs.others hs.address hs.cfAddress hs.trigger hs.component hs.target hs.mode
      hs.idPos hs.active
    refine ⟨_, _, hrun, rfl, rfl, rfl, fun i hi => ⟨rfl, ?_⟩⟩
    exact getLsbD_cellWord_elim_cellWrite_memory c.env memoryContentInfo addr _ rfl rfl hi
  write {c pre post fault addr p} v _ hs :=
    ⟨_, memoryContent_of_dynamicFault_write v hs.faults hs.others hs.address hs.cfAddress
      hs.trigger hs.component hs.target hs.mode hs.idPos, rfl, rfl, rfl⟩
  store env addr v _ i hi := by
    have hbytes : i < 8 * memoryCellBytes := by simpa [memoryWidth, memoryCellBytes] using hi
    exact getLsbD_readBytes_writeBytes env (addr.setWidth 32) v memoryCellBytes (by decide) i hbytes
  history_env _ _ := rfl

theorem registerCell_laws : DynamicCellLaws registerCell where
  read {c pre post fault addr p} hvalid hs := by
    obtain ⟨stats, hrun⟩ := registerContent_of_dynamicFault_read (registerCell.read c.env addr)
      hs.faults hs.others hs.address hs.cfAddress hs.trigger hs.component hs.target hs.mode
      hs.idPos hs.active
    refine ⟨_, _, hrun, rfl, rfl, rfl, fun i _ => ⟨rfl, ?_⟩⟩
    have hafter := cellWord_elim_cellWrite_register c.env registerContentInfo addr
      (dynamicResult p (c.opsOnRegisterCell (fault.id - 1)) (registerCell.read c.env addr)
        fault.params.mask).2 (by decide) rfl (slt_sixteen_of_toNat_lt hvalid)
    exact congrArg (·.getLsbD i) hafter
  write {c pre post fault addr p} v _ hs :=
    ⟨_, registerContent_of_dynamicFault_write v hs.faults hs.others hs.address hs.cfAddress
      hs.trigger hs.component hs.target hs.mode hs.idPos, rfl, rfl, rfl⟩
  store env addr v _ i _ := by
    simp [registerCell, readCpuRegister, setReg]
  history_env _ _ := rfl

theorem dynamicFaults_follow_last_write :
    DynamicRunContract ramCell ∧ DynamicRunContract registerCell :=
  ⟨dynamicRunContract_of_laws ramCell_laws, dynamicRunContract_of_laws registerCell_laws⟩

theorem dynamicFaults_follow_last_write_irf10 :
    ∃ c' vs, cellRun ramCell 0x100 (Controller.loaded
        { Machine.zero with mem := Function.update Machine.zero.mem 0x100 1 }
        [Fault.permanent "ACCESS" "RAM" "MEMORY CELL" "IRF10" ⟨0x100, -1, 1, -1, -1⟩])
        [.write 0, .read, .read] = .ok (c', vs) ∧
      vs.map (·.getLsbD 0) = [false, true, true] := by
  obtain ⟨c', vs, hrun, hbits⟩ := dynamicFaults_follow_last_write.1 (Controller.loaded
      { Machine.zero with mem := Function.update Machine.zero.mem 0x100 1 }
      [Fault.permanent "ACCESS" "RAM" "MEMORY CELL" "IRF10" ⟨0x100, -1, 1, -1, -1⟩]) [] []
    (Fault.permanent "ACCESS" "RAM" "MEMORY CELL" "IRF10" ⟨0x100, -1, 1, -1, -1⟩) 0x100
    (.irf true false) [.write 0, .read, .read] trivial
    ⟨rfl, by simp, rfl, by decide, rfl, rfl, rfl, rfl, by decide, by decide +kernel⟩
  have hbit := hbits 0 (by decide)
  have hstart : bitState ramCell (Controller.loaded
      { Machine.zero with mem := Function.update Machine.zero.mem 0x100 1 }
      [Fault.permanent "ACCESS" "RAM" "MEMORY CELL" "IRF10" ⟨0x100, -1, 1, -1, -1⟩])
      (Fault.permanent "ACCESS" "RAM" "MEMORY CELL" "IRF10" ⟨0x100, -1, 1, -1, -1⟩) 0x100 0 =
      ⟨true, none⟩ := by
    decide +kernel
  rw [hstart] at hbit
  have hprimitive : runAccesses ((DynamicCell.irf true false).maskedAccess true) ⟨true, none⟩
      [.write false, .read, .read] = ([false, true, true], ⟨false, some (true, false)⟩) := by
    decide
  exact ⟨c', vs, hrun, (Prod.mk.inj (hprimitive.symm.trans hbit)).1.symm⟩

/-- Through the guest's little-endian helpers: on that cell, a two-byte store
of 0 and two loads; the second load is not directly preceded by the write and
still returns 1 at bit 0.  With id 0 the fault has no history row, and the
store crashes in the logger. -/
theorem dynamicFault_second_read_faulty_id_zero_crashes :
    (helperLeSt 2 (Controller.loaded
        { Machine.zero with mem := Function.update Machine.zero.mem 0x100 1 }
        [Fault.permanent "ACCESS" "RAM" "MEMORY CELL" "IRF10" ⟨0x100, -1, 1, -1, -1⟩]) 0x100 0 >>=
      fun c => helperLeLd 2 c 0x100 >>= fun r => helperLeLd 2 r.1 0x100 >>= fun r' =>
        pure (r.2.getLsbD 0, r'.2.getLsbD 0)) = .ok (true, true) ∧
      (helperLeSt 2 (Controller.loaded
        { Machine.zero with mem := Function.update Machine.zero.mem 0x100 1 }
        [{ Fault.permanent "ACCESS" "RAM" "MEMORY CELL" "IRF10" ⟨0x100, -1, 1, -1, -1⟩ with
          id := 0 }]) 0x100 0).map (fun _ => ()) = .error .outOfBounds := by
  decide +kernel

/-! ## Guest loads and stores of a RAM cell

A load or store of `MEMORY_WIDTH / 8` bytes that stays in its page is one
`cellAccess` of the RAM cell at its address, after the profiler has seen it. -/

theorem helperLeLd_eq_cellAccess {c : Controller} {a : BitVec 32}
    (hpage : crossesPage memoryCellBytes a = false) (hbusy : a.setWidth 64 ≠ c.addressInUse) :
    helperLeLd memoryCellBytes c a =
      (fun r => (r.1, truncBytes memoryCellBytes r.2)) <$>
        cellAccess ramCell (a.setWidth 64) (profilerLog c (a.setWidth 64) .readAccessType) .read := by
  rw [helperLeLd_of_inPage hpage hbusy]
  simp only [cellAccess, ramCell, profilerLog_env, cpuMemoryRwDebugRead,
    BitVec.setWidth_setWidth_of_le _ (by omega : 32 ≤ 64), BitVec.setWidth_eq]

theorem helperLeSt_eq_cellAccess {c : Controller} {a v : BitVec 32}
    (hpage : crossesPage memoryCellBytes a = false) (hbusy : a.setWidth 64 ≠ c.addressInUse)
    (hdecoder : ∀ f ∈ c.faults, f.params.address = a → ∃ t k g,
      f.trigger = some t ∧ f.component = some k ∧ f.target = some g ∧ g ≠ "ADDRESS DECODER") :
    helperLeSt memoryCellBytes c a v =
      Prod.fst <$> cellAccess ramCell (a.setWidth 64)
        (profilerLog (profilerLog c (a.setWidth 64) .writeAccessType) (a.setWidth 64)
          .writeAccessType)
        (.write (truncBytes memoryCellBytes v)) := by
  rw [helperLeSt_of_inPage hpage hbusy hdecoder]
  simp only [cellAccess, ramCell, cpuMemoryRwDebugWrite,
    BitVec.setWidth_setWidth_of_le _ (by omega : 32 ≤ 64), BitVec.setWidth_eq]
  cases faultInjectionControllerMemoryContent
    (profilerLog (profilerLog c (a.setWidth 64) .writeAccessType) (a.setWidth 64) .writeAccessType)
    (a.setWidth 64) (truncBytes memoryCellBytes v) .writeAccessType with
  | error e => rfl
  | ok r => simp [writeBytes_truncBytes]

end Fies
