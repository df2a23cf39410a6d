import Fies.Softmmu

/-!
# The page-crossing paths of the softmmu helpers

An access that runs past the end of its 1 KiB page is not made in one piece.
`helper_le_ld_name` loads the two aligned words around it, each through the
content hook, shifts them together and runs the content hook once more on the
result.  The stores go byte by byte, from the last byte down to the first,
each byte through the content hook and then through `helper_ret_stb`, which
runs the address and the content hook again.

With no fault entry on the addresses the hooks see (`Unnamed`), the hooks
hand every buffer back unchanged, and the split paths compute what the access
means.  The load reads the `size` bytes at its address, little endian, on both
paths.  The little-endian store writes them, and the big-endian store writes
the byte-swapped value, as their same-page paths do.  The byte lemmas come
first: a read seen bit by bit, the combine of two aligned words, and the
store loop as a plain write.

The content hook matches a cell fault with a call by the call's address alone,
so the cells an access is matched with are the addresses its helper calls the
hook at.  These are listed per helper and path; a page-crossing load starts
at the aligned word below its address, which may lie outside the access.
-/

namespace Fies

open CRuntime Machine Except

/-- The values of `DATA_SIZE` the template is instantiated with that fit the
32-bit word the hooks see; the 8-byte helpers are not modelled. -/
def DataSize (size : Nat) : Prop := size = 1 ∨ size = 2 ∨ size = 4

instance : DecidablePred DataSize := fun size =>
  inferInstanceAs (Decidable (size = 1 ∨ size = 2 ∨ size = 4))

theorem DataSize.eq_two_pow {size : Nat} (h : DataSize size) : ∃ m ≤ 2, size = 2 ^ m := by
  rcases h with rfl | rfl | rfl
  · exact ⟨0, by omega, rfl⟩
  · exact ⟨1, by omega, rfl⟩
  · exact ⟨2, le_rfl, rfl⟩

theorem DataSize.pos {size : Nat} (h : DataSize size) : 0 < size := by
  rcases h with rfl | rfl | rfl <;> decide

theorem DataSize.le_four {size : Nat} (h : DataSize size) : size ≤ 4 := by
  rcases h with rfl | rfl | rfl <;> decide

theorem DataSize.align {size : Nat} (h : DataSize size) (addr : BitVec 32) :
    (addr &&& ~~~BitVec.ofNat 32 (size - 1)) + BitVec.ofNat 32 (addr.toNat % size) = addr := by
  obtain ⟨m, hm, rfl⟩ := h.eq_two_pow
  exact BitMask.and_not_add_mod addr (by omega)

/-! ## Bytes -/

namespace Machine

theorem add_one_add_ofNat (addr : BitVec 32) (j : Nat) :
    addr + 1 + BitVec.ofNat 32 j = addr + BitVec.ofNat 32 (j + 1) := by
  rw [BitVec.ofNat_add, BitVec.add_assoc, BitVec.add_comm 1]
  rfl

theorem getLsbD_readBytes (env : Machine) (addr : BitVec 32) (n : Nat) {j k : Nat} (hk : k < 8)
    (hjk : 8 * j + k < 32) :
    (env.readBytes addr n).getLsbD (8 * j + k) =
      (decide (j < n) && (env.mem (addr + BitVec.ofNat 32 j)).getLsbD k) := by
  induction n generalizing addr j with
  | zero => simp [readBytes]
  | succ n ih =>
      rw [readBytes, BitVec.getLsbD_or, BitVec.getLsbD_shiftLeft, BitVec.getLsbD_setWidth]
      cases j with
      | zero => simp [hk, show k < 32 by omega]
      | succ j =>
          have hbit : 8 * (j + 1) + k - 8 = 8 * j + k := by omega
          rw [BitVec.getLsbD_of_ge (env.mem addr) _ (by omega), hbit, ih (addr + 1) (by omega),
            add_one_add_ofNat]
          simp [hjk, show ¬ 8 * (j + 1) + k < 8 by omega]

theorem writeBytes_succ_last (env : Machine) (addr word : BitVec 32) (n : Nat) :
    env.writeBytes addr word (n + 1) =
      (env.writeBytes addr word n).writeBytes (addr + BitVec.ofNat 32 n) (word >>> (8 * n)) 1 := by
  induction n generalizing env addr word with
  | zero => simp [writeBytes]
  | succ n ih =>
      have hshift : word >>> 8 >>> (8 * n) = word >>> (8 * (n + 1)) := by
        rw [← BitVec.shiftRight_add]
        congr 1
        omega
      rw [writeBytes.eq_2 env addr word (n + 1), ih, hshift, add_one_add_ofNat,
        writeBytes.eq_2 env addr word n]

theorem writeBytes_one (env : Machine) (addr word : BitVec 32) :
    env.writeBytes addr word 1 =
      { env with mem := Function.update env.mem addr (word.setWidth 8) } :=
  rfl

theorem writeBytes_comm_of_outside (env : Machine) (addr word b x : BitVec 32) (n : Nat)
    (houtside : ∀ k < n, addr + BitVec.ofNat 32 k ≠ b) :
    (env.writeBytes b x 1).writeBytes addr word n =
      (env.writeBytes addr word n).writeBytes b x 1 := by
  induction n generalizing env addr word with
  | zero => rfl
  | succ n ih =>
      have hrest : ∀ k < n, addr + 1 + BitVec.ofNat 32 k ≠ b := by
        intro k hk
        rw [add_one_add_ofNat]
        exact houtside (k + 1) (by omega)
      have hne : addr ≠ b := by simpa using houtside 0 (by omega)
      rw [writeBytes_one env b x, writeBytes.eq_2 _ addr word n, writeBytes.eq_2 env addr word n,
        ← ih _ _ _ hrest, writeBytes_one, Function.update_comm hne]

theorem foldl_reverse_range_writeBytes (env : Machine) (addr word : BitVec 32) {n : Nat}
    (hn : n ≤ 4) :
    (List.range n).reverse.foldl
        (fun env i => env.writeBytes (addr + BitVec.ofNat 32 i) (word >>> (8 * i)) 1) env =
      env.writeBytes addr word n := by
  induction n generalizing env with
  | zero => rfl
  | succ n ih =>
      have hfresh : ∀ k < n, addr + BitVec.ofNat 32 k ≠ addr + BitVec.ofNat 32 n := by
        intro k hk
        have hn3 : n ≤ 3 := by omega
        bv_omega
      rw [List.range_succ, List.reverse_append, List.reverse_singleton, List.singleton_append,
        List.foldl_cons, ih _ (by omega), writeBytes_comm_of_outside _ _ _ _ _ _ hfresh]
      exact (writeBytes_succ_last env addr word n).symm

theorem truncBytes_readBytes (env : Machine) (addr : BitVec 32) (n : Nat) :
    truncBytes n (env.readBytes addr n) = env.readBytes addr n := by
  apply BitVec.eq_of_getLsbD_eq
  intro i hi
  rw [getLsbD_truncBytes]
  by_cases hin : i < 8 * n
  · simp [hin]
  · simp [hin, getLsbD_readBytes_of_ge env addr n (by omega : 8 * n ≤ i)]

theorem readBytes_combine (env : Machine) (addr : BitVec 32) {size : Nat} (hsize : DataSize size) :
    truncBytes size
        ((env.readBytes (addr &&& ~~~BitVec.ofNat 32 (size - 1)) size >>>
            (addr.toNat % size * 8)) |||
          (env.readBytes ((addr &&& ~~~BitVec.ofNat 32 (size - 1)) + BitVec.ofNat 32 size) size <<<
            (size * 8 - addr.toNat % size * 8))) =
      env.readBytes addr size := by
  have hbase := hsize.align addr
  have hpos := hsize.pos
  have hle := hsize.le_four
  generalize addr &&& ~~~BitVec.ofNat 32 (size - 1) = base at hbase ⊢
  have hs : addr.toNat % size < size := Nat.mod_lt _ hpos
  generalize addr.toNat % size = s at hbase hs ⊢
  subst hbase
  apply BitVec.eq_of_getLsbD_eq
  intro i hi
  obtain ⟨j, k, hk, rfl⟩ : ∃ j k, k < 8 ∧ i = 8 * j + k :=
    ⟨i / 8, i % 8, Nat.mod_lt _ (by omega), by omega⟩
  rw [getLsbD_truncBytes, BitVec.getLsbD_or, BitVec.getLsbD_ushiftRight, BitVec.getLsbD_shiftLeft,
    getLsbD_readBytes env _ _ hk hi]
  by_cases hj : j < size
  · by_cases hlow : j + s < size
    · have hidx : s * 8 + (8 * j + k) = 8 * (j + s) + k := by omega
      have haddr :
          base + BitVec.ofNat 32 (j + s) = base + BitVec.ofNat 32 s + BitVec.ofNat 32 j := by
        rw [BitVec.add_assoc, ← BitVec.ofNat_add, Nat.add_comm]
      rw [hidx, getLsbD_readBytes env base _ hk (by omega), haddr]
      simp [hj, hlow, show 8 * j + k < size * 8 - s * 8 by omega,
        show 8 * j + k < 8 * size by omega]
    · have hidx : 8 * j + k - (size * 8 - s * 8) = 8 * (j + s - size) + k := by omega
      have haddr : base + BitVec.ofNat 32 (size) + BitVec.ofNat 32 (j + s - size) =
          base + BitVec.ofNat 32 s + BitVec.ofNat 32 j := by
        rw [BitVec.add_assoc, BitVec.add_assoc, ← BitVec.ofNat_add, ← BitVec.ofNat_add]
        congr 2
        omega
      rw [hidx, getLsbD_readBytes env _ _ hk (by omega), haddr,
        getLsbD_readBytes_of_ge env base _ (by omega : 8 * size ≤ s * 8 + (8 * j + k))]
      simp [hj, show j + s - size < size by omega, show ¬ 8 * j + k < size * 8 - s * 8 by omega,
        show 8 * j + k < 8 * size by omega, hi]
  · simp [hj, show ¬ 8 * j + k < 8 * size by omega]

end Machine

theorem getLsbD_0xFF (i : Nat) : (0xFF : BitVec 32).getLsbD i = decide (i < 8) := by
  rw [show (0xFF : BitVec 32) = BitVec.ofNat 32 (2 ^ 8 - 1) from rfl, BitVec.getLsbD_ofNat,
    Nat.testBit_two_pow_sub_one]
  by_cases hi : i < 8
  · simp [hi, show i < 32 by omega]
  · simp [hi]

theorem getLsbD_byteSwap (n : Nat) (v : BitVec 32) {j k : Nat} (hk : k < 8)
    (hjk : 8 * j + k < 32) :
    (byteSwap n v).getLsbD (8 * j + k) = (decide (j < n) && v.getLsbD (8 * (n - 1 - j) + k)) := by
  induction n generalizing v with
  | zero => simp [byteSwap]
  | succ n ih =>
      rw [byteSwap, BitVec.getLsbD_or, BitVec.getLsbD_shiftLeft, BitVec.getLsbD_and, ih,
        getLsbD_0xFF, BitVec.getLsbD_ushiftRight]
      rcases lt_trichotomy j n with hj | rfl | hj
      · have hidx : 8 + (8 * (n - 1 - j) + k) = 8 * (n + 1 - 1 - j) + k := by omega
        simp [hj, show 8 * j + k < 8 * n by omega, show j < n + 1 by omega, hidx]
      · simp [hjk, hk]
      · simp [show ¬ j < n by omega, show ¬ j < n + 1 by omega,
          show ¬ 8 * j + k - 8 * n < 8 by omega]

theorem writeBytes_byte_truncBytes (env : Machine) (b v : BitVec 32) {size i : Nat}
    (hi : i < size) :
    env.writeBytes b (truncBytes 1 (truncBytes size v >>> (i * 8))) 1 =
      env.writeBytes b (v >>> (8 * i)) 1 := by
  rw [writeBytes_truncBytes]
  apply writeBytes_congr_of_getLsbD
  intro k hk
  rw [BitVec.getLsbD_ushiftRight, BitVec.getLsbD_ushiftRight, getLsbD_truncBytes]
  simp [Nat.mul_comm i 8, show 8 * i + k < 8 * size by omega]

theorem writeBytes_byte_byteSwap (env : Machine) (b v : BitVec 32) {size i : Nat}
    (hsize : size ≤ 4) (hi : i < size) :
    env.writeBytes b (truncBytes 1 (truncBytes size v >>> ((size - 1) * 8 - i * 8))) 1 =
      env.writeBytes b (byteSwap size v >>> (8 * i)) 1 := by
  rw [writeBytes_truncBytes]
  apply writeBytes_congr_of_getLsbD
  intro k hk
  rw [BitVec.getLsbD_ushiftRight, BitVec.getLsbD_ushiftRight, getLsbD_truncBytes,
    getLsbD_byteSwap size v (by omega) (by omega)]
  have hidx : (size - 1) * 8 - i * 8 + k = 8 * (size - 1 - i) + k := by omega
  simp [hidx, hi, show 8 * (size - 1 - i) + k < 8 * size by omega]

theorem byteSwap_truncBytes (n : Nat) (v : BitVec 32) :
    byteSwap n (truncBytes n v) = byteSwap n v := by
  apply BitVec.eq_of_getLsbD_eq
  intro i hi
  obtain ⟨j, k, hk, rfl⟩ : ∃ j k, k < 8 ∧ i = 8 * j + k :=
    ⟨i / 8, i % 8, Nat.mod_lt _ (by omega), by omega⟩
  rw [getLsbD_byteSwap n _ hk hi, getLsbD_byteSwap n _ hk hi, getLsbD_truncBytes]
  by_cases hj : j < n
  · simp [hj, show 8 * (n - 1 - j) + k < 8 * n by omega]
  · simp [hj]

/-! ## The hooks on an unnamed address -/

/-- No entry of the fault list names `a`, as its address or as its coupled
address. -/
def Unnamed (faults : List Fault) (a : BitVec 32) : Prop :=
  ∀ f ∈ faults, f.params.address ≠ a ∧ f.params.cfAddress ≠ a

instance (faults : List Fault) (a : BitVec 32) : Decidable (Unnamed faults a) :=
  inferInstanceAs (Decidable (∀ f ∈ faults, f.params.address ≠ a ∧ f.params.cfAddress ≠ a))

@[simp] theorem unnamed_profilerLog {c : Controller} {addr : BitVec 64} {accessType : AccessType}
    {a : BitVec 32} : Unnamed (profilerLog c addr accessType).faults a ↔ Unnamed c.faults a := by
  rw [profilerLog_faults]

/-- Every entry that names `a`, as its address or as its coupled address, has
a trigger and is no RAM MEMORY CELL or R/W LOGIC fault: the content hook has
nothing to do at `a`. -/
def NoCellFaultAt (faults : List Fault) (a : BitVec 32) : Prop :=
  ∀ f ∈ faults, (f.params.address = a ∨ f.params.cfAddress = a) →
    f.trigger.isSome ∧ ¬(f.component = some "RAM" ∧
      (f.target = some "MEMORY CELL" ∨ f.target = some "R/W LOGIC"))

instance (faults : List Fault) (a : BitVec 32) : Decidable (NoCellFaultAt faults a) :=
  inferInstanceAs (Decidable (∀ f ∈ faults, (f.params.address = a ∨ f.params.cfAddress = a) →
    f.trigger.isSome ∧ ¬(f.component = some "RAM" ∧
      (f.target = some "MEMORY CELL" ∨ f.target = some "R/W LOGIC"))))

theorem Unnamed.noCellFaultAt {faults : List Fault} {a : BitVec 32} (h : Unnamed faults a) :
    NoCellFaultAt faults a :=
  fun f hf hname => absurd hname (not_or.mpr (h f hf))

@[simp] theorem noCellFaultAt_profilerLog {c : Controller} {addr : BitVec 64}
    {accessType : AccessType} {a : BitVec 32} :
    NoCellFaultAt (profilerLog c addr accessType).faults a ↔ NoCellFaultAt c.faults a := by
  rw [profilerLog_faults]

theorem contentFaultApplies_of_trigger {fault : Fault} (addr : BitVec 64)
    (htrigger : fault.trigger.isSome) : ∃ b, contentFaultApplies fault addr = .ok b := by
  obtain ⟨trigger, ht⟩ := Option.isSome_iff_exists.mp htrigger
  simp only [contentFaultApplies, ht, strcmp_some, ok_bind]
  split_ifs <;> exact ⟨_, rfl⟩

theorem memoryContentStep_of_not_cell {addr : BitVec 64} {accessType : AccessType}
    {c : Controller} {value : BitVec 32} {fault : Fault} (htrigger : fault.trigger.isSome)
    (hcell : ¬(fault.component = some "RAM" ∧
      (fault.target = some "MEMORY CELL" ∨ fault.target = some "R/W LOGIC"))) :
    memoryContentStep addr accessType c value fault = .ok (c, value, fault) := by
  obtain ⟨b, hb⟩ := contentFaultApplies_of_trigger addr htrigger
  unfold memoryContentStep
  rw [hb, ok_bind]
  cases b
  · rfl
  · simp only [Bool.not_true, Bool.false_eq_true, if_false]
    split
    · next component target mode hk hg hm =>
        rw [hk, hg] at hcell
        rw [if_neg (by simpa using hcell)]
        rfl
    · rfl


theorem faultInjectionControllerMemoryContent_of_noCell {c : Controller} {addr : BitVec 64}
    (value : BitVec 32) (accessType : AccessType) (h : NoCellFaultAt c.faults (addr.setWidth 32)) :
    faultInjectionControllerMemoryContent c addr value accessType = .ok (c, value) := by
  have hpass : forEachFaultListElement (memoryContentStep addr accessType) c value c.faults =
      .ok (c, value, c.faults) := by
    refine forEachFaultListElement_of_skip fun f hf _ => ?_
    by_cases hname : f.params.address = addr.setWidth 32 ∨ f.params.cfAddress = addr.setWidth 32
    · obtain ⟨htrigger, hcell⟩ := h f hf hname
      exact memoryContentStep_of_not_cell htrigger hcell
    · obtain ⟨haddr, hcf⟩ := not_or.mp hname
      exact memoryContentStep_of_miss haddr hcf
  simp [faultInjectionControllerMemoryContent, runFaultList, hpass]

theorem faultInjectionControllerInit_content_of_noCell {c : Controller} {addr : BitVec 64}
    (value : BitVec 32) (accessType : AccessType) (h : NoCellFaultAt c.faults (addr.setWidth 32)) :
    faultInjectionControllerInit c true addr value .fiMemoryContent accessType =
      .ok (profilerLog c addr accessType, addr, value) := by
  by_cases hbusy : addr = c.addressInUse
  · exact faultInjectionControllerInit_of_addressInUse hbusy
  · have hpass := @faultInjectionControllerMemoryContent_of_noCell
      (profilerLog c addr accessType) addr value accessType (noCellFaultAt_profilerLog.mpr h)
    simp only [faultInjectionControllerInit, profilerLog_addressInUse, hbusy, if_false, if_true,
      hpass]
    rfl

theorem faultInjectionControllerInit_content_of_noCell_setWidth {c : Controller} {a : BitVec 32}
    (value : BitVec 32) (accessType : AccessType) (h : NoCellFaultAt c.faults a) :
    faultInjectionControllerInit c true (a.setWidth 64) value .fiMemoryContent accessType =
      .ok (profilerLog c (a.setWidth 64) accessType, a.setWidth 64, value) :=
  faultInjectionControllerInit_content_of_noCell value accessType
    (by rw [setWidth_setWidth_widen]; exact h)

theorem faultInjectionControllerInit_addr_of_unnamed {c : Controller} {a : BitVec 32}
    (value : BitVec 32) (accessType : AccessType) (h : Unnamed c.faults a) :
    faultInjectionControllerInit c true (a.setWidth 64) value .fiMemoryAddr accessType =
      .ok (profilerLog c (a.setWidth 64) accessType, a.setWidth 64, value) :=
  faultInjectionControllerInit_addr_of_no_decoder value accessType
    fun f hf heq => absurd heq (h f hf).1

theorem helperLeLdInPage_of_noCell (size : Nat) {c : Controller} {a : BitVec 32}
    (h : NoCellFaultAt c.faults a) :
    helperLeLdInPage size c (a.setWidth 64) =
      .ok (profilerLog c (a.setWidth 64) .readAccessType, c.env.readBytes a size) := by
  simp only [helperLeLdInPage, ok_bind,
    faultInjectionControllerInit_content_of_noCell_setWidth _ _ h,
    truncBytes_readBytes, setWidth_setWidth_widen]
  rfl

theorem helperRetStb_of_unnamed {c : Controller} {addr : BitVec 32} (val : BitVec 32)
    (h : Unnamed c.faults addr) :
    helperRetStb c addr val =
      .ok { profilerLog (profilerLog c (addr.setWidth 64) .writeAccessType) (addr.setWidth 64)
              .writeAccessType with env := c.env.writeBytes addr val 1 } := by
  simp only [helperRetStb, faultInjectionControllerInit_addr_of_unnamed _ _ h, ok_bind,
    faultInjectionControllerInit_content_of_noCell_setWidth _ _
      (unnamed_profilerLog.mpr h).noCellFaultAt,
    setWidth_setWidth_widen, profilerLog_env, writeBytes_truncBytes, pure_eq_ok]

/-! ## The addresses the content hook sees

The dispatcher matches a cell fault with a call of the content hook by the
address of the call alone.  Which cells an access is matched with is therefore
the list of addresses its helper calls the content hook at. -/

/-- The addresses, in order, of the content-hook calls of a load of `size`
bytes at `a`: its own address in its page; across a page end the two aligned
words around it, then `a`. -/
def loadHookAddresses (size : Nat) (a : BitVec 32) : List (BitVec 32) :=
  if crossesPage size a then
    [a &&& ~~~BitVec.ofNat 32 (size - 1), (a &&& ~~~BitVec.ofNat 32 (size - 1)) + BitVec.ofNat 32 size,
      a]
  else [a]

/-- The addresses of the content-hook calls of a little-endian store that no
address decoder moves: its own address in its page; across a page end each
byte's address from the last byte down, twice, once in the byte loop and once
in `helper_ret_stb`. -/
def leStoreHookAddresses (size : Nat) (a : BitVec 32) : List (BitVec 32) :=
  if crossesPage size a then
    (List.range size).reverse.flatMap fun i => [a + BitVec.ofNat 32 i, a + BitVec.ofNat 32 i]
  else [a]

/-- The addresses of the content-hook calls of a big-endian store that no
address decoder moves: across a page end the byte loop passes `a` itself for
every byte, and `helper_ret_stb` the byte's own address. -/
def beStoreHookAddresses (size : Nat) (a : BitVec 32) : List (BitVec 32) :=
  if crossesPage size a then
    (List.range size).reverse.flatMap fun i => [a, a + BitVec.ofNat 32 i]
  else [a]

theorem mem_storeHookAddresses_self {size : Nat} (hsize : 0 < size) (a : BitVec 32) :
    a ∈ leStoreHookAddresses size a ∧ a ∈ beStoreHookAddresses size a := by
  unfold leStoreHookAddresses beStoreHookAddresses
  split
  · exact ⟨List.mem_flatMap.mpr ⟨0, by simpa using hsize, by simp⟩,
      List.mem_flatMap.mpr ⟨0, by simpa using hsize, by simp⟩⟩
  · simp

theorem helperLeLd_of_hookAddresses {size : Nat} {c : Controller} {a : BitVec 32}
    (hsize : DataSize size) (hcells : ∀ b ∈ loadHookAddresses size a, NoCellFaultAt c.faults b) :
    ∃ c', helperLeLd size c a = .ok (c', c.env.readBytes a size) ∧ c'.env = c.env ∧
      c'.faults = c.faults := by
  by_cases hcross : crossesPage size a
  · have hall := hcells
    simp only [loadHookAddresses, hcross, if_true, List.mem_cons, List.not_mem_nil, or_false,
      forall_eq_or_imp, forall_eq] at hall
    obtain ⟨hlow, hhigh, ha⟩ := hall
    simp only [helperLeLd, hcross, if_true, helperLeLdInPage_of_noCell size hlow, ok_bind,
      helperLeLdInPage_of_noCell size (noCellFaultAt_profilerLog.mpr hhigh), profilerLog_env,
      readBytes_combine c.env a hsize,
      faultInjectionControllerInit_content_of_noCell_setWidth _ _
        (noCellFaultAt_profilerLog.mpr (noCellFaultAt_profilerLog.mpr ha)), truncBytes_readBytes]
    exact ⟨_, rfl, by simp, by simp⟩
  · have ha : NoCellFaultAt c.faults a := hcells a (by simp [loadHookAddresses, hcross])
    simp only [helperLeLd, hcross, Bool.false_eq_true, if_false,
      helperLeLdInPage_of_noCell size ha]
    exact ⟨_, rfl, by simp, by simp⟩

/-- The byte loop of a split store: byte \`i\` goes to the content hook at
\`hook i\` and to \`helper_ret_stb\` at \`a + i\`.  Where neither address is named,
the loop writes the bytes of \`word\` and keeps the fault list. -/
theorem storeByteLoop_of_unnamed {size : Nat} {c : Controller} {a word : BitVec 32}
    (hook byte : Nat → BitVec 32) (hsize : size ≤ 4)
    (hbyte : ∀ i < size, ∀ env : Machine, env.writeBytes (a + BitVec.ofNat 32 i) (byte i) 1 =
      env.writeBytes (a + BitVec.ofNat 32 i) (word >>> (8 * i)) 1)
    (hunnamed : ∀ i < size, Unnamed c.faults (hook i) ∧ Unnamed c.faults (a + BitVec.ofNat 32 i)) :
    ∃ c', (List.range size).reverse.foldlM
        (fun c i => do
          let (c, _, val8) ← faultInjectionControllerInit c true ((hook i).setWidth 64) (byte i)
            .fiMemoryContent .writeAccessType
          helperRetStb c (a + BitVec.ofNat 32 i) val8) c = .ok c' ∧
      c'.env = c.env.writeBytes a word size ∧ c'.faults = c.faults := by
  refine (Except.foldlM_view (I := fun c₁ => c₁.faults = c.faults) (p := Controller.env)
    (g := fun env i => env.writeBytes (a + BitVec.ofNat 32 i) (word >>> (8 * i)) 1) ?_ rfl).imp
    fun c' h => ⟨h.1, by rw [h.2.1, foldl_reverse_range_writeBytes _ _ _ hsize], h.2.2⟩
  intro i hi c₁ hc₁
  have hi : i < size := by simpa using hi
  obtain ⟨hhook, haddr⟩ := hunnamed i hi
  simp only [faultInjectionControllerInit_content_of_noCell_setWidth _ _
      (hc₁ ▸ hhook : Unnamed c₁.faults (hook i)).noCellFaultAt,
    ok_bind, helperRetStb_of_unnamed _ (unnamed_profilerLog.mpr (hc₁ ▸ haddr))]
  refine ⟨_, rfl, by simpa using hc₁, ?_⟩
  simp [hbyte i hi]

theorem helperLeSt_of_hookAddresses {size : Nat} {c : Controller} {a v : BitVec 32}
    (hsize : DataSize size) (hunnamed : ∀ b ∈ leStoreHookAddresses size a, Unnamed c.faults b) :
    ∃ c', helperLeSt size c a v = .ok c' ∧ c'.env = c.env.writeBytes a v size ∧
      c'.faults = c.faults := by
  have ha : Unnamed c.faults a := hunnamed a (mem_storeHookAddresses_self hsize.pos a).1
  simp only [helperLeSt, faultInjectionControllerInit_addr_of_unnamed _ _ ha, ok_bind,
    setWidth_setWidth_widen]
  by_cases hcross : crossesPage size a
  · rw [if_pos hcross]
    have hbytes : ∀ i < size, Unnamed c.faults (a + BitVec.ofNat 32 i) := fun i hi =>
      hunnamed _ (by
        simp only [leStoreHookAddresses, hcross, if_true]
        exact List.mem_flatMap.mpr ⟨i, by simpa using hi, by simp⟩)
    obtain ⟨c', hrun, henv, hfaults⟩ :=
      storeByteLoop_of_unnamed (c := profilerLog c (a.setWidth 64) .writeAccessType)
        (fun i => a + BitVec.ofNat 32 i) (fun i => truncBytes 1 (truncBytes size v >>> (i * 8)))
        hsize.le_four (fun i hi env => writeBytes_byte_truncBytes env _ v hi)
        fun i hi => ⟨unnamed_profilerLog.mpr (hbytes i hi), unnamed_profilerLog.mpr (hbytes i hi)⟩
    exact ⟨c', hrun, by rw [henv, profilerLog_env], by rw [hfaults, profilerLog_faults]⟩
  · rw [if_neg hcross]
    simp only [faultInjectionControllerInit_content_of_noCell_setWidth _ _
        (unnamed_profilerLog.mpr ha).noCellFaultAt,
      ok_bind, pure_eq_ok, writeBytes_truncBytes, profilerLog_env]
    exact ⟨_, rfl, rfl, by simp⟩

theorem helperBeSt_of_hookAddresses {size : Nat} {c : Controller} {a v : BitVec 32}
    (hsize : DataSize size) (hunnamed : ∀ b ∈ beStoreHookAddresses size a, Unnamed c.faults b) :
    ∃ c', helperBeSt size c a v = .ok c' ∧ c'.env = c.env.writeBytes a (byteSwap size v) size ∧
      c'.faults = c.faults := by
  have ha : Unnamed c.faults a := hunnamed a (mem_storeHookAddresses_self hsize.pos a).2
  simp only [helperBeSt, faultInjectionControllerInit_addr_of_unnamed _ _ ha, ok_bind]
  by_cases hcross : crossesPage size a
  · rw [if_pos hcross]
    have hbytes : ∀ i < size, Unnamed c.faults (a + BitVec.ofNat 32 i) := fun i hi =>
      hunnamed _ (by
        simp only [beStoreHookAddresses, hcross, if_true]
        exact List.mem_flatMap.mpr ⟨i, by simpa using hi, by simp⟩)
    obtain ⟨c', hrun, henv, hfaults⟩ :=
      storeByteLoop_of_unnamed (c := profilerLog c (a.setWidth 64) .writeAccessType)
        (fun _ => a) (fun i => truncBytes 1 (truncBytes size v >>> ((size - 1) * 8 - i * 8)))
        hsize.le_four (fun i hi env => writeBytes_byte_byteSwap env _ v hsize.le_four hi)
        fun i hi => ⟨unnamed_profilerLog.mpr ha, unnamed_profilerLog.mpr (hbytes i hi)⟩
    exact ⟨c', hrun, by rw [henv, profilerLog_env], by rw [hfaults, profilerLog_faults]⟩
  · rw [if_neg hcross]
    simp only [faultInjectionControllerInit_content_of_noCell_setWidth _ _
        (unnamed_profilerLog.mpr ha).noCellFaultAt,
      ok_bind, pure_eq_ok, byteSwap_truncBytes, profilerLog_env]
    exact ⟨_, rfl, rfl, by simp⟩

def pageEdgeController : Controller :=
  Controller.loaded
    { Machine.zero with
      mem := fun b => if b = 0x3FE then 0x11 else if b = 0x3FF then 0x22
        else if b = 0x400 then 0x33 else if b = 0x401 then 0x44 else 0 }
    [Fault.permanent "ACCESS" "RAM" "MEMORY CELL" "TF0" ⟨0x100, 0x100, 1, -1, -1⟩]

/-- A load with no cell fault on the two aligned words around it reads the
`size` bytes at its address, little endian, whether it stays in its page or
runs over the end of it and is combined from the two aligned loads.  No
address-decoder fault moves it: the load helper has no address hook.  The
machine and the fault list are left as they were. -/
theorem helperLeLd_reads_bytes {size : Nat} {c : Controller} {a : BitVec 32}
    (hsize : DataSize size)
    (hcells : ∀ k < 2 * size,
      NoCellFaultAt c.faults ((a &&& ~~~BitVec.ofNat 32 (size - 1)) + BitVec.ofNat 32 k)) :
    ∃ c', helperLeLd size c a = .ok (c', c.env.readBytes a size) ∧ c'.env = c.env ∧
      c'.faults = c.faults := by
  refine helperLeLd_of_hookAddresses hsize fun b hb => ?_
  have hs : a.toNat % size < size := Nat.mod_lt _ hsize.pos
  have ha : NoCellFaultAt c.faults a := by
    simpa [hsize.align a] using hcells (a.toNat % size) (by omega)
  unfold loadHookAddresses at hb
  split at hb
  · simp only [List.mem_cons, List.not_mem_nil, or_false] at hb
    rcases hb with rfl | rfl | rfl
    · simpa using hcells 0 (by omega)
    · exact hcells size (by omega)
    · exact ha
  · rw [List.mem_singleton.mp hb]
    exact ha

def pageEdgeDecoded : Controller :=
  { pageEdgeController with
    faults :=
      Fault.permanent "ACCESS" "RAM" "ADDRESS DECODER" "NEW VALUE" ⟨0x3FE, 0, 0x100, -1, -1⟩ ::
        pageEdgeController.faults }

theorem helperLeLd_reads_bytes_across_page :
    crossesPage 4 0x3FE = true ∧
      ∃ c', helperLeLd 4 pageEdgeDecoded 0x3FE = .ok (c', 0x44332211) ∧
        c'.env = pageEdgeDecoded.env ∧ c'.faults = pageEdgeDecoded.faults := by
  have hread : pageEdgeDecoded.env.readBytes 0x3FE 4 = 0x44332211 := by decide
  refine ⟨by decide, ?_⟩
  rw [← hread]
  exact helperLeLd_reads_bytes (by decide) (by decide)

/-- A little-endian store with no fault entry on its bytes writes the value's
`size` bytes from its address: the byte loop of a store that runs over the end
of its page writes what the same-page store writes. -/
theorem helperLeSt_writes_bytes {size : Nat} {c : Controller} {a v : BitVec 32}
    (hsize : DataSize size) (hunnamed : ∀ k < size, Unnamed c.faults (a + BitVec.ofNat 32 k)) :
    ∃ c', helperLeSt size c a v = .ok c' ∧ c'.env = c.env.writeBytes a v size ∧
      c'.faults = c.faults := by
  refine helperLeSt_of_hookAddresses hsize fun b hb => ?_
  unfold leStoreHookAddresses at hb
  split at hb
  · obtain ⟨i, hi, hb⟩ := List.mem_flatMap.mp hb
    simp only [List.mem_cons, List.not_mem_nil, or_false, or_self] at hb
    exact hb ▸ hunnamed i (by simpa using hi)
  · rw [List.mem_singleton.mp hb]
    simpa using hunnamed 0 hsize.pos

theorem helperLeSt_writes_bytes_across_page :
    crossesPage 4 0x3FE = true ∧
      ∃ c', helperLeSt 4 pageEdgeController 0x3FE 0xDDCCBBAA = .ok c' ∧
        c'.env = pageEdgeController.env.writeBytes 0x3FE 0xDDCCBBAA 4 ∧
        c'.faults = pageEdgeController.faults :=
  ⟨by decide, helperLeSt_writes_bytes (by decide) (by decide)⟩

/-- A big-endian store with no fault entry on its bytes writes the
byte-swapped value from its address, on the byte loop as on the same-page
path. -/
theorem helperBeSt_writes_swapped_bytes {size : Nat} {c : Controller} {a v : BitVec 32}
    (hsize : DataSize size) (hunnamed : ∀ k < size, Unnamed c.faults (a + BitVec.ofNat 32 k)) :
    ∃ c', helperBeSt size c a v = .ok c' ∧ c'.env = c.env.writeBytes a (byteSwap size v) size ∧
      c'.faults = c.faults := by
  refine helperBeSt_of_hookAddresses hsize fun b hb => ?_
  have ha : Unnamed c.faults a := by simpa using hunnamed 0 hsize.pos
  unfold beStoreHookAddresses at hb
  split at hb
  · obtain ⟨i, hi, hb⟩ := List.mem_flatMap.mp hb
    simp only [List.mem_cons, List.not_mem_nil, or_false] at hb
    rcases hb with rfl | rfl
    · exact ha
    · exact hunnamed i (by simpa using hi)
  · rw [List.mem_singleton.mp hb]
    exact ha

theorem helperBeSt_writes_swapped_bytes_across_page :
    crossesPage 4 0x3FE = true ∧
      ∃ c', helperBeSt 4 pageEdgeController 0x3FE 0xDDCCBBAA = .ok c' ∧
        c'.env = pageEdgeController.env.writeBytes 0x3FE 0xAABBCCDD 4 ∧
        c'.faults = pageEdgeController.faults := by
  have hswap : byteSwap 4 0xDDCCBBAA = 0xAABBCCDD := by decide
  refine ⟨by decide, ?_⟩
  rw [← hswap]
  exact helperBeSt_writes_swapped_bytes (by decide) (by decide)

/-! ## Which cells an access is matched with -/

end Fies
