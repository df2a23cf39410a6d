import Mathlib.Data.BitVec

/-!
# Set bits of a mask

Bit masks are walked with the two's complement idiom

    while (mask) { bit = mask & -mask; mask ^= bit; ... }

which isolates and clears the lowest set bit on each pass.  `forEachSetBit` is
that loop, by well-founded recursion on the number of set bits, and
`forEachSetBit_eq_foldl` says what it computes: one pass per set bit, in
increasing order, with the bit `2 ^ i` in hand, so `popcount mask` passes.
The masked merge `(f & m) | (v & ~m)` that selects between a faulty and an
original word follows, and the module closes with alignment: a word masked
with `~(2 ^ m - 1)` plus its low `m` bits is the word.
-/

namespace BitMask

variable {w : Nat}

/-- `x & -x`, the lowest set bit of `x`. -/
def lowestSetBit (x : BitVec w) : BitVec w := x &&& -x

theorem getLsbD_lowestSetBit (x : BitVec w) (i : Nat) :
    (lowestSetBit x).getLsbD i =
      (x.getLsbD i && !decide (∃ j < i, x.getLsbD j = true)) := by
  unfold lowestSetBit
  rw [BitVec.getLsbD_and, BitVec.getLsbD_neg]
  by_cases hi : i < w
  · cases hx : x.getLsbD i <;> simp [hi]
  · simp [BitVec.getLsbD_of_ge x i (by omega)]

/-- The indices of the set bits of `x`, in increasing order. -/
def setBits (x : BitVec w) : List Nat := (List.range w).filter (fun i => x.getLsbD i)

theorem mem_setBits {x : BitVec w} {i : Nat} :
    i ∈ setBits x ↔ i < w ∧ x.getLsbD i = true := by
  simp [setBits]

theorem setBits_pairwise (x : BitVec w) : (setBits x).Pairwise (· < ·) :=
  List.pairwise_lt_range.filter _

def popcount (x : BitVec w) : Nat := (List.range w).countP fun i => x.getLsbD i

theorem length_setBits (x : BitVec w) : (setBits x).length = popcount x :=
  List.countP_eq_length_filter.symm

theorem setBits_eq_nil_iff {x : BitVec w} : setBits x = [] ↔ x = 0 := by
  constructor
  · intro h
    apply BitVec.eq_of_getLsbD_eq
    intro i hi
    have hmem : i ∉ setBits x := by simp [h]
    rw [mem_setBits] at hmem
    simpa [hi] using hmem
  · rintro rfl
    simp [setBits]

theorem lowestSetBit_of_setBits_eq_cons {x : BitVec w} {k : Nat} {t : List Nat}
    (h : setBits x = k :: t) : lowestSetBit x = BitVec.twoPow w k := by
  have hk : k < w ∧ x.getLsbD k = true := mem_setBits.mp (by simp [h])
  have hsorted := setBits_pairwise x
  rw [h, List.pairwise_cons] at hsorted
  have habove : ∀ j, x.getLsbD j = true → j ≠ k → k < j := by
    intro j hj hne
    have hjw : j < w := by
      by_contra hge
      simp [BitVec.getLsbD_of_ge x j (by omega)] at hj
    have hmem : j ∈ k :: t := h ▸ mem_setBits.mpr ⟨hjw, hj⟩
    rcases List.mem_cons.mp hmem with heq | ht
    · exact absurd heq hne
    · exact hsorted.1 j ht
  apply BitVec.eq_of_getLsbD_eq
  intro i hi
  rw [getLsbD_lowestSetBit, BitVec.getLsbD_twoPow]
  by_cases hik : i = k
  · subst hik
    have hnone : ¬ ∃ j < i, x.getLsbD j = true := by
      rintro ⟨j, hj, hxj⟩
      have := habove j hxj (by omega)
      omega
    simp [hk.2, hk.1, hnone]
  · have hne : ¬ k = i := fun e => hik e.symm
    cases hxi : x.getLsbD i with
    | false => simp [hne]
    | true =>
        have hlt := habove i hxi hik
        have hlow : ∃ j < i, x.getLsbD j = true := ⟨k, hlt, hk.2⟩
        simp [hlow, hne]

theorem setBits_xor_twoPow_of_eq_cons {x : BitVec w} {k : Nat} {t : List Nat}
    (h : setBits x = k :: t) : setBits (x ^^^ BitVec.twoPow w k) = t := by
  have hk : k < w ∧ x.getLsbD k = true := mem_setBits.mp (by simp [h])
  have hsorted := setBits_pairwise x
  rw [h, List.pairwise_cons] at hsorted
  have hstep : setBits (x ^^^ BitVec.twoPow w k) = (setBits x).filter (fun i => i ≠ k) := by
    unfold setBits
    rw [List.filter_filter]
    apply List.filter_congr
    intro i _
    rw [BitVec.getLsbD_xor, BitVec.getLsbD_twoPow]
    by_cases hik : i = k
    · subst hik
      simp [hk.2, hk.1]
    · have hne : ¬ k = i := fun e => hik e.symm
      simp [hne, hik]
  rw [hstep, h, List.filter_cons_of_neg (by simp)]
  apply List.filter_eq_self.mpr
  intro j hj
  have := hsorted.1 j hj
  simp only [ne_eq, decide_eq_true_eq]
  omega

theorem setBits_length_xor_lowestSetBit {x : BitVec w} (hx : x ≠ 0) :
    (setBits (x ^^^ lowestSetBit x)).length < (setBits x).length := by
  obtain ⟨k, t, h⟩ : ∃ k t, setBits x = k :: t := by
    cases hs : setBits x with
    | nil => exact absurd (setBits_eq_nil_iff.mp hs) hx
    | cons k t => exact ⟨k, t, rfl⟩
  rw [lowestSetBit_of_setBits_eq_cons h, setBits_xor_twoPow_of_eq_cons h, h]
  simp

/-- The loop `while (mask) { bit = mask & -mask; mask ^= bit; s = body(s, bit); }`. -/
def forEachSetBit {σ : Type} (body : σ → BitVec w → σ) (mask : BitVec w) (s : σ) : σ :=
  if mask = 0 then s
  else forEachSetBit body (mask ^^^ lowestSetBit mask) (body s (lowestSetBit mask))
termination_by (setBits mask).length
decreasing_by exact setBits_length_xor_lowestSetBit ‹_›

theorem forEachSetBit_eq_foldl {σ : Type} (body : σ → BitVec w → σ) (mask : BitVec w) (s : σ) :
    forEachSetBit body mask s =
      (setBits mask).foldl (fun s i => body s (BitVec.twoPow w i)) s := by
  fun_induction forEachSetBit body mask s with
  | case1 s =>
      rw [setBits_eq_nil_iff.mpr rfl]
      rfl
  | case2 mask s hmask ih =>
      obtain ⟨k, t, h⟩ : ∃ k t, setBits mask = k :: t := by
        cases hs : setBits mask with
        | nil => exact absurd (setBits_eq_nil_iff.mp hs) hmask
        | cons k t => exact ⟨k, t, rfl⟩
      rw [ih, lowestSetBit_of_setBits_eq_cons h, setBits_xor_twoPow_of_eq_cons h, h]
      rfl

theorem forEachSetBit_count (mask : BitVec w) :
    forEachSetBit (fun (n : Nat) _ => n + 1) mask 0 = popcount mask := by
  rw [forEachSetBit_eq_foldl, ← length_setBits]
  simp

theorem forEachSetBit_invariant {σ : Type} (I : σ → Prop) (body : σ → BitVec w → σ)
    (mask : BitVec w) {s : σ} (h0 : I s) (hbody : ∀ s b, I s → I (body s b)) :
    I (forEachSetBit body mask s) := by
  rw [forEachSetBit_eq_foldl]
  induction setBits mask generalizing s with
  | nil => exact h0
  | cons i bits ih => exact ih (hbody s _ h0)

theorem getLsbD_foldl_pointwise {σ : Type} {n : Nat} (get : σ → BitVec n) (I : σ → Prop)
    (step : σ → Nat → σ) (g : Nat → Bool → Bool) (bits : List Nat) (hnodup : bits.Nodup)
    (hI : ∀ s, ∀ i ∈ bits, I s → I (step s i))
    (hstep : ∀ s, I s → ∀ i ∈ bits, ∀ j,
      (get (step s i)).getLsbD j = if j = i then g i ((get s).getLsbD i) else (get s).getLsbD j)
    (s : σ) (hs : I s) (j : Nat) :
    (get (bits.foldl step s)).getLsbD j =
      if j ∈ bits then g j ((get s).getLsbD j) else (get s).getLsbD j := by
  induction bits generalizing s with
  | nil => simp
  | cons i bits ih =>
      obtain ⟨hi, hnodup⟩ := List.nodup_cons.mp hnodup
      rw [List.foldl_cons, ih hnodup (fun s k hk => hI s k (List.mem_cons_of_mem i hk))
        (fun s hs k hk => hstep s hs k (List.mem_cons_of_mem i hk)) _
        (hI s i List.mem_cons_self hs), hstep s hs i List.mem_cons_self]
      by_cases hj : j ∈ bits
      · have hji : j ≠ i := fun h => hi (h ▸ hj)
        simp [hj, hji]
      · by_cases hji : j = i
        · subst hji
          simp [hj]
        · simp [hj, hji]

theorem getLsbD_forEachSetBit {σ : Type} {n : Nat} (get : σ → BitVec n) (I : σ → Prop)
    (body : σ → BitVec w → σ) (mask : BitVec w) (g : Nat → Bool → Bool)
    (hI : ∀ s b, I s → I (body s b))
    (hbody : ∀ s, I s → ∀ i, i < w → mask.getLsbD i = true → ∀ j,
      (get (body s (BitVec.twoPow w i))).getLsbD j =
        if j = i then g i ((get s).getLsbD i) else (get s).getLsbD j)
    (s : σ) (hs : I s) (j : Nat) :
    (get (forEachSetBit body mask s)).getLsbD j =
      if j < w ∧ mask.getLsbD j = true then g j ((get s).getLsbD j) else (get s).getLsbD j := by
  rw [forEachSetBit_eq_foldl]
  have hnodup : (setBits mask).Nodup := (setBits_pairwise mask).imp (fun h => Nat.ne_of_lt h)
  rw [getLsbD_foldl_pointwise get I _ g _ hnodup (fun s _ _ hs => hI s _ hs)
    (fun s hs i hi => hbody s hs i (mem_setBits.mp hi).1 (mem_setBits.mp hi).2) s hs j]
  simp only [mem_setBits]

@[simp] theorem forEachSetBit_zero {σ : Type} (body : σ → BitVec w → σ) (s : σ) :
    forEachSetBit body 0 s = s := by
  rw [forEachSetBit_eq_foldl, (setBits_eq_nil_iff (x := (0 : BitVec w))).mpr rfl]
  rfl

/-- `log2` of a power of two: the index of its bit. -/
def bitIndex (x : BitVec w) : Nat := x.toNat.log2

theorem bitIndex_twoPow {i : Nat} (hi : i < w) : bitIndex (BitVec.twoPow w i) = i := by
  unfold bitIndex
  rw [BitVec.toNat_twoPow_of_lt hi, Nat.log2_two_pow]

/-! ## Testing one bit -/

theorem and_twoPow_ne_zero {x : BitVec w} {i : Nat} (hi : i < w) :
    (x &&& BitVec.twoPow w i ≠ 0) ↔ x.getLsbD i = true := by
  rw [BitVec.and_twoPow]
  have hnz : BitVec.twoPow w i ≠ 0#w := by
    intro hzero
    have hbit := congrArg (fun bits => bits.getLsbD i) hzero
    simp [hi] at hbit
  cases x.getLsbD i
  · simp
  · simpa using hnz

theorem decide_and_twoPow_ne_zero {x : BitVec w} {i : Nat} (hi : i < w) :
    decide (x &&& BitVec.twoPow w i ≠ 0) = x.getLsbD i := by
  rw [Bool.eq_iff_iff, decide_eq_true_iff, and_twoPow_ne_zero hi]

theorem ushiftRight_and_one_ne_zero (x : BitVec w) (i : Nat) (hw : 0 < w) :
    (x >>> i) &&& 1 ≠ 0 ↔ x.getLsbD i = true := by
  have hword : (x >>> i) &&& 1 = if x.getLsbD i then 1 else 0 := by
    apply BitVec.eq_of_getLsbD_eq
    intro k hk
    by_cases hk0 : k = 0
    · subst hk0
      cases hx : x.getLsbD i <;> simp [hw, hx]
    · cases hx : x.getLsbD i <;> simp [hk0]
  have hone : (1 : BitVec w) ≠ 0 := by
    intro h
    have := congrArg (fun v => v.getLsbD 0) h
    simp [hw] at this
  rw [hword]
  cases hx : x.getLsbD i
  · simp
  · simpa using hone

theorem ite_getLsbD_and_not_or_eq_xor (x : BitVec w) (i : Nat) :
    (if x.getLsbD i = true then x &&& ~~~BitVec.twoPow w i else x ||| BitVec.twoPow w i) =
      x ^^^ BitVec.twoPow w i := by
  apply BitVec.eq_of_getLsbD_eq
  intro k hk
  by_cases hki : i = k
  · subst hki
    split <;> simp_all
  · have hik : k ≠ i := fun h => hki h.symm
    split <;> simp [hik, hk]

/-! ## Masked merge -/

/-- `(fault & mask) | (value & ~mask)`: the faulty word where the mask is set,
the original one elsewhere. -/
def merge (fault mask value : BitVec w) : BitVec w :=
  (fault &&& mask) ||| (value &&& ~~~mask)

@[simp] theorem getLsbD_merge (fault mask value : BitVec w) (i : Nat) :
    (merge fault mask value).getLsbD i =
      if mask.getLsbD i then fault.getLsbD i else value.getLsbD i := by
  unfold merge
  rw [BitVec.getLsbD_or, BitVec.getLsbD_and, BitVec.getLsbD_and, BitVec.getLsbD_not]
  by_cases hi : i < w
  · cases hm : mask.getLsbD i <;> simp [hi]
  · simp [BitVec.getLsbD_of_ge _ i (Nat.le_of_not_lt hi)]

theorem merge_merge (fault mask value : BitVec w) :
    merge fault mask (merge fault mask value) = merge fault mask value := by
  apply BitVec.eq_of_getLsbD_eq
  intro i _
  simp only [getLsbD_merge]
  split <;> rfl

theorem setWidth_merge (fault mask value : BitVec w) (n : Nat) :
    (merge fault mask value).setWidth n =
      merge (fault.setWidth n) (mask.setWidth n) (value.setWidth n) := by
  apply BitVec.eq_of_getLsbD_eq
  intro i hi
  simp only [getLsbD_merge, BitVec.getLsbD_setWidth, hi, decide_true, Bool.true_and]

/-! ## Loops that flip or merge a mask -/

theorem forEachSetBit_xor {σ : Type} {n : Nat} (get : σ → BitVec n) (I : σ → Prop)
    (body : σ → BitVec w → σ) (mask : BitVec w) (hI : ∀ s b, I s → I (body s b))
    (hbody : ∀ s, I s → ∀ i, i < w → mask.getLsbD i = true →
      get (body s (BitVec.twoPow w i)) = get s ^^^ BitVec.twoPow n i)
    (s : σ) (hs : I s) :
    get (forEachSetBit body mask s) = get s ^^^ mask.setWidth n := by
  have hpass : ∀ s, I s → ∀ i, i < w → mask.getLsbD i = true → ∀ k,
      (get (body s (BitVec.twoPow w i))).getLsbD k =
        if k = i then ((get s).getLsbD i ^^ decide (i < n)) else (get s).getLsbD k := by
    intro s hs i hi hmi k
    rw [hbody s hs i hi hmi, BitVec.getLsbD_xor, BitVec.getLsbD_twoPow]
    by_cases hki : k = i
    · subst hki
      simp
    · have hik : i ≠ k := fun h => hki h.symm
      simp [hki, hik]
  apply BitVec.eq_of_getLsbD_eq
  intro j hj
  rw [getLsbD_forEachSetBit get I body mask (fun i b => b ^^ decide (i < n)) hI hpass s hs j,
    BitVec.getLsbD_xor,
    BitVec.getLsbD_setWidth]
  by_cases hm : j < w ∧ mask.getLsbD j = true
  · rw [if_pos hm, hm.2]
    simp [hj]
  · have hmj : mask.getLsbD j = false := by
      by_cases hjw : j < w
      · simpa [hjw] using hm
      · exact BitVec.getLsbD_of_ge mask j (by omega)
    simp [hmj]

theorem forEachSetBit_merge {σ : Type} {n : Nat} (get : σ → BitVec n) (I : σ → Prop)
    (body : σ → BitVec w → σ) (mask setBit : BitVec w) (hI : ∀ s b, I s → I (body s b))
    (hbody : ∀ s, I s → ∀ i, i < w → mask.getLsbD i = true →
      get (body s (BitVec.twoPow w i)) =
        if setBit.getLsbD i then get s ||| BitVec.twoPow n i else get s &&& ~~~BitVec.twoPow n i)
    (s : σ) (hs : I s) :
    get (forEachSetBit body mask s) = merge (setBit.setWidth n) (mask.setWidth n) (get s) := by
  have hpass : ∀ s, I s → ∀ i, i < w → mask.getLsbD i = true → ∀ k,
      (get (body s (BitVec.twoPow w i))).getLsbD k =
        if k = i then (if i < n then setBit.getLsbD i else (get s).getLsbD i)
        else (get s).getLsbD k := by
    intro s hs i hi hmi k
    rw [hbody s hs i hi hmi]
    by_cases hki : k = i
    · subst hki
      by_cases hkn : k < n <;> split <;> simp_all
    · by_cases hkn : k < n
      · split <;> simp [hki, hkn]
      · rw [if_neg hki, BitVec.getLsbD_of_ge (get s) k (by omega)]
        split <;> exact BitVec.getLsbD_of_ge _ k (by omega)
  apply BitVec.eq_of_getLsbD_eq
  intro j hj
  rw [getLsbD_forEachSetBit get I body mask
    (fun i b => if i < n then setBit.getLsbD i else b) hI hpass s hs j, getLsbD_merge,
    BitVec.getLsbD_setWidth, BitVec.getLsbD_setWidth]
  by_cases hm : j < w ∧ mask.getLsbD j = true
  · simp [hm.1, hm.2, hj]
  · have hmj : mask.getLsbD j = false := by
      by_cases hjw : j < w
      · simpa [hjw] using hm
      · exact BitVec.getLsbD_of_ge mask j (by omega)
    simp [hmj]

/-! ## Alignment -/

theorem and_not_add_mod (x : BitVec w) {m : Nat} (hm : m ≤ w) :
    (x &&& ~~~BitVec.ofNat w (2 ^ m - 1)) + BitVec.ofNat w (x.toNat % 2 ^ m) = x := by
  have hpow : 2 ^ m ≤ 2 ^ w := Nat.pow_le_pow_right (by omega) hm
  have hlow : BitVec.ofNat w (x.toNat % 2 ^ m) = x &&& BitVec.ofNat w (2 ^ m - 1) := by
    apply BitVec.eq_of_toNat_eq
    have hmod : x.toNat % 2 ^ m < 2 ^ w := lt_of_lt_of_le (Nat.mod_lt _ (Nat.two_pow_pos m)) hpow
    rw [BitVec.toNat_ofNat, Nat.mod_eq_of_lt hmod, BitVec.toNat_and, BitVec.toNat_ofNat,
      Nat.mod_eq_of_lt (show 2 ^ m - 1 < 2 ^ w by omega), Nat.and_two_pow_sub_one_eq_mod]
  have hdisjoint :
      (x &&& ~~~BitVec.ofNat w (2 ^ m - 1)) &&& (x &&& BitVec.ofNat w (2 ^ m - 1)) = 0 := by
    ext i hi
    simp only [BitVec.getElem_and, BitVec.getElem_not]
    cases x[i] <;> cases (BitVec.ofNat w (2 ^ m - 1))[i] <;> simp
  rw [hlow, BitVec.add_eq_or_of_and_eq_zero _ _ hdisjoint]
  ext i hi
  simp only [BitVec.getElem_and, BitVec.getElem_not, BitVec.getElem_or]
  cases x[i] <;> cases (BitVec.ofNat w (2 ^ m - 1))[i] <;> rfl

end BitMask
