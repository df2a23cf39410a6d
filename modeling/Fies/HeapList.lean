import Mathlib.Data.Finset.Card

/-!
# Singly linked lists in a heap

A heap of cells, each a value and the address of the next cell, with `malloc`
handing out addresses from `fresh` on, above every block ever allocated.  A
chain from an address is the list of cells reached by following the links
until NULL; `Heap.Linked` adds that no address repeats.

The loops C code runs over such a list are `Heap.walk`, a fold along the
links, and `Heap.freeChain`, which frees the list cell by cell.  Both take a
bound on the number of cells they visit and give `none` when a link leads to
no block or the bound runs out; on a linked chain of a bounded heap the bound
`fresh` always suffices.
-/

namespace HeapList

/-- A heap block: a value and the link to the next block, `none` for NULL. -/
structure Cell (α : Type) where
  value : α
  next : Option Nat
  deriving DecidableEq, Repr

/-- The blocks of a heap, `none` where no block is allocated, and the address
`malloc` returns next. -/
structure Heap (α : Type) where
  blocks : Nat → Option (Cell α)
  fresh : Nat

variable {α β : Type}

namespace Heap

def empty : Heap α := ⟨fun _ => none, 0⟩

/-- `malloc` of a cell holding `v` with a NULL link. -/
def alloc (h : Heap α) (v : α) : Heap α × Nat :=
  ({ blocks := Function.update h.blocks h.fresh (some ⟨v, none⟩), fresh := h.fresh + 1 }, h.fresh)

/-- `p->next = q`; `none` when `p` is no block. -/
def setNext (h : Heap α) (p : Nat) (q : Option Nat) : Option (Heap α) := do
  let cell ← h.blocks p
  pure { h with blocks := Function.update h.blocks p (some { cell with next := q }) }

/-- `free(p)`. -/
def free (h : Heap α) (p : Nat) : Heap α :=
  { h with blocks := Function.update h.blocks p none }

/-- `while (p != NULL) { b = f(b, p, p->value); p = p->next; }`, visiting at most
`fuel` cells. -/
def walk (h : Heap α) (f : β → Nat → α → β) : Nat → Option Nat → β → Option β
  | _, none, b => some b
  | 0, some _, _ => none
  | fuel + 1, some p, b => do
      let cell ← h.blocks p
      h.walk f fuel cell.next (f b p cell.value)

/-- `while ((p = head)) { head = p->next; free(p); }`, freeing at most `fuel`
cells. -/
def freeChain (h : Heap α) : Nat → Option Nat → Option (Heap α)
  | _, none => some h
  | 0, some _ => none
  | fuel + 1, some p => do
      let cell ← h.blocks p
      (h.free p).freeChain fuel cell.next

def Bounded (h : Heap α) : Prop :=
  ∀ q, h.fresh ≤ q → h.blocks q = none

/-- The cells (address and value) reached from `p` by following the links,
up to NULL. -/
def Chain (h : Heap α) : Option Nat → List (Nat × α) → Prop
  | none, [] => True
  | some p, (q, v) :: cells => p = q ∧ ∃ next, h.blocks p = some ⟨v, next⟩ ∧ h.Chain next cells
  | _, _ => False

@[simp] theorem chain_none_nil (h : Heap α) : h.Chain none [] := trivial

@[simp] theorem chain_none_cons (h : Heap α) (c : Nat × α) (cells : List (Nat × α)) :
    ¬h.Chain none (c :: cells) := id

@[simp] theorem chain_some_nil (h : Heap α) (p : Nat) : ¬h.Chain (some p) [] := id

theorem chain_nil_iff {h : Heap α} {p : Option Nat} : h.Chain p [] ↔ p = none := by
  cases p with
  | none => simp
  | some p => simp

theorem chain_cons_iff {h : Heap α} {p : Option Nat} {q : Nat} {v : α} {cells : List (Nat × α)} :
    h.Chain p ((q, v) :: cells) ↔
      p = some q ∧ ∃ next, h.blocks q = some ⟨v, next⟩ ∧ h.Chain next cells := by
  cases p with
  | none => simp
  | some p =>
      constructor
      · rintro ⟨rfl, hrest⟩
        exact ⟨rfl, hrest⟩
      · rintro ⟨hp, hrest⟩
        cases hp
        exact ⟨rfl, hrest⟩

/-- A chain without repeated addresses: a list the C loops can walk and free. -/
structure Linked (h : Heap α) (p : Option Nat) (cells : List (Nat × α)) : Prop where
  chain : h.Chain p cells
  nodup : (cells.map Prod.fst).Nodup

/-! ## Frames -/

theorem Chain.update {h : Heap α} {p : Option Nat} {cells : List (Nat × α)}
    (hchain : h.Chain p cells) {q : Nat} (hq : q ∉ cells.map Prod.fst) (x : Option (Cell α))
    (fresh : Nat) : Heap.Chain ⟨Function.update h.blocks q x, fresh⟩ p cells := by
  induction cells generalizing p with
  | nil => exact chain_nil_iff.mpr (chain_nil_iff.mp hchain)
  | cons c cells ih =>
      obtain ⟨r, v⟩ := c
      obtain ⟨rfl, next, hblock, hrest⟩ := chain_cons_iff.mp hchain
      have hne : r ≠ q := fun h => hq (h ▸ List.mem_cons_self)
      refine chain_cons_iff.mpr ⟨rfl, next, ?_, ih hrest fun hmem => hq (List.mem_cons_of_mem _ hmem)⟩
      simp [Function.update_of_ne hne, hblock]

theorem Chain.eq_none_of_nil {h : Heap α} {p : Option Nat} (hchain : h.Chain p []) :
    p = none :=
  chain_nil_iff.mp hchain

theorem Chain.eq_nil_of_none {h : Heap α} {cells : List (Nat × α)} (hchain : h.Chain none cells) :
    cells = [] := by
  cases cells with
  | nil => rfl
  | cons c cells => exact absurd hchain (chain_none_cons h c cells)

theorem Chain.block_of_mem {h : Heap α} {p : Option Nat} {cells : List (Nat × α)}
    (hchain : h.Chain p cells) {c : Nat × α} (hc : c ∈ cells) :
    ∃ next, h.blocks c.1 = some ⟨c.2, next⟩ := by
  induction cells generalizing p with
  | nil => simp at hc
  | cons d cells ih =>
      obtain ⟨r, v⟩ := d
      obtain ⟨-, next, hblock, hrest⟩ := chain_cons_iff.mp hchain
      rcases List.mem_cons.mp hc with rfl | hc
      · exact ⟨next, hblock⟩
      · exact ih hrest hc

theorem Chain.blocks_isSome {h : Heap α} {p : Option Nat} {cells : List (Nat × α)}
    (hchain : h.Chain p cells) : ∀ c ∈ cells, (h.blocks c.1).isSome := by
  intro c hc
  obtain ⟨next, hblock⟩ := hchain.block_of_mem hc
  simp [hblock]

theorem Chain.lt_fresh {h : Heap α} {p : Option Nat} {cells : List (Nat × α)}
    (hchain : h.Chain p cells) (hbounded : h.Bounded) : ∀ c ∈ cells, c.1 < h.fresh := by
  intro c hc
  by_contra hge
  have hnone := hbounded c.1 (Nat.le_of_not_lt hge)
  have hsome := hchain.blocks_isSome c hc
  simp [hnone] at hsome

theorem Linked.length_le {h : Heap α} {p : Option Nat} {cells : List (Nat × α)}
    (hlinked : h.Linked p cells) (hbounded : h.Bounded) : cells.length ≤ h.fresh := by
  have hsub : (cells.map Prod.fst).toFinset ⊆ Finset.range h.fresh := by
    intro q hq
    obtain ⟨c, hc, rfl⟩ := List.mem_map.mp (List.mem_toFinset.mp hq)
    exact Finset.mem_range.mpr (hlinked.chain.lt_fresh hbounded c hc)
  calc cells.length = (cells.map Prod.fst).length := (List.length_map _).symm
    _ = (cells.map Prod.fst).toFinset.card := (List.toFinset_card_of_nodup hlinked.nodup).symm
    _ ≤ (Finset.range h.fresh).card := Finset.card_le_card hsub
    _ = h.fresh := Finset.card_range _

/-! ## Allocation and the tail link -/

theorem bounded_empty : (empty : Heap α).Bounded := fun _ _ => rfl

theorem Bounded.alloc {h : Heap α} (hbounded : h.Bounded) (v : α) : (h.alloc v).1.Bounded := by
  intro q hq
  have hne : q ≠ h.fresh := by
    simp only [Heap.alloc] at hq
    omega
  simp only [Heap.alloc, Function.update_of_ne hne]
  exact hbounded q (by simp only [Heap.alloc] at hq; omega)

@[simp] theorem alloc_blocks (h : Heap α) (v : α) (q : Nat) :
    (h.alloc v).1.blocks q = if q = h.fresh then some ⟨v, none⟩ else h.blocks q := by
  simp [Heap.alloc, Function.update_apply]

@[simp] theorem alloc_fresh (h : Heap α) (v : α) : (h.alloc v).2 = h.fresh := rfl

theorem isSome_blocks_of_setNext {h h' : Heap α} {p : Nat} {q : Option Nat}
    (hset : h.setNext p q = some h') (r : Nat) : (h'.blocks r).isSome = (h.blocks r).isSome := by
  unfold Heap.setNext at hset
  obtain ⟨cell, hcell, hpure⟩ := Option.bind_eq_some_iff.mp hset
  injection hpure with hpure
  subst hpure
  by_cases hr : r = p
  · subst hr
    simp [hcell]
  · simp [Function.update_of_ne hr]

theorem Bounded.free {h : Heap α} (hbounded : h.Bounded) (p : Nat) : (h.free p).Bounded := by
  intro q hq
  by_cases hqp : q = p
  · subst hqp
    simp [Heap.free]
  · simp only [Heap.free, Function.update_of_ne hqp]
    exact hbounded q hq

theorem Bounded.setNext {h h' : Heap α} (hbounded : h.Bounded) {p : Nat} {q : Option Nat}
    (hset : h.setNext p q = some h') : h'.Bounded := by
  unfold Heap.setNext at hset
  obtain ⟨cell, hcell, hpure⟩ := Option.bind_eq_some_iff.mp hset
  injection hpure with hpure
  subst hpure
  intro r hr
  have hne : r ≠ p := by
    rintro rfl
    simp [hbounded r hr] at hcell
  simp only [Function.update_of_ne hne]
  exact hbounded r hr

theorem Chain.fresh_notMem {h : Heap α} {p : Option Nat} {cells : List (Nat × α)}
    (hchain : h.Chain p cells) (hbounded : h.Bounded) : h.fresh ∉ cells.map Prod.fst := by
  intro hmem
  obtain ⟨c, hc, hfst⟩ := List.mem_map.mp hmem
  have := hchain.lt_fresh hbounded c hc
  omega

theorem Linked.alloc {h : Heap α} {p : Option Nat} {cells : List (Nat × α)}
    (hlinked : h.Linked p cells) (hbounded : h.Bounded) (v : α) :
    (h.alloc v).1.Linked p cells :=
  ⟨hlinked.chain.update (hlinked.chain.fresh_notMem hbounded) _ _, hlinked.nodup⟩

theorem linked_alloc_single (h : Heap α) (v : α) :
    (h.alloc v).1.Linked (some (h.alloc v).2) [((h.alloc v).2, v)] :=
  ⟨⟨rfl, none, by simp [Heap.alloc], trivial⟩, List.nodup_singleton _⟩

theorem Chain.setNext_last {h : Heap α} {p : Option Nat} {cells : List (Nat × α)} {t : Nat}
    {w : α} (hchain : h.Chain p (cells ++ [(t, w)]))
    (hnotin : t ∉ cells.map Prod.fst) {q : Option Nat} {more : List (Nat × α)}
    (hmore : h.Chain q more) (hdisjoint : t ∉ more.map Prod.fst) :
    ∃ h', h.setNext t q = some h' ∧ h'.Chain p (cells ++ (t, w) :: more) := by
  have hblock : ∃ next, h.blocks t = some ⟨w, next⟩ := by
    induction cells generalizing p with
    | nil =>
        obtain ⟨-, next, hb, -⟩ := chain_cons_iff.mp hchain
        exact ⟨next, hb⟩
    | cons c cells ih =>
        obtain ⟨r, v⟩ := c
        obtain ⟨-, next, -, hrest⟩ := chain_cons_iff.mp hchain
        exact ih hrest fun hmem => hnotin (List.mem_cons_of_mem _ hmem)
  obtain ⟨next, hb⟩ := hblock
  refine ⟨{ h with blocks := Function.update h.blocks t (some ⟨w, q⟩) }, by simp [Heap.setNext, hb],
    ?_⟩
  induction cells generalizing p with
  | nil =>
      obtain ⟨rfl, -, -, -⟩ := chain_cons_iff.mp hchain
      exact chain_cons_iff.mpr ⟨rfl, q, by simp, hmore.update hdisjoint _ _⟩
  | cons c cells ih =>
      obtain ⟨r, v⟩ := c
      obtain ⟨rfl, next', hb', hrest⟩ := chain_cons_iff.mp hchain
      have hne : r ≠ t := fun h => hnotin (h ▸ List.mem_cons_self)
      exact chain_cons_iff.mpr ⟨rfl, next', by simp [Function.update_of_ne hne, hb'],
        ih hrest (fun hmem => hnotin (List.mem_cons_of_mem _ hmem))⟩

theorem Bounded.freeChain {h h' : Heap α} (hbounded : h.Bounded) {fuel : Nat} {p : Option Nat}
    (hfree : h.freeChain fuel p = some h') : h'.Bounded := by
  induction fuel generalizing h p with
  | zero =>
      cases p with
      | none =>
          cases hfree
          exact hbounded
      | some p => cases hfree
  | succ fuel ih =>
      cases p with
      | none =>
          cases hfree
          exact hbounded
      | some p =>
          simp only [Heap.freeChain, Option.bind_eq_bind] at hfree
          obtain ⟨cell, -, hrest⟩ := Option.bind_eq_some_iff.mp hfree
          exact ih (hbounded.free p) hrest

/-! ## The two loops -/

theorem walk_of_chain (h : Heap α) (f : β → Nat → α → β) {p : Option Nat}
    {cells : List (Nat × α)} (hchain : h.Chain p cells) {fuel : Nat}
    (hfuel : cells.length ≤ fuel) (b : β) :
    h.walk f fuel p b = some (cells.foldl (fun b c => f b c.1 c.2) b) := by
  induction cells generalizing p fuel b with
  | nil =>
      rw [chain_nil_iff.mp hchain]
      cases fuel <;> rfl
  | cons c cells ih =>
      obtain ⟨r, v⟩ := c
      obtain ⟨rfl, next, hblock, hrest⟩ := chain_cons_iff.mp hchain
      obtain ⟨fuel, rfl⟩ : ∃ k, fuel = k + 1 :=
        Nat.exists_eq_succ_of_ne_zero (by simp at hfuel; omega)
      simp only [Heap.walk, hblock, Option.bind_eq_bind, Option.bind_some, List.foldl_cons]
      exact ih hrest (by simp at hfuel; omega) _

theorem freeChain_of_linked {h : Heap α} {p : Option Nat} {cells : List (Nat × α)}
    (hlinked : h.Linked p cells) {fuel : Nat} (hfuel : cells.length ≤ fuel) :
    ∃ h', h.freeChain fuel p = some h' ∧ h'.fresh = h.fresh ∧
      ∀ q, h'.blocks q = if q ∈ cells.map Prod.fst then none else h.blocks q := by
  obtain ⟨hchain, hnodup⟩ := hlinked
  induction cells generalizing h p fuel with
  | nil =>
      rw [chain_nil_iff.mp hchain]
      exact ⟨h, by cases fuel <;> rfl, rfl, fun q => by simp⟩
  | cons c cells ih =>
      obtain ⟨r, v⟩ := c
      obtain ⟨rfl, next, hblock, hrest⟩ := chain_cons_iff.mp hchain
      obtain ⟨hr, hnodup'⟩ := List.nodup_cons.mp hnodup
      obtain ⟨fuel, rfl⟩ : ∃ k, fuel = k + 1 :=
        Nat.exists_eq_succ_of_ne_zero (by simp at hfuel; omega)
      have hrest' : (h.free r).Chain next cells := hrest.update hr none h.fresh
      obtain ⟨h', hfree, hfresh, hblocks⟩ := ih (by simp at hfuel; omega) hrest' hnodup'
      refine ⟨h', ?_, hfresh, fun q => ?_⟩
      · simp only [Heap.freeChain, hblock, Option.bind_eq_bind, Option.bind_some]
        exact hfree
      · rw [hblocks q]
        by_cases hqr : q = r
        · subst hqr
          simp [Heap.free]
        · have hmem : q ∈ ((r, v) :: cells).map Prod.fst ↔ q ∈ cells.map Prod.fst := by
            simp only [List.map_cons, List.mem_cons, hqr, false_or]
          simp only [Heap.free, Function.update_of_ne hqr, hmem]

end Heap

end HeapList
