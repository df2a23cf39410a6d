import Fies.FaultLibrary
import Fies.HeapList

/-!
# The fault list in the heap

`fault-injection-library.c` keeps the loaded faults in a singly linked list of
`malloc`ed cells and three globals: `head`, `curr`, the cell
`add_to_fault_list` links the next one to, and `num_list_elements`.
`delete_fault_list` frees the cells from `head` on and clears `head` and the
count, but leaves `curr` at a freed cell; `add_to_fault_list` follows `curr`
only when `head` is set.

`Represents s cells` ties the globals to the cells of the chain from `head`.
It holds initially and every list function keeps it; under it
`getNumFaultListElements` and `getFaultListElement` read off the list of
cells.  The list `parseFile` builds in the heap from a document is the list
the reload leaves in `Controller.faults`.

`Owns` adds that the list leaks nothing: the allocated blocks are its cells.
It holds in every state the list functions reach, so `delete_fault_list`
frees every block ever handed out, and the count is the number of live
blocks.
-/

namespace Fies

open HeapList CRuntime

/-- `head`, `curr` and `num_list_elements`, with the heap their cells are in. -/
structure FaultListState where
  heap : Heap Fault
  head : Option Nat
  curr : Option Nat
  numListElements : Nat

def FaultListState.initial : FaultListState := ⟨Heap.empty, none, none, 0⟩

def FaultListState.cellFault (s : FaultListState) (ptr : Nat) : Option Fault :=
  (s.heap.blocks ptr).map Cell.value

/-- `create_fault_list(fault)`: a copy of the record, inactive, as the only cell. -/
def createFaultList (s : FaultListState) (fault : Fault) : FaultListState :=
  let (heap, ptr) := s.heap.alloc { fault with isActive := false }
  { heap, head := some ptr, curr := some ptr, numListElements := s.numListElements + 1 }

/-- `add_to_fault_list(fault)`.  `curr->next = ptr` fails when `curr` is NULL or
no longer a block. -/
def addToFaultList (s : FaultListState) (fault : Fault) : Option FaultListState :=
  match s.head with
  | none => some (createFaultList s fault)
  | some _ => do
      let (heap, ptr) := s.heap.alloc { fault with isActive := false }
      let curr ← s.curr
      let heap ← heap.setNext curr (some ptr)
      pure { s with heap, curr := some ptr, numListElements := s.numListElements + 1 }

/-- `delete_fault_list()`. -/
def deleteFaultList (s : FaultListState) : Option FaultListState := do
  let heap ← s.heap.freeChain s.heap.fresh s.head
  pure { s with heap, head := none, numListElements := 0 }

def getNumFaultListElements (s : FaultListState) : Nat :=
  s.numListElements

/-- `getFaultListElement(element)`: the whole list is walked, keeping the cell
whose index is `element`, and NULL (`some none`) when no index matches. -/
def getFaultListElement (s : FaultListState) (element : Int) : Option (Option Nat) :=
  (s.heap.walk (fun (found : Option Nat × Int) ptr _ =>
      (if element = found.2 then some ptr else found.1, found.2 + 1))
    s.heap.fresh s.head (none, 0)).map Prod.fst

/-! ## The representation invariant -/

/-- The globals hold the list `cells`: a chain without repeated cells from
`head`, `curr` at its last cell when there is one, and its length in the
count. -/
structure Represents (s : FaultListState) (cells : List (Nat × Fault)) : Prop where
  bounded : s.heap.Bounded
  linked : s.heap.Linked s.head cells
  curr_last : cells ≠ [] → s.curr = cells.getLast?.map Prod.fst
  count : s.numListElements = cells.length

theorem represents_initial : Represents FaultListState.initial [] := by
  constructor
  · exact Heap.bounded_empty
  · exact ⟨trivial, List.nodup_nil⟩
  · intro hne
    exact absurd rfl hne
  · rfl

theorem Represents.createFaultList {s : FaultListState} (hs : Represents s []) (fault : Fault) :
    Represents (createFaultList s fault) [(s.heap.fresh, { fault with isActive := false })] := by
  constructor
  · exact hs.bounded.alloc _
  · exact Heap.linked_alloc_single s.heap _
  · intro _
    rfl
  · simp [Fies.createFaultList, hs.count]

theorem Represents.addToFaultList {s : FaultListState} {cells : List (Nat × Fault)}
    (hs : Represents s cells) (fault : Fault) :
    ∃ s', addToFaultList s fault = some s' ∧
      Represents s' (cells ++ [(s.heap.fresh, { fault with isActive := false })]) := by
  rcases List.eq_nil_or_concat cells with rfl | ⟨front, ⟨t, w⟩, hcells⟩
  · have hhead : s.head = none := hs.linked.chain.eq_none_of_nil
    exact ⟨_, by simp [Fies.addToFaultList, hhead], hs.createFaultList fault⟩
  · rw [List.concat_eq_append] at hcells
    subst hcells
    obtain ⟨hchain, hnodup⟩ := hs.linked.alloc hs.bounded { fault with isActive := false }
    obtain ⟨p, hp⟩ : ∃ p, s.head = some p := by
      cases hhead : s.head with
      | none =>
          have hnil := (hhead ▸ hs.linked.chain).eq_nil_of_none
          simp at hnil
      | some p => exact ⟨p, rfl⟩
    have hcurr : s.curr = some t := by simpa using hs.curr_last (by simp)
    have ht : t < s.heap.fresh := hs.linked.chain.lt_fresh hs.bounded (t, w) (by simp)
    have hfront : t ∉ front.map Prod.fst := by
      have hnd := hs.linked.nodup
      simp only [List.map_append, List.map_cons, List.map_nil, List.nodup_append] at hnd
      intro hmem
      exact hnd.2.2 t hmem t (List.mem_singleton_self t) rfl
    obtain ⟨heap, hset, hchain'⟩ := hchain.setNext_last hfront
      (Heap.linked_alloc_single s.heap { fault with isActive := false }).chain
      (by simpa [Heap.alloc] using Nat.ne_of_lt ht)
    refine ⟨{ s with heap, curr := some s.heap.fresh, numListElements := s.numListElements + 1 },
      ?_, ?_⟩
    · simp only [Fies.addToFaultList, hp, hcurr, Option.bind_eq_bind, Option.bind_some]
      rw [hset]
      rfl
    · constructor
      · exact (hs.bounded.alloc _).setNext hset
      · refine ⟨by simpa [Heap.alloc] using hchain', ?_⟩
        have hnew := hs.linked.chain.fresh_notMem hs.bounded
        rw [List.map_append, List.map_singleton, List.nodup_append]
        refine ⟨hs.linked.nodup, List.nodup_singleton _, ?_⟩
        intro a ha b hb hab
        rw [List.mem_singleton] at hb
        rw [hab, hb] at ha
        exact hnew ha
      · intro _
        simp
      · simp [hs.count]

theorem Represents.deleteFaultList {s : FaultListState} {cells : List (Nat × Fault)}
    (hs : Represents s cells) : ∃ s', deleteFaultList s = some s' ∧ Represents s' [] := by
  obtain ⟨heap, hfree, -, -⟩ :=
    Heap.freeChain_of_linked hs.linked (hs.linked.length_le hs.bounded)
  refine ⟨{ s with heap, head := none, numListElements := 0 }, by
    simp [Fies.deleteFaultList, hfree], ?_⟩
  constructor
  · exact hs.bounded.freeChain hfree
  · exact ⟨trivial, List.nodup_nil⟩
  · intro hne
    exact absurd rfl hne
  · rfl

/-! ## Reading the list -/

theorem getNumFaultListElements_of_represents {s : FaultListState} {cells : List (Nat × Fault)}
    (hs : Represents s cells) : getNumFaultListElements s = cells.length :=
  hs.count

theorem foldl_indexSearch (element : Int) (cells : List (Nat × Fault)) (found : Option Nat)
    (k : Int) :
    cells.foldl (fun (b : Option Nat × Int) c =>
        (if element = b.2 then some c.1 else b.1, b.2 + 1)) (found, k) =
      (((if k ≤ element then cells[(element - k).toNat]? else none).map Prod.fst).or found,
        k + cells.length) := by
  induction cells generalizing found k with
  | nil => simp
  | cons c cells ih =>
      rw [List.foldl_cons, ih]
      rcases lt_trichotomy element k with hlt | rfl | hgt
      · have hne : element ≠ k := by omega
        simp [hne, show ¬k ≤ element by omega, show ¬k + 1 ≤ element by omega]
        omega
      · simp
        omega
      · have hidx : (element - k).toNat = (element - (k + 1)).toNat + 1 := by omega
        have hne : element ≠ k := by omega
        simp [hne, show k ≤ element by omega, show k + 1 ≤ element by omega, hidx]
        omega

theorem getFaultListElement_of_represents {s : FaultListState} {cells : List (Nat × Fault)}
    (hs : Represents s cells) (element : Int) :
    getFaultListElement s element =
      some ((if 0 ≤ element then cells[element.toNat]? else none).map Prod.fst) := by
  unfold getFaultListElement
  rw [Heap.walk_of_chain _ _ hs.linked.chain (hs.linked.length_le hs.bounded), Option.map_some,
    foldl_indexSearch]
  simp

theorem Represents.cellFault_of_mem {s : FaultListState} {cells : List (Nat × Fault)}
    (hs : Represents s cells) {c : Nat × Fault} (hc : c ∈ cells) : s.cellFault c.1 = some c.2 := by
  obtain ⟨next, hblock⟩ := hs.linked.chain.block_of_mem hc
  simp [FaultListState.cellFault, hblock]

/-! ## Loading a document -/

section Loading

variable (xmlNodeListGetString : List XmlNode → Option String)

def faultChildren (root : XmlNode) : List XmlNode :=
  root.children.filter (·.name = "fault")

/-- One pass of the loop of `parseFile`: a `<fault>` child goes to
`parseFault`, which ends in `add_to_fault_list`; `none` is a list the C code
cannot append to. -/
def parseFaultInto (s : Option FaultListState) (node : XmlNode) :
    Except CError (Option FaultListState) :=
  if node.name = "fault" then do
    let fault ← parseFault xmlNodeListGetString node
    pure (s.bind fun s => addToFaultList s fault)
  else pure s

/-- The list side of `parseFile` for a root `<injection>`: the old list is
deleted if there is one, then the `<fault>` children are appended. -/
def parseFileFaultList (s : FaultListState) (root : XmlNode) :
    Except CError (Option FaultListState) :=
  root.children.foldlM (parseFaultInto xmlNodeListGetString) (if s.head ≠ none then deleteFaultList s else some s)

theorem foldlM_parseFaultInto {nodes : List XmlNode} {faults : List Fault}
    (hfaults : (nodes.filter (·.name = "fault")).mapM (parseFault xmlNodeListGetString) = .ok faults)
    {s : FaultListState} {cells : List (Nat × Fault)} (hs : Represents s cells) :
    ∃ s' added, nodes.foldlM (parseFaultInto xmlNodeListGetString) (some s) = .ok (some s') ∧
      Represents s' (cells ++ added) ∧
      added.map Prod.snd = faults.map fun f => { f with isActive := false } := by
  induction nodes generalizing faults s cells with
  | nil =>
      have hnil : faults = [] := by
        simpa using hfaults.symm
      exact ⟨s, [], rfl, by simpa using hs, by simp [hnil]⟩
  | cons node nodes ih =>
      by_cases hnode : node.name = "fault"
      · rw [List.filter_cons_of_pos (by simpa using hnode)] at hfaults
        obtain ⟨f, fs, hf, hfs, rfl⟩ := Except.mapM_cons_eq_ok_iff.mp hfaults
        obtain ⟨s₁, hadd, hs₁⟩ := hs.addToFaultList f
        obtain ⟨s', added, hrun, hs', hadded⟩ := ih hfs hs₁
        refine ⟨s', (s.heap.fresh, { f with isActive := false }) :: added, ?_, ?_, ?_⟩
        · rw [List.foldlM_cons]
          simp [parseFaultInto, hnode, hf, hadd, hrun]
        · simpa using hs'
        · simp [hadded]
      · rw [List.filter_cons_of_neg (by simpa using hnode)] at hfaults
        obtain ⟨s', added, hrun, hs', hadded⟩ := ih hfaults hs
        refine ⟨s', added, ?_, hs', hadded⟩
        rw [List.foldlM_cons]
        simp [parseFaultInto, hnode, hrun]

theorem parseFileFaultList_represents {s : FaultListState} {cells : List (Nat × Fault)}
    (hs : Represents s cells) {root : XmlNode} {faults : List Fault}
    (hfaults : (faultChildren root).mapM (parseFault xmlNodeListGetString) = .ok faults) :
    ∃ s' added, parseFileFaultList xmlNodeListGetString s root = .ok (some s') ∧ Represents s' added ∧
      added.map Prod.snd = faults.map fun f => { f with isActive := false } := by
  obtain ⟨s₀, hs₀, hinit⟩ : ∃ s₀, (if s.head ≠ none then deleteFaultList s else some s) = some s₀ ∧
      Represents s₀ [] := by
    by_cases hhead : s.head = none
    · have hchain := hs.linked.chain
      rw [hhead] at hchain
      have hcells : cells = [] := hchain.eq_nil_of_none
      subst hcells
      exact ⟨s, by simp [hhead], hs⟩
    · obtain ⟨s₀, hdel, hs₀⟩ := hs.deleteFaultList
      exact ⟨s₀, by simp [hhead, hdel], hs₀⟩
  obtain ⟨s', added, hrun, hs', hadded⟩ := foldlM_parseFaultInto _ hfaults hinit
  refine ⟨s', added, ?_, by simpa using hs', hadded⟩
  rw [parseFileFaultList, hs₀]
  exact hrun

/-- After a reload of a document whose children all have the texts the parser
reads, the list in the heap, whatever it held before, and the list the
controller holds are the faults the `<fault>` children describe, in document
order: `getNumFaultListElements` counts them, `getFaultListElement` gives
the cell of each index in range and NULL outside. -/
theorem loadedFaultList_mirrors_document {c c' : Controller} {root : XmlNode}
    {printed : List String} {s : FaultListState} {cells : List (Nat × Fault)}
    (hroot : root.name = "injection")
    (htexts : ∀ node ∈ root.children, node.name = "fault" → TextsPresent xmlNodeListGetString node)
    (hreload : qmpFaultReload xmlNodeListGetString c (.root root) = .ok (c', printed)) (hs : Represents s cells) :
    c'.faults = (faultChildren root).map (fun node => describedFault xmlNodeListGetString node.children) ∧
      ∃ s', parseFileFaultList xmlNodeListGetString s root = .ok (some s') ∧
        getNumFaultListElements s' = (faultChildren root).length ∧
        (∀ (i : Nat) (hi : i < (faultChildren root).length), ∃ ptr,
          getFaultListElement s' i = some (some ptr) ∧
            s'.cellFault ptr = some (describedFault xmlNodeListGetString (faultChildren root)[i].children)) ∧
        (∀ i : Int, (i < 0 ∨ (faultChildren root).length ≤ i) →
          getFaultListElement s' i = some none) := by
  have hdescribed : (faultChildren root).mapM (parseFault xmlNodeListGetString) =
      .ok ((faultChildren root).map fun node => describedFault xmlNodeListGetString node.children) := by
    refine Except.mapM_eq_ok_map fun node hnode => parseFault_described _ ?_
    obtain ⟨hmem, hname⟩ := List.mem_filter.mp hnode
    exact htexts node hmem (by simpa using hname)
  have hfaults : c'.faults = _ :=
    Except.ok.inj ((qmpFaultReload_faults _ hroot hreload).symm.trans hdescribed)
  obtain ⟨s', added, hrun, hs', hadded⟩ := parseFileFaultList_represents _ hs hdescribed
  have hvalues : added.map Prod.snd = (faultChildren root).map fun node =>
      describedFault xmlNodeListGetString node.children := by
    rw [hadded, List.map_map]
    rfl
  have hlen : added.length = (faultChildren root).length := by
    simpa using congrArg List.length hvalues
  refine ⟨hfaults, s', hrun, ?_, ?_, ?_⟩
  · rw [getNumFaultListElements_of_represents hs', hlen]
  · intro i hi
    have hi' : i < added.length := hlen ▸ hi
    refine ⟨added[i].1, ?_, ?_⟩
    · rw [getFaultListElement_of_represents hs']
      simp [hi']
    · have hvalue : added[i].2 = describedFault xmlNodeListGetString (faultChildren root)[i].children := by
        have hget := congrArg (·[i]?) hvalues
        simpa [hi, hi'] using hget
      rw [hs'.cellFault_of_mem (List.getElem_mem hi'), hvalue]
  · intro i hout
    rw [getFaultListElement_of_represents hs']
    by_cases hnonneg : 0 ≤ i
    · rw [if_pos hnonneg, Option.some_inj, Option.map_eq_none_iff, List.getElem?_eq_none_iff]
      omega
    · simp [hnonneg]

def twoFaultLibrary : XmlNode :=
  .element "injection"
    [.element "fault"
      [.element "id" [.text "1"], .element "component" [.text "RAM"],
        .element "params" [.element "address" [.text "0x100"], .element "mask" [.text "0x1"]]],
      .text "\n",
      .element "fault"
      [.element "id" [.text "2"], .element "mode" [.text "SF"], .element "mode" [.text "NEW VALUE"]]]

theorem loadedFaultList_mirrors_document_twoFaults :
    ∃ c' printed, qmpFaultReload nodeListText (Controller.loaded Machine.zero []) (.root twoFaultLibrary) =
        .ok (c', printed) ∧
      twoFaultLibrary.name = "injection" ∧
      (∀ node ∈ twoFaultLibrary.children, node.name = "fault" → TextsPresent nodeListText node) ∧
      (c'.faults = (faultChildren twoFaultLibrary).map (fun node => describedFault nodeListText node.children) ∧
        ∃ s', parseFileFaultList nodeListText FaultListState.initial twoFaultLibrary = .ok (some s') ∧
          getNumFaultListElements s' = (faultChildren twoFaultLibrary).length ∧
          (∀ (i : Nat) (hi : i < (faultChildren twoFaultLibrary).length), ∃ ptr,
            getFaultListElement s' i = some (some ptr) ∧
              s'.cellFault ptr = some (describedFault nodeListText (faultChildren twoFaultLibrary)[i].children)) ∧
          (∀ i : Int, (i < 0 ∨ (faultChildren twoFaultLibrary).length ≤ i) →
            getFaultListElement s' i = some none)) :=
  ⟨_, _, rfl, rfl, by decide,
    loadedFaultList_mirrors_document nodeListText rfl (by decide) rfl represents_initial⟩

def clampedMaskLibrary : XmlNode :=
  .element "injection"
    [.element "fault"
      [.element "id" [.text "1"], .element "params" [.element "mask" [.text "10000000000000005"]]]]

/-- `strtol` clamps the mask to `LONG_MAX`, whose low 32 bits are all set: the
loaded mask is -1, not the low 32 bits 5 of the value written. -/
theorem loadedMask_clamped_to_long_max :
    (qmpFaultReload nodeListText (Controller.loaded Machine.zero []) (.root clampedMaskLibrary)).map
        (fun r => r.1.faults.map (·.params.mask)) = .ok [-1] ∧
      BitVec.ofNat 32 0x10000000000000005 = 5 := by
  decide

end Loading

/-! ## Ownership of the heap -/

theorem addToFaultList_blocks_isSome {s s' : FaultListState} {fault : Fault}
    (hadd : addToFaultList s fault = some s') (q : Nat) :
    (s'.heap.blocks q).isSome ↔ q = s.heap.fresh ∨ (s.heap.blocks q).isSome := by
  unfold addToFaultList at hadd
  split at hadd
  · cases hadd
    by_cases hq : q = s.heap.fresh <;> simp [createFaultList, hq]
  · simp only [Option.bind_eq_bind] at hadd
    obtain ⟨curr, -, hrest⟩ := Option.bind_eq_some_iff.mp hadd
    obtain ⟨heap, hset, hpure⟩ := Option.bind_eq_some_iff.mp hrest
    cases hpure
    rw [Heap.isSome_blocks_of_setNext hset]
    by_cases hq : q = s.heap.fresh <;> simp [hq]

/-- `Represents`, and no block is allocated but the list's cells: every block
`malloc` handed out for the list is still reachable from `head`. -/
structure Owns (s : FaultListState) (cells : List (Nat × Fault)) : Prop where
  represents : Represents s cells
  only : ∀ q, (s.heap.blocks q).isSome → q ∈ cells.map Prod.fst

theorem owns_initial : Owns FaultListState.initial [] :=
  ⟨represents_initial, fun q hq => by simp [FaultListState.initial, Heap.empty] at hq⟩

theorem Owns.addToFaultList {s s' : FaultListState} {cells : List (Nat × Fault)}
    (hs : Owns s cells) {fault : Fault} (hadd : addToFaultList s fault = some s') :
    Owns s' (cells ++ [(s.heap.fresh, { fault with isActive := false })]) := by
  obtain ⟨s'', hadd', hrep⟩ := hs.represents.addToFaultList fault
  have hsame : s'' = s' := Option.some.inj (hadd'.symm.trans hadd)
  subst hsame
  refine ⟨hrep, fun q hq => ?_⟩
  rcases (addToFaultList_blocks_isSome hadd q).mp hq with rfl | hold
  · simp
  · simp [hs.only q hold]

theorem Owns.deleteFaultList {s s' : FaultListState} {cells : List (Nat × Fault)}
    (hs : Owns s cells) (hdel : deleteFaultList s = some s') : Owns s' [] := by
  obtain ⟨s'', hdel', hrep⟩ := hs.represents.deleteFaultList
  have hsame : s'' = s' := Option.some.inj (hdel'.symm.trans hdel)
  subst hsame
  obtain ⟨heap, hfree, -, hblocks⟩ := Heap.freeChain_of_linked hs.represents.linked
    (hs.represents.linked.length_le hs.represents.bounded)
  have hheap : s''.heap = heap := by
    simp only [Fies.deleteFaultList, hfree, Option.bind_eq_bind, Option.bind_some] at hdel'
    cases hdel'
    rfl
  refine ⟨hrep, fun q hq => ?_⟩
  rw [hheap, hblocks q] at hq
  split at hq
  · simp at hq
  · exact absurd (hs.only q hq) ‹_›

/-- The states `add_to_fault_list` and `delete_fault_list` reach from the
start, called in any order; `create_fault_list` is called through
`add_to_fault_list`. -/
inductive ListReachable : FaultListState → Prop
  | initial : ListReachable FaultListState.initial
  | add {s s' : FaultListState} (fault : Fault) :
      ListReachable s → addToFaultList s fault = some s' → ListReachable s'
  | delete {s s' : FaultListState} :
      ListReachable s → deleteFaultList s = some s' → ListReachable s'

theorem ListReachable.owns {s : FaultListState} (hs : ListReachable s) : ∃ cells, Owns s cells := by
  induction hs with
  | initial => exact ⟨[], owns_initial⟩
  | add fault _ hadd ih =>
      obtain ⟨cells, howns⟩ := ih
      exact ⟨_, howns.addToFaultList hadd⟩
  | delete _ hdel ih =>
      obtain ⟨cells, howns⟩ := ih
      exact ⟨[], howns.deleteFaultList hdel⟩

theorem Owns.isSome_iff {s : FaultListState} {cells : List (Nat × Fault)} (hs : Owns s cells)
    (q : Nat) : (s.heap.blocks q).isSome ↔ q ∈ cells.map Prod.fst := by
  refine ⟨hs.only q, fun hq => ?_⟩
  obtain ⟨c, hc, rfl⟩ := List.mem_map.mp hq
  exact hs.represents.linked.chain.blocks_isSome c hc

theorem Owns.live_eq {s : FaultListState} {cells : List (Nat × Fault)} (hs : Owns s cells) :
    (Finset.range s.heap.fresh).filter (fun q => (s.heap.blocks q).isSome) =
      (cells.map Prod.fst).toFinset := by
  ext q
  simp only [Finset.mem_filter, Finset.mem_range, List.mem_toFinset, hs.isSome_iff]
  constructor
  · exact fun hq => hq.2
  · intro hq
    obtain ⟨c, hc, rfl⟩ := List.mem_map.mp hq
    exact ⟨hs.represents.linked.chain.lt_fresh hs.represents.bounded c hc, hq⟩

/-- In every state the list functions reach, the globals hold a list, the
allocated blocks are exactly its cells, and `num_list_elements` is the number
of live blocks: no cell leaks, not even through `delete_fault_list`, which
leaves `curr` at a freed cell. -/
theorem faultList_heap_holds_only_its_cells {s : FaultListState} (hs : ListReachable s) :
    ∃ cells, Represents s cells ∧ (∀ q, (s.heap.blocks q).isSome ↔ q ∈ cells.map Prod.fst) ∧
      s.numListElements =
        ((Finset.range s.heap.fresh).filter fun q => (s.heap.blocks q).isSome).card := by
  obtain ⟨cells, howns⟩ := hs.owns
  refine ⟨cells, howns.represents, howns.isSome_iff, ?_⟩
  calc s.numListElements = cells.length := howns.represents.count
    _ = (cells.map Prod.fst).length := (List.length_map _).symm
    _ = (cells.map Prod.fst).toFinset.card :=
        (List.toFinset_card_of_nodup howns.represents.linked.nodup).symm
    _ = _ := by rw [howns.live_eq]

theorem faultList_heap_holds_only_its_cells_after_delete :
    ∃ s₁ s₂ s₃ s₄,
      addToFaultList FaultListState.initial
          (Fault.permanent "ACCESS" "RAM" "MEMORY CELL" "TF0" ⟨0x100, 0x100, 1, -1, -1⟩) = some s₁ ∧
        addToFaultList s₁
          (Fault.permanent "ACCESS" "RAM" "MEMORY CELL" "TF1" ⟨0x104, 0x104, 1, -1, -1⟩) = some s₂ ∧
        deleteFaultList s₂ = some s₃ ∧
        addToFaultList s₃
          (Fault.permanent "ACCESS" "RAM" "MEMORY CELL" "TF0" ⟨0x108, 0x108, 1, -1, -1⟩) = some s₄ ∧
        ∃ cells, Represents s₄ cells ∧ (∀ q, (s₄.heap.blocks q).isSome ↔ q ∈ cells.map Prod.fst) ∧
          s₄.numListElements =
            ((Finset.range s₄.heap.fresh).filter fun q => (s₄.heap.blocks q).isSome).card := by
  have h₁ := ListReachable.add
    (Fault.permanent "ACCESS" "RAM" "MEMORY CELL" "TF0" ⟨0x100, 0x100, 1, -1, -1⟩) .initial rfl
  have h₂ := ListReachable.add
    (Fault.permanent "ACCESS" "RAM" "MEMORY CELL" "TF1" ⟨0x104, 0x104, 1, -1, -1⟩) h₁ rfl
  have h₃ := ListReachable.delete h₂ rfl
  have h₄ := ListReachable.add
    (Fault.permanent "ACCESS" "RAM" "MEMORY CELL" "TF0" ⟨0x108, 0x108, 1, -1, -1⟩) h₃ rfl
  exact ⟨_, _, _, _, rfl, rfl, rfl, rfl, faultList_heap_holds_only_its_cells h₄⟩

theorem ListReachable.parseFileFaultList {xmlNodeListGetString : List XmlNode → Option String}
    {s s' : FaultListState} (hs : ListReachable s) {root : XmlNode} (hload : parseFileFaultList xmlNodeListGetString s root = .ok (some s')) : ListReachable s' := by
  let I : Option FaultListState → Prop := fun o => ∀ s₁, o = some s₁ → ListReachable s₁
  have hstart : I (if s.head ≠ none then deleteFaultList s else some s) := by
    intro s₀ hs₀
    split at hs₀
    · exact .delete hs hs₀
    · cases hs₀
      exact hs
  have hpass : ∀ o node, I o → Except.Post (parseFaultInto xmlNodeListGetString o node) I := by
    intro o node ho r hr
    unfold parseFaultInto at hr
    split at hr
    · obtain ⟨fault, -, hpure⟩ := Except.bind_eq_ok_iff.mp hr
      simp only [Except.pure_eq_ok, Except.ok.injEq] at hpure
      subst hpure
      intro s₁ hs₁
      obtain ⟨s₀, hs₀, hadd⟩ := Option.bind_eq_some_iff.mp hs₁
      exact .add fault (ho s₀ hs₀) hadd
    · simp only [Except.pure_eq_ok, Except.ok.injEq] at hr
      subst hr
      exact ho
  exact Except.post_foldlM I (parseFaultInto xmlNodeListGetString) root.children hstart hpass (some s') hload s' rfl


end Fies
