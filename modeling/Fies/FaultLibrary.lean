import Fies.Controller

/-!
# Loading a fault library

`fault-injection-library.c`: `qmp_fault_reload` resets the time origin and the
counters, `parseFile` checks the document and builds a new fault list with one
`parseFault` per `<fault>` element, `validateXMLInput` prints a warning for
every field it finds wrong, and the per-fault arrays are reallocated.

The document is the tree `xmlParseFile` returns.  Whitespace between
elements is kept as text nodes, which are named "text" and never match an
element name.  The text of an element comes from libxml2's
`xmlNodeListGetString`, a parameter of the parser here; libxml2 returns NULL
for an element without children, such as `<id/>`.

The validation only warns: every parsed fault is kept.
-/

namespace Fies

open CRuntime

/-- A node of the tree `xmlParseFile` builds. -/
inductive XmlNode
  | element (name : String) (children : List XmlNode)
  | text (content : String)
  deriving Repr

/-- `cur->name`: the element name, "text" for a text node. -/
def XmlNode.name : XmlNode → String
  | .element name _ => name
  | .text _ => "text"

/-- `cur->xmlChildrenNode`. -/
def XmlNode.children : XmlNode → List XmlNode
  | .element _ children => children
  | .text _ => []

/-- What `xmlParseFile` and `xmlDocGetRootElement` give for the file. -/
inductive XmlDocument
  /-- `xmlParseFile` returns NULL -/
  | unparsable
  /-- a document without a root element -/
  | empty
  | root (node : XmlNode)
  deriving Repr

/-- The record `parseFault` fills in:
`{-1, NULL, ..., NULL, 0, {-1, -1, -1, -1, -1}}`. -/
def Fault.parseDefault : Fault where
  id := -1
  component := none
  target := none
  mode := none
  trigger := none
  timer := none
  type := none
  duration := none
  interval := none
  isActive := false
  params := ⟨-1, -1, -1, -1, -1⟩

/-- A text function with what libxml2 documents for `xmlNodeListGetString`:
the contents of the text nodes of the list, concatenated, and NULL when there
is none.  The concrete documents of this development are read with it. -/
def nodeListText : List XmlNode → Option String
  | [] => none
  | .text content :: rest => some (content ++ (nodeListText rest).getD "")
  | .element _ _ :: rest => nodeListText rest

/-! ## Parsing

The library reads the text of an element with libxml2's
`xmlNodeListGetString(doc, list, 1)`, which is outside this repository: the
parser takes it as a parameter, and a result that depends on what it returns
names that as a hypothesis. -/

section Parser

variable (xmlNodeListGetString : List XmlNode → Option String)

/-- One child of `<params>`.  The five names are tested by three separate
`if`s (`cf_address` and `mask` share one `if ... else if`); a hexadecimal
value is cast to `int`. -/
def parseParam (params : Parameters) (node : XmlNode) : Except CError Parameters := do
  let key := xmlNodeListGetString node.children
  let mut params := params
  if node.name = "address" then
    params := { params with address := BitVec.ofNat 32 (← strtoul key 16) }
  if node.name = "cf_address" then
    params := { params with cfAddress := BitVec.ofNat 32 (← strtoul key 16) }
  else if node.name = "mask" then
    params := { params with mask := BitVec.ofInt 32 (← strtol key 16) }
  if node.name = "instruction" then
    params := { params with instruction := BitVec.ofNat 32 (← strtoul key 16) }
  if node.name = "set_bit" then
    params := { params with setBit := BitVec.ofInt 32 (← strtol key 16) }
  return params

/-- One child of `<fault>`: the id through `strtol`, a string field through
`strdup`, `<params>` through its children. -/
def parseFaultChild (fault : Fault) (node : XmlNode) : Except CError Fault := do
  let key := xmlNodeListGetString node.children
  if node.name = "id" then pure { fault with id := BitVec.ofInt 32 (← strtol key 10) }
  else if node.name = "component" then pure { fault with component := some (← strdup key) }
  else if node.name = "target" then pure { fault with target := some (← strdup key) }
  else if node.name = "mode" then pure { fault with mode := some (← strdup key) }
  else if node.name = "trigger" then pure { fault with trigger := some (← strdup key) }
  else if node.name = "timer" then pure { fault with timer := some (← strdup key) }
  else if node.name = "type" then pure { fault with type := some (← strdup key) }
  else if node.name = "duration" then pure { fault with duration := some (← strdup key) }
  else if node.name = "interval" then pure { fault with interval := some (← strdup key) }
  else if node.name = "params" then do
    let params ← node.children.foldlM (parseParam xmlNodeListGetString) fault.params
    pure { fault with params }
  else pure fault

theorem parseFaultChild_id_without_text (fault : Fault) {children : List XmlNode}
    (hnull : xmlNodeListGetString children = none) :
    parseFaultChild xmlNodeListGetString fault (.element "id" children) = .error (.nullString .strtol) := by
  simp [parseFaultChild, XmlNode.name, XmlNode.children, hnull, strtol, deref]

/-- `parseFault(doc, cur)`: the entry `add_to_fault_list` appends, inactive. -/
def parseFault (node : XmlNode) : Except CError Fault :=
  node.children.foldlM (parseFaultChild xmlNodeListGetString) Fault.parseDefault

/-! ## Validation -/

/-- The modes `validateXMLInput` knows, in its order ("VF" twice). -/
def knownModes : List String :=
  ["NEW VALUE", "ZF", "CF", "NF", "QF", "VF", "SF", "BIT-FLIP", "VF", "TF0", "TF1",
    "WDF0", "WDF1", "RDF0", "RDF1", "IRF0", "IRF1", "DRDF0", "DRDF1",
    "RDF00", "RDF01", "RDF10", "RDF11", "IRF00", "IRF01", "IRF10", "IRF11",
    "DRDF00", "DRDF01", "DRDF10", "DRDF11", "CFST00", "CFST01", "CFST10", "CFST11",
    "CFTR00", "CFTR01", "CFTR10", "CFTR11", "CFWD00", "CFWD01", "CFWD10", "CFWD11",
    "CFRD00", "CFRD01", "CFRD10", "CFRD11", "CFIR00", "CFIR01", "CFIR10", "CFIR11",
    "CFDR00", "CFDR01", "CFDR10", "CFDR11", "CFDS0W00", "CFDS0W01", "CFDS0W10", "CFDS0W11",
    "CFDS1W00", "CFDS1W01", "CFDS1W10", "CFDS1W11", "CFDS0R00", "CFDS0R01", "CFDS1R10",
    "CFDS1R11"]

def knownTargets : List String :=
  ["REGISTER CELL", "MEMORY CELL", "CONDITION FLAGS", "INSTRUCTION EXECUTION",
    "INSTRUCTION DECODER", "ADDRESS DECODER", "PRINT ADDRESSES TO FILE"]

/-- `s` is given and is none of `allowed`. -/
def notAmong (s : Option String) (allowed : List String) : Bool :=
  match s with
  | some s => !allowed.contains s
  | none => false

/-- `ends_with(s, "MS") || ends_with(s, "US") || ends_with(s, "NS")`. -/
def hasTimeUnit (s : Option String) : Except CError Bool := do
  pure ((← endsWith s (some "MS")) || (← endsWith s (some "US")) ||
    (← endsWith s (some "NS")))

/-- The two checks of a time field: a unit, and a non-zero number before it. -/
def timeFieldWarnings (field : String) (s : Option String) (id : String) :
    Except CError (List String) := do
  match s with
  | none => pure []
  | some _ =>
      let message := field ++ " has to be a positive, real number in ns, us or" ++
        " ms (fault id: " ++ id ++ ")\n"
      let unit ← hasTimeUnit s
      let zero ← if unit then pure ((← timerToInt s) == 0) else pure false
      pure ((if unit then [] else [message]) ++ (if zero then [message] else []))

/-- The warnings `validateXMLInput` prints for one fault, in order. -/
def faultWarnings (fault : Fault) : Except CError (List String) := do
  let id := toString fault.id.toInt
  let idOf (text : String) := text ++ " (fault id: " ++ id ++ ")\n"
  let pcTriggered := fault.trigger = some "PC"
  let basic :=
    (if fault.id = 0 ∨ fault.id = -1 then ["fault id is not a positive, real number\n"] else []) ++
    (if fault.component = none ∨ fault.target = none ∨ fault.mode = none then
      [idOf "component, target or mode is not defined"] else []) ++
    (if notAmong fault.component ["CPU", "RAM", "REGISTER"] then
      [idOf "component has to be \"CPU, REGISTER or RAM\""] else []) ++
    (if notAmong fault.target knownTargets then
      [idOf ("target has to be \"REGISTER CELL, MEMORY CELL, " ++
        "CONDITION FLAGS, INSTRUCTION EXECUTION, INSTRUCTION DECODER, " ++
        "or ADDRESS DECODER\"")] else []) ++
    (if notAmong fault.mode knownModes then [idOf "unknown mode"] else []) ++
    (if notAmong fault.trigger ["ACCESS", "TIME", "PC"] then
      [idOf "trigger has to be \"ACCESS, TIME or PC\""] else []) ++
    (if fault.params.address = 0 then [idOf "fault address is not a number"] else []) ++
    (if fault.params.cfAddress = 0 then [idOf "fault coupling address is not a number"]
      else []) ++
    (if fault.params.instruction = 0 then [idOf "fault instruction address is not a number"]
      else []) ++
    (if fault.params.mask = 0 then [idOf "fault mask is not a number"] else []) ++
    (if (fault.trigger = some "TIME" ∨ fault.trigger = some "ACCESS") ∧
        notAmong fault.type ["PERMANENT", "TRANSIENT", "INTERMITTEND"] then
      [idOf ("type has to be \"PERMANENT, TRANSIENT or " ++
        "INTERMITTEND\" for time- or access-triggered faults")] else []) ++
    (if pcTriggered ∧ (fault.params.address = -1 ∨ fault.params.address = 0) then
      [idOf ("PC-address has to be defined in the <params>->" ++
        "<instruction>-tag or has  to be a positive, real number")] else [])
  let timer ← timeFieldWarnings "timer" fault.timer id
  let duration ← timeFieldWarnings "duration" fault.duration id
  let interval ← timeFieldWarnings "interval" fault.interval id
  pure (basic ++ timer ++ duration ++ interval)

/-- `validateXMLInput()`: the warnings, and `profile_ram_addresses` switched on
by a fault whose target is "PRINT ADDRESSES TO FILE". -/
def validateXMLInput (c : Controller) : Except CError (Controller × List String) := do
  let warnings ← c.faults.flatMapM faultWarnings
  let printAddresses := c.faults.any (·.target = some "PRINT ADDRESSES TO FILE")
  pure ({ c with profileRamAddresses := c.profileRamAddresses || printAddresses }, warnings)

/-! ## Reloading -/

/-- `getMaxIDInFaultList()`: the largest id of the list, 0 when no id is
positive.  `init_id_array` and `init_ops_on_cell` allocate that many entries. -/
def getMaxIDInFaultList (faults : List Fault) : Int :=
  faults.foldl (fun maxId f => if f.id.toInt > maxId then f.id.toInt else maxId) 0

theorem le_foldl_maxId (faults : List Fault) (init : Int) :
    init ≤ faults.foldl (fun maxId f => if f.id.toInt > maxId then f.id.toInt else maxId) init ∧
      ∀ f ∈ faults, f.id.toInt ≤
        faults.foldl (fun maxId f => if f.id.toInt > maxId then f.id.toInt else maxId) init := by
  induction faults generalizing init with
  | nil => simp
  | cons g faults ih =>
      have hstep : init ≤ (if g.id.toInt > init then g.id.toInt else init) ∧
          g.id.toInt ≤ (if g.id.toInt > init then g.id.toInt else init) := by
        split <;> omega
      obtain ⟨hinit, hall⟩ := ih (if g.id.toInt > init then g.id.toInt else init)
      refine ⟨le_trans hstep.1 hinit, ?_⟩
      intro f hf
      rcases List.mem_cons.mp hf with rfl | hf
      · exact le_trans hstep.2 hinit
      · exact hall f hf

theorem le_getMaxIDInFaultList {faults : List Fault} {f : Fault} (hf : f ∈ faults) :
    f.id.toInt ≤ getMaxIDInFaultList faults :=
  (le_foldl_maxId faults 0).2 f hf

theorem getMaxIDInFaultList_nonneg (faults : List Fault) : 0 ≤ getMaxIDInFaultList faults :=
  (le_foldl_maxId faults 0).1

theorem getMaxIDInFaultList_lt (faults : List Fault) : getMaxIDInFaultList faults < 2 ^ 31 := by
  unfold getMaxIDInFaultList
  suffices h : ∀ init : Int, init < 2 ^ 31 →
      faults.foldl (fun maxId f => if f.id.toInt > maxId then f.id.toInt else maxId) init <
        2 ^ 31 from h 0 (by decide)
  induction faults with
  | nil => exact fun init h => h
  | cons g faults ih =>
      intro init hinit
      apply ih
      have hg : g.id.toInt < 2 ^ 31 := by simpa using @BitVec.toInt_lt 32 g.id
      show (if g.id.toInt > init then g.id.toInt else init) < 2 ^ 31
      split <;> omega

/-- `parseFile(mon, filename)`: the status it returns and what it prints.  A
rejected document leaves the fault list as it was. -/
def parseFile (c : Controller) (doc : XmlDocument) :
    Except CError (Controller × Int × List String) :=
  match doc with
  | .unparsable => pure (c, -1, ["Document not parsed successfully.\n"])
  | .empty => pure (c, -1, ["Empty document\n"])
  | .root root =>
      if root.name ≠ "injection" then
        pure (c, -1, ["Document of the wrong type, root node != injection\n"])
      else do
        let faults ← (root.children.filter (·.name = "fault")).mapM (parseFault xmlNodeListGetString)
        let (c, warnings) ← validateXMLInput { c with faults }
        pure (c, 0, warnings)

/-- `qmp_fault_reload(mon, filename, errp)`: the time origin is the current
virtual time, the counters restart, the document is parsed, and the id array
and the operation histories are allocated afresh whether or not the document
was accepted.  `address_in_use` is left as it is. -/
def qmpFaultReload (c : Controller) (doc : XmlDocument) :
    Except CError (Controller × List String) := do
  let c := { c with timerValue := c.clock,
                    stats := { Statistics.initial with idArray := c.stats.idArray } }
  let (c, status, printed) ← parseFile xmlNodeListGetString c doc
  let loaded := if status ≠ 0 then "Configuration file not loaded\n"
    else "Configuration file loaded successfully\n"
  let c := { c with stats := { c.stats with idArray := fun _ => false },
                    opsOnMemoryCell := fun _ _ => none,
                    opsOnRegisterCell := fun _ _ => none }
  pure (c, printed ++ [loaded])

theorem validateXMLInput_post (c : Controller) :
    Except.Post (validateXMLInput c) fun r => r.1 =
      { c with profileRamAddresses :=
          c.profileRamAddresses || c.faults.any (·.target = some "PRINT ADDRESSES TO FILE") } := by
  unfold validateXMLInput
  exact Except.post_bind (fun _ _ => trivial) fun _ _ => Except.post_pure rfl

theorem parseFile_post (c : Controller) (doc : XmlDocument) :
    Except.Post (parseFile xmlNodeListGetString c doc) fun r => (r.2.1 = -1 ∧ r.1 = c) ∨
      (r.2.1 = 0 ∧ ∃ faults, r.1 = { c with
        faults,
        profileRamAddresses :=
          c.profileRamAddresses || faults.any (·.target = some "PRINT ADDRESSES TO FILE") }) := by
  unfold parseFile
  split
  · exact Except.post_pure (.inl ⟨rfl, rfl⟩)
  · exact Except.post_pure (.inl ⟨rfl, rfl⟩)
  · split
    · exact Except.post_pure (.inl ⟨rfl, rfl⟩)
    · refine Except.post_bind (fun _ _ => trivial) fun faults _ => ?_
      refine Except.post_bind (validateXMLInput_post _) ?_
      rintro ⟨c', warnings⟩ hc'
      exact Except.post_pure (.inr ⟨rfl, faults, hc'⟩)

theorem parseFile_of_rejected {c : Controller} {doc : XmlDocument}
    (hstatus : (parseFile xmlNodeListGetString c doc).map (·.2.1) = .ok (-1)) :
    ∃ printed, ∀ c', parseFile xmlNodeListGetString c' doc = .ok (c', -1, printed) := by
  cases doc with
  | unparsable => exact ⟨_, fun c' => rfl⟩
  | empty => exact ⟨_, fun c' => rfl⟩
  | root node =>
      by_cases hname : node.name ≠ "injection"
      · exact ⟨["Document of the wrong type, root node != injection\n"], fun c' => by
          simp [parseFile, hname]⟩
      · exfalso
        cases hrun : parseFile xmlNodeListGetString c (.root node) with
        | error e => simp [hrun, Except.map] at hstatus
        | ok r =>
            rw [hrun] at hstatus
            have hr : r.2.1 = -1 := by
              simpa [Functor.map, Except.map] using hstatus
            rcases parseFile_post _ c (.root node) r hrun with ⟨-, hc⟩ | ⟨h0, -⟩
            · unfold parseFile at hrun
              simp only [hname, if_false] at hrun
              obtain ⟨faults, -, hrest⟩ := Except.bind_eq_ok_iff.mp hrun
              obtain ⟨cw, -, hpure⟩ := Except.bind_eq_ok_iff.mp hrest
              cases hpure
              simp at hr
            · rw [hr] at h0
              simp at h0

theorem qmpFaultReload_post (c : Controller) (doc : XmlDocument) :
    Except.Post (qmpFaultReload xmlNodeListGetString c doc) fun r => ∃ c₂ status printed,
      parseFile xmlNodeListGetString { c with
          timerValue := c.clock
          stats := { Statistics.initial with idArray := c.stats.idArray } } doc =
        .ok (c₂, status, printed) ∧
      r.1 = { c₂ with
        stats := Statistics.initial
        opsOnMemoryCell := fun _ _ => none
        opsOnRegisterCell := fun _ _ => none } := by
  unfold qmpFaultReload
  refine Except.post_bind_iff.mpr ?_
  rintro ⟨c₂, status, printed⟩ hparse
  refine Except.post_pure ⟨c₂, status, printed, hparse, ?_⟩
  rcases parseFile_post _ _ doc _ hparse with ⟨-, rfl⟩ | ⟨-, faults, rfl⟩ <;> rfl

/-- A rejected document leaves the list, and every other field the reload
does not restart: the time origin moves to the current time, the counters and
`id_array` are cleared and no history is left. -/
theorem qmpFaultReload_of_rejected {c : Controller} {doc : XmlDocument}
    (hstatus : (parseFile xmlNodeListGetString c doc).map (·.2.1) = .ok (-1)) :
    ∃ printed, qmpFaultReload xmlNodeListGetString c doc = .ok ({ c with
      timerValue := c.clock
      stats := Statistics.initial
      opsOnMemoryCell := fun _ _ => none
      opsOnRegisterCell := fun _ _ => none }, printed) := by
  obtain ⟨printed, hparse⟩ := parseFile_of_rejected _ hstatus
  refine ⟨printed ++ ["Configuration file not loaded\n"], ?_⟩
  simp only [qmpFaultReload, hparse]
  rfl

theorem qmpFaultReload_of_rejected_unparsable :
    (parseFile nodeListText (Controller.loaded Machine.zero []) .unparsable).map (·.2.1) = .ok (-1) ∧
      ∃ printed, qmpFaultReload nodeListText (Controller.loaded Machine.zero []) .unparsable =
        .ok ({ Controller.loaded Machine.zero [] with
          timerValue := 0
          stats := Statistics.initial
          opsOnMemoryCell := fun _ _ => none
          opsOnRegisterCell := fun _ _ => none }, printed) :=
  ⟨rfl, qmpFaultReload_of_rejected nodeListText rfl⟩

/-- An unparsable file still restarts the count: an injection counted before
is gone. -/
theorem qmpFaultReload_unparsable_clears_count :
    (qmpFaultReload nodeListText { Controller.loaded Machine.zero [] with
        stats := { Statistics.initial with numInjectedFaults := 1 } } .unparsable).map
      (·.1.stats.numInjectedFaults) = .ok 0 :=
  rfl

theorem qmpFaultReload_of_id_without_text (hnull : xmlNodeListGetString [] = none)
    (c : Controller) :
    qmpFaultReload xmlNodeListGetString c
        (.root (.element "injection" [.element "fault" [.element "id" []]])) =
      .error (.nullString .strtol) := by
  have hfault : parseFault xmlNodeListGetString (.element "fault" [.element "id" []]) =
      .error (.nullString .strtol) := by
    simp [parseFault, parseFaultChild_id_without_text xmlNodeListGetString Fault.parseDefault hnull,
      XmlNode.children]
  simp [qmpFaultReload, parseFile, XmlNode.name, XmlNode.children, hfault]

theorem qmpFaultReload_bare_fault (c : Controller) :
    ∃ c₁ printed, qmpFaultReload xmlNodeListGetString c
        (.root (.element "injection" [.element "fault" []])) = .ok (c₁, printed) ∧
      c₁.faults = [Fault.parseDefault] ∧ c₁.addressInUse = c.addressInUse :=
  ⟨_, _, rfl, rfl, rfl⟩

/-! ## The fault an element describes

Read as a specification, `parseFault` keeps for each field the last child of
its name, and for each parameter the last child of its name among the
children of all `<params>` elements.  It does so as long as every child it
reads the text of has text: otherwise the NULL key crashes `strtol`,
`strtoul` or `strdup`. -/

def faultFields : List String :=
  ["id", "component", "target", "mode", "trigger", "timer", "type", "duration", "interval"]

def paramFields : List String := ["address", "cf_address", "mask", "instruction", "set_bit"]

def lastText (name : String) (nodes : List XmlNode) : Option String :=
  ((nodes.filter (·.name = name)).getLast?).bind fun node => xmlNodeListGetString node.children

theorem lastText_append_singleton (name : String) (nodes : List XmlNode) (node : XmlNode) :
    lastText xmlNodeListGetString name (nodes ++ [node]) =
      if node.name = name then xmlNodeListGetString node.children else lastText xmlNodeListGetString name nodes := by
  by_cases h : node.name = name <;> simp [lastText, h]

/-- The parameters the children `nodes` of the `<params>` elements give: the
hexadecimal value of the last child of each name, cast to `int`, and -1
without one. -/
def describedParams (nodes : List XmlNode) : Parameters where
  address := ((lastText xmlNodeListGetString "address" nodes).map fun t => BitVec.ofNat 32 (strtoulValue t 16)).getD (-1)
  cfAddress :=
    ((lastText xmlNodeListGetString "cf_address" nodes).map fun t => BitVec.ofNat 32 (strtoulValue t 16)).getD (-1)
  mask := ((lastText xmlNodeListGetString "mask" nodes).map fun t => BitVec.ofInt 32 (strtolValue t 16)).getD (-1)
  instruction :=
    ((lastText xmlNodeListGetString "instruction" nodes).map fun t => BitVec.ofNat 32 (strtoulValue t 16)).getD (-1)
  setBit := ((lastText xmlNodeListGetString "set_bit" nodes).map fun t => BitVec.ofInt 32 (strtolValue t 16)).getD (-1)

/-- The fault the children of a `<fault>` element describe, inactive. -/
def describedFault (children : List XmlNode) : Fault where
  id := ((lastText xmlNodeListGetString "id" children).map fun t => BitVec.ofInt 32 (strtolValue t 10)).getD (-1)
  component := lastText xmlNodeListGetString "component" children
  target := lastText xmlNodeListGetString "target" children
  mode := lastText xmlNodeListGetString "mode" children
  trigger := lastText xmlNodeListGetString "trigger" children
  timer := lastText xmlNodeListGetString "timer" children
  type := lastText xmlNodeListGetString "type" children
  duration := lastText xmlNodeListGetString "duration" children
  interval := lastText xmlNodeListGetString "interval" children
  isActive := false
  params := describedParams xmlNodeListGetString ((children.filter (·.name = "params")).flatMap XmlNode.children)

theorem describedFault_nil : describedFault xmlNodeListGetString [] = Fault.parseDefault :=
  rfl

/-- Every child `parseFault` reads the text of has text. -/
structure TextsPresent (fault : XmlNode) : Prop where
  field : ∀ child ∈ fault.children, child.name ∈ faultFields →
    (xmlNodeListGetString child.children).isSome
  param : ∀ child ∈ fault.children, child.name = "params" → ∀ g ∈ child.children,
    g.name ∈ paramFields → (xmlNodeListGetString g.children).isSome

instance (node : XmlNode) : Decidable (TextsPresent xmlNodeListGetString node) :=
  decidable_of_iff
    ((∀ child ∈ node.children, child.name ∈ faultFields →
        (xmlNodeListGetString child.children).isSome) ∧
      ∀ child ∈ node.children, child.name = "params" → ∀ g ∈ child.children,
        g.name ∈ paramFields → (xmlNodeListGetString g.children).isSome)
    ⟨fun h => ⟨h.1, h.2⟩, fun h => ⟨h.field, h.param⟩⟩

theorem parseParam_described (gs : List XmlNode) {g : XmlNode}
    (hg : g.name ∈ paramFields → (xmlNodeListGetString g.children).isSome) :
    parseParam xmlNodeListGetString (describedParams xmlNodeListGetString gs) g = .ok (describedParams xmlNodeListGetString (gs ++ [g])) := by
  by_cases hmem : g.name ∈ paramFields
  · obtain ⟨t, ht⟩ := Option.isSome_iff_exists.mp (hg hmem)
    simp only [paramFields, List.mem_cons, List.not_mem_nil, or_false] at hmem
    rcases hmem with h | h | h | h | h <;>
      simp [parseParam, describedParams, lastText_append_singleton, h, ht]
  · simp only [paramFields, List.mem_cons, List.not_mem_nil, or_false, not_or] at hmem
    obtain ⟨h₁, h₂, h₃, h₄, h₅⟩ := hmem
    simp [parseParam, describedParams, lastText_append_singleton, h₁, h₂, h₃, h₄, h₅]

theorem foldlM_parseParam_described (gs : List XmlNode) {nodes : List XmlNode}
    (hnodes : ∀ g ∈ nodes, g.name ∈ paramFields → (xmlNodeListGetString g.children).isSome) :
    nodes.foldlM (parseParam xmlNodeListGetString) (describedParams xmlNodeListGetString gs) = .ok (describedParams xmlNodeListGetString (gs ++ nodes)) :=
  Except.foldlM_eq_ok_of_step (fun gs _ hg => parseParam_described _ gs hg) gs hnodes

theorem parseFaultChild_described (cs : List XmlNode) {x : XmlNode}
    (hfield : x.name ∈ faultFields → (xmlNodeListGetString x.children).isSome)
    (hparam : x.name = "params" → ∀ g ∈ x.children, g.name ∈ paramFields →
      (xmlNodeListGetString g.children).isSome) :
    parseFaultChild xmlNodeListGetString (describedFault xmlNodeListGetString cs) x = .ok (describedFault xmlNodeListGetString (cs ++ [x])) := by
  by_cases hmem : x.name ∈ faultFields
  · obtain ⟨t, ht⟩ := Option.isSome_iff_exists.mp (hfield hmem)
    simp only [faultFields, List.mem_cons, List.not_mem_nil, or_false] at hmem
    rcases hmem with h | h | h | h | h | h | h | h | h <;>
      simp [parseFaultChild, describedFault, lastText_append_singleton, h, ht]
  · by_cases hp : x.name = "params"
    · have hfold := foldlM_parseParam_described _
        ((cs.filter (·.name = "params")).flatMap XmlNode.children) (hparam hp)
      simp [parseFaultChild, describedFault, lastText_append_singleton, hp, hfold]
    · simp only [faultFields, List.mem_cons, List.not_mem_nil, or_false, not_or] at hmem
      obtain ⟨h₁, h₂, h₃, h₄, h₅, h₆, h₇, h₈, h₉⟩ := hmem
      simp [parseFaultChild, describedFault, lastText_append_singleton, h₁, h₂, h₃, h₄, h₅, h₆,
        h₇, h₈, h₉, hp]

theorem parseFault_described {node : XmlNode} (htexts : TextsPresent xmlNodeListGetString node) :
    parseFault xmlNodeListGetString node = .ok (describedFault xmlNodeListGetString node.children) := by
  have hrun := Except.foldlM_eq_ok_of_step
    (P := fun x => (x.name ∈ faultFields → (xmlNodeListGetString x.children).isSome) ∧
      (x.name = "params" → ∀ g ∈ x.children, g.name ∈ paramFields →
        (xmlNodeListGetString g.children).isSome))
    (fun cs _ hx => parseFaultChild_described _ cs hx.1 hx.2) []
    (fun x hx => ⟨htexts.field x hx, htexts.param x hx⟩)
  rw [describedFault_nil, List.nil_append] at hrun
  exact hrun

theorem parseFile_faults {c : Controller} {root : XmlNode} {r : Controller × Int × List String}
    (hroot : root.name = "injection") (hparse : parseFile xmlNodeListGetString c (.root root) = .ok r) :
    (root.children.filter (·.name = "fault")).mapM (parseFault xmlNodeListGetString) = .ok r.1.faults := by
  unfold parseFile at hparse
  simp only [hroot, ne_eq, not_true_eq_false, if_false] at hparse
  obtain ⟨faults, hfaults, hrest⟩ := Except.bind_eq_ok_iff.mp hparse
  obtain ⟨⟨cw, warnings⟩, hcw, hpure⟩ := Except.bind_eq_ok_iff.mp hrest
  cases hpure
  rw [hfaults, validateXMLInput_post _ _ hcw]

theorem qmpFaultReload_faults {c c' : Controller} {root : XmlNode} {printed : List String}
    (hroot : root.name = "injection") (hreload : qmpFaultReload xmlNodeListGetString c (.root root) = .ok (c', printed)) :
    (root.children.filter (·.name = "fault")).mapM (parseFault xmlNodeListGetString) = .ok c'.faults := by
  obtain ⟨c₂, status, printed', hparse, hc'⟩ := qmpFaultReload_post _ c _ _ hreload
  have hc'' : c' = _ := hc'
  rw [hc'']
  exact parseFile_faults _ hroot hparse

end Parser

end Fies
