import Mathlib.Logic.Basic

/-!
# Memory fault primitives

The functional fault models of van de Goor, stated on one bit of a cell.  An
access reads the bit or writes a value to it; a fault-free access delivers
the cell's bit (read) or the written bit (write) and leaves the cell holding
the delivered bit.  A single-cell primitive changes the outcome of the
accesses that sensitize it:

* `tf x`, transition fault: a write of `x` over `¬x` fails and the cell keeps `¬x`;
* `wdf x`, write disturb fault: a non-transition write of `x` over `x` flips the cell;
* `rdf x`, read destructive fault: a read of `x` returns `¬x` and stores `¬x`;
* `irf x`, incorrect read fault: a read of `x` returns `¬x`, the cell keeps `x`;
* `drdf x`, deceptive read destructive fault: a read of `x` returns `x` and
  stores `¬x`.

Reads never sensitize `tf` and `wdf`, writes never sensitize the read faults.

A dynamic primitive is sensitized by a write followed by a read.  Its bit
keeps a record of the last write it has seen, `(before, after)`; a read
faults while that record is the primitive's sensitizing write `x → y`, and
reads leave the record as it is:

* `rdf x y` returns `¬y` and stores it, `irf x y` returns `¬y` and keeps the
  cell, `drdf x y` returns the cell's bit and stores `¬y`.

A coupling primitive involves two cells, an aggressor and a victim, whose
bits form a pair `(g, v)`; an access goes to one of the two.  Each primitive
names the aggressor value that sensitizes it and the victim value `y` it is
about:

* `st a y`, state coupling: while the aggressor holds `a`, a victim holding
  `y` reads `¬y`, a write of `y` to it leaves `¬y`, and an access that leaves
  the aggressor at `a` forces a victim holding `y` to `¬y`;
* `ds x w y`, disturb coupling: an access that takes the aggressor from `x`
  to `w` flips a victim holding `y`.  A read of `x` and a write of `x` over
  `x` both take it from `x` to `x`, so they are one sensitization here;
* `tr a y`, transition coupling: while the aggressor holds `a`, a write of
  `¬y` over a victim holding `y` fails;
* `wd a y`, write disturb coupling: while the aggressor holds `a`, a write of
  `y` over a victim holding `y` flips it;
* `rd a y`, `ir a y`, `dr a y`: while the aggressor holds `a`, a read of a
  victim holding `y` returns `¬y` and stores it, returns `¬y` and keeps the
  cell, or returns `y` and stores `¬y`.

A run feeds a list of accesses to a step function and collects the bits
delivered.
-/

namespace FaultPrimitives

/-- An access to one bit of a cell. -/
inductive Op
  | read
  | write (v : Bool)
  deriving DecidableEq, Repr

def faultFree (c : Bool) : Op → Bool × Bool
  | .read => (c, c)
  | .write v => (v, v)

/-- The single-cell static primitives, each with the cell value `x` it is
about. -/
inductive SingleCell
  | tf (x : Bool)
  | wdf (x : Bool)
  | rdf (x : Bool)
  | irf (x : Bool)
  | drdf (x : Bool)
  deriving DecidableEq, Repr

/-- The bit delivered and the bit kept by an access to a cell bit `c` that
carries the primitive. -/
def SingleCell.apply : SingleCell → Bool → Op → Bool × Bool
  | .tf x, c, .write v => if c = !x ∧ v = x then (!x, !x) else (v, v)
  | .wdf x, c, .write v => if c = x ∧ v = x then (!x, !x) else (v, v)
  | .rdf x, c, .read => if c = x then (!x, !x) else (c, c)
  | .irf x, c, .read => if c = x then (!x, c) else (c, c)
  | .drdf x, c, .read => if c = x then (c, !x) else (c, c)
  | _, c, op => faultFree c op

/-! ## Dynamic primitives -/

/-- A bit, and the last write it has seen as `(before, after)`. -/
structure BitState where
  value : Bool
  lastWrite : Option (Bool × Bool)
  deriving DecidableEq, Repr

/-- The dynamic read faults, each with the write `x → y` that sensitizes it. -/
inductive DynamicCell
  | rdf (x y : Bool)
  | irf (x y : Bool)
  | drdf (x y : Bool)
  deriving DecidableEq, Repr

def DynamicCell.sensitizer : DynamicCell → Bool × Bool
  | .rdf x y | .irf x y | .drdf x y => (x, y)

/-- An access to a bit that carries the primitive: a write is fault free and
recorded, a read faults while the record is the sensitizing write. -/
def DynamicCell.access (p : DynamicCell) (s : BitState) : Op → Bool × BitState
  | .write v => (v, ⟨v, some (s.value, v)⟩)
  | .read =>
      if s.lastWrite = some p.sensitizer then
        match p with
        | .rdf _ y => (!y, { s with value := !y })
        | .irf _ y => (!y, s)
        | .drdf _ y => (s.value, { s with value := !y })
      else (s.value, s)

def BitState.faultFreeAccess (s : BitState) (op : Op) : Bool × BitState :=
  ((faultFree s.value op).1, { s with value := (faultFree s.value op).2 })

/-- A bit of a cell whose fault acts through a mask: the primitive where the
mask bit `m` is set, fault free elsewhere. -/
def DynamicCell.maskedAccess (p : DynamicCell) (m : Bool) (s : BitState) (op : Op) :
    Bool × BitState :=
  if m then p.access s op else s.faultFreeAccess op

theorem DynamicCell.maskedAccess_write (p : DynamicCell) (m : Bool) (s : BitState) (v : Bool) :
    p.maskedAccess m s (.write v) = (v, ⟨v, if m then some (s.value, v) else s.lastWrite⟩) := by
  cases m <;> rfl

/-! ## Coupling primitives -/

/-- The cell of an aggressor and victim pair an access goes to. -/
inductive Side
  | aggressor
  | victim
  deriving DecidableEq, Repr

/-- A fault-free access to one cell of the pair `(g, v)`: the bit delivered,
and the pair after the access. -/
def pairFaultFree (gv : Bool × Bool) : Side → Op → Bool × Bool × Bool
  | .aggressor, op => ((faultFree gv.1 op).1, (faultFree gv.1 op).2, gv.2)
  | .victim, op => ((faultFree gv.2 op).1, gv.1, (faultFree gv.2 op).2)

/-- The two-cell static primitives. -/
inductive Coupling
  | st (a y : Bool)
  | ds (x w y : Bool)
  | tr (a y : Bool)
  | wd (a y : Bool)
  | rd (a y : Bool)
  | ir (a y : Bool)
  | dr (a y : Bool)
  deriving DecidableEq, Repr

/-- An access to one cell of the pair `(g, v)` that carries the primitive:
the bit delivered and the pair after it.  The accesses a primitive does not
name are fault free. -/
def Coupling.apply : Coupling → Bool × Bool → Side → Op → Bool × Bool × Bool
  | .st a y, (g, v), .aggressor, op =>
      ((faultFree g op).1, (faultFree g op).2,
        if (faultFree g op).2 = a ∧ v = y then !y else v)
  | .st a y, (g, v), .victim, .read => if g = a ∧ v = y then (!y, g, v) else (v, g, v)
  | .st a y, (g, _), .victim, .write w => if g = a ∧ w = y then (!y, g, !y) else (w, g, w)
  | .ds x w y, (g, v), .aggressor, op =>
      ((faultFree g op).1, (faultFree g op).2,
        if g = x ∧ (faultFree g op).2 = w ∧ v = y then !y else v)
  | .tr a y, (g, v), .victim, .write w =>
      if g = a ∧ v = y ∧ w = !y then (y, g, y) else (w, g, w)
  | .wd a y, (g, v), .victim, .write w =>
      if g = a ∧ v = y ∧ w = y then (!y, g, !y) else (w, g, w)
  | .rd a y, (g, v), .victim, .read => if g = a ∧ v = y then (!y, g, !y) else (v, g, v)
  | .ir a y, (g, v), .victim, .read => if g = a ∧ v = y then (!y, g, v) else (v, g, v)
  | .dr a y, (g, v), .victim, .read => if g = a ∧ v = y then (v, g, !y) else (v, g, v)
  | _, gv, side, op => pairFaultFree gv side op

/-! ## Runs -/

/-- A run of accesses through `step`: the bits delivered, in order, and the
state left. -/
def runAccesses {σ : Type} (step : σ → Op → Bool × σ) : σ → List Op → List Bool × σ
  | s, [] => ([], s)
  | s, op :: ops =>
      let rest := runAccesses step (step s op).2 ops
      ((step s op).1 :: rest.1, rest.2)

@[simp] theorem runAccesses_nil {σ : Type} (step : σ → Op → Bool × σ) (s : σ) :
    runAccesses step s [] = ([], s) :=
  rfl

@[simp] theorem runAccesses_cons {σ : Type} (step : σ → Op → Bool × σ) (s : σ) (op : Op)
    (ops : List Op) :
    runAccesses step s (op :: ops) =
      ((step s op).1 :: (runAccesses step (step s op).2 ops).1,
        (runAccesses step (step s op).2 ops).2) :=
  rfl

end FaultPrimitives
