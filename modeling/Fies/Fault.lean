import Fies.CRuntime

/-!
# Fault records and their time fields

The entries of the fault list (`struct Fault` and `struct parameters` of
`fault-injection-library.h`), the access and injection kinds that the hooks
hand to the controller (`fault-injection-controller.h`), the
`FaultInjectionInfo` flags of the injector (`fault-injection-injector.h`) and
the cell operations recorded for dynamic faults.

Every string field is a C string that may be NULL.  The numeric fields are C
`int`s, kept as their 32-bit patterns.  The module ends with the conversion of
the time fields, `ends_with`, `timer_to_int` and `time_normalization` of
`fault-injection-controller.c`.
-/

namespace Fies

open CRuntime

/-- `struct parameters`: the `<params>` of a fault. -/
structure Parameters where
  address : BitVec 32
  cfAddress : BitVec 32
  mask : BitVec 32
  instruction : BitVec 32
  setBit : BitVec 32
  deriving DecidableEq, Repr

/-- `struct Fault`, one entry of the fault list; the list link is the Lean list
the entry sits in.  `isActive` is the `int is_active`, only ever 0 or 1. -/
structure Fault where
  id : BitVec 32
  component : Option String
  target : Option String
  mode : Option String
  trigger : Option String
  timer : Option String
  type : Option String
  duration : Option String
  interval : Option String
  isActive : Bool
  params : Parameters
  deriving DecidableEq, Repr

/-- A PERMANENT fault with id 1 and the given trigger, component, target, mode
and parameters, inactive and without time fields, as the loader builds it. -/
def Fault.permanent (trigger component target mode : String) (params : Parameters) : Fault :=
  ⟨1, some component, some target, some mode, some trigger, none, some "PERMANENT", none, none,
    false, params⟩

/-- `AccessType`.  The time and register-decoder hooks pass `-1`, which is
none of the enumerators: that is `unspecified`. -/
inductive AccessType
  | readAccessType
  | writeAccessType
  | execAccessType
  | unspecified
  deriving DecidableEq, Repr

/-- `InjectionMode`: which hook calls the controller. -/
inductive InjectionMode
  | fiMemoryAddr
  | fiMemoryContent
  | fiRegisterAddr
  | fiRegisterContent
  | fiInsn
  | fiTime
  deriving DecidableEq, Repr

/-- `FaultInjectionInfo`: the flags that select an injector function, each a
`uint32_t`. -/
structure FaultInjectionInfo where
  faultOnAddress : BitVec 32
  accessTriggeredContentFault : BitVec 32
  faultOnRegister : BitVec 32
  injectedBit : BitVec 32
  bitFlip : BitVec 32
  bitValue : BitVec 32
  newValue : BitVec 32
  deriving DecidableEq, Repr

/-- `FaultInjectionInfo fi_info = {0, 0, 0, 0, 0, 0, 0}`. -/
def FaultInjectionInfo.zero : FaultInjectionInfo :=
  ⟨0, 0, 0, 0, 0, 0, 0⟩

/-- `CellOps`: the last write seen by one bit of a cell, `x` before and `y`
after for `opsXwY`.  The arrays hold `-1` where nothing is recorded. -/
inductive CellOps
  | ops0w0
  | ops0w1
  | ops1w0
  | ops1w1
  deriving DecidableEq, Repr

def CellOps.ofWrite (before after : Bool) : CellOps :=
  match before, after with
  | false, false => .ops0w0
  | false, true => .ops0w1
  | true, false => .ops1w0
  | true, true => .ops1w1

/-- The byte at position `i` of a C string, `'\0'` at its terminator. -/
def cChar (s : String) (i : Nat) : Char :=
  s.toList.getD i '\x00'

/-! ## Time fields -/

/-- `ends_with(string, ending)`. -/
def endsWith (string ending : Option String) : Except CError Bool := do
  let stringLen ← strlen string
  let endingLen ← strlen ending
  if endingLen > stringLen then
    return false
  let string ← deref .strcmp string
  let ending ← deref .strcmp ending
  pure (string.toList.drop (stringLen - endingLen) = ending.toList)

/-- `timer_to_int(string)`: the number before a two-character unit, through
`strtol` and a cast to `int`; strings shorter than three characters give 0. -/
def timerToInt (string : Option String) : Except CError (BitVec 32) := do
  let stringLen ← strlen string
  if stringLen < 3 then
    return 0
  let string ← deref .strlen string
  let timerString := String.ofList (string.toList.take (stringLen - 2))
  let value ← strtol (some timerString) 10
  pure (BitVec.ofInt 32 value)

/-- `SCALE_MS`, `SCALE_US` and `SCALE_NS` of `qemu/timer.h`. -/
def scaleMs : Int := 1000000
def scaleUs : Int := 1000
def scaleNs : Int := 1

/-- `time_normalization(fault, &start, &stop, interval)`: start, stop and,
when `withInterval` (a non-NULL `interval` argument), the interval, in
nanoseconds.  The unit is read from the timer alone, and the interval is
scaled by `SCALE_MS` whatever that unit is. -/
def timeNormalization (fault : Fault) (withInterval : Bool) :
    Except CError (Int × Int × Int) := do
  let startTime := (← timerToInt fault.timer).toInt
  let stopTime := (← timerToInt fault.duration).toInt
  let interval ← if withInterval then pure (← timerToInt fault.interval).toInt else pure 0
  let scaleInterval (scale : Int) := if withInterval then interval * scale else interval
  match fault.timer with
  | none => pure (startTime, stopTime, interval)
  | some _ =>
      if ← endsWith fault.timer (some "MS") then
        pure (startTime * scaleMs, stopTime * scaleMs, scaleInterval scaleMs)
      else if ← endsWith fault.timer (some "US") then
        pure (startTime * scaleUs, stopTime * scaleUs, scaleInterval scaleMs)
      else if ← endsWith fault.timer (some "NS") then
        pure (startTime * scaleNs, stopTime * scaleNs, scaleInterval scaleMs)
      else
        pure (startTime, stopTime, interval)

end Fies
