import Mathlib.Data.BitVec

/-!
# C strings and the run-time failures of the C library

A `char *` is modelled as `Option String`, with `none` for the NULL pointer;
the strings read from a fault library are ASCII, so a character is a byte.
The string functions of the C library that receive a NULL pointer crash the
program; the model returns the error `CError.nullString` naming the callee.
Integer division by zero and an index past the end of an array are the other
run-time failures met in the controller.

`strtol` and `strtoul` follow their documented behaviour: leading white space,
an optional sign, for base 16 an optional `0x` prefix, then the longest run of
digits of the base; no digit gives 0, and a value out of range is clamped
(`strtol`) or wraps after negation (`strtoul`) as the C standard says.
-/

namespace CRuntime

/-- The C library functions whose NULL arguments the model tracks. -/
inductive LibcFunction
  | strcmp
  | strlen
  | strtol
  | strtoul
  | strdup
  deriving DecidableEq, Repr

/-- A run-time failure of the C program.  `outOfBounds` is an array indexed
past its allocation, which reads a wild pointer. -/
inductive CError
  | nullString (callee : LibcFunction)
  | divisionByZero
  | outOfBounds
  deriving DecidableEq, Repr

/-- Dereferencing a C string: NULL is a crash in `callee`. -/
def deref (callee : LibcFunction) : Option String → Except CError String
  | none => .error (.nullString callee)
  | some s => .ok s

/-- `strcmp(s, t)` against a literal `t`: zero exactly for equal strings, with
the sign of the first differing character otherwise. -/
def strcmp (s : Option String) (t : String) : Except CError Int := do
  let s ← deref .strcmp s
  pure (if s = t then 0 else if s < t then -1 else 1)

/-- `strlen(s)`. -/
def strlen (s : Option String) : Except CError Nat := do
  let s ← deref .strlen s
  pure s.length

/-- `strdup(s)`: a fresh copy, so as a value the string itself. -/
def strdup (s : Option String) : Except CError String :=
  deref .strdup s

@[simp] theorem strcmp_some (s t : String) :
    strcmp (some s) t = .ok (if s = t then 0 else if s < t then -1 else 1) := rfl

@[simp] theorem strcmp_none (t : String) :
    strcmp none t = .error (.nullString .strcmp) := rfl

@[simp] theorem strcmp_sign_ne_zero (b : Prop) [Decidable b] : (if b then (-1 : Int) else 1) ≠ 0 := by
  split <;> decide

/-! ## Number conversion -/

/-- `isspace` in the C locale. -/
def isspace (c : Char) : Bool :=
  c = ' ' || c = '\t' || c = '\n' || c = '\x0B' || c = '\x0C' || c = '\r'

def digitValue (c : Char) : Nat :=
  if '0' ≤ c ∧ c ≤ '9' then c.toNat - '0'.toNat
  else if 'a' ≤ c ∧ c ≤ 'z' then c.toNat - 'a'.toNat + 10
  else if 'A' ≤ c ∧ c ≤ 'Z' then c.toNat - 'A'.toNat + 10
  else 36

/-- The longest run of digits of `base` at the front, accumulated onto `acc`. -/
def readDigits (base : Nat) : List Char → Nat → Nat
  | [], acc => acc
  | c :: cs, acc =>
      if digitValue c < base then readDigits base cs (acc * base + digitValue c) else acc

/-- Sign and magnitude of the number at the front of `cs`, as `strtol` and
`strtoul` scan it. -/
def scanNumber (base : Nat) (cs : List Char) : Bool × Nat :=
  let cs := cs.dropWhile isspace
  let (negative, cs) :=
    match cs with
    | '-' :: rest => (true, rest)
    | '+' :: rest => (false, rest)
    | _ => (false, cs)
  let cs :=
    match base, cs with
    | 16, '0' :: 'x' :: rest => rest
    | 16, '0' :: 'X' :: rest => rest
    | _, _ => cs
  (negative, readDigits base cs 0)

/-- `LONG_MAX` of the 64-bit host. -/
def longMax : Int := 2 ^ 63 - 1

/-- `strtol(s, NULL, base)` with a 64-bit `long`. -/
def strtol (s : Option String) (base : Nat) : Except CError Int := do
  let s ← deref .strtol s
  let (negative, magnitude) := scanNumber base s.toList
  pure <|
    if negative then
      if (magnitude : Int) > longMax + 1 then -(longMax + 1) else -(magnitude : Int)
    else
      if (magnitude : Int) > longMax then longMax else magnitude

/-- `strtoul(s, NULL, base)` with a 64-bit `unsigned long`: an out-of-range
magnitude gives `ULONG_MAX` whatever the sign, a `-` negates modulo 2^64. -/
def strtoul (s : Option String) (base : Nat) : Except CError Nat := do
  let s ← deref .strtoul s
  let (negative, magnitude) := scanNumber base s.toList
  pure <|
    if magnitude ≥ 2 ^ 64 then 2 ^ 64 - 1
    else if negative then (2 ^ 64 - magnitude) % 2 ^ 64 else magnitude

def strtolValue (s : String) (base : Nat) : Int :=
  let (negative, magnitude) := scanNumber base s.toList
  if negative then
    if (magnitude : Int) > longMax + 1 then -(longMax + 1) else -(magnitude : Int)
  else
    if (magnitude : Int) > longMax then longMax else magnitude

def strtoulValue (s : String) (base : Nat) : Nat :=
  let (negative, magnitude) := scanNumber base s.toList
  if magnitude ≥ 2 ^ 64 then 2 ^ 64 - 1
  else if negative then (2 ^ 64 - magnitude) % 2 ^ 64 else magnitude

@[simp] theorem strtol_some (s : String) (base : Nat) :
    strtol (some s) base = .ok (strtolValue s base) :=
  rfl

@[simp] theorem strtoul_some (s : String) (base : Nat) :
    strtoul (some s) base = .ok (strtoulValue s base) :=
  rfl

@[simp] theorem strdup_some (s : String) : strdup (some s) = .ok s :=
  rfl

end CRuntime
