import Grunt.Value

/-!
# The dual stack

This module transcribes `grunt_stack.c`.  One array of `GRUNT_STACK_SIZE` slots holds an
argument stack growing up from slot `0` and a control stack growing down from the last
slot; two counters say how many slots each one uses.  Every function checks its
preconditions before it writes, so an error is an `Except.error` that carries no new
state.  The bound `argc + ctlc ≤ GRUNT_STACK_SIZE` is a field of the state: each
operation proves it from the checks it makes.

`memcpy` between slots of the array is read as a block copy, as `memmove` would do it.
`grunt_stack_arg_roll` calls it with overlapping ranges, where C leaves the result to the
platform; the block-copy reading is an assumption about the C library the program is built
with.
-/

namespace Grunt

/-- `GRUNT_STACK_SIZE`. -/
def stackSize : Nat := 2 * 16

@[simp] theorem stackSize_eq : stackSize = 32 := rfl

/-- `memcpy(&a[dst], &a[src], len)` within one array, read as a block copy: every
destination slot receives what the source slot held before the call. -/
def memcpy {α : Type} (dst src len : Nat) (a : Nat → α) : Nat → α :=
  fun i => if dst ≤ i ∧ i < dst + len then a (src + (i - dst)) else a i

/-- The globals `g_stack`, `g_argument_count` and `g_control_count`.  Slots are indexed by
`Nat`; the code only touches `[0, stackSize)`. -/
structure Stack where
  slots : Nat → Value
  argc : Nat
  ctlc : Nat
  bounded : argc + ctlc ≤ stackSize

namespace Stack

/-- `grunt_stack_init`: both stacks empty; the slots keep their stale values. -/
def init (s : Stack) : Stack := ⟨s.slots, 0, 0, by simp⟩

/-- `grunt_stack_arg_push`. -/
def argPush (v : Value) (s : Stack) : Except Status Stack :=
  if ¬(v.type = .bool ∨ v.type = .num ∨ v.type = .str) then .error .interpreterBug
  else if h : s.argc + s.ctlc + 1 > stackSize then .error .outOfBounds
  else .ok ⟨Function.update s.slots s.argc v, s.argc + 1, s.ctlc, by omega⟩

/-- `grunt_stack_arg_pop`: the popped value and the stack without it. -/
def argPop (s : Stack) : Except Status (Value × Stack) :=
  if s.argc = 0 then .error .outOfBounds
  else .ok (s.slots (s.argc - 1), ⟨s.slots, s.argc - 1, s.ctlc, by have := s.bounded; omega⟩)

/-- `grunt_stack_arg_dup`. -/
def argDup (n : Nat) (s : Stack) : Except Status Stack :=
  if n = 0 then .error .interpreterBug
  else if s.argc < n then .error .outOfBounds
  else if h : s.argc + s.ctlc + n > stackSize then .error .outOfBounds
  else .ok ⟨memcpy s.argc (s.argc - n) n s.slots, s.argc + n, s.ctlc, by omega⟩

/-- `grunt_stack_arg_roll`: the top slot is saved, the `n - 1` slots below it move up one,
and the saved value goes `n`-th from the top. -/
def argRoll (n : Nat) (s : Stack) : Except Status Stack :=
  if n < 2 then .error .interpreterBug
  else if s.argc < n then .error .outOfBounds
  else
    let temp := s.slots (s.argc - 1)
    let moved := memcpy (s.argc - n + 1) (s.argc - n) (n - 1) s.slots
    .ok ⟨Function.update moved (s.argc - n) temp, s.argc, s.ctlc, s.bounded⟩

/-- `grunt_stack_ctl_push`. -/
def ctlPush (v : Value) (s : Stack) : Except Status Stack :=
  if v.type ≠ .pc then .error .interpreterBug
  else if h : s.argc + s.ctlc + 1 > stackSize then .error .outOfBounds
  else .ok ⟨Function.update s.slots (stackSize - 1 - s.ctlc) v, s.argc, s.ctlc + 1, by omega⟩

/-- `grunt_stack_ctl_pop`: the popped value and the stack without it. -/
def ctlPop (s : Stack) : Except Status (Value × Stack) :=
  if s.ctlc = 0 then .error .outOfBounds
  else .ok (s.slots (stackSize - 1 - (s.ctlc - 1)),
    ⟨s.slots, s.argc, s.ctlc - 1, by have := s.bounded; omega⟩)

end Stack

end Grunt
