import Grunt.Stack
import Grunt.Input
import Grunt.Output

/-!
# The interpreter

This module transcribes `grunt.c` and the `grunt_vm_*.c` files: the registers `g_ra`,
`g_rb` and `g_pc`, one function per instruction, `grunt_vm_step`, and the main loop of
`GRUNT_Run`.  Every function returns a status, `0` for success, after writing the globals;
a failing function keeps what it wrote before it failed, as in C.  The state monad over
the globals with the status as its exception does exactly that.

Two constants of the host are parameters: the byte order the input casts read with, and
the output line capacity `CFE_MISSION_EVS_MAX_MESSAGE_LENGTH`.  The events the host
receives from `CFE_EVS_SendEvent` are recorded in the state, oldest first.
-/

namespace Grunt

/-- The interpreter's globals. -/
structure Vm where
  ra : Value
  rb : Value
  pc : Fin 65536
  stack : Stack
  input : Input
  output : Output
  events : List Event

/-- The globals as the C runtime sets them when the library is loaded: static storage is
zero, so the registers and the slots hold a false `gt_bool`, the input pointer is `NULL`,
the string table is empty and the line is all NULs.  No event has been sent. -/
def Vm.boot (C : Nat) : Vm :=
  ⟨.bool false, .bool false, 0, ⟨fun _ => .bool false, 0, 0, by decide⟩, ⟨none, 0, 0⟩,
    ⟨[], 0, List.replicate C '\x00', 0⟩, []⟩

/-- The interpreter's functions: they write the globals and return a status. -/
abbrev VmM := EStateM Status Vm

/-- The two value registers. -/
inductive Reg
  | ra
  | rb
  deriving DecidableEq, Repr

namespace Vm

/-- The value a register holds. -/
def reg (vm : Vm) : Reg → Value
  | .ra => vm.ra
  | .rb => vm.rb

/-- Write a register. -/
def setReg (vm : Vm) : Reg → Value → Vm
  | .ra, v => { vm with ra := v }
  | .rb, v => { vm with rb := v }

@[simp] theorem setReg_pc (vm : Vm) (r : Reg) (v : Value) : (vm.setReg r v).pc = vm.pc := by
  cases r <;> rfl
@[simp] theorem setReg_stack (vm : Vm) (r : Reg) (v : Value) :
    (vm.setReg r v).stack = vm.stack := by cases r <;> rfl
@[simp] theorem setReg_input (vm : Vm) (r : Reg) (v : Value) :
    (vm.setReg r v).input = vm.input := by cases r <;> rfl
@[simp] theorem setReg_output (vm : Vm) (r : Reg) (v : Value) :
    (vm.setReg r v).output = vm.output := by cases r <;> rfl
@[simp] theorem setReg_events (vm : Vm) (r : Reg) (v : Value) :
    (vm.setReg r v).events = vm.events := by cases r <;> rfl
@[simp] theorem reg_setReg (vm : Vm) (r : Reg) (v : Value) : (vm.setReg r v).reg r = v := by
  cases r <;> rfl

/-- Call a function of the stack, input or output module on the globals; its error
leaves them as they were. -/
def lift (f : Vm → Except Status Vm) : VmM Unit := fun vm =>
  match f vm with
  | .ok vm' => .ok () vm'
  | .error e => .error e vm

/-- `grunt_stack_arg_pop(p_r)`: the popped value lands in the register. -/
def argPop (r : Reg) : VmM Unit :=
  lift fun vm => vm.stack.argPop.map fun p => { vm.setReg r p.1 with stack := p.2 }

/-- `grunt_stack_arg_push(p_v)`. -/
def argPush (v : Value) : VmM Unit :=
  lift fun vm => (vm.stack.argPush v).map fun s => { vm with stack := s }

/-- `grunt_stack_ctl_pop(p_ra)`. -/
def ctlPop : VmM Unit :=
  lift fun vm => vm.stack.ctlPop.map fun p => { vm with ra := p.1, stack := p.2 }

/-- `grunt_stack_ctl_push(p_v)`. -/
def ctlPush (v : Value) : VmM Unit :=
  lift fun vm => (vm.stack.ctlPush v).map fun s => { vm with stack := s }

/-- `grunt_stack_arg_dup(n)`. -/
def argDup (n : Nat) : VmM Unit :=
  lift fun vm => (vm.stack.argDup n).map fun s => { vm with stack := s }

/-- `grunt_stack_arg_roll(n)`. -/
def argRoll (n : Nat) : VmM Unit :=
  lift fun vm => (vm.stack.argRoll n).map fun s => { vm with stack := s }

/-- `grunt_input_dequeue(p_ra, n)`. -/
def dequeue (o : ByteOrder) (n : Nat) : VmM Unit :=
  lift fun vm => (Grunt.inputDequeue o n vm.input).map fun p => { vm with ra := p.1, input := p.2 }

/-- `grunt_input_rewind(n)`. -/
def rewind (n : Nat) : VmM Unit :=
  lift fun vm => (Grunt.inputRewind n vm.input).map fun i => { vm with input := i }

/-- A `grunt_output_enqueue_*` function. -/
def enqueue (f : Output → Except Status Output) : VmM Unit :=
  lift fun vm => (f vm.output).map fun out => { vm with output := out }

end Vm

open Vm

section Instructions

variable (o : ByteOrder) (C : Nat)

/-- `grunt_stack_arg_pop(p_r)` followed by a read of `*p_r`. -/
def popInto (r : Reg) : VmM Value := do
  argPop r
  return (← get).reg r

/-- Pop into a register and require a number there, as every `grunt_vm_*` function does
before it reads `val.num`. -/
def popNum (r : Reg) : VmM Number := do
  let .num n ← popInto r | throw .invalidArgument
  return n

/-- Pop into a register and require a Boolean there. -/
def popBool (r : Reg) : VmM Bool := do
  let .bool b ← popInto r | throw .invalidArgument
  return b

/-- Store a result in `g_ra` and push `g_ra`. -/
def pushRa (v : Value) : VmM Unit := do
  modify fun vm => { vm with ra := v }
  argPush (← get).ra

/-- `grunt_vm_add_sub`: the sum or difference of the top two numbers, refused when it
leaves the range of `grunt_number_t`. -/
def vmAddSub (addFlag : Bool) : VmM Unit := do
  let b ← popNum .rb
  let a ← popNum .ra
  if addFlag then
    if b.val > numMax.val - a.val then throw .outOfBounds
    pushRa (.num (a + b))
  else
    if a.val < b.val then throw .outOfBounds
    pushRa (.num (a - b))

/-- The `val.b` member of a value, as `grunt_vm_and_or` reads it from `g_ra`. -/
def Value.valB : Value → Bool
  | .bool b => b
  | _ => false

/-- The loop of `grunt_vm_and_or`: `k` more Booleans popped into `g_rb` and combined into
`g_ra`. -/
def andOrLoop (andFlag : Bool) : Nat → VmM Unit
  | 0 => pure ()
  | k + 1 => do
    let b ← popBool .rb
    modify fun vm => { vm with ra := .bool (if andFlag then vm.ra.valB && b else vm.ra.valB || b) }
    andOrLoop andFlag k

/-- `grunt_vm_and_or`. -/
def vmAndOr (n : Nat) (andFlag : Bool) : VmM Unit := do
  if n < 2 then throw .invalidLiteral
  let _ ← popBool .ra
  andOrLoop andFlag (n - 1)
  argPush (← get).ra

/-- The `val.num` member of a value, as `grunt_vm_eq` reads it from `g_ra`. -/
def Value.valNum : Value → Number
  | .num n => n
  | _ => 0

/-- The loop of `grunt_vm_eq`: `k` more numbers popped into `g_rb` and compared with
`g_ra`, clearing `equal_flag` at a difference. -/
def eqLoop : Nat → Bool → VmM Bool
  | 0, equalFlag => pure equalFlag
  | k + 1, equalFlag => do
    let b ← popNum .rb
    eqLoop k (if (← get).ra.valNum ≠ b then false else equalFlag)

/-- `grunt_vm_eq`. -/
def vmEq (n : Nat) : VmM Unit := do
  if n < 2 then throw .invalidLiteral
  let _ ← popNum .ra
  let equalFlag ← eqLoop (n - 1) true
  pushRa (.bool equalFlag)

/-- `grunt_vm_lt_gt`. -/
def vmLtGt (ltFlag : Bool) : VmM Unit := do
  let b ← popNum .rb
  let a ← popNum .ra
  pushRa (.bool (if ltFlag then decide (a < b) else decide (a > b)))

/-- `grunt_vm_not`. -/
def vmNot : VmM Unit := do
  let a ← popBool .ra
  pushRa (.bool !a)

/-- `grunt_vm_dup`. -/
def vmDup (reps : Nat) : VmM Unit := do
  if reps < 1 then throw .invalidLiteral
  argDup reps

/-- The loop of `grunt_vm_pop`. -/
def popLoop : Nat → VmM Unit
  | 0 => pure ()
  | k + 1 => do argPop .ra; popLoop k

/-- `grunt_vm_pop`. -/
def vmPop (reps : Nat) : VmM Unit := do
  if reps < 1 then throw .invalidLiteral
  popLoop reps

/-- `grunt_vm_pushb`, `grunt_vm_pushn` and `grunt_vm_pushs`: push a literal of the
instruction's type. -/
def vmPushTyped (t : ValueType) (literal : Value) : VmM Unit := do
  if literal.type ≠ t then throw .invalidLiteral
  argPush literal

/-- `grunt_vm_pushb`. -/
def vmPushb (literal : Value) : VmM Unit := vmPushTyped .bool literal
/-- `grunt_vm_pushn`. -/
def vmPushn (literal : Value) : VmM Unit := vmPushTyped .num literal
/-- `grunt_vm_pushs`. -/
def vmPushs (literal : Value) : VmM Unit := vmPushTyped .str literal

/-- `grunt_vm_roll`. -/
def vmRoll (reps : Nat) : VmM Unit := do
  if reps < 2 then throw .invalidLiteral
  argRoll reps

/-- `grunt_vm_call`: only forward calls; the incremented `g_pc` goes on the control stack
through `g_ra`. -/
def vmCall (literal : Value) : VmM Unit := do
  let .pc target := literal | throw .invalidLiteral
  if target < (← get).pc then throw .noLoops
  modify fun vm => { vm with ra := .pc vm.pc }
  ctlPush (← get).ra
  modify fun vm => { vm with pc := target }

/-- `grunt_vm_halt`. -/
def vmHalt : VmM Unit := do
  let b ← popBool .ra
  throw (if b then .haltTrue else .haltFalse)

/-- `grunt_vm_jmpif`: a relative jump of at least two, taken when the popped Boolean is
true. -/
def vmJmpif (literal : Value) : VmM Unit := do
  let .pc offset := literal | throw .invalidLiteral
  if offset.val < 2 then throw .invalidLiteral
  let b ← popBool .ra
  if !b then return
  if offset.val > 65535 - (← get).pc.val then throw .noProgram
  modify fun vm => { vm with pc := vm.pc + (offset - 1) }

/-- `grunt_vm_return`: the popped control-stack entry becomes `g_pc`. -/
def vmReturn : VmM Unit := do
  ctlPop
  modify fun vm => { vm with pc := vm.ra.valPc }

/-- `grunt_vm_flush`: the first popped number is passed to `grunt_output_flush` as the
event type and the second as the event identifier. -/
def vmFlush : VmM Unit := do
  let a ← popNum .ra
  let b ← popNum .rb
  modify fun vm =>
    let (event, out) := outputFlush C a b vm.output
    { vm with output := out, events := vm.events ++ [event] }

/-- `grunt_vm_input`. -/
def vmInput (n : Nat) : VmM Unit := do
  if n ≠ 4 ∧ n ≠ 2 ∧ n ≠ 1 then throw .invalidLiteral
  dequeue o n
  argPush (← get).ra

/-- `grunt_vm_output`: the popped value appended to the line by its type. -/
def vmOutput : VmM Unit := do
  match ← popInto .ra with
  | .bool b => enqueue (outputEnqueueBoolean C b)
  | .num u => enqueue (outputEnqueueNumber C u)
  | .str s => enqueue (outputEnqueueString C s)
  | .pc _ => throw .invalidArgument

/-- `grunt_vm_rewind`. -/
def vmRewind (reps : Nat) : VmM Unit := rewind reps

/-- `grunt_vm_step`: advance `g_pc`, then run the instruction. -/
def vmStep (i : Instruction) : VmM Unit := do
  modify fun vm => { vm with pc := vm.pc + 1 }
  match i.opcode with
  | some .add => vmAddSub true
  | some .and => vmAndOr i.rep true
  | some .call => vmCall i.lit
  | some .dup => vmDup i.rep
  | some .eq => vmEq i.rep
  | some .flush => vmFlush C
  | some .gt => vmLtGt false
  | some .halt => vmHalt
  | some .input => vmInput o i.rep
  | some .jmpif => vmJmpif i.lit
  | some .lt => vmLtGt true
  | some .not => vmNot
  | some .output => vmOutput C
  | some .or => vmAndOr i.rep false
  | some .pop => vmPop i.rep
  | some .pushb => vmPushb i.lit
  | some .pushn => vmPushn i.lit
  | some .pushs => vmPushs i.lit
  | some .return => vmReturn
  | some .rewind => vmRewind i.rep
  | some .roll => vmRoll i.rep
  | some .sub => vmAddSub false
  | none => throw .invalidOpcode

end Instructions

end Grunt
