import Grunt.StackRefinement
import Grunt.Vm

/-!
# The abstract machine

What a Grunt instruction does, stated over the two stacks of the specification as lists,
with no registers and no shared array.  Each instruction is the interpreter's function
with every register read replaced by the value last written to it, so the two are run in
lock step; `Grunt.Simulation` proves that the interpreter refines this machine, and the
properties of runs are proved here, where a state is a few lists.

A failing instruction keeps what it did before it failed, as in the interpreter, so a
failure carries a state too.
-/

namespace Grunt

/-- The observable state of the interpreter: `pc`, the two stacks, the input window, the
output line and the events sent so far. -/
structure Machine where
  pc : Fin 65536
  stack : TwoStacks
  input : Input
  output : Output
  events : List Event

/-- Instructions of the abstract machine. -/
abbrev MachM := EStateM Status Machine

namespace Machine

/-- Call a function of the stack, input or output module; its error leaves the state as
it was. -/
def lift (f : Machine → Except Status Machine) : MachM Unit := fun m =>
  match f m with
  | .ok m' => .ok () m'
  | .error e => .error e m

/-- Pop the argument stack. -/
def argPop : MachM Value := fun m =>
  match m.stack.argPop with
  | .ok (v, t) => .ok v { m with stack := t }
  | .error e => .error e m

/-- Pop the control stack. -/
def ctlPop : MachM Value := fun m =>
  match m.stack.ctlPop with
  | .ok (v, t) => .ok v { m with stack := t }
  | .error e => .error e m

/-- Push on the argument stack. -/
def push (v : Value) : MachM Unit :=
  lift fun m => (m.stack.argPush v).map fun t => { m with stack := t }

/-- Push on the control stack. -/
def ctlPush (v : Value) : MachM Unit :=
  lift fun m => (m.stack.ctlPush v).map fun t => { m with stack := t }

/-- Pop and require a number. -/
def popNum : MachM Number := do
  let .num n ← argPop | throw .invalidArgument
  return n

/-- Pop and require a Boolean. -/
def popBool : MachM Bool := do
  let .bool b ← argPop | throw .invalidArgument
  return b

/-- `ADD` and `SUB`: the operands are the second and the top argument. -/
def addSub (addFlag : Bool) : MachM Unit := do
  let b ← popNum
  let a ← popNum
  if addFlag then
    if b.val > numMax.val - a.val then throw .outOfBounds
    push (.num (a + b))
  else
    if a.val < b.val then throw .outOfBounds
    push (.num (a - b))

/-- `k` more Booleans combined into `acc`. -/
def andOrLoop (andFlag : Bool) : Nat → Bool → MachM Bool
  | 0, acc => pure acc
  | k + 1, acc => do
    let b ← popBool
    andOrLoop andFlag k (if andFlag then acc && b else acc || b)

/-- `AND(n)` and `OR(n)`: the conjunction or disjunction of the top `n` Booleans. -/
def andOr (n : Nat) (andFlag : Bool) : MachM Unit := do
  if n < 2 then throw .invalidLiteral
  let a ← popBool
  let r ← andOrLoop andFlag (n - 1) a
  push (.bool r)

/-- `k` more numbers compared with `a`. -/
def eqLoop (a : Number) : Nat → Bool → MachM Bool
  | 0, equalFlag => pure equalFlag
  | k + 1, equalFlag => do
    let b ← popNum
    eqLoop a k (if a ≠ b then false else equalFlag)

/-- `EQ(n)`: whether the top `n` numbers are all equal. -/
def eq (n : Nat) : MachM Unit := do
  if n < 2 then throw .invalidLiteral
  let a ← popNum
  let r ← eqLoop a (n - 1) true
  push (.bool r)

/-- `LT` and `GT`: the second argument compared with the top one. -/
def ltGt (ltFlag : Bool) : MachM Unit := do
  let b ← popNum
  let a ← popNum
  push (.bool (if ltFlag then decide (a < b) else decide (a > b)))

/-- `NOT`. -/
def not : MachM Unit := do
  let a ← popBool
  push (.bool !a)

/-- `DUP(n)`. -/
def dup (reps : Nat) : MachM Unit := do
  if reps < 1 then throw .invalidLiteral
  lift fun m => (m.stack.argDup reps).map fun t => { m with stack := t }

/-- Discard `k` arguments. -/
def popLoop : Nat → MachM Unit
  | 0 => pure ()
  | k + 1 => do
    let _ ← argPop
    popLoop k

/-- `POP(n)`. -/
def pop (reps : Nat) : MachM Unit := do
  if reps < 1 then throw .invalidLiteral
  popLoop reps

/-- `PUSHB`, `PUSHN` and `PUSHS`. -/
def pushTyped (ty : ValueType) (literal : Value) : MachM Unit := do
  if literal.type ≠ ty then throw .invalidLiteral
  push literal

/-- `ROLL(n)`. -/
def roll (reps : Nat) : MachM Unit := do
  if reps < 2 then throw .invalidLiteral
  lift fun m => (m.stack.argRoll reps).map fun t => { m with stack := t }

/-- `CALL(sub)`, with `pc` already advanced: push `pc` and go to `sub`, never backwards. -/
def call (literal : Value) : MachM Unit := do
  let .pc target := literal | throw .invalidLiteral
  if target < (← get).pc then throw .noLoops
  ctlPush (.pc (← get).pc)
  modify fun m => { m with pc := target }

/-- `HALT`: the popped Boolean is the outcome. -/
def halt : MachM Unit := do
  let b ← popBool
  throw (if b then .haltTrue else .haltFalse)

/-- `JMPIF(l)`, with `pc` already advanced: when the popped Boolean is true, go `l`
instructions past the `JMPIF`. -/
def jmpif (literal : Value) : MachM Unit := do
  let .pc offset := literal | throw .invalidLiteral
  if offset.val < 2 then throw .invalidLiteral
  let b ← popBool
  if !b then return
  if offset.val > 65535 - (← get).pc.val then throw .noProgram
  modify fun m => { m with pc := m.pc + (offset - 1) }

/-- `RETURN`: pop the control stack into `pc`. -/
def «return» : MachM Unit := do
  let v ← ctlPop
  modify fun m => { m with pc := v.valPc }

section Io

variable (o : ByteOrder) (C : Nat)

/-- `FLUSH`: the top number is the event type and the next one the event identifier. -/
def flush : MachM Unit := do
  let a ← popNum
  let b ← popNum
  modify fun m =>
    let (event, out) := outputFlush C a b m.output
    { m with output := out, events := m.events ++ [event] }

/-- Read an `n`-byte number from the input window. -/
def dequeue (n : Nat) : MachM Value := fun m =>
  match inputDequeue o n m.input with
  | .ok (v, i) => .ok v { m with input := i }
  | .error e => .error e m

/-- `INPUT(n)`: read an `n`-byte number and push it. -/
def execInput (n : Nat) : MachM Unit := do
  if n ≠ 4 ∧ n ≠ 2 ∧ n ≠ 1 then throw .invalidLiteral
  let v ← dequeue o n
  push v

/-- Append to the output line. -/
def enqueue (f : Output → Except Status Output) : MachM Unit :=
  lift fun m => (f m.output).map fun out => { m with output := out }

/-- `OUTPUT`: append the rendering of the popped value to the line. -/
def execOutput : MachM Unit := do
  match ← argPop with
  | .bool b => enqueue (outputEnqueueBoolean C b)
  | .num u => enqueue (outputEnqueueNumber C u)
  | .str s => enqueue (outputEnqueueString C s)
  | .pc _ => throw .invalidArgument

/-- `REWIND(n)`. -/
def rewind (reps : Nat) : MachM Unit :=
  lift fun m => (inputRewind reps m.input).map fun i => { m with input := i }

/-- An instruction, run once `pc` has been advanced past it. -/
def exec (i : Instruction) : MachM Unit :=
  match i.opcode with
  | some .add => addSub true
  | some .and => andOr i.rep true
  | some .call => call i.lit
  | some .dup => dup i.rep
  | some .eq => eq i.rep
  | some .flush => flush C
  | some .gt => ltGt false
  | some .halt => halt
  | some .input => execInput o i.rep
  | some .jmpif => jmpif i.lit
  | some .lt => ltGt true
  | some .not => not
  | some .output => execOutput C
  | some .or => andOr i.rep false
  | some .pop => pop i.rep
  | some .pushb => pushTyped .bool i.lit
  | some .pushn => pushTyped .num i.lit
  | some .pushs => pushTyped .str i.lit
  | some .return => «return»
  | some .rewind => rewind i.rep
  | some .roll => roll i.rep
  | some .sub => addSub false
  | none => throw .invalidOpcode

/-- One instruction: advance `pc`, then run it. -/
def step (i : Instruction) : MachM Unit := do
  modify fun m => { m with pc := m.pc + 1 }
  exec o C i

end Io

end Machine

/-- The abstraction of the globals: the registers and the dead slots of the array are
forgotten. -/
def Vm.abs (vm : Vm) : Machine := ⟨vm.pc, vm.stack.abs, vm.input, vm.output, vm.events⟩

end Grunt
