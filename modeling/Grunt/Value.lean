import Mathlib

/-!
# Grunt values, statuses and instructions

This module transcribes `grunt.h` and `grunt_status.h`: the tagged values Grunt programs
push and pop, the status codes the interpreter returns, and the instruction format with
its opcodes and the convenience constructors the validator program is written with.

C's `uint16` and `uint32` are `Fin 65536` and `Fin (2 ^ 32)`.  An instruction's argument
is a C union of a repetition count and a literal; every opcode reads only one of the two
members, so the model keeps both as independent fields, and every C instruction, whatever
bytes its union holds, has a model.
-/

namespace Grunt

/-- `grunt_number_t`, an unsigned 32-bit number. -/
abbrev Number := Fin (2 ^ 32)

/-- `GRUNT_NUM_MAX`. -/
def numMax : Number := 4294967295

/-- `grunt_value_type_t`. -/
inductive ValueType
  | bool
  | num
  | str
  | pc
  deriving DecidableEq, Repr

/-- `grunt_value_t`: a type tag with the matching member of the value union. -/
inductive Value
  | bool (b : Bool)
  | num (n : Number)
  | str (s : Fin 65536)
  | pc (p : Fin 65536)
  deriving DecidableEq, Repr

namespace Value

/-- The `type` field of a value. -/
def type : Value → ValueType
  | bool _ => .bool
  | num _ => .num
  | str _ => .str
  | pc _ => .pc

/-- The union member `val.pc`, as `grunt_vm_return` reads it from a popped control-stack
entry without looking at the tag.  Only `gt_pc` values are ever pushed on the control
stack, so the reading of other tags never matters; it is fixed at zero. -/
def valPc : Value → Fin 65536
  | pc p => p
  | _ => 0

/-- Values the argument stack may hold: anything but a program counter. -/
def IsArg (v : Value) : Prop := v.type ≠ .pc

instance (v : Value) : Decidable v.IsArg := inferInstanceAs (Decidable (_ ≠ _))

@[simp] theorem isArg_bool (b : Bool) : (bool b).IsArg := by simp [IsArg, type]
@[simp] theorem isArg_num (n : Number) : (num n).IsArg := by simp [IsArg, type]
@[simp] theorem isArg_str (s : Fin 65536) : (str s).IsArg := by simp [IsArg, type]
@[simp] theorem not_isArg_pc (p : Fin 65536) : ¬(pc p).IsArg := by simp [IsArg, type]

@[simp] theorem valPc_pc (p : Fin 65536) : (pc p).valPc = p := rfl

end Value

/-- The nonzero statuses of `grunt_status.h`; status `0` (carry on) is a successful result
and has no constructor. -/
inductive Status
  | haltTrue
  | haltFalse
  | interpreterBug
  | invalidArgument
  | invalidLiteral
  | invalidOpcode
  | noLoops
  | noProgram
  | outOfBounds
  deriving DecidableEq, Repr

/-- The numeric value of each status macro. -/
def Status.code : Status → Nat
  | haltTrue => 0x01
  | haltFalse => 0x02
  | interpreterBug => 0x11
  | invalidArgument => 0x12
  | invalidLiteral => 0x13
  | invalidOpcode => 0x14
  | noLoops => 0x15
  | noProgram => 0x16
  | outOfBounds => 0x17

/-- The statuses a run ends with when the program reached a `HALT`. -/
def Status.IsHalt (s : Status) : Prop := s = .haltTrue ∨ s = .haltFalse

/-- The Grunt opcodes `GRUNT_OP_*`. -/
inductive Opcode
  | add
  | and
  | call
  | dup
  | eq
  | flush
  | gt
  | halt
  | jmpif
  | lt
  | not
  | or
  | output
  | pop
  | pushb
  | pushn
  | pushs
  | input
  | «return»
  | rewind
  | roll
  | sub
  deriving DecidableEq, Repr

namespace Opcode

/-- The numeric value of each `GRUNT_OP_*` macro. -/
def code : Opcode → Nat
  | add => 0x01
  | and => 0x02
  | call => 0x03
  | dup => 0x04
  | eq => 0x05
  | flush => 0x06
  | gt => 0x07
  | halt => 0x08
  | jmpif => 0x09
  | lt => 0x0A
  | not => 0x0B
  | or => 0x0C
  | output => 0x0D
  | pop => 0x0E
  | pushb => 0x0F
  | pushn => 0x10
  | pushs => 0x11
  | input => 0x12
  | «return» => 0x13
  | rewind => 0x14
  | roll => 0x15
  | sub => 0x16

/-- The case of `grunt_vm_step`'s `switch` an opcode value selects, if any. -/
def ofCode : Nat → Option Opcode
  | 0x01 => some add
  | 0x02 => some and
  | 0x03 => some call
  | 0x04 => some dup
  | 0x05 => some eq
  | 0x06 => some flush
  | 0x07 => some gt
  | 0x08 => some halt
  | 0x09 => some jmpif
  | 0x0A => some lt
  | 0x0B => some not
  | 0x0C => some or
  | 0x0D => some output
  | 0x0E => some pop
  | 0x0F => some pushb
  | 0x10 => some pushn
  | 0x11 => some pushs
  | 0x12 => some input
  | 0x13 => some «return»
  | 0x14 => some rewind
  | 0x15 => some roll
  | 0x16 => some sub
  | _ => none

@[simp] theorem ofCode_code (o : Opcode) : ofCode o.code = some o := by
  cases o <;> rfl

theorem code_lt (o : Opcode) : o.code < 65536 := by
  cases o <;> decide

end Opcode

/-- `grunt_instruction_t`: an opcode with its repetition count and its literal. -/
structure Instruction where
  op : Fin 65536
  rep : Fin 65536
  lit : Value
  deriving DecidableEq, Repr

namespace Instruction

/-- An instruction the convenience macros of `grunt.h` build: the opcode and the one union
member the macro sets; C zero-fills the other. -/
def ofOp (o : Opcode) (rep : Fin 65536) (lit : Value) : Instruction :=
  ⟨⟨o.code, o.code_lt⟩, rep, lit⟩

/-- The opcode an instruction selects, if any. -/
def opcode (i : Instruction) : Option Opcode := Opcode.ofCode i.op.val

@[simp] theorem opcode_ofOp (o : Opcode) (r : Fin 65536) (l : Value) :
    (ofOp o r l).opcode = some o := by
  simp [opcode, ofOp]

/-- `ADD`. -/
def add : Instruction := ofOp .add 0 (.bool false)
/-- `AND(r)`. -/
def and (r : Fin 65536) : Instruction := ofOp .and r (.bool false)
/-- `CALL(sub)`. -/
def call (sub : Fin 65536) : Instruction := ofOp .call 0 (.pc sub)
/-- `DUP(r)`. -/
def dup (r : Fin 65536) : Instruction := ofOp .dup r (.bool false)
/-- `EQ(r)`. -/
def eq (r : Fin 65536) : Instruction := ofOp .eq r (.bool false)
/-- `FLUSH`. -/
def flush : Instruction := ofOp .flush 0 (.bool false)
/-- `GT`. -/
def gt : Instruction := ofOp .gt 0 (.bool false)
/-- `HALT`. -/
def halt : Instruction := ofOp .halt 0 (.bool false)
/-- `INPUT(r)`. -/
def input (r : Fin 65536) : Instruction := ofOp .input r (.bool false)
/-- `JMPIF(l)`. -/
def jmpif (l : Fin 65536) : Instruction := ofOp .jmpif 0 (.pc l)
/-- `LT`. -/
def lt : Instruction := ofOp .lt 0 (.bool false)
/-- `NOT`. -/
def not : Instruction := ofOp .not 0 (.bool false)
/-- `OR(r)`. -/
def or (r : Fin 65536) : Instruction := ofOp .or r (.bool false)
/-- `OUTPUT`. -/
def output : Instruction := ofOp .output 0 (.bool false)
/-- `POP(r)`. -/
def pop (r : Fin 65536) : Instruction := ofOp .pop r (.bool false)
/-- `PUSHB(tf)`. -/
def pushb (tf : Bool) : Instruction := ofOp .pushb 0 (.bool tf)
/-- `PUSHN(n)`. -/
def pushn (n : Number) : Instruction := ofOp .pushn 0 (.num n)
/-- `PUSHS(s)`. -/
def pushs (s : Fin 65536) : Instruction := ofOp .pushs 0 (.str s)
/-- `RETURN`. -/
def «return» : Instruction := ofOp .return 0 (.bool false)
/-- `REWIND(r)`. -/
def rewind (r : Fin 65536) : Instruction := ofOp .rewind r (.bool false)
/-- `ROLL(r)`. -/
def roll (r : Fin 65536) : Instruction := ofOp .roll r (.bool false)
/-- `SUB`. -/
def sub : Instruction := ofOp .sub 0 (.bool false)

end Instruction

end Grunt
