import Grunt.Run

/-!
# No run reaches an `InterpreterBug` check

The stack, input and output modules guard their own preconditions with checks that fail
with `GRUNT_ERROR_INTERPRETERBUG`: a PC value pushed on the argument stack, a non-PC value
pushed on the control stack, a `DUP` of nothing, a `ROLL` of fewer than two values, a read
from an input buffer that was never set or of a width other than 1, 2 or 4, and a number
whose rendering `snprintf` could not produce.  The instructions establish each of these
first: they push only fresh Booleans and numbers, literals whose type they checked, and
numbers read from the input; `CALL` pushes a PC; `DUP` and `ROLL` check their counts;
`INPUT` checks its width; and ten digits always fit.

`Safe` is what the checks rely on and `KeepsSafe` says that a fragment keeps it and never
fails with `InterpreterBug`.  Every instruction keeps it, so by `runLoop_triple` no run of
`GRUNT_Run` with a non-`NULL` input buffer ends with `InterpreterBug`.
-/

namespace Grunt

/-! ## What the stack and input functions can fail with -/

namespace TwoStacks

variable {t t' : TwoStacks} {v : Value} {n : Nat} {e : Status}

theorem argPop_error (h : t.argPop = .error e) : e = .outOfBounds := by
  unfold argPop at h
  split at h <;> cases h
  rfl

theorem ctlPop_error (h : t.ctlPop = .error e) : e = .outOfBounds := by
  unfold ctlPop at h
  split at h <;> cases h
  rfl

theorem argPush_error (hv : v.IsArg) (h : t.argPush v = .error e) : e = .outOfBounds := by
  rw [argPush, if_neg (not_not.mpr hv)] at h
  split_ifs at h
  cases h
  rfl

theorem ctlPush_error (hv : v.type = .pc) (h : t.ctlPush v = .error e) : e = .outOfBounds := by
  rw [ctlPush, if_neg (not_not.mpr hv)] at h
  split_ifs at h
  cases h
  rfl

theorem argDup_error (hn : 0 < n) (h : t.argDup n = .error e) : e = .outOfBounds := by
  rw [argDup, if_neg (by omega)] at h
  split_ifs at h <;> cases h <;> rfl

theorem argRoll_error (hn : 2 ≤ n) (h : t.argRoll n = .error e) : e = .outOfBounds := by
  rw [argRoll, if_neg (by omega)] at h
  split_ifs at h
  cases h
  rfl

/-! Each operation keeps the invariant of the two stacks, by `Inv.step`. -/

theorem Inv.argPop (ht : t.Inv) (h : t.argPop = .ok (v, t')) : t'.Inv :=
  @Inv.step t t' .argPop (some v) ht (by rw [TwoStacks.step, h]; rfl)

theorem Inv.ctlPop (ht : t.Inv) (h : t.ctlPop = .ok (v, t')) : t'.Inv :=
  @Inv.step t t' .ctlPop (some v) ht (by rw [TwoStacks.step, h]; rfl)

theorem Inv.argPush (ht : t.Inv) (h : t.argPush v = .ok t') : t'.Inv :=
  @Inv.step t t' (.argPush v) none ht (by rw [TwoStacks.step, h]; rfl)

theorem Inv.ctlPush (ht : t.Inv) (h : t.ctlPush v = .ok t') : t'.Inv :=
  @Inv.step t t' (.ctlPush v) none ht (by rw [TwoStacks.step, h]; rfl)

theorem Inv.argDup (ht : t.Inv) (h : t.argDup n = .ok t') : t'.Inv :=
  @Inv.step t t' (.argDup n) none ht (by rw [TwoStacks.step, h]; rfl)

theorem Inv.argRoll (ht : t.Inv) (h : t.argRoll n = .ok t') : t'.Inv :=
  @Inv.step t t' (.argRoll n) none ht (by rw [TwoStacks.step, h]; rfl)

end TwoStacks

section InputFacts

variable {o : ByteOrder} {n : Nat} {i i' : Input} {v : Value} {e : Status}

/-- A read from the input is a number. -/
theorem inputDequeue_isArg (h : inputDequeue o n i = .ok (v, i')) : v.IsArg := by
  rcases hq : i.queue with _ | q
  · simp [inputDequeue, hq] at h
  · obtain ⟨-, hs, hn⟩ := inputDequeue_head h
    obtain ⟨x, -, hx⟩ := inputDequeue_ok hq hn hs
    rw [hx] at h
    cases h
    exact Value.isArg_num x

theorem inputRewind_queue {k : Nat} (h : inputRewind k i = .ok i') : i'.queue = i.queue := by
  unfold inputRewind at h
  split_ifs at h <;> cases h <;> rfl

theorem inputRewind_error {k : Nat} (h : inputRewind k i = .error e) : e = .outOfBounds := by
  unfold inputRewind at h
  split_ifs at h
  cases h
  rfl

end InputFacts

/-! ## The invariant -/

/-- What the interpreter's own checks rely on: the two stacks keep their invariant and the
input buffer is set. -/
structure Safe (m : Machine) : Prop where
  stack : m.stack.Inv
  input : m.input.queue ≠ none

/-- `x` keeps `Safe` and never fails with `InterpreterBug`. -/
def KeepsSafe {α : Type} (x : MachM α) : Prop :=
  Triple Safe x (fun _ => Safe) (· ≠ .interpreterBug)

namespace KeepsSafe

variable {α β : Type}

theorem pure' (a : α) : KeepsSafe (pure a) := Triple.pure' fun _ h => h

theorem throw' {e : Status} (he : e ≠ .interpreterBug) : KeepsSafe (throw e : MachM α) :=
  Triple.throw' he

theorem bind' {x : MachM α} {f : α → MachM β} (hx : KeepsSafe x) (hf : ∀ a, KeepsSafe (f a)) :
    KeepsSafe (x >>= f) :=
  Triple.bind' hx hf

theorem ite' {c : Prop} [Decidable c] {x y : MachM α} (hx : KeepsSafe x) (hy : KeepsSafe y) :
    KeepsSafe (if c then x else y) :=
  Triple.ite' (fun _ => hx) fun _ => hy

theorem get_bind {f : Machine → MachM α} (hf : ∀ m, KeepsSafe (f m)) : KeepsSafe (get >>= f) :=
  fun m hm => hf m m hm

/-- A change of `pc`, the output or the events. -/
theorem modify' {f : Machine → Machine} (hf : ∀ m, (f m).stack = m.stack ∧ (f m).input = m.input) :
    KeepsSafe (modify f) :=
  Triple.modify' fun m hm => ⟨(hf m).1 ▸ hm.stack, (hf m).2 ▸ hm.input⟩

/-- A check that fails with `e`, followed by `f`, which may rely on the check. -/
theorem guard {c : Prop} [Decidable c] {e : Status} (he : e ≠ .interpreterBug)
    {f : Unit → MachM α} (hf : ¬c → ∀ u, KeepsSafe (f u)) :
    KeepsSafe (if c then throw e >>= f else pure () >>= f) :=
  Triple.ite' (fun _ => Triple.throw_bind he) fun hc => (pure' _).bind' (hf hc)

end KeepsSafe

/-! ## The primitives -/

section Primitives

theorem argPop_keepsSafe : KeepsSafe Machine.argPop :=
  Triple.argPop' (fun _ _ _ hm h => ⟨hm.stack.argPop h, hm.input⟩)
    fun _ _ _ h => by rw [TwoStacks.argPop_error h]; decide

theorem ctlPop_keepsSafe : KeepsSafe Machine.ctlPop :=
  Triple.ctlPop' (fun _ _ _ hm h => ⟨hm.stack.ctlPop h, hm.input⟩)
    fun _ _ _ h => by rw [TwoStacks.ctlPop_error h]; decide

/-- A push of an argument value. -/
theorem push_keepsSafe {v : Value} (hv : v.IsArg) : KeepsSafe (Machine.push v) :=
  Triple.lift_map' (fun _ _ hm h => ⟨hm.stack.argPush h, hm.input⟩)
    fun _ _ _ h => by rw [TwoStacks.argPush_error hv h]; decide

/-- A push of a PC value on the control stack. -/
theorem ctlPush_keepsSafe {v : Value} (hv : v.type = .pc) : KeepsSafe (Machine.ctlPush v) :=
  Triple.lift_map' (fun _ _ hm h => ⟨hm.stack.ctlPush h, hm.input⟩)
    fun _ _ _ h => by rw [TwoStacks.ctlPush_error hv h]; decide

theorem popNum_keepsSafe : KeepsSafe Machine.popNum :=
  argPop_keepsSafe.bind' fun v => by
    cases v <;> first | exact KeepsSafe.pure' _ | exact KeepsSafe.throw' (by decide)

theorem popBool_keepsSafe : KeepsSafe Machine.popBool :=
  argPop_keepsSafe.bind' fun v => by
    cases v <;> first | exact KeepsSafe.pure' _ | exact KeepsSafe.throw' (by decide)

/-- A read from a set input buffer gives an argument value. -/
theorem dequeue_safe (o : ByteOrder) (n : Nat) :
    Triple Safe (Machine.dequeue o n) (fun v m => Safe m ∧ v.IsArg) (· ≠ .interpreterBug) :=
  Triple.dequeue'
    (fun _ _ _ hm h => ⟨⟨hm.stack, fun hq =>
      hm.input ((congrArg Input.queue (inputDequeue_head h).1).symm.trans hq)⟩,
      inputDequeue_isArg h⟩)
    fun _ _ hm h => by
      rcases inputDequeue_error h with ⟨hq, -⟩ | ⟨-, rfl⟩ | ⟨-, -, rfl⟩
      exacts [absurd hq hm.input, by decide, by decide]

/-- An append to the output line by a function that never fails with `InterpreterBug`. -/
theorem enqueue_keepsSafe {f : Output → Except Status Output}
    (hf : ∀ out e, f out = .error e → e ≠ .interpreterBug) : KeepsSafe (Machine.enqueue f) :=
  Triple.lift_map' (fun _ _ hm _ => ⟨hm.stack, hm.input⟩) fun _ _ _ h => hf _ _ h

theorem rewind_keepsSafe (reps : Nat) : KeepsSafe (Machine.rewind reps) :=
  Triple.lift_map' (fun _ _ hm h => ⟨hm.stack, by rw [inputRewind_queue h]; exact hm.input⟩)
    fun _ _ _ h => by rw [inputRewind_error h]; decide

end Primitives

/-! ## The instructions -/

section Instructions

variable (o : ByteOrder) (C : Nat)

theorem addSub_keepsSafe (addFlag : Bool) : KeepsSafe (Machine.addSub addFlag) :=
  popNum_keepsSafe.bind' fun _ => popNum_keepsSafe.bind' fun _ =>
    KeepsSafe.ite' (KeepsSafe.guard (by decide) fun _ _ => push_keepsSafe (Value.isArg_num _))
      (KeepsSafe.guard (by decide) fun _ _ => push_keepsSafe (Value.isArg_num _))

theorem andOrLoop_keepsSafe (andFlag : Bool) :
    ∀ k acc, KeepsSafe (Machine.andOrLoop andFlag k acc)
  | 0, _ => KeepsSafe.pure' _
  | k + 1, _ => popBool_keepsSafe.bind' fun _ => andOrLoop_keepsSafe andFlag k _

theorem eqLoop_keepsSafe (a : Number) : ∀ k flag, KeepsSafe (Machine.eqLoop a k flag)
  | 0, _ => KeepsSafe.pure' _
  | k + 1, _ => popNum_keepsSafe.bind' fun _ => eqLoop_keepsSafe a k _

theorem popLoop_keepsSafe : ∀ k, KeepsSafe (Machine.popLoop k)
  | 0 => KeepsSafe.pure' _
  | k + 1 => argPop_keepsSafe.bind' fun _ => popLoop_keepsSafe k

theorem andOr_keepsSafe (n : Nat) (andFlag : Bool) : KeepsSafe (Machine.andOr n andFlag) :=
  KeepsSafe.guard (by decide) fun _ _ => popBool_keepsSafe.bind' fun _ =>
    (andOrLoop_keepsSafe andFlag _ _).bind' fun _ => push_keepsSafe (Value.isArg_bool _)

theorem eq_keepsSafe (n : Nat) : KeepsSafe (Machine.eq n) :=
  KeepsSafe.guard (by decide) fun _ _ => popNum_keepsSafe.bind' fun _ =>
    (eqLoop_keepsSafe _ _ _).bind' fun _ => push_keepsSafe (Value.isArg_bool _)

theorem ltGt_keepsSafe (ltFlag : Bool) : KeepsSafe (Machine.ltGt ltFlag) :=
  popNum_keepsSafe.bind' fun _ => popNum_keepsSafe.bind' fun _ => push_keepsSafe (Value.isArg_bool _)

theorem not_keepsSafe : KeepsSafe Machine.not :=
  popBool_keepsSafe.bind' fun _ => push_keepsSafe (Value.isArg_bool _)

/-- `DUP` checks its count before `grunt_stack_arg_dup` would. -/
theorem dup_keepsSafe (reps : Nat) : KeepsSafe (Machine.dup reps) :=
  KeepsSafe.guard (by decide) fun hr _ =>
    Triple.lift_map' (fun _ _ hm h => ⟨hm.stack.argDup h, hm.input⟩)
      fun _ _ _ he => by rw [TwoStacks.argDup_error (by omega) he]; decide

/-- `ROLL` checks its count before `grunt_stack_arg_roll` would. -/
theorem roll_keepsSafe (reps : Nat) : KeepsSafe (Machine.roll reps) :=
  KeepsSafe.guard (by decide) fun hr _ =>
    Triple.lift_map' (fun _ _ hm h => ⟨hm.stack.argRoll h, hm.input⟩)
      fun _ _ _ he => by rw [TwoStacks.argRoll_error (by omega) he]; decide

theorem pop_keepsSafe (reps : Nat) : KeepsSafe (Machine.pop reps) :=
  KeepsSafe.guard (by decide) fun _ _ => popLoop_keepsSafe reps

/-- A pushed literal has the type the instruction names, never PC. -/
theorem pushTyped_keepsSafe {ty : ValueType} (hty : ty ≠ .pc) (literal : Value) :
    KeepsSafe (Machine.pushTyped ty literal) :=
  KeepsSafe.guard (by decide) fun h _ =>
    push_keepsSafe (by rw [Value.IsArg, not_not.mp h]; exact hty)

theorem call_keepsSafe (literal : Value) : KeepsSafe (Machine.call literal) := by
  cases literal with
  | pc target =>
    refine KeepsSafe.get_bind fun m => ?_
    simp only [pure_bind, throw_bind]
    exact KeepsSafe.ite' (KeepsSafe.throw' (by decide)) <| KeepsSafe.get_bind fun m' =>
      (@ctlPush_keepsSafe (.pc m'.pc) rfl).bind' fun _ => KeepsSafe.modify' fun _ => ⟨rfl, rfl⟩
  | _ => exact KeepsSafe.throw' (by decide)

theorem halt_keepsSafe : KeepsSafe Machine.halt :=
  popBool_keepsSafe.bind' fun b => KeepsSafe.throw' (by cases b <;> decide)

theorem jmpif_keepsSafe (literal : Value) : KeepsSafe (Machine.jmpif literal) := by
  cases literal with
  | pc offset =>
    simp only [Machine.jmpif, pure_bind, throw_bind]
    refine KeepsSafe.ite' (KeepsSafe.throw' (by decide)) (popBool_keepsSafe.bind' fun b => ?_)
    exact KeepsSafe.ite' (KeepsSafe.pure' _) <| KeepsSafe.get_bind fun _ =>
      KeepsSafe.ite' (KeepsSafe.throw' (by decide)) (KeepsSafe.modify' fun _ => ⟨rfl, rfl⟩)
  | _ => exact KeepsSafe.throw' (by decide)

theorem return_keepsSafe : KeepsSafe Machine.return :=
  ctlPop_keepsSafe.bind' fun _ => KeepsSafe.modify' fun _ => ⟨rfl, rfl⟩

theorem flush_keepsSafe : KeepsSafe (Machine.flush C) :=
  popNum_keepsSafe.bind' fun _ => popNum_keepsSafe.bind' fun _ =>
    KeepsSafe.modify' fun _ => ⟨rfl, rfl⟩

/-- `INPUT` pushes the number it read. -/
theorem execInput_keepsSafe (n : Nat) : KeepsSafe (Machine.execInput o n) :=
  KeepsSafe.guard (by decide) fun _ _ =>
    Triple.bind' (dequeue_safe o n) fun _ m hm => push_keepsSafe hm.2 m hm.1

/-- `OUTPUT` renders every argument type, and ten digits always fit. -/
theorem execOutput_keepsSafe : KeepsSafe (Machine.execOutput C) :=
  argPop_keepsSafe.bind' fun v => by
    cases v
    · exact enqueue_keepsSafe fun _ _ h => by rw [outputEnqueueBoolean_error h]; decide
    · exact enqueue_keepsSafe fun _ _ h => by rw [outputEnqueueNumber_error h]; decide
    · exact enqueue_keepsSafe fun _ _ h => by
        rcases outputEnqueueString_error h with rfl | rfl <;> decide
    · exact KeepsSafe.throw' (by decide)

/-- Every instruction keeps `Safe` and never fails with `InterpreterBug`. -/
theorem step_keepsSafe (i : Instruction) : KeepsSafe (Machine.step o C i) := by
  refine KeepsSafe.bind' (KeepsSafe.modify' ?_) fun _ => ?_
  · exact fun _ => ⟨rfl, rfl⟩
  unfold Machine.exec
  rcases i.opcode with _ | op
  · exact KeepsSafe.throw' (by decide)
  · cases op
    exacts [addSub_keepsSafe true, andOr_keepsSafe _ true, call_keepsSafe _, dup_keepsSafe _,
      eq_keepsSafe _, flush_keepsSafe C, ltGt_keepsSafe false, halt_keepsSafe, jmpif_keepsSafe _,
      ltGt_keepsSafe true, not_keepsSafe, andOr_keepsSafe _ false, execOutput_keepsSafe C,
      pop_keepsSafe _, pushTyped_keepsSafe (by decide) _, pushTyped_keepsSafe (by decide) _,
      pushTyped_keepsSafe (by decide) _, execInput_keepsSafe o _, return_keepsSafe,
      rewind_keepsSafe _, roll_keepsSafe _, addSub_keepsSafe false]

end Instructions

/-! ## Runs -/

section Run

variable (o : ByteOrder) (C : Nat)

/-- The state `GRUNT_Run` starts its loop in is safe when the input buffer is set. -/
theorem runStart_safe (data : List UInt8) (dataSize : Fin 65536) (stringTable : List String)
    (numStrings : Fin 65536) (vm : Vm) :
    Safe (runStart C (some data) dataSize stringTable numStrings vm).abs :=
  ⟨by simpa [Vm.abs, runStart] using TwoStacks.Inv.empty,
    by simp [Vm.abs, runStart, inputInit_eq]⟩

/-- For every program, every non-`NULL` input buffer and every string table, whatever an
earlier run left in the globals, `GRUNT_Run` never returns `InterpreterBug`: no instruction
fails with it from a state the run can reach. -/
theorem gruntRun_no_interpreterBug (program : List Instruction) (numInstructions : Fin 65536)
    (data : List UInt8) (dataSize : Fin 65536) (stringTable : List String)
    (numStrings : Fin 65536) (vm : Vm) :
    (∀ i, Triple Safe (Machine.step o C i) (fun _ => Safe) (· ≠ .interpreterBug)) ∧
      Safe (runStart C (some data) dataSize stringTable numStrings vm).abs ∧
      (gruntRun o C program numInstructions (some data) dataSize stringTable numStrings vm).1 ≠
        .interpreterBug := by
  refine ⟨step_keepsSafe o C, runStart_safe C data dataSize stringTable numStrings vm, ?_⟩
  rcases runLoop_triple o C program numInstructions (step_keepsSafe o C) _
      (runStart_safe C data dataSize stringTable numStrings vm) with h | h
  · exact h
  · rw [gruntRun, h]; decide

end Run

end Grunt
