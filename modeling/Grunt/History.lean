import Grunt.Run

/-!
# A run does not depend on what earlier runs left behind

The interpreter keeps its state in process-wide globals, and `GRUNT_Run` resets only part
of them: the stack counters, the input window, the output line and `pc`.  The registers
`g_ra` and `g_rb` and the slots of `g_stack` keep whatever an earlier run, maybe a failed
one, put there.  They do no harm: the abstraction `Vm.abs` forgets exactly these, and the
interpreter refines the abstract machine (`Grunt.Simulation`), so only the abstract state
matters; that is the same at the start of every run with the same arguments, apart from
the events sent before.  The machine never reads those events (`IgnoresEvents`), so two
runs with the same arguments go in lock step, end with the same status, and send the same
events.
-/

namespace Grunt

/-- The machine with the events `es` sent before its own. -/
def Machine.after (es : List Event) (m : Machine) : Machine :=
  { m with events := es ++ m.events }

@[simp] theorem Machine.after_events (es : List Event) (m : Machine) :
    (m.after es).events = es ++ m.events := rfl

theorem Vm.abs_events (vm : Vm) : vm.abs.events = vm.events := rfl

@[simp] theorem Machine.after_pc (es : List Event) (m : Machine) : (m.after es).pc = m.pc := rfl

/-- `x` never reads the events sent so far: run after more events, it does the same and
leaves those events in front. -/
def IgnoresEvents {α : Type} (x : MachM α) : Prop := ∀ es, SimAlong (Machine.after es) x x

namespace IgnoresEvents

variable {α β : Type}

theorem pure' (a : α) : IgnoresEvents (pure a) := fun _ => SimAlong.pure' a

theorem throw' (e : Status) : IgnoresEvents (throw e : MachM α) := fun _ => SimAlong.throw' e

theorem bind' {x : MachM α} {f : α → MachM β} (hx : IgnoresEvents x)
    (hf : ∀ a, IgnoresEvents (f a)) : IgnoresEvents (x >>= f) :=
  fun es => (hx es).bind' fun a => hf a es

theorem ite' {c : Prop} [Decidable c] {x y : MachM α} (hx : IgnoresEvents x)
    (hy : IgnoresEvents y) : IgnoresEvents (if c then x else y) :=
  fun es => SimAlong.ite' (fun _ => hx es) fun _ => hy es

/-- A read of the state whose continuation does not look at the events. -/
theorem get_bind {f : Machine → MachM α} (hf : ∀ m, IgnoresEvents (f m))
    (he : ∀ m es, f (m.after es) = f m) : IgnoresEvents (get >>= f) :=
  fun es => SimAlong.get_bind fun m => he m es ▸ hf m es

theorem modify' {f : Machine → Machine} (hf : ∀ m es, f (m.after es) = (f m).after es) :
    IgnoresEvents (modify f) :=
  fun es m => congrArg (EStateM.Result.ok ()) (hf m es).symm

/-- A call of a module function on everything but the events. -/
theorem lift_map {σ : Type} {g : Machine → Except Status σ} {put : Machine → σ → Machine}
    (hg : ∀ m es, g (m.after es) = g m) (hput : ∀ m es s, put (m.after es) s = (put m s).after es) :
    IgnoresEvents (Machine.lift fun m => (g m).map (put m)) := fun es m => by
  show mapResult _ (Machine.lift _ m) = Machine.lift _ (m.after es)
  unfold Machine.lift
  dsimp only
  rw [hg m es]
  rcases g m with e | s
  · rfl
  · exact congrArg (EStateM.Result.ok ()) (hput m es s).symm

/-- A check that fails with `e`, followed by `f`. -/
theorem guard {c : Prop} [Decidable c] (e : Status) {f : Unit → MachM α}
    (hf : ∀ u, IgnoresEvents (f u)) : IgnoresEvents (if c then throw e >>= f else pure () >>= f) :=
  ite' ((throw' e).bind' hf) ((pure' ()).bind' hf)

end IgnoresEvents

/-! ## The instructions never read the events -/

section Instructions

variable (o : ByteOrder) (C : Nat)

theorem argPop_ignoresEvents : IgnoresEvents Machine.argPop := fun es m => by
  show mapResult _ (Machine.argPop m) = Machine.argPop _
  unfold Machine.argPop
  rw [show (m.after es).stack = m.stack from rfl]
  rcases m.stack.argPop with e | ⟨v, t⟩ <;> rfl

theorem ctlPop_ignoresEvents : IgnoresEvents Machine.ctlPop := fun es m => by
  show mapResult _ (Machine.ctlPop m) = Machine.ctlPop _
  unfold Machine.ctlPop
  rw [show (m.after es).stack = m.stack from rfl]
  rcases m.stack.ctlPop with e | ⟨v, t⟩ <;> rfl

theorem dequeue_ignoresEvents (n : Nat) : IgnoresEvents (Machine.dequeue o n) := fun es m => by
  show mapResult _ (Machine.dequeue o n m) = Machine.dequeue o n _
  unfold Machine.dequeue
  rw [show (m.after es).input = m.input from rfl]
  rcases inputDequeue o n m.input with e | ⟨v, i⟩ <;> rfl

theorem push_ignoresEvents (v : Value) : IgnoresEvents (Machine.push v) :=
  IgnoresEvents.lift_map (fun _ _ => rfl) fun _ _ _ => rfl

theorem ctlPush_ignoresEvents (v : Value) : IgnoresEvents (Machine.ctlPush v) :=
  IgnoresEvents.lift_map (fun _ _ => rfl) fun _ _ _ => rfl

theorem popNum_ignoresEvents : IgnoresEvents Machine.popNum :=
  argPop_ignoresEvents.bind' fun v => by
    cases v <;> first | exact IgnoresEvents.pure' _ | exact IgnoresEvents.throw' _

theorem popBool_ignoresEvents : IgnoresEvents Machine.popBool :=
  argPop_ignoresEvents.bind' fun v => by
    cases v <;> first | exact IgnoresEvents.pure' _ | exact IgnoresEvents.throw' _

theorem enqueue_ignoresEvents (f : Output → Except Status Output) :
    IgnoresEvents (Machine.enqueue f) :=
  IgnoresEvents.lift_map (fun _ _ => rfl) fun _ _ _ => rfl

theorem addSub_ignoresEvents (addFlag : Bool) : IgnoresEvents (Machine.addSub addFlag) :=
  popNum_ignoresEvents.bind' fun _ => popNum_ignoresEvents.bind' fun _ =>
    IgnoresEvents.ite' (IgnoresEvents.guard _ fun _ => push_ignoresEvents _)
      (IgnoresEvents.guard _ fun _ => push_ignoresEvents _)

theorem andOrLoop_ignoresEvents (andFlag : Bool) :
    ∀ k acc, IgnoresEvents (Machine.andOrLoop andFlag k acc)
  | 0, _ => IgnoresEvents.pure' _
  | k + 1, _ => popBool_ignoresEvents.bind' fun _ => andOrLoop_ignoresEvents andFlag k _

theorem eqLoop_ignoresEvents (a : Number) : ∀ k flag, IgnoresEvents (Machine.eqLoop a k flag)
  | 0, _ => IgnoresEvents.pure' _
  | k + 1, _ => popNum_ignoresEvents.bind' fun _ => eqLoop_ignoresEvents a k _

theorem popLoop_ignoresEvents : ∀ k, IgnoresEvents (Machine.popLoop k)
  | 0 => IgnoresEvents.pure' _
  | k + 1 => argPop_ignoresEvents.bind' fun _ => popLoop_ignoresEvents k

theorem andOr_ignoresEvents (n : Nat) (andFlag : Bool) :
    IgnoresEvents (Machine.andOr n andFlag) :=
  IgnoresEvents.guard _ fun _ => popBool_ignoresEvents.bind' fun _ =>
    (andOrLoop_ignoresEvents andFlag _ _).bind' fun _ => push_ignoresEvents _

theorem eq_ignoresEvents (n : Nat) : IgnoresEvents (Machine.eq n) :=
  IgnoresEvents.guard _ fun _ => popNum_ignoresEvents.bind' fun _ =>
    (eqLoop_ignoresEvents _ _ _).bind' fun _ => push_ignoresEvents _

theorem ltGt_ignoresEvents (ltFlag : Bool) : IgnoresEvents (Machine.ltGt ltFlag) :=
  popNum_ignoresEvents.bind' fun _ => popNum_ignoresEvents.bind' fun _ => push_ignoresEvents _

theorem not_ignoresEvents : IgnoresEvents Machine.not :=
  popBool_ignoresEvents.bind' fun _ => push_ignoresEvents _

theorem dup_ignoresEvents (reps : Nat) : IgnoresEvents (Machine.dup reps) :=
  IgnoresEvents.guard _ fun _ => IgnoresEvents.lift_map (fun _ _ => rfl) fun _ _ _ => rfl

theorem pop_ignoresEvents (reps : Nat) : IgnoresEvents (Machine.pop reps) :=
  IgnoresEvents.guard _ fun _ => popLoop_ignoresEvents reps

theorem pushTyped_ignoresEvents (ty : ValueType) (literal : Value) :
    IgnoresEvents (Machine.pushTyped ty literal) :=
  IgnoresEvents.guard _ fun _ => push_ignoresEvents _

theorem roll_ignoresEvents (reps : Nat) : IgnoresEvents (Machine.roll reps) :=
  IgnoresEvents.guard _ fun _ => IgnoresEvents.lift_map (fun _ _ => rfl) fun _ _ _ => rfl

theorem call_ignoresEvents (literal : Value) : IgnoresEvents (Machine.call literal) := by
  cases literal with
  | pc target =>
    refine IgnoresEvents.get_bind (fun m => ?_) fun _ _ => rfl
    simp only [pure_bind, throw_bind]
    refine IgnoresEvents.ite' (IgnoresEvents.throw' _) (IgnoresEvents.get_bind (fun m' => ?_)
      fun _ _ => rfl)
    exact (ctlPush_ignoresEvents _).bind' fun _ => IgnoresEvents.modify' fun _ _ => rfl
  | _ => exact IgnoresEvents.throw' _

theorem halt_ignoresEvents : IgnoresEvents Machine.halt :=
  popBool_ignoresEvents.bind' fun _ => IgnoresEvents.throw' _

theorem jmpif_ignoresEvents (literal : Value) : IgnoresEvents (Machine.jmpif literal) := by
  cases literal with
  | pc offset =>
    simp only [Machine.jmpif, pure_bind, throw_bind]
    refine IgnoresEvents.ite' (IgnoresEvents.throw' _) (popBool_ignoresEvents.bind' fun b => ?_)
    exact IgnoresEvents.ite' (IgnoresEvents.pure' _) <| IgnoresEvents.get_bind
      (fun _ => IgnoresEvents.ite' (IgnoresEvents.throw' _) (IgnoresEvents.modify' fun _ _ => rfl))
      fun _ _ => rfl
  | _ => exact IgnoresEvents.throw' _

theorem return_ignoresEvents : IgnoresEvents Machine.return :=
  ctlPop_ignoresEvents.bind' fun _ => IgnoresEvents.modify' fun _ _ => rfl

/-- `FLUSH` appends its event after all the others. -/
theorem flush_ignoresEvents : IgnoresEvents (Machine.flush C) :=
  popNum_ignoresEvents.bind' fun _ => popNum_ignoresEvents.bind' fun _ =>
    IgnoresEvents.modify' fun m es => by simp [Machine.after, List.append_assoc]

theorem execInput_ignoresEvents (n : Nat) : IgnoresEvents (Machine.execInput o n) :=
  IgnoresEvents.guard _ fun _ => (dequeue_ignoresEvents o n).bind' fun _ => push_ignoresEvents _

theorem execOutput_ignoresEvents : IgnoresEvents (Machine.execOutput C) :=
  argPop_ignoresEvents.bind' fun v => by
    cases v
    · exact enqueue_ignoresEvents _
    · exact enqueue_ignoresEvents _
    · exact enqueue_ignoresEvents _
    · exact IgnoresEvents.throw' _

theorem rewind_ignoresEvents (reps : Nat) : IgnoresEvents (Machine.rewind reps) :=
  IgnoresEvents.lift_map (fun _ _ => rfl) fun _ _ _ => rfl

theorem step_ignoresEvents (i : Instruction) : IgnoresEvents (Machine.step o C i) := by
  refine IgnoresEvents.bind' (IgnoresEvents.modify' fun _ _ => rfl) fun _ => ?_
  unfold Machine.exec
  rcases i.opcode with _ | op
  · exact IgnoresEvents.throw' _
  · cases op
    exacts [addSub_ignoresEvents true, andOr_ignoresEvents _ true, call_ignoresEvents _,
      dup_ignoresEvents _, eq_ignoresEvents _, flush_ignoresEvents C, ltGt_ignoresEvents false,
      halt_ignoresEvents, jmpif_ignoresEvents _, ltGt_ignoresEvents true, not_ignoresEvents,
      andOr_ignoresEvents _ false, execOutput_ignoresEvents C, pop_ignoresEvents _,
      pushTyped_ignoresEvents _ _, pushTyped_ignoresEvents _ _, pushTyped_ignoresEvents _ _,
      execInput_ignoresEvents o _, return_ignoresEvents, rewind_ignoresEvents _,
      roll_ignoresEvents _, addSub_ignoresEvents false]

end Instructions

/-! ## Two runs in lock step -/

section Runs

variable (o : ByteOrder) (C : Nat) (program : List Instruction) (numInstructions : Fin 65536)

/-- Two interpreter states that are one machine state after two histories take the same
step: the same status, and again one machine state after the same two histories. -/
theorem vmStep_lockstep (i : Instruction) {vm₁ vm₂ : Vm} {m : Machine} {es₁ es₂ : List Event}
    (h₁ : vm₁.abs = m.after es₁) (h₂ : vm₂.abs = m.after es₂) :
    absResult (vmStep o C i vm₁) = mapResult (Machine.after es₁) (Machine.step o C i m) ∧
      absResult (vmStep o C i vm₂) = mapResult (Machine.after es₂) (Machine.step o C i m) :=
  ⟨(vmStep_sim o C i vm₁).trans (by rw [h₁]; exact (step_ignoresEvents o C i es₁ m).symm),
    (vmStep_sim o C i vm₂).trans (by rw [h₂]; exact (step_ignoresEvents o C i es₂ m).symm)⟩

/-- Two runs from interpreter states that are one machine state after two histories end
with the same status, in one machine state after the same two histories. -/
theorem runLoop_lockstep (vm₁ : Vm) :
    ∀ (vm₂ : Vm) (m : Machine) (es₁ es₂ : List Event), vm₁.abs = m.after es₁ →
      vm₂.abs = m.after es₂ →
      (runLoop o C program numInstructions vm₁).1 = (runLoop o C program numInstructions vm₂).1 ∧
      ∃ m' : Machine, (runLoop o C program numInstructions vm₁).2.abs = m'.after es₁ ∧
        (runLoop o C program numInstructions vm₂).2.abs = m'.after es₂ := by
  induction vm₁ using runLoop.induct o C program numInstructions with
  | case1 vm₁ hpc vm₁' hs ih =>
    intro vm₂ m es₁ es₂ h₁ h₂
    have hpc₂ : vm₂.pc = vm₁.pc := (congrArg Machine.pc h₂).trans (congrArg Machine.pc h₁).symm
    obtain ⟨e₁, e₂⟩ := vmStep_lockstep o C (fetch program vm₁.pc) h₁ h₂
    rw [hs] at e₁
    obtain ⟨m', hm, hm'⟩ := mapResult_eq_ok e₁.symm
    rw [hm, ← hpc₂] at e₂
    obtain ⟨vm₂', hs₂, h₂'⟩ := mapResult_eq_ok e₂
    rw [runLoop_of_ok o C program numInstructions hpc hs,
      runLoop_of_ok o C program numInstructions (hpc₂ ▸ hpc) hs₂]
    exact ih vm₂' m' es₁ es₂ hm'.symm h₂'
  | case2 vm₁ hpc e vm₁' hs =>
    intro vm₂ m es₁ es₂ h₁ h₂
    have hpc₂ : vm₂.pc = vm₁.pc := (congrArg Machine.pc h₂).trans (congrArg Machine.pc h₁).symm
    obtain ⟨e₁, e₂⟩ := vmStep_lockstep o C (fetch program vm₁.pc) h₁ h₂
    rw [hs] at e₁
    obtain ⟨m', hm, hm'⟩ := mapResult_eq_error e₁.symm
    rw [hm, ← hpc₂] at e₂
    obtain ⟨vm₂', hs₂, h₂'⟩ := mapResult_eq_error e₂
    rw [runLoop_of_error o C program numInstructions hpc hs,
      runLoop_of_error o C program numInstructions (hpc₂ ▸ hpc) hs₂]
    exact ⟨rfl, m', hm'.symm, h₂'⟩
  | case3 vm₁ hpc =>
    intro vm₂ m es₁ es₂ h₁ h₂
    have hpc₂ : vm₂.pc = vm₁.pc := (congrArg Machine.pc h₂).trans (congrArg Machine.pc h₁).symm
    rw [runLoop_of_stop o C program numInstructions hpc,
      runLoop_of_stop o C program numInstructions (hpc₂ ▸ hpc)]
    exact ⟨rfl, m, h₁, h₂⟩

/-- The abstract state `GRUNT_Run` starts its loop in: everything but the events sent
before is fixed by the arguments. -/
theorem runStart_abs (data : Option (List UInt8)) (dataSize : Fin 65536)
    (stringTable : List String) (numStrings : Fin 65536) (vm : Vm) :
    (runStart C data dataSize stringTable numStrings vm).abs =
      Machine.after vm.events ⟨0, .empty, ⟨data, dataSize.val, 0⟩,
        ⟨stringTable, numStrings.val, List.replicate C '\x00', 0⟩, []⟩ := by
  simp [runStart, Vm.abs, Machine.after, inputInit_eq, outputInit, outputReset]

/-- Whatever two earlier runs left in the globals (registers, dead stack slots, a half
built output line, the input window), `GRUNT_Run` with the same program, input and string
table returns the same status and sends the same events. -/
theorem gruntRun_history_independent (program : List Instruction)
    (numInstructions : Fin 65536) (data : Option (List UInt8)) (dataSize : Fin 65536)
    (stringTable : List String) (numStrings : Fin 65536) (vm₁ vm₂ : Vm) :
    let r₁ := gruntRun o C program numInstructions data dataSize stringTable numStrings vm₁
    let r₂ := gruntRun o C program numInstructions data dataSize stringTable numStrings vm₂
    r₁.1 = r₂.1 ∧ ∃ es, r₁.2.events = vm₁.events ++ es ∧ r₂.2.events = vm₂.events ++ es := by
  obtain ⟨hst, m', h₁, h₂⟩ := runLoop_lockstep o C program numInstructions _ _ _ _ _
    (runStart_abs C data dataSize stringTable numStrings vm₁)
    (runStart_abs C data dataSize stringTable numStrings vm₂)
  have e₁ := congrArg Machine.events h₁
  have e₂ := congrArg Machine.events h₂
  rw [Vm.abs_events, Machine.after_events] at e₁ e₂
  exact ⟨hst, m'.events, e₁, e₂⟩

end Runs

end Grunt
