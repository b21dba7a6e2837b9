import Grunt.Run

/-!
# Runs of the abstract machine through a program

`Runs m m'` says that the machine goes from `m` to `m'` by successful instructions of a
fixed program.  Program proofs are stated in it: `runLoop_of_runs` and
`runLoop_of_stepError` carry a run of the machine over to the interpreter's loop through
the simulation of `Grunt.Simulation`.

The lemmas after it give the outcome of each instruction on a state whose stacks are
known, the checks the instruction makes becoming hypotheses.  They are stated for the
instruction's function, with `pc` already advanced (`Machine.step_eq`).
-/

namespace Grunt

section Runs

variable (o : ByteOrder) (C : Nat) (program : List Instruction) (numInstructions : Fin 65536)

/-- The machine goes from one state to another by successful instructions of `program`. -/
inductive Runs : Machine → Machine → Prop
  | refl (m : Machine) : Runs m m
  | step {m m' m'' : Machine} (hpc : m.pc < numInstructions)
      (h : Machine.step o C (fetch program m.pc) m = .ok () m') (rest : Runs m' m'') :
      Runs m m''

variable {o C program numInstructions}

theorem Runs.trans {m₁ m₂ m₃ : Machine} (h₁ : Runs o C program numInstructions m₁ m₂)
    (h₂ : Runs o C program numInstructions m₂ m₃) : Runs o C program numInstructions m₁ m₃ := by
  induction h₁ with
  | refl => exact h₂
  | step hpc h _ ih => exact .step hpc h (ih h₂)

theorem Runs.single {m m' : Machine} (hpc : m.pc < numInstructions)
    (h : Machine.step o C (fetch program m.pc) m = .ok () m') :
    Runs o C program numInstructions m m' :=
  .step hpc h (.refl _)

/-- A step of the machine is a step of the interpreter from any state it abstracts. -/
theorem vmStep_of_step {vm : Vm} {r : EStateM.Result Status Machine Unit}
    (h : Machine.step o C (fetch program vm.pc) vm.abs = r) :
    absResult (vmStep o C (fetch program vm.pc) vm) = r :=
  (vmStep_sim o C _ vm).trans h

/-- The interpreter's loop follows a run of the machine. -/
theorem runLoop_of_runs {m m' : Machine} (h : Runs o C program numInstructions m m') :
    ∀ vm : Vm, vm.abs = m → ∃ vm' : Vm, vm'.abs = m' ∧
      runLoop o C program numInstructions vm = runLoop o C program numInstructions vm' := by
  induction h with
  | refl m => exact fun vm hvm => ⟨vm, hvm, rfl⟩
  | step hpc hs _ ih =>
    rintro vm rfl
    obtain ⟨vm₁, hv, rfl⟩ := mapResult_eq_ok (vmStep_of_step hs)
    obtain ⟨vm', h', hrun⟩ := ih vm₁ rfl
    exact ⟨vm', h', (runLoop_of_ok o C program numInstructions hpc hv).trans hrun⟩

/-- The interpreter's loop ends where an instruction of the machine fails. -/
theorem runLoop_of_stepError {m m' : Machine} {e : Status} (hpc : m.pc < numInstructions)
    (h : Machine.step o C (fetch program m.pc) m = .error e m') :
    ∀ vm : Vm, vm.abs = m → ∃ vm' : Vm, vm'.abs = m' ∧
      runLoop o C program numInstructions vm = (e, vm') := by
  rintro vm rfl
  obtain ⟨vm', hv, rfl⟩ := mapResult_eq_error (vmStep_of_step h)
  exact ⟨vm', rfl, runLoop_of_error o C program numInstructions hpc hv⟩

end Runs

/-! ## The instructions on known stacks -/

namespace Machine

variable {o : ByteOrder} {C : Nat} {m : Machine}

theorem bind_of_ok {α β : Type} {x : MachM α} {f : α → MachM β} {a : α} {m₁ : Machine}
    (h : x m = .ok a m₁) : (x >>= f) m = f a m₁ := by
  show EStateM.bind x f m = _
  simp only [EStateM.bind, h]

/-- A call of a module function that succeeds. -/
theorem lift_map_ok {σ : Type} {g : Machine → Except Status σ} {put : Machine → σ → Machine}
    {s : σ} (h : g m = .ok s) : Machine.lift (fun m => (g m).map (put m)) m = .ok () (put m s) := by
  simp only [Machine.lift, h, Except.map]

theorem argPop_ok {v : Value} {rest : List Value} (h : m.stack.args = v :: rest) :
    Machine.argPop m = .ok v { m with stack := ⟨rest, m.stack.ctl⟩ } := by
  simp only [Machine.argPop, TwoStacks.argPop, h]

theorem popNum_ok {n : Number} {rest : List Value} (h : m.stack.args = .num n :: rest) :
    Machine.popNum m = .ok n { m with stack := ⟨rest, m.stack.ctl⟩ } := by
  show EStateM.bind _ _ m = _
  simp only [EStateM.bind, argPop_ok h]
  rfl

theorem popNum_cons {n : Number} {rest ctl : List Value} :
    Machine.popNum { m with stack := ⟨.num n :: rest, ctl⟩ } =
      .ok n { m with stack := ⟨rest, ctl⟩ } :=
  popNum_ok rfl

theorem get_bind {α : Type} {f : Machine → MachM α} : (get >>= f) m = f m m := rfl

theorem popBool_ok {b : Bool} {rest : List Value} (h : m.stack.args = .bool b :: rest) :
    Machine.popBool m = .ok b { m with stack := ⟨rest, m.stack.ctl⟩ } := by
  show EStateM.bind _ _ m = _
  simp only [EStateM.bind, argPop_ok h]
  rfl

theorem push_ok {v : Value} (hv : v.IsArg)
    (hcap : m.stack.args.length + m.stack.ctl.length + 1 ≤ stackSize) :
    Machine.push v m = .ok () { m with stack := ⟨v :: m.stack.args, m.stack.ctl⟩ } :=
  lift_map_ok (by simp only [TwoStacks.argPush, hv, not_true_eq_false, if_false,
    if_neg (show ¬(m.stack.args.length + m.stack.ctl.length + 1 > stackSize) by omega)])

theorem ctlPush_ok {v : Value} (hv : v.type = .pc)
    (hcap : m.stack.args.length + m.stack.ctl.length + 1 ≤ stackSize) :
    Machine.ctlPush v m = .ok () { m with stack := ⟨m.stack.args, v :: m.stack.ctl⟩ } :=
  lift_map_ok (by simp only [TwoStacks.ctlPush, hv, ne_eq, not_true_eq_false, if_false,
    if_neg (show ¬(m.stack.args.length + m.stack.ctl.length + 1 > stackSize) by omega)])

theorem dup_ok {n : Nat} (h1 : 1 ≤ n) (hn : n ≤ m.stack.args.length)
    (hcap : m.stack.args.length + m.stack.ctl.length + n ≤ stackSize) :
    Machine.dup n m =
      .ok () { m with stack := ⟨m.stack.args.take n ++ m.stack.args, m.stack.ctl⟩ } := by
  simp only [Machine.dup, if_neg (show ¬n < 1 by omega), pure_bind]
  exact lift_map_ok (by simp only [TwoStacks.argDup, if_neg (show ¬n = 0 by omega),
    if_neg (show ¬m.stack.args.length < n by omega),
    if_neg (show ¬(m.stack.args.length + m.stack.ctl.length + n > stackSize) by omega)])

theorem roll_ok {n : Nat} (h2 : 2 ≤ n) (hn : n ≤ m.stack.args.length) :
    Machine.roll n m = .ok () { m with stack := ⟨Grunt.roll n m.stack.args, m.stack.ctl⟩ } := by
  simp only [Machine.roll, if_neg (show ¬n < 2 by omega), pure_bind]
  exact lift_map_ok (by simp only [TwoStacks.argRoll, if_neg (show ¬n < 2 by omega),
    if_neg (show ¬m.stack.args.length < n by omega)])

theorem popLoop_ok : ∀ (k : Nat) (m : Machine), k ≤ m.stack.args.length →
    Machine.popLoop k m = .ok () { m with stack := ⟨m.stack.args.drop k, m.stack.ctl⟩ }
  | 0, _, _ => rfl
  | k + 1, m, hk => by
    obtain ⟨v, rest, hv⟩ : ∃ v rest, m.stack.args = v :: rest := by
      cases h : m.stack.args with
      | nil => simp [h] at hk
      | cons v rest => exact ⟨v, rest, rfl⟩
    show EStateM.bind _ _ m = _
    simp only [EStateM.bind, argPop_ok hv]
    rw [popLoop_ok k _ (by simp only [hv, List.length_cons] at hk; exact Nat.le_of_succ_le_succ hk)]
    simp only [hv, List.drop_succ_cons]

theorem pop_ok {n : Nat} (h1 : 1 ≤ n) (hn : n ≤ m.stack.args.length) :
    Machine.pop n m = .ok () { m with stack := ⟨m.stack.args.drop n, m.stack.ctl⟩ } := by
  simp only [Machine.pop, if_neg (show ¬n < 1 by omega), pure_bind]
  exact popLoop_ok n m hn

theorem pushTyped_ok {ty : ValueType} {literal : Value} (hty : literal.type = ty)
    (hv : literal.IsArg) (hcap : m.stack.args.length + m.stack.ctl.length + 1 ≤ stackSize) :
    Machine.pushTyped ty literal m =
      .ok () { m with stack := ⟨literal :: m.stack.args, m.stack.ctl⟩ } := by
  simp only [Machine.pushTyped, hty, ne_eq, not_true_eq_false, if_false, pure_bind]
  exact push_ok hv hcap

/-- `k` more numbers compared with `a`: the flag stays only if all equal `a`. -/
theorem eqLoop_ok (a : Number) :
    ∀ (bs : List Number) (flag : Bool) (m : Machine) (rest : List Value),
      m.stack.args = bs.map .num ++ rest →
      Machine.eqLoop a bs.length flag m =
        .ok (bs.foldl (fun acc b => if a ≠ b then false else acc) flag)
          { m with stack := ⟨rest, m.stack.ctl⟩ }
  | [], _, m, rest, h => by
    simp only [List.map_nil, List.nil_append] at h
    simp only [List.length_nil, Machine.eqLoop, List.foldl_nil, ← h]
    rfl
  | b :: bs, flag, m, rest, h => by
    simp only [List.map_cons, List.cons_append] at h
    simp only [List.length_cons, Machine.eqLoop]
    rw [bind_of_ok (popNum_ok h)]
    exact eqLoop_ok a bs _ _ rest rfl

/-- `k` more Booleans combined into `acc`. -/
theorem andOrLoop_ok (andFlag : Bool) :
    ∀ (bs : List Bool) (acc : Bool) (m : Machine) (rest : List Value),
      m.stack.args = bs.map .bool ++ rest →
      Machine.andOrLoop andFlag bs.length acc m =
        .ok (bs.foldl (fun acc b => if andFlag then acc && b else acc || b) acc)
          { m with stack := ⟨rest, m.stack.ctl⟩ }
  | [], _, m, rest, h => by
    simp only [List.map_nil, List.nil_append] at h
    simp only [List.length_nil, Machine.andOrLoop, List.foldl_nil, ← h]
    rfl
  | b :: bs, acc, m, rest, h => by
    simp only [List.map_cons, List.cons_append] at h
    simp only [List.length_cons, Machine.andOrLoop]
    rw [bind_of_ok (popBool_ok h)]
    exact andOrLoop_ok andFlag bs _ _ rest rfl

theorem eq_ok {n : Nat} {a : Number} {bs : List Number} {rest : List Value}
    (hbs : bs.length + 1 = n) (h2 : 2 ≤ n) (h : m.stack.args = .num a :: (bs.map .num ++ rest))
    (hcap : rest.length + m.stack.ctl.length + 1 ≤ stackSize) :
    Machine.eq n m = .ok () { m with stack :=
      ⟨.bool (bs.foldl (fun acc b => if a ≠ b then false else acc) true) :: rest,
        m.stack.ctl⟩ } := by
  simp only [Machine.eq, if_neg (show ¬n < 2 by omega), pure_bind]
  rw [bind_of_ok (popNum_ok h), show n - 1 = bs.length by omega,
    bind_of_ok (eqLoop_ok a bs true _ rest rfl)]
  exact (push_ok (Value.isArg_bool _) hcap :
    Machine.push _ { m with stack := ⟨rest, m.stack.ctl⟩ } = _)

theorem andOr_ok {n : Nat} {andFlag : Bool} {a : Bool} {bs : List Bool} {rest : List Value}
    (hbs : bs.length + 1 = n) (h2 : 2 ≤ n) (h : m.stack.args = .bool a :: (bs.map .bool ++ rest))
    (hcap : rest.length + m.stack.ctl.length + 1 ≤ stackSize) :
    Machine.andOr n andFlag m = .ok () { m with stack :=
      ⟨.bool (bs.foldl (fun acc b => if andFlag then acc && b else acc || b) a) :: rest,
        m.stack.ctl⟩ } := by
  simp only [Machine.andOr, if_neg (show ¬n < 2 by omega), pure_bind]
  rw [bind_of_ok (popBool_ok h), show n - 1 = bs.length by omega,
    bind_of_ok (andOrLoop_ok andFlag bs a _ rest rfl)]
  exact (push_ok (Value.isArg_bool _) hcap :
    Machine.push _ { m with stack := ⟨rest, m.stack.ctl⟩ } = _)

theorem ltGt_ok {ltFlag : Bool} {a b : Number} {rest : List Value}
    (h : m.stack.args = .num b :: .num a :: rest)
    (hcap : rest.length + m.stack.ctl.length + 1 ≤ stackSize) :
    Machine.ltGt ltFlag m = .ok () { m with stack :=
      ⟨.bool (if ltFlag then decide (a < b) else decide (a > b)) :: rest, m.stack.ctl⟩ } := by
  simp only [Machine.ltGt]
  rw [bind_of_ok (popNum_ok h)]
  exact (push_ok (Value.isArg_bool _) hcap :
    Machine.push _ { m with stack := ⟨rest, m.stack.ctl⟩ } = _)

theorem not_ok {a : Bool} {rest : List Value} (h : m.stack.args = .bool a :: rest)
    (hcap : rest.length + m.stack.ctl.length + 1 ≤ stackSize) :
    Machine.not m = .ok () { m with stack := ⟨.bool (!a) :: rest, m.stack.ctl⟩ } := by
  simp only [Machine.not]
  rw [bind_of_ok (popBool_ok h)]
  exact (push_ok (Value.isArg_bool _) hcap :
    Machine.push _ { m with stack := ⟨rest, m.stack.ctl⟩ } = _)

/-- `ADD` and `SUB` that neither overflow nor underflow. -/
theorem addSub_ok {addFlag : Bool} {a b : Number} {rest : List Value}
    (h : m.stack.args = .num b :: .num a :: rest)
    (hfit : if addFlag then a.val + b.val ≤ numMax.val else b.val ≤ a.val)
    (hcap : rest.length + m.stack.ctl.length + 1 ≤ stackSize) :
    Machine.addSub addFlag m = .ok () { m with stack :=
      ⟨.num (if addFlag then a + b else a - b) :: rest, m.stack.ctl⟩ } := by
  simp only [Machine.addSub]
  rw [bind_of_ok (popNum_ok h), bind_of_ok popNum_cons]
  cases addFlag
  · simp only [if_false, Bool.false_eq_true] at hfit ⊢
    rw [if_neg (show ¬a.val < b.val by omega), pure_bind]
    exact push_ok (Value.isArg_num _) hcap
  · simp only [if_true] at hfit ⊢
    rw [if_neg (show ¬b.val > numMax.val - a.val by omega), pure_bind]
    exact push_ok (Value.isArg_num _) hcap

theorem execInput_ok {n : Nat} {q : List UInt8} (hn : n = 1 ∨ n = 2 ∨ n = 4)
    (hq : m.input.queue = some q) (hs : m.input.head + n ≤ m.input.size)
    (hcap : m.stack.args.length + m.stack.ctl.length + 1 ≤ stackSize) :
    ∃ x : Number, x.val = o.decode ((q.drop m.input.head).take n) ∧
      Machine.execInput o n m = .ok () { m with
        stack := ⟨.num x :: m.stack.args, m.stack.ctl⟩
        input := { m.input with head := m.input.head + n } } := by
  obtain ⟨x, hx, hdq⟩ := inputDequeue_ok (o := o) hq hn hs
  refine ⟨x, hx, ?_⟩
  simp only [Machine.execInput, if_neg (show ¬(n ≠ 4 ∧ n ≠ 2 ∧ n ≠ 1) by omega), pure_bind]
  rw [bind_of_ok (show Machine.dequeue o n m =
      .ok (.num x) { m with input := { m.input with head := m.input.head + n } } by
    simp only [Machine.dequeue, hdq])]
  exact push_ok (Value.isArg_num _) hcap

theorem enqueue_ok {f : Output → Except Status Output} {out : Output} (h : f m.output = .ok out) :
    Machine.enqueue f m = .ok () { m with output := out } := by
  simp only [Machine.enqueue, Machine.lift, h, Except.map]

/-- `OUTPUT` of a string that the line takes. -/
theorem execOutput_str_ok {t : Fin 65536} {rest : List Value} {out : Output}
    (h : m.stack.args = .str t :: rest) (he : outputEnqueueString C t m.output = .ok out) :
    Machine.execOutput C m = .ok () { m with stack := ⟨rest, m.stack.ctl⟩, output := out } := by
  simp only [Machine.execOutput]
  rw [bind_of_ok (argPop_ok h)]
  exact enqueue_ok he

/-- `OUTPUT` of a number that the line takes. -/
theorem execOutput_num_ok {u : Number} {rest : List Value} {out : Output}
    (h : m.stack.args = .num u :: rest) (he : outputEnqueueNumber C u m.output = .ok out) :
    Machine.execOutput C m = .ok () { m with stack := ⟨rest, m.stack.ctl⟩, output := out } := by
  simp only [Machine.execOutput]
  rw [bind_of_ok (argPop_ok h)]
  exact enqueue_ok he

/-- `FLUSH` of the event with type `a` and identifier `b`. -/
theorem flush_ok {a b : Number} {rest : List Value} (h : m.stack.args = .num a :: .num b :: rest) :
    Machine.flush C m = .ok () { m with
      stack := ⟨rest, m.stack.ctl⟩
      output := (outputFlush C a b m.output).2
      events := m.events ++ [(outputFlush C a b m.output).1] } := by
  simp only [Machine.flush]
  rw [bind_of_ok (popNum_ok h), bind_of_ok popNum_cons]
  rfl

theorem call_ok' {target : Fin 65536} (hpc : m.pc ≤ target)
    (hcap : m.stack.args.length + m.stack.ctl.length + 1 ≤ stackSize) :
    Machine.call (.pc target) m =
      .ok () { m with pc := target, stack := ⟨m.stack.args, .pc m.pc :: m.stack.ctl⟩ } := by
  simp only [Machine.call]
  rw [get_bind, if_neg (not_lt.mpr hpc), pure_bind, get_bind, bind_of_ok (@ctlPush_ok m (.pc m.pc) rfl hcap)]
  rfl

theorem return_ok' {v : Value} {rest : List Value} (h : m.stack.ctl = v :: rest) :
    Machine.return m = .ok () { m with pc := v.valPc, stack := ⟨m.stack.args, rest⟩ } := by
  simp only [Machine.return]
  rw [bind_of_ok (show Machine.ctlPop m = .ok v { m with stack := ⟨m.stack.args, rest⟩ } by
    simp only [Machine.ctlPop, TwoStacks.ctlPop, h])]
  rfl

/-- `JMPIF` on a false Boolean falls through. -/
theorem jmpif_false {offset : Fin 65536} {rest : List Value} (h2 : 2 ≤ offset.val)
    (h : m.stack.args = .bool false :: rest) :
    Machine.jmpif (.pc offset) m = .ok () { m with stack := ⟨rest, m.stack.ctl⟩ } := by
  simp only [Machine.jmpif]
  rw [if_neg (show ¬offset.val < 2 by omega), pure_bind, bind_of_ok (popBool_ok h)]
  rfl

/-- `JMPIF` on a true Boolean jumps. -/
theorem jmpif_true {offset : Fin 65536} {rest : List Value} (h2 : 2 ≤ offset.val)
    (h : m.stack.args = .bool true :: rest) (hfit : offset.val ≤ 65535 - m.pc.val) :
    Machine.jmpif (.pc offset) m =
      .ok () { m with pc := m.pc + (offset - 1), stack := ⟨rest, m.stack.ctl⟩ } := by
  simp only [Machine.jmpif]
  rw [if_neg (show ¬offset.val < 2 by omega), pure_bind, bind_of_ok (popBool_ok h)]
  simp only [Bool.not_true, Bool.false_eq_true, if_false, pure_bind, get_bind,
    if_neg (show ¬offset.val > 65535 - m.pc.val by omega)]
  rfl

end Machine

end Grunt
