import Grunt.Machine

/-!
# The interpreter refines the abstract machine

`Sim x X` says that running the interpreter's function `x` and then forgetting the
registers and the dead slots gives what the machine's instruction `X` gives on the
forgotten state, status and all.  The relation is closed under `pure`, `throw` and bind,
so each instruction's proof follows the shape of its code: the stack primitives are
related by the lemmas of `Grunt.StackRefinement`, the register writes vanish, and the
register reads are the values the machine carries.

The rules are stated for any map of states (`SimAlong`); `Grunt.History` uses them again
with the map that puts earlier events in front of the machine's own.
-/

namespace Grunt

/-- A result with its state mapped by `f`. -/
def mapResult {σ τ α : Type} (f : σ → τ) : EStateM.Result Status σ α → EStateM.Result Status τ α
  | .ok a s => .ok a (f s)
  | .error e s => .error e (f s)

theorem mapResult_eq_ok {σ τ α : Type} {f : σ → τ} {r : EStateM.Result Status σ α} {a : α}
    {t : τ} (h : mapResult f r = .ok a t) : ∃ s, r = .ok a s ∧ f s = t := by
  rcases r with ⟨a', s⟩ | ⟨e, s⟩ <;> cases h
  exact ⟨s, rfl, rfl⟩

theorem mapResult_eq_error {σ τ α : Type} {f : σ → τ} {r : EStateM.Result Status σ α}
    {e : Status} {t : τ} (h : mapResult f r = .error e t) : ∃ s, r = .error e s ∧ f s = t := by
  rcases r with ⟨a, s⟩ | ⟨e', s⟩ <;> cases h
  exact ⟨s, rfl, rfl⟩

/-- `x` run and then mapped by `f` is `X` run on the mapped state, status and all. -/
def SimAlong {σ τ α : Type} (f : σ → τ) (x : EStateM Status σ α) (X : EStateM Status τ α) :
    Prop :=
  ∀ s, mapResult f (x s) = X (f s)

/-- A result of the interpreter seen through the abstraction. -/
abbrev absResult {α : Type} : EStateM.Result Status Vm α → EStateM.Result Status Machine α :=
  mapResult Vm.abs

/-- The interpreter's `x` refines the machine's `X`. -/
abbrev Sim {α : Type} (x : VmM α) (X : MachM α) : Prop := SimAlong Vm.abs x X

namespace SimAlong

variable {σ τ α β : Type} {g : σ → τ}

theorem pure' (a : α) : SimAlong g (pure a) (pure a) := fun _ => rfl

theorem throw' (e : Status) : SimAlong g (throw e : EStateM Status σ α) (throw e) := fun _ => rfl

theorem bind' {x : EStateM Status σ α} {X : EStateM Status τ α} {f : α → EStateM Status σ β}
    {F : α → EStateM Status τ β} (hx : SimAlong g x X) (hf : ∀ a, SimAlong g (f a) (F a)) :
    SimAlong g (x >>= f) (X >>= F) := by
  intro s
  have h := hx s
  show mapResult g (EStateM.bind x f s) = EStateM.bind X F (g s)
  unfold EStateM.bind
  rcases hxs : x s with ⟨a, s'⟩ | ⟨e, s'⟩ <;> rw [hxs] at h <;> rw [← h]
  · exact hf a s'
  · rfl

/-- A read of the whole state: the continuation may only look at what `g` keeps. -/
theorem get_bind {f : σ → EStateM Status σ α} {F : τ → EStateM Status τ α}
    (hf : ∀ s, SimAlong g (f s) (F (g s))) : SimAlong g (get >>= f) (get >>= F) :=
  fun s => hf s s

theorem ite' {c : Prop} [Decidable c] {x y : EStateM Status σ α} {X Y : EStateM Status τ α}
    (hx : c → SimAlong g x X) (hy : ¬c → SimAlong g y Y) :
    SimAlong g (if c then x else y) (if c then X else Y) := by
  by_cases h : c
  · simpa only [if_pos h] using hx h
  · simpa only [if_neg h] using hy h

/-- Bind for a continuation that relies on what `x` leaves in the part of the state `g`
forgets (the interpreter's registers): `Q` is what `x` guarantees of its final state. -/
theorem bind_post {x : EStateM Status σ α} {X : EStateM Status τ α} {f : α → EStateM Status σ β}
    {F : α → EStateM Status τ β} {P : σ → Prop} {Q : α → σ → Prop}
    (hx : ∀ s, P s → mapResult g (x s) = X (g s)) (hq : ∀ s a s', P s → x s = .ok a s' → Q a s')
    (hf : ∀ a s, Q a s → mapResult g (f a s) = F a (g s)) :
    ∀ s, P s → mapResult g ((x >>= f) s) = (X >>= F) (g s) := by
  intro s hP
  have h := hx s hP
  show mapResult g (EStateM.bind x f s) = EStateM.bind X F (g s)
  unfold EStateM.bind
  rcases hxs : x s with ⟨a, s'⟩ | ⟨e, s'⟩ <;> rw [hxs] at h <;> rw [← h]
  · exact hf a s' (hq s a s' hP hxs)
  · rfl

/-- A success of `x` is a success of `X` on the mapped state. -/
theorem ok {x : EStateM Status σ α} {X : EStateM Status τ α} (hx : SimAlong g x X) {s s' : σ}
    {a : α} (h : x s = .ok a s') : X (g s) = .ok a (g s') := by
  have := hx s
  rw [h] at this
  exact this.symm

/-- A failure of `x` is a failure of `X` on the mapped state. -/
theorem error {x : EStateM Status σ α} {X : EStateM Status τ α} (hx : SimAlong g x X) {s s' : σ}
    {e : Status} (h : x s = .error e s') : X (g s) = .error e (g s') := by
  have := hx s
  rw [h] at this
  exact this.symm

end SimAlong

open Vm

section Primitives

theorem lift_sim {f : Vm → Except Status Vm} {F : Machine → Except Status Machine}
    (h : ∀ vm, (f vm).map abs = F vm.abs) : Sim (lift f) (Machine.lift F) := by
  intro vm
  rw [Machine.lift, ← h vm]
  unfold lift
  cases f vm <;> rfl

/-- A stack function whose abstraction is `g` refines `g` on the machine's stacks. -/
theorem stack_lift_sim {f : Stack → Except Status Stack} {g : TwoStacks → Except Status TwoStacks}
    (h : ∀ s, (f s).map Stack.abs = g s.abs) :
    Sim (lift fun vm => (f vm.stack).map fun s => { vm with stack := s })
      (Machine.lift fun m => (g m.stack).map fun t => { m with stack := t }) :=
  lift_sim fun vm => by
    show _ = (g vm.stack.abs).map _
    rw [← h]
    cases f vm.stack <;> rfl

theorem argPush_sim (v : Value) : Sim (argPush v) (Machine.push v) :=
  stack_lift_sim (Stack.argPush_abs v)

theorem ctlPush_sim (v : Value) : Sim (ctlPush v) (Machine.ctlPush v) :=
  stack_lift_sim (Stack.ctlPush_abs v)

theorem popInto_sim (r : Reg) : Sim (popInto r) Machine.argPop := by
  intro vm
  have h := Stack.argPop_abs vm.stack
  show absResult (EStateM.bind (argPop r) _ vm) = _
  simp only [Machine.argPop, EStateM.bind, argPop, lift, Except.map]
  rcases hs : vm.stack.argPop with e | ⟨v, s⟩ <;> rw [hs] at h <;> simp only [Except.map] at h
  · rw [show vm.abs.stack.argPop = _ from h.symm]; rfl
  · rw [show vm.abs.stack.argPop = _ from h.symm]
    cases r <;> rfl

theorem popNum_sim (r : Reg) : Sim (popNum r) Machine.popNum :=
  (popInto_sim r).bind' fun v => by cases v <;> first | exact SimAlong.pure' _ | exact SimAlong.throw' _

theorem popBool_sim (r : Reg) : Sim (popBool r) Machine.popBool :=
  (popInto_sim r).bind' fun v => by cases v <;> first | exact SimAlong.pure' _ | exact SimAlong.throw' _

/-- Storing a result in `g_ra` and pushing `g_ra` pushes the result. -/
theorem pushRa_sim (v : Value) : Sim (pushRa v) (Machine.push v) :=
  fun vm => argPush_sim v { vm with ra := v }

theorem argDup_sim (n : Nat) : Sim (argDup n)
    (Machine.lift fun m => (m.stack.argDup n).map fun t => { m with stack := t }) :=
  stack_lift_sim (Stack.argDup_abs n)

theorem argRoll_sim (n : Nat) : Sim (argRoll n)
    (Machine.lift fun m => (m.stack.argRoll n).map fun t => { m with stack := t }) :=
  stack_lift_sim (Stack.argRoll_abs n)

theorem enqueue_sim (f : Output → Except Status Output) : Sim (enqueue f) (Machine.enqueue f) :=
  lift_sim fun vm => by
    show _ = Except.map _ (f vm.output)
    cases f vm.output <;> rfl

theorem rewind_sim (n : Nat) : Sim (rewind n)
    (Machine.lift fun m => (inputRewind n m.input).map fun i => { m with input := i }) :=
  lift_sim fun vm => by
    show _ = Except.map _ (inputRewind n vm.input)
    cases inputRewind n vm.input <;> rfl

/-- A pop whose value is not read. -/
theorem argPop_bind_sim {f : VmM α} {F : MachM α} (r : Reg) (hf : Sim f F) :
    Sim (argPop r >>= fun _ => f) (Machine.argPop >>= fun _ => F) := by
  have h : (argPop r >>= fun _ => f) = (popInto r >>= fun _ => f) := by
    funext vm
    show EStateM.bind _ _ vm = EStateM.bind (EStateM.bind _ _) _ vm
    simp only [EStateM.bind]
    cases argPop r vm <;> rfl
  exact h ▸ (popInto_sim r).bind' fun _ => hf

/-- Popping into `g_rb` leaves `g_ra` alone, and popping into `g_ra` leaves the popped
value there. -/
theorem popInto_reg {r : Reg} {vm vm' : Vm} {v : Value} (h : popInto r vm = .ok v vm') :
    vm'.ra = (if r = .ra then v else vm.ra) := by
  revert h
  show EStateM.bind _ _ vm = _ → _
  simp only [EStateM.bind, argPop, lift, Except.map]
  rcases vm.stack.argPop with e | ⟨w, s⟩
  · intro h; cases h
  · intro h; cases r <;> cases h <;> rfl

/-- What popping a Boolean leaves in `g_ra`. -/
theorem popBool_ra {r : Reg} {vm vm' : Vm} {b : Bool} (h : popBool r vm = .ok b vm') :
    vm'.ra = if r = .ra then .bool b else vm.ra := by
  revert h
  show EStateM.bind (popInto r) _ vm = _ → _
  unfold EStateM.bind
  rcases hp : popInto r vm with ⟨v, vm1⟩ | ⟨e, vm1⟩
  · have := popInto_reg hp
    cases v <;> intro h <;> cases h
    exact this
  · intro h; cases h

/-- What popping a number leaves in `g_ra`. -/
theorem popNum_ra {r : Reg} {vm vm' : Vm} {n : Number} (h : popNum r vm = .ok n vm') :
    vm'.ra = if r = .ra then .num n else vm.ra := by
  revert h
  show EStateM.bind (popInto r) _ vm = _ → _
  unfold EStateM.bind
  rcases hp : popInto r vm with ⟨v, vm1⟩ | ⟨e, vm1⟩
  · have := popInto_reg hp
    cases v <;> intro h <;> cases h
    exact this
  · intro h; cases h

end Primitives

theorem throw_bind {σ α β : Type} (e : Status) (f : α → EStateM Status σ β) :
    (throw e >>= f) = throw e := rfl

section Instructions

variable (o : ByteOrder) (C : Nat)

theorem vmAddSub_sim (addFlag : Bool) : Sim (vmAddSub addFlag) (Machine.addSub addFlag) :=
  (popNum_sim .rb).bind' fun b => (popNum_sim .ra).bind' fun a => by
    simp only [pure_bind, throw_bind]
    exact SimAlong.ite' (fun _ => SimAlong.ite' (fun _ => SimAlong.throw' _) fun _ => pushRa_sim _)
      fun _ => SimAlong.ite' (fun _ => SimAlong.throw' _) fun _ => pushRa_sim _

theorem vmLtGt_sim (ltFlag : Bool) : Sim (vmLtGt ltFlag) (Machine.ltGt ltFlag) :=
  (popNum_sim .rb).bind' fun _ => (popNum_sim .ra).bind' fun _ => pushRa_sim _

theorem vmNot_sim : Sim vmNot Machine.not :=
  (popBool_sim .ra).bind' fun _ => pushRa_sim _

theorem vmDup_sim (reps : Nat) : Sim (vmDup reps) (Machine.dup reps) := by
  simp only [vmDup, Machine.dup, pure_bind, throw_bind]
  exact SimAlong.ite' (fun _ => SimAlong.throw' _) fun _ => argDup_sim reps

theorem vmRoll_sim (reps : Nat) : Sim (vmRoll reps) (Machine.roll reps) := by
  simp only [vmRoll, Machine.roll, pure_bind, throw_bind]
  exact SimAlong.ite' (fun _ => SimAlong.throw' _) fun _ => argRoll_sim reps

theorem popLoop_sim : ∀ k, Sim (popLoop k) (Machine.popLoop k)
  | 0 => SimAlong.pure' ()
  | k + 1 => argPop_bind_sim .ra (popLoop_sim k)

theorem vmPop_sim (reps : Nat) : Sim (vmPop reps) (Machine.pop reps) := by
  simp only [vmPop, Machine.pop, pure_bind, throw_bind]
  exact SimAlong.ite' (fun _ => SimAlong.throw' _) fun _ => popLoop_sim reps

theorem vmPushTyped_sim (ty : ValueType) (literal : Value) :
    Sim (vmPushTyped ty literal) (Machine.pushTyped ty literal) := by
  simp only [vmPushTyped, Machine.pushTyped, pure_bind, throw_bind]
  exact SimAlong.ite' (fun _ => SimAlong.throw' _) fun _ => argPush_sim literal

theorem vmHalt_sim : Sim vmHalt Machine.halt :=
  (popBool_sim .ra).bind' fun _ => SimAlong.throw' _

theorem vmFlush_sim : Sim (vmFlush C) (Machine.flush C) :=
  (popNum_sim .ra).bind' fun _ => (popNum_sim .rb).bind' fun _ _ => rfl

theorem vmOutput_sim : Sim (vmOutput C) (Machine.execOutput C) :=
  (popInto_sim .ra).bind' fun v => by
    cases v
    · exact enqueue_sim _
    · exact enqueue_sim _
    · exact enqueue_sim _
    · exact SimAlong.throw' _

theorem vmRewind_sim (reps : Nat) : Sim (vmRewind reps) (Machine.rewind reps) := rewind_sim reps

/-- The loop of `AND` and `OR` from a state whose `g_ra` holds the accumulator, with the
final push of `g_ra`. -/
theorem andOrLoop_sim (andFlag : Bool) : ∀ (k : Nat) (acc : Bool) (vm : Vm), vm.ra = .bool acc →
    absResult ((andOrLoop andFlag k >>= fun _ => get >>= fun vm => argPush vm.ra) vm) =
      (Machine.andOrLoop andFlag k acc >>= fun r => Machine.push (.bool r)) vm.abs
  | 0, acc, vm, h => by
    show absResult (argPush vm.ra vm) = _
    rw [h]
    exact argPush_sim _ vm
  | k + 1, acc, vm, h => by
    simp only [andOrLoop, Machine.andOrLoop, bind_assoc]
    refine @SimAlong.bind_post _ _ _ _ _ _ _ _ _ (fun vm => vm.ra = .bool acc) (fun _ vm => vm.ra = .bool acc)
      (fun vm _ => popBool_sim .rb vm) (fun vm b vm' hP hx => ?_) (fun b vm₁ h₁ => ?_) vm h
    · show vm'.ra = _
      rw [popBool_ra hx]; exact hP
    · exact andOrLoop_sim andFlag k _ _ (by simp only [h₁, Value.valB])

theorem vmAndOr_sim (n : Nat) (andFlag : Bool) : Sim (vmAndOr n andFlag) (Machine.andOr n andFlag) := by
  simp only [vmAndOr, Machine.andOr, pure_bind, throw_bind]
  refine SimAlong.ite' (fun _ => SimAlong.throw' _) fun _ => ?_
  refine fun vm => @SimAlong.bind_post _ _ _ _ _ _ _ _ _ (fun _ => True) (fun a vm => vm.ra = .bool a)
    (fun vm _ => popBool_sim .ra vm) (fun vm b vm' _ hx => ?_)
    (fun a vm₁ h₁ => andOrLoop_sim andFlag (n - 1) a vm₁ h₁) vm trivial
  simpa using popBool_ra hx

/-- The loop of `EQ` from a state whose `g_ra` holds the first operand. -/
theorem eqLoop_sim (a : Number) : ∀ (k : Nat) (equalFlag : Bool) (vm : Vm), vm.ra = .num a →
    absResult (eqLoop k equalFlag vm) = Machine.eqLoop a k equalFlag vm.abs
  | 0, _, _, _ => rfl
  | k + 1, equalFlag, vm, h => by
    simp only [eqLoop, Machine.eqLoop]
    refine @SimAlong.bind_post _ _ _ _ _ _ _ _ _ (fun vm => vm.ra = .num a) (fun _ vm => vm.ra = .num a)
      (fun vm _ => popNum_sim .rb vm) (fun vm b vm' hP hx => ?_) (fun b vm₁ h₁ => ?_) vm h
    · show vm'.ra = _
      rw [popNum_ra hx]; exact hP
    · show absResult (eqLoop k _ vm₁) = _
      rw [h₁]
      exact eqLoop_sim a k _ vm₁ h₁

theorem vmEq_sim (n : Nat) : Sim (vmEq n) (Machine.eq n) := by
  simp only [vmEq, Machine.eq, pure_bind, throw_bind]
  refine SimAlong.ite' (fun _ => SimAlong.throw' _) fun _ => ?_
  refine fun vm => @SimAlong.bind_post _ _ _ _ _ _ _ _ _ (fun _ => True) (fun a vm => vm.ra = .num a)
    (fun vm _ => popNum_sim .ra vm) (fun vm b vm' _ hx => ?_) (fun a vm₁ h₁ => ?_) vm trivial
  · simpa using popNum_ra hx
  · exact @SimAlong.bind_post _ _ _ _ _ _ _ _ _ (fun vm => vm.ra = .num a) (fun _ _ => True)
      (eqLoop_sim a (n - 1) true) (fun _ _ _ _ _ => trivial) (fun r vm _ => pushRa_sim (.bool r) vm) vm₁ h₁

theorem vmCall_sim (literal : Value) : Sim (vmCall literal) (Machine.call literal) := by
  cases literal with
  | pc target =>
    refine SimAlong.get_bind fun vm => ?_
    simp only [pure_bind, throw_bind]
    exact SimAlong.ite' (fun _ => SimAlong.throw' _) fun _ vm' =>
      ((ctlPush_sim (.pc vm'.pc)).bind' fun _ _ => rfl) { vm' with ra := .pc vm'.pc }
  | _ => exact SimAlong.throw' _

theorem vmJmpif_sim (literal : Value) : Sim (vmJmpif literal) (Machine.jmpif literal) := by
  cases literal with
  | pc offset =>
    simp only [vmJmpif, Machine.jmpif, pure_bind, throw_bind]
    refine SimAlong.ite' (fun _ => SimAlong.throw' _) fun _ => (popBool_sim .ra).bind' fun b => ?_

    refine SimAlong.ite' (fun _ => SimAlong.pure' _) fun _ => SimAlong.get_bind fun vm => ?_

    exact SimAlong.ite' (fun _ => SimAlong.throw' _) fun _ _ => rfl
  | _ => exact SimAlong.throw' _

theorem vmReturn_sim : Sim vmReturn Machine.return := by
  intro vm
  have h := Stack.ctlPop_abs vm.stack
  show absResult (EStateM.bind ctlPop _ vm) = EStateM.bind Machine.ctlPop _ vm.abs
  simp only [EStateM.bind, ctlPop, Machine.ctlPop, lift, Except.map]
  rcases hs : vm.stack.ctlPop with e | ⟨v, s⟩ <;> rw [hs] at h <;> simp only [Except.map] at h <;>
    rw [show vm.abs.stack.ctlPop = _ from h.symm] <;> rfl

theorem vmInput_sim (n : Nat) : Sim (vmInput o n) (Machine.execInput o n) := by
  simp only [vmInput, Machine.execInput, pure_bind, throw_bind]
  refine SimAlong.ite' (fun _ => SimAlong.throw' _) fun _ vm => ?_
  show absResult (EStateM.bind (dequeue o n) _ vm) = EStateM.bind (Machine.dequeue o n) _ vm.abs
  simp only [EStateM.bind, dequeue, Machine.dequeue, lift, Except.map]
  rw [show vm.abs.input = vm.input from rfl]
  rcases inputDequeue o n vm.input with e | ⟨v, i⟩
  · rfl
  · exact argPush_sim v { vm with ra := v, input := i }

theorem vmStep_sim (i : Instruction) : Sim (vmStep o C i) (Machine.step o C i) := by
  refine SimAlong.bind' (fun _ => rfl) fun _ => ?_
  unfold Machine.exec
  rcases i.opcode with _ | op
  · exact SimAlong.throw' _
  · cases op
    exacts [vmAddSub_sim true, vmAndOr_sim _ true, vmCall_sim _, vmDup_sim _, vmEq_sim _,
      vmFlush_sim C, vmLtGt_sim false, vmHalt_sim, vmJmpif_sim _, vmLtGt_sim true, vmNot_sim,
      vmAndOr_sim _ false, vmOutput_sim C, vmPop_sim _, vmPushTyped_sim _ _,
      vmPushTyped_sim _ _, vmPushTyped_sim _ _, vmInput_sim o _, vmReturn_sim, vmRewind_sim _,
      vmRoll_sim _, vmAddSub_sim false]

end Instructions

end Grunt
