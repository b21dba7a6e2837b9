import Grunt.Hoare

/-!
# The control effect of an instruction

Only three instructions touch the control part of the state, `pc` and the control stack,
beyond the advance of `pc` that `grunt_vm_step` makes first: `CALL` pushes the advanced
`pc` and jumps forward, a taken `JMPIF` jumps forward, and `RETURN` pops the control
stack into `pc`.  Every other instruction works on the argument stack, the input window
and the output line only.  `step_control` says so for every instruction; the measure of
`Grunt.Run` and the call discipline of `Grunt.CallStack` are derived from it alone.
-/

namespace Grunt

namespace TwoStacks

theorem argPop_ctl {t t' : TwoStacks} {v : Value} (h : t.argPop = .ok (v, t')) : t'.ctl = t.ctl := by
  unfold argPop at h
  split at h <;> cases h
  rfl

theorem argPush_ctl {t t' : TwoStacks} {v : Value} (h : t.argPush v = .ok t') : t'.ctl = t.ctl := by
  unfold argPush at h
  split_ifs at h
  cases h
  rfl

theorem argDup_ctl {t t' : TwoStacks} {n : Nat} (h : t.argDup n = .ok t') : t'.ctl = t.ctl := by
  unfold argDup at h
  split_ifs at h
  cases h
  rfl

theorem argRoll_ctl {t t' : TwoStacks} {n : Nat} (h : t.argRoll n = .ok t') : t'.ctl = t.ctl := by
  unfold argRoll at h
  split_ifs at h
  cases h
  rfl

theorem ctlPush_ctl {t t' : TwoStacks} {v : Value} (h : t.ctlPush v = .ok t') : t'.ctl = v :: t.ctl := by
  unfold ctlPush at h
  split_ifs at h
  cases h
  rfl

theorem ctlPop_ctl {t t' : TwoStacks} {v : Value} (h : t.ctlPop = .ok (v, t')) : t.ctl = v :: t'.ctl := by
  unfold ctlPop at h
  split at h <;> cases h
  assumption

end TwoStacks

/-- The control part of a state is `pc` and the control stack `c`. -/
def Frame (p : Fin 65536) (c : List Value) (m : Machine) : Prop := m.pc = p ∧ m.stack.ctl = c

/-- `x` keeps `pc` and the control stack. -/
def KeepsControl {α : Type} (x : MachM α) : Prop :=
  ∀ p c, Triple (Frame p c) x (fun _ => Frame p c) (fun _ => True)

namespace KeepsControl

variable {α β : Type}

theorem pure' (a : α) : KeepsControl (pure a) := fun _ _ => Triple.pure' fun _ h => h

theorem throw' (e : Status) : KeepsControl (throw e : MachM α) := fun _ _ => Triple.throw' trivial

theorem bind' {x : MachM α} {f : α → MachM β} (hx : KeepsControl x)
    (hf : ∀ a, KeepsControl (f a)) : KeepsControl (x >>= f) :=
  fun p c => (hx p c).bind' fun a => hf a p c

theorem ite' {c : Prop} [Decidable c] {x y : MachM α} (hx : KeepsControl x)
    (hy : KeepsControl y) : KeepsControl (if c then x else y) :=
  fun p k => Triple.ite' (fun _ => hx p k) fun _ => hy p k

/-- A success of `x` keeps `pc` and the control stack. -/
theorem ok {x : MachM α} (hx : KeepsControl x) {m m' : Machine} {a : α} (h : x m = .ok a m') :
    m'.pc = m.pc ∧ m'.stack.ctl = m.stack.ctl := by
  have := hx m.pc m.stack.ctl m ⟨rfl, rfl⟩
  rw [h] at this
  exact this

end KeepsControl

section Primitives

theorem argPop_keepsControl : KeepsControl Machine.argPop := fun _ _ =>
  Triple.argPop' (fun _ _ _ hm h => ⟨hm.1, (TwoStacks.argPop_ctl h).trans hm.2⟩)
    fun _ _ _ _ => trivial

/-- A function of the stack, input or output module that keeps `pc` and the control
stack. -/
theorem lift_keepsControl {σ : Type} {g : Machine → Except Status σ} {put : Machine → σ → Machine}
    (hg : ∀ m s, g m = .ok s → (put m s).pc = m.pc ∧ (put m s).stack.ctl = m.stack.ctl) :
    KeepsControl (Machine.lift fun m => (g m).map (put m)) := fun _ _ =>
  Triple.lift_map' (fun m s hm h => ⟨(hg m s h).1.trans hm.1, (hg m s h).2.trans hm.2⟩)
    fun _ _ _ _ => trivial

theorem push_keepsControl (v : Value) : KeepsControl (Machine.push v) :=
  lift_keepsControl fun _ _ h => ⟨rfl, TwoStacks.argPush_ctl h⟩

theorem popNum_keepsControl : KeepsControl Machine.popNum :=
  argPop_keepsControl.bind' fun v => by
    cases v <;> first | exact KeepsControl.pure' _ | exact KeepsControl.throw' _

theorem popBool_keepsControl : KeepsControl Machine.popBool :=
  argPop_keepsControl.bind' fun v => by
    cases v <;> first | exact KeepsControl.pure' _ | exact KeepsControl.throw' _

theorem enqueue_keepsControl (f : Output → Except Status Output) :
    KeepsControl (Machine.enqueue f) :=
  lift_keepsControl fun _ _ _ => ⟨rfl, rfl⟩

theorem dequeue_keepsControl (o : ByteOrder) (n : Nat) : KeepsControl (Machine.dequeue o n) :=
  fun _ _ => Triple.dequeue' (fun _ _ _ hm _ => hm) fun _ _ _ _ => trivial

end Primitives

section Instructions

variable (o : ByteOrder) (C : Nat)

/-- A check that fails with `e`, followed by `f`. -/
theorem guard_keepsControl {c : Prop} [Decidable c] (e : Status) {f : Unit → MachM α}
    (hf : ∀ u, KeepsControl (f u)) :
    KeepsControl (if c then throw e >>= f else pure () >>= f) :=
  KeepsControl.ite' ((KeepsControl.throw' _).bind' hf) ((KeepsControl.pure' _).bind' hf)

theorem addSub_keepsControl (addFlag : Bool) : KeepsControl (Machine.addSub addFlag) :=
  popNum_keepsControl.bind' fun _ => popNum_keepsControl.bind' fun _ =>
    KeepsControl.ite' (guard_keepsControl _ fun _ => push_keepsControl _)
      (guard_keepsControl _ fun _ => push_keepsControl _)

theorem andOrLoop_keepsControl (andFlag : Bool) :
    ∀ k acc, KeepsControl (Machine.andOrLoop andFlag k acc)
  | 0, _ => KeepsControl.pure' _
  | k + 1, _ => popBool_keepsControl.bind' fun _ => andOrLoop_keepsControl andFlag k _

theorem eqLoop_keepsControl (a : Number) : ∀ k flag, KeepsControl (Machine.eqLoop a k flag)
  | 0, _ => KeepsControl.pure' _
  | k + 1, _ => popNum_keepsControl.bind' fun _ => eqLoop_keepsControl a k _

theorem popLoop_keepsControl : ∀ k, KeepsControl (Machine.popLoop k)
  | 0 => KeepsControl.pure' _
  | k + 1 => argPop_keepsControl.bind' fun _ => popLoop_keepsControl k

theorem andOr_keepsControl (n : Nat) (andFlag : Bool) : KeepsControl (Machine.andOr n andFlag) :=
  guard_keepsControl _ fun _ => popBool_keepsControl.bind' fun _ =>
    (andOrLoop_keepsControl andFlag _ _).bind' fun _ => push_keepsControl _

theorem eq_keepsControl (n : Nat) : KeepsControl (Machine.eq n) :=
  guard_keepsControl _ fun _ => popNum_keepsControl.bind' fun _ =>
    (eqLoop_keepsControl _ _ _).bind' fun _ => push_keepsControl _

theorem ltGt_keepsControl (ltFlag : Bool) : KeepsControl (Machine.ltGt ltFlag) :=
  popNum_keepsControl.bind' fun _ => popNum_keepsControl.bind' fun _ => push_keepsControl _

theorem not_keepsControl : KeepsControl Machine.not :=
  popBool_keepsControl.bind' fun _ => push_keepsControl _

theorem dup_keepsControl (reps : Nat) : KeepsControl (Machine.dup reps) :=
  guard_keepsControl _ fun _ => lift_keepsControl fun _ _ h => ⟨rfl, TwoStacks.argDup_ctl h⟩

theorem pop_keepsControl (reps : Nat) : KeepsControl (Machine.pop reps) :=
  guard_keepsControl _ fun _ => popLoop_keepsControl reps

theorem pushTyped_keepsControl (ty : ValueType) (literal : Value) :
    KeepsControl (Machine.pushTyped ty literal) :=
  guard_keepsControl _ fun _ => push_keepsControl _

theorem roll_keepsControl (reps : Nat) : KeepsControl (Machine.roll reps) :=
  guard_keepsControl _ fun _ => lift_keepsControl fun _ _ h => ⟨rfl, TwoStacks.argRoll_ctl h⟩

theorem flush_keepsControl : KeepsControl (Machine.flush C) :=
  popNum_keepsControl.bind' fun _ => popNum_keepsControl.bind' fun _ _ _ =>
    Triple.modify' fun _ h => h

theorem execInput_keepsControl (n : Nat) : KeepsControl (Machine.execInput o n) :=
  guard_keepsControl _ fun _ => (dequeue_keepsControl o n).bind' fun _ => push_keepsControl _

theorem execOutput_keepsControl : KeepsControl (Machine.execOutput C) :=
  argPop_keepsControl.bind' fun v => by
    cases v
    · exact enqueue_keepsControl _
    · exact enqueue_keepsControl _
    · exact enqueue_keepsControl _
    · exact KeepsControl.throw' _

theorem rewind_keepsControl (reps : Nat) : KeepsControl (Machine.rewind reps) :=
  lift_keepsControl fun _ _ _ => ⟨rfl, rfl⟩

/-- A successful `CALL` pushes `pc` and goes to its target, never backwards. -/
theorem call_ok {literal : Value} {m m' : Machine} (h : Machine.call literal m = .ok () m') :
    ∃ target, literal = .pc target ∧ m.pc ≤ target ∧ m'.pc = target ∧
      m'.stack.ctl = .pc m.pc :: m.stack.ctl := by
  cases literal with
  | pc target =>
    simp only [Machine.call] at h
    obtain ⟨_, _, ⟨⟩, h⟩ := bind_ok h
    split_ifs at h with hlt
    · cases h
    · obtain ⟨_, _, ⟨⟩, h⟩ := bind_ok h
      obtain ⟨_, _, ⟨⟩, h⟩ := bind_ok h
      obtain ⟨_, m₁, h₁, ⟨⟩⟩ := bind_ok h
      obtain ⟨t, ht, rfl⟩ := lift_map_ok h₁
      exact ⟨target, rfl, not_lt.mp hlt, rfl, TwoStacks.ctlPush_ctl ht⟩
  | _ => cases h

/-- A successful `JMPIF` keeps the control stack and either stays at `pc` or jumps
`offset - 1` further, without wrapping. -/
theorem jmpif_ok {literal : Value} {m m' : Machine} (h : Machine.jmpif literal m = .ok () m') :
    m'.stack.ctl = m.stack.ctl ∧ (m'.pc = m.pc ∨ ∃ offset : Fin 65536, literal = .pc offset ∧
      2 ≤ offset.val ∧ offset.val ≤ 65535 - m.pc.val ∧ m'.pc = m.pc + (offset - 1)) := by
  cases literal with
  | pc offset =>
    simp only [Machine.jmpif] at h
    split_ifs at h with h₂
    · cases h
    · obtain ⟨_, _, ⟨⟩, h⟩ := bind_ok h
      obtain ⟨b, m₁, h₁, h⟩ := bind_ok h
      obtain ⟨hpc, hctl⟩ := popBool_keepsControl.ok h₁
      split_ifs at h with hb
      · cases h
        exact ⟨hctl, .inl hpc⟩
      · obtain ⟨_, _, ⟨⟩, h⟩ := bind_ok h
        obtain ⟨_, _, ⟨⟩, h⟩ := bind_ok h
        split_ifs at h with hof
        · cases h
        · obtain ⟨_, _, ⟨⟩, h⟩ := bind_ok h
          cases h
          refine ⟨hctl, .inr ⟨offset, rfl, by omega, ?_, by simp only [hpc]⟩⟩
          rw [← hpc]; omega
  | _ => cases h

/-- A successful `RETURN` pops the control stack into `pc`. -/
theorem return_ok {m m' : Machine} (h : Machine.return m = .ok () m') :
    ∃ v, m.stack.ctl = v :: m'.stack.ctl ∧ m'.pc = v.valPc := by
  obtain ⟨v, m₁, h₁, h⟩ := bind_ok h
  unfold Machine.ctlPop at h₁
  rcases ht : m.stack.ctlPop with e | ⟨w, t⟩ <;> rw [ht] at h₁ <;> cases h₁
  cases h
  exact ⟨_, TwoStacks.ctlPop_ctl ht, rfl⟩

/-- `HALT` never succeeds. -/
theorem halt_not_ok {m m' : Machine} {u : Unit} : Machine.halt m ≠ .ok u m' := by
  intro h
  obtain ⟨_, _, _, h⟩ := bind_ok h
  cases h

end Instructions

section Step

variable {o : ByteOrder} {C : Nat}

/-- An instruction that keeps the control part, run after the advance of `pc`. -/
theorem plain_step {x : MachM Unit} (hx : KeepsControl x) {m m' : Machine}
    (h : x { m with pc := m.pc + 1 } = .ok () m') :
    m'.stack.ctl = m.stack.ctl ∧ m'.pc = m.pc + 1 := by
  obtain ⟨h₁, h₂⟩ := hx.ok h
  exact ⟨h₂, h₁⟩

/-- What instruction `i` may do to `pc` and the control stack from `m` to `m'`: an
instruction other than the three transfers advances `pc` by one; a `JMPIF` may instead
jump forward; a `CALL` pushes the advanced `pc` and goes forward to its target; a
`RETURN` pops the control stack into `pc`. -/
def ControlEffect (i : Instruction) (m m' : Machine) : Prop :=
  (i.opcode ≠ some .call ∧ i.opcode ≠ some .return ∧ m'.stack.ctl = m.stack.ctl ∧
    (m'.pc = m.pc + 1 ∨ (i.opcode = some .jmpif ∧
    ∃ offset : Fin 65536, 2 ≤ offset.val ∧ offset.val ≤ 65535 - (m.pc + 1).val ∧
      m'.pc = m.pc + 1 + (offset - 1)))) ∨
  (i.opcode = some .call ∧ ∃ target, i.lit = .pc target ∧ m.pc + 1 ≤ target ∧
    m'.pc = target ∧ m'.stack.ctl = .pc (m.pc + 1) :: m.stack.ctl) ∨
  (i.opcode = some .return ∧ ∃ v, m.stack.ctl = v :: m'.stack.ctl ∧ m'.pc = v.valPc)

theorem ControlEffect.plain {i : Instruction} {m m' : Machine} {x : MachM Unit} {op : Opcode}
    (hop : i.opcode = some op) (hc : op ≠ .call ∧ op ≠ .return) (hx : KeepsControl x)
    (h : x { m with pc := m.pc + 1 } = .ok () m') : ControlEffect i m m' :=
  .inl ⟨by simpa [hop] using hc.1, by simpa [hop] using hc.2, (plain_step hx h).imp_right .inl⟩

/-- Every successful instruction has one of the control effects. -/
theorem step_control {i : Instruction} {m m' : Machine} (h : Machine.step o C i m = .ok () m') :
    ControlEffect i m m' := by
  obtain ⟨_, _, ⟨⟩, h⟩ := bind_ok h
  unfold Machine.exec at h
  rcases hop : i.opcode with _ | op <;> rw [hop] at h
  · cases h
  cases op
  · exact .plain hop (by decide) (addSub_keepsControl true) h
  · exact .plain hop (by decide) (andOr_keepsControl _ true) h
  · exact .inr (.inl ⟨hop, call_ok h⟩)
  · exact .plain hop (by decide) (dup_keepsControl _) h
  · exact .plain hop (by decide) (eq_keepsControl _) h
  · exact .plain hop (by decide) (flush_keepsControl C) h
  · exact .plain hop (by decide) (ltGt_keepsControl false) h
  · exact absurd h halt_not_ok
  · obtain ⟨hctl, hpc | ⟨offset, hlit, h₂, h₃, h₄⟩⟩ := jmpif_ok h
    · exact .inl ⟨by simp [hop], by simp [hop], hctl, .inl hpc⟩
    · exact .inl ⟨by simp [hop], by simp [hop], hctl, .inr ⟨hop, offset, h₂, h₃, h₄⟩⟩
  · exact .plain hop (by decide) (ltGt_keepsControl true) h
  · exact .plain hop (by decide) not_keepsControl h
  · exact .plain hop (by decide) (andOr_keepsControl _ false) h
  · exact .plain hop (by decide) (execOutput_keepsControl C) h
  · exact .plain hop (by decide) (pop_keepsControl _) h
  · exact .plain hop (by decide) (pushTyped_keepsControl _ _) h
  · exact .plain hop (by decide) (pushTyped_keepsControl _ _) h
  · exact .plain hop (by decide) (pushTyped_keepsControl _ _) h
  · exact .plain hop (by decide) (execInput_keepsControl o _) h
  · exact .inr (.inr ⟨hop, @return_ok { m with pc := m.pc + 1 } m' h⟩)
  · exact .plain hop (by decide) (rewind_keepsControl _) h
  · exact .plain hop (by decide) (roll_keepsControl _) h
  · exact .plain hop (by decide) (addSub_keepsControl false) h

end Step

end Grunt
