import Grunt.Stack

/-!
# The array refines two LIFO stacks

`grunt_stack.c` keeps both Grunt stacks in one array.  This module states what that
array is for: two independent LIFO stacks sharing `stackSize` slots, the argument stack
holding only non-PC values and the control stack only PC values (§4.2 of the
specification).  The live slots of the array, read as two lists, are mapped to these
two stacks, and every array operation is shown to compute exactly the list operation;
the invariant of the two lists then gives the typing of the live slots.

Read back from the bottom of the stack, as `grunt_stack.c` comments write it, the roll
rotates the top `n` arguments (`w x y z` to `w z x y` for `ROLL 3`) and the duplicate
repeats the top `n`; both leave every other slot as it was (`arg_roll_dup_exact`).
-/

namespace Grunt

/-- Slots `[0, k)` of an array, top first. -/
def liveArgs (a : Nat → Value) : Nat → List Value
  | 0 => []
  | k + 1 => a k :: liveArgs a k

/-- Slots `[stackSize - k, stackSize)` of an array, top first. -/
def liveCtl (a : Nat → Value) : Nat → List Value
  | 0 => []
  | k + 1 => a (stackSize - 1 - k) :: liveCtl a k

@[simp] theorem length_liveArgs (a : Nat → Value) (k : Nat) : (liveArgs a k).length = k := by
  induction k <;> simp [liveArgs, *]

@[simp] theorem length_liveCtl (a : Nat → Value) (k : Nat) : (liveCtl a k).length = k := by
  induction k <;> simp [liveCtl, *]

theorem getElem?_liveArgs (a : Nat → Value) (k i : Nat) :
    (liveArgs a k)[i]? = if i < k then some (a (k - 1 - i)) else none := by
  induction k generalizing i with
  | zero => simp [liveArgs]
  | succ k ih =>
    cases i with
    | zero => simp [liveArgs]
    | succ i =>
      simp only [liveArgs, List.getElem?_cons_succ, ih]
      split_ifs <;> first | omega | (congr 2; omega) | rfl

theorem getElem?_liveCtl (a : Nat → Value) (k i : Nat) (hk : k ≤ stackSize) :
    (liveCtl a k)[i]? = if i < k then some (a (stackSize - k + i)) else none := by
  induction k generalizing i with
  | zero => simp [liveCtl]
  | succ k ih =>
    cases i with
    | zero => simp [liveCtl]
    | succ i =>
      simp only [liveCtl, List.getElem?_cons_succ, ih i (by omega)]
      split_ifs <;> first | omega | (congr 2; omega) | rfl

/-- Two arrays that agree on `[0, k)` have the same live argument slots. -/
theorem liveArgs_congr {a b : Nat → Value} {k : Nat} (h : ∀ i < k, a i = b i) :
    liveArgs a k = liveArgs b k :=
  List.ext_getElem? fun i => by
    simp only [getElem?_liveArgs]
    split_ifs <;> first | rfl | (rw [h _ (by omega)])

/-- Two arrays that agree on `[stackSize - k, stackSize)` have the same live control slots. -/
theorem liveCtl_congr {a b : Nat → Value} {k : Nat}
    (h : ∀ i, stackSize - k ≤ i → i < stackSize → a i = b i) (hk : k ≤ stackSize) :
    liveCtl a k = liveCtl b k :=
  List.ext_getElem? fun i => by
    simp only [getElem?_liveCtl _ _ _ hk]
    split_ifs <;> first | rfl | (rw [h _ (by omega) (by omega)])

/-- The top entry of `l` moved below the next `n - 1` entries. -/
def roll {α : Type} (n : Nat) : List α → List α
  | [] => []
  | x :: rest => rest.take (n - 1) ++ x :: rest.drop (n - 1)

/-- Read bottom first, the roll keeps the `l.length - n` lowest entries, puts the top one
above them and moves the `n - 1` entries between up by one. -/
theorem reverse_roll {α : Type} {n : Nat} {l : List α} (h₁ : 1 ≤ n) (h₂ : n ≤ l.length) :
    (roll n l).reverse = l.reverse.take (l.length - n) ++ l.reverse.drop (l.length - 1) ++
      (l.reverse.drop (l.length - n)).take (n - 1) := by
  obtain _ | ⟨x, rest⟩ := l
  · simp at h₂; omega
  simp only [List.length_cons] at h₂ ⊢
  have hk : rest.length - (rest.length + 1 - n) = n - 1 := by omega
  have hlen : (rest.reverse.drop (rest.length + 1 - n)).length = n - 1 := by simp; omega
  rw [roll, List.reverse_append, List.reverse_cons, List.reverse_cons,
    List.take_append_of_le_length (by simp; omega), List.take_reverse, hk,
    Nat.add_sub_cancel, List.drop_left' (List.length_reverse _),
    List.drop_append_of_le_length (by simp; omega), List.take_append_of_le_length (by omega),
    List.take_of_length_le (le_of_eq hlen), List.drop_reverse, hk, List.append_assoc]

/-- The two stacks of the specification, each a list with its top first. -/
structure TwoStacks where
  args : List Value
  ctl : List Value
  deriving DecidableEq, Repr

namespace TwoStacks

/-- Both stacks empty. -/
def empty : TwoStacks := ⟨[], []⟩

/-- Push a non-PC value on the argument stack if a slot is free. -/
def argPush (v : Value) (t : TwoStacks) : Except Status TwoStacks :=
  if ¬v.IsArg then .error .interpreterBug
  else if t.args.length + t.ctl.length + 1 > stackSize then .error .outOfBounds
  else .ok ⟨v :: t.args, t.ctl⟩

/-- Pop the argument stack. -/
def argPop (t : TwoStacks) : Except Status (Value × TwoStacks) :=
  match t.args with
  | [] => .error .outOfBounds
  | v :: l => .ok (v, ⟨l, t.ctl⟩)

/-- Copy the top `n` arguments on top of the argument stack. -/
def argDup (n : Nat) (t : TwoStacks) : Except Status TwoStacks :=
  if n = 0 then .error .interpreterBug
  else if t.args.length < n then .error .outOfBounds
  else if t.args.length + t.ctl.length + n > stackSize then .error .outOfBounds
  else .ok ⟨t.args.take n ++ t.args, t.ctl⟩

/-- Roll the top `n` arguments: the top one becomes the `n`-th. -/
def argRoll (n : Nat) (t : TwoStacks) : Except Status TwoStacks :=
  if n < 2 then .error .interpreterBug
  else if t.args.length < n then .error .outOfBounds
  else .ok ⟨roll n t.args, t.ctl⟩

/-- Push a PC value on the control stack if a slot is free. -/
def ctlPush (v : Value) (t : TwoStacks) : Except Status TwoStacks :=
  if v.type ≠ .pc then .error .interpreterBug
  else if t.args.length + t.ctl.length + 1 > stackSize then .error .outOfBounds
  else .ok ⟨t.args, v :: t.ctl⟩

/-- Pop the control stack. -/
def ctlPop (t : TwoStacks) : Except Status (Value × TwoStacks) :=
  match t.ctl with
  | [] => .error .outOfBounds
  | v :: l => .ok (v, ⟨t.args, l⟩)

/-- The invariant of §3: shared capacity and the type line between the stacks. -/
structure Inv (t : TwoStacks) : Prop where
  bounded : t.args.length + t.ctl.length ≤ stackSize
  args_isArg : ∀ v ∈ t.args, v.IsArg
  ctl_isPc : ∀ v ∈ t.ctl, v.type = .pc

end TwoStacks

namespace Stack

/-- The live slots of the array as the two stacks. -/
def abs (s : Stack) : TwoStacks := ⟨liveArgs s.slots s.argc, liveCtl s.slots s.ctlc⟩

@[simp] theorem abs_args_length (s : Stack) : s.abs.args.length = s.argc := by simp [abs]
@[simp] theorem abs_ctl_length (s : Stack) : s.abs.ctl.length = s.ctlc := by simp [abs]

@[simp] theorem init_abs (s : Stack) : s.init.abs = .empty := rfl

theorem argPush_abs (v : Value) (s : Stack) : (s.argPush v).map abs = s.abs.argPush v := by
  have hb := s.bounded
  have htype : (v.type = .bool ∨ v.type = .num ∨ v.type = .str) ↔ v.IsArg := by
    cases v <;> simp [Value.IsArg, Value.type]
  unfold argPush TwoStacks.argPush
  simp only [htype, abs_args_length, abs_ctl_length]
  split_ifs <;> try rfl
  simp only [Except.map, abs, liveArgs, Function.update_same, Except.ok.injEq,
    TwoStacks.mk.injEq, List.cons.injEq, true_and]
  constructor
  · exact liveArgs_congr fun i hi => Function.update_noteq (by omega) _ _
  · exact liveCtl_congr (fun i hi _ => Function.update_noteq (by omega) _ _) (by omega)

theorem argPop_abs (s : Stack) : (s.argPop).map (Prod.map id abs) = s.abs.argPop := by
  unfold argPop TwoStacks.argPop
  rcases s with ⟨a, _ | k, c, hb⟩ <;> rfl

theorem argDup_abs (n : Nat) (s : Stack) : (s.argDup n).map abs = s.abs.argDup n := by
  have hb := s.bounded
  unfold argDup TwoStacks.argDup
  simp only [abs_args_length, abs_ctl_length]
  split_ifs <;> try rfl
  simp only [Except.map, abs, Except.ok.injEq, TwoStacks.mk.injEq]
  constructor
  · refine List.ext_getElem? fun i => ?_
    simp only [getElem?_liveArgs, List.getElem?_append, List.getElem?_take, List.length_take,
      length_liveArgs, memcpy]
    rcases Nat.lt_or_ge i n with hi | hi
    · -- the copies on top
      simp (disch := omega) only [if_pos, if_neg, Nat.min_def]; congr 2; omega
    · -- the arguments below them, untouched
      simp (disch := omega) only [if_pos, if_neg, Nat.min_def]
      split_ifs <;> first | omega | rfl | (congr 2; omega)
  · exact liveCtl_congr (fun i hi _ => by simp only [memcpy]; split_ifs <;> first | omega | rfl)
      (by omega)

theorem argRoll_abs (n : Nat) (s : Stack) : (s.argRoll n).map abs = s.abs.argRoll n := by
  have hb := s.bounded
  unfold argRoll TwoStacks.argRoll
  simp only [abs_args_length]
  split_ifs with h₁ h₂ <;> try rfl
  obtain ⟨k, hk⟩ : ∃ k, s.argc = k + 1 := ⟨s.argc - 1, by omega⟩
  simp only [Except.map, abs, Except.ok.injEq, TwoStacks.mk.injEq]
  constructor
  · refine List.ext_getElem? fun i => ?_
    rw [hk] at h₂ ⊢
    have hmin : (n - 1) ⊓ k = n - 1 := min_eq_left (by omega)
    simp only [liveArgs, roll, getElem?_liveArgs, List.getElem?_append, List.getElem?_take,
      List.getElem?_cons, List.getElem?_drop, List.length_take, length_liveArgs,
      Function.update_apply, memcpy, hmin]
    rcases Nat.lt_or_ge i (n - 1) with hi | hi
    · -- the `n - 1` slots below the top, each moved up by one
      rcases Nat.eq_zero_or_pos i with rfl | hi0
      · simp (disch := omega) only [if_pos, if_neg, ↓reduceIte]; congr 2; omega
      · simp (disch := omega) only [if_pos, if_neg]; congr 2; omega
    · rcases Nat.lt_or_ge (n - 1) i with hi' | hi'
      · -- the slots below the rolled ones, untouched
        simp (disch := omega) only [if_pos, if_neg]
        rw [show n - 1 + (i - (n - 1) - 1) = i - 1 by omega]
      · -- the slot the top value moves to
        obtain rfl : i = n - 1 := by omega
        simp (disch := omega) only [if_pos, if_neg]
        rfl
  · exact liveCtl_congr (fun i hi _ => by
      simp only [Function.update_apply, memcpy]; split_ifs <;> first | omega | rfl) (by omega)

theorem ctlPush_abs (v : Value) (s : Stack) : (s.ctlPush v).map abs = s.abs.ctlPush v := by
  have hb := s.bounded
  unfold ctlPush TwoStacks.ctlPush
  simp only [abs_args_length, abs_ctl_length, stackSize_eq] at hb ⊢
  split_ifs <;> try rfl
  simp only [Except.map, abs, liveCtl, Except.ok.injEq, TwoStacks.mk.injEq, List.cons.injEq]
  refine ⟨liveArgs_congr fun i hi => Function.update_noteq (by omega) _ _,
    Function.update_same _ _ _, liveCtl_congr (fun i hi _ => ?_) (by simp; omega)⟩
  exact Function.update_noteq (by simp at hi; omega) _ _

theorem ctlPop_abs (s : Stack) : (s.ctlPop).map (Prod.map id abs) = s.abs.ctlPop := by
  unfold ctlPop TwoStacks.ctlPop
  rcases s with ⟨a, k, _ | c, hb⟩ <;> rfl

end Stack

/-- With the argument stack read bottom first as `xs = [x₁, …, xₘ]`: a roll by `2 ≤ n ≤ m`
gives `x₁ … xₘ₋ₙ, xₘ, xₘ₋ₙ₊₁ … xₘ₋₁` and a duplicate of `1 ≤ n ≤ m` that fits gives
`x₁ … xₘ, xₘ₋ₙ₊₁ … xₘ`; the control stack and every slot outside the window stay. -/
theorem arg_roll_dup_exact (s : Stack) (n : Nat) :
    let xs := (liveArgs s.slots s.argc).reverse
    (2 ≤ n → n ≤ s.argc → ∃ s', s.argRoll n = .ok s' ∧ s'.argc = s.argc ∧ s'.ctlc = s.ctlc ∧
      (liveArgs s'.slots s'.argc).reverse =
        xs.take (s.argc - n) ++ xs.drop (s.argc - 1) ++ (xs.drop (s.argc - n)).take (n - 1) ∧
      ∀ i, (i < s.argc - n ∨ s.argc ≤ i) → s'.slots i = s.slots i) ∧
    (1 ≤ n → n ≤ s.argc → s.argc + s.ctlc + n ≤ stackSize → ∃ s', s.argDup n = .ok s' ∧
      s'.argc = s.argc + n ∧ s'.ctlc = s.ctlc ∧
      (liveArgs s'.slots s'.argc).reverse = xs ++ xs.drop (s.argc - n) ∧
      ∀ i, (i < s.argc ∨ s.argc + n ≤ i) → s'.slots i = s.slots i) := by
  intro xs
  refine ⟨fun h₁ h₂ => ?_, fun h₁ h₂ h₃ => ?_⟩
  · have habs := Stack.argRoll_abs n s
    simp only [Stack.argRoll, TwoStacks.argRoll, Stack.abs_args_length, length_liveArgs,
      if_neg (show ¬n < 2 by omega), if_neg (show ¬s.argc < n by omega), Except.map,
      Except.ok.injEq, Stack.abs, TwoStacks.mk.injEq] at habs ⊢
    refine ⟨_, rfl, rfl, rfl, ?_, fun i hi => ?_⟩
    · rw [habs.1, reverse_roll (by omega) (by simp; omega), length_liveArgs]
    · simp only [Function.update_noteq (show i ≠ s.argc - n by omega), memcpy]
      exact if_neg (by omega)
  · have habs := Stack.argDup_abs n s
    simp only [Stack.argDup, TwoStacks.argDup, Stack.abs_args_length, Stack.abs_ctl_length,
      length_liveArgs, length_liveCtl, if_neg (show ¬n = 0 by omega),
      if_neg (show ¬s.argc < n by omega), dif_neg (show ¬s.argc + s.ctlc + n > stackSize by omega),
      if_neg (show ¬s.argc + s.ctlc + n > stackSize by omega), Except.map, Except.ok.injEq,
      Stack.abs, TwoStacks.mk.injEq] at habs ⊢
    refine ⟨_, rfl, rfl, rfl, ?_, fun i hi => ?_⟩
    · rw [habs.1, List.reverse_append, List.reverse_take, length_liveArgs]
    · simp only [memcpy]
      exact if_neg (by omega)

/-- The argument stack `w x y z` of the comment on `grunt_stack_arg_roll`, in slots `0` to `3`. -/
def wxyz : Stack := ⟨fun i => .num i, 4, 0, by decide⟩

/-- `ROLL 3` turns `w x y z` into `w z x y`, and `DUP 3` into `w x y z x y z`. -/
theorem arg_roll_dup_exact_wxyz :
    (∃ s, wxyz.argRoll 3 = .ok s ∧
      (liveArgs s.slots s.argc).reverse = [.num 0, .num 3, .num 1, .num 2]) ∧
    ∃ s, wxyz.argDup 3 = .ok s ∧
      (liveArgs s.slots s.argc).reverse =
        [.num 0, .num 1, .num 2, .num 3, .num 1, .num 2, .num 3] := by
  obtain ⟨hroll, hdup⟩ := arg_roll_dup_exact wxyz 3
  obtain ⟨s, hs, -, -, hargs, -⟩ := hroll (by decide) (by decide)
  obtain ⟨t, ht, -, -, hargs', -⟩ := hdup (by decide) (by decide) (by decide)
  exact ⟨⟨s, hs, hargs.trans rfl⟩, t, ht, hargs'.trans rfl⟩

/-- The operations of `grunt_stack.h` other than `grunt_stack_init`. -/
inductive StackOp
  | argPush (v : Value)
  | argPop
  | argDup (n : Nat)
  | argRoll (n : Nat)
  | ctlPush (v : Value)
  | ctlPop

/-- Operations on the argument stack. -/
def StackOp.IsArgOp : StackOp → Prop
  | .argPush _ | .argPop | .argDup _ | .argRoll _ => True
  | .ctlPush _ | .ctlPop => False

/-- One operation on the array: the value it pops, if any, and the stack after it. -/
def Stack.step : StackOp → Stack → Except Status (Option Value × Stack)
  | .argPush v, s => (s.argPush v).map ((none, ·))
  | .argPop, s => (s.argPop).map fun p => (some p.1, p.2)
  | .argDup n, s => (s.argDup n).map ((none, ·))
  | .argRoll n, s => (s.argRoll n).map ((none, ·))
  | .ctlPush v, s => (s.ctlPush v).map ((none, ·))
  | .ctlPop, s => (s.ctlPop).map fun p => (some p.1, p.2)

/-- One operation on the two stacks of the specification. -/
def TwoStacks.step : StackOp → TwoStacks → Except Status (Option Value × TwoStacks)
  | .argPush v, t => (t.argPush v).map ((none, ·))
  | .argPop, t => (t.argPop).map fun p => (some p.1, p.2)
  | .argDup n, t => (t.argDup n).map ((none, ·))
  | .argRoll n, t => (t.argRoll n).map ((none, ·))
  | .ctlPush v, t => (t.ctlPush v).map ((none, ·))
  | .ctlPop, t => (t.ctlPop).map fun p => (some p.1, p.2)

/-- A sequence of operations, each applied to the state the previous one left; a failed
operation leaves the state as it was, and the run goes on. -/
def runOps {σ : Type} (step : StackOp → σ → Except Status (Option Value × σ)) :
    List StackOp → σ → List (Except Status (Option Value)) × σ
  | [], s => ([], s)
  | op :: ops, s =>
    match step op s with
    | .ok (r, s') => (.ok r :: (runOps step ops s').1, (runOps step ops s').2)
    | .error e => (.error e :: (runOps step ops s).1, (runOps step ops s).2)

theorem Stack.step_abs (op : StackOp) (s : Stack) :
    (s.step op).map (Prod.map id abs) = s.abs.step op := by
  cases op <;> simp only [step, TwoStacks.step, ← argPush_abs, ← argPop_abs, ← argDup_abs,
    ← argRoll_abs, ← ctlPush_abs, ← ctlPop_abs] <;>
  first
  | cases s.argPush _ <;> rfl
  | cases s.argPop <;> rfl
  | cases s.argDup _ <;> rfl
  | cases s.argRoll _ <;> rfl
  | cases s.ctlPush _ <;> rfl
  | cases s.ctlPop <;> rfl

/-- Running the array and running the two lists give the same outcomes, and the array
ends in a state whose live slots are the lists. -/
theorem runOps_abs (ops : List StackOp) (s : Stack) :
    (runOps Stack.step ops s).1 = (runOps TwoStacks.step ops s.abs).1 ∧
      (runOps Stack.step ops s).2.abs = (runOps TwoStacks.step ops s.abs).2 := by
  induction ops generalizing s with
  | nil => exact ⟨rfl, rfl⟩
  | cons op ops ih =>
    have h := Stack.step_abs op s
    simp only [runOps]
    cases hs : s.step op with
    | error e =>
      rw [hs] at h
      rw [← h]
      exact ⟨by simp [Except.map, (ih s).1], (ih s).2⟩
    | ok p =>
      rw [hs] at h
      rw [← h]
      exact ⟨by simp [Except.map, (ih p.2).1], (ih p.2).2⟩

theorem TwoStacks.Inv.empty : TwoStacks.empty.Inv := ⟨by simp [TwoStacks.empty], by simp [TwoStacks.empty], by simp [TwoStacks.empty]⟩

theorem length_roll {α : Type} (n : Nat) (l : List α) : (roll n l).length = l.length := by
  cases l with
  | nil => rfl
  | cons x rest => simp [roll]; omega

theorem map_roll {α β : Type} (f : α → β) (n : Nat) (l : List α) :
    (roll n l).map f = roll n (l.map f) := by
  cases l <;> simp [roll, List.map_take, List.map_drop]

theorem mem_of_mem_roll {n : Nat} {l : List Value} {v : Value} (h : v ∈ roll n l) : v ∈ l := by
  cases l with
  | nil => exact h
  | cons x rest =>
    simp only [roll, List.mem_append, List.mem_cons] at h
    rcases h with h | rfl | h
    · exact List.mem_cons_of_mem _ (List.mem_of_mem_take h)
    · exact List.mem_cons_self _ _
    · exact List.mem_cons_of_mem _ (List.mem_of_mem_drop h)

/-- Every operation of the two stacks keeps their invariant. -/
theorem TwoStacks.Inv.step {t t' : TwoStacks} {op : StackOp} {r : Option Value}
    (ht : t.Inv) (h : t.step op = .ok (r, t')) : t'.Inv := by
  obtain ⟨hb, ha, hc⟩ := ht
  cases op with
  | argPush v =>
    simp only [TwoStacks.step, argPush] at h
    split_ifs at h with h₁ h₂ <;> cases h
    refine ⟨by simp at h₂ ⊢; omega, ?_, hc⟩
    simpa [h₁] using ha
  | argPop =>
    simp only [TwoStacks.step, argPop] at h
    split at h <;> cases h
    rename_i v l hl
    simp only [hl, List.length_cons, List.mem_cons, forall_eq_or_imp] at hb ha
    exact ⟨by simp at hb ⊢; omega, ha.2, hc⟩
  | argDup n =>
    simp only [TwoStacks.step, argDup] at h
    split_ifs at h with h₁ h₂ h₃ <;> cases h
    refine ⟨by simp at h₃ ⊢; omega, fun v hv => ?_, hc⟩
    rcases List.mem_append.mp hv with hv | hv
    exacts [ha v (List.mem_of_mem_take hv), ha v hv]
  | argRoll n =>
    simp only [TwoStacks.step, argRoll] at h
    split_ifs at h <;> cases h
    exact ⟨by simpa [length_roll] using hb, fun v hv => ha v (mem_of_mem_roll hv), hc⟩
  | ctlPush v =>
    simp only [TwoStacks.step, ctlPush] at h
    split_ifs at h with h₁ h₂ <;> cases h
    refine ⟨by simp at h₂ ⊢; omega, ha, ?_⟩
    simpa [not_not.mp h₁] using hc
  | ctlPop =>
    simp only [TwoStacks.step, ctlPop] at h
    split at h <;> cases h
    rename_i v l hl
    simp only [hl, List.length_cons, List.mem_cons, forall_eq_or_imp] at hb hc
    exact ⟨by simp at hb ⊢; omega, ha, hc.2⟩

theorem TwoStacks.Inv.runOps {t : TwoStacks} (ht : t.Inv) (ops : List StackOp) :
    (Grunt.runOps TwoStacks.step ops t).2.Inv := by
  induction ops generalizing t with
  | nil => exact ht
  | cons op ops ih =>
    simp only [Grunt.runOps]
    cases h : t.step op with
    | error e => exact ih ht
    | ok p => exact ih (ht.step h)


theorem mem_liveArgs (a : Nat → Value) {k i : Nat} (h : i < k) : a i ∈ liveArgs a k := by
  have := getElem?_liveArgs a k (k - 1 - i)
  rw [if_pos (by omega), show k - 1 - (k - 1 - i) = i by omega] at this
  exact List.getElem?_mem this

theorem mem_liveCtl (a : Nat → Value) {k i : Nat} (hk : k ≤ stackSize)
    (h₁ : stackSize - k ≤ i) (h₂ : i < stackSize) : a i ∈ liveCtl a k := by
  have := getElem?_liveCtl a k (i - (stackSize - k)) hk
  rw [if_pos (by omega), show stackSize - k + (i - (stackSize - k)) = i by omega] at this
  exact List.getElem?_mem this

/-- An argument-stack operation leaves the control counter and the control slots alone. -/
theorem Stack.step_ctl_frame {op : StackOp} {s s' : Stack} {r : Option Value}
    (hop : op.IsArgOp) (h : s.step op = .ok (r, s')) :
    s'.ctlc = s.ctlc ∧ ∀ i, stackSize - s.ctlc ≤ i → i < stackSize → s'.slots i = s.slots i := by
  have hb := s.bounded
  simp only [stackSize_eq] at hb ⊢
  cases op <;> simp only [StackOp.IsArgOp] at hop <;>
    simp only [step, argPush, argPop, argDup, argRoll, stackSize_eq] at h
  all_goals
    split_ifs at h <;> cases h
    refine ⟨rfl, fun i h₁ h₂ => ?_⟩
    first | rfl | (simp only [Function.update_apply, memcpy]; split_ifs <;> first | rfl | omega)

/-- A control-stack operation leaves the argument counter and the argument slots alone. -/
theorem Stack.step_arg_frame {op : StackOp} {s s' : Stack} {r : Option Value}
    (hop : ¬op.IsArgOp) (h : s.step op = .ok (r, s')) :
    s'.argc = s.argc ∧ ∀ i < s.argc, s'.slots i = s.slots i := by
  have hb := s.bounded
  simp only [stackSize_eq] at hb
  cases op <;> simp only [StackOp.IsArgOp, not_true_eq_false, not_false_eq_true] at hop <;>
    simp only [step, ctlPush, ctlPop, stackSize_eq] at h
  all_goals
    split_ifs at h <;> cases h
    refine ⟨rfl, fun i hi => ?_⟩
    first | rfl | (simp only [Function.update_apply]; split_ifs <;> first | rfl | omega)

/-- `grunt_stack.c` refines two LIFO stacks.  After `grunt_stack_init` and any sequence of
operations, failed ones included, the array returns exactly what the two lists of the
specification return and its live slots are those lists; the counters stay within the
shared capacity, live argument slots hold no PC and live control slots only PCs; and
every operation on one stack leaves the other stack's counter and slots untouched. -/
theorem stack_refines_two_stacks (s₀ : Stack) (ops : List StackOp) :
    let s := (runOps Stack.step ops s₀.init).2
    (runOps Stack.step ops s₀.init).1 = (runOps TwoStacks.step ops .empty).1 ∧
    s.abs = (runOps TwoStacks.step ops .empty).2 ∧
    s.argc + s.ctlc ≤ stackSize ∧
    (∀ i < s.argc, (s.slots i).IsArg) ∧
    (∀ i, stackSize - s.ctlc ≤ i → i < stackSize → (s.slots i).type = .pc) ∧
    ∀ op r s', s.step op = .ok (r, s') →
      (op.IsArgOp → s'.ctlc = s.ctlc ∧
        ∀ i, stackSize - s.ctlc ≤ i → i < stackSize → s'.slots i = s.slots i) ∧
      (¬op.IsArgOp → s'.argc = s.argc ∧ ∀ i < s.argc, s'.slots i = s.slots i) := by
  intro s
  obtain ⟨hout, habs⟩ := runOps_abs ops s₀.init
  rw [Stack.init_abs] at hout habs
  have hinv : s.abs.Inv := habs ▸ TwoStacks.Inv.empty.runOps ops
  refine ⟨hout, habs, s.bounded, fun i hi => hinv.args_isArg _ (mem_liveArgs _ hi),
    fun i h₁ h₂ => hinv.ctl_isPc _ (mem_liveCtl _ (by have := s.bounded; omega) h₁ h₂),
    fun op r s' h => ⟨fun hop => Stack.step_ctl_frame hop h, fun hop => Stack.step_arg_frame hop h⟩⟩

end Grunt
