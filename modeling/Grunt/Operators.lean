import Grunt.Steps

/-!
# The arithmetic and logic instructions

`grunt_vm_add_sub`, `grunt_vm_lt_gt`, `grunt_vm_eq` and `grunt_vm_and_or` pop their
operands, check their types and push one result.  This module says what each does on the
interpreter's globals for every argument stack: `ADD` and `SUB` push the exact sum or
difference, or fail with `OutOfBounds` where it is not a `grunt_number_t`; `LT` and `GT`
compare; `EQ(n)`, `AND(n)` and `OR(n)` replace their `n` operands by one Boolean; and an
operand of the wrong type fails with `InvalidArgument`.

The statements are about the interpreter of `Grunt.Vm`, whose stack carries its bound as a
field, so that the push of a result, made after the operands are gone, never overflows.
The proofs go through the machine of `Grunt.Machine` and the simulation.  The counting
loops of `EQ`, `AND` and `OR` run a `grunt_rep_t` counter from `1` up to `n`; `andOrFor`
and `eqFor` transcribe them with that counter, and `andOrFor_eq` and `eqFor_eq` show they
are the loops of `Grunt.Vm` for every count the type holds.
-/

namespace Grunt

theorem Value.exists_num_of_type {v : Value} (h : v.type = .num) : ∃ n, v = .num n := by
  cases v <;> simp_all [Value.type]

theorem Value.exists_bool_of_type {v : Value} (h : v.type = .bool) : ∃ b, v = .bool b := by
  cases v <;> simp_all [Value.type]

/-! ## On the machine -/

namespace Machine

variable {m : Machine}

theorem bind_of_error {α β : Type} {x : MachM α} {f : α → MachM β} {e : Status}
    {m₁ : Machine} (h : x m = .error e m₁) : (x >>= f) m = .error e m₁ := by
  show EStateM.bind x f m = _
  simp only [EStateM.bind, h]

/-- A number is required and the top argument is of another type. -/
theorem popNum_invalid {v : Value} {rest : List Value} (h : m.stack.args = v :: rest)
    (hv : v.type ≠ .num) :
    Machine.popNum m = .error .invalidArgument { m with stack := ⟨rest, m.stack.ctl⟩ } := by
  show EStateM.bind _ _ m = _
  simp only [EStateM.bind, argPop_ok h]
  cases v
  case num => exact absurd rfl hv
  all_goals rfl

/-- A Boolean is required and the top argument is of another type. -/
theorem popBool_invalid {v : Value} {rest : List Value} (h : m.stack.args = v :: rest)
    (hv : v.type ≠ .bool) :
    Machine.popBool m = .error .invalidArgument { m with stack := ⟨rest, m.stack.ctl⟩ } := by
  show EStateM.bind _ _ m = _
  simp only [EStateM.bind, argPop_ok h]
  cases v
  case bool => exact absurd rfl hv
  all_goals rfl

/-- Two numbers are popped, and one of the top two arguments is not a number. -/
theorem popNum_popNum_invalid {α : Type} {x y : Value} {rest : List Value}
    (h : m.stack.args = y :: x :: rest) (hxy : x.type ≠ .num ∨ y.type ≠ .num)
    (f : Number → Number → MachM α) :
    ∃ m', (Machine.popNum >>= fun b => Machine.popNum >>= fun a => f a b) m =
      .error .invalidArgument m' := by
  by_cases hy : y.type = .num
  · obtain ⟨b, rfl⟩ := Value.exists_num_of_type hy
    exact ⟨_, by rw [bind_of_ok (popNum_ok h),
      bind_of_error (popNum_invalid rfl (hxy.resolve_right (not_not.mpr hy)))]⟩
  · exact ⟨_, bind_of_error (popNum_invalid h hy)⟩

/-- `ADD` whose sum is not a `grunt_number_t`, and `SUB` whose difference is negative. -/
theorem addSub_outOfBounds {addFlag : Bool} {a b : Number} {rest : List Value}
    (h : m.stack.args = .num b :: .num a :: rest)
    (hout : if addFlag then numMax.val < a.val + b.val else a.val < b.val) :
    Machine.addSub addFlag m = .error .outOfBounds { m with stack := ⟨rest, m.stack.ctl⟩ } := by
  simp only [Machine.addSub]
  rw [bind_of_ok (popNum_ok h), bind_of_ok popNum_cons]
  cases addFlag
  · simp only [if_false, Bool.false_eq_true] at hout ⊢
    rw [if_pos hout]
    rfl
  · simp only [if_true] at hout ⊢
    have hmax : numMax.val = 4294967295 := rfl
    rw [if_pos (show b.val > numMax.val - a.val by omega)]
    rfl

/-- The loop of `EQ` stops at the first operand that is not a number. -/
theorem eqLoop_invalid (a : Number) : ∀ (xs : List Value) (flag : Bool) (m : Machine)
    (rest : List Value), m.stack.args = xs ++ rest → (∃ x ∈ xs, x.type ≠ .num) →
    ∃ m', Machine.eqLoop a xs.length flag m = .error .invalidArgument m'
  | [], _, _, _, _, ⟨_, hx, _⟩ => absurd hx (List.not_mem_nil _)
  | x :: xs, flag, m, rest, h, ⟨y, hy, hyt⟩ => by
    simp only [List.length_cons, Machine.eqLoop]
    by_cases hx : x.type = .num
    · obtain ⟨b, rfl⟩ := Value.exists_num_of_type hx
      rw [bind_of_ok (popNum_ok h)]
      refine eqLoop_invalid a xs _ _ rest rfl ⟨y, ?_, hyt⟩
      rcases List.mem_cons.mp hy with rfl | hy
      exacts [absurd hx hyt, hy]
    · exact ⟨_, bind_of_error (popNum_invalid h hx)⟩

/-- The loop of `AND` and `OR` stops at the first operand that is not a Boolean. -/
theorem andOrLoop_invalid (andFlag : Bool) : ∀ (xs : List Value) (acc : Bool) (m : Machine)
    (rest : List Value), m.stack.args = xs ++ rest → (∃ x ∈ xs, x.type ≠ .bool) →
    ∃ m', Machine.andOrLoop andFlag xs.length acc m = .error .invalidArgument m'
  | [], _, _, _, _, ⟨_, hx, _⟩ => absurd hx (List.not_mem_nil _)
  | x :: xs, acc, m, rest, h, ⟨y, hy, hyt⟩ => by
    simp only [List.length_cons, Machine.andOrLoop]
    by_cases hx : x.type = .bool
    · obtain ⟨b, rfl⟩ := Value.exists_bool_of_type hx
      rw [bind_of_ok (popBool_ok h)]
      refine andOrLoop_invalid andFlag xs _ _ rest rfl ⟨y, ?_, hyt⟩
      rcases List.mem_cons.mp hy with rfl | hy
      exacts [absurd hx hyt, hy]
    · exact ⟨_, bind_of_error (popBool_invalid h hx)⟩

theorem eq_invalid {n : Nat} {xs rest : List Value} (hn : 2 ≤ n) (hxs : xs.length = n)
    (h : m.stack.args = xs ++ rest) (hex : ∃ x ∈ xs, x.type ≠ .num) :
    ∃ m', Machine.eq n m = .error .invalidArgument m' := by
  obtain ⟨x, xs, rfl⟩ := List.exists_cons_of_length_pos (by omega : 0 < xs.length)
  obtain ⟨y, hy, hyt⟩ := hex
  simp only [Machine.eq, if_neg (show ¬n < 2 by omega), pure_bind]
  by_cases hx : x.type = .num
  · obtain ⟨a, rfl⟩ := Value.exists_num_of_type hx
    rw [bind_of_ok (popNum_ok h)]
    rcases List.mem_cons.mp hy with rfl | hy
    · exact absurd hx hyt
    obtain ⟨m', hm'⟩ := eqLoop_invalid a xs true { m with stack := ⟨xs ++ rest, m.stack.ctl⟩ }
      rest rfl ⟨y, hy, hyt⟩
    rw [show n - 1 = xs.length by simp at hxs; omega]
    exact ⟨m', bind_of_error hm'⟩
  · exact ⟨_, bind_of_error (popNum_invalid h hx)⟩

theorem andOr_invalid {n : Nat} {andFlag : Bool} {xs rest : List Value} (hn : 2 ≤ n)
    (hxs : xs.length = n) (h : m.stack.args = xs ++ rest) (hex : ∃ x ∈ xs, x.type ≠ .bool) :
    ∃ m', Machine.andOr n andFlag m = .error .invalidArgument m' := by
  obtain ⟨x, xs, rfl⟩ := List.exists_cons_of_length_pos (by omega : 0 < xs.length)
  obtain ⟨y, hy, hyt⟩ := hex
  simp only [Machine.andOr, if_neg (show ¬n < 2 by omega), pure_bind]
  by_cases hx : x.type = .bool
  · obtain ⟨a, rfl⟩ := Value.exists_bool_of_type hx
    rw [bind_of_ok (popBool_ok h)]
    rcases List.mem_cons.mp hy with rfl | hy
    · exact absurd hx hyt
    obtain ⟨m', hm'⟩ := andOrLoop_invalid andFlag xs a
      { m with stack := ⟨xs ++ rest, m.stack.ctl⟩ } rest rfl ⟨y, hy, hyt⟩
    rw [show n - 1 = xs.length by simp at hxs; omega]
    exact ⟨m', bind_of_error hm'⟩
  · exact ⟨_, bind_of_error (popBool_invalid h hx)⟩

end Machine

/-! ## What the loops compute -/

/-- `equal_flag` after comparing `bs` with `a`. -/
theorem foldl_equalFlag (a : Number) : ∀ (bs : List Number) (flag : Bool),
    bs.foldl (fun acc b => if a ≠ b then false else acc) flag = (flag && decide (∀ b ∈ bs, b = a))
  | [], flag => by simp
  | b :: bs, flag => by
    rw [List.foldl_cons, foldl_equalFlag a bs]
    by_cases hb : b = a
    · simp [hb]
    · simp [Ne.symm hb, hb]

/-- The numbers are all equal exactly when they all equal the first. -/
theorem allEqual_cons_iff (a : Number) (bs : List Number) :
    (∀ x ∈ a :: bs, ∀ y ∈ a :: bs, x = y) ↔ ∀ b ∈ bs, b = a := by
  constructor
  · exact fun h b hb => h b (List.mem_cons_of_mem a hb) a (List.mem_cons_self a bs)
  · intro h x hx y hy
    rw [List.mem_cons] at hx hy
    rcases hx with rfl | hx <;> rcases hy with rfl | hy
    exacts [rfl, (h y hy).symm, h x hx, (h x hx).trans (h y hy).symm]

/-- The accumulator of `AND` and `OR` after `bs`. -/
theorem foldl_andOr (andFlag : Bool) : ∀ (bs : List Bool) (acc : Bool),
    bs.foldl (fun acc b => if andFlag then acc && b else acc || b) acc =
      if andFlag then (acc :: bs).all id else (acc :: bs).any id
  | [], acc => by cases andFlag <;> simp
  | b :: bs, acc => by
    rw [List.foldl_cons, foldl_andOr andFlag bs]
    cases andFlag <;> simp [Bool.and_assoc, Bool.or_assoc]

/-! ## On the interpreter -/

/-- `x` run from `vm` leaves `v` on `S` in place of its operands: every other part of the
state the abstraction keeps is as it was. -/
def Leaves (x : VmM Unit) (vm : Vm) (S : List Value) (v : Value) : Prop :=
  ∃ vm', x vm = .ok () vm' ∧ vm'.abs = { vm.abs with stack := ⟨v :: S, vm.abs.stack.ctl⟩ }

/-- `x` run from `vm` fails with `e`. -/
def FailsWith (x : VmM Unit) (vm : Vm) (e : Status) : Prop := ∃ vm', x vm = .error e vm'

/-- `STACK_SIZE` bounds the two stacks of every state of the interpreter. -/
theorem Vm.abs_stack_length (vm : Vm) :
    vm.abs.stack.args.length + vm.abs.stack.ctl.length ≤ stackSize := by
  simpa [Vm.abs] using vm.stack.bounded

section Interpreter

variable {vm : Vm} {S : List Value}

theorem leaves_of_sim {x : VmM Unit} {X : MachM Unit} (hx : Sim x X) {v : Value}
    (h : X vm.abs = .ok () { vm.abs with stack := ⟨v :: S, vm.abs.stack.ctl⟩ }) :
    Leaves x vm S v :=
  mapResult_eq_ok ((hx vm).trans h)

theorem failsWith_of_sim {x : VmM Unit} {X : MachM Unit} (hx : Sim x X) {e : Status}
    {m' : Machine} (h : X vm.abs = .error e m') : FailsWith x vm e :=
  (mapResult_eq_error ((hx vm).trans h)).imp fun _ h => h.1

theorem Leaves.not_failsWith {x : VmM Unit} {v : Value} {e : Status} (h : Leaves x vm S v) :
    ¬FailsWith x vm e := by
  rintro ⟨vm₁, h₁⟩
  obtain ⟨vm', h', -⟩ := h
  rw [h'] at h₁
  cases h₁

/-- Room for one result once `k ≥ 1` operands are off the stack. -/
theorem room_of_args {xs : List Value} (h : vm.abs.stack.args = xs ++ S) (hk : 1 ≤ xs.length) :
    S.length + vm.abs.stack.ctl.length + 1 ≤ stackSize := by
  have := Vm.abs_stack_length vm
  rw [h, List.length_append] at this
  omega

end Interpreter

/-! ## The counting loops -/

section Loops

open Vm

/-- The loop `for (i = k; i < n; i++)` of `grunt_vm_and_or`, with its `grunt_rep_t`
counter: `i + 1` is taken modulo `2 ^ 16`. -/
def andOrFor (andFlag : Bool) (n i : Fin 65536) : VmM Unit :=
  if h : i < n then do
    let b ← popBool .rb
    modify fun vm => { vm with ra := .bool (if andFlag then vm.ra.valB && b else vm.ra.valB || b) }
    andOrFor andFlag n (i + 1)
  else pure ()
termination_by n.val - i.val
decreasing_by
  simp_wf
  have := Fin.val_add_one_of_lt (lt_of_lt_of_le h (Fin.le_last n))
  rw [Fin.lt_iff_val_lt_val] at h
  omega

/-- The loop `for (i = k; i < n; i++)` of `grunt_vm_eq`. -/
def eqFor (n i : Fin 65536) (equalFlag : Bool) : VmM Bool :=
  if h : i < n then do
    let b ← popNum .rb
    eqFor n (i + 1) (if (← get).ra.valNum ≠ b then false else equalFlag)
  else pure equalFlag
termination_by n.val - i.val
decreasing_by
  all_goals simp_wf
  all_goals have := Fin.val_add_one_of_lt (lt_of_lt_of_le h (Fin.le_last n))
  all_goals rw [Fin.lt_iff_val_lt_val] at h
  all_goals omega

/-- Below `n`, the counter never wraps: the loop from `i` runs its body `n - i` times. -/
theorem andOrFor_eq (andFlag : Bool) (n : Fin 65536) :
    ∀ (k : Nat) (i : Fin 65536), n.val - i.val = k → andOrFor andFlag n i = andOrLoop andFlag k
  | 0, i, hk => by
    rw [andOrFor, dif_neg (by rw [Fin.lt_iff_val_lt_val]; omega)]
    rfl
  | k + 1, i, hk => by
    have hi : i < n := by rw [Fin.lt_iff_val_lt_val]; omega
    have h1 := Fin.val_add_one_of_lt (lt_of_lt_of_le hi (Fin.le_last n))
    rw [andOrFor, dif_pos hi, andOrFor_eq andFlag n k (i + 1) (by omega)]
    rfl

theorem eqFor_eq (n : Fin 65536) :
    ∀ (k : Nat) (i : Fin 65536) (equalFlag : Bool), n.val - i.val = k →
      eqFor n i equalFlag = eqLoop k equalFlag
  | 0, i, equalFlag, hk => by
    rw [eqFor, dif_neg (by rw [Fin.lt_iff_val_lt_val]; omega)]
    rfl
  | k + 1, i, equalFlag, hk => by
    have hi : i < n := by rw [Fin.lt_iff_val_lt_val]; omega
    have h1 := Fin.val_add_one_of_lt (lt_of_lt_of_le hi (Fin.le_last n))
    rw [eqFor, dif_pos hi]
    simp only [eqLoop, eqFor_eq n k (i + 1) _ (by omega)]

end Loops

/-! ## The contracts -/

/-- What `ADD`, `SUB`, `LT` and `GT` do with the numbers `a` and `b`, `b` on top of `S`:
`ADD` fails with `OutOfBounds` exactly when `a + b` exceeds `GRUNT_NUM_MAX` and otherwise
pushes the exact sum; `SUB` fails exactly when `a < b` and otherwise pushes the exact
difference; `LT` and `GT` push the comparison. -/
structure ArithSpec (vm : Vm) (S : List Value) (a b : Number) : Prop where
  add_outOfBounds : FailsWith (vmAddSub true) vm .outOfBounds ↔ numMax.val < a.val + b.val
  add : a.val + b.val ≤ numMax.val →
    ∃ n : Number, n.val = a.val + b.val ∧ Leaves (vmAddSub true) vm S (.num n)
  sub_outOfBounds : FailsWith (vmAddSub false) vm .outOfBounds ↔ a.val < b.val
  sub : b.val ≤ a.val →
    ∃ n : Number, n.val = a.val - b.val ∧ Leaves (vmAddSub false) vm S (.num n)
  lt : Leaves (vmLtGt true) vm S (.bool (decide (a < b)))
  gt : Leaves (vmLtGt false) vm S (.bool (decide (a > b)))

theorem arithSpec_of_args {vm : Vm} {S : List Value} {a b : Number}
    (h : vm.abs.stack.args = .num b :: .num a :: S) : ArithSpec vm S a b := by
  have hcap := @room_of_args vm S [.num b, .num a] h (Nat.le_succ 1)
  have hmax : numMax.val = 4294967295 := rfl
  have add (hfit : a.val + b.val ≤ numMax.val) : Leaves (vmAddSub true) vm S (.num (a + b)) :=
    leaves_of_sim (vmAddSub_sim true) (Machine.addSub_ok h hfit hcap)
  have sub (hfit : b.val ≤ a.val) : Leaves (vmAddSub false) vm S (.num (a - b)) :=
    leaves_of_sim (vmAddSub_sim false) (Machine.addSub_ok h hfit hcap)
  refine ⟨⟨fun hf => Nat.lt_of_not_le fun hfit => (add hfit).not_failsWith hf,
      fun hout => failsWith_of_sim (vmAddSub_sim true) (Machine.addSub_outOfBounds h hout)⟩,
    fun hfit => ⟨a + b, ?_, add hfit⟩,
    ⟨fun hf => Nat.lt_of_not_le fun hfit => (sub hfit).not_failsWith hf,
      fun hout => failsWith_of_sim (vmAddSub_sim false) (Machine.addSub_outOfBounds h hout)⟩,
    fun hfit => ⟨a - b, Fin.coe_sub_iff_le.mpr hfit, sub hfit⟩,
    leaves_of_sim (vmLtGt_sim true) (Machine.ltGt_ok h hcap),
    leaves_of_sim (vmLtGt_sim false) (Machine.ltGt_ok h hcap)⟩
  rw [Fin.val_add, Nat.mod_eq_of_lt (by omega)]

/-- `ADD`, `SUB`, `LT` and `GT` with `x` and `y`, `y` on top of `S`: on two numbers they
do what `ArithSpec` says, no result taken modulo `2 ^ 32`; with anything but a number in
either position they fail with `InvalidArgument`. -/
theorem arith_compare_exact (vm : Vm) (S : List Value) (x y : Value)
    (h : vm.stack.abs.args = y :: x :: S) :
    (∀ a b : Number, x = .num a → y = .num b → ArithSpec vm S a b) ∧
    (x.type ≠ .num ∨ y.type ≠ .num → ∀ addFlag ltFlag : Bool,
      FailsWith (vmAddSub addFlag) vm .invalidArgument ∧
        FailsWith (vmLtGt ltFlag) vm .invalidArgument) := by
  refine ⟨fun a b hx hy => arithSpec_of_args (by rw [← hx, ← hy]; exact h),
    fun hxy addFlag ltFlag => ⟨?_, ?_⟩⟩
  · obtain ⟨m', h'⟩ : ∃ m', Machine.addSub addFlag vm.abs = .error .invalidArgument m' :=
      Machine.popNum_popNum_invalid (m := vm.abs) h hxy _
    exact failsWith_of_sim (vmAddSub_sim addFlag) h'
  · obtain ⟨m', h'⟩ : ∃ m', Machine.ltGt ltFlag vm.abs = .error .invalidArgument m' :=
      Machine.popNum_popNum_invalid (m := vm.abs) h hxy _
    exact failsWith_of_sim (vmLtGt_sim ltFlag) h'

/-- The interpreter with the numbers `1` and `2` on its argument stack, `2` on top. -/
theorem arith_compare_exact_one_two :
    let vm : Vm := { Vm.boot 50 with
      stack := ⟨fun i => if i = 0 then .num 1 else .num 2, 2, 0, by decide⟩ }
    vm.stack.abs.args = [.num 2, .num 1] ∧
      ((∀ a b : Number, Value.num 1 = .num a → Value.num 2 = .num b → ArithSpec vm [] a b) ∧
        ((Value.num 1).type ≠ .num ∨ (Value.num 2).type ≠ .num → ∀ addFlag ltFlag : Bool,
          FailsWith (vmAddSub addFlag) vm .invalidArgument ∧
            FailsWith (vmLtGt ltFlag) vm .invalidArgument)) :=
  ⟨rfl, arith_compare_exact _ [] (.num 1) (.num 2) rfl⟩

/-- `EQ(n)`, `AND(n)` and `OR(n)` for `2 ≤ n` on the top `n` arguments `xs` above `S`: on
`n` numbers `EQ` pushes whether they are all equal, on `n` Booleans `AND` and `OR` push
their conjunction and disjunction, each in place of exactly its `n` operands; an operand of
another type fails with `InvalidArgument`.  The loops with their `grunt_rep_t` counter run
`n - 1` times. -/
theorem eq_and_or_exact (vm : Vm) (n : Fin 65536) (hn : 2 ≤ n.val) (xs S : List Value)
    (hxs : xs.length = n.val) (h : vm.stack.abs.args = xs ++ S) :
    (∀ ns : List Number, xs = ns.map .num →
      Leaves (vmEq n.val) vm S (.bool (decide (∀ a ∈ ns, ∀ b ∈ ns, a = b)))) ∧
    ((∃ x ∈ xs, x.type ≠ .num) → FailsWith (vmEq n.val) vm .invalidArgument) ∧
    (∀ bs : List Bool, xs = bs.map .bool →
      Leaves (vmAndOr n.val true) vm S (.bool (bs.all id)) ∧
        Leaves (vmAndOr n.val false) vm S (.bool (bs.any id))) ∧
    ((∃ x ∈ xs, x.type ≠ .bool) → ∀ andFlag : Bool,
      FailsWith (vmAndOr n.val andFlag) vm .invalidArgument) ∧
    (∀ andFlag : Bool, andOrFor andFlag n 1 = andOrLoop andFlag (n.val - 1)) ∧
    (∀ equalFlag : Bool, eqFor n 1 equalFlag = eqLoop (n.val - 1) equalFlag) := by
  have hcap := @room_of_args vm S xs h (by omega)
  refine ⟨fun ns hns => ?_, fun hex => ?_, fun bs hbs => ?_, fun hex andFlag => ?_,
    fun andFlag => andOrFor_eq andFlag n _ 1 rfl, fun equalFlag => eqFor_eq n _ 1 equalFlag rfl⟩
  · subst hns
    obtain ⟨a, bs, rfl⟩ := List.exists_cons_of_length_pos (by simp at hxs; omega : 0 < ns.length)
    have hflag : decide (∀ x ∈ a :: bs, ∀ y ∈ a :: bs, x = y) =
        bs.foldl (fun acc b => if a ≠ b then false else acc) true := by
      rw [foldl_equalFlag, Bool.true_and]
      exact decide_eq_decide.mpr (allEqual_cons_iff a bs)
    rw [hflag]
    exact leaves_of_sim (vmEq_sim n) (Machine.eq_ok (by simp at hxs; omega) hn h hcap)
  · obtain ⟨m', h'⟩ := Machine.eq_invalid (m := vm.abs) hn hxs h hex
    exact failsWith_of_sim (vmEq_sim n) h'
  · subst hbs
    obtain ⟨c, cs, rfl⟩ := List.exists_cons_of_length_pos (by simp at hxs; omega : 0 < bs.length)
    have hlen : cs.length + 1 = n.val := by simp at hxs; omega
    constructor
    · rw [show (c :: cs).all id = cs.foldl (fun acc b => if true then acc && b else acc || b) c by
        rw [foldl_andOr]; rfl]
      exact leaves_of_sim (vmAndOr_sim n true) (Machine.andOr_ok hlen hn h hcap)
    · rw [show (c :: cs).any id = cs.foldl (fun acc b => if false then acc && b else acc || b) c by
        rw [foldl_andOr]; rfl]
      exact leaves_of_sim (vmAndOr_sim n false) (Machine.andOr_ok hlen hn h hcap)
  · obtain ⟨m', h'⟩ := @Machine.andOr_invalid vm.abs n.val andFlag xs S hn hxs h hex
    exact failsWith_of_sim (vmAndOr_sim n andFlag) h'

/-- `EQ(2)`, `AND(2)` and `OR(2)` on two copies of the number `3`. -/
theorem eq_and_or_exact_three_three :
    let vm : Vm := { Vm.boot 50 with stack := ⟨fun _ => .num 3, 2, 0, by decide⟩ }
    2 ≤ (2 : Fin 65536).val ∧ [Value.num 3, .num 3].length = (2 : Fin 65536).val ∧
      vm.stack.abs.args = [.num 3, .num 3] ++ [] ∧
      ((∀ ns : List Number, [Value.num 3, .num 3] = ns.map .num →
        Leaves (vmEq (2 : Fin 65536).val) vm [] (.bool (decide (∀ a ∈ ns, ∀ b ∈ ns, a = b)))) ∧
      ((∃ x ∈ [Value.num 3, .num 3], x.type ≠ .num) →
        FailsWith (vmEq (2 : Fin 65536).val) vm .invalidArgument) ∧
      (∀ bs : List Bool, [Value.num 3, .num 3] = bs.map .bool →
        Leaves (vmAndOr (2 : Fin 65536).val true) vm [] (.bool (bs.all id)) ∧
          Leaves (vmAndOr (2 : Fin 65536).val false) vm [] (.bool (bs.any id))) ∧
      ((∃ x ∈ [Value.num 3, .num 3], x.type ≠ .bool) → ∀ andFlag : Bool,
        FailsWith (vmAndOr (2 : Fin 65536).val andFlag) vm .invalidArgument) ∧
      (∀ andFlag : Bool, andOrFor andFlag 2 1 = andOrLoop andFlag ((2 : Fin 65536).val - 1)) ∧
      (∀ equalFlag : Bool, eqFor 2 1 equalFlag = eqLoop ((2 : Fin 65536).val - 1) equalFlag)) :=
  ⟨by decide, rfl, rfl, eq_and_or_exact _ 2 (by decide) [.num 3, .num 3] [] rfl rfl⟩

end Grunt
