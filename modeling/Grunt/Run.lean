import Grunt.Control
import Grunt.Simulation

/-!
# `GRUNT_Run` terminates

The main loop of `GRUNT_Run` has no step budget: it stops only at a `HALT`, at an error,
or when `pc` leaves the program.  It terminates anyway because every successful step
raises the measure of the state, the control stack read from the bottom followed by
`pc`, in the lexicographic order in which a proper prefix ranks above its extensions:
an ordinary step or a jump raises `pc`, a `CALL` raises the last entry and appends its
target, a `RETURN` drops the last entry.  The measures of the interpreter's states have
at most thirty-three entries below `65536`, so they form a finite set, and reading them
as numerals of thirty-three digits in base `65537` (`rank`) turns the order into the
order of numbers below `65537 ^ 33`.  The loop is defined by well-founded recursion on
that rank.
-/

namespace Grunt

/-- The measure of a state: the control stack from the bottom, then `pc`. -/
def Machine.measure (m : Machine) : List Nat :=
  m.stack.ctl.reverse.map (fun v => v.valPc.val) ++ [m.pc.val]

/-- `a` ranks below `b`: at the first entry where they differ `a` is smaller, or `b` is a
proper prefix of `a`. -/
def RanksBelow : List Nat → List Nat → Prop
  | [], _ => False
  | _ :: _, [] => True
  | x :: xs, y :: ys => x < y ∨ (x = y ∧ RanksBelow xs ys)

theorem RanksBelow.append_left (l : List Nat) {a b : List Nat} (h : RanksBelow a b) :
    RanksBelow (l ++ a) (l ++ b) := by
  induction l with
  | nil => exact h
  | cons x l ih => exact .inr ⟨rfl, ih⟩

/-- The list padded to `n` entries with `65536` and read as a base-`65537` numeral, the
first entry the most significant digit. -/
def rank : Nat → List Nat → Nat
  | 0, _ => 0
  | n + 1, [] => 65536 * 65537 ^ n + rank n []
  | n + 1, x :: xs => x * 65537 ^ n + rank n xs

/-- A list of at most `n` entries below `65536`. -/
def Bounded (n : Nat) (l : List Nat) : Prop := l.length ≤ n ∧ ∀ x ∈ l, x < 65536

/-- Measures form a finite set. -/
theorem bounded_finite (n : Nat) : {l : List Nat | Bounded n l}.Finite := by
  refine ((List.finite_length_le (Fin 65536) n).image (List.map Fin.val)).subset ?_
  intro l hl
  refine ⟨l.pmap Fin.mk hl.2, by simpa using hl.1, ?_⟩
  simp only [List.map_pmap, List.pmap_eq_map, List.map_id']

theorem rank_nil (n : Nat) : rank n [] + 1 = 65537 ^ n := by
  induction n with
  | zero => rfl
  | succ n ih => rw [rank, Nat.pow_succ]; omega

theorem rank_lt {n : Nat} {l : List Nat} (hl : Bounded n l) : rank n l < 65537 ^ n := by
  induction n generalizing l with
  | zero => simp [Bounded] at hl; simp [hl, rank]
  | succ n ih =>
    cases l with
    | nil => have := rank_nil (n + 1); omega
    | cons x xs =>
      have hx : x < 65536 := hl.2 x (.head _)
      have hxs := ih ⟨Nat.le_of_succ_le_succ hl.1, fun y hy => hl.2 y (.tail _ hy)⟩
      have : (x + 1) * 65537 ^ n ≤ 65537 * 65537 ^ n := Nat.mul_le_mul_right _ (by omega)
      rw [rank, Nat.pow_succ, Nat.mul_comm (65537 ^ n), Nat.succ_mul] at *
      omega

/-- Ranking turns the order of measures into the order of numbers. -/
theorem rank_lt_rank {n : Nat} {a b : List Nat} (h : RanksBelow a b) (ha : Bounded n a)
    (hb : Bounded n b) : rank n a < rank n b := by
  induction n generalizing a b with
  | zero => cases a <;> simp_all [Bounded, RanksBelow]
  | succ n ih =>
    match a, b, h with
    | x :: xs, [], _ =>
      have hx : x < 65536 := ha.2 x (.head _)
      have hxs := @rank_lt n xs ⟨Nat.le_of_succ_le_succ ha.1, fun y hy => ha.2 y (.tail _ hy)⟩
      have : (x + 1) * 65537 ^ n ≤ 65536 * 65537 ^ n := Nat.mul_le_mul_right _ (by omega)
      rw [rank, rank, Nat.succ_mul] at *
      omega
    | x :: xs, y :: ys, h =>
      have hxs : Bounded n xs := ⟨Nat.le_of_succ_le_succ ha.1, fun z hz => ha.2 z (.tail _ hz)⟩
      have hys : Bounded n ys := ⟨Nat.le_of_succ_le_succ hb.1, fun z hz => hb.2 z (.tail _ hz)⟩
      rw [rank, rank]
      rcases h with hlt | ⟨rfl, h⟩
      · have := rank_lt hxs
        have : (x + 1) * 65537 ^ n ≤ y * 65537 ^ n := Nat.mul_le_mul_right _ hlt
        rw [Nat.succ_mul] at this
        omega
      · have := ih h hxs hys
        omega

theorem val_add_one {p : Fin 65536} (hp : p.val < 65535) : (p + 1).val = p.val + 1 := by
  rw [Fin.val_add]; simp only [Fin.val_one]; omega

theorem val_jump {p offset : Fin 65536} (hp : p.val < 65535) (h₂ : 2 ≤ offset.val)
    (h₃ : offset.val ≤ 65535 - (p + 1).val) : (p + 1 + (offset - 1)).val = p.val + offset.val := by
  simp only [Fin.val_add, Fin.sub_def, Fin.val_one] at h₃ ⊢
  omega

/-- Each control effect raises the measure, from a `pc` that can be advanced. -/
theorem ControlEffect.ranksBelow {i : Instruction} {m m' : Machine} (hp : m.pc.val < 65535)
    (h : ControlEffect i m m') : RanksBelow m.measure m'.measure := by
  have h1 := val_add_one hp
  unfold Machine.measure
  rcases h with ⟨-, -, hctl, hpc | ⟨_, offset, h₂, h₃, hpc⟩⟩ | ⟨_, target, _, hle, hpc, hctl⟩ |
    ⟨_, v, hctl, hpc⟩
  · rw [hctl, hpc]
    exact .append_left _ (.inl (by omega))
  · rw [hctl, hpc, val_jump hp h₂ h₃]
    exact .append_left _ (.inl (by omega))
  · rw [hctl, hpc]
    simp only [List.reverse_cons, List.map_append, List.map_cons, List.map_nil, List.append_assoc,
      List.singleton_append]
    refine .append_left _ (.inl ?_)
    simp only [Value.valPc_pc]
    omega
  · rw [hctl, hpc]
    simp only [List.reverse_cons, List.map_append, List.map_cons, List.map_nil, List.append_assoc,
      List.singleton_append]
    exact .append_left _ (.inr ⟨rfl, trivial⟩)

/-- Each control effect on the measure `l ++ [pc]`: an ordinary step or a jump raises the
last entry, a `CALL` raises it by one and appends its target, a `RETURN` drops it. -/
theorem ControlEffect.measure_eq {i : Instruction} {m m' : Machine} (hp : m.pc.val < 65535)
    (h : ControlEffect i m m') :
    let l := m.stack.ctl.reverse.map (fun v => v.valPc.val)
    (∃ d > 0, m'.measure = l ++ [m.pc.val + d]) ∨
    (∃ t ≥ m.pc.val + 1, m'.measure = l ++ [m.pc.val + 1, t]) ∨ m'.measure = l := by
  have h1 := val_add_one hp
  unfold Machine.measure
  rcases h with ⟨-, -, hctl, hpc | ⟨_, offset, h₂, h₃, hpc⟩⟩ | ⟨_, target, _, hle, hpc, hctl⟩ |
    ⟨_, v, hctl, hpc⟩
  · exact .inl ⟨1, Nat.one_pos, by rw [hctl, hpc, h1]⟩
  · refine .inl ⟨offset.val, by omega, ?_⟩
    rw [hctl, hpc, val_jump hp h₂ h₃]
  · refine .inr (.inl ⟨target.val, ?_, ?_⟩)
    · rw [← h1]; exact hle
    · rw [hctl, hpc]
      simp [h1]
  · refine .inr (.inr ?_)
    rw [hctl, hpc]
    simp

/-- Only a `RETURN` can move `pc` back or leave it in place. -/
theorem ControlEffect.pc_lt {i : Instruction} {m m' : Machine} (hp : m.pc.val < 65535)
    (h : ControlEffect i m m') (hr : i.opcode ≠ some .return) : m.pc.val < m'.pc.val := by
  have h1 := val_add_one hp
  rcases h with ⟨-, -, -, hpc | ⟨_, offset, h₂, h₃, hpc⟩⟩ | ⟨_, target, _, hle, hpc, -⟩ |
    ⟨hr', -⟩
  · rw [hpc, h1]; omega
  · rw [hpc, val_jump hp h₂ h₃]; omega
  · have : (m.pc + 1).val ≤ target.val := hle
    rw [hpc]; omega
  · exact absurd hr' hr

/-- The measure of the interpreter's state has at most thirty-three entries below
`65536`: the control stack holds at most `GRUNT_STACK_SIZE` entries. -/
theorem Vm.measure_bounded (vm : Vm) : Bounded 33 vm.abs.measure := by
  have := vm.stack.bounded
  refine ⟨?_, fun x hx => ?_⟩
  · simp only [Machine.measure, Vm.abs, Stack.abs, List.length_append, List.length_map,
      List.length_reverse, length_liveCtl, List.length_singleton, stackSize_eq] at this ⊢
    omega
  · simp only [Machine.measure, List.mem_append, List.mem_map, List.mem_singleton] at hx
    rcases hx with ⟨v, -, rfl⟩ | rfl
    · exact v.valPc.isLt
    · exact vm.pc.isLt

/-- `program[pc]`; past the end of the list the model reads an all-zero instruction, whose
opcode `0` is invalid.  `GRUNT_Run`'s callers pass at least `num_instructions`
instructions, so the loop below never reads there. -/
def fetch (program : List Instruction) (pc : Fin 65536) : Instruction :=
  program.getD pc.val ⟨0, 0, .bool false⟩

section Loop

variable (o : ByteOrder) (C : Nat)

/-- A successful step of the interpreter raises the measure of its state. -/
theorem vmStep_ranksBelow {i : Instruction} {vm vm' : Vm} (hp : vm.pc.val < 65535)
    (h : vmStep o C i vm = .ok () vm') : RanksBelow vm.abs.measure vm'.abs.measure := by
  have hs := vmStep_sim o C i vm
  rw [h] at hs
  exact (step_control hs.symm).ranksBelow hp

theorem vmStep_rank_lt {i : Instruction} {vm vm' : Vm} (hp : vm.pc.val < 65535)
    (h : vmStep o C i vm = .ok () vm') : rank 33 vm.abs.measure < rank 33 vm'.abs.measure :=
  rank_lt_rank (vmStep_ranksBelow o C hp h) vm.measure_bounded vm'.measure_bounded

theorem pc_lt_max {pc n : Fin 65536} (h : pc < n) : pc.val < 65535 := by
  have := n.isLt
  have : pc.val < n.val := h
  omega

/-- The `do ... while` loop of `GRUNT_Run`: stop with `NoProgram` once `pc` has left the
program, else run the instruction at `pc` and carry on while it returns `0`. -/
def runLoop (program : List Instruction) (numInstructions : Fin 65536) (vm : Vm) : Status × Vm :=
  if h : vm.pc < numInstructions then
    match hs : vmStep o C (fetch program vm.pc) vm with
    | .ok () vm' => runLoop program numInstructions vm'
    | .error e vm' => (e, vm')
  else (.noProgram, vm)
termination_by 65537 ^ 33 - rank 33 vm.abs.measure
decreasing_by
  have h₁ := vmStep_rank_lt o C (pc_lt_max h) hs
  have h₂ := rank_lt vm'.measure_bounded
  omega

/-- The state in which `GRUNT_Run` enters its loop: the stacks emptied, the input and the
output opened, `pc` at instruction `0`.  The registers and the array's slots keep what an
earlier run left there. -/
def runStart (data : Option (List UInt8)) (dataSize : Fin 65536) (stringTable : List String)
    (numStrings : Fin 65536) (vm : Vm) : Vm :=
  { vm with
    stack := vm.stack.init
    input := inputInit data dataSize.val vm.input
    output := outputInit C stringTable numStrings.val vm.output
    pc := 0 }

/-- `GRUNT_Run`.  The debug line it prints after a failure is not modelled. -/
def gruntRun (program : List Instruction) (numInstructions : Fin 65536)
    (data : Option (List UInt8)) (dataSize : Fin 65536) (stringTable : List String)
    (numStrings : Fin 65536) (vm : Vm) : Status × Vm :=
  runLoop o C program numInstructions (runStart C data dataSize stringTable numStrings vm)

section Unfold

variable (program : List Instruction) (numInstructions : Fin 65536)

theorem runLoop_of_ok {vm vm' : Vm} (hpc : vm.pc < numInstructions)
    (hs : vmStep o C (fetch program vm.pc) vm = .ok () vm') :
    runLoop o C program numInstructions vm = runLoop o C program numInstructions vm' := by
  rw [runLoop, dif_pos hpc]
  split <;> rename_i h <;> rw [hs] at h <;> cases h
  rfl

theorem runLoop_of_error {vm vm' : Vm} {e : Status} (hpc : vm.pc < numInstructions)
    (hs : vmStep o C (fetch program vm.pc) vm = .error e vm') :
    runLoop o C program numInstructions vm = (e, vm') := by
  rw [runLoop, dif_pos hpc]
  split <;> rename_i h <;> rw [hs] at h <;> cases h
  rfl

theorem runLoop_of_stop {vm : Vm} (hpc : ¬vm.pc < numInstructions) :
    runLoop o C program numInstructions vm = (.noProgram, vm) := by
  rw [runLoop, dif_neg hpc]

/-- A property of the machine that every instruction keeps, failing only with statuses in
`E`, holds along every run of the interpreter, which ends with a status in `E` or with
`NoProgram`. -/
theorem runLoop_triple {P : Machine → Prop} {E : Status → Prop}
    (hstep : ∀ i, Triple P (Machine.step o C i) (fun _ => P) E) :
    ∀ vm, P vm.abs → E (runLoop o C program numInstructions vm).1 ∨
      (runLoop o C program numInstructions vm).1 = .noProgram := by
  intro vm
  induction vm using runLoop.induct o C program numInstructions with
  | case1 vm hpc vm' hs ih =>
    intro hP
    have h := hstep (fetch program vm.pc) vm.abs hP
    rw [← vmStep_sim o C _ vm, hs] at h
    rw [runLoop_of_ok o C program numInstructions hpc hs]
    exact ih h
  | case2 vm hpc e vm' hs =>
    intro hP
    have h := hstep (fetch program vm.pc) vm.abs hP
    rw [← vmStep_sim o C _ vm, hs] at h
    exact .inl ((runLoop_of_error o C program numInstructions hpc hs).symm ▸ h)
  | case3 vm hpc =>
    intro _
    exact .inr (by rw [runLoop_of_stop o C program numInstructions hpc])

end Unfold

/-- The loop of `GRUNT_Run` stops after finitely many steps, whatever the program, the
input and the string table: every successful step changes the measure in one of the three
ways and raises it, the measures lie in a finite set, and no sequence of states follows
the loop forever. -/
theorem runLoop_terminates (program : List Instruction) (numInstructions : Fin 65536) :
    (∀ vm vm' : Vm, vm.pc < numInstructions → vmStep o C (fetch program vm.pc) vm = .ok () vm' →
      let l := vm.abs.stack.ctl.reverse.map (fun v => v.valPc.val)
      vm.abs.measure = l ++ [vm.pc.val] ∧
      ((∃ d > 0, vm'.abs.measure = l ++ [vm.pc.val + d]) ∨
        (∃ t ≥ vm.pc.val + 1, vm'.abs.measure = l ++ [vm.pc.val + 1, t]) ∨
        vm'.abs.measure = l) ∧
      RanksBelow vm.abs.measure vm'.abs.measure) ∧
    (∀ vm : Vm, vm.abs.measure ∈ {l | Bounded 33 l}) ∧ {l : List Nat | Bounded 33 l}.Finite ∧
    ¬∃ f : Nat → Vm, ∀ k, (f k).pc < numInstructions ∧
      vmStep o C (fetch program (f k).pc) (f k) = .ok () (f (k + 1)) := by
  refine ⟨fun vm vm' hpc h => ?_, Vm.measure_bounded, bounded_finite 33, ?_⟩
  · have hs := vmStep_sim o C (fetch program vm.pc) vm
    rw [h] at hs
    have hc := step_control hs.symm
    exact ⟨rfl, hc.measure_eq (pc_lt_max hpc), hc.ranksBelow (pc_lt_max hpc)⟩
  · rintro ⟨f, hf⟩
    have grow : ∀ k, k ≤ rank 33 (f k).abs.measure := by
      intro k
      induction k with
      | zero => exact Nat.zero_le _
      | succ k ih =>
        have := vmStep_rank_lt o C (pc_lt_max (hf k).1) (hf k).2
        omega
    have := grow (65537 ^ 33)
    have := rank_lt (Vm.measure_bounded (f (65537 ^ 33)))
    omega

end Loop

end Grunt
