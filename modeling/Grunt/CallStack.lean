import Grunt.Run

/-!
# The call discipline

A Grunt program cannot touch its control stack except through `CALL` and `RETURN`, so the
control stack of a run is always the list of return addresses of the calls still open.
The calls still open are computed from the history of the run, the states at which its
steps started: a `CALL` opens one, a `RETURN` closes the most recent.  The invariant
`CallInv` says that the control stack holds `c + 1` for each open call at address `c`,
most recent on top, that these addresses rise from the bottom, that the top one is at
most `pc`, and that each open call saw, when it ran, the control stack now below it.  So
a `RETURN` goes back one past the most recent open call, with the control stack that call
found.
-/

namespace Grunt

section CallStack

variable (o : ByteOrder) (C : Nat) (program : List Instruction) (numInstructions : Fin 65536)

/-- `vm` is reached from `vm₀` by successful passes of the loop of `GRUNT_Run`, started
from the states of `trace`, oldest first. -/
inductive Reaches : Vm → List Vm → Vm → Prop
  | refl (vm : Vm) : Reaches vm [] vm
  | step {vm₀ vm vm' : Vm} {trace : List Vm} : Reaches vm₀ trace vm →
      vm.pc < numInstructions → vmStep o C (fetch program vm.pc) vm = .ok () vm' →
      Reaches vm₀ (trace ++ [vm]) vm'

/-- The open calls after the step started at `s`. -/
def pendingStep (open_ : List Vm) (s : Vm) : List Vm :=
  match (fetch program s.pc).opcode with
  | some .call => s :: open_
  | some .return => open_.tail
  | _ => open_

/-- The states at which the calls of a history still open started, most recent first. -/
def pendingCalls (trace : List Vm) : List Vm := trace.foldl (pendingStep program) []

/-- The return address a call started at `s` pushes. -/
def retAddr (s : Vm) : Value := .pc (s.pc + 1)

/-- The call discipline after history `trace`, in state `vm`. -/
structure CallInv (trace : List Vm) (vm : Vm) : Prop where
  ctl_eq : vm.abs.stack.ctl = (pendingCalls program trace).map retAddr
  saved : ∀ j s, (pendingCalls program trace)[j]? = some s →
    s.abs.stack.ctl = ((pendingCalls program trace).drop (j + 1)).map retAddr
  calls : ∀ s ∈ pendingCalls program trace,
    s ∈ trace ∧ s.pc < numInstructions ∧ (fetch program s.pc).opcode = some .call
  rising : (pendingCalls program trace).Pairwise fun a b => b.pc.val < a.pc.val
  top_le : ∀ s ∈ (pendingCalls program trace).head?, s.pc.val + 1 ≤ vm.pc.val

theorem pendingCalls_append (trace : List Vm) (s : Vm) :
    pendingCalls program (trace ++ [s]) = pendingStep program (pendingCalls program trace) s := by
  simp [pendingCalls, List.foldl_append]

/-- Below the top open call, every open call started at a lower address. -/
theorem CallInv.lt_pc {trace : List Vm} {vm : Vm} (hinv : CallInv program numInstructions trace vm) :
    ∀ s ∈ pendingCalls program trace, s.pc.val + 1 ≤ vm.pc.val := by
  have hr := hinv.rising
  have ht := hinv.top_le
  revert hr ht
  cases pendingCalls program trace with
  | nil => simp
  | cons h t =>
    intro hr ht s hs
    have hh := ht h rfl
    rcases List.mem_cons.mp hs with rfl | hs
    · exact hh
    · have := List.rel_of_pairwise_cons hr hs
      omega

/-- The call discipline holds after every successful step. -/
theorem CallInv.step {trace : List Vm} {vm vm' : Vm}
    (hinv : CallInv program numInstructions trace vm) (hpc : vm.pc < numInstructions)
    (h : vmStep o C (fetch program vm.pc) vm = .ok () vm') :
    CallInv program numInstructions (trace ++ [vm]) vm' := by
  have hp := pc_lt_max hpc
  have h1 := val_add_one hp
  have hlt := hinv.lt_pc
  obtain ⟨hctl₀, hsaved, hcalls, hrising, htop⟩ := hinv
  rcases step_control ((vmStep_sim o C _).ok h) with ⟨hnc, hnr, hctl, hpc'⟩ |
    ⟨hcall, target, _, hle, hpc', hctl⟩ | ⟨hret, v, hctl, hpc'⟩
  · -- an instruction other than `CALL` and `RETURN`: the open calls stay
    have hps : pendingStep program (pendingCalls program trace) vm = pendingCalls program trace := by
      unfold pendingStep; split <;> simp_all
    have hge : vm.pc.val ≤ vm'.pc.val := by
      rcases hpc' with hpc' | ⟨_, offset, h₂, h₃, hpc'⟩
      · rw [show vm'.pc = vm.abs.pc + 1 from hpc', show vm.abs.pc = vm.pc from rfl, h1]; omega
      · rw [show vm'.pc = vm.abs.pc + 1 + (offset - 1) from hpc', show vm.abs.pc = vm.pc from rfl,
          val_jump hp h₂ h₃]; omega
    refine ⟨?_, ?_, ?_, ?_, ?_⟩ <;> rw [pendingCalls_append, hps]
    exacts [hctl.trans hctl₀, hsaved, fun s hs => ⟨List.mem_append_left _ (hcalls s hs).1,
      (hcalls s hs).2⟩, hrising, fun s hs => (htop s hs).trans hge]
  · -- a `CALL` opens a call
    have hps : pendingStep program (pendingCalls program trace) vm =
        vm :: pendingCalls program trace := by
      unfold pendingStep; rw [hcall]
    refine ⟨?_, ?_, ?_, ?_, ?_⟩ <;> rw [pendingCalls_append, hps]
    · rw [List.map_cons, ← hctl₀]; exact hctl
    · intro j s hs
      cases j with
      | zero =>
        simp only [List.getElem?_cons_zero, Option.some.injEq] at hs
        subst hs; exact hctl₀
      | succ j =>
        simp only [List.getElem?_cons_succ] at hs
        exact hsaved j s hs
    · intro s hs
      rcases List.mem_cons.mp hs with rfl | hs
      · exact ⟨List.mem_append_right _ (List.mem_singleton_self _), hpc, hcall⟩
      · exact ⟨List.mem_append_left _ (hcalls s hs).1, (hcalls s hs).2⟩
    · exact List.pairwise_cons.mpr ⟨fun b hb => by have := hlt b hb; omega, hrising⟩
    · intro s hs
      cases hs
      have : (vm.pc + 1).val ≤ target.val := hle
      rw [show vm'.pc = target from hpc']
      omega
  · -- a `RETURN` closes the most recent call
    rw [hctl₀] at hctl
    rcases hP : pendingCalls program trace with _ | ⟨s, rest⟩
    · rw [hP] at hctl; cases hctl
    rw [hP, List.map_cons, List.cons.injEq] at hctl
    obtain ⟨rfl, hrest⟩ := hctl
    have hps : pendingStep program (pendingCalls program trace) vm = rest := by
      unfold pendingStep; rw [hret, hP]; rfl
    have hs := hcalls s (by rw [hP]; exact List.mem_cons_self _ _)
    rw [hP] at hsaved hcalls hrising
    refine ⟨?_, ?_, ?_, ?_, ?_⟩ <;> rw [pendingCalls_append, hps]
    · exact hrest.symm
    · exact fun j s' hs' => hsaved (j + 1) s' (by simpa using hs')
    · exact fun s' hs' => ⟨List.mem_append_left _ (hcalls s' (List.mem_cons_of_mem _ hs')).1,
        (hcalls s' (List.mem_cons_of_mem _ hs')).2⟩
    · exact hrising.of_cons
    intro s' hs'
    have hlt' := List.rel_of_pairwise_cons hrising (List.mem_of_mem_head? hs')
    rw [show vm'.pc = (retAddr s).valPc from hpc', retAddr, Value.valPc_pc,
      val_add_one (pc_lt_max hs.2.1)]
    omega

/-- No call is open when `GRUNT_Run` enters its loop. -/
theorem callInv_start (data : Option (List UInt8)) (dataSize : Fin 65536)
    (stringTable : List String) (numStrings : Fin 65536) (vm₀ : Vm) :
    CallInv program numInstructions [] (runStart C data dataSize stringTable numStrings vm₀) :=
  ⟨rfl, by simp [pendingCalls], by simp [pendingCalls], by simp [pendingCalls],
    by simp [pendingCalls]⟩

theorem CallInv.reaches {vm₀ vm : Vm} {trace : List Vm}
    (h : Reaches o C program numInstructions vm₀ trace vm)
    (h₀ : CallInv program numInstructions [] vm₀) : CallInv program numInstructions trace vm := by
  induction h with
  | refl => exact h₀
  | step _ hpc hs ih => exact ih.step o C program numInstructions hpc hs

/-- The call discipline at `vm`, reached after history `trace`: the control stack holds one
past the address of each `CALL` run and not yet matched by a `RETURN`, the most recent on
top; these rise from the bottom and the top one is at most `pc`; and from `vm`, a
successful `RETURN` goes one past the most recent open `CALL`, with the control stack
that `CALL` found, while no other successful step moves `pc` back or leaves it in place. -/
def CallDiscipline (trace : List Vm) (vm : Vm) : Prop :=
  let pend := pendingCalls program trace
  vm.abs.stack.ctl = pend.map retAddr ∧
  (∀ s ∈ pend, s ∈ trace ∧ (fetch program s.pc).opcode = some .call) ∧
  pend.Pairwise (fun a b => b.pc.val < a.pc.val) ∧
  (∀ s ∈ pend.head?, s.pc.val + 1 ≤ vm.pc.val) ∧
  ∀ vm', vm.pc < numInstructions → vmStep o C (fetch program vm.pc) vm = .ok () vm' →
    ((fetch program vm.pc).opcode = some .return →
      ∃ s, pend.head? = some s ∧ vm'.pc = s.pc + 1 ∧ vm'.abs.stack.ctl = s.abs.stack.ctl) ∧
    (vm'.pc.val ≤ vm.pc.val →
      (fetch program vm.pc).opcode = some .return ∧ ∃ s ∈ pend, vm'.pc = s.pc + 1)

/-- Every state of every run of `GRUNT_Run` keeps the call discipline, whatever the
program, the input and the string table. -/
theorem call_stack_discipline (data : Option (List UInt8)) (dataSize : Fin 65536)
    (stringTable : List String) (numStrings : Fin 65536) {vm₀ vm : Vm} {trace : List Vm}
    (h : Reaches o C program numInstructions
      (runStart C data dataSize stringTable numStrings vm₀) trace vm) :
    CallDiscipline o C program numInstructions trace vm := by
  unfold CallDiscipline
  dsimp only
  have hinv := (callInv_start C program numInstructions data dataSize stringTable numStrings vm₀).reaches
    o C program numInstructions h
  refine ⟨hinv.ctl_eq, fun s hs => ⟨(hinv.calls s hs).1, (hinv.calls s hs).2.2⟩, hinv.rising,
    hinv.top_le, fun vm' hpc hs => ?_⟩
  have hc := step_control ((vmStep_sim o C _).ok hs)
  have hret : (fetch program vm.pc).opcode = some .return →
      ∃ s, (pendingCalls program trace).head? = some s ∧ vm'.pc = s.pc + 1 ∧ vm'.abs.stack.ctl = s.abs.stack.ctl := by
    intro hr
    rcases hc with ⟨-, hnr, -⟩ | ⟨hcall, -⟩ | ⟨-, v, hctl, hpc'⟩
    · exact absurd hr hnr
    · rw [hcall] at hr; cases hr
    rw [hinv.ctl_eq] at hctl
    have hsaved := hinv.saved 0
    revert hctl hsaved
    rcases pendingCalls program trace with _ | ⟨s, rest⟩
    · intro hctl; cases hctl
    · intro hctl hsaved
      rw [List.map_cons, List.cons.injEq] at hctl
      obtain ⟨rfl, hrest⟩ := hctl
      exact ⟨s, rfl, hpc', hrest.symm.trans (hsaved s (List.getElem?_cons_zero ..)).symm⟩
  refine ⟨hret, fun hle => ?_⟩
  by_cases hr : (fetch program vm.pc).opcode = some .return
  · obtain ⟨s, hs, hpc', -⟩ := hret hr
    exact ⟨hr, s, List.mem_of_mem_head? hs, hpc'⟩
  · exact absurd hle (Nat.not_le.mpr (hc.pc_lt (pc_lt_max hpc) hr))

end CallStack

/-- `CALL 2; HALT; RETURN`: the call skips the `HALT` and the subroutine at `2` returns to
it. -/
def callReturnProgram : List Instruction := [.call 2, .halt, .return]

/-- The state `GRUNT_Run` starts `callReturnProgram` in, from boot with no input. -/
def callReturnStart : Vm := runStart 122 none 0 [] 0 (Vm.boot 122)

/-- After `CALL 2`: the return address `1` is on the control stack, in the top slot. -/
def afterCall : Vm :=
  { callReturnStart with
    ra := .pc 1
    pc := 2
    stack := ⟨Function.update callReturnStart.stack.slots 31 (.pc 1), 0, 1, by decide⟩ }

/-- After `RETURN`: back at `1` with the control stack empty again. -/
def afterReturn : Vm :=
  { afterCall with
    pc := 1
    stack := ⟨afterCall.stack.slots, 0, 0, by decide⟩ }

/-- The call discipline in both states after the start of a run through a `CALL` and its
`RETURN`. -/
theorem call_stack_discipline_callReturn :
    Reaches .little 122 callReturnProgram 3 callReturnStart [callReturnStart] afterCall ∧
    Reaches .little 122 callReturnProgram 3 callReturnStart [callReturnStart, afterCall]
      afterReturn ∧
    CallDiscipline .little 122 callReturnProgram 3 [callReturnStart] afterCall ∧
    CallDiscipline .little 122 callReturnProgram 3 [callReturnStart, afterCall] afterReturn :=
  have h₁ : Reaches .little 122 callReturnProgram 3 callReturnStart [callReturnStart] afterCall :=
    .step (.refl _) (by decide) rfl
  have h₂ : Reaches .little 122 callReturnProgram 3 callReturnStart [callReturnStart, afterCall]
      afterReturn :=
    .step h₁ (by decide) rfl
  ⟨h₁, h₂, call_stack_discipline .little 122 callReturnProgram 3 none 0 [] 0 h₁,
    call_stack_discipline .little 122 callReturnProgram 3 none 0 [] 0 h₂⟩

end Grunt
