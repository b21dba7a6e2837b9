import Grunt.Machine

/-!
# Triples over the abstract machine

`Triple P x Q E`: from a state satisfying `P`, the instruction fragment `x` either
succeeds with a value and a state satisfying `Q`, or fails with a status satisfying `E`.
The rules below follow the shape of the machine's code, so a property of every
instruction is proved by composing the rules of its primitives.  Two instances are used
later: the frame of an instruction that only touches the argument stack and the input
and output (`Grunt.Control`), and the invariant that rules out `InterpreterBug`
(`Grunt.Safety`).
-/

namespace Grunt

/-- A successful bind is a success of both parts. -/
theorem bind_ok {ε σ α β : Type} {x : EStateM ε σ α} {f : α → EStateM ε σ β} {s s' : σ} {b : β}
    (h : (x >>= f) s = .ok b s') : ∃ a s₁, x s = .ok a s₁ ∧ f a s₁ = .ok b s' := by
  revert h
  show EStateM.bind x f s = _ → _
  unfold EStateM.bind
  rcases x s with ⟨a, s₁⟩ | ⟨e, s₁⟩
  · exact fun h => ⟨a, s₁, rfl, h⟩
  · intro h; cases h

/-- A successful call of a module function, by what the function returned. -/
theorem lift_map_ok {σ : Type} {g : Machine → Except Status σ} {put : Machine → σ → Machine}
    {m m' : Machine} {u : Unit} (h : Machine.lift (fun m => (g m).map (put m)) m = .ok u m') :
    ∃ s, g m = .ok s ∧ m' = put m s := by
  dsimp only [Machine.lift] at h
  rcases hg : g m with e | s <;> rw [hg] at h <;> cases h
  exact ⟨s, rfl, rfl⟩

/-- From `P`, `x` ends in `Q` or fails with a status in `E`. -/
def Triple {α : Type} (P : Machine → Prop) (x : MachM α) (Q : α → Machine → Prop)
    (E : Status → Prop) : Prop :=
  ∀ m, P m → match x m with
    | .ok a m' => Q a m'
    | .error e _ => E e

namespace Triple

variable {α β : Type} {P P' : Machine → Prop} {Q Q' : α → Machine → Prop}
  {R : β → Machine → Prop} {E E' : Status → Prop}

theorem pure' {a : α} (h : ∀ m, P m → Q a m) : Triple P (pure a) Q E := h

theorem throw' {e : Status} (h : E e) : Triple P (throw e : MachM α) Q E := fun _ _ => h

theorem bind' {x : MachM α} {f : α → MachM β} (hx : Triple P x Q E)
    (hf : ∀ a, Triple (Q a) (f a) R E) : Triple P (x >>= f) R E := by
  intro m hm
  have h := hx m hm
  show match EStateM.bind x f m with | .ok b m' => R b m' | .error e _ => E e
  unfold EStateM.bind
  rcases hxm : x m with ⟨a, m'⟩ | ⟨e, m'⟩ <;> rw [hxm] at h
  · exact hf a m' h
  · exact h

theorem ite' {c : Prop} [Decidable c] {x y : MachM α} (hx : c → Triple P x Q E)
    (hy : ¬c → Triple P y Q E) : Triple P (if c then x else y) Q E := by
  by_cases h : c
  · simpa only [if_pos h] using hx h
  · simpa only [if_neg h] using hy h

theorem get_bind {f : Machine → MachM α} (h : ∀ m₀, Triple (fun m => P m ∧ m = m₀) (f m₀) Q E) :
    Triple P (get >>= f) Q E := fun m hm => h m m ⟨hm, rfl⟩

theorem modify' {Q : Unit → Machine → Prop} {f : Machine → Machine} (h : ∀ m, P m → Q () (f m)) :
    Triple P (modify f) Q E := h

theorem mono {x : MachM α} (h : Triple P x Q E) (hP : ∀ m, P' m → P m)
    (hQ : ∀ a m, Q a m → Q' a m) (hE : ∀ e, E e → E' e) : Triple P' x Q' E' := by
  intro m hm
  have := h m (hP m hm)
  revert this
  rcases x m with ⟨a, m'⟩ | ⟨e, m'⟩
  · exact hQ a m'
  · exact hE e

theorem throw_bind {e : Status} {f : α → MachM β} (h : E e) : Triple P (throw e >>= f) R E :=
  fun _ _ => h

theorem lift' {Q : Unit → Machine → Prop} {f : Machine → Except Status Machine}
    (hok : ∀ m m', P m → f m = .ok m' → Q () m') (herr : ∀ m e, P m → f m = .error e → E e) :
    Triple P (Machine.lift f) Q E := by
  intro m hm
  unfold Machine.lift
  rcases h : f m with e | m'
  · exact herr m e hm h
  · exact hok m m' hm h

theorem argPop' {Q : Value → Machine → Prop}
    (hok : ∀ m v t, P m → m.stack.argPop = .ok (v, t) → Q v { m with stack := t })
    (herr : ∀ m e, P m → m.stack.argPop = .error e → E e) :
    Triple P Machine.argPop Q E := by
  intro m hm
  unfold Machine.argPop
  rcases h : m.stack.argPop with e | ⟨v, t⟩
  · exact herr m e hm h
  · exact hok m v t hm h

theorem ctlPop' {Q : Value → Machine → Prop}
    (hok : ∀ m v t, P m → m.stack.ctlPop = .ok (v, t) → Q v { m with stack := t })
    (herr : ∀ m e, P m → m.stack.ctlPop = .error e → E e) :
    Triple P Machine.ctlPop Q E := by
  intro m hm
  unfold Machine.ctlPop
  rcases h : m.stack.ctlPop with e | ⟨v, t⟩
  · exact herr m e hm h
  · exact hok m v t hm h

theorem dequeue' {Q : Value → Machine → Prop} {o : ByteOrder} {n : Nat}
    (hok : ∀ m v i, P m → inputDequeue o n m.input = .ok (v, i) → Q v { m with input := i })
    (herr : ∀ m e, P m → inputDequeue o n m.input = .error e → E e) :
    Triple P (Machine.dequeue o n) Q E := by
  intro m hm
  unfold Machine.dequeue
  rcases h : inputDequeue o n m.input with e | ⟨v, i⟩
  · exact herr m e hm h
  · exact hok m v i hm h

/-- A function of the stack, input or output module, by what it returns. -/
theorem lift_map' {Q : Unit → Machine → Prop} {σ : Type} {g : Machine → Except Status σ}
    {put : Machine → σ → Machine} (hok : ∀ m s, P m → g m = .ok s → Q () (put m s))
    (herr : ∀ m e, P m → g m = .error e → E e) :
    Triple P (Machine.lift fun m => (g m).map (put m)) Q E :=
  lift' (fun m m' hm h => by
      rcases hg : g m with e | s <;> rw [hg] at h <;> cases h
      exact hok m s hm hg)
    fun m e hm h => by
      rcases hg : g m with e | s <;> rw [hg] at h <;> cases h
      exact herr m _ hm hg

end Triple

end Grunt
