import Grunt.Validator.Reference

/-!
# What the validators accept

The table policy of `vs_tablestruct.h` and of the two validators, stated once over a list of
entries and without events.  A table is accepted when it is a run of well-formed in-use
entries naming distinct parameters followed by a run of zeroed unused entries (`Accepted`).
The pad test is a parameter `padOk`: the reference validation asks every pad byte to be zero
(`padZero`), `pad_is_valid` asks the bitwise AND of the three to be zero (`padAndZero`).

`run` is the loop both validators share, cut down to what decides the verdict: how many
entries passed, whether a zeroed unused entry has been seen, and the in-use identifiers seen so
far.  Every entry passes exactly when the table is accepted (`run_passed_eq_length_iff`), and
this also decides `Accepted`.  `Grunt.Validator.Verdict` shows that the loop of each validator
is this one.
-/

namespace Grunt.Policy

open Grunt.Vsvf

/-- The identifier of an in-use entry: an animal or a direction. -/
def InUse (p : UInt8) : Prop := (isAnimalId p || isDirectionId p) = true

instance (p : UInt8) : Decidable (InUse p) := inferInstanceAs (Decidable (_ = true))

/-- The bounds `[min, max]` of the group of an in-use identifier. -/
def rangeOf (p : UInt8) : Nat × Nat :=
  if isAnimalId p then (0x00000010, 0x00001000) else (0x00010000, 0x01000000)

/-- A zeroed unused entry. -/
def Zeroed (e : VsEntry) : Prop :=
  e.parmId = 0x00 ∧ (∀ i, e.pad i = 0) ∧ e.boundLow = 0 ∧ e.boundHigh = 0

instance (e : VsEntry) : Decidable (Zeroed e) := inferInstanceAs (Decidable (_ ∧ _))

/-- A well-formed in-use entry whose pad passes `padOk`: its bounds are ordered and lie in the
range of its group. -/
def WellFormed (padOk : VsEntry → Prop) (e : VsEntry) : Prop :=
  InUse e.parmId ∧ padOk e ∧ (rangeOf e.parmId).1 ≤ e.boundLow.val ∧
    e.boundLow.val ≤ e.boundHigh.val ∧ e.boundHigh.val ≤ (rangeOf e.parmId).2

instance (padOk : VsEntry → Prop) [DecidablePred padOk] (e : VsEntry) :
    Decidable (WellFormed padOk e) :=
  inferInstanceAs (Decidable (_ ∧ _))

/-- The tables the validation accepts: well-formed in-use entries with distinct identifiers,
then zeroed unused entries only. -/
def Accepted (padOk : VsEntry → Prop) (es : List VsEntry) : Prop :=
  ∃ us zs, es = us ++ zs ∧ (∀ e ∈ us, WellFormed padOk e) ∧ (us.map VsEntry.parmId).Nodup ∧
    ∀ e ∈ zs, Zeroed e

/-- The reference's pad test: every pad byte is zero. -/
def padZero (e : VsEntry) : Prop := ∀ i, e.pad i = 0

instance (e : VsEntry) : Decidable (padZero e) := inferInstanceAs (Decidable (∀ _, _))

/-- The pad test of `pad_is_valid`: the bitwise AND of the pad bytes is zero. -/
def padAndZero (e : VsEntry) : Prop := e.pad 0 &&& e.pad 1 &&& e.pad 2 = 0x00

instance (e : VsEntry) : Decidable (padAndZero e) := inferInstanceAs (Decidable (_ = _))

theorem not_inUse_zero : ¬ InUse 0x00 := by decide

theorem WellFormed.not_zeroed {padOk : VsEntry → Prop} {e : VsEntry} (h : WellFormed padOk e) :
    ¬ Zeroed e :=
  fun hz => not_inUse_zero (hz.1 ▸ h.1)

/-- The validators' test of the bounds of an in-use entry, each bound in the range of its group
and the two in order, is the one of `WellFormed`. -/
theorem wellFormed_iff {padOk : VsEntry → Prop} {e : VsEntry} (h : InUse e.parmId) :
    WellFormed padOk e ↔ padOk e ∧
      ((rangeOf e.parmId).1 ≤ e.boundLow.val ∧ e.boundLow.val ≤ (rangeOf e.parmId).2) ∧
      ((rangeOf e.parmId).1 ≤ e.boundHigh.val ∧ e.boundHigh.val ≤ (rangeOf e.parmId).2) ∧
      e.boundLow.val ≤ e.boundHigh.val := by
  simp only [WellFormed, h, true_and]
  exact and_congr_right fun _ => by omega

theorem padAndZero_of_padZero {e : VsEntry} (h : padZero e) : padAndZero e := by
  rw [padAndZero, h 0, h 1, h 2]
  rfl

/-- A weaker pad test accepts more tables. -/
theorem Accepted.mono {padOk padOk' : VsEntry → Prop} (hpad : ∀ e, padOk e → padOk' e)
    {es : List VsEntry} (h : Accepted padOk es) : Accepted padOk' es :=
  let ⟨us, zs, hes, hwf, hnd, hz⟩ := h
  ⟨us, zs, hes, fun e he => ⟨(hwf e he).1, hpad e (hwf e he).2.1, (hwf e he).2.2⟩, hnd, hz⟩

/-- A table may grow by a zeroed entry, or by a well-formed in-use entry with a new identifier
when no zeroed entry precedes it. -/
theorem accepted_append_singleton {padOk : VsEntry → Prop} {es : List VsEntry} {e : VsEntry} :
    Accepted padOk (es ++ [e]) ↔ Accepted padOk es ∧ (Zeroed e ∨
      (WellFormed padOk e ∧ (∀ x ∈ es, ¬ Zeroed x) ∧ e.parmId ∉ es.map VsEntry.parmId)) := by
  constructor
  · rintro ⟨us, zs, hes, hwf, hnd, hz⟩
    rcases List.eq_nil_or_concat zs with rfl | ⟨zs, z, rfl⟩
    · -- `e` is the last in-use entry
      rw [List.append_nil] at hes
      subst hes
      simp only [List.forall_mem_append, List.forall_mem_singleton, List.map_append,
        List.nodup_append, List.map_cons, List.map_nil, List.nodup_singleton,
        List.disjoint_singleton] at hwf hnd
      exact ⟨⟨es, [], by simp, hwf.1, hnd.1, by simp⟩,
        .inr ⟨hwf.2, fun x hx => (hwf.1 x hx).not_zeroed, hnd.2.2⟩⟩
    · -- `e` is the last zeroed entry
      rw [List.concat_eq_append] at hes hz
      obtain ⟨rfl, he⟩ := List.append_inj' (hes.trans (List.append_assoc ..).symm) rfl
      obtain rfl : e = z := List.singleton_inj.mp he
      exact ⟨⟨us, zs, rfl, hwf, hnd, fun x hx => hz x (by simp [hx])⟩, .inl (hz e (by simp))⟩
  · rintro ⟨⟨us, zs, rfl, hwf, hnd, hz⟩, hze | ⟨hwfe, hnz, hfresh⟩⟩
    · exact ⟨us, zs ++ [e], by simp, hwf, hnd,
        List.forall_mem_append.mpr ⟨hz, List.forall_mem_singleton.mpr hze⟩⟩
    · obtain rfl : zs = [] :=
        List.eq_nil_iff_forall_not_mem.mpr fun x hx => hnz x (by simp [hx]) (hz x hx)
      refine ⟨us ++ [e], [], by simp,
        List.forall_mem_append.mpr ⟨hwf, List.forall_mem_singleton.mpr hwfe⟩, ?_, by simp⟩
      simp only [List.map_append, List.append_nil] at hfresh ⊢
      exact hnd.append (List.nodup_singleton _) (List.disjoint_singleton.mpr hfresh)

/-! ## The verdict loop -/

/-- What the loop carries from entry to entry, as far as the verdict goes. -/
structure State where
  passed : Nat
  sawZeroed : Bool
  seen : List UInt8
  deriving DecidableEq

/-- Before the first entry. -/
def State.init : State := ⟨0, false, []⟩

section Loop

variable (padOk : VsEntry → Prop) [DecidablePred padOk]

/-- One entry: it passes when it is zeroed, or when it is a well-formed in-use entry that
follows no zeroed entry and names no earlier identifier.  An in-use identifier is remembered
whatever the verdict. -/
def step (s : State) (e : VsEntry) : State where
  passed := if Zeroed e ∨ (WellFormed padOk e ∧ s.sawZeroed = false ∧ e.parmId ∉ s.seen) then
    s.passed + 1 else s.passed
  sawZeroed := s.sawZeroed || decide (Zeroed e)
  seen := if InUse e.parmId then e.parmId :: s.seen else s.seen

variable {padOk} {s : State} {e : VsEntry}

theorem step_of_zeroed (h : Zeroed e) : step padOk s e = ⟨s.passed + 1, true, s.seen⟩ := by
  have hn : ¬ InUse e.parmId := h.1 ▸ not_inUse_zero
  simp [step, h, hn]

theorem step_of_inUse (h : InUse e.parmId) :
    step padOk s e = ⟨if WellFormed padOk e ∧ s.sawZeroed = false ∧ e.parmId ∉ s.seen then
      s.passed + 1 else s.passed, s.sawZeroed, e.parmId :: s.seen⟩ := by
  have hz : ¬ Zeroed e := fun hz => not_inUse_zero (hz.1 ▸ h)
  simp [step, hz, h]

/-- An entry neither zeroed nor in use changes nothing. -/
theorem step_of_not_inUse (hz : ¬ Zeroed e) (h : ¬ InUse e.parmId) : step padOk s e = s := by
  have hw : ¬ WellFormed padOk e := fun hw => h hw.1
  simp [step, hz, hw, h]

variable (padOk)

/-- The loop over a table. -/
def run (es : List VsEntry) : State := es.foldl (step padOk) State.init

@[simp] theorem run_nil : run padOk [] = State.init := rfl

@[simp] theorem run_append_singleton (es : List VsEntry) (e : VsEntry) :
    run padOk (es ++ [e]) = step padOk (run padOk es) e :=
  List.foldl_concat ..

theorem run_passed_le (es : List VsEntry) : (run padOk es).passed ≤ es.length := by
  induction es using List.reverseRecOn with
  | nil => exact le_refl 0
  | append_singleton es e ih =>
    simp only [run_append_singleton, step, List.length_append, List.length_singleton]
    split_ifs <;> omega

/-- The flag records whether a zeroed entry has been seen. -/
theorem run_sawZeroed (es : List VsEntry) : (run padOk es).sawZeroed = true ↔ ∃ x ∈ es, Zeroed x := by
  induction es using List.reverseRecOn with
  | nil => simp [State.init]
  | append_singleton es e ih => simp [step, ih, or_and_right, exists_or]

/-- The seen list holds the in-use identifiers of the entries so far. -/
theorem mem_run_seen (es : List VsEntry) (q : UInt8) :
    q ∈ (run padOk es).seen ↔ ∃ x ∈ es, InUse x.parmId ∧ x.parmId = q := by
  induction es using List.reverseRecOn with
  | nil => simp [State.init]
  | append_singleton es e ih =>
    simp only [run_append_singleton, step, List.mem_append, List.mem_singleton, or_and_right,
      exists_or, exists_eq_left, ← ih]
    split_ifs with h <;> simp [h, eq_comm, or_comm]

/-- The loop's test on a new entry is the policy's, stated over the entries before it. -/
theorem step_passes_iff (es : List VsEntry) (e : VsEntry) :
    (Zeroed e ∨ (WellFormed padOk e ∧ (run padOk es).sawZeroed = false ∧
        e.parmId ∉ (run padOk es).seen)) ↔
      (Zeroed e ∨ (WellFormed padOk e ∧ (∀ x ∈ es, ¬ Zeroed x) ∧
        e.parmId ∉ es.map VsEntry.parmId)) := by
  refine or_congr_right (and_congr_right fun hwf => and_congr ?_ ?_)
  · rw [← Bool.not_eq_true, run_sawZeroed, not_exists]
    simp only [not_and]
  · simp only [mem_run_seen, List.mem_map, not_exists, not_and]
    exact forall_congr' fun x => imp_congr_right fun _ =>
      ⟨fun h hx => h (hx ▸ hwf.1) hx, fun h _ => h⟩

/-- Every entry of a table passes exactly when the table is accepted. -/
theorem run_passed_eq_length_iff (es : List VsEntry) :
    (run padOk es).passed = es.length ↔ Accepted padOk es := by
  induction es using List.reverseRecOn with
  | nil => exact ⟨fun _ => ⟨[], [], rfl, by simp, List.nodup_nil, by simp⟩, fun _ => rfl⟩
  | append_singleton es e ih =>
    have hle := run_passed_le padOk es
    rw [accepted_append_singleton, ← ih, ← step_passes_iff, run_append_singleton,
      List.length_append, List.length_singleton, step]
    dsimp only
    split_ifs with h
    · simp [h]
    · simp only [h, and_false, iff_false]
      omega

instance (es : List VsEntry) : Decidable (Accepted padOk es) :=
  decidable_of_iff _ (run_passed_eq_length_iff padOk es)

end Loop

end Grunt.Policy
