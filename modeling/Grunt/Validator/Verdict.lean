import Grunt.Validator.Native
import Grunt.Validator.Policy

/-!
# The validators' verdicts

Both validators run the verdict loop of `Grunt.Validator.Policy`, each with its own pad test.
A reference state maps to the loop's state (`RefState.verdict`, `refEntry_verdict`), so the
Grunt-based `VSC_table_validate` returns `CFE_SUCCESS` exactly on the tables `Accepted` with
every pad byte zero.  The locals of `VSA_table_validate` stand for the loop's state with the
AND test of `pad_is_valid` (`Simulates`), so the native validator returns `CFE_SUCCESS` exactly
on the tables `Accepted` with that test; it accepts every table `VSC_table_validate` accepts.
-/

namespace Grunt.Vsvf

open Grunt.Policy

/-! ## The reference validation -/

/-- What a reference state says about the verdict: the entries that passed, the flag and the
identifiers seen. -/
def RefState.verdict (r : RefState) : Policy.State := ⟨r.valid + r.unused, r.sawUnused, r.seen⟩

theorem inuseErrors_eq_nil (err : Number) (k : Nat) (e : VsEntry) (lo hi : Nat) (saw : Bool)
    (seen : List UInt8) :
    inuseErrors err k e lo hi saw seen = [] ↔ padZero e ∧
      (lo ≤ e.boundLow.val ∧ e.boundLow.val ≤ hi) ∧ (lo ≤ e.boundHigh.val ∧ e.boundHigh.val ≤ hi) ∧
      e.boundLow.val ≤ e.boundHigh.val ∧ saw = false ∧ e.parmId ∉ seen := by
  simp [inuseErrors, padZero]

/-- A step of the reference is a step of the verdict loop with the test that every pad byte be
zero. -/
theorem refEntry_verdict (err : Number) (k : Nat) (e : VsEntry) (r : RefState) :
    (refEntry err k e r).verdict = Policy.step padZero r.verdict e := by
  unfold refEntry
  by_cases h0 : e.parmId = 0x00
  · by_cases hz : (∀ i, e.pad i = 0) ∧ e.boundLow = 0 ∧ e.boundHigh = 0
    · rw [if_pos h0, if_pos hz, step_of_zeroed ⟨h0, hz⟩, RefState.verdict, RefState.verdict,
        Nat.add_assoc]
    · rw [if_pos h0, if_neg hz, step_of_not_inUse (fun h => hz h.2) (h0 ▸ not_inUse_zero)]
      rfl
  · by_cases hin : InUse e.parmId
    · have hok : inuseErrors err k e (rangeOf e.parmId).1 (rangeOf e.parmId).2 r.sawUnused r.seen = [] ↔
          WellFormed padZero e ∧ r.sawUnused = false ∧ e.parmId ∉ r.seen := by
        rw [inuseErrors_eq_nil, wellFormed_iff hin]
        simp only [and_assoc]
      rw [if_neg h0, if_pos (show (isAnimalId e.parmId || isDirectionId e.parmId) = true from hin),
        step_of_inUse hin]
      simp only [RefState.verdict, ← rangeOf.eq_1, ← hok]
      refine congrArg (fun n => Policy.State.mk n r.sawUnused (e.parmId :: r.seen)) ?_
      split_ifs <;> omega
    · rw [if_neg h0, if_neg (show ¬ (isAnimalId e.parmId || isDirectionId e.parmId) = true from hin),
        step_of_not_inUse (fun h => h0 h.1) hin]
      rfl

/-- The reference state after `k` entries maps to the loop's state after them. -/
theorem refStates_verdict (err : Number) (o : ByteOrder) (image : List UInt8) :
    ∀ k, (refStates err o image k).verdict =
      Policy.run padZero ((List.range k).map (vsTableEntry o image))
  | 0 => rfl
  | k + 1 => by
    rw [List.range_succ, List.map_append, List.map_singleton, run_append_singleton,
      ← refStates_verdict err o image k]
    exact refEntry_verdict _ _ _ _

/-- The reference finds a table image valid exactly when the policy accepts its entries with
every pad byte zero. -/
theorem refStates_accepted (err : Number) (o : ByteOrder) (image : List UInt8) :
    4 - (refStates err o image 4).valid - (refStates err o image 4).unused = 0 ↔
      Accepted padZero (vsTableEntries o image) := by
  have hv : (refStates err o image 4).valid + (refStates err o image 4).unused = _ :=
    congrArg Policy.State.passed (refStates_verdict err o image 4)
  have hle := refStates_counts err o image 4
  rw [← run_passed_eq_length_iff, vsTableEntries, vsTableNumEntries, ← hv, List.length_map,
    List.length_range]
  omega

end Grunt.Vsvf

namespace Grunt.Vsa

open Grunt.Vsvf Grunt.Policy

/-! ## The native validator -/

/-- The verdict of `inuse_entry_is_valid`: the AND test of the pad, the bounds, no unused entry
before, and no bit of the identifier in the mask. -/
theorem inuseEntryIsValid_fst (err : Number) (e : VsEntry) (i : Nat) (saw : Bool)
    (parmsSeen : UInt8) (min max : Number) :
    (inuseEntryIsValid err e i saw parmsSeen min max).1 = true ↔ padAndZero e ∧
      (min.val ≤ e.boundLow.val ∧ e.boundLow.val ≤ max.val) ∧
      (min.val ≤ e.boundHigh.val ∧ e.boundHigh.val ≤ max.val) ∧
      e.boundLow.val ≤ e.boundHigh.val ∧ saw = false ∧ parmsSeen &&& e.parmId = 0 := by
  simp only [inuseEntryIsValid, padIsValid, boundsAreValid, apply_ite Prod.fst, Bool.and_eq_true,
    decide_eq_true_eq, Bool.not_eq_true', bne_eq_false_iff_eq, Fin.le_iff_val_le_val, padAndZero,
    Bool.ite_eq_true_distrib, and_assoc, if_true_left, if_false_left, Bool.false_eq_true, imp_false,
    not_not]

/-- The locals of `VSA_table_validate` after `k` entries stand for the loop's state: the entries
that passed are those counted valid or unused, the flag, the mask as the identifiers seen, and
the status set once an entry fails. -/
structure Simulates (k : Nat) (s : VsaState) (p : Policy.State) : Prop where
  passed : s.countValid + s.countUnused = p.passed
  total : s.countValid + s.countUnused + s.countInvalid = k
  saw : s.sawValidUnusedFlag = p.sawZeroed
  seen : ∀ q, InUse q → (s.parmsSeen &&& q = 0 ↔ q ∉ p.seen)
  result : s.result = if s.countInvalid = 0 then cfeSuccess else vsaTableInvalidResult

theorem Simulates.init : Simulates 0 VsaState.init Policy.State.init :=
  ⟨rfl, rfl, rfl, fun _ _ => ⟨fun _ => List.not_mem_nil _,
    fun _ => (uint8_eq_zero_iff _).mpr (by simp [VsaState.init])⟩, rfl⟩

section Step

variable {k : Nat} {s : VsaState} {p : Policy.State}

/-- An entry found invalid, with no identifier remembered. -/
theorem Simulates.invalid (h : Simulates k s p) (evs : List Event) :
    Simulates (k + 1)
      { s with
        countInvalid := s.countInvalid + 1
        result := vsaTableInvalidResult
        events := s.events ++ evs } p :=
  ⟨h.passed, by have := h.total; dsimp only; omega, h.saw, h.seen,
    (if_neg (Nat.succ_ne_zero _)).symm⟩

/-- The in-use cases of the `switch`, with the range of the entry's group. -/
theorem Simulates.inuse (h : Simulates k s p) (err : Number) {e : VsEntry}
    (hin : InUse e.parmId) {min max : Number} (hr : rangeOf e.parmId = (min.val, max.val)) :
    Simulates (k + 1) (inuseCase err s k e min max) (Policy.step padAndZero p e) := by
  have hok : (inuseEntryIsValid err e k s.sawValidUnusedFlag s.parmsSeen min max).1 = true ↔
      WellFormed padAndZero e ∧ p.sawZeroed = false ∧ e.parmId ∉ p.seen := by
    rw [inuseEntryIsValid_fst, wellFormed_iff hin, hr, h.saw, h.seen _ hin]
    simp only [and_assoc]
  have hseen : ∀ q, InUse q →
      ((s.parmsSeen ||| e.parmId) &&& q = 0 ↔ q ∉ e.parmId :: p.seen) := fun q hq => by
    simp only [or_and_eq_zero, h.seen q hq, inuse_and_eq_zero hin hq, List.mem_cons, not_or]
    exact and_comm.trans (and_congr_left' (by rw [ne_comm]))
  have htotal := h.total
  rw [step_of_inUse hin]
  by_cases hw : WellFormed padAndZero e ∧ p.sawZeroed = false ∧ e.parmId ∉ p.seen
  · -- valid: one more valid entry
    refine ⟨?_, ?_, h.saw, hseen, ?_⟩ <;>
      simp only [inuseCase, hok.mpr hw, if_true, if_pos hw, ← h.passed, h.result]
    · omega
    · omega
  · -- invalid: one more invalid entry, and the status set
    have hv := Bool.eq_false_iff.mpr (mt hok.mp hw)
    refine ⟨?_, ?_, h.saw, hseen, ?_⟩ <;>
      simp only [inuseCase, hv, Bool.false_eq_true, if_false, if_neg hw]
    · exact h.passed
    · omega
    · exact (if_neg (Nat.succ_ne_zero _)).symm

/-- One pass of the loop of `VSA_table_validate` is a step of the verdict loop with the AND test
of `pad_is_valid`. -/
theorem Simulates.step (h : Simulates k s p) (err : Number) (e : VsEntry) :
    Simulates (k + 1) (vsaEntry err s k e) (Policy.step padAndZero p e) := by
  unfold vsaEntry
  by_cases h0 : e.parmId = 0x00
  · -- `VSA_PARM_UNUSED`
    have hzero : e.pad 0 = 0 ∧ e.pad 1 = 0 ∧ e.pad 2 = 0 ∧ e.boundLow = 0 ∧ e.boundHigh = 0 ↔
        Zeroed e := by
      rw [Zeroed, forall_pad_eq_zero, and_assoc, and_assoc]
      exact (and_iff_right h0).symm
    by_cases hz : Zeroed e
    · simp only [if_pos h0, unusedEntryIsValid, hzero, if_pos hz, ↓reduceIte, step_of_zeroed hz]
      exact ⟨by rw [← h.passed]; rfl, by have := h.total; dsimp only; omega, rfl, h.seen, h.result⟩
    · simp only [if_pos h0, unusedEntryIsValid, hzero, if_neg hz, Bool.false_eq_true, ↓reduceIte,
        step_of_not_inUse hz (h0 ▸ not_inUse_zero)]
      exact h.invalid _
  · by_cases hin : InUse e.parmId
    · -- the animal and direction cases
      simp only [if_neg h0]
      by_cases ha : isAnimalId e.parmId = true
      · rw [if_pos ha]
        exact h.inuse err hin (by rw [rangeOf, if_pos ha]; rfl)
      · have hd : isDirectionId e.parmId = true := by
          simpa only [InUse, ha, Bool.false_or] using hin
        rw [if_neg ha, if_pos hd]
        exact h.inuse err hin (by rw [rangeOf, if_neg ha]; rfl)
    · -- `default`
      have hn : isAnimalId e.parmId = false ∧ isDirectionId e.parmId = false := by
        simpa only [InUse, Bool.not_eq_true, Bool.or_eq_false_iff] using hin
      simp only [if_neg h0, hn.1, hn.2, Bool.false_eq_true, if_false,
        step_of_not_inUse (fun hz => h0 hz.1) hin]
      exact h.invalid _

end Step

theorem vsaStates_simulates (err : Number) (o : ByteOrder) (image : List UInt8) :
    ∀ k, Simulates k (vsaStates err o image k)
      (Policy.run padAndZero ((List.range k).map (vsTableEntry o image)))
  | 0 => Simulates.init
  | k + 1 => by
    rw [List.range_succ, List.map_append, List.map_singleton, run_append_singleton]
    exact (vsaStates_simulates err o image k).step err _

/-- The native loop finds no invalid entry exactly when the policy accepts the entries with the
AND test of `pad_is_valid`. -/
theorem vsaStates_accepted (err : Number) (o : ByteOrder) (image : List UInt8) :
    (vsaStates err o image 4).countInvalid = 0 ↔ Accepted padAndZero (vsTableEntries o image) := by
  have h := vsaStates_simulates err o image 4
  have htotal := h.total
  rw [← run_passed_eq_length_iff, vsTableEntries, vsTableNumEntries, ← h.passed, List.length_map,
    List.length_range]
  omega

/-! ## The statuses -/

/-- `VSC_table_validate` returns `CFE_SUCCESS` exactly on the table images whose entries the
policy accepts with every pad byte zero, and its invalid result on every other image. -/
theorem vscTableValidate_status (o : ByteOrder) (C : Nat) (hC : 50 ≤ C) (info err : Number)
    (image : List UInt8) (vm : Vm) :
    (vscTableValidate o C info err image vm).1 =
      if Accepted padZero (vsTableEntries o image) then cfeSuccess else vscTableInvalidResult := by
  rw [(vscTableValidate_reference o C hC info err image vm).1, referenceValidate_refStates]
  simp only [decide_eq_true_eq]
  exact if_congr (refStates_accepted err o image) rfl rfl

/-- `VSC_table_validate` on the all-zero image, the default table of `VSB_Prm_default.c`. -/
theorem vscTableValidate_status_zero :
    50 ≤ 50 ∧ (vscTableValidate .little 50 0 0 (List.replicate 48 0) (Vm.boot 50)).1 =
      if Accepted padZero (vsTableEntries .little (List.replicate 48 0)) then cfeSuccess
        else vscTableInvalidResult :=
  ⟨le_refl 50, vscTableValidate_status .little 50 (le_refl 50) 0 0 (List.replicate 48 0) (Vm.boot 50)⟩

/-- `VSA_table_validate` returns `CFE_SUCCESS` exactly on the table images whose entries the
policy accepts with the AND test of `pad_is_valid`, and its invalid result on every other
image. -/
theorem vsaTableValidate_status (o : ByteOrder) (info err : Number) (image : List UInt8) :
    (vsaTableValidate o info err image).2 =
      if Accepted padAndZero (vsTableEntries o image) then cfeSuccess else vsaTableInvalidResult := by
  rw [vsaTableValidate_vsaStates, (vsaStates_simulates err o image 4).result]
  exact if_congr (vsaStates_accepted err o image) rfl rfl

/-- In a table the policy accepts with every pad byte zero, `pad_is_valid` judges every in-use
entry as the reference does. -/
theorem padsAgree_of_accepted {o : ByteOrder} {image : List UInt8}
    (h : Accepted padZero (vsTableEntries o image)) : PadsAgree o image := by
  obtain ⟨us, zs, hes, hwf, -, hz⟩ := h
  intro i hi hin
  have hmem : vsTableEntry o image i ∈ us ++ zs := hes ▸ List.mem_map_of_mem _ (List.mem_range.mpr hi)
  rcases List.mem_append.mp hmem with hu | hz'
  · have hpad := (hwf _ hu).2.1
    exact ⟨fun _ => hpad, fun _ => padAndZero_of_padZero hpad⟩
  · exact absurd ((hz _ hz').1 ▸ hin) not_inUse_zero

theorem vscTableInvalidResult_ne : vscTableInvalidResult ≠ cfeSuccess := by decide

/-- On every table image `VSC_table_validate` accepts, `VSA_table_validate` returns
`CFE_SUCCESS` too and sends the same events. -/
theorem vsc_success_vsa_same (o : ByteOrder) (C : Nat) (hC : 50 ≤ C) (info err : Number)
    (image : List UInt8) (vm : Vm) (h : (vscTableValidate o C info err image vm).1 = cfeSuccess) :
    (vsaTableValidate o info err image).2 = cfeSuccess ∧
      (vscTableValidate o C info err image vm).2.events =
        vm.events ++ (vsaTableValidate o info err image).1 := by
  obtain ⟨hst, hev⟩ := vscTableValidate_reference o C hC info err image vm
  have hvalid : (referenceValidate info err (vsTableEntries o image)).2 = true := by
    by_contra hn
    rw [hst, if_neg hn] at h
    exact vscTableInvalidResult_ne h
  have hacc := (refStates_accepted err o image).mp
    (by simpa only [referenceValidate_refStates, decide_eq_true_eq] using hvalid)
  rw [vsaTableValidate_reference o info err image (padsAgree_of_accepted hacc), if_pos hvalid]
  exact ⟨rfl, hev⟩

/-- A valid Ape entry with bounds `0x10` and `0x1000`, a valid North entry with bounds
`0x10000` and `0x1000000`, then two zeroed unused entries. -/
def apeNorthImage : List UInt8 :=
  [0x01, 0x00, 0x00, 0x00, 0x10, 0x00, 0x00, 0x00, 0x00, 0x10, 0x00, 0x00,
    0x10, 0x00, 0x00, 0x00, 0x00, 0x00, 0x01, 0x00, 0x00, 0x00, 0x00, 0x01] ++
    List.replicate 24 0x00

/-- `apeNorthImage` is accepted by both validators, with the same events. -/
theorem vsc_success_vsa_same_apeNorth :
    50 ≤ 50 ∧ (vscTableValidate .little 50 0 0 apeNorthImage (Vm.boot 50)).1 = cfeSuccess ∧
      (vsaTableValidate .little 0 0 apeNorthImage).2 = cfeSuccess ∧
      (vscTableValidate .little 50 0 0 apeNorthImage (Vm.boot 50)).2.events =
        (Vm.boot 50).events ++ (vsaTableValidate .little 0 0 apeNorthImage).1 := by
  have h : (vscTableValidate .little 50 0 0 apeNorthImage (Vm.boot 50)).1 = cfeSuccess := by
    rw [(vscTableValidate_reference .little 50 (le_refl 50) 0 0 _ (Vm.boot 50)).1]
    decide
  exact ⟨le_refl 50, h, vsc_success_vsa_same .little 50 (le_refl 50) 0 0 _ (Vm.boot 50) h⟩

end Grunt.Vsa
