import Grunt.Validator.Main

/-!
# The native validator and `VSC_table_validate`

`VSA_table_validate` (`vsa_table.c`) validates the same table image in C, and
`VSC_table_validate` (`vsc_table.c`) turns the verdict of the run of `vsvf_program` into a cFE
status.  Both are translated here and compared through the reference validation.

The native loop keeps the identifiers of the in-use entries as the bits of `parms_seen`, and
its locals stand for the reference state entry by entry (`Agrees`, `Agrees.step`).  The one
test in which it departs from the reference is `pad_is_valid`, which passes an entry whose
three pad bytes have a zero bitwise AND.  On every image whose in-use entries it judges as the
reference does, the two validators send the same events and return the same status
(`vsaTableValidate_eq_vsc`); an entry with pad bytes `1, 0, 0` tells them apart.

`CFE_SUCCESS` and the event types are cFE's.  The status is an `Int` with `cfeSuccess = 0`,
and the two event types are the parameters `info` and `err`, as they are of `vsvf_program`.
-/

namespace Grunt.Vsa

open Grunt.Vsvf

/-! ## `vsa_table.c` -/

/-- `CFE_SUCCESS`. -/
def cfeSuccess : Int := 0

/-- `VSA_TABLE_INVALID_RESULT`: `~CFE_SUCCESS`, in two's complement. -/
def vsaTableInvalidResult : Int := -cfeSuccess - 1

/-- `parm_id_to_string`. -/
def parmIdToString (parmId : UInt8) : String :=
  if parmId = 0x00 then "Unused" else if parmId = 0x01 then "Ape"
  else if parmId = 0x02 then "Bat" else if parmId = 0x04 then "Cat"
  else if parmId = 0x08 then "Dog" else if parmId = 0x10 then "North"
  else if parmId = 0x20 then "South" else if parmId = 0x40 then "East"
  else if parmId = 0x80 then "West" else "Invalid"

/-- The `CFE_EVS_EventType_ERROR` event `eid` about entry `i` (from `0`):
`"Table entry %u parm %s"` followed by the rest of its format. -/
def entryError (err eid : Number) (i : Nat) (parmId : UInt8) (msg : String) : Event :=
  ⟨eid.val, err.val, "Table entry ".toList ++ decimal (i + 1) ++ " parm ".toList ++
    (parmIdToString parmId).toList ++ msg.toList⟩

/-- `pad_is_valid`: its verdict on entry `i`, and the events it sends. -/
def padIsValid (err : Number) (e : VsEntry) (i : Nat) : Bool × List Event :=
  if e.pad 0 &&& e.pad 1 &&& e.pad 2 = 0x00 then (true, [])
  else (false, [entryError err vsTblPadErrEid i e.parmId " padding not zeroed"])

/-- `bounds_are_valid`. -/
def boundsAreValid (err : Number) (e : VsEntry) (i : Nat) (min max : Number) :
    Bool × List Event :=
  let low := decide (min ≤ e.boundLow ∧ e.boundLow ≤ max)
  let high := decide (min ≤ e.boundHigh ∧ e.boundHigh ≤ max)
  let order := decide (e.boundLow ≤ e.boundHigh)
  (low && high && order,
    (if low then [] else [entryError err vsTblLbndErrEid i e.parmId " invalid low bound"]) ++
    (if high then [] else [entryError err vsTblHbndErrEid i e.parmId " invalid high bound"]) ++
    (if order then [] else [entryError err vsTblOrderErrEid i e.parmId " invalid bound order"]))

/-- `unused_entry_is_valid`. -/
def unusedEntryIsValid (err : Number) (e : VsEntry) (i : Nat) : Bool × List Event :=
  if e.pad 0 = 0 ∧ e.pad 1 = 0 ∧ e.pad 2 = 0 ∧ e.boundLow = 0 ∧ e.boundHigh = 0 then (true, [])
  else (false, [entryError err vsTblZeroErrEid i e.parmId " not zeroed"])

/-- `inuse_entry_is_valid`. -/
def inuseEntryIsValid (err : Number) (e : VsEntry) (i : Nat) (sawValidUnusedFlag : Bool)
    (parmsSeen : UInt8) (min max : Number) : Bool × List Event :=
  let pad := padIsValid err e i
  let bounds := boundsAreValid err e i min max
  let redef := parmsSeen &&& e.parmId != 0
  (pad.1 && bounds.1 && !sawValidUnusedFlag && !redef,
    pad.2 ++ bounds.2 ++
    (if sawValidUnusedFlag then
      [entryError err vsTblExtraErrEid i e.parmId " follows an unused entry"] else []) ++
    (if redef then [entryError err vsTblRedefErrEid i e.parmId " redefines earlier entry"]
      else []))

/-- The locals `VSA_table_validate` carries from one entry to the next, and the events sent. -/
structure VsaState where
  sawValidUnusedFlag : Bool
  parmsSeen : UInt8
  result : Int
  countUnused : Nat
  countValid : Nat
  countInvalid : Nat
  events : List Event
  deriving DecidableEq

/-- The locals as `VSA_table_validate` initialises them. -/
def VsaState.init : VsaState := ⟨false, 0, cfeSuccess, 0, 0, 0, []⟩

/-- The in-use cases of the `switch`, with the range `[min, max]` of their group: the check,
the counts, and the identifier remembered whatever the verdict. -/
def inuseCase (err : Number) (st : VsaState) (i : Nat) (e : VsEntry) (min max : Number) :
    VsaState :=
  let r := inuseEntryIsValid err e i st.sawValidUnusedFlag st.parmsSeen min max
  { st with
    countValid := if r.1 then st.countValid + 1 else st.countValid
    countInvalid := if r.1 then st.countInvalid else st.countInvalid + 1
    result := if r.1 then st.result else vsaTableInvalidResult
    parmsSeen := st.parmsSeen ||| e.parmId
    events := st.events ++ r.2 }

/-- One pass of the loop of `VSA_table_validate`: the `switch` on the identifier of entry `i`.
The animal and direction cases are those of `isAnimalId` and `isDirectionId`. -/
def vsaEntry (err : Number) (st : VsaState) (i : Nat) (e : VsEntry) : VsaState :=
  if e.parmId = 0x00 then
    let r := unusedEntryIsValid err e i
    if r.1 then
      { st with
        countUnused := st.countUnused + 1
        sawValidUnusedFlag := true
        events := st.events ++ r.2 }
    else
      { st with
        countInvalid := st.countInvalid + 1
        result := vsaTableInvalidResult
        events := st.events ++ r.2 }
  else if isAnimalId e.parmId then inuseCase err st i e vsParmAnimalMin vsParmAnimalMax
  else if isDirectionId e.parmId then inuseCase err st i e vsParmDirectionMin vsParmDirectionMax
  else
    { st with
      countInvalid := st.countInvalid + 1
      result := vsaTableInvalidResult
      events := st.events ++ [⟨vsTblParmErrEid.val, err.val,
        "Table entry ".toList ++ decimal (i + 1) ++ " invalid Parm ID".toList⟩] }

/-- `VSA_table_validate` on a table image: the events it sends, the INFORMATION line last, and
the status it returns. -/
def vsaTableValidate (o : ByteOrder) (info err : Number) (image : List UInt8) :
    List Event × Int :=
  let st := (List.range vsTableNumEntries).foldl
    (fun st i => vsaEntry err st i (vsTableEntry o image i)) VsaState.init
  (st.events ++ [⟨vsValidationInfEid.val, info.val, "Table image entries: ".toList ++
      decimal st.countValid ++ " valid, ".toList ++ decimal st.countInvalid ++
      " invalid, ".toList ++ decimal st.countUnused ++ " unused".toList⟩],
    st.result)

/-! ## `vsc_table.c` -/

/-- `VSC_TABLE_INVALID_RESULT`: `~CFE_SUCCESS`. -/
def vscTableInvalidResult : Int := -cfeSuccess - 1

/-- `VSC_table_validate`: the status it returns, and the interpreter's globals after the run of
`vsvf_program` on the image (`sizeof(vsc_table_t)` is `48`), whose events are those the run
sent. -/
def vscTableValidate (o : ByteOrder) (C : Nat) (info err : Number) (image : List UInt8) (vm : Vm) :
    Int × Vm :=
  let run := gruntRun o C (vsvfProgram info err) vsvfNumInstructions (some image) 48 vsvfStrings
    vsvfNumStrings vm
  (if run.1 = .haltTrue then cfeSuccess else vscTableInvalidResult, run.2)

/-- `VSC_table_validate` returns `CFE_SUCCESS` exactly when the reference validation finds the
image valid, and sends the reference's events. -/
theorem vscTableValidate_reference (o : ByteOrder) (C : Nat) (hC : 50 ≤ C) (info err : Number)
    (image : List UInt8) (vm : Vm) :
    (vscTableValidate o C info err image vm).1 =
        (if (referenceValidate info err (vsTableEntries o image)).2 then cfeSuccess
          else vscTableInvalidResult) ∧
      (vscTableValidate o C info err image vm).2.events =
        vm.events ++ (referenceValidate info err (vsTableEntries o image)).1 := by
  obtain ⟨vm', hrun, hev⟩ := gruntRun_vsvf o C hC info err image vm
  unfold vscTableValidate
  rw [show vsvfNumStrings = 24 from rfl, hrun]
  cases (referenceValidate info err (vsTableEntries o image)).2 <;> exact ⟨rfl, hev⟩

/-! ## The verdicts and their events -/

section Verdicts

variable (err : Number) (e : VsEntry) (i : Nat)

theorem ite_nil_eq_nil (b : Bool) (x : Event) : (if b then [] else [x]) = [] ↔ b = true := by
  cases b <;> simp

theorem ite_single_eq_nil (b : Bool) (x : Event) : (if b then [x] else []) = [] ↔ b = false := by
  cases b <;> simp

/-- `pad_is_valid` fails exactly when it sends its event. -/
theorem padIsValid_iff : (padIsValid err e i).1 = true ↔ (padIsValid err e i).2 = [] := by
  unfold padIsValid
  split <;> simp

/-- `bounds_are_valid` fails exactly when it sends an event. -/
theorem boundsAreValid_iff (min max : Number) :
    (boundsAreValid err e i min max).1 = true ↔ (boundsAreValid err e i min max).2 = [] := by
  simp only [boundsAreValid, Bool.and_eq_true, List.append_eq_nil, ite_nil_eq_nil, and_assoc]

/-- `inuse_entry_is_valid` fails exactly when it sends an event. -/
theorem inuseEntryIsValid_iff (saw : Bool) (parmsSeen : UInt8) (min max : Number) :
    (inuseEntryIsValid err e i saw parmsSeen min max).1 = true ↔
      (inuseEntryIsValid err e i saw parmsSeen min max).2 = [] := by
  simp only [inuseEntryIsValid, Bool.and_eq_true, Bool.not_eq_true', List.append_eq_nil,
    padIsValid_iff, boundsAreValid_iff, ite_single_eq_nil, and_assoc]

end Verdicts

/-! ## The seen-identifier mask -/

theorem uint8_or_toNat (a b : UInt8) : (a ||| b).toNat = a.toNat ||| b.toNat :=
  BitVec.toNat_or ..

theorem nat_or_eq_zero {x y : Nat} : x ||| y = 0 ↔ x = 0 ∧ y = 0 := by
  refine ⟨fun h => ⟨Nat.eq_of_testBit_eq fun j => ?_, Nat.eq_of_testBit_eq fun j => ?_⟩,
    fun ⟨hx, hy⟩ => by rw [hx, hy]; rfl⟩ <;>
  · have hj := congrArg (Nat.testBit · j) h
    simp only [Nat.testBit_or, Nat.zero_testBit, Bool.or_eq_false_iff] at hj
    simp only [hj, Nat.zero_testBit]

/-- `parms_seen |= parm_id` adds the bits of `parm_id` to the mask. -/
theorem or_and_eq_zero (m a q : UInt8) : (m ||| a) &&& q = 0 ↔ m &&& q = 0 ∧ a &&& q = 0 := by
  simp only [uint8_eq_zero_iff, UInt8.and_toNat, uint8_or_toNat, Nat.and_distrib_right,
    nat_or_eq_zero]

/-- The in-use identifiers are single bits: two share a bit exactly when they are equal. -/
theorem inuse_and_eq_zero {a q : UInt8} (ha : (isAnimalId a || isDirectionId a) = true)
    (hq : (isAnimalId q || isDirectionId q) = true) : a &&& q = 0 ↔ a ≠ q := by
  simp only [isAnimalId, isDirectionId, Bool.or_eq_true, decide_eq_true_eq, or_assoc] at ha hq
  rcases ha with rfl | rfl | rfl | rfl | rfl | rfl | rfl | rfl <;>
  rcases hq with rfl | rfl | rfl | rfl | rfl | rfl | rfl | rfl <;> decide

/-! ## The native loop against the reference -/

/-- `parm_id_to_string` names the identifiers the loop checks as the reference names them. -/
theorem parmIdToString_eq_parmName {p : UInt8}
    (hp : p = 0x00 ∨ (isAnimalId p || isDirectionId p) = true) : parmIdToString p = parmName p := by
  simp only [isAnimalId, isDirectionId, Bool.or_eq_true, decide_eq_true_eq, or_assoc] at hp
  rcases hp with rfl | rfl | rfl | rfl | rfl | rfl | rfl | rfl | rfl <;> rfl

theorem entryError_eq {p : UInt8} (hp : parmIdToString p = parmName p) (err eid : Number)
    (i : Nat) (msg : String) : entryError err eid i p msg = ⟨eid.val, err.val, entryText (i + 1) p msg⟩ := by
  rw [entryError, entryText, hp]

/-- `pad_is_valid` passes the pad of `e` exactly when every pad byte is zero, as the reference
asks. -/
def PadAgrees (e : VsEntry) : Prop := e.pad 0 &&& e.pad 1 &&& e.pad 2 = 0 ↔ ∀ i, e.pad i = 0

instance (e : VsEntry) : Decidable (PadAgrees e) := inferInstanceAs (Decidable (_ ↔ _))

/-- The events of `inuse_entry_is_valid` are the reference's errors, where its pad test agrees
with the reference's and the mask holds the identifiers the reference has seen. -/
theorem inuseEntryIsValid_events {err : Number} {e : VsEntry} {k : Nat} {saw : Bool}
    {parmsSeen : UInt8} {seen : List UInt8} (hin : (isAnimalId e.parmId || isDirectionId e.parmId) = true)
    (hpad : PadAgrees e) (hseen : parmsSeen &&& e.parmId = 0 ↔ e.parmId ∉ seen) (min max : Number) :
    (inuseEntryIsValid err e k saw parmsSeen min max).2 =
      inuseErrors err (k + 1) e min.val max.val saw seen := by
  have hname := entryError_eq (parmIdToString_eq_parmName (Or.inr hin)) err
  have hpad' : (∃ i, e.pad i ≠ 0) ↔ ¬ e.pad 0 &&& e.pad 1 &&& e.pad 2 = 0 := by
    rw [show _ ↔ _ from hpad, not_forall]
  simp only [inuseEntryIsValid, padIsValid, boundsAreValid, inuseErrors, hname, hpad', ite_not,
    Fin.le_iff_val_le_val, decide_eq_true_eq, bne_iff_ne, ne_eq, hseen, List.append_assoc,
    apply_ite Prod.snd]
  rfl

/-- The native loop's locals after `k` entries stand for the reference state after them: the
counts, the flag, the mask as the set of seen identifiers, the status and the events. -/
structure Agrees (k : Nat) (s : VsaState) (r : RefState) : Prop where
  valid : s.countValid = r.valid
  unused : s.countUnused = r.unused
  total : s.countValid + s.countUnused + s.countInvalid = k
  saw : s.sawValidUnusedFlag = r.sawUnused
  seen : ∀ q, (isAnimalId q || isDirectionId q) = true → (s.parmsSeen &&& q = 0 ↔ q ∉ r.seen)
  result : s.result = if s.countInvalid = 0 then cfeSuccess else vsaTableInvalidResult
  events : s.events = r.events

theorem Agrees.init : Agrees 0 VsaState.init RefState.init :=
  ⟨rfl, rfl, rfl, rfl, fun _ _ => ⟨fun _ => List.not_mem_nil _,
    fun _ => (uint8_eq_zero_iff _).mpr (by simp [VsaState.init])⟩, rfl, rfl⟩

section Step

variable {k : Nat} {s : VsaState} {r : RefState}

/-- An entry found invalid with events `evs` and no identifier remembered. -/
theorem Agrees.invalid (h : Agrees k s r) (evs : List Event) :
    Agrees (k + 1)
      { s with
        countInvalid := s.countInvalid + 1
        result := vsaTableInvalidResult
        events := s.events ++ evs }
      { r with events := r.events ++ evs } :=
  ⟨h.valid, h.unused, by have := h.total; dsimp only; omega, h.saw, h.seen,
    (if_neg (Nat.succ_ne_zero _)).symm, by rw [h.events]⟩

/-- The in-use cases of the `switch` take the reference's in-use step. -/
theorem Agrees.inuse (h : Agrees k s r) (err : Number) {e : VsEntry}
    (hin : (isAnimalId e.parmId || isDirectionId e.parmId) = true) (hpad : PadAgrees e)
    (min max : Number) :
    Agrees (k + 1) (inuseCase err s k e min max)
      { r with
        valid := if inuseErrors err (k + 1) e min.val max.val r.sawUnused r.seen = [] then
          r.valid + 1 else r.valid
        seen := e.parmId :: r.seen
        events := r.events ++ inuseErrors err (k + 1) e min.val max.val r.sawUnused r.seen } := by
  have hev : (inuseEntryIsValid err e k s.sawValidUnusedFlag s.parmsSeen min max).2 =
      inuseErrors err (k + 1) e min.val max.val r.sawUnused r.seen := by
    rw [← h.saw]
    exact inuseEntryIsValid_events hin hpad (h.seen _ hin) min max
  have hiff := (inuseEntryIsValid_iff err e k s.sawValidUnusedFlag s.parmsSeen min max).trans
    (by rw [hev])
  have hseen : ∀ q, (isAnimalId q || isDirectionId q) = true →
      ((s.parmsSeen ||| e.parmId) &&& q = 0 ↔ q ∉ e.parmId :: r.seen) := fun q hq => by
    simp only [or_and_eq_zero, h.seen q hq, inuse_and_eq_zero hin hq, List.mem_cons, not_or]
    exact and_comm.trans (and_congr_left' (by rw [ne_comm]))
  have htotal := h.valid ▸ h.total
  by_cases he : inuseErrors err (k + 1) e min.val max.val r.sawUnused r.seen = []
  · -- valid: one more valid entry
    have hv := hiff.mpr he
    refine ⟨?_, h.unused, ?_, h.saw, hseen, ?_, ?_⟩ <;>
      simp only [inuseCase, hv, he, if_true, h.valid, h.result, hev, h.events, List.append_nil]
    omega
  · -- invalid: one more invalid entry, and the status set
    have hv : (inuseEntryIsValid err e k s.sawValidUnusedFlag s.parmsSeen min max).1 = false :=
      Bool.eq_false_iff.mpr (mt hiff.mp he)
    refine ⟨?_, h.unused, ?_, h.saw, hseen, ?_, ?_⟩ <;>
      simp only [inuseCase, hv, he, Bool.false_eq_true, if_false, h.valid, hev, h.events]
    · omega
    · exact (if_neg (Nat.succ_ne_zero _)).symm

theorem forall_pad_eq_zero (e : VsEntry) :
    (∀ i, e.pad i = 0) ↔ e.pad 0 = 0 ∧ e.pad 1 = 0 ∧ e.pad 2 = 0 :=
  ⟨fun h => ⟨h 0, h 1, h 2⟩, fun ⟨h0, h1, h2⟩ i => match i with | 0 => h0 | 1 => h1 | 2 => h2⟩

/-- One pass of the loop takes the reference's step for the entry, where `pad_is_valid` judges
an in-use entry as the reference does. -/
theorem Agrees.step (h : Agrees k s r) (err : Number) (e : VsEntry)
    (hpad : (isAnimalId e.parmId || isDirectionId e.parmId) = true → PadAgrees e) :
    Agrees (k + 1) (vsaEntry err s k e) (refEntry err (k + 1) e r) := by
  unfold vsaEntry refEntry
  by_cases h0 : e.parmId = 0x00
  · -- `VSA_PARM_UNUSED`
    have hname := entryError_eq (parmIdToString_eq_parmName (Or.inl h0)) err vsTblZeroErrEid k
    have hzero : e.pad 0 = 0 ∧ e.pad 1 = 0 ∧ e.pad 2 = 0 ∧ e.boundLow = 0 ∧ e.boundHigh = 0 ↔
        (∀ i, e.pad i = 0) ∧ e.boundLow = 0 ∧ e.boundHigh = 0 := by
      rw [forall_pad_eq_zero, and_assoc, and_assoc]
    by_cases hz : (∀ i, e.pad i = 0) ∧ e.boundLow = 0 ∧ e.boundHigh = 0
    · simp only [if_pos h0, unusedEntryIsValid, hzero, if_pos hz, ↓reduceIte]
      exact ⟨h.valid, by rw [h.unused], by have := h.total; dsimp only; omega, rfl, h.seen,
        h.result, by rw [h.events, List.append_nil]⟩
    · simp only [if_pos h0, unusedEntryIsValid, hzero, if_neg hz, hname, Bool.false_eq_true,
        ↓reduceIte]
      rw [h0]
      exact h.invalid _
  · by_cases hin : (isAnimalId e.parmId || isDirectionId e.parmId) = true
    · -- the animal and direction cases
      have hi := h.inuse err hin (hpad hin)
      simp only [if_neg h0, hin, if_true]
      by_cases ha : isAnimalId e.parmId = true
      · simp only [ha, if_true]
        exact hi vsParmAnimalMin vsParmAnimalMax
      · have hd : isDirectionId e.parmId = true := by simpa only [ha, Bool.false_or] using hin
        simp only [ha, hd, Bool.false_eq_true, if_false, if_true]
        exact hi vsParmDirectionMin vsParmDirectionMax
    · -- `default`
      have hn : isAnimalId e.parmId = false ∧ isDirectionId e.parmId = false := by
        simpa only [Bool.not_eq_true, Bool.or_eq_false_iff] using hin
      simp only [if_neg h0, hn.1, hn.2, hin, Bool.false_eq_true, if_false]
      exact h.invalid _

end Step

/-- The loop's locals after its first `k` passes. -/
def vsaStates (err : Number) (o : ByteOrder) (image : List UInt8) : Nat → VsaState
  | 0 => VsaState.init
  | k + 1 => vsaEntry err (vsaStates err o image k) k (vsTableEntry o image k)

/-- `VSA_table_validate`, from the locals after the four passes. -/
theorem vsaTableValidate_vsaStates (o : ByteOrder) (info err : Number) (image : List UInt8) :
    vsaTableValidate o info err image =
      ((vsaStates err o image 4).events ++ [⟨0x0008, info.val, "Table image entries: ".toList ++
        decimal (vsaStates err o image 4).countValid ++ " valid, ".toList ++
        decimal (vsaStates err o image 4).countInvalid ++ " invalid, ".toList ++
        decimal (vsaStates err o image 4).countUnused ++ " unused".toList⟩],
      (vsaStates err o image 4).result) :=
  rfl

/-- `pad_is_valid` judges every in-use entry of the image as the reference does. -/
def PadsAgree (o : ByteOrder) (image : List UInt8) : Prop :=
  ∀ i < vsTableNumEntries, (isAnimalId (vsTableEntry o image i).parmId ||
    isDirectionId (vsTableEntry o image i).parmId) = true → PadAgrees (vsTableEntry o image i)

instance (o : ByteOrder) (image : List UInt8) : Decidable (PadsAgree o image) :=
  inferInstanceAs (Decidable (∀ i < vsTableNumEntries, _))

theorem agrees_vsaStates (err : Number) (o : ByteOrder) (image : List UInt8) :
    ∀ k, (∀ j < k, (isAnimalId (vsTableEntry o image j).parmId ||
        isDirectionId (vsTableEntry o image j).parmId) = true → PadAgrees (vsTableEntry o image j)) →
      Agrees k (vsaStates err o image k) (refStates err o image k)
  | 0, _ => Agrees.init
  | k + 1, hpad => (agrees_vsaStates err o image k fun j hj => hpad j (Nat.lt_succ_of_lt hj)).step
      err _ (hpad k (Nat.lt_succ_self k))

/-- Where `pad_is_valid` judges every in-use entry as the reference does, `VSA_table_validate`
sends the reference's events and returns `CFE_SUCCESS` exactly when the reference finds the
image valid. -/
theorem vsaTableValidate_reference (o : ByteOrder) (info err : Number) (image : List UInt8)
    (hpad : PadsAgree o image) :
    vsaTableValidate o info err image = ((referenceValidate info err (vsTableEntries o image)).1,
      if (referenceValidate info err (vsTableEntries o image)).2 then cfeSuccess
        else vsaTableInvalidResult) := by
  have h := agrees_vsaStates err o image 4 hpad
  have hinv : (vsaStates err o image 4).countInvalid =
      4 - (refStates err o image 4).valid - (refStates err o image 4).unused := by
    have := h.total
    rw [h.valid, h.unused] at this
    omega
  rw [vsaTableValidate_vsaStates, referenceValidate_refStates, h.result, h.events, h.valid,
    h.unused, hinv]
  simp only [decide_eq_true_eq]

/-- On every image whose in-use entries `pad_is_valid` judges as the reference does, the native
validator and `VSC_table_validate` return the same status and send the same events. -/
theorem vsaTableValidate_eq_vsc (o : ByteOrder) (C : Nat) (hC : 50 ≤ C) (info err : Number)
    (image : List UInt8) (hpad : PadsAgree o image) (vm : Vm) :
    (vscTableValidate o C info err image vm).1 = (vsaTableValidate o info err image).2 ∧
      (vscTableValidate o C info err image vm).2.events =
        vm.events ++ (vsaTableValidate o info err image).1 := by
  rw [vsaTableValidate_reference o info err image hpad]
  exact vscTableValidate_reference o C hC info err image vm

/-- An Ape entry with zero pad bytes and bounds `0x10` and `0x1000`, a North entry whose three
pad bytes are `1`, then two zeroed unused entries. -/
def padsSetImage : List UInt8 :=
  [0x01, 0x00, 0x00, 0x00, 0x10, 0x00, 0x00, 0x00, 0x00, 0x10, 0x00, 0x00,
    0x10, 0x01, 0x01, 0x01, 0x00, 0x00, 0x01, 0x00, 0x00, 0x00, 0x00, 0x01] ++
    List.replicate 24 0x00

/-- On `padsSetImage` the AND of the North entry's pad bytes is not zero, so `pad_is_valid`
rejects the pad as the reference does, and the two validators agree. -/
theorem vsaTableValidate_eq_vsc_padsSet :
    50 ≤ 50 ∧ PadsAgree .little padsSetImage ∧
      (vscTableValidate .little 50 0 0 padsSetImage (Vm.boot 50)).1 =
        (vsaTableValidate .little 0 0 padsSetImage).2 ∧
      (vscTableValidate .little 50 0 0 padsSetImage (Vm.boot 50)).2.events =
        (Vm.boot 50).events ++ (vsaTableValidate .little 0 0 padsSetImage).1 :=
  have hpad : PadsAgree .little padsSetImage := by decide
  ⟨le_refl 50, hpad, vsaTableValidate_eq_vsc .little 50 (le_refl 50) 0 0 _ hpad (Vm.boot 50)⟩

/-- An Ape entry with pad bytes `1, 0, 0` and both bounds `0x10`, then three zeroed unused
entries. -/
def padImage : List UInt8 :=
  [0x01, 0x01, 0x00, 0x00, 0x10, 0x00, 0x00, 0x00, 0x10, 0x00, 0x00, 0x00] ++ List.replicate 36 0x00

theorem decimal_digit {n : Nat} (h0 : n ≠ 0) (h : n < 10) : decimal n = [Nat.digitChar n] := by
  rw [decimal, if_neg h0, Nat.digits_of_lt 10 n h0 h]
  rfl

/-- On `padImage` `pad_is_valid` passes the pad, whose bytes have a zero AND: the native
validator finds the image valid, while `VSC_table_validate` reports the pad and finds the image
invalid. -/
theorem vsa_vsc_pad_differ :
    vsaTableValidate .little 0 0 padImage =
        ([⟨0x0008, 0, "Table image entries: 1 valid, 0 invalid, 3 unused".toList⟩], cfeSuccess) ∧
      (vscTableValidate .little 50 0 0 padImage (Vm.boot 50)).1 = vscTableInvalidResult ∧
      (vscTableValidate .little 50 0 0 padImage (Vm.boot 50)).2.events =
        [⟨0x2004, 0, "Table entry 1 parm Ape padding not zeroed".toList⟩,
          ⟨0x0008, 0, "Table image entries: 0 valid, 1 invalid, 3 unused".toList⟩] := by
  have hs : vsaStates 0 .little padImage 4 = ⟨true, 0x01, cfeSuccess, 3, 1, 0, []⟩ := by decide
  have hv : (refStates 0 .little padImage 4).valid = 0 := by decide
  have hu : (refStates 0 .little padImage 4).unused = 3 := by decide
  have he : (refStates 0 .little padImage 4).events =
      [⟨0x2004, 0, entryText 1 0x01 " padding not zeroed"⟩] := rfl
  have h1 := decimal_digit (n := 1) (by decide) (by decide)
  have h3 := decimal_digit (n := 3) (by decide) (by decide)
  obtain ⟨hst, hev⟩ := vscTableValidate_reference .little 50 (by decide) 0 0 padImage (Vm.boot 50)
  rw [referenceValidate_refStates, hv, hu, he] at hst hev
  rw [vsaTableValidate_vsaStates, hs]
  refine ⟨by rw [h1, h3]; rfl, hst, hev.trans ?_⟩
  rw [entryText, show 4 - 0 - 3 = 1 from rfl, h1, h3]
  rfl

end Grunt.Vsa
