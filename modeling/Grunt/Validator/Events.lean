import Grunt.Validator.Verdict

/-!
# The events of a validation

What a ground tool reading the event log of either validator may rely on.
- The log holds one block of ERROR events per entry, in table order (`Blocks`).
- Each block names its entry and holds its events in the order of the checks, which is the
  order of their event identifiers, so no identifier occurs twice (`EntryBlock`).
- One INFORMATION event comes last (`summaryEvent`). Its counts of valid, invalid and unused
  entries add up to `VS_TABLE_NUM_ENTRIES`.
- The status is `CFE_SUCCESS` exactly when the invalid count is zero.

Each entry's events are proved well ordered once: every event a validator can send about an
entry, in order, is listed (`vsaEntryEvents`, `refEntryEvents`), and what it sends is a sublist
of that list.
-/

namespace Grunt.Vsvf

/-- The events a validator sends about entry `k` (from `1`): ERROR events that name the entry,
in increasing order of event identifier. -/
structure EntryBlock (err : Number) (k : Nat) (evs : List Event) : Prop where
  error : ∀ ev ∈ evs, ev.eventType = err.val
  names : ∀ ev ∈ evs, ("Table entry ".toList ++ decimal k ++ [' ']).IsPrefix ev.text
  sorted : evs.Pairwise fun a b => a.eventId < b.eventId

theorem EntryBlock.sublist {err : Number} {k : Nat} {evs evs' : List Event}
    (h : EntryBlock err k evs) (hs : evs'.Sublist evs) : EntryBlock err k evs' :=
  ⟨fun ev hev => h.error ev (hs.subset hev), fun ev hev => h.names ev (hs.subset hev),
    h.sorted.sublist hs⟩

/-- A log of one block per entry, the entries in table order. -/
inductive Blocks (err : Number) : Nat → List Event → Prop
  | nil : Blocks err 0 []
  | snoc {k : Nat} {evs block : List Event} :
      Blocks err k evs → EntryBlock err (k + 1) block → Blocks err (k + 1) (evs ++ block)

/-- The INFORMATION event that ends a validation, with its counts of valid, invalid and unused
entries. -/
def summaryEvent (info : Number) (valid invalid unused : Nat) : Event :=
  ⟨0x0008, info.val, "Table image entries: ".toList ++ decimal valid ++ " valid, ".toList ++
    decimal invalid ++ " invalid, ".toList ++ decimal unused ++ " unused".toList⟩

theorem ite_nil_left_sublist {α : Type} (c : Prop) [Decidable c] (l : List α) :
    (if c then [] else l).Sublist l := by
  split <;> simp

theorem ite_nil_right_sublist {α : Type} (c : Prop) [Decidable c] (l : List α) :
    (if c then l else []).Sublist l := by
  split <;> simp

/-! ## The reference validation -/

theorem entryText_prefix (k : Nat) (p : UInt8) (msg : String) :
    ("Table entry ".toList ++ decimal k ++ [' ']).IsPrefix (entryText k p msg) :=
  ⟨"parm ".toList ++ (parmName p).toList ++ msg.toList, by simp only [entryText, List.append_assoc]; rfl⟩

/-- Every event the reference can send about entry `k` with identifier `p`, in the order of its
checks. -/
def refEntryEvents (err : Number) (k : Nat) (p : UInt8) : List Event :=
  [⟨0x2001, err.val, entryText k 0x00 " not zeroed"⟩,
    ⟨0x2002, err.val, "Table entry ".toList ++ decimal k ++ " invalid Parm ID".toList⟩,
    ⟨0x2004, err.val, entryText k p " padding not zeroed"⟩,
    ⟨0x2008, err.val, entryText k p " invalid low bound"⟩,
    ⟨0x2010, err.val, entryText k p " invalid high bound"⟩,
    ⟨0x2020, err.val, entryText k p " invalid bound order"⟩,
    ⟨0x2040, err.val, entryText k p " follows an unused entry"⟩,
    ⟨0x2080, err.val, entryText k p " redefines earlier entry"⟩]

theorem refEntryEvents_block (err : Number) (k : Nat) (p : UInt8) :
    EntryBlock err k (refEntryEvents err k p) where
  error := by simp [refEntryEvents]
  names := by
    simp only [refEntryEvents, List.mem_cons, List.mem_singleton, forall_eq_or_imp, entryText_prefix,
      true_and, List.not_mem_nil, false_imp_iff, imp_true_iff, and_true]
    exact ⟨_, by simp only [List.append_assoc]; rfl⟩
  sorted := by
    simp only [refEntryEvents, List.pairwise_cons, List.mem_cons, List.mem_singleton,
      forall_eq_or_imp, List.not_mem_nil, false_imp_iff, imp_true_iff, and_true, List.Pairwise.nil]
    decide

theorem inuseErrors_sublist (err : Number) (k : Nat) (e : VsEntry) (lo hi : Nat) (saw : Bool)
    (seen : List UInt8) :
    (inuseErrors err k e lo hi saw seen).Sublist ((refEntryEvents err k e.parmId).drop 2) :=
  (((((ite_nil_right_sublist _ _).append (ite_nil_left_sublist _ _)).append
    (ite_nil_left_sublist _ _)).append (ite_nil_left_sublist _ _)).append
    (ite_nil_right_sublist _ _)).append (ite_nil_right_sublist _ _)

/-- What the reference sends about an entry is among what it can send about it. -/
theorem refEntry_sublist (err : Number) (k : Nat) (e : VsEntry) (st : RefState) :
    (refEntry err k e { st with events := [] }).events.Sublist (refEntryEvents err k e.parmId) := by
  have hzero : [⟨0x2001, err.val, entryText k 0x00 " not zeroed"⟩].Sublist
      (refEntryEvents err k e.parmId) :=
    List.singleton_sublist.mpr (.head _)
  have hparm : [⟨0x2002, err.val, "Table entry ".toList ++ decimal k ++ " invalid Parm ID".toList⟩].Sublist
      (refEntryEvents err k e.parmId) :=
    List.singleton_sublist.mpr (.tail _ (.head _))
  have hinuse (lo hi : Nat) : (inuseErrors err k e lo hi st.sawUnused st.seen).Sublist
      (refEntryEvents err k e.parmId) :=
    (inuseErrors_sublist err k e lo hi _ _).trans (List.drop_sublist 2 _)
  unfold refEntry
  split_ifs <;> simp only [List.nil_append]
  · exact List.nil_sublist _
  · exact hzero
  · exact hinuse _ _
  · exact hinuse _ _
  · exact hparm

theorem blocks_refStates (err : Number) (o : ByteOrder) (image : List UInt8) :
    ∀ k, Blocks err k (refStates err o image k).events
  | 0 => Blocks.nil
  | k + 1 => by
    rw [refStates_succ_events]
    exact (blocks_refStates err o image k).snoc
      ((refEntryEvents_block err (k + 1) _).sublist (refEntry_sublist err (k + 1) _ _))

end Grunt.Vsvf

namespace Grunt.Vsa

open Grunt.Vsvf

/-! ## The native validator -/

theorem entryError_prefix (err eid : Number) (i : Nat) (p : UInt8) (msg : String) :
    ("Table entry ".toList ++ decimal (i + 1) ++ [' ']).IsPrefix (entryError err eid i p msg).text :=
  ⟨"parm ".toList ++ (parmIdToString p).toList ++ msg.toList,
    by simp only [entryError, List.append_assoc]; rfl⟩

/-- Every event `VSA_table_validate` can send about entry `i` (from `0`) with identifier `p`, in
the order of its checks. -/
def vsaEntryEvents (err : Number) (i : Nat) (p : UInt8) : List Event :=
  [entryError err vsTblZeroErrEid i p " not zeroed",
    ⟨vsTblParmErrEid.val, err.val, "Table entry ".toList ++ decimal (i + 1) ++ " invalid Parm ID".toList⟩,
    entryError err vsTblPadErrEid i p " padding not zeroed",
    entryError err vsTblLbndErrEid i p " invalid low bound",
    entryError err vsTblHbndErrEid i p " invalid high bound",
    entryError err vsTblOrderErrEid i p " invalid bound order",
    entryError err vsTblExtraErrEid i p " follows an unused entry",
    entryError err vsTblRedefErrEid i p " redefines earlier entry"]

theorem vsaEntryEvents_block (err : Number) (i : Nat) (p : UInt8) :
    EntryBlock err (i + 1) (vsaEntryEvents err i p) where
  error := by simp [vsaEntryEvents, entryError]
  names := by
    simp only [vsaEntryEvents, List.mem_cons, List.mem_singleton, forall_eq_or_imp,
      entryError_prefix, true_and, List.not_mem_nil, false_imp_iff, imp_true_iff, and_true]
    exact ⟨_, by simp only [List.append_assoc]; rfl⟩
  sorted := by
    simp only [vsaEntryEvents, entryError, List.pairwise_cons, List.mem_cons, List.mem_singleton,
      forall_eq_or_imp, List.not_mem_nil, false_imp_iff, imp_true_iff, and_true, List.Pairwise.nil]
    decide

theorem inuseEntryIsValid_sublist (err : Number) (e : VsEntry) (i : Nat) (saw : Bool)
    (parmsSeen : UInt8) (min max : Number) :
    (inuseEntryIsValid err e i saw parmsSeen min max).2.Sublist ((vsaEntryEvents err i e.parmId).drop 2) := by
  simp only [inuseEntryIsValid, padIsValid, boundsAreValid, apply_ite Prod.snd]
  exact (((ite_nil_left_sublist _ _).append (((ite_nil_left_sublist _ _).append
    (ite_nil_left_sublist _ _)).append (ite_nil_left_sublist _ _))).append
    (ite_nil_right_sublist _ _)).append (ite_nil_right_sublist _ _)

/-- A pass of the loop adds its events to those before it. -/
theorem vsaEntry_events (err : Number) (s : VsaState) (i : Nat) (e : VsEntry) :
    (vsaEntry err s i e).events = s.events ++ (vsaEntry err { s with events := [] } i e).events := by
  unfold vsaEntry
  dsimp only
  split_ifs <;> rfl

/-- What a pass of the loop sends about an entry is among what it can send about it. -/
theorem vsaEntry_sublist (err : Number) (s : VsaState) (i : Nat) (e : VsEntry) :
    (vsaEntry err { s with events := [] } i e).events.Sublist (vsaEntryEvents err i e.parmId) := by
  have hzero : (unusedEntryIsValid err e i).2.Sublist (vsaEntryEvents err i e.parmId) := by
    unfold unusedEntryIsValid
    split
    · exact List.nil_sublist _
    · exact List.singleton_sublist.mpr (.head _)
  have hparm : [⟨vsTblParmErrEid.val, err.val,
      "Table entry ".toList ++ decimal (i + 1) ++ " invalid Parm ID".toList⟩].Sublist
      (vsaEntryEvents err i e.parmId) :=
    List.singleton_sublist.mpr (.tail _ (.head _))
  have hinuse (min max : Number) : (inuseEntryIsValid err e i s.sawValidUnusedFlag s.parmsSeen min
      max).2.Sublist (vsaEntryEvents err i e.parmId) :=
    (inuseEntryIsValid_sublist err e i _ _ min max).trans (List.drop_sublist 2 _)
  unfold vsaEntry
  dsimp only
  split_ifs
  · exact hzero
  · exact hzero
  · exact hinuse _ _
  · exact hinuse _ _
  · exact hparm

theorem blocks_vsaStates (err : Number) (o : ByteOrder) (image : List UInt8) :
    ∀ k, Blocks err k (vsaStates err o image k).events
  | 0 => Blocks.nil
  | k + 1 => by
    rw [vsaStates, vsaEntry_events]
    exact (blocks_vsaStates err o image k).snoc
      ((vsaEntryEvents_block err k _).sublist (vsaEntry_sublist err _ k _))

/-! ## The logs -/

/-- `VSA_table_validate`'s events and status, from the locals its loop leaves. -/
theorem vsaTableValidate_log (o : ByteOrder) (info err : Number) (image : List UInt8) :
    vsaTableValidate o info err image =
      ((vsaStates err o image 4).events ++ [summaryEvent info (vsaStates err o image 4).countValid
        (vsaStates err o image 4).countInvalid (vsaStates err o image 4).countUnused],
        if (vsaStates err o image 4).countInvalid = 0 then cfeSuccess else vsaTableInvalidResult) := by
  rw [vsaTableValidate_vsaStates, ← (vsaStates_simulates err o image 4).result]
  rfl

/-- `VSA_table_validate` sends one block of ERROR events per entry, in table order, then one
INFORMATION event whose counts of valid, invalid and unused entries add up to four, and returns
`CFE_SUCCESS` exactly when the invalid count is zero. -/
theorem vsaTableValidate_events (o : ByteOrder) (info err : Number) (image : List UInt8) :
    ∃ evs valid invalid unused, Blocks err 4 evs ∧ valid + invalid + unused = 4 ∧
      vsaTableValidate o info err image =
        (evs ++ [summaryEvent info valid invalid unused],
          if invalid = 0 then cfeSuccess else vsaTableInvalidResult) :=
  ⟨_, _, _, _, blocks_vsaStates err o image 4,
    by have := (vsaStates_simulates err o image 4).total; omega, vsaTableValidate_log o info err image⟩

/-- `VSC_table_validate` has the run of `vsvf_program` send one block of ERROR events per entry,
in table order, then one INFORMATION event whose counts of valid, invalid and unused entries add
up to four, and returns `CFE_SUCCESS` exactly when the invalid count is zero. -/
theorem vscTableValidate_events (o : ByteOrder) (C : Nat) (hC : 50 ≤ C) (info err : Number)
    (image : List UInt8) (vm : Vm) :
    ∃ evs valid invalid unused, Blocks err 4 evs ∧ valid + invalid + unused = 4 ∧
      (vscTableValidate o C info err image vm).1 =
        (if invalid = 0 then cfeSuccess else vscTableInvalidResult) ∧
      (vscTableValidate o C info err image vm).2.events =
        vm.events ++ (evs ++ [summaryEvent info valid invalid unused]) := by
  obtain ⟨hst, hev⟩ := vscTableValidate_reference o C hC info err image vm
  rw [referenceValidate_refStates] at hst hev
  simp only [decide_eq_true_eq] at hst
  have hle := refStates_counts err o image 4
  exact ⟨_, (refStates err o image 4).valid,
    4 - (refStates err o image 4).valid - (refStates err o image 4).unused,
    (refStates err o image 4).unused, blocks_refStates err o image 4, by omega, hst, hev⟩

theorem vscTableValidate_events_zero :
    50 ≤ 50 ∧ ∃ evs valid invalid unused, Blocks 0 4 evs ∧ valid + invalid + unused = 4 ∧
      (vscTableValidate .little 50 0 0 (List.replicate 48 0) (Vm.boot 50)).1 =
        (if invalid = 0 then cfeSuccess else vscTableInvalidResult) ∧
      (vscTableValidate .little 50 0 0 (List.replicate 48 0) (Vm.boot 50)).2.events =
        (Vm.boot 50).events ++ (evs ++ [summaryEvent 0 valid invalid unused]) :=
  ⟨le_refl 50, vscTableValidate_events .little 50 (le_refl 50) 0 0 _ (Vm.boot 50)⟩

/-! ## `vsb_table.c` -/

theorem vsaTableInvalidResult_ne : vsaTableInvalidResult ≠ cfeSuccess := by decide

end Grunt.Vsa
