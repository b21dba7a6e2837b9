import Grunt.History
import Grunt.Validator.Entry

/-!
# The validator program computes the reference validation

`VSC_table_validate` runs `vsvf_program` on a table image.  This module proves that the run
halts with `HaltTrue` or `HaltFalse` as the reference validation of
`Grunt.Vsvf.Reference` finds the image valid or not, and sends exactly its events.

`MAIN` is run in pieces: from its start, and from each return of `VALIDATE_ENTRY`, to its
next call of `VALIDATE_ENTRY` (`main_piece_runs`), and from the last return to `HALT`
(`main_tail_runs`).  The calls between them are `validateEntry_returns`.  Across a call the
counts and the saved identifiers keep standing for the reference state (`EntryRel.step`),
so the four calls take the four steps of the reference.
-/

namespace Grunt.Vsvf

open Grunt.Sym

/-! ## The reference, one entry at a time -/

theorem uint8_eq_of_toNat_eq {a b : UInt8} (h : a.toNat = b.toNat) : a = b := by
  rw [← toNat_toUInt8 a, h, toNat_toUInt8]

theorem inuse_ne_zero {q : UInt8} (hq : (isAnimalId q || isDirectionId q) = true) :
    q.toNat ≠ 0 := fun h => by
  rw [uint8_eq_of_toNat_eq (h.trans UInt8.toNat_zero.symm)] at hq
  exact absurd hq (by decide)

/-- A step adds its events to those before it. -/
theorem refEntry_events (err : Number) (k : Nat) (ent : VsEntry) (st : RefState) :
    (refEntry err k ent st).events =
      st.events ++ (refEntry err k ent { st with events := [] }).events := by
  unfold refEntry
  split_ifs <;> simp

/-- A step counts at most one more entry as valid or unused. -/
theorem refEntry_counts_le (err : Number) (k : Nat) (ent : VsEntry) (st : RefState) :
    (refEntry err k ent st).valid + (refEntry err k ent st).unused ≤ st.valid + st.unused + 1 := by
  unfold refEntry
  split_ifs <;> simp only [] <;> (try split_ifs) <;> omega

/-- A step of the reference keeps the relation with the counts it computes, once the entry's
identifier is saved among the earlier ones. -/
theorem EntryRel.step {st : RefState} {u v u' v' err : Number} {saved saved' : List Number}
    {k : Nat} {ent : VsEntry} (hrel : EntryRel st u v saved)
    (hu' : u'.val = (refEntry err k ent st).unused) (hv' : v'.val = (refEntry err k ent st).valid)
    (hsaved : ∀ q : UInt8, (isAnimalId q || isDirectionId q) = true →
      ((∃ s ∈ saved', s.val = q.toNat) ↔
        (∃ s ∈ saved, s.val = q.toNat) ∨ (parmNum ent).val = q.toNat)) :
    EntryRel (refEntry err k ent st) u' v' saved' where
  unused := hu'
  valid := hv'
  saw := by
    rw [hu']
    unfold refEntry
    split_ifs <;> simp [hrel.saw, hrel.unused]
  seen := fun q hq => by
    have hne := inuse_ne_zero hq
    rw [hsaved q hq, ← hrel.seen q hq]
    by_cases h0 : ent.parmId = 0
    · have hp : (parmNum ent).val ≠ q.toNat := by simp only [parmNum, h0]; exact Ne.symm hne
      unfold refEntry
      split_ifs <;> simp only [hp, or_false]
    by_cases huse : (isAnimalId ent.parmId || isDirectionId ent.parmId) = true
    · simp only [refEntry, if_neg h0, huse, if_true, List.mem_cons, parmNum]
      exact ⟨fun h => h.elim (fun h => .inr (h ▸ rfl)) .inl,
        fun h => h.elim .inr fun h => .inl (uint8_eq_of_toNat_eq h.symm)⟩
    · simp only [refEntry, if_neg h0, huse, Bool.false_eq_true, if_false, parmNum]
      refine ⟨.inl, fun h => h.elim id fun h => ?_⟩
      rw [← uint8_eq_of_toNat_eq h] at hq
      exact absurd hq huse

/-! ## The pieces of `MAIN` -/

theorem runEnv_types {xs : List Number} (hxs : xs.length = 6) (info err : Number)
    (image : List UInt8) (base : Nat) :
    (runEnv xs info err image base).vars 6 = info ∧ (runEnv xs info err image base).vars 7 = err := by
  simp only [runEnv, List.getD_eq_getElem?_getD, List.getElem?_append_right (by omega : xs.length ≤ 6),
    List.getElem?_append_right (by omega : xs.length ≤ 7), hxs]
  exact ⟨rfl, rfl⟩

@[simp] theorem runEnv_vars (xs : List Number) (info err : Number) (image : List UInt8)
    (base i : Nat) : (runEnv xs info err image base).vars i = (xs ++ [info, err]).getD i 0 := rfl

@[simp] theorem runEnv_base (xs : List Number) (info err : Number) (image : List UInt8)
    (base : Nat) : (runEnv xs info err image base).base = base := rfl

section Pieces

variable {o : ByteOrder} {C : Nat} {info err : Number} {image : List UInt8}

/-- A piece of `MAIN` from `pc`, with `args` on the stacks and `head` bytes read, runs to its
call of `VALIDATE_ENTRY` returning to `ret` with `cargs` on top. -/
theorem main_piece_runs {pc ret : Fin 65536} {args cargs : List SymV} {head : Nat}
    (xs : List Number) (hxs : xs.length = 6) (input : Input) (out : Output) (evs : List Event)
    (hexec : exec 100 mainPieceCode ⟨[], [], []⟩ (mainState pc args head) =
      some (.stop (entryCall ret cargs head)))
    (hC : 50 ≤ C) (hq : input.queue = some image) (hstr : out.stringTable = vsvfStrings)
    (hnum : out.numStrings = 24) :
    Runs o C (vsvfProgram info err) vsvfNumInstructions
      ⟨pc, ⟨args.map (SymV.den o (runEnv xs info err image 0)), []⟩, { input with head := head },
        lineBuffer C [] out, evs⟩
      ⟨validateEntry, ⟨cargs.map (SymV.den o (runEnv xs info err image 0)), [.pc ret]⟩,
        { input with head := head }, lineBuffer C [] out, evs⟩ := by
  have hK : Fits o C (runEnv xs info err image 0) ⟨[], [], input, out, evs⟩ (vsvfProgram info err)
      mainPieceCode :=
    fits_vsvfCode (runEnv_types hxs info err image 0).1 (runEnv_types hxs info err image 0).2 hC
      (by simp) hq (Nat.zero_le _) hstr hnum (fun _ => Nat.le_of_lt_succ (Fin.isLt _))
      (fun h => absurd h (by decide))
  have h := exec_sound 100 _ _ _ _ _ hexec (by simp [Facts.Holds]) hK
  simpa only [Outcome.den, SymState.den, SymState.machine, mainState, entryCall, List.map,
    List.append_nil, List.nil_append, List.flatMap_nil, runEnv_base, Nat.zero_add] using h

/-- With `u + v ≤ 4` the invalid count `4 - (u + v)` does not wrap. -/
theorem invalid_val {u v : Number} (hsum : u.val + v.val ≤ 4) :
    ((4 : Number) - (u + v)).val = 4 - v.val - u.val := by
  have hadd : (u + v).val = u.val + v.val := by
    rw [Fin.val_add]; exact Nat.mod_eq_of_lt (by omega)
  have h4 : (4 : Number).val = 4 := rfl
  rw [Fin.coe_sub_iff_le.mpr (by rw [Fin.le_def, hadd, h4]; exact hsum), hadd, h4]
  omega

/-- The tail of `MAIN` sends the INFORMATION event with the counts and leaves whether no
entry is invalid. -/
theorem main_tail_runs {u v p : Number} (hsum : u.val + v.val ≤ 4) (input : Input) (out : Output)
    (evs : List Event) (hC : 50 ≤ C) (hq : input.queue = some image)
    (hstr : out.stringTable = vsvfStrings) (hnum : out.numStrings = 24) :
    Runs o C (vsvfProgram info err) vsvfNumInstructions
      ⟨main + 28, ⟨[.num p, .num v, .num u], []⟩, { input with head := 48 }, lineBuffer C [] out,
        evs⟩
      ⟨main + 32, ⟨[.bool (decide (4 - v.val - u.val = 0))], []⟩, { input with head := 48 },
        lineBuffer C [] out, evs ++ [⟨0x0008, info.val, "Table image entries: ".toList ++
          decimal v.val ++ " valid, ".toList ++ decimal (4 - v.val - u.val) ++
          " invalid, ".toList ++ decimal u.val ++ " unused".toList⟩]⟩ := by
  have hmax : numMax.val = 4294967295 := rfl
  have hK : Fits o C (runEnv [u, v, 0, 0, 0, p] info err image 0) ⟨[], [], input, out, evs⟩
      (vsvfProgram info err) tailCode := by
    refine fits_vsvfCode rfl rfl hC (by simp) hq (Nat.zero_le _) hstr hnum ?_
      (fun h => absurd h (by decide))
    intro i
    match i with
    | 0 => show u.val ≤ 4; omega
    | 1 => show v.val ≤ 4; omega
    | _ + 2 => show _ ≤ 4294967295; exact Nat.le_of_lt_succ (Fin.isLt _)
  have hF : tailFacts.Holds o (runEnv [u, v, 0, 0, 0, p] info err image 0) := by
    refine ⟨by simp [tailFacts], by simp [tailFacts], ?_⟩
    simp only [tailFacts, List.mem_singleton, forall_eq, NumE.eval]
    show (u + v).val ≤ 4
    rw [Fin.val_add, Nat.mod_eq_of_lt (by omega)]
    exact hsum
  have h := exec_sound 200 _ _ _ _ _ exec_main_tail hF hK
  have hb : decide ((0 : Number) = 4 - (u + v)) = decide (4 - v.val - u.val = 0) :=
    decide_eq_decide.mpr (by rw [Fin.ext_iff, invalid_val hsum, eq_comm]; rfl)
  simp only [Outcome.den, SymState.den, SymState.machine, mainState, List.map, List.append_nil,
    List.nil_append, List.flatMap_nil, Nat.zero_add, SymV.den, BoolE.eval, NumE.eval, invalidE,
    List.flatMap_cons, SymEvent.den, infoEvent, if_true, Piece.render, hstr, cString_vsvfStrings,
    runEnv_vars, runEnv_base, List.cons_append, List.singleton_append, List.getD_cons_zero,
    List.getD_cons_succ, hb, invalid_val hsum] at h
  simpa only [List.append_assoc] using h

/-- `HALT` ends the run with the Boolean on top. -/
theorem step_halt (b : Bool) (input : Input) (out : Output) (evs : List Event) :
    ∃ m', Machine.step o C (fetch (vsvfProgram info err) (main + 32))
        ⟨main + 32, ⟨[.bool b], []⟩, input, out, evs⟩ =
      .error (if b then .haltTrue else .haltFalse) m' ∧ m'.events = evs :=
  ⟨_, rfl, rfl⟩

end Pieces

/-! ## The whole run -/

/-- Saving the identifier `p` in a free slot of the saved identifiers. -/
theorem saved_iff (pre post : List Number) (p : Number) {n : Nat} (hn : n ≠ 0) :
    (∃ s ∈ pre ++ p :: post, s.val = n) ↔ (∃ s ∈ pre ++ 0 :: post, s.val = n) ∨ p.val = n := by
  simp only [List.mem_append, List.mem_cons]
  constructor
  · rintro ⟨s, hs | rfl | hs, h⟩
    · exact .inl ⟨s, .inl hs, h⟩
    · exact .inr h
    · exact .inl ⟨s, .inr (.inr hs), h⟩
  · rintro (⟨s, hs | rfl | hs, h⟩ | h)
    · exact ⟨s, .inl hs, h⟩
    · exact absurd h.symm hn
    · exact ⟨s, .inr (.inr hs), h⟩
    · exact ⟨p, .inr (.inl rfl), h⟩

/-- The reference state after the first `k` entries of the image. -/
def refStates (err : Number) (o : ByteOrder) (image : List UInt8) : Nat → RefState
  | 0 => RefState.init
  | k + 1 => refEntry err (k + 1) (vsEntryOf o (image.drop (12 * k))) (refStates err o image k)

/-- The reference validation of a table image, from the state after its four entries. -/
theorem referenceValidate_refStates (info err : Number) (o : ByteOrder) (image : List UInt8) :
    referenceValidate info err (vsTableEntries o image) =
      ((refStates err o image 4).events ++ [⟨0x0008, info.val, "Table image entries: ".toList ++
        decimal (refStates err o image 4).valid ++ " valid, ".toList ++
        decimal (4 - (refStates err o image 4).valid - (refStates err o image 4).unused) ++
        " invalid, ".toList ++ decimal (refStates err o image 4).unused ++ " unused".toList⟩],
      decide (4 - (refStates err o image 4).valid - (refStates err o image 4).unused = 0)) :=
  rfl

/-- After `k` entries at most `k` are counted. -/
theorem refStates_counts (err : Number) (o : ByteOrder) (image : List UInt8) :
    ∀ k, (refStates err o image k).valid + (refStates err o image k).unused ≤ k
  | 0 => le_refl 0
  | k + 1 => (refEntry_counts_le _ _ _ _).trans (Nat.succ_le_succ (refStates_counts err o image k))

theorem refStates_succ_events (err : Number) (o : ByteOrder) (image : List UInt8) (k : Nat) :
    (refStates err o image (k + 1)).events = (refStates err o image k).events ++
      (refEntry err (k + 1) (vsEntryOf o (image.drop (12 * k)))
        { refStates err o image k with events := [] }).events :=
  refEntry_events _ _ _ _

/-- The events of the four steps, each from its state with no event yet. -/
theorem refStates_four_events (err : Number) (o : ByteOrder) (image : List UInt8) :
    (refStates err o image 4).events =
      (refEntry err 1 (vsEntryOf o (image.drop 0)) { refStates err o image 0 with events := [] }).events ++
      (refEntry err 2 (vsEntryOf o (image.drop 12)) { refStates err o image 1 with events := [] }).events ++
      (refEntry err 3 (vsEntryOf o (image.drop 24)) { refStates err o image 2 with events := [] }).events ++
      (refEntry err 4 (vsEntryOf o (image.drop 36)) { refStates err o image 3 with events := [] }).events := by
  rw [refStates_succ_events, refStates_succ_events, refStates_succ_events, refStates_succ_events]
  rfl

theorem entryRel_init : EntryRel RefState.init 0 0 [0, 0, 0] :=
  ⟨rfl, rfl, rfl, fun q hq => by
    have hne := inuse_ne_zero hq
    simp only [RefState.init, List.not_mem_nil, false_iff, not_exists, not_and, List.mem_cons,
      or_false]
    rintro s (rfl | rfl | rfl) h <;> exact hne h.symm⟩

section Whole

variable {o : ByteOrder} {C : Nat} {info err : Number} {image : List UInt8}

/-- `MAIN` runs from its start to `HALT` with whether the reference finds the image valid,
having sent the reference's events. -/
theorem main_runs_halt (hC : 50 ≤ C) (input : Input) (hq : input.queue = some image)
    (hsize : 48 ≤ input.size) (out : Output) (hstr : out.stringTable = vsvfStrings)
    (hnum : out.numStrings = 24) (evs : List Event) :
    Runs o C (vsvfProgram info err) vsvfNumInstructions
      ⟨main, ⟨[], []⟩, { input with head := 0 }, lineBuffer C [] out, evs⟩
      ⟨main + 32, ⟨[.bool (referenceValidate info err (vsTableEntries o image)).2], []⟩,
        { input with head := 48 }, lineBuffer C [] out,
        evs ++ (referenceValidate info err (vsTableEntries o image)).1⟩ := by
  have hmax : numMax.val = 4294967295 := rfl
  -- Entry 1, with nothing saved.
  obtain ⟨u1, v1, hu1, hv1, r1⟩ := @validateEntry_returns o C (refStates err o image 0) 0 0 0 0 0 1
    info err image 0 (main + 7) [] [] input out hC hq (by omega) hstr hnum (by simp) entryRel_init
    (by decide) (by decide) (by decide)
  have hu1' : u1.val = (refStates err o image 1).unused := hu1
  have hv1' : v1.val = (refStates err o image 1).valid := hv1
  have c1 := refStates_counts err o image 1
  have hrel2 : EntryRel (refStates err o image 1) u1 v1
      [parmNum (vsEntryOf o (image.drop 0)), 0, 0] :=
    entryRel_init.step hu1 hv1 fun _ hq => saved_iff [] [0, 0] _ (inuse_ne_zero hq)
  -- Entry 2, with the first identifier saved.
  obtain ⟨u2, v2, hu2, hv2, r2⟩ := @validateEntry_returns o C (refStates err o image 1) u1 v1
    (parmNum (vsEntryOf o (image.drop 0))) 0 0 2 info err image 12 (main + 15)
    [.num (parmNum (vsEntryOf o (image.drop 0))), .num (parmNum (vsEntryOf o (image.drop 0)))] []
    input out hC hq (by omega) hstr hnum (by simp) hrel2 (by omega) (by omega) (by decide)
  have hu2' : u2.val = (refStates err o image 2).unused := hu2
  have hv2' : v2.val = (refStates err o image 2).valid := hv2
  have c2 := refStates_counts err o image 2
  have hrel3 : EntryRel (refStates err o image 2) u2 v2
      [parmNum (vsEntryOf o (image.drop 0)), parmNum (vsEntryOf o (image.drop 12)), 0] :=
    hrel2.step hu2 hv2 fun _ hq => saved_iff [parmNum (vsEntryOf o (image.drop 0))] [0] _
      (inuse_ne_zero hq)
  -- Entry 3, with two identifiers saved.
  obtain ⟨u3, v3, hu3, hv3, r3⟩ := @validateEntry_returns o C (refStates err o image 2) u2 v2
    (parmNum (vsEntryOf o (image.drop 0))) (parmNum (vsEntryOf o (image.drop 12))) 0 3 info err
    image 24 (main + 23)
    [.num (parmNum (vsEntryOf o (image.drop 12))), .num (parmNum (vsEntryOf o (image.drop 0)))] []
    input out hC hq (by omega) hstr hnum (by simp) hrel3 (by omega) (by omega) (by decide)
  have hu3' : u3.val = (refStates err o image 3).unused := hu3
  have hv3' : v3.val = (refStates err o image 3).valid := hv3
  have c3 := refStates_counts err o image 3
  have hrel4 : EntryRel (refStates err o image 3) u3 v3
      [parmNum (vsEntryOf o (image.drop 0)), parmNum (vsEntryOf o (image.drop 12)),
        parmNum (vsEntryOf o (image.drop 24))] :=
    hrel3.step hu3 hv3 fun _ hq => saved_iff
      [parmNum (vsEntryOf o (image.drop 0)), parmNum (vsEntryOf o (image.drop 12))] [] _
      (inuse_ne_zero hq)
  -- Entry 4, with three identifiers saved.
  obtain ⟨u4, v4, hu4, hv4, r4⟩ := @validateEntry_returns o C (refStates err o image 3) u3 v3
    (parmNum (vsEntryOf o (image.drop 0))) (parmNum (vsEntryOf o (image.drop 12)))
    (parmNum (vsEntryOf o (image.drop 24))) 4 info err image 36 (main + 28) [] [] input out hC hq
    (by omega) hstr hnum (by simp) hrel4 (by omega) (by omega) (by decide)
  have hu4' : u4.val = (refStates err o image 4).unused := hu4
  have hv4' : v4.val = (refStates err o image 4).valid := hv4
  have c4 := refStates_counts err o image 4
  have run := ((((((((@main_piece_runs o C info err image _ _ _ _ _ [0, 0, 0, 0, 0, 0] rfl input out
    evs exec_main_first hC hq hstr hnum).trans (r1 _)).trans
    (@main_piece_runs o C info err image _ _ _ _ _
      [u1, v1, parmNum (vsEntryOf o (image.drop 0)), 0, 0, 0] rfl input out _ exec_main_second hC hq
      hstr hnum)).trans (r2 _)).trans
    (@main_piece_runs o C info err image _ _ _ _ _
      [u2, v2, parmNum (vsEntryOf o (image.drop 0)), parmNum (vsEntryOf o (image.drop 12)), 0, 0] rfl
      input out _ exec_main_third hC hq hstr hnum)).trans (r3 _)).trans
    (@main_piece_runs o C info err image _ _ _ _ _
      [u3, v3, parmNum (vsEntryOf o (image.drop 0)), parmNum (vsEntryOf o (image.drop 12)),
        parmNum (vsEntryOf o (image.drop 24)), 0] rfl
      input out _ exec_main_fourth hC hq hstr hnum)).trans (r4 _)).trans
    (@main_tail_runs o C info err image u4 v4 (parmNum (vsEntryOf o (image.drop 36))) (by omega)
      input out _ hC hq hstr hnum)
  rw [referenceValidate_refStates, refStates_four_events, ← hu4', ← hv4']
  simpa only [List.append_assoc] using run

end Whole

/-! ## `GRUNT_Run` of the validator program -/

/-- The run of `vsvf_program` on a table image stops at the `HALT` with the reference's verdict
and the reference's events sent. -/
theorem gruntRun_vsvf (o : ByteOrder) (C : Nat) (hC : 50 ≤ C) (info err : Number)
    (image : List UInt8) (vm : Vm) :
    ∃ vm' : Vm, gruntRun o C (vsvfProgram info err) vsvfNumInstructions (some image) 48 vsvfStrings
        24 vm = ((if (referenceValidate info err (vsTableEntries o image)).2 then .haltTrue
          else .haltFalse), vm') ∧
      vm'.events = vm.events ++ (referenceValidate info err (vsTableEntries o image)).1 := by
  have hstart : (runStart C (some image) 48 vsvfStrings 24 vm).abs =
      ⟨main, ⟨[], []⟩, { (⟨some image, 48, 0⟩ : Input) with head := 0 },
        lineBuffer C [] ⟨vsvfStrings, 24, [], 0⟩, vm.events⟩ := by
    rw [runStart_abs]
    simp only [Machine.after, List.append_nil]
    rfl
  obtain ⟨vm', hvm', hloop⟩ := runLoop_of_runs
    (@main_runs_halt o C info err image hC ⟨some image, 48, 0⟩ rfl le_rfl ⟨vsvfStrings, 24, [], 0⟩
      rfl rfl vm.events) _ hstart
  obtain ⟨m', hstep, hev⟩ := @step_halt o C info err
    (referenceValidate info err (vsTableEntries o image)).2 { (⟨some image, 48, 0⟩ : Input) with head := 48 }
    (lineBuffer C [] ⟨vsvfStrings, 24, [], 0⟩)
    (vm.events ++ (referenceValidate info err (vsTableEntries o image)).1)
  obtain ⟨vm'', hvm'', hhalt⟩ := runLoop_of_stepError (m := ⟨main + 32, ⟨[.bool _], []⟩, _, _, _⟩)
    (show main + 32 < vsvfNumInstructions by decide) hstep vm' hvm'
  exact ⟨vm'', hloop.trans hhalt, by rw [← Vm.abs_events, hvm'', hev]⟩

/-- `VSC_table_validate`'s run of `vsvf_program` on a table image halts with `HaltTrue` or
`HaltFalse` as the reference validation finds the image valid or not, after sending exactly
the reference's events. -/
theorem vsvf_run_reference (o : ByteOrder) (C : Nat) (hC : 50 ≤ C) (info err : Number)
    (image : List UInt8) (vm : Vm) :
    (gruntRun o C (vsvfProgram info err) vsvfNumInstructions (some image) 48 vsvfStrings 24 vm).1 =
        (if (referenceValidate info err (vsTableEntries o image)).2 then .haltTrue else .haltFalse) ∧
      (gruntRun o C (vsvfProgram info err) vsvfNumInstructions (some image) 48 vsvfStrings 24
        vm).2.events = vm.events ++ (referenceValidate info err (vsTableEntries o image)).1 := by
  obtain ⟨vm', hrun, hev⟩ := gruntRun_vsvf o C hC info err image vm
  rw [hrun]
  exact ⟨rfl, hev⟩

/-- On an image of four zeroed unused entries the run halts with `HaltTrue` and sends only
the INFORMATION event. -/
theorem vsvf_run_reference_zero :
    (gruntRun .little 50 (vsvfProgram 0 0) vsvfNumInstructions (some (List.replicate 48 0)) 48
        vsvfStrings 24 (Vm.boot 50)).1 = .haltTrue ∧
      (gruntRun .little 50 (vsvfProgram 0 0) vsvfNumInstructions (some (List.replicate 48 0)) 48
        vsvfStrings 24 (Vm.boot 50)).2.events =
        [⟨8, 0, "Table image entries: 0 valid, 0 invalid, 4 unused".toList⟩] := by
  obtain ⟨h1, h2⟩ := vsvf_run_reference .little 50 (by decide) 0 0 (List.replicate 48 0) (Vm.boot 50)
  have hv : (refStates 0 .little (List.replicate 48 0) 4).valid = 0 := by decide
  have hu : (refStates 0 .little (List.replicate 48 0) 4).unused = 4 := by decide
  have he : (refStates 0 .little (List.replicate 48 0) 4).events = [] := by decide
  have h4 : decimal 4 = ['4'] := by
    rw [decimal, if_neg (by decide), Nat.digits_of_lt 10 4 (by decide) (by decide)]
    rfl
  rw [referenceValidate_refStates, hv, hu, he] at h1 h2
  exact ⟨h1.trans (by decide), h2.trans (by rw [h4]; rfl)⟩

end Grunt.Vsvf
