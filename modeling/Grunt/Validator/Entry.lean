import Grunt.SymbolicSound
import Grunt.Validator.Reference
import Grunt.Validator.Runs

/-!
# One call of `VALIDATE_ENTRY`

`MAIN` calls `VALIDATE_ENTRY` once for each of the four entries of a 48-byte table image.
This module proves what one call does: with the counts, the saved identifiers and the entry
number on the argument stack, the subroutine reads the entry's twelve bytes, sends the events
the reference step of `Grunt.Vsvf.Reference` sends for it, and returns with the counts of that
step and the entry's identifier pushed (`validateEntry_returns`).

The proof reads the symbolic runs of `Grunt.Vsvf.Runs` through `exec_sound`.  Each class
of identifier gets a lemma saying what the summary of its run of `VALIDATE_ENTRY` is in
terms of the entry (`den_unusedSummary`, `den_inuseSummary`, `den_unknownSummary`);
`validateEntry_runs` puts the classes together into one step of the reference.
-/

namespace Grunt.Vsvf

open Grunt.Sym

/-! ## Strings and program literals -/

theorem cString_vsvfStrings (i : Nat) :
    cString (vsvfStrings.getD i "") = (vsvfStrings.getD i "").toList := by
  rcases Nat.lt_or_ge i 24 with h | h
  · exact (by decide : ∀ i < 24, cString (vsvfStrings.getD i "") = (vsvfStrings.getD i "").toList)
      i h
  · rw [List.getD_eq_default _ _ (by simpa using h)]
    rfl

theorem vsvfLens_eq (i : Nat) (hi : i < vsvfStrings.length) :
    vsvfLens.getD i 0 = (cString (vsvfStrings.getD i "")).length := by
  rw [cString_vsvfStrings]
  exact (by decide : ∀ i < 24, vsvfLens.getD i 0 = (vsvfStrings.getD i "").toList.length) i hi

set_option maxRecDepth 10000 in
/-- The program differs from its tree's program only in the pushes of the event types. -/
theorem vsvfProgram_eq_set (info err : Number) :
    vsvfProgram info err =
      (((vsvfProgram 0 0).set 323 (Instruction.pushn info)).set 332 (Instruction.pushn err)).set
        343 (Instruction.pushn err) := by
  rfl

theorem length_vsvfProgram (info err : Number) : (vsvfProgram info err).length = 421 := by
  simp only [vsvfProgram, List.length_append]
  rfl

theorem vsvfLits_eq :
    vsvfLits = [(323, .num (.var 6)), (332, .num (.var 7)), (343, .num (.var 7))] := by
  decide

set_option maxRecDepth 10000 in
/-- The three pushes of an event type, in the program with both types `0`. -/
theorem vsvfProgram_pushes :
    (vsvfProgram 0 0)[323]? = some (Instruction.pushn 0) ∧
      (vsvfProgram 0 0)[332]? = some (Instruction.pushn 0) ∧
      (vsvfProgram 0 0)[343]? = some (Instruction.pushn 0) :=
  ⟨rfl, rfl, rfl⟩

/-- The tree and the literal terms stand for the program, when the unknowns `6` and `7` are
the event types. -/
theorem vsvf_matches {o : ByteOrder} {env : Env} {info err : Number} (h6 : env.vars 6 = info)
    (h7 : env.vars 7 = err) (pc : Fin 65536) (hpc : pc < vsvfNumInstructions) :
    Matches o env (vsvfLits.lookup pc.val) (vsvfTree.get pc.val)
      (fetch (vsvfProgram info err) pc) := by
  have hpc' : pc.val < 421 := hpc
  rw [vsvfTree, get_ofList (by rw [length_vsvfProgram]; decide)
    (by rw [length_vsvfProgram]; exact hpc'), fetch, vsvfProgram_eq_set info err, vsvfLits_eq]
  simp only [List.getD_eq_getElem?_getD, List.getElem?_set, List.length_set, length_vsvfProgram]
  by_cases h₁ : pc.val = 343
  · rw [h₁, vsvfProgram_pushes.2.2]
    exact ⟨rfl, rfl, rfl, by simp [SymV.den, NumE.eval, h7]; rfl⟩
  by_cases h₂ : pc.val = 332
  · rw [h₂, vsvfProgram_pushes.2.1]
    exact ⟨rfl, rfl, rfl, by simp [SymV.den, NumE.eval, h7]; rfl⟩
  by_cases h₃ : pc.val = 323
  · rw [h₃, vsvfProgram_pushes.1]
    exact ⟨rfl, rfl, rfl, by simp [SymV.den, NumE.eval, h6]; rfl⟩
  have hnone : ([(323, .num (.var 6)), (332, .num (.var 7)), (343, .num (.var 7))] :
      List (Nat × SymV)).lookup pc.val = none := by
    simp only [List.lookup, beq_false_of_ne h₁, beq_false_of_ne h₂, beq_false_of_ne h₃]
  rw [hnone]
  simp only [Ne.symm h₁, Ne.symm h₂, Ne.symm h₃, if_false]
  exact rfl

/-! ## The fields of the entry -/

theorem forall_mem_take_drop (l : List UInt8) (n w : Nat) :
    (∀ b ∈ (l.drop n).take w, b = 0) ↔ ∀ j < w, l.getD (n + j) 0 = 0 := by
  simp only [List.mem_iff_getElem?, List.getElem?_take, List.getElem?_drop,
    List.getD_eq_getElem?_getD]
  constructor
  · intro h j hj
    rcases hb : l[n + j]? with _ | b
    · rfl
    · exact h b ⟨j, by rw [if_pos hj, hb]⟩
  · rintro h b ⟨j, hj⟩
    split_ifs at hj with hjw
    simpa [hj] using h j hjw

theorem getD_drop (l : List UInt8) (n j : Nat) : (l.drop n).getD j 0 = l.getD (n + j) 0 := by
  simp only [List.getD_eq_getElem?_getD, List.getElem?_drop]

theorem decode_take_one (o : ByteOrder) (l : List UInt8) (n : Nat) :
    o.decode ((l.drop n).take 1) = (l.getD n 0).toNat := by
  rcases Nat.lt_or_ge n l.length with h | h
  · rw [List.drop_eq_getElem_cons h, List.getD_eq_getElem _ _ h]
    exact decode_singleton o _
  · rw [List.drop_eq_nil_of_le h, List.getD_eq_default _ _ h]
    cases o <;> rfl

section Fields

variable {o : ByteOrder} {env : Env}

/-- A field of at most four bytes is read whole: no reduction modulo `2 ^ 32` happens. -/
theorem fieldValue_val (off w : Nat) (hw : w ≤ 4) :
    (fieldValue o env off w).val = o.decode ((env.image.drop (env.base + off)).take w) :=
  Nat.mod_eq_of_lt ((decode_lt o _).trans_le
    ((Nat.pow_le_pow_right (by decide) ((List.length_take_le _ _).trans hw)).trans (by decide)))

theorem fieldValue_eq_zero_iff (off w : Nat) (hw : w ≤ 4) :
    fieldValue o env off w = 0 ↔ ∀ j < w, env.image.getD (env.base + off + j) 0 = 0 := by
  rw [Fin.ext_iff, fieldValue_val off w hw, show (0 : Number).val = 0 from rfl,
    decode_eq_zero_iff, forall_mem_take_drop]

/-- The entry at the base of the window. -/
abbrev baseEntry (o : ByteOrder) (env : Env) : VsEntry := vsEntryOf o (env.image.drop env.base)

theorem fieldValue_parmId : (fieldValue o env 0 1).val = (baseEntry o env).parmId.toNat := by
  rw [fieldValue_val 0 1 (by decide), decode_take_one, Nat.add_zero]
  simp only [baseEntry, vsEntryOf, getD_drop, Nat.add_zero]

theorem fieldValue_four (off : Nat) : fieldValue o env off 4 = readUint32 o (env.image.drop env.base) off :=
  Fin.ext (by
    rw [fieldValue_val off 4 le_rfl]
    show _ = o.decode (((env.image.drop env.base).drop off).take 4)
    rw [List.drop_drop])

theorem fieldValue_boundLow : fieldValue o env 4 4 = (baseEntry o env).boundLow := fieldValue_four 4

theorem fieldValue_boundHigh : fieldValue o env 8 4 = (baseEntry o env).boundHigh := fieldValue_four 8

theorem eval_padB : padB.eval o env = decide (∀ i, (baseEntry o env).pad i = 0) := by
  have h2 := @fieldValue_eq_zero_iff o env 2 2 (by decide)
  have h1 := @fieldValue_eq_zero_iff o env 1 1 (by decide)
  simp only [padB, BoolE.eval, NumE.eval, ← Bool.decide_and, decide_eq_decide,
    eq_comm (a := (0 : Number)), h1, h2]
  simp only [baseEntry, vsEntryOf, getD_drop, Fin.forall_fin_succ, Nat.forall_lt_succ,
    Nat.not_lt_zero, IsEmpty.forall_iff, Fin.val_zero, Fin.val_succ, implies_true, true_and,
    and_true, Nat.add_assoc, Nat.add_zero, Nat.zero_add, Nat.reduceAdd]
  exact ⟨fun ⟨⟨a, b⟩, c⟩ => ⟨c, a, b⟩, fun ⟨c, a, b⟩ => ⟨⟨a, b⟩, c⟩⟩

end Fields

section Guards

variable {o : ByteOrder} {env : Env}

theorem eval_zeroedB : zeroedB.eval o env = decide ((∀ i, (baseEntry o env).pad i = 0) ∧
    (baseEntry o env).boundLow = 0 ∧ (baseEntry o env).boundHigh = 0) := by
  have h : zeroedB.eval o env = (decide (0 = fieldValue o env 8 4) &&
      decide (0 = fieldValue o env 4 4) && padB.eval o env) := by
    simp only [zeroedB, padB, BoolE.eval, NumE.eval, Bool.and_assoc]
  rw [h, eval_padB, fieldValue_boundLow, fieldValue_boundHigh, ← Bool.decide_and,
    ← Bool.decide_and, decide_eq_decide, eq_comm (a := (0 : Number)), eq_comm (a := (0 : Number))]
  tauto

/-- A bound is outside `[lo, hi]`. -/
theorem eval_outsideB (off : Nat) (lo hi : Number) : (outsideB off lo hi).eval o env =
    !decide (lo.val ≤ (fieldValue o env off 4).val ∧ (fieldValue o env off 4).val ≤ hi.val) := by
  rw [Bool.eq_iff_iff]
  simp only [outsideB, BoolE.eval, NumE.eval, Bool.or_eq_true, decide_eq_true_eq,
    Fin.lt_iff_val_lt_val, Bool.not_eq_true', decide_eq_false_iff_not, not_and, not_le]
  constructor
  · rintro (h | h) h' <;> omega
  · intro h
    by_cases h' : lo.val ≤ (fieldValue o env off 4).val
    · exact .inl (h h')
    · exact .inr (by omega)

theorem eval_orderB : orderB.eval o env =
    !decide ((baseEntry o env).boundLow.val ≤ (baseEntry o env).boundHigh.val) := by
  simp only [orderB, BoolE.eval, NumE.eval, fieldValue_boundLow, fieldValue_boundHigh,
    Fin.lt_iff_val_lt_val, ← decide_not, not_le]

end Guards

/-! ## The step of the reference a return of `VALIDATE_ENTRY` stands for -/

/-- The identifier of an entry, as the number `INPUT(1)` reads. -/
def parmNum (e : VsEntry) : Number := ⟨e.parmId.toNat, (UInt8.toNat_lt_size _).trans (by decide)⟩

/-- The unknowns of a run: the six numbers `xs` as `0` to `5`, then the event types as `6`
and `7`, with the input window at `base` of `image`.  A run of `VALIDATE_ENTRY` takes
`u v s1 s2 s3 e`, a piece of `MAIN` the counts and the four identifiers. -/
def runEnv (xs : List Number) (info err : Number) (image : List UInt8) (base : Nat) : Env :=
  ⟨fun i => (xs ++ [info, err]).getD i 0, image, base⟩

theorem toNat_toUInt8 (q : UInt8) : q.toNat.toUInt8 = q :=
  UInt8.eq_of_val_eq (Fin.ext (Nat.mod_eq_of_lt (UInt8.toNat_lt_size q)))

/-- The counts and saved identifiers stand for the reference state `st`: `u` and `v` are
its counts, an unused entry was seen exactly when `u > 0`, and an in-use identifier was
seen exactly when it is one of the saved ones. -/
structure EntryRel (st : RefState) (u v : Number) (saved : List Number) : Prop where
  unused : u.val = st.unused
  valid : v.val = st.valid
  saw : st.sawUnused = decide (0 < u.val)
  seen : ∀ q : UInt8, (isAnimalId q || isDirectionId q) = true →
    (q ∈ st.seen ↔ ∃ s ∈ saved, s.val = q.toNat)

/-- The machine `VALIDATE_ENTRY` returns with: `p v u` on what lay below its arguments,
twelve bytes read, an empty line, and `events` sent. -/
def entryDone (C : Nat) (fr : Sym.Frame) (base : Nat) (p v u : Number) (events : List Event) :
    Machine :=
  ⟨(fr.ctl.headD (.pc 0)).valPc, ⟨[.num p, .num v, .num u] ++ fr.rest, fr.ctl.tail⟩,
    { fr.input with head := base + 12 }, lineBuffer C [] fr.output, fr.events ++ events⟩

section Den

variable {o : ByteOrder} {C : Nat} {env : Env} {fr : Sym.Frame}

theorem den_ret_entryDone {s : SymState} {p v u : Number} {events : List Event}
    (hargs : s.args.map (SymV.den o env) = [.num p, .num v, .num u]) (hhead : s.head = 12)
    (hline : s.line = []) (hstr : fr.output.stringTable = vsvfStrings)
    (hev : s.events.flatMap (SymEvent.den o env vsvfStrings) = events) :
    (Outcome.ret s).den o C env fr = entryDone C fr env.base p v u events := by
  simp only [Outcome.den, SymState.machine, hargs, hhead, hline, hstr, hev, List.flatMap_nil,
    entryDone]

theorem den_errorEvent (eid : Number) (name msg : Fin 65536) (g : BoolE) :
    (errorEvent eid name msg g).den o env vsvfStrings =
      if g.eval o env = true then
        [⟨eid.val, (env.vars 7).val, "Table entry ".toList ++ decimal (env.vars 5).val ++
          " parm ".toList ++ (vsvfStrings.getD name.val "").toList ++
          (vsvfStrings.getD msg.val "").toList⟩]
      else [] := by
  simp only [SymEvent.den, errorEvent, NumE.eval, List.flatMap_cons, List.flatMap_nil,
    Piece.render, cString_vsvfStrings, List.append_nil, List.append_assoc]
  rfl

/-- An error event of an entry, sent when `c` holds. -/
theorem den_errorEvent_of_eval {eid err : Number} {name msg : Fin 65536} {g : BoolE} {k : Nat}
    {p : UInt8} {text : String} {c : Prop} [Decidable c] (h5 : (env.vars 5).val = k)
    (h7 : env.vars 7 = err) (hname : vsvfStrings.getD name.val "" = parmName p)
    (hmsg : vsvfStrings.getD msg.val "" = text) (hg : g.eval o env = decide c) :
    (errorEvent eid name msg g).den o env vsvfStrings =
      if c then [⟨eid.val, err.val, entryText k p text⟩] else [] := by
  rw [den_errorEvent, h5, h7, hname, hmsg, hg]
  by_cases hc : c
  · rw [decide_eq_true hc, if_pos rfl, if_pos hc]
    rfl
  · rw [decide_eq_false hc, if_neg Bool.false_ne_true, if_neg hc]

end Den

/-! ## The classes of identifier -/

/-- `m` is the return of `VALIDATE_ENTRY` for the reference's step on entry `ent` from `st`:
it holds the counts after the step and the entry's identifier, and the step's events were
sent. -/
def EntryReturn (m : Machine) (C : Nat) (fr : Sym.Frame) (base : Nat) (err : Number) (k : Nat)
    (ent : VsEntry) (st : RefState) : Prop :=
  ∃ u' v' : Number, u'.val = (refEntry err k ent st).unused ∧
    v'.val = (refEntry err k ent st).valid ∧
    m = entryDone C fr base (parmNum ent) v' u' (refEntry err k ent { st with events := [] }).events

theorem count_val_add_one {u : Number} (hu : u.val < numMax.val) : (u + 1).val = u.val + 1 := by
  have hmax : numMax.val = 4294967295 := rfl
  rw [Fin.val_add]; simp only [Fin.val_one']; omega

section Classes

variable {o : ByteOrder} {C : Nat} {env : Env} {fr : Sym.Frame} {st : RefState}
  {saved : List Number} {k : Nat} {err : Number}

theorem parmNum_baseEntry_zero (hp : (baseEntry o env).parmId = 0) :
    parmNum (baseEntry o env) = 0 :=
  Fin.ext (by simp only [parmNum, hp]; rfl)

theorem den_unusedSummary (hstr : fr.output.stringTable = vsvfStrings) (hrel : EntryRel st (env.vars 0) (env.vars 1) saved)
    (hk : (env.vars 5).val = k) (h7 : env.vars 7 = err) (hu : (env.vars 0).val < numMax.val)
    (hp : (baseEntry o env).parmId = 0) :
    EntryReturn ((Outcome.ret unusedSummary).den o C env fr) C fr env.base err k
      (baseEntry o env) st := by
  have hname : vsvfStrings.getD (14 : Fin 65536).val "" = parmName (baseEntry o env).parmId := by
    rw [hp]; rfl
  have hmsg : vsvfStrings.getD (6 : Fin 65536).val "" = " not zeroed" := rfl
  have hg : (BoolE.not zeroedB).eval o env =
      decide ¬((∀ i, (baseEntry o env).pad i = 0) ∧ (baseEntry o env).boundLow = 0 ∧
        (baseEntry o env).boundHigh = 0) := by
    rw [BoolE.eval, eval_zeroedB, decide_not]
  have hev : (errorEvent vsTblZeroErrEid 14 6 (.not zeroedB)).den o env vsvfStrings = _ :=
    den_errorEvent_of_eval hk h7 hname hmsg hg
  by_cases hz : (∀ i, (baseEntry o env).pad i = 0) ∧ (baseEntry o env).boundLow = 0 ∧
      (baseEntry o env).boundHigh = 0
  · refine ⟨env.vars 0 + 1, env.vars 1, ?_, ?_, den_ret_entryDone ?_ rfl rfl hstr ?_⟩
    · simp only [refEntry, hp, if_true, if_pos hz, count_val_add_one hu, hrel.unused]
    · simp only [refEntry, hp, if_true, if_pos hz, hrel.valid]
    · simp only [unusedSummary, List.map, SymV.den, NumE.eval, eval_zeroedB,
        decide_eq_true hz, if_true, parmNum_baseEntry_zero hp]
    · simp only [unusedSummary, List.flatMap_cons, List.flatMap_nil, List.append_nil, hev,
        if_neg (not_not_intro hz), refEntry, hp, if_true, if_pos hz]
  · refine ⟨env.vars 0, env.vars 1, ?_, ?_, den_ret_entryDone ?_ rfl rfl hstr ?_⟩
    · simp only [refEntry, hp, if_true, if_neg hz, hrel.unused]
    · simp only [refEntry, hp, if_true, if_neg hz, hrel.valid]
    · simp only [unusedSummary, List.map, SymV.den, NumE.eval, eval_zeroedB,
        decide_eq_false hz, parmNum_baseEntry_zero hp, Bool.false_eq_true, if_false]
    · simp only [unusedSummary, List.flatMap_cons, List.flatMap_nil, List.append_nil, hev,
        if_pos hz, refEntry, hp, if_true, if_neg hz, List.nil_append]
      rfl

theorem fieldValue_parmNum : fieldValue o env 0 1 = parmNum (baseEntry o env) :=
  Fin.ext fieldValue_parmId

theorem den_unknownSummary (hstr : fr.output.stringTable = vsvfStrings)
    (hrel : EntryRel st (env.vars 0) (env.vars 1) saved) (hk : (env.vars 5).val = k)
    (h7 : env.vars 7 = err) (hp : (baseEntry o env).parmId ≠ 0)
    (huse : (isAnimalId (baseEntry o env).parmId || isDirectionId (baseEntry o env).parmId) = false) :
    EntryReturn ((Outcome.ret unknownSummary).den o C env fr) C fr env.base err k
      (baseEntry o env) st := by
  refine ⟨env.vars 0, env.vars 1, ?_, ?_, den_ret_entryDone ?_ rfl rfl hstr ?_⟩
  · simp only [refEntry, if_neg hp, huse, Bool.false_eq_true, if_false, hrel.unused]
  · simp only [refEntry, if_neg hp, huse, Bool.false_eq_true, if_false, hrel.valid]
  · simp only [unknownSummary, List.map, SymV.den, NumE.eval, fieldValue_parmNum]
  · simp only [unknownSummary, List.flatMap_cons, List.flatMap_nil, SymEvent.den, BoolE.eval,
      if_true, NumE.eval, h7, hk, Piece.render, cString_vsvfStrings, refEntry, if_neg hp, huse,
      Bool.false_eq_true, if_false, List.nil_append, List.append_nil]
    rfl

/-! The guards of the events of an in-use entry, as the reference's conditions. -/

theorem eval_not_padB :
    (BoolE.not padB).eval o env = decide (∃ i, (baseEntry o env).pad i ≠ 0) := by
  rw [BoolE.eval, eval_padB, ← decide_not, decide_eq_decide]
  exact not_forall

theorem eval_outsideB_low (lo hi : Number) : (outsideB 4 lo hi).eval o env =
    decide ¬(lo.val ≤ (baseEntry o env).boundLow.val ∧ (baseEntry o env).boundLow.val ≤ hi.val) := by
  rw [eval_outsideB, fieldValue_boundLow, decide_not]

theorem eval_outsideB_high (lo hi : Number) : (outsideB 8 lo hi).eval o env =
    decide ¬(lo.val ≤ (baseEntry o env).boundHigh.val ∧ (baseEntry o env).boundHigh.val ≤ hi.val) := by
  rw [eval_outsideB, fieldValue_boundHigh, decide_not]

theorem eval_orderB_not :
    orderB.eval o env = decide ¬((baseEntry o env).boundLow.val ≤ (baseEntry o env).boundHigh.val) := by
  rw [eval_orderB, decide_not]

theorem eval_not_extraB (hsaw : st.sawUnused = decide (0 < (env.vars 0).val)) :
    (BoolE.not extraB).eval o env = decide (st.sawUnused = true) := by
  rw [Bool.decide_eq_true, hsaw, BoolE.eval, extraB, BoolE.eval, NumE.eval, NumE.eval, ← decide_not,
    decide_eq_decide, Fin.ext_iff]
  exact ⟨fun h => Nat.pos_of_ne_zero (Ne.symm h), fun h => (Nat.ne_of_lt h)⟩

theorem eval_redefB {p : Number} (hp : parmNum (baseEntry o env) = p)
    (hseen : (baseEntry o env).parmId ∈ st.seen ↔
      ∃ s ∈ [env.vars 2, env.vars 3, env.vars 4], s.val = (baseEntry o env).parmId.toNat) :
    (redefB p).eval o env = decide ((baseEntry o env).parmId ∈ st.seen) := by
  rw [Bool.eq_iff_iff, decide_eq_true_eq, hseen, ← hp]
  simp only [List.mem_cons, List.mem_singleton, List.not_mem_nil, or_false, exists_eq_or_imp,
    exists_eq_left]
  simp only [redefB, BoolE.eval, NumE.eval, Bool.or_eq_true, decide_eq_true_eq, Fin.ext_iff,
    parmNum, eq_comm (a := (baseEntry o env).parmId.toNat), or_assoc]

theorem den_inuseSummary {p : Number} {retPc name : Fin 65536} {lo hi : Number}
    (hstr : fr.output.stringTable = vsvfStrings)
    (hrel : EntryRel st (env.vars 0) (env.vars 1) [env.vars 2, env.vars 3, env.vars 4])
    (hk : (env.vars 5).val = k) (h7 : env.vars 7 = err) (hv : (env.vars 1).val < numMax.val)
    (hp : parmNum (baseEntry o env) = p)
    (huse : (isAnimalId (baseEntry o env).parmId || isDirectionId (baseEntry o env).parmId) = true)
    (hrange : (if isAnimalId (baseEntry o env).parmId = true then ((0x10 : Nat), (0x1000 : Nat))
      else (0x10000, 0x1000000)) = (lo.val, hi.val))
    (hname : vsvfStrings.getD name.val "" = parmName (baseEntry o env).parmId) :
    EntryReturn ((Outcome.ret (inuseSummary p retPc name lo hi)).den o C env fr) C fr env.base err k
      (baseEntry o env) st := by
  have hp0 : (baseEntry o env).parmId ≠ 0 := fun h => absurd (h ▸ huse) (by decide)
  have hpad : padB.eval o env = !decide (∃ i, (baseEntry o env).pad i ≠ 0) := by
    rw [← eval_not_padB, BoolE.eval, Bool.not_not]
  have hextra : extraB.eval o env = !decide (st.sawUnused = true) := by
    rw [← eval_not_extraB hrel.saw, BoolE.eval, Bool.not_not]
  have hredef := eval_redefB hp (hrel.seen _ huse)
  have hvalid : (inuseValidB p lo hi).eval o env =
      decide (inuseErrors err k (baseEntry o env) lo.val hi.val st.sawUnused st.seen = []) := by
    have h : (inuseValidB p lo hi).eval o env = (((!(redefB p).eval o env &&
        ((!orderB.eval o env && !(outsideB 4 lo hi).eval o env) && !(outsideB 8 lo hi).eval o env)) &&
        extraB.eval o env) && padB.eval o env) := rfl
    rw [h, hpad, hextra, hredef, eval_orderB_not, eval_outsideB_low, eval_outsideB_high,
      Bool.eq_iff_iff]
    simp only [inuseErrors, Bool.and_eq_true, Bool.not_eq_true', decide_eq_false_iff_not,
      decide_eq_true_eq, List.append_eq_nil, ite_eq_right_iff, ite_eq_left_iff, List.cons_ne_nil,
      imp_false, not_not]
    tauto
  have hev : (inuseSummary p retPc name lo hi).events.flatMap (SymEvent.den o env vsvfStrings) =
      inuseErrors err k (baseEntry o env) lo.val hi.val st.sawUnused st.seen := by
    simp only [inuseSummary, List.flatMap_cons, List.flatMap_nil, List.append_nil,
      den_errorEvent_of_eval hk h7 hname rfl eval_not_padB,
      den_errorEvent_of_eval hk h7 hname rfl (eval_outsideB_low lo hi),
      den_errorEvent_of_eval hk h7 hname rfl (eval_outsideB_high lo hi),
      den_errorEvent_of_eval hk h7 hname rfl eval_orderB_not,
      den_errorEvent_of_eval hk h7 hname rfl (eval_not_extraB hrel.saw),
      den_errorEvent_of_eval hk h7 hname rfl hredef, inuseErrors, ite_not, List.append_assoc]
    rfl
  refine ⟨env.vars 0, if inuseErrors err k (baseEntry o env) lo.val hi.val st.sawUnused st.seen = []
    then env.vars 1 + 1 else env.vars 1, ?_, ?_, den_ret_entryDone ?_ rfl rfl hstr ?_⟩
  · simp only [refEntry, if_neg hp0, huse, if_true, hrel.unused]
  · simp only [refEntry, if_neg hp0, huse, if_true, hrange]
    split_ifs <;> simp only [count_val_add_one hv, hrel.valid]
  · simp only [inuseSummary, List.map, SymV.den, NumE.eval, hvalid, hp, decide_eq_true_eq]
    split_ifs <;> rfl
  · simp only [refEntry, if_neg hp0, huse, if_true, hrange, List.nil_append, hev]

end Classes

/-! ## One call of `VALIDATE_ENTRY` -/

theorem fits_vsvfCode {o : ByteOrder} {C : Nat} {env : Env} {fr : Sym.Frame} {info err : Number}
    {stops : List (Fin 65536)} {room limit : Nat} {varBound : Nat → Nat} {canReturn : Bool}
    (h6 : env.vars 6 = info) (h7 : env.vars 7 = err) (hC : 50 ≤ C)
    (hroom : fr.rest.length + fr.ctl.length + room ≤ stackSize)
    (hq : fr.input.queue = some env.image) (hlim : env.base + limit ≤ fr.input.size)
    (hstr : fr.output.stringTable = vsvfStrings) (hnum : fr.output.numStrings = 24)
    (hvars : ∀ i, (env.vars i).val ≤ varBound i) (hret : canReturn = true → fr.ctl ≠ []) :
    Fits o C env fr (vsvfProgram info err) (vsvfCode stops room limit varBound canReturn) :=
  ⟨vsvf_matches h6 h7, vsvfLens_eq, rfl, hroom, hq, hlim, hstr, hnum, hC,
    show 49 < 65536 by decide, hvars, hret⟩

theorem runEnv_vars_le {u v s1 s2 s3 e info err : Number} {image : List UInt8} {base : Nat}
    (hu : u.val < numMax.val) (hv : v.val < numMax.val) (he : e.val ≤ 99) :
    ∀ i, ((runEnv [u, v, s1, s2, s3, e] info err image base).vars i).val ≤ entryVarBound i
  | 0 => Nat.le_of_lt_succ hu
  | 1 => Nat.le_of_lt_succ hv
  | 5 => he
  | 2 | 3 | 4 | 6 | 7 => Nat.le_of_lt_succ (Fin.isLt _)
  | _ + 8 => Nat.zero_le _

section Facts

variable {o : ByteOrder} {env : Env}

theorem parmFacts_holds {p : Number} (hp : parmNum (baseEntry o env) = p) :
    (parmFacts p).Holds o env :=
  ⟨by simp only [parmFacts, List.mem_singleton, forall_eq, NumE.eval, fieldValue_parmNum, hp],
    by simp [parmFacts], by simp [parmFacts]⟩

/-- Each identifier the program tests for is `0x00` or one of the eight in use. -/
theorem known_parmId {b : UInt8} (hb : b.toNat ∈ knownParms.map Fin.val) :
    b = 0 ∨ (isAnimalId b || isDirectionId b) = true := by
  have hvals : knownParms.map Fin.val = [0, 1, 2, 4, 8, 16, 32, 64, 128] := rfl
  have hb' := toNat_toUInt8 b
  simp only [hvals, List.mem_cons, List.mem_singleton, List.not_mem_nil, or_false] at hb
  rcases hb with h | h | h | h | h | h | h | h | h <;> rw [h] at hb' <;> subst hb' <;> decide

theorem unknownFacts_holds (hp : (baseEntry o env).parmId ≠ 0)
    (huse : (isAnimalId (baseEntry o env).parmId || isDirectionId (baseEntry o env).parmId) = false) :
    unknownFacts.Holds o env := by
  refine ⟨by simp [unknownFacts], ?_, by simp [unknownFacts]⟩
  simp only [unknownFacts, List.mem_map, forall_exists_index, and_imp, forall_apply_eq_imp_iff₂,
    BoolE.eval, NumE.eval, fieldValue_parmNum, decide_eq_false_iff_not]
  intro q hq h
  rcases known_parmId (List.mem_map_of_mem Fin.val (h ▸ hq)) with h0 | h0
  · exact hp h0
  · exact Bool.false_ne_true (huse.symm.trans h0)

end Facts

section Entry

variable {o : ByteOrder} {C : Nat} {fr : Sym.Frame} {st : RefState}
  {u v s1 s2 s3 e info err : Number} {image : List UInt8} {base : Nat}

/-- `VALIDATE_ENTRY`, entered with the counts `u v`, the saved identifiers and the entry
number `e`, returns after a step of the reference on the entry at `base`. -/
theorem validateEntry_runs (hC : 50 ≤ C) (hq : fr.input.queue = some image)
    (hlim : base + 12 ≤ fr.input.size) (hstr : fr.output.stringTable = vsvfStrings)
    (hnum : fr.output.numStrings = 24) (hroom : fr.rest.length + fr.ctl.length ≤ 3)
    (hret : fr.ctl ≠ []) (hrel : EntryRel st u v [s1, s2, s3]) (hu : u.val < numMax.val)
    (hv : v.val < numMax.val) (he : e.val ≤ 99) :
    ∃ m', Runs o C (vsvfProgram info err) vsvfNumInstructions
      (entryStart.den o C (runEnv [u, v, s1, s2, s3, e] info err image base) fr) m' ∧
      EntryReturn m' C fr base err e.val (vsEntryOf o (image.drop base)) st := by
  have hK : Fits o C (runEnv [u, v, s1, s2, s3, e] info err image base) fr (vsvfProgram info err)
      entryCode :=
    fits_vsvfCode rfl rfl hC (by rw [stackSize_eq]; omega) hq hlim hstr hnum
      (runEnv_vars_le hu hv he) (fun _ => hret)
  by_cases hp0 : (vsEntryOf o (image.drop base)).parmId = 0
  · exact ⟨_, exec_sound entryFuel _ _ _ fr _ exec_entry_unused
      (parmFacts_holds (parmNum_baseEntry_zero hp0)) hK, den_unusedSummary hstr hrel rfl rfl hu hp0⟩
  cases huse : isAnimalId (vsEntryOf o (image.drop base)).parmId ||
      isDirectionId (vsEntryOf o (image.drop base)).parmId
  · exact ⟨_, exec_sound entryFuel _ _ _ fr _ exec_entry_unknown (unknownFacts_holds hp0 huse) hK,
      den_unknownSummary hstr hrel rfl rfl hp0 huse⟩
  have hinuse : ∀ {p : Number} {retPc name : Fin 65536} {lo hi : Number} {q : UInt8},
      exec entryFuel entryCode (parmFacts p) entryStart =
        some (.ret (inuseSummary p retPc name lo hi)) →
      (vsEntryOf o (image.drop base)).parmId = q → q.toNat = p.val →
      (if isAnimalId q = true then ((0x10 : Nat), (0x1000 : Nat)) else (0x10000, 0x1000000)) =
        (lo.val, hi.val) →
      vsvfStrings.getD name.val "" = parmName q →
      ∃ m', Runs o C (vsvfProgram info err) vsvfNumInstructions
        (entryStart.den o C (runEnv [u, v, s1, s2, s3, e] info err image base) fr) m' ∧
        EntryReturn m' C fr base err e.val (vsEntryOf o (image.drop base)) st := by
    rintro p retPc name lo hi q hexec rfl hpq hrange hname
    exact ⟨_, exec_sound entryFuel _ _ _ fr _ hexec (parmFacts_holds (Fin.ext hpq)) hK,
      den_inuseSummary hstr hrel rfl rfl hv (Fin.ext hpq) huse hrange hname⟩
  have hcases := huse
  simp only [isAnimalId, isDirectionId, Bool.or_eq_true, decide_eq_true_eq] at hcases
  rcases hcases with ((((h | h) | h) | h) | (((h | h) | h) | h))
  · exact hinuse (exec_entry_inUse (vsParmApe, 15, true) (by decide)) h rfl rfl rfl
  · exact hinuse (exec_entry_inUse (vsParmBat, 16, true) (by decide)) h rfl rfl rfl
  · exact hinuse (exec_entry_inUse (vsParmCat, 17, true) (by decide)) h rfl rfl rfl
  · exact hinuse (exec_entry_inUse (vsParmDog, 18, true) (by decide)) h rfl rfl rfl
  · exact hinuse (exec_entry_inUse (vsParmNorth, 19, false) (by decide)) h rfl rfl rfl
  · exact hinuse (exec_entry_inUse (vsParmSouth, 20, false) (by decide)) h rfl rfl rfl
  · exact hinuse (exec_entry_inUse (vsParmEast, 21, false) (by decide)) h rfl rfl rfl
  · exact hinuse (exec_entry_inUse (vsParmWest, 22, false) (by decide)) h rfl rfl rfl

/-- `VALIDATE_ENTRY`, entered by a call returning to `ret` with `u v s1 s2 s3 e` on top of
`rest`, returns there with `u' v' p` on top of `rest`, `p` the identifier of the entry at
`base`, having read the entry and sent the events of the reference's step on it. -/
theorem validateEntry_returns {ret : Fin 65536} {rest ctl : List Value} {input : Input}
    {out : Output} (hC : 50 ≤ C) (hq : input.queue = some image)
    (hlim : base + 12 ≤ input.size) (hstr : out.stringTable = vsvfStrings)
    (hnum : out.numStrings = 24) (hroom : rest.length + ctl.length ≤ 2)
    (hrel : EntryRel st u v [s1, s2, s3]) (hu : u.val < numMax.val) (hv : v.val < numMax.val)
    (he : e.val ≤ 99) :
    ∃ u' v' : Number, u'.val = (refEntry err e.val (vsEntryOf o (image.drop base)) st).unused ∧
      v'.val = (refEntry err e.val (vsEntryOf o (image.drop base)) st).valid ∧
      ∀ evs : List Event, Runs o C (vsvfProgram info err) vsvfNumInstructions
        ⟨validateEntry, ⟨[.num e, .num s3, .num s2, .num s1, .num v, .num u] ++ rest, .pc ret :: ctl⟩,
          { input with head := base }, lineBuffer C [] out, evs⟩
        ⟨ret, ⟨[.num (parmNum (vsEntryOf o (image.drop base))), .num v', .num u'] ++ rest, ctl⟩,
          { input with head := base + 12 }, lineBuffer C [] out,
          evs ++ (refEntry err e.val (vsEntryOf o (image.drop base)) { st with events := [] }).events⟩ := by
  have key : ∀ evs : List Event, ∃ u' v' : Number,
      u'.val = (refEntry err e.val (vsEntryOf o (image.drop base)) st).unused ∧
      v'.val = (refEntry err e.val (vsEntryOf o (image.drop base)) st).valid ∧
      Runs o C (vsvfProgram info err) vsvfNumInstructions
        ⟨validateEntry, ⟨[.num e, .num s3, .num s2, .num s1, .num v, .num u] ++ rest, .pc ret :: ctl⟩,
          { input with head := base }, lineBuffer C [] out, evs⟩
        ⟨ret, ⟨[.num (parmNum (vsEntryOf o (image.drop base))), .num v', .num u'] ++ rest, ctl⟩,
          { input with head := base + 12 }, lineBuffer C [] out,
          evs ++ (refEntry err e.val (vsEntryOf o (image.drop base)) { st with events := [] }).events⟩ := by
    intro evs
    obtain ⟨m', hrun, u', v', hu', hv', rfl⟩ :=
      @validateEntry_runs o C ⟨rest, .pc ret :: ctl, input, out, evs⟩ st u v s1 s2 s3 e info err
        image base hC hq hlim hstr hnum (by simp only [List.length_cons]; omega)
        (List.cons_ne_nil _ _) hrel hu hv he
    have hstart : entryStart.den o C (runEnv [u, v, s1, s2, s3, e] info err image base)
        ⟨rest, .pc ret :: ctl, input, out, evs⟩ =
        ⟨validateEntry, ⟨[.num e, .num s3, .num s2, .num s1, .num v, .num u] ++ rest, .pc ret :: ctl⟩,
          { input with head := base }, lineBuffer C [] out, evs⟩ := by
      simp only [entryStart, SymState.den, SymState.machine, List.map, List.flatMap_nil,
        List.append_nil, List.nil_append, Nat.add_zero]
      rfl
    exact ⟨u', v', hu', hv', hstart ▸ hrun⟩
  -- The counts returned do not depend on the events sent before the call.
  obtain ⟨u', v', hu', hv', -⟩ := key []
  refine ⟨u', v', hu', hv', fun evs => ?_⟩
  obtain ⟨u'', v'', hu'', hv'', hrun⟩ := key evs
  rwa [Fin.ext (hu''.trans hu'.symm), Fin.ext (hv''.trans hv'.symm)] at hrun

end Entry

/-! ## The calls of `VALIDATE_ENTRY` from `MAIN` -/

end Grunt.Vsvf
