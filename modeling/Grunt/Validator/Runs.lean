import Grunt.Symbolic
import Grunt.Validator.Program

/-!
# Symbolic runs of the validator program

The program is run symbolically in pieces.  `VALIDATE_ENTRY` is run from its first
instruction to its return on unknown arguments `u v s1 s2 s3 e` (the unknowns `0` to `5`)
and an unknown entry, once per class of the entry's identifier: unused, each of the eight
valid identifiers, and every other byte.  The pieces of `MAIN` between its calls of
`VALIDATE_ENTRY`, and its tail from the last return to `HALT`, are run on unknown counts
and identifiers.  Every run ends in a summary written out here, and each equation is
checked by the kernel; `Grunt.Vsvf.Correct` says what the summaries mean.

The two event types are parameters of the program; the runs read them as the unknowns `6`
and `7` (`vsvfLits`), so that a run is a closed term.
-/

namespace Grunt.Vsvf

open Grunt.Sym

-- The runs below are evaluated by `decide`, whose reduction nests deeper than the default allows.
set_option maxRecDepth 10000

/-- The lengths of the strings of `vsvf_strings`, as `strlen` counts them. -/
def vsvfLens : List Nat := [21, 8, 10, 7, 12, 6, 11, 16, 19, 18, 19, 20, 24, 24, 6, 3, 3, 3, 3,
  5, 5, 4, 4, 7]

/-- The program with both event types `0`, as a search tree. -/
def vsvfTree : PTree := PTree.ofList (vsvfProgram 0 0)

/-- The pushes of the event types: `CFE_EVS_EventType_INFORMATION` in `EMIT_INFO` and
`CFE_EVS_EventType_ERROR` in `EMIT_ERROR_PARMERR` and `EMIT_ERROR`. -/
def vsvfLits : List (Nat × SymV) :=
  [(emitInfo.val + 12, .num (.var 6)), (emitErrorParmerr.val + 6, .num (.var 7)),
    (emitError.val + 8, .num (.var 7))]

/-- The code of a run of the validator program. -/
def vsvfCode (stops : List (Fin 65536)) (room limit : Nat) (varBound : Nat → Nat)
    (canReturn : Bool) : Code where
  tree := vsvfTree
  lits := vsvfLits
  numInstructions := vsvfNumInstructions
  strings := vsvfStrings
  lens := vsvfLens
  stops := stops
  room := room
  limit := limit
  lineMax := 49
  varBound := varBound
  canReturn := canReturn

/-! ## `VALIDATE_ENTRY` -/

/-- The bounds of the unknowns of an entry run: each count leaves room for one more, and
the entry number has at most two digits. -/
def entryVarBound (i : Nat) : Nat :=
  if i ≤ 1 then 4294967294 else if i = 5 then 99 else 4294967295

/-- A run of `VALIDATE_ENTRY`: 29 free stack slots and 12 bytes to read. -/
def entryCode : Code := vsvfCode [] 29 12 entryVarBound true

/-- `VALIDATE_ENTRY` called with `u v s1 s2 s3 e`. -/
def entryStart : SymState where
  pc := validateEntry
  args := [.num (.var 5), .num (.var 4), .num (.var 3), .num (.var 2), .num (.var 1),
    .num (.var 0)]
  ctl := []
  head := 0
  line := []
  events := []

/-- The entry's identifier is `p`. -/
def parmFacts (p : Number) : Facts := ⟨[(.field 0 1, p)], [], []⟩

/-- The identifiers the program tests for. -/
def knownParms : List Number := [vsParmUnused, vsParmApe, vsParmBat, vsParmCat, vsParmDog,
  vsParmNorth, vsParmSouth, vsParmEast, vsParmWest]

/-- The entry's identifier is none of the known ones. -/
def unknownFacts : Facts := ⟨[], knownParms.map fun p => (.eq (.lit p) (.field 0 1), false), []⟩

/-- The error event `EMIT_ERROR` sends for entry `e`: `"Table entry " e " parm " name msg`. -/
def errorEvent (eid : Number) (name msg : Fin 65536) (guard : BoolE) : SymEvent where
  guard := guard
  eventId := .lit eid
  eventType := .var 7
  text := [.str 4, .num (.var 5), .str 5, .str name, .str msg]

/-- All fields of an unused entry are zero. -/
def zeroedB : BoolE :=
  .and (.and (.and (.eq (.lit 0) (.field 8 4)) (.eq (.lit 0) (.field 4 4)))
    (.eq (.lit 0) (.field 2 2))) (.eq (.lit 0) (.field 1 1))

/-- The pad bytes are zero. -/
def padB : BoolE := .and (.eq (.lit 0) (.field 2 2)) (.eq (.lit 0) (.field 1 1))

/-- The bound at `off` lies outside `[min, max]`. -/
def outsideB (off : Nat) (min max : Number) : BoolE :=
  .or (.lt (.lit max) (.field off 4)) (.lt (.field off 4) (.lit min))

/-- The high bound is below the low bound. -/
def orderB : BoolE := .lt (.field 8 4) (.field 4 4)

/-- No unused entry was counted. -/
def extraB : BoolE := .eq (.lit 0) (.var 0)

/-- The identifier is one of the saved ones. -/
def redefB (p : Number) : BoolE :=
  .or (.or (.eq (.lit p) (.var 2)) (.eq (.lit p) (.var 3))) (.eq (.lit p) (.var 4))

/-- An in-use entry passes all its checks. -/
def inuseValidB (p min max : Number) : BoolE :=
  .and (.and (.and (.not (redefB p)) (.and (.and (.not orderB) (.not (outsideB 4 min max)))
    (.not (outsideB 8 min max)))) extraB) padB

/-- The return of `VALIDATE_ENTRY` for an unused entry: `new-u v p`. -/
def unusedSummary : SymState where
  pc := validateEntry + 15
  args := [.num (.lit 0), .num (.var 1), .ite zeroedB (.num (.add (.var 0) (.lit 1))) (.num (.var 0))]
  ctl := []
  head := 12
  line := []
  events := [errorEvent vsTblZeroErrEid 14 6 (.not zeroedB)]

/-- The return of `VALIDATE_ENTRY` for an in-use entry with identifier `p`, named by string
`name`, with range `[min, max]`: `u new-v p`. -/
def inuseSummary (p : Number) (retPc name : Fin 65536) (min max : Number) : SymState where
  pc := retPc
  args := [.num (.lit p), .ite (inuseValidB p min max) (.num (.add (.var 1) (.lit 1))) (.num (.var 1)),
    .num (.var 0)]
  ctl := []
  head := 12
  line := []
  events := [errorEvent vsTblPadErrEid name 8 (.not padB),
    errorEvent vsTblLbndErrEid name 9 (outsideB 4 min max),
    errorEvent vsTblHbndErrEid name 10 (outsideB 8 min max),
    errorEvent vsTblOrderErrEid name 11 orderB,
    errorEvent vsTblExtraErrEid name 12 (.not extraB),
    errorEvent vsTblRedefErrEid name 13 (redefB p)]

/-- The return of `VALIDATE_ENTRY` for an animal. -/
def animalSummary (p : Number) (name : Fin 65536) : SymState :=
  inuseSummary p (validateEntry + 36) name vsParmAnimalMin vsParmAnimalMax

/-- The return of `VALIDATE_ENTRY` for a direction. -/
def directionSummary (p : Number) (name : Fin 65536) : SymState :=
  inuseSummary p (validateEntry + 47) name vsParmDirectionMin vsParmDirectionMax

/-- The return of `VALIDATE_ENTRY` for an unknown identifier: `u v p`. -/
def unknownSummary : SymState where
  pc := validateEntry + 52
  args := [.num (.field 0 1), .num (.var 1), .num (.var 0)]
  ctl := []
  head := 12
  line := []
  events := [⟨.lit true, .lit vsTblParmErrEid, .var 7, [.str 4, .num (.var 5), .str 7]⟩]

/-- The fuel of an entry run. -/
def entryFuel : Nat := 1000

theorem exec_entry_unused :
    exec entryFuel entryCode (parmFacts vsParmUnused) entryStart = some (.ret unusedSummary) := by
  decide

/-- The eight in-use identifiers, each with the index of its name in `vsvf_strings` and whether
it is an animal. -/
def inUseParms : List (Number × Fin 65536 × Bool) :=
  [(vsParmApe, 15, true), (vsParmBat, 16, true), (vsParmCat, 17, true), (vsParmDog, 18, true),
    (vsParmNorth, 19, false), (vsParmSouth, 20, false), (vsParmEast, 21, false),
    (vsParmWest, 22, false)]

/-- The return of `VALIDATE_ENTRY` for an in-use identifier. -/
def inUseSummary : Number × Fin 65536 × Bool → SymState
  | (p, name, true) => animalSummary p name
  | (p, name, false) => directionSummary p name

theorem exec_entry_inUse : ∀ t ∈ inUseParms,
    exec entryFuel entryCode (parmFacts t.1) entryStart = some (.ret (inUseSummary t)) := by
  intro t ht
  simp only [inUseParms, List.mem_cons, List.not_mem_nil, or_false] at ht
  rcases ht with rfl | rfl | rfl | rfl | rfl | rfl | rfl | rfl <;> decide

theorem exec_entry_unknown :
    exec entryFuel entryCode unknownFacts entryStart = some (.ret unknownSummary) := by
  decide

/-! ## `MAIN` -/

/-- A run of a piece of `MAIN`, up to the next entry of `VALIDATE_ENTRY`. -/
def mainPieceCode : Code := vsvfCode [validateEntry] 32 0 (fun _ => 4294967295) false

/-- A state of `MAIN` with nothing on the line and no event sent yet. -/
def mainState (pc : Fin 65536) (args : List SymV) (head : Nat) : SymState :=
  ⟨pc, args, [], head, [], []⟩

/-- The call of `VALIDATE_ENTRY` for entry `e` with `u v s1 s2 s3 e` on top of `rest`,
returning to `ret`. -/
def entryCall (ret : Fin 65536) (args : List SymV) (head : Nat) : SymState :=
  ⟨validateEntry, args, [ret], head, [], []⟩

/-- The unknowns of `MAIN`'s runs: `0` and `1` the counts `u` and `v`, `2` to `5` the
identifiers of entries `1` to `4`. -/
def mainVar (i : Nat) : SymV := .num (.var i)

theorem exec_main_first :
    exec 100 mainPieceCode ⟨[], [], []⟩ (mainState main [] 0) =
      some (.stop (entryCall (main + 7) [.num (.lit 1), .num (.lit 0), .num (.lit 0),
        .num (.lit 0), .num (.lit 0), .num (.lit 0)] 0)) := by
  decide

theorem exec_main_second :
    exec 100 mainPieceCode ⟨[], [], []⟩ (mainState (main + 7) [mainVar 2, mainVar 1, mainVar 0] 12) =
      some (.stop (entryCall (main + 15) [.num (.lit 2), .num (.lit 0), .num (.lit 0), mainVar 2,
        mainVar 1, mainVar 0, mainVar 2, mainVar 2] 12)) := by
  decide

theorem exec_main_third :
    exec 100 mainPieceCode ⟨[], [], []⟩
        (mainState (main + 15) [mainVar 3, mainVar 1, mainVar 0, mainVar 2, mainVar 2] 24) =
      some (.stop (entryCall (main + 23) [.num (.lit 3), .num (.lit 0), mainVar 3, mainVar 2,
        mainVar 1, mainVar 0, mainVar 3, mainVar 2] 24)) := by
  decide

theorem exec_main_fourth :
    exec 100 mainPieceCode ⟨[], [], []⟩
        (mainState (main + 23) [mainVar 4, mainVar 1, mainVar 0, mainVar 3, mainVar 2] 36) =
      some (.stop (entryCall (main + 28) [.num (.lit 4), mainVar 4, mainVar 3, mainVar 2,
        mainVar 1, mainVar 0] 36)) := by
  decide

/-- The invalid count `4 - (u + v)`. -/
def invalidE : NumE := .sub (.lit 4) (.add (.var 0) (.var 1))

/-- The tail of `MAIN`: both counts are at most `4`, and so is their sum. -/
def tailCode : Code := vsvfCode [main + 32] 32 0 (fun i => if i ≤ 1 then 4 else 4294967295) false

/-- The tail knows `u + v ≤ 4`. -/
def tailFacts : Facts := ⟨[], [], [(.add (.var 0) (.var 1), .lit 4)]⟩

/-- The INFORMATION event of `EMIT_INFO`. -/
def infoEvent : SymEvent where
  guard := .lit true
  eventId := .lit vsValidationInfEid
  eventType := .var 6
  text := [.str 0, .num (.var 1), .str 1, .num invalidE, .str 2, .num (.var 0), .str 3]

theorem exec_main_tail :
    exec 200 tailCode tailFacts (mainState (main + 28) [mainVar 5, mainVar 1, mainVar 0] 48) =
      some (.stop ⟨main + 32, [.bool (.eq (.lit 0) invalidE)], [], 48, [], [infoEvent]⟩) := by
  decide

end Grunt.Vsvf
