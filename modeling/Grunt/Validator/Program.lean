import Grunt.Value

/-!
# The validator program

This module transcribes `vsvf.h`, the Grunt program `VSC_table_validate` runs on a table
image: the string table `vsvf_strings`, the address macros, and `vsvf_program`, whose
instructions are listed here one subroutine at a time, each with the stack comment the
source gives it.  The parameter and event-identifier constants are those of
`vs_tablestruct.h` and `vs_eventids.h`.  The two event types
`CFE_EVS_EventType_INFORMATION` and `CFE_EVS_EventType_ERROR` belong to the framework and
are not part of the repository, so they are parameters.

The source computes every call target by adding up the sizes `*_LOC` of the subroutines
before it; `code_lengths` checks that each subroutine is as long as its macro says, so
every `CALL` lands on the first instruction of its subroutine.
-/

namespace Grunt.Vsvf

/-! ## Constants of `vs_tablestruct.h` and `vs_eventids.h` -/

/-- `VS_PARM_UNUSED`. -/
def vsParmUnused : Number := 0x00
/-- `VS_PARM_APE`. -/
def vsParmApe : Number := 0x01
/-- `VS_PARM_BAT`. -/
def vsParmBat : Number := 0x02
/-- `VS_PARM_CAT`. -/
def vsParmCat : Number := 0x04
/-- `VS_PARM_DOG`. -/
def vsParmDog : Number := 0x08
/-- `VS_PARM_NORTH`. -/
def vsParmNorth : Number := 0x10
/-- `VS_PARM_SOUTH`. -/
def vsParmSouth : Number := 0x20
/-- `VS_PARM_EAST`. -/
def vsParmEast : Number := 0x40
/-- `VS_PARM_WEST`. -/
def vsParmWest : Number := 0x80

/-- `VS_PARM_ANIMAL_MIN`. -/
def vsParmAnimalMin : Number := 0x00000010
/-- `VS_PARM_ANIMAL_MAX`. -/
def vsParmAnimalMax : Number := 0x00001000
/-- `VS_PARM_DIRECTION_MIN`. -/
def vsParmDirectionMin : Number := 0x00010000
/-- `VS_PARM_DIRECTION_MAX`. -/
def vsParmDirectionMax : Number := 0x01000000

/-- `VS_VALIDATION_INF_EID`. -/
def vsValidationInfEid : Number := 0x0008
/-- `VS_TBL_ZERO_ERR_EID`. -/
def vsTblZeroErrEid : Number := 0x2001
/-- `VS_TBL_PARM_ERR_EID`. -/
def vsTblParmErrEid : Number := 0x2002
/-- `VS_TBL_PAD_ERR_EID`. -/
def vsTblPadErrEid : Number := 0x2004
/-- `VS_TBL_LBND_ERR_EID`. -/
def vsTblLbndErrEid : Number := 0x2008
/-- `VS_TBL_HBND_ERR_EID`. -/
def vsTblHbndErrEid : Number := 0x2010
/-- `VS_TBL_ORDER_ERR_EID`. -/
def vsTblOrderErrEid : Number := 0x2020
/-- `VS_TBL_EXTRA_ERR_EID`. -/
def vsTblExtraErrEid : Number := 0x2040
/-- `VS_TBL_REDEF_ERR_EID`. -/
def vsTblRedefErrEid : Number := 0x2080

/-! ## The string table -/

/-- `vsvf_strings`. -/
def vsvfStrings : List String := [
  -- Strings for final info message
  "Table image entries: ",
  " valid, ",
  " invalid, ",
  " unused",
  -- Strings for error messages
  "Table entry ",
  " parm ",
  " not zeroed",
  " invalid Parm ID",
  " padding not zeroed",
  " invalid low bound",
  " invalid high bound",
  " invalid bound order",
  " follows an unused entry",
  " redefines earlier entry",
  -- Strings for pretty-printing Parm IDs
  "Unused",
  "Ape",
  "Bat",
  "Cat",
  "Dog",
  "North",
  "South",
  "East",
  "West",
  "Unknown"]

/-- `VSVF_NUM_STRINGS`. -/
def vsvfNumStrings : Fin 65536 := 24

/-! ## The address macros -/

/-- `MAIN`. -/
def main : Fin 65536 := 0
/-- `MAIN_LOC`. -/
def mainLoc : Fin 65536 := 33
/-- `VALIDATE_ENTRY`. -/
def validateEntry : Fin 65536 := main + mainLoc
/-- `VALIDATE_ENTRY_LOC`. -/
def validateEntryLoc : Fin 65536 := 52
/-- `IS_UNUSED`. -/
def isUnused : Fin 65536 := validateEntry + validateEntryLoc
/-- `IS_UNUSED_LOC`. -/
def isUnusedLoc : Fin 65536 := 3
/-- `IS_ANIMAL`. -/
def isAnimal : Fin 65536 := isUnused + isUnusedLoc
/-- `IS_ANIMAL_LOC`. -/
def isAnimalLoc : Fin 65536 := 16
/-- `IS_DIRECTION`. -/
def isDirection : Fin 65536 := isAnimal + isAnimalLoc
/-- `IS_DIRECTION_LOC`. -/
def isDirectionLoc : Fin 65536 := 16
/-- `VALIDATE_UNUSED`. -/
def validateUnused : Fin 65536 := isDirection + isDirectionLoc
/-- `VALIDATE_UNUSED_LOC`. -/
def validateUnusedLoc : Fin 65536 := 18
/-- `VALIDATE_INUSE`. -/
def validateInuse : Fin 65536 := validateUnused + validateUnusedLoc
/-- `VALIDATE_INUSE_LOC`. -/
def validateInuseLoc : Fin 65536 := 26
/-- `VALIDATE_PAD`. -/
def validatePad : Fin 65536 := validateInuse + validateInuseLoc
/-- `VALIDATE_PAD_LOC`. -/
def validatePadLoc : Fin 65536 := 17
/-- `VALIDATE_BOUNDS`. -/
def validateBounds : Fin 65536 := validatePad + validatePadLoc
/-- `VALIDATE_BOUNDS_LOC`. -/
def validateBoundsLoc : Fin 65536 := 26
/-- `VALIDATE_RANGE`. -/
def validateRange : Fin 65536 := validateBounds + validateBoundsLoc
/-- `VALIDATE_RANGE_LOC`. -/
def validateRangeLoc : Fin 65536 := 15
/-- `VALIDATE_ORDER`. -/
def validateOrder : Fin 65536 := validateRange + validateRangeLoc
/-- `VALIDATE_ORDER_LOC`. -/
def validateOrderLoc : Fin 65536 := 13
/-- `VALIDATE_EXTRA`. -/
def validateExtra : Fin 65536 := validateOrder + validateOrderLoc
/-- `VALIDATE_EXTRA_LOC`. -/
def validateExtraLoc : Fin 65536 := 15
/-- `VALIDATE_REDEF`. -/
def validateRedef : Fin 65536 := validateExtra + validateExtraLoc
/-- `VALIDATE_REDEF_LOC`. -/
def validateRedefLoc : Fin 65536 := 26
/-- `HANDLE_PARMERR`. -/
def handleParmerr : Fin 65536 := validateRedef + validateRedefLoc
/-- `HANDLE_PARMERR_LOC`. -/
def handleParmerrLoc : Fin 65536 := 10
/-- `INC_UNUSED`. -/
def incUnused : Fin 65536 := handleParmerr + handleParmerrLoc
/-- `INC_UNUSED_LOC`. -/
def incUnusedLoc : Fin 65536 := 6
/-- `INC_VALID`. -/
def incValid : Fin 65536 := incUnused + incUnusedLoc
/-- `INC_VALID_LOC`. -/
def incValidLoc : Fin 65536 := 5
/-- `COMPUTE_INVALID`. -/
def computeInvalid : Fin 65536 := incValid + incValidLoc
/-- `COMPUTE_INVALID_LOC`. -/
def computeInvalidLoc : Fin 65536 := 7
/-- `COMPUTE_RESULT`. -/
def computeResult : Fin 65536 := computeInvalid + computeInvalidLoc
/-- `COMPUTE_RESULT_LOC`. -/
def computeResultLoc : Fin 65536 := 7
/-- `EMIT_INFO`. -/
def emitInfo : Fin 65536 := computeResult + computeResultLoc
/-- `EMIT_INFO_LOC`. -/
def emitInfoLoc : Fin 65536 := 15
/-- `EMIT_ERROR_PARMERR`. -/
def emitErrorParmerr : Fin 65536 := emitInfo + emitInfoLoc
/-- `EMIT_ERROR_PARMERR_LOC`. -/
def emitErrorParmerrLoc : Fin 65536 := 9
/-- `EMIT_ERROR`. -/
def emitError : Fin 65536 := emitErrorParmerr + emitErrorParmerrLoc
/-- `EMIT_ERROR_LOC`. -/
def emitErrorLoc : Fin 65536 := 11
/-- `PARM_TO_STR`. -/
def parmToStr : Fin 65536 := emitError + emitErrorLoc
/-- `PARM_TO_STR_LOC`. -/
def parmToStrLoc : Fin 65536 := 75

/-- `VSVF_NUM_INSTRUCTIONS`. -/
def vsvfNumInstructions : Fin 65536 := parmToStr + parmToStrLoc

/-! ## `vsvf_program` -/

section Program

variable (cfeEvsEventTypeInformation cfeEvsEventTypeError : Number)

/-- The instructions of `MAIN`. -/
def mainCode : List Instruction := [
  Instruction.pushn 0,                      -- unused
  Instruction.pushn 0,                      -- u valid
  Instruction.pushn vsParmUnused,           -- u v saved-parmid-1
  Instruction.pushn vsParmUnused,           -- u v s1 saved-parmid-2
  Instruction.pushn vsParmUnused,           -- u v s1 s2 saved-parmid-3
  Instruction.pushn 1,                      -- u v s1 s2 s3 entry
  Instruction.call validateEntry,           -- u v s1
  Instruction.dup 1,                        -- u v s1 s1
  Instruction.roll 4,                       -- s1 u v s1
  Instruction.dup 1,                        -- s1 u v s1 s1
  Instruction.roll 4,                       -- s1 s1 u v s1
  Instruction.pushn vsParmUnused,           -- s1 s1 u v s1 s2
  Instruction.pushn vsParmUnused,           -- s1 s1 u v s1 s2 s3
  Instruction.pushn 2,                      -- s1 s1 u v s1 s2 s3 entry
  Instruction.call validateEntry,           -- s1 s1 u v s2
  Instruction.dup 1,                        -- s1 s1 u v s2 s2
  Instruction.roll 5,                       -- s1 s2 s1 u v s2
  Instruction.roll 3,                       -- s1 s2 s1 s2 u v
  Instruction.roll 4,                       -- s1 s2 v s1 s2 u
  Instruction.roll 4,                       -- s1 s2 u v s1 s2
  Instruction.pushn vsParmUnused,           -- s1 s2 u v s1 s2 s3
  Instruction.pushn 3,                      -- s1 s2 u v s1 s2 s3 entry
  Instruction.call validateEntry,           -- s1 s2 u v s3
  Instruction.roll 3,                       -- s1 s2 s3 u v
  Instruction.roll 5,                       -- v s1 s2 s3 u
  Instruction.roll 5,                       -- u v s1 s2 s3
  Instruction.pushn 4,                      -- u v s1 s2 s3 entry
  Instruction.call validateEntry,           -- u v s4
  Instruction.pop 1,                        -- u v
  Instruction.call computeInvalid,          -- u i v
  Instruction.call computeResult,           -- valid? u i v
  Instruction.call emitInfo,                -- valid?
  Instruction.halt]

/-- The instructions of `VALIDATE_ENTRY`. -/
def validateEntryCode : List Instruction := [
  Instruction.input 1,                      -- u v s1 s2 s3 e parmid
  Instruction.dup 1,                        -- u v s1 s2 s3 e p p
  Instruction.roll 6,                       -- u v p s1 s2 s3 e p
  Instruction.dup 1,                        -- u v p s1 s2 s3 e p p
  Instruction.call isUnused,                -- u v p s1 s2 s3 e p unused?
  Instruction.not,                          -- u v p s1 s2 s3 e p not-unused?
  Instruction.jmpif 9,                      -- u v p s1 s2 s3 e p
  Instruction.roll 5,                       -- u v p p s1 s2 s3 e
  Instruction.roll 5,                       -- u v p e p s1 s2 s3
  Instruction.pop 3,                        -- u v p e p
  Instruction.call validateUnused,          -- u v p valid?
  Instruction.jmpif 2,                      -- u v p
  Instruction.«return»,
  Instruction.call incUnused,               -- new-u v p
  Instruction.«return»,
  Instruction.roll 8,                       -- p u v p s1 s2 s3 e
  Instruction.roll 8,                       -- e p u v p s1 s2 s3
  Instruction.roll 8,                       -- s3 e p u v p s1 s2
  Instruction.roll 8,                       -- s2 s3 e p u v p s1
  Instruction.roll 8,                       -- s1 s2 s3 e p u v p
  Instruction.roll 8,                       -- p s1 s2 s3 e p u v
  Instruction.roll 8,                       -- v p s1 s2 s3 e p u
  Instruction.dup 1,                        -- v p s1 s2 s3 e p u u
  Instruction.roll 9,                       -- u v p s1 s2 s3 e p u
  Instruction.roll 3,                       -- u v p s1 s2 s3 u e p
  Instruction.dup 1,                        -- u v p s1 s2 s3 u e p p
  Instruction.call isAnimal,                -- u v p s1 s2 s3 u e p animal?
  Instruction.not,                          -- u v p s1 s2 s3 u e p not-animal?
  Instruction.jmpif 8,                      -- u v p s1 s2 s3 u e p
  Instruction.pushn vsParmAnimalMax,        -- u v p s1 s2 s3 u e p max
  Instruction.pushn vsParmAnimalMin,        -- u v p s1 s2 s3 u e p max min
  Instruction.call validateInuse,           -- u v p valid?
  Instruction.jmpif 2,                      -- u v p
  Instruction.«return»,
  Instruction.call incValid,                -- u new-v p
  Instruction.«return»,
  Instruction.dup 1,                        -- u v p s1 s2 s3 u e p p
  Instruction.call isDirection,             -- u v p s1 s2 s3 u e p direction?
  Instruction.not,                          -- u v p s1 s2 s3 u e p not-dir?
  Instruction.jmpif 8,                      -- u v p s1 s2 s3 u e p
  Instruction.pushn vsParmDirectionMax,     -- u v p s1 s2 s3 u e p max
  Instruction.pushn vsParmDirectionMin,     -- u v p s1 s2 s3 u e p max min
  Instruction.call validateInuse,           -- u v p valid?
  Instruction.jmpif 2,                      -- u v p
  Instruction.«return»,
  Instruction.call incValid,                -- u new-v p
  Instruction.«return»,
  Instruction.pop 1,                        -- u v p s1 s2 s3 u e
  Instruction.roll 5,                       -- u v p e s1 s2 s3 u
  Instruction.pop 4,                        -- u v p e
  Instruction.call handleParmerr,           -- u v p
  Instruction.«return»]

/-- The instructions of `IS_UNUSED`. -/
def isUnusedCode : List Instruction := [
  Instruction.pushn vsParmUnused,           -- parmid U
  Instruction.eq 2,                         -- unused?
  Instruction.«return»]

/-- The instructions of `IS_ANIMAL`. -/
def isAnimalCode : List Instruction := [
  Instruction.dup 1,                        -- parmid parmid
  Instruction.pushn vsParmApe,              -- parmid parmid A
  Instruction.eq 2,                         -- parmid A?
  Instruction.roll 2,                       -- A? parmid
  Instruction.dup 1,                        -- A? parmid parmid
  Instruction.pushn vsParmBat,              -- A? parmid parmid B
  Instruction.eq 2,                         -- A? parmid B?
  Instruction.roll 2,                       -- A? B? parmid
  Instruction.dup 1,                        -- A? B? parmid parmid
  Instruction.pushn vsParmCat,              -- A? B? parmid parmid C
  Instruction.eq 2,                         -- A? B? parmid C?
  Instruction.roll 2,                       -- A? B? C? parmid
  Instruction.pushn vsParmDog,              -- A? B? C? parmid D
  Instruction.eq 2,                         -- A? B? C? D?
  Instruction.or 4,                         -- animal?
  Instruction.«return»]

/-- The instructions of `IS_DIRECTION`. -/
def isDirectionCode : List Instruction := [
  Instruction.dup 1,                        -- parmid parmid
  Instruction.pushn vsParmNorth,            -- parmid parmid N
  Instruction.eq 2,                         -- parmid N?
  Instruction.roll 2,                       -- N? parmid
  Instruction.dup 1,                        -- N? parmid parmid
  Instruction.pushn vsParmSouth,            -- N? parmid parmid S
  Instruction.eq 2,                         -- N? parmid S?
  Instruction.roll 2,                       -- N? S? parmid
  Instruction.dup 1,                        -- N? S? parmid parmid
  Instruction.pushn vsParmEast,             -- N? S? parmid parmid E
  Instruction.eq 2,                         -- N? S? parmid E?
  Instruction.roll 2,                       -- N? S? E? parmid
  Instruction.pushn vsParmWest,             -- N? S? E? parmid W
  Instruction.eq 2,                         -- N? S? E? W?
  Instruction.or 4,                         -- direction?
  Instruction.«return»]

/-- The instructions of `VALIDATE_UNUSED`. -/
def validateUnusedCode : List Instruction := [
  Instruction.input 1,                      -- e p pad0
  Instruction.input 2,                      -- e p pad0 pad12
  Instruction.input 4,                      -- e p pad0 pad12 lbnd
  Instruction.input 4,                      -- e p pad0 pad12 lbnd hbnd
  Instruction.pushn 0,                      -- e p pad0 pad12 lbnd hbnd 0
  Instruction.eq 5,                         -- e p zeroed?
  Instruction.jmpif 9,                      -- e p
  Instruction.roll 2,                       -- p e
  Instruction.pushn vsTblZeroErrEid,        -- p e eid
  Instruction.roll 3,                       -- eid p e
  Instruction.pushs 6,                      -- eid p e msg
  Instruction.roll 3,                       -- eid msg p e
  Instruction.call emitError,
  Instruction.pushb false,                  -- valid?
  Instruction.«return»,
  Instruction.pop 2,
  Instruction.pushb true,                   -- valid?
  Instruction.«return»]

/-- The instructions of `VALIDATE_INUSE`. -/
def validateInuseCode : List Instruction := [
  Instruction.roll 8,                       -- min s1 s2 s3 u e p max
  Instruction.roll 8,                       -- max min s1 s2 s3 u e p
  Instruction.dup 2,                        -- max min s1 s2 s3 u e p e p
  Instruction.call validatePad,             -- max min s1 s2 s3 u e p pad?
  Instruction.roll 9,                       -- pad? max min s1 s2 s3 u e p
  Instruction.dup 2,                        -- pad? max min s1 s2 s3 u e p e p
  Instruction.roll 10,                      -- pad? p max min s1 s2 s3 u e p e
  Instruction.roll 10,                      -- pad? e p max min s1 s2 s3 u e p
  Instruction.roll 10,                      -- pad? p e p max min s1 s2 s3 u e
  Instruction.roll 10,                      -- pad? e p e p max min s1 s2 s3 u
  Instruction.roll 10,                      -- pad? u e p e p max min s1 s2 s3
  Instruction.roll 10,                      -- pad? s3 u e p e p max min s1 s2
  Instruction.roll 10,                      -- pad? s2 s3 u e p e p max min s1
  Instruction.roll 10,                      -- pad? s1 s2 s3 u e p e p max min
  Instruction.call validateBounds,          -- pad? s1 s2 s3 u e p bounds?
  Instruction.roll 7,                       -- pad? bounds? s1 s2 s3 u e p
  Instruction.dup 2,                        -- pad? bounds? s1 s2 s3 u e p e p
  Instruction.roll 5,                       -- pad? bounds? s1 s2 s3 p u e p e
  Instruction.roll 5,                       -- pad? bounds? s1 s2 s3 e p u e p
  Instruction.roll 3,                       -- pad? bounds? s1 s2 s3 e p p u e
  Instruction.roll 3,                       -- pad? bounds? s1 s2 s3 e p e p u
  Instruction.call validateExtra,           -- pad? bounds? s1 s2 s3 e p extra?
  Instruction.roll 7,                       -- pad? bounds? extra? s1 s2 s3 e p
  Instruction.call validateRedef,           -- pad? bounds? extra? redef?
  Instruction.and 4,                        -- valid?
  Instruction.«return»]

/-- The instructions of `VALIDATE_PAD`. -/
def validatePadCode : List Instruction := [
  Instruction.input 1,                      -- e p pad0
  Instruction.input 2,                      -- e p pad0 pad12
  Instruction.pushn 0,                      -- e p pad0 pad12 0
  Instruction.eq 3,                         -- e p zeroed?
  Instruction.not,                          -- e p not-zeroed?
  Instruction.jmpif 4,                      -- e p
  Instruction.pop 2,
  Instruction.pushb true,                   -- pad-valid?
  Instruction.«return»,
  Instruction.roll 2,                       -- p e
  Instruction.pushn vsTblPadErrEid,         -- p e eid
  Instruction.roll 3,                       -- eid p e
  Instruction.pushs 8,                      -- eid p e msg
  Instruction.roll 3,                       -- eid msg p e
  Instruction.call emitError,
  Instruction.pushb false,                  -- pad-valid?
  Instruction.«return»]

/-- The instructions of `VALIDATE_BOUNDS`. -/
def validateBoundsCode : List Instruction := [
  Instruction.dup 4,                        -- e p max min e p max min
  Instruction.input 4,                      -- e p max min e p max min l
  Instruction.dup 1,                        -- e p max min e p max min l l
  Instruction.roll 10,                      -- l e p max min e p max min l
  Instruction.pushn vsTblLbndErrEid,        -- l e p max min e p max min l eid
  Instruction.roll 6,                       -- l e p max min eid e p max min l
  Instruction.pushs 9,                      -- l e p max min eid e p max min l msg
  Instruction.roll 6,                       -- l e p max min eid msg e p max min l
  Instruction.call validateRange,           -- l e p max min l?
  Instruction.roll 6,                       -- l? l e p max min
  Instruction.dup 4,                        -- l? l e p max min e p max min
  Instruction.input 4,                      -- l? l e p max min e p max min h
  Instruction.dup 1,                        -- l? l e p max min e p max min h h
  Instruction.roll 11,                      -- l? h l e p max min e p max min h
  Instruction.pushn vsTblHbndErrEid,
  Instruction.roll 6,                       -- l? h l e p max min eid e p max min h
  Instruction.pushs 10,                     -- l? h l e p max min eid e p max min h msg
  Instruction.roll 6,                       -- l? h l e p max min eid msg e p max min h
  Instruction.call validateRange,           -- l? h l e p max min h?
  Instruction.roll 8,                       -- h? l? h l e p max min
  Instruction.pop 2,                        -- h? l? h l e p
  Instruction.roll 4,                       -- h? l? p h l e
  Instruction.roll 4,                       -- h? l? e p h l
  Instruction.call validateOrder,           -- h? l? o?
  Instruction.and 3,                        -- valid?
  Instruction.«return»]

/-- The instructions of `VALIDATE_RANGE`. -/
def validateRangeCode : List Instruction := [
  Instruction.dup 1,                        -- eid msg e p max min b b
  Instruction.roll 4,                       -- eid msg e p b max min b
  Instruction.roll 2,                       -- eid msg e p b max b min
  Instruction.lt,                           -- eid msg e p b max lt?
  Instruction.roll 3,                       -- eid msg e p lt? b max
  Instruction.gt,                           -- eid msg e p lt? gt?
  Instruction.or 2,                         -- eid msg e p invalid?
  Instruction.jmpif 4,                      -- eid msg e p
  Instruction.pop 4,
  Instruction.pushb true,                   -- valid?
  Instruction.«return»,
  Instruction.roll 2,                       -- eid msg p e
  Instruction.call emitError,
  Instruction.pushb false,                  -- valid?
  Instruction.«return»]

/-- The instructions of `VALIDATE_ORDER`. -/
def validateOrderCode : List Instruction := [
  Instruction.lt,                           -- e p not-valid?
  Instruction.jmpif 4,                      -- e p
  Instruction.pop 2,
  Instruction.pushb true,                   -- valid?
  Instruction.«return»,
  Instruction.roll 2,                       -- p e
  Instruction.pushs 11,                     -- p e msg
  Instruction.roll 3,                       -- msg p e
  Instruction.pushn vsTblOrderErrEid,       -- msg p e eid
  Instruction.roll 4,                       -- eid msg p e
  Instruction.call emitError,
  Instruction.pushb false,                  -- valid?
  Instruction.«return»]

/-- The instructions of `VALIDATE_EXTRA`. -/
def validateExtraCode : List Instruction := [
  Instruction.pushn 0,                      -- e p unused 0
  Instruction.eq 2,                         -- e p valid?
  Instruction.not,                          -- e p not-valid?
  Instruction.jmpif 4,                      -- e p
  Instruction.pop 2,
  Instruction.pushb true,                   -- valid?
  Instruction.«return»,
  Instruction.roll 2,                       -- p e
  Instruction.pushs 12,                     -- p e msg
  Instruction.roll 3,                       -- msg p e
  Instruction.pushn vsTblExtraErrEid,       -- msg p e eid
  Instruction.roll 4,                       -- eid msg p e
  Instruction.call emitError,
  Instruction.pushb false,                  -- valid?
  Instruction.«return»]

/-- The instructions of `VALIDATE_REDEF`. -/
def validateRedefCode : List Instruction := [
  Instruction.dup 1,                        -- s1 s2 s3 e p p
  Instruction.roll 5,                       -- s1 p s2 s3 e p
  Instruction.dup 1,                        -- s1 p s2 s3 e p p
  Instruction.roll 4,                       -- s1 p s2 p s3 e p
  Instruction.dup 1,                        -- s1 p s2 p s3 e p p
  Instruction.roll 3,                       -- s1 p s2 p s3 p e p
  Instruction.roll 8,                       -- p s1 p s2 p s3 p e
  Instruction.roll 8,                       -- e p s1 p s2 p s3 p
  Instruction.eq 2,                         -- e p s1 p s2 p s3?
  Instruction.roll 5,                       -- e p s3? s1 p s2 p
  Instruction.eq 2,                         -- e p s3? s1 p s2?
  Instruction.roll 3,                       -- e p s3? s2? s1 p
  Instruction.eq 2,                         -- e p s3? s2? s1?
  Instruction.or 3,                         -- e p not-valid?
  Instruction.jmpif 4,                      -- e p
  Instruction.pop 2,
  Instruction.pushb true,                   -- true
  Instruction.«return»,
  Instruction.roll 2,                       -- p e
  Instruction.pushs 13,                     -- p e msg
  Instruction.roll 3,                       -- msg p e
  Instruction.pushn vsTblRedefErrEid,       -- msg p e eid
  Instruction.roll 4,                       -- eid msg p e
  Instruction.call emitError,
  Instruction.pushb false,                  -- valid?
  Instruction.«return»]

/-- The instructions of `HANDLE_PARMERR`. -/
def handleParmerrCode : List Instruction := [
  Instruction.input 1,                      -- entry pad0
  Instruction.pop 1,                        -- entry
  Instruction.input 2,                      -- entry pad12
  Instruction.pop 1,                        -- entry
  Instruction.input 4,                      -- entry lbnd
  Instruction.pop 1,                        -- entry
  Instruction.input 4,                      -- entry hbnd
  Instruction.pop 1,                        -- entry
  Instruction.call emitErrorParmerr,
  Instruction.«return»]

/-- The instructions of `INC_UNUSED`. -/
def incUnusedCode : List Instruction := [
  Instruction.roll 3,                       -- parmid old-unused valid
  Instruction.roll 3,                       -- valid parmid old-unused
  Instruction.pushn 1,                      -- valid parmid old-unused 1
  Instruction.add,                          -- valid parmid new-unused
  Instruction.roll 3,                       -- new-unused valid parmid
  Instruction.«return»]

/-- The instructions of `INC_VALID`. -/
def incValidCode : List Instruction := [
  Instruction.roll 2,                       -- unused parmid new-valid
  Instruction.pushn 1,                      -- unused parmid old-valid 1
  Instruction.add,                          -- unused parmid new-valid
  Instruction.roll 2,                       -- unused new-valid parmid
  Instruction.«return»]

/-- The instructions of `COMPUTE_INVALID`. -/
def computeInvalidCode : List Instruction := [
  Instruction.dup 2,                        -- unused valid unused valid
  Instruction.add,                          -- unused valid not-invalid
  Instruction.pushn 4,                      -- unused valid not-invalid total-entries
  Instruction.roll 2,                       -- unused valid total-entries not-invalid
  Instruction.sub,                          -- unused valid invalid
  Instruction.roll 2,                       -- unused invalid valid
  Instruction.«return»]

/-- The instructions of `COMPUTE_RESULT`. -/
def computeResultCode : List Instruction := [
  Instruction.roll 2,                       -- u v i
  Instruction.dup 1,                        -- u v i i
  Instruction.pushn 0,                      -- u v i i 0
  Instruction.eq 2,                         -- u v i valid?
  Instruction.roll 4,                       -- valid? u v i
  Instruction.roll 2,                       -- valid? u i v
  Instruction.«return»]

/-- The instructions of `EMIT_INFO`. -/
def emitInfoCode : List Instruction := [
  Instruction.pushs 0,
  Instruction.output,                       -- 'Table image entries: '
  Instruction.output,                       -- 'Table image entries: v'
  Instruction.pushs 1,
  Instruction.output,                       -- 'Table image entries: v valid, '
  Instruction.output,                       -- 'Table image entries: v valid, i'
  Instruction.pushs 2,
  Instruction.output,                       -- 'Table image entries: v valid, i unused, '
  Instruction.output,                       -- 'Table image entries: v valid, i unused, u'
  Instruction.pushs 3,
  Instruction.output,                       -- 'Table image entries: v valid, i unused, u unused'
  Instruction.pushn vsValidationInfEid,     -- eid
  Instruction.pushn cfeEvsEventTypeInformation, -- eid etype
  Instruction.flush,
  Instruction.«return»]

/-- The instructions of `EMIT_ERROR_PARMERR`. -/
def emitErrorParmerrCode : List Instruction := [
  Instruction.pushs 4,                      -- entry str ; ''
  Instruction.output,                       -- entry     ; 'Table entry '
  Instruction.output,                       -- ; 'Table entry e'
  Instruction.pushs 7,                      -- str       ; 'Table entry e'
  Instruction.output,                       -- ; 'Table entry e invalid Parm ID'
  Instruction.pushn vsTblParmErrEid,        -- eid
  Instruction.pushn cfeEvsEventTypeError,   -- eid etype
  Instruction.flush,
  Instruction.«return»]

/-- The instructions of `EMIT_ERROR`. -/
def emitErrorCode : List Instruction := [
  Instruction.pushs 4,                      -- eid msg parm entry str ; ''
  Instruction.output,                       -- eid msg parm entry     ; 'Table entry '
  Instruction.output,                       -- eid msg parm           ; 'Table entry e'
  Instruction.pushs 5,                      -- eid msg parm str       ; 'Table entry e'
  Instruction.output,                       -- eid msg parm           ; 'Table entry e parm '
  Instruction.call parmToStr,               -- eid msg ps   ; 'Table entry e parm '
  Instruction.output,                       -- eid msg                ; 'Table entry e parm ps'
  Instruction.output,                       -- eid                    ; 'Table entry e parm ps m'
  Instruction.pushn cfeEvsEventTypeError,   -- eid etype
  Instruction.flush,
  Instruction.«return»]

/-- The instructions of `PARM_TO_STR`. -/
def parmToStrCode : List Instruction := [
  Instruction.dup 1,                        -- parmid parmid
  Instruction.pushn vsParmUnused,           -- parmid parmid code
  Instruction.eq 2,                         -- parmid equal?
  Instruction.not,                          -- parmid not-equal?
  Instruction.jmpif 4,                      -- parmid
  Instruction.pop 1,
  Instruction.pushs 14,                     -- string
  Instruction.«return»,
  Instruction.dup 1,                        -- parmid parmid
  Instruction.pushn vsParmApe,              -- parmid parmid code
  Instruction.eq 2,                         -- parmid equal?
  Instruction.not,                          -- parmid not-equal?
  Instruction.jmpif 4,                      -- parmid
  Instruction.pop 1,
  Instruction.pushs 15,                     -- string
  Instruction.«return»,
  Instruction.dup 1,                        -- parmid parmid
  Instruction.pushn vsParmBat,              -- parmid parmid code
  Instruction.eq 2,                         -- parmid equal?
  Instruction.not,                          -- parmid not-equal?
  Instruction.jmpif 4,                      -- parmid
  Instruction.pop 1,
  Instruction.pushs 16,                     -- string
  Instruction.«return»,
  Instruction.dup 1,                        -- parmid parmid
  Instruction.pushn vsParmCat,              -- parmid parmid code
  Instruction.eq 2,                         -- parmid equal?
  Instruction.not,                          -- parmid not-equal?
  Instruction.jmpif 4,                      -- parmid
  Instruction.pop 1,
  Instruction.pushs 17,                     -- string
  Instruction.«return»,
  Instruction.dup 1,                        -- parmid parmid
  Instruction.pushn vsParmDog,              -- parmid parmid code
  Instruction.eq 2,                         -- parmid equal?
  Instruction.not,                          -- parmid not-equal?
  Instruction.jmpif 4,                      -- parmid
  Instruction.pop 1,
  Instruction.pushs 18,                     -- string
  Instruction.«return»,
  Instruction.dup 1,                        -- parmid parmid
  Instruction.pushn vsParmNorth,            -- parmid parmid code
  Instruction.eq 2,                         -- parmid equal?
  Instruction.not,                          -- parmid not-equal?
  Instruction.jmpif 4,                      -- parmid
  Instruction.pop 1,
  Instruction.pushs 19,                     -- string
  Instruction.«return»,
  Instruction.dup 1,                        -- parmid parmid
  Instruction.pushn vsParmSouth,            -- parmid parmid code
  Instruction.eq 2,                         -- parmid equal?
  Instruction.not,                          -- parmid not-equal?
  Instruction.jmpif 4,                      -- parmid
  Instruction.pop 1,
  Instruction.pushs 20,                     -- string
  Instruction.«return»,
  Instruction.dup 1,                        -- parmid parmid
  Instruction.pushn vsParmEast,             -- parmid parmid code
  Instruction.eq 2,                         -- parmid equal?
  Instruction.not,                          -- parmid not-equal?
  Instruction.jmpif 4,                      -- parmid
  Instruction.pop 1,
  Instruction.pushs 21,                     -- string
  Instruction.«return»,
  Instruction.dup 1,                        -- parmid parmid
  Instruction.pushn vsParmWest,             -- parmid parmid code
  Instruction.eq 2,                         -- parmid equal?
  Instruction.not,                          -- parmid not-equal?
  Instruction.jmpif 4,                      -- parmid
  Instruction.pop 1,
  Instruction.pushs 22,                     -- string
  Instruction.«return»,
  Instruction.pop 1,
  Instruction.pushs 23,                     -- 'unknown'
  Instruction.«return»]

/-- `vsvf_program`: the subroutines in the order of the source. -/
def vsvfProgram : List Instruction :=
  mainCode ++ validateEntryCode ++ isUnusedCode ++ isAnimalCode ++ isDirectionCode ++
    validateUnusedCode ++ validateInuseCode ++ validatePadCode ++ validateBoundsCode ++
    validateRangeCode ++ validateOrderCode ++ validateExtraCode ++ validateRedefCode ++
    handleParmerrCode ++ incUnusedCode ++ incValidCode ++ computeInvalidCode ++
    computeResultCode ++ emitInfoCode cfeEvsEventTypeInformation ++
    emitErrorParmerrCode cfeEvsEventTypeError ++ emitErrorCode cfeEvsEventTypeError ++
    parmToStrCode

/-- Each subroutine is as long as the `*_LOC` macro its successor's address is computed
from, and the program as long as `VSVF_NUM_INSTRUCTIONS`. -/
theorem code_lengths :
    mainCode.length = mainLoc.val ∧ validateEntryCode.length = validateEntryLoc.val ∧
    isUnusedCode.length = isUnusedLoc.val ∧ isAnimalCode.length = isAnimalLoc.val ∧
    isDirectionCode.length = isDirectionLoc.val ∧
    validateUnusedCode.length = validateUnusedLoc.val ∧
    validateInuseCode.length = validateInuseLoc.val ∧
    validatePadCode.length = validatePadLoc.val ∧
    validateBoundsCode.length = validateBoundsLoc.val ∧
    validateRangeCode.length = validateRangeLoc.val ∧
    validateOrderCode.length = validateOrderLoc.val ∧
    validateExtraCode.length = validateExtraLoc.val ∧
    validateRedefCode.length = validateRedefLoc.val ∧
    handleParmerrCode.length = handleParmerrLoc.val ∧
    incUnusedCode.length = incUnusedLoc.val ∧ incValidCode.length = incValidLoc.val ∧
    computeInvalidCode.length = computeInvalidLoc.val ∧
    computeResultCode.length = computeResultLoc.val ∧
    (emitInfoCode cfeEvsEventTypeInformation).length = emitInfoLoc.val ∧
    (emitErrorParmerrCode cfeEvsEventTypeError).length = emitErrorParmerrLoc.val ∧
    (emitErrorCode cfeEvsEventTypeError).length = emitErrorLoc.val ∧
    parmToStrCode.length = parmToStrLoc.val ∧
    (vsvfProgram cfeEvsEventTypeInformation cfeEvsEventTypeError).length =
      vsvfNumInstructions.val := by
  refine ⟨rfl, rfl, rfl, rfl, rfl, rfl, rfl, rfl, rfl, rfl, rfl, rfl, rfl, rfl, rfl, rfl, rfl, rfl,
    rfl, rfl, rfl, rfl, ?_⟩
  simp only [vsvfProgram, List.length_append]
  rfl

end Program

end Grunt.Vsvf
