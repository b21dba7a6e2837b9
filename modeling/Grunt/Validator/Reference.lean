import Grunt.Output
import Grunt.Validator.Table

/-!
# The reference validation

What the specification's validator (§4.7) computes, stated directly over the entries of a
table image: for each entry the errors it reports, in the fixed order ZERO, PARM, PAD,
LBND, HBND, ORDER, EXTRA, REDEF; after the four entries one INFORMATION line with the
counts; and whether the image is valid.  None of it is translated from the Grunt program:
`Grunt.Validator.Main` proves that the program computes it, and `Grunt.Validator.Native`
compares the native validator with it.

An in-use entry is checked against the identifiers of the in-use entries before it, as
step 3 of the policy says, whether those entries were valid or not.  The event
identifiers are those the specification lists (`vs_eventids.h` has the same values), and
the two event types are parameters, as they are of the program.
-/

namespace Grunt.Vsvf

/-- The human name `P` of an identifier. -/
def parmName (p : UInt8) : String :=
  if p = 0x00 then "Unused" else if p = 0x01 then "Ape" else if p = 0x02 then "Bat"
  else if p = 0x04 then "Cat" else if p = 0x08 then "Dog" else if p = 0x10 then "North"
  else if p = 0x20 then "South" else if p = 0x40 then "East" else if p = 0x80 then "West"
  else "Unknown"

/-- The animal set `APE | BAT | CAT | DOG`. -/
def isAnimalId (p : UInt8) : Bool := p = 0x01 || p = 0x02 || p = 0x04 || p = 0x08

/-- The direction set `NORTH | SOUTH | EAST | WEST`. -/
def isDirectionId (p : UInt8) : Bool := p = 0x10 || p = 0x20 || p = 0x40 || p = 0x80

/-- `"Table entry K parm P"` followed by the text of an error. -/
def entryText (k : Nat) (p : UInt8) (msg : String) : List Char :=
  "Table entry ".toList ++ decimal k ++ " parm ".toList ++ (parmName p).toList ++ msg.toList

/-- What the validation carries from one entry to the next. -/
structure RefState where
  valid : Nat
  unused : Nat
  sawUnused : Bool
  seen : List UInt8
  events : List Event

/-- Before the first entry. -/
def RefState.init : RefState := ⟨0, 0, false, [], []⟩

/-- The errors of in-use entry `k` with range `[lo, hi]`, in the fixed order. -/
def inuseErrors (err : Number) (k : Nat) (e : VsEntry) (lo hi : Nat) (sawUnused : Bool)
    (seen : List UInt8) : List Event :=
  let error (eid : Number) (msg : String) : Event := ⟨eid.val, err.val, entryText k e.parmId msg⟩
  (if ∃ i, e.pad i ≠ 0 then [error 0x2004 " padding not zeroed"] else []) ++
  (if lo ≤ e.boundLow.val ∧ e.boundLow.val ≤ hi then [] else [error 0x2008 " invalid low bound"]) ++
  (if lo ≤ e.boundHigh.val ∧ e.boundHigh.val ≤ hi then []
    else [error 0x2010 " invalid high bound"]) ++
  (if e.boundLow.val ≤ e.boundHigh.val then [] else [error 0x2020 " invalid bound order"]) ++
  (if sawUnused then [error 0x2040 " follows an unused entry"] else []) ++
  (if e.parmId ∈ seen then [error 0x2080 " redefines earlier entry"] else [])

/-- The policy for entry `k` (from `1`). -/
def refEntry (err : Number) (k : Nat) (e : VsEntry) (st : RefState) : RefState :=
  if e.parmId = 0x00 then
    if (∀ i, e.pad i = 0) ∧ e.boundLow = 0 ∧ e.boundHigh = 0 then
      { st with unused := st.unused + 1, sawUnused := true }
    else { st with events := st.events ++ [⟨0x2001, err.val, entryText k 0x00 " not zeroed"⟩] }
  else if isAnimalId e.parmId || isDirectionId e.parmId then
    let range : Nat × Nat :=
      if isAnimalId e.parmId then (0x00000010, 0x00001000) else (0x00010000, 0x01000000)
    let errors := inuseErrors err k e range.1 range.2 st.sawUnused st.seen
    { st with
      valid := if errors = [] then st.valid + 1 else st.valid
      seen := e.parmId :: st.seen
      events := st.events ++ errors }
  else
    { st with events := st.events ++
      [⟨0x2002, err.val, "Table entry ".toList ++ decimal k ++ " invalid Parm ID".toList⟩] }

/-- The events of the validation of `entries`, ending with the INFORMATION line, and whether
the image is valid. -/
def referenceValidate (info err : Number) (entries : List VsEntry) : List Event × Bool :=
  let st := entries.enum.foldl (fun st p => refEntry err (p.1 + 1) p.2 st) RefState.init
  let invalid := 4 - st.valid - st.unused
  (st.events ++ [⟨0x0008, info.val, "Table image entries: ".toList ++ decimal st.valid ++
      " valid, ".toList ++ decimal invalid ++ " invalid, ".toList ++ decimal st.unused ++
      " unused".toList⟩],
    invalid = 0)

/-- The four entries of a table image. -/
def vsTableEntries (o : ByteOrder) (image : List UInt8) : List VsEntry :=
  (List.range vsTableNumEntries).map (vsTableEntry o image)

end Grunt.Vsvf
