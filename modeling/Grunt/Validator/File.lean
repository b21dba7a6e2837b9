import Grunt.Validator.Verdict

/-!
# The table files of the test program

TBLtest (`file.c`) builds the table image that it loads into the app under test.
- `file_init` clears `table_data`.
- `file_set_entry` fills one entry. It copies its single pad byte into the three pad bytes and
  stores the bounds in host byte order.
- `file_output` writes `table_data` after the cFE file and table headers.

cFE hands those last 48 bytes to the validator.  The headers are cFE types defined outside this
repository and are left out: `tableBytes` is the image.

The validators read back each entry as `file_set_entry` left it: the last call that named the
entry, or zeroes (`buildTable_read`).  The three pad bytes of every entry the test program
writes are equal, so `pad_is_valid` judges them as the reference does.  On every table the test
program can build, the two validators therefore send the same events and return the same status
(`buildTable_vsa_eq_vsc`).
-/

namespace Grunt

/-- The four bytes a host of byte order `o` stores for the `uint32` `n`, lowest address first. -/
def ByteOrder.encode (o : ByteOrder) (n : Nat) : List UInt8 :=
  match o with
  | .little => [n.toUInt8, (n / 0x100).toUInt8, (n / 0x10000).toUInt8, (n / 0x1000000).toUInt8]
  | .big => [(n / 0x1000000).toUInt8, (n / 0x10000).toUInt8, (n / 0x100).toUInt8, n.toUInt8]

theorem toNat_natToUInt8 (n : Nat) : n.toUInt8.toNat = n % 256 := rfl

/-- A host reads back the `uint32` it stored. -/
theorem decode_encode (o : ByteOrder) {n : Nat} (h : n < 2 ^ 32) : o.decode (o.encode n) = n := by
  cases o <;> simp only [ByteOrder.decode, ByteOrder.encode, List.foldr, List.foldl,
    toNat_natToUInt8] <;> omega

theorem encode_length (o : ByteOrder) (n : Nat) : (o.encode n).length = 4 := by
  cases o <;> rfl

end Grunt

namespace Grunt.Vsvf

/-! ## The bytes of `table_data` -/

/-- The bytes of an entry in memory: `parm_id`, `pad[3]`, `bound_low`, `bound_high`. -/
def entryBytes (o : ByteOrder) (e : VsEntry) : List UInt8 :=
  [e.parmId, e.pad 0, e.pad 1, e.pad 2] ++ o.encode e.boundLow.val ++ o.encode e.boundHigh.val

theorem entryBytes_length (o : ByteOrder) (e : VsEntry) : (entryBytes o e).length = 12 := by
  simp [entryBytes, encode_length]

theorem readUint32_encode (o : ByteOrder) (n : Number) (rest : List UInt8) :
    readUint32 o (o.encode n.val ++ rest) 0 = n :=
  Fin.ext <| by
    rw [readUint32]
    dsimp only
    rw [List.drop_zero, List.take_left' (encode_length o _), decode_encode o n.isLt]

/-- An entry is read back from its bytes, whatever follows them. -/
theorem vsEntryOf_entryBytes (o : ByteOrder) (e : VsEntry) (rest : List UInt8) :
    vsEntryOf o (entryBytes o e ++ rest) = e := by
  obtain ⟨p, pad, lo, hi⟩ := e
  have hlo := readUint32_encode o lo (o.encode hi.val ++ rest)
  have hhi := readUint32_encode o hi rest
  simp only [readUint32, List.drop_zero] at hlo hhi
  simp only [vsEntryOf, VsEntry.mk.injEq, entryBytes, readUint32, List.append_assoc]
  refine ⟨rfl, funext fun i => by fin_cases i <;> rfl, Fin.ext ?_, Fin.ext ?_⟩
  · exact congrArg Fin.val hlo
  · dsimp only
    rw [← List.append_assoc, List.drop_left' (by simp [encode_length])]
    exact congrArg Fin.val hhi

/-- The bytes `file_output` writes of `table_data`, after the headers: the table image. -/
def tableBytes (o : ByteOrder) (t : Fin vsTableNumEntries → VsEntry) : List UInt8 :=
  (List.ofFn t).flatMap (entryBytes o)

theorem drop_flatMap_entryBytes (o : ByteOrder) (es : List VsEntry) (i : Nat) :
    (es.flatMap (entryBytes o)).drop (12 * i) = (es.drop i).flatMap (entryBytes o) := by
  induction es generalizing i with
  | nil => simp
  | cons e es ih =>
    cases i with
    | zero => rfl
    | succ i =>
      rw [List.flatMap_cons, List.drop_succ_cons, ← ih, Nat.mul_succ, Nat.add_comm,
        List.drop_append_eq_append_drop, entryBytes_length, List.drop_eq_nil_of_le (by simp [entryBytes_length]),
        List.nil_append, Nat.add_sub_cancel_left]

/-- The validators read back every entry of `table_data` from the image. -/
theorem vsTableEntry_tableBytes (o : ByteOrder) (t : Fin vsTableNumEntries → VsEntry)
    (i : Fin vsTableNumEntries) : vsTableEntry o (tableBytes o t) i = t i := by
  rw [vsTableEntry, tableBytes, drop_flatMap_entryBytes,
    List.drop_eq_getElem_cons (by simp only [List.length_ofFn]; exact i.isLt), List.flatMap_cons,
    List.getElem_ofFn, vsEntryOf_entryBytes]

/-! ## `file_init` and `file_set_entry` -/

/-- An entry with every byte zero. -/
def zeroEntry : VsEntry := ⟨0, fun _ => 0, 0, 0⟩

/-- `table_data` after `file_init`: every byte zero. -/
def fileInit : Fin vsTableNumEntries → VsEntry := fun _ => zeroEntry

/-- `file_set_entry`: entry `entry` gets the identifier, the pad byte in each of its three pad
bytes, and the bounds.  An `entry` past the table fails the `assert`, which ends the program:
`none`. -/
def fileSetEntry (t : Fin vsTableNumEntries → VsEntry) (entry : Nat) (parmId pad : UInt8)
    (boundLow boundHigh : Number) : Option (Fin vsTableNumEntries → VsEntry) :=
  if h : entry < vsTableNumEntries then
    some (Function.update t ⟨entry, h⟩ ⟨parmId, fun _ => pad, boundLow, boundHigh⟩)
  else none

/-- The arguments of a call of `file_set_entry`. -/
structure SetEntryCall where
  entry : Nat
  parmId : UInt8
  pad : UInt8
  boundLow : Number
  boundHigh : Number

/-- `table_data` after `file_init` and the calls `calls` of `file_set_entry`, or `none` once
one of them fails its `assert`. -/
def buildTable (calls : List SetEntryCall) : Option (Fin vsTableNumEntries → VsEntry) :=
  calls.foldlM (fun t c => fileSetEntry t c.entry c.parmId c.pad c.boundLow c.boundHigh) fileInit

/-- Entry `i` as the calls leave it: as the last call that named it wrote it, or zeroes if none
did. -/
def lastSet (calls : List SetEntryCall) (i : Nat) : VsEntry :=
  ((calls.reverse.find? (·.entry = i)).map fun c => ⟨c.parmId, fun _ => c.pad, c.boundLow,
    c.boundHigh⟩).getD zeroEntry

theorem buildTable_append_singleton (calls : List SetEntryCall) (c : SetEntryCall) :
    buildTable (calls ++ [c]) =
      (buildTable calls).bind fun t => fileSetEntry t c.entry c.parmId c.pad c.boundLow c.boundHigh := by
  simp only [buildTable, List.foldlM_append, List.foldlM_cons, List.foldlM_nil, bind_pure,
    Option.bind_eq_bind]

/-- Every entry of a table the calls build is the one `lastSet` names. -/
theorem buildTable_entry {calls : List SetEntryCall} {t : Fin vsTableNumEntries → VsEntry}
    (h : buildTable calls = some t) (i : Fin vsTableNumEntries) : t i = lastSet calls i := by
  induction calls using List.reverseRecOn generalizing t with
  | nil => cases h; rfl
  | append_singleton calls c ih =>
    rw [buildTable_append_singleton, Option.bind_eq_some] at h
    obtain ⟨t₀, h₀, hset⟩ := h
    rw [fileSetEntry] at hset
    split at hset
    · cases hset
      rw [lastSet, List.reverse_append, List.reverse_singleton, List.singleton_append,
        List.find?_cons]
      by_cases hi : i = ⟨c.entry, ‹_›⟩
      · subst hi
        simp
      · have hne : c.entry ≠ i.val := fun he => hi (Fin.ext he.symm)
        rw [Function.update_noteq hi, ih h₀]
        simp [hne, lastSet]
    · cases hset

/-! ## What the validators see of the test program's tables -/

/-- After `file_init` and calls of `file_set_entry` that pass their `assert`s, the validators
read entry `i` of the image `file_output` writes as the last call naming `i` set it, with its
pad byte in all three pad bytes, or as an all-zero entry if no call named `i`. -/
theorem buildTable_read {calls : List SetEntryCall} {t : Fin vsTableNumEntries → VsEntry}
    (h : buildTable calls = some t) (o : ByteOrder) :
    vsTableEntries o (tableBytes o t) = (List.range vsTableNumEntries).map (lastSet calls) := by
  refine List.map_congr_left fun i hi => ?_
  have hi := List.mem_range.mp hi
  exact (vsTableEntry_tableBytes o t ⟨i, hi⟩).trans (buildTable_entry h ⟨i, hi⟩)

/-- The calls of `test_pad_err` (`deterministic.c`): a valid Cat entry, then an Ape entry with
pad byte `0x42`. -/
def padErrCalls : List SetEntryCall :=
  [⟨0, 0x04, 0x00, 0x00001000, 0x00001000⟩, ⟨1, 0x01, 0x42, 0x00000010, 0x00001000⟩]

/-- `table_data` after the calls of `test_pad_err`. -/
def padErrTable : Fin vsTableNumEntries → VsEntry :=
  Function.update (Function.update fileInit ⟨0, by decide⟩ ⟨0x04, fun _ => 0x00, 0x1000, 0x1000⟩)
    ⟨1, by decide⟩ ⟨0x01, fun _ => 0x42, 0x10, 0x1000⟩

theorem buildTable_read_padErr :
    buildTable padErrCalls = some padErrTable ∧
      vsTableEntries .little (tableBytes .little padErrTable) =
        (List.range vsTableNumEntries).map (lastSet padErrCalls) :=
  ⟨rfl, buildTable_read (show buildTable padErrCalls = some padErrTable from rfl) .little⟩

theorem uint8_and_self (b : UInt8) : b &&& b = b :=
  uint8_eq_of_toNat_eq (by rw [UInt8.and_toNat, Nat.and_self])

/-- The three pad bytes of every entry the calls leave are equal. -/
theorem lastSet_pad (calls : List SetEntryCall) (i : Nat) :
    ∃ b, (lastSet calls i).pad = fun _ => b := by
  unfold lastSet
  cases calls.reverse.find? (·.entry = i) with
  | none => exact ⟨0, rfl⟩
  | some c => exact ⟨c.pad, rfl⟩

end Grunt.Vsvf

namespace Grunt.Vsa

open Grunt.Vsvf

/-- On every table the test program builds, `VSA_table_validate` and `VSC_table_validate`
return the same status and send the same events: no test of TBLtest sees `pad_is_valid` depart
from the reference. -/
theorem buildTable_vsa_eq_vsc {calls : List SetEntryCall} {t : Fin vsTableNumEntries → VsEntry}
    (h : buildTable calls = some t) (o : ByteOrder) (C : Nat) (hC : 50 ≤ C) (info err : Number)
    (vm : Vm) :
    (vscTableValidate o C info err (tableBytes o t) vm).1 =
        (vsaTableValidate o info err (tableBytes o t)).2 ∧
      (vscTableValidate o C info err (tableBytes o t) vm).2.events =
        vm.events ++ (vsaTableValidate o info err (tableBytes o t)).1 := by
  have hpad : PadsAgree o (tableBytes o t) := fun i hi _ => by
    obtain ⟨b, hb⟩ := lastSet_pad calls i
    have he : vsTableEntry o (tableBytes o t) i = lastSet calls i :=
      (vsTableEntry_tableBytes o t ⟨i, hi⟩).trans (buildTable_entry h ⟨i, hi⟩)
    rw [he, PadAgrees, hb]
    simp only [uint8_and_self]
    exact ⟨fun h _ => h, fun h => h 0⟩
  generalize tableBytes o t = image at hpad ⊢
  rw [vsaTableValidate_reference o info err image hpad]
  exact vscTableValidate_reference o C hC info err image vm

theorem buildTable_vsa_eq_vsc_padErr :
    buildTable padErrCalls = some padErrTable ∧ 50 ≤ 50 ∧
      (vscTableValidate .little 50 0 0 (tableBytes .little padErrTable) (Vm.boot 50)).1 =
        (vsaTableValidate .little 0 0 (tableBytes .little padErrTable)).2 ∧
      (vscTableValidate .little 50 0 0 (tableBytes .little padErrTable) (Vm.boot 50)).2.events =
        (Vm.boot 50).events ++ (vsaTableValidate .little 0 0 (tableBytes .little padErrTable)).1 :=
  ⟨rfl, le_refl 50, buildTable_vsa_eq_vsc (show buildTable padErrCalls = some padErrTable from rfl)
    .little 50 (le_refl 50) 0 0 (Vm.boot 50)⟩

end Grunt.Vsa
