import Grunt.Input

/-!
# The table image

`vs_tablestruct.h` lays a table image out as `VS_TABLE_NUM_ENTRIES` entries of twelve
bytes: the parameter identifier, three pad bytes, and the two bounds as `uint32`s in the
host's byte order.  `vsEntryOf` reads one entry the way a C program on a host of byte
order `o` sees it through a `vs_entry_t` pointer, and `decode_eq_zero_iff` is the fact the
validator program's pad checks rest on: a number read from bytes is zero exactly when
every byte is.
-/

namespace Grunt.Vsvf

/-- `VS_TABLE_NUM_ENTRIES`. -/
def vsTableNumEntries : Nat := 4

/-- `vs_entry_t`. -/
structure VsEntry where
  parmId : UInt8
  pad : Fin 3 → UInt8
  boundLow : Number
  boundHigh : Number

/-- The `uint32` at offset `off` of `bytes` on a host of byte order `o`. -/
def readUint32 (o : ByteOrder) (bytes : List UInt8) (off : Nat) : Number :=
  ⟨o.decode ((bytes.drop off).take 4), (decode_lt o _).trans_le
    ((Nat.pow_le_pow_right (by decide) (List.length_take_le _ _)).trans (by decide))⟩

/-- The entry whose twelve bytes start `bytes`. -/
def vsEntryOf (o : ByteOrder) (bytes : List UInt8) : VsEntry where
  parmId := bytes.getD 0 0
  pad := fun i => bytes.getD (1 + i.val) 0
  boundLow := readUint32 o bytes 4
  boundHigh := readUint32 o bytes 8

/-- Entry `i` (from `0`) of a table image. -/
def vsTableEntry (o : ByteOrder) (image : List UInt8) (i : Nat) : VsEntry :=
  vsEntryOf o (image.drop (12 * i))

theorem uint8_eq_zero_iff (b : UInt8) : b = 0 ↔ b.toNat = 0 :=
  ⟨fun h => h ▸ UInt8.toNat_zero, fun h => UInt8.eq_of_val_eq (Fin.ext (h.trans UInt8.toNat_zero.symm))⟩

theorem decode_eq_zero_iff (o : ByteOrder) (bytes : List UInt8) :
    o.decode bytes = 0 ↔ ∀ b ∈ bytes, b = 0 := by
  cases o with
  | little =>
    induction bytes with
    | nil => simp [ByteOrder.decode]
    | cons b bs ih =>
      simp only [ByteOrder.decode, List.foldr_cons, List.mem_cons, forall_eq_or_imp] at ih ⊢
      rw [← ih, uint8_eq_zero_iff]
      omega
  | big =>
    suffices h : ∀ acc, bytes.foldl (fun acc b => 256 * acc + b.toNat) acc = 0 ↔
        acc = 0 ∧ ∀ b ∈ bytes, b = 0 by simpa using h 0
    induction bytes with
    | nil => simp
    | cons b bs ih =>
      intro acc
      rw [List.foldl_cons, ih, List.forall_mem_cons, uint8_eq_zero_iff]
      constructor
      · rintro ⟨h, hbs⟩
        exact ⟨by omega, by omega, hbs⟩
      · rintro ⟨h₁, h₂, hbs⟩
        exact ⟨by omega, hbs⟩

theorem decode_singleton (o : ByteOrder) (b : UInt8) : o.decode [b] = b.toNat := by
  cases o <;> simp [ByteOrder.decode]

end Grunt.Vsvf
