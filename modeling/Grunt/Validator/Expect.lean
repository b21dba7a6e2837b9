import Grunt.Validator.Events

/-!
# What TBLtest's check of a validation can conclude

`expect_validate_success` and `expect_validate_failure` (`expect.c`) build the statistics message
`"Table image entries: %u valid, %u invalid, %u unused"` from the counts a test expects, and
`expect` waits for a received event whose type, identifier and text (`strcmp`) are the wanted
ones.  On the events of either validator the comparison succeeds for exactly one triple of
counts, the validator's own: the entries' ERROR events all start with `"Table entry "`
(`Blocks.prefix_text`), and the statistics text gives its three numbers back
(`validationMessage_inj`, from `decimal_append_cancel`).

The events modelled carry no application name; `expect` also compares that, and the loop that
receives telemetry is not modelled.
-/

namespace Grunt.Vsvf

/-! ## Decimal numbers read back -/

/-- The value of a decimal digit character. -/
def digitValue (c : Char) : Nat := c.toNat - '0'.toNat

theorem digitValue_digitChar {d : Nat} (h : d < 10) : digitValue (Nat.digitChar d) = d := by
  have hall : ∀ e ∈ List.range 10, digitValue (Nat.digitChar e) = e := by decide
  exact hall d (List.mem_range.mpr h)

theorem isDigit_digitChar {d : Nat} (h : d < 10) : (Nat.digitChar d).isDigit = true := by
  have hall : ∀ e ∈ List.range 10, (Nat.digitChar e).isDigit = true := by decide
  exact hall d (List.mem_range.mpr h)

/-- The number whose decimal digits are `cs`, most significant first. -/
def ofDecimal (cs : List Char) : Nat := Nat.ofDigits 10 (cs.reverse.map digitValue)

theorem ofDecimal_decimal (n : Nat) : ofDecimal (decimal n) = n := by
  unfold decimal ofDecimal
  split
  · subst n; rfl
  · rw [← List.map_reverse, List.reverse_reverse, List.map_map]
    conv_rhs => rw [← Nat.ofDigits_digits 10 n]
    congr 1
    conv_rhs => rw [← List.map_id (Nat.digits 10 n)]
    exact List.map_congr_left fun d hd =>
      digitValue_digitChar (Nat.digits_lt_base (by norm_num) hd)

theorem isDigit_of_mem_decimal {n : Nat} {c : Char} (h : c ∈ decimal n) : c.isDigit = true := by
  unfold decimal at h
  split at h
  · simp only [List.mem_singleton] at h
    subst c; rfl
  · obtain ⟨d, hd, rfl⟩ := List.mem_map.mp h
    exact isDigit_digitChar (Nat.digits_lt_base (by norm_num) (List.mem_reverse.mp hd))

/-- A decimal number followed by a character that is not a digit is read back whole. -/
theorem decimal_append_cancel {a b : Nat} {c : Char} {l l' : List Char} (hc : c.isDigit = false)
    (h : decimal a ++ c :: l = decimal b ++ c :: l') : a = b ∧ l = l' := by
  have htake (n : Nat) (l : List Char) : (decimal n ++ c :: l).takeWhile Char.isDigit = decimal n := by
    rw [List.takeWhile_append_of_pos fun x hx => isDigit_of_mem_decimal hx,
      List.takeWhile_cons_of_neg (by simp [hc]), List.append_nil]
  have hdec : decimal a = decimal b := by rw [← htake a l, h, htake]
  refine ⟨by rw [← ofDecimal_decimal a, hdec, ofDecimal_decimal], ?_⟩
  rw [hdec] at h
  exact List.tail_eq_of_cons_eq (List.append_cancel_left h)

/-! ## `expect.c` -/

/-- The statistics message `expect_validate_success` and `expect_validate_failure` wait for. -/
def validationMessage (countValid countInvalid countUnused : Nat) : List Char :=
  "Table image entries: ".toList ++ decimal countValid ++ " valid, ".toList ++
    decimal countInvalid ++ " invalid, ".toList ++ decimal countUnused ++ " unused".toList

/-- `expect`'s test of a received event against the wanted type, identifier and message. -/
def expectMatches (wantEventType wantEventId : Nat) (wantMessage : List Char) (ev : Event) : Bool :=
  ev.eventType == wantEventType && ev.eventId == wantEventId && ev.text == wantMessage

theorem validationMessage_inj {v i u v' i' u' : Nat}
    (h : validationMessage v i u = validationMessage v' i' u') : v = v' ∧ i = i' ∧ u = u' := by
  simp only [validationMessage, List.append_assoc, List.append_cancel_left_eq] at h
  obtain ⟨rfl, h⟩ := decimal_append_cancel (by decide) h
  simp only [List.cons_inj_right, List.append_cancel_left_eq] at h
  obtain ⟨rfl, h⟩ := decimal_append_cancel (by decide) h
  simp only [List.cons_inj_right, List.append_cancel_left_eq] at h
  obtain ⟨rfl, -⟩ := decimal_append_cancel (by decide) h
  exact ⟨rfl, rfl, rfl⟩

theorem not_prefix_validationMessage (v i u : Nat) :
    ¬ ("Table entry ".toList).IsPrefix (validationMessage v i u) := by
  intro h
  have htake := List.prefix_iff_eq_take.mp h
  simp only [validationMessage, List.append_assoc] at htake
  rw [List.take_append_of_le_length (by decide)] at htake
  exact absurd htake (by decide)

theorem Blocks.prefix_text {err : Number} {n : Nat} {evs : List Event} (h : Blocks err n evs) :
    ∀ ev ∈ evs, ("Table entry ".toList).IsPrefix ev.text := by
  induction h with
  | nil => intro ev hev; simp at hev
  | snoc _ hblock ih =>
    intro ev hev
    rcases List.mem_append.mp hev with hev | hev
    · exact ih ev hev
    · exact (List.prefix_append _ _).trans ((List.prefix_append _ _).trans (hblock.names ev hev))

/-- In a log of entry blocks and a statistics event, `expect` finds the message it waits for
exactly when the counts it wants are those of the statistics event. -/
theorem any_expectMatches_iff {err : Number} {n : Nat} {evs : List Event} (h : Blocks err n evs)
    (info : Number) (valid invalid unused v i u : Nat) :
    (evs ++ [summaryEvent info valid invalid unused]).any
        (expectMatches info.val vsValidationInfEid.val (validationMessage v i u)) = true ↔
      v = valid ∧ i = invalid ∧ u = unused := by
  have hblocks : evs.any (expectMatches info.val vsValidationInfEid.val (validationMessage v i u)) =
      false := by
    refine List.any_eq_false.mpr fun ev hev hmatch => ?_
    simp only [expectMatches, Bool.and_eq_true, beq_iff_eq] at hmatch
    exact not_prefix_validationMessage v i u (hmatch.2 ▸ Blocks.prefix_text h ev hev)
  have hsummary : summaryEvent info valid invalid unused =
      ⟨vsValidationInfEid.val, info.val, validationMessage valid invalid unused⟩ := rfl
  rw [List.any_append, hblocks, Bool.false_or, List.any_cons, List.any_nil, Bool.or_false, hsummary]
  simp only [expectMatches, beq_self_eq_true, Bool.true_and, beq_iff_eq]
  exact ⟨fun h => validationMessage_inj h.symm, fun ⟨hv, hi, hu⟩ => by rw [hv, hi, hu]⟩

end Grunt.Vsvf

namespace Grunt.Vsa

open Grunt.Vsvf

/-- On every table image, the statistics message that `expect_validate_success` and
`expect_validate_failure` wait for is among the events of `VSA_table_validate` for exactly one
triple of counts; they add up to four, and the invalid count is zero exactly when the validator
returns `CFE_SUCCESS`. -/
theorem vsaTableValidate_expect (o : ByteOrder) (info err : Number) (image : List UInt8) :
    ∃ valid invalid unused, valid + invalid + unused = 4 ∧
      ((vsaTableValidate o info err image).2 = cfeSuccess ↔ invalid = 0) ∧
      ∀ v i u, (vsaTableValidate o info err image).1.any
          (expectMatches info.val vsValidationInfEid.val (validationMessage v i u)) = true ↔
        v = valid ∧ i = invalid ∧ u = unused := by
  refine ⟨(vsaStates err o image 4).countValid, (vsaStates err o image 4).countInvalid,
    (vsaStates err o image 4).countUnused,
    by have := (vsaStates_simulates err o image 4).total; omega, ?_, fun v i u => ?_⟩
  · rw [vsaTableValidate_log]
    split_ifs with hzero
    · exact iff_of_true rfl hzero
    · exact iff_of_false vsaTableInvalidResult_ne hzero
  · rw [vsaTableValidate_log]
    exact any_expectMatches_iff (blocks_vsaStates err o image 4) info _ _ _ v i u

/-- On every table image, the statistics message that `expect_validate_success` and
`expect_validate_failure` wait for is among the events the run of `vsvf_program` sends for
`VSC_table_validate` for exactly one triple of counts; they add up to four, and the invalid
count is zero exactly when `VSC_table_validate` returns `CFE_SUCCESS`. -/
theorem vscTableValidate_expect (o : ByteOrder) (C : Nat) (hC : 50 ≤ C) (info err : Number)
    (image : List UInt8) (vm : Vm) :
    ∃ valid invalid unused, valid + invalid + unused = 4 ∧
      ((vscTableValidate o C info err image vm).1 = cfeSuccess ↔ invalid = 0) ∧
      ∀ v i u, ((vscTableValidate o C info err image vm).2.events.drop vm.events.length).any
          (expectMatches info.val vsValidationInfEid.val (validationMessage v i u)) = true ↔
        v = valid ∧ i = invalid ∧ u = unused := by
  obtain ⟨hst, hev⟩ := vscTableValidate_reference o C hC info err image vm
  rw [referenceValidate_refStates] at hst hev
  simp only [decide_eq_true_eq] at hst
  have hle := refStates_counts err o image 4
  refine ⟨(refStates err o image 4).valid,
    4 - (refStates err o image 4).valid - (refStates err o image 4).unused,
    (refStates err o image 4).unused, by omega, ?_, fun v i u => ?_⟩
  · rw [hst]
    split_ifs with hzero
    · exact iff_of_true rfl hzero
    · exact iff_of_false vscTableInvalidResult_ne hzero
  · rw [hev, List.drop_left]
    exact any_expectMatches_iff (blocks_refStates err o image 4) info _ _ _ v i u

/-- `VSC_table_validate` on the all-zero image. -/
theorem vscTableValidate_expect_zero :
    50 ≤ 50 ∧ ∃ valid invalid unused, valid + invalid + unused = 4 ∧
      ((vscTableValidate .little 50 0 0 (List.replicate 48 0) (Vm.boot 50)).1 = cfeSuccess ↔
        invalid = 0) ∧
      ∀ v i u, ((vscTableValidate .little 50 0 0 (List.replicate 48 0) (Vm.boot 50)).2.events.drop
          (Vm.boot 50).events.length).any
          (expectMatches (0 : Number).val vsValidationInfEid.val (validationMessage v i u)) = true ↔
        v = valid ∧ i = invalid ∧ u = unused :=
  ⟨le_refl 50, vscTableValidate_expect .little 50 (le_refl 50) 0 0 (List.replicate 48 0) (Vm.boot 50)⟩

end Grunt.Vsa
