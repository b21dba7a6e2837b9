import Grunt.Value

/-!
# The output queue

This module transcribes `grunt_output.c`: the string table a program refers to by index,
and the line under construction, a buffer of `OUTPUT_QUEUE_SIZE` characters with the index
of its terminating NUL.  `OUTPUT_QUEUE_SIZE` is the mission constant
`CFE_MISSION_EVS_MAX_MESSAGE_LENGTH`, which is not part of the repository, so it is a
parameter `C`.  A flush hands the line to `CFE_EVS_SendEvent` as a `%s` argument; the event
the host receives is recorded as an `Event`.

A line is clean when its buffer holds the text before the index and NULs after it.  The
lemmas at the end give the effect of each append and flush on a clean line: this is how the
validator's messages are computed later.
-/

namespace Grunt

/-- The characters `snprintf(string, NUMBER_BUFFER_SIZE, "%u", u)` writes: the decimal digits
of `u`, most significant first, `0` for zero.  The sixteen-character buffer holds the digits
of any 32-bit number. -/
def decimal (u : Nat) : List Char :=
  if u = 0 then ['0'] else (Nat.digits 10 u).reverse.map Nat.digitChar

/-- The characters of a C string before its terminator, as `strlen` counts them. -/
def cString (s : String) : List Char := s.toList.takeWhile (· ≠ '\x00')

/-- An event as `CFE_EVS_SendEvent` receives it: identifier, type and text. -/
structure Event where
  eventId : Nat
  eventType : Nat
  text : List Char
  deriving DecidableEq, Repr

/-- The globals `g_string_table`, `g_num_strings`, `g_output_queue` and `g_tail_index`. -/
structure Output where
  stringTable : List String
  numStrings : Nat
  queue : List Char
  tail : Nat
  deriving DecidableEq, Repr

section Queue

variable (C : Nat)

/-- `grunt_output_reset`: a buffer of NULs and the index at the start. -/
def outputReset (o : Output) : Output := { o with queue := List.replicate C '\x00', tail := 0 }

/-- `grunt_output_enqueue`: copy `length` characters of `string` at the index, unless they
would reach the last character of the buffer.  The index is a `grunt_rep_t`. -/
def outputEnqueue (string : List Char) (length : Nat) (o : Output) : Except Status Output :=
  if o.tail + length > C - 1 then .error .outOfBounds
  else .ok { o with
    queue := o.queue.take o.tail ++ string.take length ++ o.queue.drop (o.tail + length)
    tail := (o.tail + length) % 65536 }

/-- `grunt_output_init`. -/
def outputInit (table : List String) (numStrings : Nat) (o : Output) : Output :=
  outputReset C { o with stringTable := table, numStrings := numStrings }

/-- `grunt_output_enqueue_boolean`. -/
def outputEnqueueBoolean (tf : Bool) (o : Output) : Except Status Output :=
  if tf then outputEnqueue C "true".toList 4 o else outputEnqueue C "false".toList 5 o

/-- `grunt_output_enqueue_number`: the digits `snprintf` writes, with its two length checks. -/
def outputEnqueueNumber (u : Number) (o : Output) : Except Status Output :=
  let string := decimal u.val
  let length : Int := string.length
  if length = -1 then .error .interpreterBug
  else if length > 65535 then .error .interpreterBug
  else outputEnqueue C string string.length o

/-- `grunt_output_enqueue_string`: the `strlen` of the indexed string is stored in a
`grunt_rep_t` before it is compared with `GRUNT_REP_MAX`. -/
def outputEnqueueString (i : Fin 65536) (o : Output) : Except Status Output :=
  if ¬(i.val < o.numStrings) then .error .invalidLiteral
  else
    let string := cString (o.stringTable.getD i.val "")
    let length := string.length % 65536
    if 65535 < length then .error .outOfBounds
    else outputEnqueue C string length o

/-- `grunt_output_flush`: the event sent with the buffer as its `%s` text, and the reset
buffer. -/
def outputFlush (eventType eventId : Number) (o : Output) : Event × Output :=
  (⟨eventId.val, eventType.val, o.queue.takeWhile (· ≠ '\x00')⟩, outputReset C o)

/-! ## What an append can fail with -/

/-- A 32-bit number has at most ten decimal digits. -/
theorem length_decimal_le {u : Nat} (hu : u < 2 ^ 32) : (decimal u).length ≤ 10 := by
  unfold decimal
  split_ifs with h
  · simp
  · rw [List.length_map, List.length_reverse, Nat.digits_len 10 u (by norm_num) h]
    have := Nat.log_lt_of_lt_pow h (show u < 10 ^ 10 by omega)
    omega

/-- A number below `10 ^ k` has at most `k` digits. -/
theorem length_decimal_le_of_lt {u k : Nat} (hk : 1 ≤ k) (hu : u < 10 ^ k) :
    (decimal u).length ≤ k := by
  unfold decimal
  split_ifs with h
  · simpa using hk
  · rw [List.length_map, List.length_reverse, Nat.digits_len 10 u (by norm_num) h]
    have := Nat.log_lt_of_lt_pow h hu
    omega

theorem nul_not_mem_decimal (u : Nat) : '\x00' ∉ decimal u := by
  unfold decimal
  split_ifs with hu
  · decide
  · simp only [List.mem_map, List.mem_reverse, not_exists, not_and]
    intro d hd hc
    have := Nat.digits_lt_base (by norm_num) hd
    interval_cases d <;> simp [Nat.digitChar] at hc

theorem nul_not_mem_cString (s : String) : '\x00' ∉ cString s := fun h => by
  have := List.mem_takeWhile_imp h
  simp at this

variable {C} {o : Output} {e : Status}

theorem outputEnqueue_error {string : List Char} {length : Nat}
    (h : outputEnqueue C string length o = .error e) : e = .outOfBounds := by
  unfold outputEnqueue at h
  split_ifs at h
  cases h
  rfl

theorem outputEnqueueBoolean_error {tf : Bool} (h : outputEnqueueBoolean C tf o = .error e) :
    e = .outOfBounds := by
  unfold outputEnqueueBoolean at h
  split at h <;> exact outputEnqueue_error h

/-- Both `InterpreterBug` checks of `grunt_output_enqueue_number` are dead: `snprintf`
writes at most ten digits. -/
theorem outputEnqueueNumber_error {u : Number} (h : outputEnqueueNumber C u o = .error e) :
    e = .outOfBounds := by
  have hlen := length_decimal_le u.isLt
  unfold outputEnqueueNumber at h
  rw [if_neg (by omega), if_neg (by omega)] at h
  exact outputEnqueue_error h

theorem outputEnqueueString_error {i : Fin 65536} (h : outputEnqueueString C i o = .error e) :
    e = .invalidLiteral ∨ e = .outOfBounds := by
  unfold outputEnqueueString at h
  split at h
  · cases h; exact .inl rfl
  · dsimp only at h
    rw [if_neg (by omega)] at h
    exact .inr (outputEnqueue_error h)

end Queue

/-! ## A line in its buffer -/

section Lines

variable (C : Nat)

/-- The buffer of `C` characters holding the line `L` followed by NULs, with the index at
the end of `L`: the shape every append and flush of the code keeps. -/
def lineBuffer (L : List Char) (o : Output) : Output :=
  { o with queue := L ++ List.replicate (C - L.length) '\x00', tail := L.length }

/-- The text of an output buffer: the characters before the index. -/
def Output.line (o : Output) : List Char := o.queue.take o.tail

variable {C} {L : List Char} {o : Output}

theorem outputReset_eq (o : Output) : outputReset C o = lineBuffer C [] o := by
  simp [outputReset, lineBuffer]

theorem line_lineBuffer : (lineBuffer C L o).line = L := by
  simp [Output.line, lineBuffer]

/-- An append that fits copies the first `length` characters of the string after the line;
the index, a `grunt_rep_t`, becomes `L.length + length` modulo `2 ^ 16`. -/
theorem outputEnqueue_lineBuffer_fit {string : List Char} {length : Nat}
    (hlen : length ≤ string.length) (hfit : L.length + length ≤ C - 1) :
    outputEnqueue C string length (lineBuffer C L o) =
      .ok { lineBuffer C (L ++ string.take length) o with tail := (L.length + length) % 65536 } := by
  have hdrop : (L ++ List.replicate (C - L.length) '\x00').drop (L.length + length) =
      List.replicate (C - (L.length + length)) '\x00' := by
    rw [List.drop_append_eq_append_drop, List.drop_eq_nil_of_le (by omega), List.nil_append,
      Nat.add_sub_cancel_left, List.drop_replicate]
    congr 1
    omega
  simp only [outputEnqueue, lineBuffer, if_neg (show ¬(L.length + length > C - 1) by omega),
    List.take_left, hdrop, List.length_append, List.length_take, Nat.min_eq_left hlen,
    List.append_assoc]

/-- An append that fits extends the line by the first `length` characters of the string,
as long as the new index is a `grunt_rep_t`. -/
theorem outputEnqueue_lineBuffer_of_lt {string : List Char} {length : Nat}
    (hlen : length ≤ string.length) (hfit : L.length + length ≤ C - 1)
    (hlt : L.length + length < 65536) :
    outputEnqueue C string length (lineBuffer C L o) =
      .ok (lineBuffer C (L ++ string.take length) o) := by
  rw [outputEnqueue_lineBuffer_fit hlen hfit, Nat.mod_eq_of_lt hlt]
  simp only [lineBuffer, List.length_append, List.length_take, Nat.min_eq_left hlen]

/-- An append that fits extends the line by the first `length` characters of the string. -/
theorem outputEnqueue_lineBuffer {string : List Char} {length : Nat}
    (hlen : length ≤ string.length) (hfit : L.length + length ≤ C - 1) (hC : C ≤ 65536) :
    outputEnqueue C string length (lineBuffer C L o) =
      .ok (lineBuffer C (L ++ string.take length) o) :=
  outputEnqueue_lineBuffer_of_lt hlen hfit (by omega)

/-- An append that does not fit fails. -/
theorem outputEnqueue_lineBuffer_error {string : List Char} {length : Nat}
    (hfit : ¬(L.length + length ≤ C - 1)) :
    outputEnqueue C string length (lineBuffer C L o) = .error .outOfBounds := by
  simp only [outputEnqueue, lineBuffer, if_pos (show L.length + length > C - 1 by omega)]

/-- A flush sends the line and empties the buffer. -/
theorem outputFlush_lineBuffer (eventType eventId : Number) (hnul : '\x00' ∉ L)
    (hC : L.length < C) :
    outputFlush C eventType eventId (lineBuffer C L o) =
      (⟨eventId.val, eventType.val, L⟩, lineBuffer C [] o) := by
  have hrest : (List.replicate (C - L.length) '\x00').takeWhile (· ≠ '\x00') = [] := by
    obtain ⟨k, hk⟩ : ∃ k, C - L.length = k + 1 := ⟨C - L.length - 1, by omega⟩
    rw [hk, List.replicate_succ, List.takeWhile_cons]
    simp
  simp only [outputFlush, lineBuffer, outputReset_eq]
  have hpos : ∀ c ∈ L, decide (c ≠ '\x00') = true := by
    intro c hc
    simp only [decide_eq_true_eq]
    rintro rfl
    exact hnul hc
  rw [List.takeWhile_append_of_pos hpos, hrest, List.append_nil]

/-- An append of `length` characters of a string: the line grows by them if they fit. -/
theorem outputEnqueue_lineBuffer_eq {string : List Char} {length : Nat}
    (hlen : length ≤ string.length) (hC : C ≤ 65536) :
    outputEnqueue C string length (lineBuffer C L o) =
      if L.length + length ≤ C - 1 then .ok (lineBuffer C (L ++ string.take length) o)
      else .error .outOfBounds := by
  split_ifs with hfit
  exacts [outputEnqueue_lineBuffer hlen hfit hC, outputEnqueue_lineBuffer_error hfit]

/-- `grunt_output_enqueue_boolean` appends `true` or `false` whole, if it fits. -/
theorem outputEnqueueBoolean_lineBuffer (tf : Bool) (hC : C ≤ 65536) :
    let r := if tf then "true".toList else "false".toList
    outputEnqueueBoolean C tf (lineBuffer C L o) =
      if L.length + r.length ≤ C - 1 then .ok (lineBuffer C (L ++ r) o)
      else .error .outOfBounds := by
  cases tf <;> exact outputEnqueue_lineBuffer_eq (by decide) hC

/-- `grunt_output_enqueue_number` appends all the decimal digits, if they fit. -/
theorem outputEnqueueNumber_lineBuffer (u : Number) (hC : C ≤ 65536) :
    outputEnqueueNumber C u (lineBuffer C L o) =
      if L.length + (decimal u.val).length ≤ C - 1 then
        .ok (lineBuffer C (L ++ decimal u.val) o)
      else .error .outOfBounds := by
  have hlen := length_decimal_le u.isLt
  simp only [outputEnqueueNumber, if_neg (show ((decimal u.val).length : Int) ≠ -1 by omega),
    if_neg (show ¬((decimal u.val).length : Int) > 65535 by omega)]
  rw [outputEnqueue_lineBuffer_eq le_rfl hC, List.take_length]

/-- `grunt_output_enqueue_string` appends the characters of the string before its NUL, as
many as their count modulo `2 ^ 16`, if they fit. -/
theorem outputEnqueueString_lineBuffer {i : Fin 65536} (hi : i.val < o.numStrings)
    (hC : C ≤ 65536) :
    let string := cString (o.stringTable.getD i.val "")
    let r := string.take (string.length % 65536)
    outputEnqueueString C i (lineBuffer C L o) =
      if L.length + r.length ≤ C - 1 then .ok (lineBuffer C (L ++ r) o)
      else .error .outOfBounds := by
  intro string r
  have hlen : string.length % 65536 ≤ string.length := Nat.mod_le _ _
  have hr : r.length = string.length % 65536 := by simp [r, hlen]
  have hnum : (lineBuffer C L o).numStrings = o.numStrings := rfl
  have htab : (lineBuffer C L o).stringTable = o.stringTable := rfl
  simp only [outputEnqueueString, hnum, htab, if_neg (not_not.mpr hi)]
  rw [if_neg (show ¬(65535 < string.length % 65536) by omega),
    outputEnqueue_lineBuffer_eq hlen hC, hr]

/-- A number whose digits fit is appended whole. -/
theorem outputEnqueueNumber_lineBuffer_ok (u : Number)
    (hfit : L.length + (decimal u.val).length ≤ C - 1)
    (hlt : L.length + (decimal u.val).length < 65536) :
    outputEnqueueNumber C u (lineBuffer C L o) = .ok (lineBuffer C (L ++ decimal u.val) o) := by
  have hlen := length_decimal_le u.isLt
  simp only [outputEnqueueNumber, if_neg (show ((decimal u.val).length : Int) ≠ -1 by omega),
    if_neg (show ¬((decimal u.val).length : Int) > 65535 by omega)]
  rw [outputEnqueue_lineBuffer_of_lt le_rfl hfit hlt, List.take_length]

/-- A string of the table whose characters fit is appended whole. -/
theorem outputEnqueueString_lineBuffer_ok {i : Fin 65536} (hi : i.val < o.numStrings)
    (hfit : L.length + (cString (o.stringTable.getD i.val "")).length ≤ C - 1)
    (hlt : L.length + (cString (o.stringTable.getD i.val "")).length < 65536) :
    outputEnqueueString C i (lineBuffer C L o) =
      .ok (lineBuffer C (L ++ cString (o.stringTable.getD i.val "")) o) := by
  have hnum : (lineBuffer C L o).numStrings = o.numStrings := rfl
  have htab : (lineBuffer C L o).stringTable = o.stringTable := rfl
  simp only [outputEnqueueString, hnum, htab, if_neg (not_not.mpr hi),
    Nat.mod_eq_of_lt (show (cString (o.stringTable.getD i.val "")).length < 65536 by omega)]
  rw [if_neg (by omega), outputEnqueue_lineBuffer_of_lt le_rfl hfit hlt, List.take_length]

/-- `strlen` of a string of `n` non-NUL characters. -/
theorem cString_replicate (n : Nat) {c : Char} (hc : c ≠ '\x00') :
    cString (String.mk (List.replicate n c)) = List.replicate n c := by
  show (List.replicate n c).takeWhile _ = _
  rw [List.takeWhile_replicate, if_pos (decide_eq_true hc)]

/-- A string of 65537 characters in a table of one: `strlen` gives 65537, the
`grunt_rep_t` that holds it keeps 1, the comparison with `GRUNT_REP_MAX` passes, and the
append succeeds with the string's first character only. -/
theorem outputEnqueueString_truncates (o : Output) :
    let table := [String.mk (List.replicate 65537 'a')]
    let out := outputInit 122 table 1 o
    (cString (table.getD 0 "")).length = 65537 ∧
      outputEnqueueString 122 0 out = .ok (lineBuffer 122 ['a'] out) := by
  intro table out
  have hs : cString (table.getD 0 "") = List.replicate 65537 'a' :=
    cString_replicate 65537 (by decide)
  refine ⟨by rw [hs, List.length_replicate], ?_⟩
  have h := @outputEnqueueString_lineBuffer 122 [] { o with stringTable := table, numStrings := 1 }
    0 Nat.zero_lt_one (by decide)
  dsimp only at h
  rw [show ((0 : Fin 65536) : Nat) = 0 from rfl, hs, List.length_replicate,
    List.take_replicate] at h
  show outputEnqueueString 122 0 (outputInit 122 table 1 o) = _
  rw [outputInit, outputReset_eq, h]
  rfl

end Lines

/-! ## The line invariant over every sequence of calls -/

section Invariant

variable (C : Nat)

/-- The invariant of `grunt_output.c`: the buffer holds `OUTPUT_QUEUE_SIZE` characters,
`g_tail_index ≤ C - 1`, and every character from `g_tail_index` on is a NUL. -/
structure LineInv (o : Output) : Prop where
  length : o.queue.length = C
  tail : o.tail ≤ C - 1
  zeros : ∀ i, o.tail ≤ i → i < C → o.queue[i]? = some '\x00'

/-- A call a run makes on the output module. -/
inductive OutputOp
  | init (table : List String) (numStrings : Nat)
  | boolean (tf : Bool)
  | number (u : Number)
  | string (i : Fin 65536)
  | flush (eventType eventId : Number)

/-- The output module after a call; an append that fails leaves it as it was. -/
def OutputOp.apply : OutputOp → Output → Output
  | .init t n, o => outputInit C t n o
  | .boolean tf, o => (outputEnqueueBoolean C tf o).toOption.getD o
  | .number u, o => (outputEnqueueNumber C u o).toOption.getD o
  | .string i, o => (outputEnqueueString C i o).toOption.getD o
  | .flush eventType eventId, o => (outputFlush C eventType eventId o).2

/-- The output module after a sequence of calls. -/
def runOutputOps (ops : List OutputOp) (o : Output) : Output :=
  ops.foldl (fun o op => op.apply C o) o

variable {C} {L : List Char} {o : Output}

theorem lineInv_lineBuffer (hL : L.length ≤ C - 1) (hC : 1 ≤ C) : LineInv C (lineBuffer C L o) where
  length := by simp only [lineBuffer, List.length_append, List.length_replicate]; omega
  tail := hL
  zeros i hi hiC := by
    simp only [lineBuffer] at hi ⊢
    rw [List.getElem?_append_right hi, List.getElem?_replicate, if_pos (by omega)]

/-- A buffer that keeps the invariant is the line before its index followed by NULs. -/
theorem LineInv.eq_lineBuffer (h : LineInv C o) : lineBuffer C o.line o = o := by
  have htl : (o.queue.take o.tail).length = o.tail := by
    rw [List.length_take, h.length]
    have := h.tail
    omega
  have hrest : o.queue.drop o.tail = List.replicate (C - o.tail) '\x00' := by
    refine List.eq_replicate_iff.mpr ⟨by rw [List.length_drop, h.length], fun c hc => ?_⟩
    obtain ⟨j, hj, rfl⟩ := List.getElem_of_mem hc
    rw [List.length_drop, h.length] at hj
    have := h.zeros (o.tail + j) (by omega) (by omega)
    rw [List.getElem_drop]
    exact Option.some.inj ((List.getElem?_eq_getElem _).symm.trans this)
  obtain ⟨t, n, q, tl⟩ := o
  simp only [lineBuffer, Output.line] at htl hrest ⊢
  rw [htl, ← hrest, List.take_append_drop]

/-- The calls that append: the line grows by `s` if it fits and is unchanged otherwise. -/
theorem lineInv_getD {s : List Char} {r : Except Status Output} (hC : 1 ≤ C)
    (hL : L.length ≤ C - 1)
    (hr : r = if L.length + s.length ≤ C - 1 then .ok (lineBuffer C (L ++ s) o)
      else .error .outOfBounds) :
    LineInv C (r.toOption.getD (lineBuffer C L o)) := by
  subst hr
  split_ifs with hfit
  · exact lineInv_lineBuffer (by rw [List.length_append]; exact hfit) hC
  · exact lineInv_lineBuffer hL hC

/-- Every call keeps the invariant, as long as the index can count to `C`. -/
theorem LineInv.apply (hC : 1 ≤ C) (hC' : C ≤ 65536) (h : LineInv C o) (op : OutputOp) :
    LineInv C (op.apply C o) := by
  have hL : o.line.length ≤ C - 1 := by
    simp only [Output.line, List.length_take]
    have := h.tail
    omega
  rw [← h.eq_lineBuffer]
  cases op with
  | init t n =>
    rw [OutputOp.apply, outputInit, outputReset_eq]
    exact lineInv_lineBuffer (Nat.zero_le _) hC
  | boolean tf => exact lineInv_getD hC hL (outputEnqueueBoolean_lineBuffer tf hC')
  | number u => exact lineInv_getD hC hL (outputEnqueueNumber_lineBuffer u hC')
  | string i =>
    by_cases hi : i.val < o.numStrings
    · exact lineInv_getD hC hL (outputEnqueueString_lineBuffer (L := o.line) hi hC')
    · rw [OutputOp.apply, outputEnqueueString, if_pos (show ¬i.val < (lineBuffer C o.line o).numStrings from hi)]
      exact lineInv_lineBuffer hL hC
  | flush eventType eventId =>
    rw [OutputOp.apply, outputFlush, outputReset_eq]
    exact lineInv_lineBuffer (Nat.zero_le _) hC

/-- `takeWhile` up to the first NUL, when there is one at `k`. -/
theorem takeWhile_ne_nul : ∀ (q : List Char) (k : Nat), q[k]? = some '\x00' →
    ∃ j ≤ k, q[j]? = some '\x00' ∧ q.takeWhile (· ≠ '\x00') = q.take j
  | [], _, h => by simp at h
  | c :: q, k, h => by
    by_cases hc : c = '\x00'
    · exact ⟨0, Nat.zero_le _, by simp [hc], by simp [hc]⟩
    · obtain ⟨k, rfl⟩ : ∃ k', k = k' + 1 := by
        cases k with
        | zero => simp [hc] at h
        | succ k => exact ⟨k, rfl⟩
      obtain ⟨j, hj, hq, ht⟩ := takeWhile_ne_nul q k (by simpa using h)
      refine ⟨j + 1, by omega, by simpa using hq, ?_⟩
      rw [List.takeWhile_cons, if_pos (by simpa using hc), ht]
      rfl

/-- A flush sends the buffer up to a NUL inside it: at most `C - 1` characters. -/
theorem LineInv.flush_text (h : LineInv C o) (hC : 1 ≤ C) (eventType eventId : Number) :
    ∃ k < C, o.queue[k]? = some '\x00' ∧
      (outputFlush C eventType eventId o).1.text = o.queue.take k := by
  have htail := h.tail
  replace hC : o.tail < C := by omega
  obtain ⟨j, hj, hq, ht⟩ := takeWhile_ne_nul o.queue o.tail (h.zeros o.tail le_rfl hC)
  exact ⟨j, by omega, hq, ht⟩

/-- What `grunt_output.c` keeps for an `OUTPUT_QUEUE_SIZE` of `C`: the static buffer and
`grunt_output_init` start the line invariant, every sequence of calls, successful or not,
keeps it, each flush sends the buffer up to a NUL inside it, and leaves it all NULs with
the index at `0`. -/
structure OutputLineSpec (C : Nat) : Prop where
  start : ∀ (t : List String) (n : Nat), LineInv C ⟨t, n, List.replicate C '\x00', 0⟩
  init : ∀ (o : Output) (t : List String) (n : Nat), LineInv C (outputInit C t n o)
  run : ∀ (ops : List OutputOp) (o : Output), LineInv C o → LineInv C (runOutputOps C ops o)
  flush_text : ∀ (o : Output) (eventType eventId : Number), LineInv C o →
    ∃ k < C, o.queue[k]? = some '\x00' ∧
      (outputFlush C eventType eventId o).1.text = o.queue.take k
  flush_reset : ∀ (o : Output) (eventType eventId : Number),
    (outputFlush C eventType eventId o).2.queue = List.replicate C '\x00' ∧
      (outputFlush C eventType eventId o).2.tail = 0

/-- For every capacity from `1` to `2 ^ 16`, the line keeps its invariant over every
sequence of calls. -/
theorem output_line_invariant (C : Nat) (hC : 1 ≤ C) (hC' : C ≤ 65536) : OutputLineSpec C where
  start t n := by
    have h := @lineInv_lineBuffer C [] ⟨t, n, [], 0⟩ (Nat.zero_le _) hC
    simpa [lineBuffer] using h
  init o t n := by
    rw [outputInit, outputReset_eq]
    exact lineInv_lineBuffer (Nat.zero_le _) hC
  run ops := by
    induction ops with
    | nil => exact fun _ h => h
    | cons op ops ih => exact fun o h => ih _ (h.apply hC hC' op)
  flush_text o eventType eventId h := h.flush_text hC eventType eventId
  flush_reset _ _ _ := ⟨rfl, rfl⟩

theorem output_line_invariant_122 : 1 ≤ 122 ∧ 122 ≤ 65536 ∧ OutputLineSpec 122 :=
  ⟨by decide, by decide, output_line_invariant 122 (by decide) (by decide)⟩

/-- With `OUTPUT_QUEUE_SIZE` 65537 the 16-bit index wraps: after `grunt_output_init`, a
string of 65535 characters and the number `0` fit below `C - 1`, and the index is back at
`0` with the string's first character, not a NUL, at it. -/
theorem output_line_wraps :
    ¬LineInv 65537 (runOutputOps 65537
      [.init [String.mk (List.replicate 65535 'a')] 1, .string 0, .number 0]
      ⟨[], 0, List.replicate 65537 '\x00', 0⟩) := by
  let o₁ : Output := ⟨[String.mk (List.replicate 65535 'a')], 1, List.replicate 65537 '\x00', 0⟩
  have hs : cString (o₁.stringTable.getD (0 : Fin 65536).val "") = List.replicate 65535 'a' :=
    cString_replicate 65535 (by decide)
  have h₁ : OutputOp.apply 65537 (.init o₁.stringTable 1) ⟨[], 0, List.replicate 65537 '\x00', 0⟩ =
      lineBuffer 65537 [] o₁ := by
    rw [OutputOp.apply, outputInit, outputReset_eq]
  have h₂ : OutputOp.apply 65537 (.string 0) (lineBuffer 65537 [] o₁) =
      lineBuffer 65537 (List.replicate 65535 'a') o₁ := by
    rw [OutputOp.apply, outputEnqueueString_lineBuffer_ok (by decide)
      (by rw [hs, List.length_replicate]; decide) (by rw [hs, List.length_replicate]; decide), hs,
      List.nil_append]
    rfl
  have h₃ : OutputOp.apply 65537 (.number 0) (lineBuffer 65537 (List.replicate 65535 'a') o₁) =
      { lineBuffer 65537 (List.replicate 65535 'a' ++ ['0']) o₁ with tail := 0 } := by
    have hd : decimal (0 : Number).val = ['0'] := rfl
    rw [OutputOp.apply]
    simp only [outputEnqueueNumber, hd]
    rw [outputEnqueue_lineBuffer_fit (le_refl ['0'].length)
      (by rw [List.length_replicate]; decide), List.take_length, List.length_replicate]
    rfl
  intro h
  rw [runOutputOps, List.foldl_cons, List.foldl_cons, List.foldl_cons, List.foldl_nil, h₁, h₂,
    h₃] at h
  have h0 := h.zeros 0 (Nat.zero_le _) (by decide)
  have hlen : 0 < (List.replicate 65535 'a').length := by rw [List.length_replicate]; decide
  simp only [lineBuffer] at h0
  rw [List.getElem?_append_left (by rw [List.length_append]; omega),
    List.getElem?_append_left hlen, List.getElem?_replicate, if_pos (by decide)] at h0
  exact absurd (Option.some.inj h0) (by decide)

end Invariant

end Grunt
