import Grunt.Value

/-!
# The input window

This module transcribes `grunt_input.c`: a read-only view of the caller's buffer with a
head index that typed reads advance and `REWIND` moves back.  The reads cast the buffer
to `uint8_t`, `uint16_t` or `uint32_t`, so they see the bytes in the host's byte order,
which is a parameter here.  The buffer pointer may be `NULL`; the model's buffer is the
list of bytes it points at, and the callers pass a buffer of at least `size` bytes.
-/

namespace Grunt

/-- The host's byte order, which the casts of `grunt_input_dequeue` read with. -/
inductive ByteOrder
  | little
  | big
  deriving DecidableEq, Repr

/-- The unsigned integer a host of order `o` reads from `bytes`, the first byte at the
lowest address. -/
def ByteOrder.decode : ByteOrder → List UInt8 → Nat
  | .little, bytes => bytes.foldr (fun b acc => b.toNat + 256 * acc) 0
  | .big, bytes => bytes.foldl (fun acc b => 256 * acc + b.toNat) 0

theorem decode_little_lt (bytes : List UInt8) :
    ByteOrder.little.decode bytes < 256 ^ bytes.length := by
  induction bytes with
  | nil => simp [ByteOrder.decode]
  | cons b bs ih =>
    have hb := UInt8.toNat_lt_size b
    simp only [ByteOrder.decode, List.foldr_cons, List.length_cons, Nat.pow_succ] at ih ⊢
    simp only [UInt8.size] at hb
    have : 256 * (List.foldr (fun b acc => b.toNat + 256 * acc) 0 bs + 1) ≤ 256 * 256 ^ bs.length :=
      Nat.mul_le_mul_left _ ih
    rw [Nat.mul_comm (256 ^ bs.length)]
    omega

theorem decode_big_lt (bytes : List UInt8) (acc : Nat) :
    bytes.foldl (fun acc b => 256 * acc + b.toNat) acc < (acc + 1) * 256 ^ bytes.length := by
  induction bytes generalizing acc with
  | nil => simp
  | cons b bs ih =>
    have hb := UInt8.toNat_lt_size b
    simp only [UInt8.size] at hb
    simp only [List.foldl_cons, List.length_cons, Nat.pow_succ]
    calc _ < (256 * acc + b.toNat + 1) * 256 ^ bs.length := ih _
      _ ≤ ((acc + 1) * 256) * 256 ^ bs.length := Nat.mul_le_mul_right _ (by omega)
      _ = (acc + 1) * (256 ^ bs.length * 256) := by
        rw [Nat.mul_assoc, Nat.mul_comm 256]

theorem decode_lt (o : ByteOrder) (bytes : List UInt8) : o.decode bytes < 256 ^ bytes.length := by
  cases o with
  | little => exact decode_little_lt bytes
  | big => simpa using decode_big_lt bytes 0

/-- The globals `g_input_queue` (`none` for `NULL`), `g_input_queue_size` and
`g_head_index`. -/
structure Input where
  queue : Option (List UInt8)
  size : Nat
  head : Nat
  deriving DecidableEq, Repr

/-- `grunt_input_rewind`: `0` goes back to the start, any other count moves back that
many bytes. -/
def inputRewind (n : Nat) (i : Input) : Except Status Input :=
  if n > i.head then .error .outOfBounds
  else if n = 0 then .ok { i with head := 0 }
  else .ok { i with head := i.head - n }

/-- `grunt_input_init`: the new buffer, with its head rewound to the start. -/
def inputInit (data : Option (List UInt8)) (size : Nat) (i : Input) : Input :=
  let i' := { i with queue := data, size := size }
  match inputRewind 0 i' with
  | .ok i'' => i''
  | .error _ => i'

/-- After `grunt_input_init` the window is the whole new buffer, whatever came before. -/
theorem inputInit_eq (data : Option (List UInt8)) (size : Nat) (i : Input) :
    inputInit data size i = ⟨data, size, 0⟩ := by
  simp [inputInit, inputRewind]

/-- The number an `n`-byte cast reads at `head`, for `n ≤ 4`. -/
def readNumber (o : ByteOrder) (q : List UInt8) (head n : Nat) (hn : n ≤ 4) : Number :=
  ⟨o.decode ((q.drop head).take n), by
    calc o.decode ((q.drop head).take n) < 256 ^ ((q.drop head).take n).length := decode_lt _ _
      _ ≤ 256 ^ 4 := Nat.pow_le_pow_right (by decide) (by simp; omega)
      _ = 2 ^ 32 := rfl⟩

/-- `grunt_input_dequeue`: the `Num` read at the head, and the window past it. -/
def inputDequeue (o : ByteOrder) (n : Nat) (i : Input) : Except Status (Value × Input) :=
  match i.queue with
  | none => .error .interpreterBug
  | some q =>
    if ¬(n = 1 ∨ n = 2 ∨ n = 4) then .error .invalidLiteral
    else if i.head + n > i.size then .error .outOfBounds
    else
      match n with
      | 4 => .ok (.num (readNumber o q i.head 4 le_rfl), { i with head := i.head + 4 })
      | 2 => .ok (.num (readNumber o q i.head 2 (by decide)), { i with head := i.head + 2 })
      | 1 => .ok (.num (readNumber o q i.head 1 (by decide)), { i with head := i.head + 1 })
      | _ => .error .interpreterBug


theorem inputDequeue_ok {o : ByteOrder} {q : List UInt8} {n : Nat} {i : Input}
    (hq : i.queue = some q) (hn : n = 1 ∨ n = 2 ∨ n = 4) (hs : i.head + n ≤ i.size) :
    ∃ x : Number, x.val = o.decode ((q.drop i.head).take n) ∧
      inputDequeue o n i = .ok (.num x, { i with head := i.head + n }) := by
  rcases hn with rfl | rfl | rfl
  · exact ⟨readNumber o q i.head 1 (by decide), rfl, by simp [inputDequeue, hq, Nat.not_lt.mpr hs]⟩
  · exact ⟨readNumber o q i.head 2 (by decide), rfl, by simp [inputDequeue, hq, Nat.not_lt.mpr hs]⟩
  · exact ⟨readNumber o q i.head 4 (by decide), rfl, by simp [inputDequeue, hq, Nat.not_lt.mpr hs]⟩

theorem inputDequeue_error {o : ByteOrder} {n : Nat} {i : Input} {e : Status}
    (h : inputDequeue o n i = .error e) :
    (i.queue = none ∧ e = .interpreterBug) ∨ (¬(n = 1 ∨ n = 2 ∨ n = 4) ∧ e = .invalidLiteral) ∨
      ((n = 1 ∨ n = 2 ∨ n = 4) ∧ i.head + n > i.size ∧ e = .outOfBounds) := by
  unfold inputDequeue at h
  rcases hq : i.queue with _ | q <;> rw [hq] at h
  · cases h; exact .inl ⟨rfl, rfl⟩
  · by_cases h₁ : n = 1 ∨ n = 2 ∨ n = 4
    · by_cases h₂ : i.head + n > i.size
      · simp only [h₁, h₂, not_true, if_false, if_true] at h
        cases h; exact .inr (.inr ⟨h₁, h₂, rfl⟩)
      · simp only [h₁, h₂, not_true, if_false] at h
        rcases h₁ with rfl | rfl | rfl <;> cases h
    · simp only [h₁, not_false_eq_true, if_true] at h
      cases h; exact .inr (.inl ⟨h₁, rfl⟩)

theorem inputDequeue_head {o : ByteOrder} {n : Nat} {i : Input} {r : Value × Input}
    (h : inputDequeue o n i = .ok r) :
    r.2 = { i with head := i.head + n } ∧ i.head + n ≤ i.size ∧ (n = 1 ∨ n = 2 ∨ n = 4) := by
  unfold inputDequeue at h
  rcases hq : i.queue with _ | q <;> rw [hq] at h
  · cases h
  · by_cases h₁ : n = 1 ∨ n = 2 ∨ n = 4
    · by_cases h₂ : i.head + n > i.size
      · simp only [h₁, h₂, not_true, if_false, if_true] at h; cases h
      · simp only [h₁, h₂, not_true, if_false] at h
        refine ⟨?_, by omega, h₁⟩
        rcases h₁ with rfl | rfl | rfl <;> cases h <;> rfl
    · simp only [h₁, not_false_eq_true, if_true] at h; cases h

/-- The input operations a Grunt program can perform. -/
inductive InputOp
  | dequeue (n : Nat)
  | rewind (k : Nat)

/-- One input operation; a failed one leaves the window as it was. -/
def InputOp.apply (o : ByteOrder) : InputOp → Input → Input
  | .dequeue n, i => match inputDequeue o n i with
    | .ok (_, i') => i'
    | .error _ => i
  | .rewind k, i => match inputRewind k i with
    | .ok i' => i'
    | .error _ => i

/-- Reads of the given sizes, one after the other. -/
def readSeq (o : ByteOrder) : List Nat → Input → Except Status (List Value × Input)
  | [], i => .ok ([], i)
  | n :: ns, i => match inputDequeue o n i with
    | .ok (v, i') => match readSeq o ns i' with
      | .ok (vs, i'') => .ok (v :: vs, i'')
      | .error e => .error e
    | .error e => .error e

theorem readSeq_head {o : ByteOrder} {ns : List Nat} {i i' : Input} {vs : List Value}
    (h : readSeq o ns i = .ok (vs, i')) :
    i'.queue = i.queue ∧ i'.size = i.size ∧ i.head ≤ i'.head ∧ (ns ≠ [] → i.head < i'.head) := by
  induction ns generalizing i vs with
  | nil => cases h; exact ⟨rfl, rfl, le_rfl, fun h => absurd rfl h⟩
  | cons n ns ih =>
    simp only [readSeq] at h
    split at h <;> try cases h
    rename_i v i₁ h₁
    split at h <;> cases h
    rename_i vs' i₂ h₂
    obtain ⟨h₀, -, hn⟩ := inputDequeue_head h₁
    simp only at h₀
    subst h₀
    obtain ⟨h₃, h₄, h₅, -⟩ := ih h₂
    refine ⟨h₃, h₄, by simp at h₅; omega, fun _ => by simp at h₅; omega⟩

/-- The window an input operation keeps: the queue, its size, and the head within it. -/
def Window (q : List UInt8) (L : Nat) (i : Input) : Prop := i.queue = some q ∧ i.size = L ∧ i.head ≤ L

/-- One operation keeps the window: a read moves the head to at most the size, a rewind
moves it back, and a failed operation leaves it as it was. -/
theorem InputOp.apply_window {o : ByteOrder} {q : List UInt8} {L : Nat} {i : Input} (op : InputOp)
    (h : Window q L i) : Window q L (op.apply o i) := by
  obtain ⟨hq, hs, hh⟩ := h
  cases op with
  | dequeue n =>
    simp only [InputOp.apply]
    split
    · rename_i h
      obtain ⟨h₁, h₂, -⟩ := inputDequeue_head h
      simp only at h₁
      subst h₁
      exact ⟨hq, hs, by dsimp only; omega⟩
    · exact ⟨hq, hs, hh⟩
  | rewind k =>
    simp only [InputOp.apply, inputRewind]
    split_ifs <;> exact ⟨hq, hs, by dsimp only; omega⟩

/-- Every sequence of operations keeps the window. -/
theorem foldl_apply_window {o : ByteOrder} {q : List UInt8} {L : Nat} (ops : List InputOp) :
    ∀ {i : Input}, Window q L i → Window q L (ops.foldl (fun i op => op.apply o i) i) := by
  induction ops with
  | nil => exact id
  | cons op ops ih => exact fun h => ih (op.apply_window h)

/-- Laws of the input window.  After `grunt_input_init` with a buffer of `L` bytes and any
sequence of reads and rewinds, failed ones included, the head lies in `[0, L]`.  There a
read of `n` bytes succeeds exactly when `n` is 1, 2 or 4 and `n` bytes remain; it then
returns the bytes at the head in host order and advances the head by `n`, and otherwise
fails with `InvalidLiteral` or `OutOfBounds`.  Rewinding by `0` goes to the start,
rewinding by `k` up to the head moves back `k` bytes, and a larger `k` fails.  Finally,
after reads of sizes `ns`, rewinding by what they consumed and reading `ns` again gives
the same values. -/
theorem input_window_laws (o : ByteOrder) (q : List UInt8) (L : Nat) (i₀ : Input)
    (ops : List InputOp) :
    let i := ops.foldl (fun i op => op.apply o i) (inputInit (some q) L i₀)
    i.head ≤ L ∧
    (∀ n, (∃ r, inputDequeue o n i = .ok r) ↔ (n = 1 ∨ n = 2 ∨ n = 4) ∧ i.head + n ≤ L) ∧
    (∀ n r, inputDequeue o n i = .ok r →
      (∃ x : Number, r.1 = .num x ∧ x.val = o.decode ((q.drop i.head).take n)) ∧
        r.2 = { i with head := i.head + n }) ∧
    (∀ n e, inputDequeue o n i = .error e → e = .invalidLiteral ∨ e = .outOfBounds) ∧
    inputRewind 0 i = .ok { i with head := 0 } ∧
    (∀ k, 0 < k → k ≤ i.head → inputRewind k i = .ok { i with head := i.head - k }) ∧
    (∀ k, i.head < k → inputRewind k i = .error .outOfBounds) ∧
    (∀ ns vs i', readSeq o ns i = .ok (vs, i') →
      ∃ i'', inputRewind (i'.head - i.head) i' = .ok i'' ∧
        (readSeq o ns i'').map Prod.fst = .ok vs) := by
  intro i
  have inv : Window q L i := foldl_apply_window ops ⟨rfl, rfl, by simp [inputInit, inputRewind]⟩
  obtain ⟨hq, hs, hh⟩ := inv
  refine ⟨hh, fun n => ⟨?_, ?_⟩, ?_, ?_, by simp [inputRewind], ?_, ?_, ?_⟩
  · rintro ⟨r, h⟩
    obtain ⟨-, h₂, h₃⟩ := inputDequeue_head h
    exact ⟨h₃, hs ▸ h₂⟩
  · rintro ⟨hn, hle⟩
    obtain ⟨x, -, h⟩ := @inputDequeue_ok o q n i hq hn (hs ▸ hle)
    exact ⟨_, h⟩
  · intro n r h
    obtain ⟨-, h₂, h₃⟩ := inputDequeue_head h
    obtain ⟨x, hx, h'⟩ := @inputDequeue_ok o q n i hq h₃ h₂
    rw [h'] at h
    cases h
    exact ⟨⟨x, rfl, hx⟩, rfl⟩
  · intro n e h
    rcases inputDequeue_error h with ⟨h₁, -⟩ | ⟨-, rfl⟩ | ⟨-, -, rfl⟩
    · simp [hq] at h₁
    · exact .inl rfl
    · exact .inr rfl
  · intro k hk hle
    simp [inputRewind, Nat.not_lt.mpr hle, Nat.pos_iff_ne_zero.mp hk]
  · intro k hk
    simp [inputRewind, hk]
  · intro ns vs i' h
    obtain ⟨hq', hs', hle, hlt⟩ := readSeq_head h
    cases ns with
    | nil =>
      cases h
      exact ⟨{ i with head := 0 }, by simp [inputRewind], rfl⟩
    | cons n ns =>
      have hpos := hlt (List.cons_ne_nil _ _)
      refine ⟨i, ?_, by rw [h]; rfl⟩
      simp only [inputRewind, if_neg (show ¬i'.head - i.head > i'.head by omega),
        if_neg (show i'.head - i.head ≠ 0 by omega), show i'.head - (i'.head - i.head) = i.head by omega]
      rw [hq', hs']

end Grunt
