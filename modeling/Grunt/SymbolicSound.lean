import Grunt.Symbolic

/-!
# What a symbolic run means

An environment gives the unknowns their values and the input window its bytes; under it a
term has a value, a symbolic argument a machine value, and a symbolic state, placed in a
frame (what lies below it on the stacks, the input window, the output buffer and the
events before it), a machine state.  `exec_sound`: when the facts a run assumed hold and
the frame leaves the room the run was given, the machine runs through the program from
the state a symbolic state denotes to the state its outcome denotes.

The proof follows `execStep`: one lemma per instruction of `symInstr`, built on the
instruction lemmas of `Grunt.Steps`, then the control instructions, then the merge of a
fork, and an induction on the fuel.
-/

namespace Grunt.Sym

/-- Values for the unknowns, and the bytes and base the fields are read at. -/
structure Env where
  vars : Nat → Number
  image : List UInt8
  base : Nat

section Den

variable (o : ByteOrder) (env : Env)

/-- The number `width` bytes at `off` past the base encode, as a cast of the window reads
it (`fieldValue_eq`). -/
def fieldValue (off width : Nat) : Number :=
  ⟨o.decode ((env.image.drop (env.base + off)).take width) % 2 ^ 32, Nat.mod_lt _ (by norm_num)⟩

/-- The value of a number. -/
def NumE.eval : NumE → Number
  | .lit n => n
  | .var i => env.vars i
  | .field off w => fieldValue o env off w
  | .add a b => a.eval + b.eval
  | .sub a b => a.eval - b.eval

/-- The value of a Boolean. -/
def BoolE.eval : BoolE → Bool
  | .lit b => b
  | .eq a b => decide (a.eval o env = b.eval o env)
  | .lt a b => decide (a.eval o env < b.eval o env)
  | .not b => !b.eval
  | .and a b => a.eval && b.eval
  | .or a b => a.eval || b.eval

/-- The machine value of an argument. -/
def SymV.den : SymV → Value
  | .num e => .num (e.eval o env)
  | .bool b => .bool (b.eval o env)
  | .str s => .str s
  | .ite c x y => if c.eval o env then x.den else y.den

/-- The characters of a piece of a line. -/
def Piece.render (strings : List String) : Piece → List Char
  | .str s => cString (strings.getD s.val "")
  | .num e => decimal (e.eval o env).val

/-- The event sent, if its guard holds. -/
def SymEvent.den (strings : List String) (e : SymEvent) : List Event :=
  if e.guard.eval o env then
    [⟨(e.eventId.eval o env).val, (e.eventType.eval o env).val,
      e.text.flatMap (Piece.render o env strings)⟩]
  else []

/-- The facts hold. -/
def Facts.Holds (F : Facts) : Prop :=
  (∀ p ∈ F.nums, p.1.eval o env = p.2) ∧ (∀ p ∈ F.bools, p.1.eval o env = p.2) ∧
    ∀ p ∈ F.les, (p.1.eval o env).val ≤ (p.2.eval o env).val

end Den

/-! ## The constructors keep values -/

section Eval

variable {o : ByteOrder} {env : Env} {F : Facts}

theorem mem_of_lookup_eq_some {α β : Type} [BEq α] [LawfulBEq α] {a : α} {b : β} :
    ∀ {l : List (α × β)}, l.lookup a = some b → (a, b) ∈ l
  | [], h => by simp [List.lookup] at h
  | (x, y) :: l, h => by
    unfold List.lookup at h
    split at h
    · rename_i hx
      cases h
      rw [beq_iff_eq.mp hx]
      exact List.mem_cons_self _ _
    · exact List.mem_cons_of_mem _ (mem_of_lookup_eq_some h)

theorem Facts.Holds.nums (hF : F.Holds o env) {e : NumE} {n : Number} (h : (e, n) ∈ F.nums) :
    e.eval o env = n := hF.1 _ h

theorem Facts.Holds.bools (hF : F.Holds o env) {b : BoolE} {v : Bool} (h : (b, v) ∈ F.bools) :
    b.eval o env = v := hF.2.1 _ h

theorem Facts.Holds.les (hF : F.Holds o env) {a b : NumE} (h : (a, b) ∈ F.les) :
    (a.eval o env).val ≤ (b.eval o env).val := hF.2.2 _ h

theorem Facts.Holds.assume {c : BoolE} {v : Bool} (hF : F.Holds o env) (hc : c.eval o env = v) :
    (F.assume c v).Holds o env := by
  refine ⟨hF.1, fun p hp => ?_, hF.2.2⟩
  rcases List.mem_cons.mp hp with rfl | hp
  exacts [hc, hF.2.1 p hp]

@[simp] theorem eval_resolveNum (hF : F.Holds o env) (e : NumE) :
    (F.resolveNum e).eval o env = e.eval o env := by
  unfold Facts.resolveNum
  split
  · rename_i n h
    exact (hF.nums (mem_of_lookup_eq_some h)).symm
  · rfl

theorem eval_resolve (hF : F.Holds o env) (b : BoolE) :
    (F.resolve b).eval o env = b.eval o env := by
  unfold Facts.resolve
  split
  · rename_i v h
    exact (hF.bools (mem_of_lookup_eq_some h)).symm
  · rfl

theorem knowsLe_sound (hF : F.Holds o env) {a b : NumE} (h : F.knowsLe a b = true) :
    (a.eval o env).val ≤ (b.eval o env).val := by
  unfold Facts.knowsLe at h
  rcases Bool.or_eq_true_iff.mp h with h | h
  · split at h
    · exact of_decide_eq_true h
    · cases h
  · exact hF.les (List.elem_iff.mp h)

@[simp] theorem eval_mkNot (b : BoolE) : (mkNot b).eval o env = !b.eval o env := by
  unfold mkNot
  split <;> simp [BoolE.eval]

@[simp] theorem eval_mkAnd (a b : BoolE) :
    (mkAnd a b).eval o env = (a.eval o env && b.eval o env) := by
  unfold mkAnd
  split <;> simp [BoolE.eval]

@[simp] theorem eval_mkOr (a b : BoolE) :
    (mkOr a b).eval o env = (a.eval o env || b.eval o env) := by
  unfold mkOr
  split <;> simp [BoolE.eval]

theorem eval_mkEq (hF : F.Holds o env) (a b : NumE) :
    (mkEq F a b).eval o env = decide (a.eval o env = b.eval o env) := by
  unfold mkEq
  split
  · rfl
  · rw [eval_resolve hF]; rfl

theorem eval_mkLt (hF : F.Holds o env) (a b : NumE) :
    (mkLt F a b).eval o env = decide (a.eval o env < b.eval o env) := by
  unfold mkLt
  split
  · rfl
  · rw [eval_resolve hF]; rfl

@[simp] theorem eval_mkAdd (a b : NumE) : (mkAdd a b).eval o env = a.eval o env + b.eval o env := by
  unfold mkAdd
  split <;> rfl

@[simp] theorem eval_mkSub (a b : NumE) : (mkSub a b).eval o env = a.eval o env - b.eval o env := by
  unfold mkSub
  split <;> rfl

theorem eval_iteB (c a b : BoolE) :
    (iteB c a b).eval o env = if c.eval o env then a.eval o env else b.eval o env := by
  unfold iteB
  by_cases h₁ : a = .lit true ∧ b = .lit false
  · rw [if_pos h₁]
    obtain ⟨rfl, rfl⟩ := h₁
    cases c.eval o env <;> rfl
  · rw [if_neg h₁]
    by_cases h₂ : a = .lit false ∧ b = .lit true
    · rw [if_pos h₂, eval_mkNot]
      obtain ⟨rfl, rfl⟩ := h₂
      cases c.eval o env <;> rfl
    · rw [if_neg h₂, eval_mkOr, eval_mkAnd, eval_mkAnd, eval_mkNot]
      cases c.eval o env <;> simp

theorem den_mergeV (c : BoolE) (x y : SymV) :
    (mergeV c x y).den o env = if c.eval o env then x.den o env else y.den o env := by
  unfold mergeV
  by_cases h : x = y
  · rw [if_pos h, h, ite_self]
  · rw [if_neg h]
    split
    · simp only [SymV.den, eval_iteB]
      cases c.eval o env <;> rfl
    · rfl

theorem den_isArg (x : SymV) : (x.den o env).IsArg := by
  induction x with
  | num => exact Value.isArg_num _
  | bool => exact Value.isArg_bool _
  | str => exact Value.isArg_str _
  | ite c x y hx hy =>
    simp only [SymV.den]
    split_ifs
    exacts [hx, hy]

theorem den_ofValue {v : Value} {x : SymV} (h : SymV.ofValue v = some x) : x.den o env = v := by
  cases v <;> cases h <;> rfl

end Eval

/-- What lies around a symbolic state: the arguments and return addresses below it, the
input window, the output buffer and the events sent before. -/
structure Frame where
  rest : List Value
  ctl : List Value
  input : Input
  output : Output
  events : List Event

section Machine

variable (o : ByteOrder) (C : Nat) (env : Env) (fr : Frame) (program : List Instruction)

/-- The machine state a symbolic state stands for, with a given `pc` and control stack. -/
def SymState.machine (s : SymState) (pc : Fin 65536) (ctl : List Value) : Machine where
  pc := pc
  stack := ⟨s.args.map (SymV.den o env) ++ fr.rest, ctl⟩
  input := { fr.input with head := env.base + s.head }
  output := lineBuffer C (s.line.flatMap (Piece.render o env fr.output.stringTable)) fr.output
  events := fr.events ++ s.events.flatMap (SymEvent.den o env fr.output.stringTable)

/-- The machine state a symbolic state stands for. -/
def SymState.den (s : SymState) : Machine := s.machine o C env fr s.pc (s.ctl.map .pc ++ fr.ctl)

/-- The machine state an outcome stands for: after a return, `pc` and the control stack
are those the frame's return address leaves. -/
def Outcome.den : Outcome → Machine
  | .stop s => s.den o C env fr
  | .ret s => s.machine o C env fr (fr.ctl.headD (.pc 0)).valPc fr.ctl.tail

/-- A tree instruction stands for the program's: it is the same, or, where the code gives
the literal as a term, it has the same opcode, count and literal type, and the term
denotes the program's literal. -/
def Matches (sym : Option SymV) (i j : Instruction) : Prop :=
  match sym with
  | none => i = j
  | some x => i.op = j.op ∧ i.rep = j.rep ∧ i.lit.type = j.lit.type ∧ x.den o env = j.lit

/-- The frame gives a run what its code assumes. -/
structure Fits (K : Code) : Prop where
  tree : ∀ pc : Fin 65536, pc < K.numInstructions →
    Matches o env (K.lits.lookup pc.val) (K.tree.get pc.val) (fetch program pc)
  lens : ∀ i, i < K.strings.length → K.lens.getD i 0 = (cString (K.strings.getD i "")).length
  lensLength : K.lens.length = K.strings.length
  room : fr.rest.length + fr.ctl.length + K.room ≤ stackSize
  queue : fr.input.queue = some env.image
  limit : env.base + K.limit ≤ fr.input.size
  strings : fr.output.stringTable = K.strings
  numStrings : fr.output.numStrings = K.strings.length
  lineMax : K.lineMax < C
  lineMaxSmall : K.lineMax < 65536
  vars : ∀ i, (env.vars i).val ≤ K.varBound i
  ret : K.canReturn = true → fr.ctl ≠ []

end Machine

section Matches

variable {o : ByteOrder} {env : Env} {sym : Option SymV} {i j : Instruction}

theorem Matches.opcode (h : Matches o env sym i j) : j.opcode = i.opcode := by
  cases sym with
  | none => exact congrArg Instruction.opcode (h : i = j).symm
  | some x => simp only [Instruction.opcode, (h : _ ∧ _).1]

theorem Matches.rep (h : Matches o env sym i j) : j.rep = i.rep := by
  cases sym with
  | none => exact congrArg Instruction.rep (h : i = j).symm
  | some x => exact (h : _ ∧ _).2.1.symm

theorem Matches.eq_of_none (h : Matches o env none i j) : j = i := (h : i = j).symm

/-- A pushed literal: the term the code gives, or the tree's literal, denotes the program's. -/
theorem Matches.push (h : Matches o env sym i j) :
    i.lit.type = j.lit.type ∧ ∀ x, (sym <|> SymV.ofValue i.lit) = some x → x.den o env = j.lit := by
  cases sym with
  | none =>
    cases (h : i = j)
    exact ⟨rfl, fun x hx => den_ofValue hx⟩
  | some y =>
    obtain ⟨-, -, hty, hy⟩ := (h : _ ∧ _)
    exact ⟨hty, fun x hx => by cases hx; exact hy⟩

end Matches

/-! ## Bounds -/

section Bounds

variable {o : ByteOrder} {C : Nat} {env : Env} {fr : Frame} {program : List Instruction} {K : Code}
  {F : Facts}

theorem fieldValue_le (off w : Nat) : (fieldValue o env off w).val ≤ 256 ^ w - 1 := by
  have h₁ := decode_lt o ((env.image.drop (env.base + off)).take w)
  have h₂ : 256 ^ ((env.image.drop (env.base + off)).take w).length ≤ 256 ^ w :=
    Nat.pow_le_pow_right (by norm_num) (List.length_take_le _ _)
  have h₃ := Nat.mod_le (o.decode ((env.image.drop (env.base + off)).take w)) (2 ^ 32)
  show _ % _ ≤ _
  omega

theorem eval_le_bound (hF : F.Holds o env) (hv : ∀ i, (env.vars i).val ≤ K.varBound i) :
    ∀ e : NumE, (e.eval o env).val ≤ e.bound K F
  | .lit _ => le_rfl
  | .var i => hv i
  | .field off w => fieldValue_le off w
  | .add a b => by
    have ha := eval_le_bound hF hv a
    have hb := eval_le_bound hF hv b
    simp only [NumE.eval, NumE.bound, Fin.val_add]
    exact (Nat.mod_le _ _).trans (by omega)
  | .sub a b => by
    simp only [NumE.eval, NumE.bound]
    split_ifs with h
    · have hle := knowsLe_sound hF h
      have ha := eval_le_bound hF hv a
      rw [Fin.coe_sub_iff_le.mpr hle]
      omega
    · have := ((a.eval o env) - (b.eval o env)).isLt
      show _ ≤ 4294967295
      omega

theorem length_decimal_le_digitsBound {x n : Nat} (hx : x ≤ n) (h32 : x < 2 ^ 32) :
    (decimal x).length ≤ digitsBound n := by
  unfold digitsBound
  split_ifs
  · exact length_decimal_le_of_lt le_rfl (by norm_num; omega)
  · exact length_decimal_le_of_lt (by norm_num) (by norm_num; omega)
  · exact length_decimal_le_of_lt (by norm_num) (by norm_num; omega)
  · exact length_decimal_le h32

theorem length_render_le (hF : F.Holds o env) (hK : Fits o C env fr program K) (p : Piece) :
    (p.render o env fr.output.stringTable).length ≤ p.lenBound K F := by
  cases p with
  | str t =>
    simp only [Piece.render, Piece.lenBound, hK.strings]
    by_cases ht : t.val < K.strings.length
    · rw [hK.lens _ ht]
    · rw [List.getD_eq_default _ _ (by omega), List.getD_eq_default _ _ (by rw [hK.lensLength]; omega)]
      exact Nat.zero_le _
  | num e => exact length_decimal_le_digitsBound (eval_le_bound hF hK.vars e) (e.eval o env).isLt

theorem length_line_le (hF : F.Holds o env) (hK : Fits o C env fr program K) (ps : List Piece) :
    (ps.flatMap (Piece.render o env fr.output.stringTable)).length ≤ lineBound K F ps := by
  induction ps with
  | nil => exact Nat.zero_le _
  | cons p ps ih =>
    have := length_render_le hF hK p
    simp only [List.flatMap_cons, List.length_append, lineBound, List.map_cons, List.sum_cons] at ih ⊢
    omega

theorem nul_not_mem_line (ps : List Piece) (strings : List String) :
    '\x00' ∉ ps.flatMap (Piece.render o env strings) := by
  simp only [List.mem_flatMap, not_exists, not_and]
  intro p _
  cases p with
  | str t => exact nul_not_mem_cString _
  | num e => exact nul_not_mem_decimal _

end Bounds

/-! ## The program tree and the opcode search -/

section Tree

variable (L : List Instruction)

/-- Where the next subtree starts, or `N` after the last. -/
def nextStart (N : Nat) : List (Nat × PTree) → Nat
  | [] => N
  | (b, _) :: _ => b

/-- Each subtree, given with its first address, finds the instructions of `L` from there to
where the next one starts. -/
def Covers (N : Nat) : List (Nat × PTree) → Prop
  | [] => True
  | (a, t) :: rest =>
    (∀ n, a ≤ n → n < nextStart N rest → t.get n = L.getD n ⟨0, 0, .bool false⟩) ∧ Covers N rest

variable {L}

theorem covers_enumFrom : ∀ (l : List Instruction) (k : Nat),
    (∀ i < l.length, L.getD (k + i) ⟨0, 0, .bool false⟩ = l.getD i ⟨0, 0, .bool false⟩) →
    Covers L (k + l.length) ((l.enumFrom k).map fun p => (p.1, .leaf p.2))
  | [], _, _ => trivial
  | x :: rest, k, h => by
    have hx : L.getD k ⟨0, 0, .bool false⟩ = x := h 0 (Nat.succ_pos _)
    have hrest := covers_enumFrom rest (k + 1) fun i hi => by
      rw [Nat.add_assoc, Nat.add_comm 1 i]
      exact h (i + 1) (Nat.succ_lt_succ hi)
    rw [List.enumFrom_cons, List.map_cons, List.length_cons,
      show k + (rest.length + 1) = k + 1 + rest.length by omega]
    refine ⟨fun n hk hn => ?_, hrest⟩
    have hnk : n = k := by cases rest <;> simp only [nextStart, List.enumFrom_cons, List.map_cons,
      List.enumFrom_nil, List.map_nil, List.length_nil] at hn <;> omega
    rw [hnk, hx]
    rfl

theorem covers_pairUp {N : Nat} : ∀ {segs : List (Nat × PTree)}, Covers L N segs →
    Covers L N (pairUp segs) ∧ nextStart N (pairUp segs) = nextStart N segs
  | (a, t) :: (b, u) :: rest, ⟨ht, hu, hrest⟩ => by
    have ih := covers_pairUp hrest
    refine ⟨⟨fun n ha hn => ?_, ih.1⟩, rfl⟩
    rw [ih.2] at hn
    simp only [PTree.get]
    cases hb : n.blt b
    · exact hu n (Nat.not_lt.mp fun h => by rw [Nat.blt_eq.mpr h] at hb; cases hb) hn
    · exact ht n ha (Nat.blt_eq.mp hb)
  | [], h | [_], h => ⟨h, rfl⟩

theorem length_pairUp : ∀ segs : List (Nat × PTree), (pairUp segs).length = (segs.length + 1) / 2
  | _ :: _ :: rest => by
    simp only [pairUp, List.length_cons, length_pairUp rest]
    omega
  | [] | [_] => by simp [pairUp]

theorem get_joinUp {N : Nat} : ∀ (d a : Nat) (t : PTree) (rest : List (Nat × PTree)),
    rest.length + 1 ≤ 2 ^ d → Covers L N ((a, t) :: rest) →
    ∀ n, a ≤ n → n < N → (joinUp d ((a, t) :: rest)).get n = L.getD n ⟨0, 0, .bool false⟩
  | 0, _, _, [], _, hc, n, ha, hn | _ + 1, _, _, [], _, hc, n, ha, hn => hc.1 n ha hn
  | 0, _, _, _ :: _, hlen, _, _, _, _ => by simp at hlen
  | d + 1, a, t, (b, u) :: rest, hlen, hc, n, ha, hn => by
    have hlen' : (pairUp rest).length + 1 ≤ 2 ^ d := by
      rw [length_pairUp, pow_succ] at *
      simp only [List.length_cons] at hlen
      omega
    exact get_joinUp d a (.node b t u) (pairUp rest) hlen' (covers_pairUp hc).1 n ha hn

/-- The tree finds every instruction of a program of at most `2 ^ 10` instructions. -/
theorem get_ofList (hl : L.length ≤ 1024) {n : Nat} (hn : n < L.length) :
    (PTree.ofList L).get n = L.getD n ⟨0, 0, .bool false⟩ := by
  have hc := covers_enumFrom L 0 fun i _ => by rw [Nat.zero_add]
  rw [Nat.zero_add] at hc
  cases L with
  | nil => simp at hn
  | cons x rest =>
    exact get_joinUp 10 0 (.leaf x) ((rest.enumFrom 1).map fun p : Nat × Instruction => (p.1, .leaf p.2))
      (by simpa using hl) hc n (Nat.zero_le n) hn

end Tree

theorem decodeOp_eq (n : Nat) : decodeOp n = Opcode.ofCode n := by
  rcases Nat.lt_or_ge n 23 with h | h
  · exact (by decide : ∀ k < 23, decodeOp k = Opcode.ofCode k) n h
  · have hb : ∀ k, k < 23 → Nat.blt n k = false := fun k hk => by
      rw [Bool.eq_false_iff, ne_eq, Nat.blt_eq]; omega
    have he : ∀ k, k < 23 → Nat.beq n k = false := fun k hk => by
      rw [Bool.eq_false_iff, ne_eq, Nat.beq_eq]; omega
    simp only [decodeOp, hb 12 (by norm_num), hb 18 (by norm_num), hb 21 (by norm_num),
      he 21 (by norm_num), he 22 (by norm_num), cond_false]
    unfold Opcode.ofCode
    split <;> first | rfl | omega

/-! ## One instruction -/

theorem roll_append {α : Type} {n : Nat} {l : List α} (r : List α) (hn : n ≤ l.length) :
    roll n (l ++ r) = roll n l ++ r := by
  cases l with
  | nil => cases r <;> simp_all [roll]
  | cons x rest =>
    simp only [List.length_cons] at hn
    simp only [roll, List.cons_append, List.take_append_of_le_length (show n - 1 ≤ rest.length by omega),
      List.drop_append_of_le_length (show n - 1 ≤ rest.length by omega), List.append_assoc]

theorem popNums_some : ∀ {k : Nat} {l : List SymV} {bs : List NumE} {rest : List SymV},
    popNums k l = some (bs, rest) → bs.length = k ∧ l = bs.map .num ++ rest
  | 0, l, bs, rest, h => by cases h; exact ⟨rfl, rfl⟩
  | k + 1, .num e :: l, bs, rest, h => by
    simp only [popNums, Option.map_eq_some', Prod.exists] at h
    obtain ⟨bs', rest', hp, rfl, rfl⟩ := h
    obtain ⟨rfl, rfl⟩ := popNums_some hp
    exact ⟨rfl, rfl⟩
  | _ + 1, [], _, _, h | _ + 1, .bool _ :: _, _, _, h | _ + 1, .str _ :: _, _, _, h
  | _ + 1, .ite _ _ _ :: _, _, _, h => by cases h

theorem popBools_some : ∀ {k : Nat} {l : List SymV} {bs : List BoolE} {rest : List SymV},
    popBools k l = some (bs, rest) → bs.length = k ∧ l = bs.map .bool ++ rest
  | 0, l, bs, rest, h => by cases h; exact ⟨rfl, rfl⟩
  | k + 1, .bool e :: l, bs, rest, h => by
    simp only [popBools, Option.map_eq_some', Prod.exists] at h
    obtain ⟨bs', rest', hp, rfl, rfl⟩ := h
    obtain ⟨rfl, rfl⟩ := popBools_some hp
    exact ⟨rfl, rfl⟩
  | _ + 1, [], _, _, h | _ + 1, .num _ :: _, _, _, h | _ + 1, .str _ :: _, _, _, h
  | _ + 1, .ite _ _ _ :: _, _, _, h => by cases h

section Instr

variable {o : ByteOrder} {C : Nat} {env : Env} {fr : Frame} {program : List Instruction} {K : Code}
  {F : Facts}

theorem push_some {v : SymV} {s s' : SymState} (h : push K v s = some s') :
    s.args.length + s.ctl.length + 1 ≤ K.room ∧ s' = { s with args := v :: s.args } := by
  unfold push at h
  split_ifs at h with hc
  exact ⟨hc, (Option.some.inj h).symm⟩

@[simp] theorem den_args (s : SymState) :
    (s.den o C env fr).stack.args = s.args.map (SymV.den o env) ++ fr.rest := rfl

@[simp] theorem den_ctl (s : SymState) :
    (s.den o C env fr).stack.ctl = s.ctl.map .pc ++ fr.ctl := rfl

theorem den_ctl_eq (s : SymState) {r : Fin 65536} {ctl : List (Fin 65536)} (hs : s.ctl = r :: ctl) :
    (s.den o C env fr).stack.ctl = .pc r :: (ctl.map .pc ++ fr.ctl) := by
  rw [den_ctl, hs]
  rfl

theorem den_args_eq {s : SymState} {l : List SymV} (hs : s.args = l) :
    (s.den o C env fr).stack.args = l.map (SymV.den o env) ++ fr.rest := by
  rw [den_args, hs]

/-- The room a symbolic state leaves is room on the machine's stacks. -/
theorem den_cap (hK : Fits o C env fr program K) (s : SymState) {a : List SymV} {k : Nat}
    (h : a.length + s.ctl.length + k ≤ K.room) :
    (a.map (SymV.den o env) ++ fr.rest).length + (s.den o C env fr).stack.ctl.length + k ≤ stackSize := by
  have := hK.room
  simp only [den_ctl, List.length_append, List.length_map]
  omega

theorem addSubOp_sound (hF : F.Holds o env) (hK : Fits o C env fr program K) {addFlag : Bool} {s s' : SymState}
    (h : addSubOp K F addFlag s = some s') :
    Machine.addSub addFlag (s.den o C env fr) = .ok () (s'.den o C env fr) := by
  unfold addSubOp at h
  split at h
  · rename_i b a rest hs
    have hb := eval_le_bound hF hK.vars b
    have ha := eval_le_bound hF hK.vars a
    cases addFlag
    · simp only [Bool.false_eq_true, if_false] at h
      split_ifs at h with hle
      obtain ⟨hcap, rfl⟩ := push_some h
      rw [@Machine.addSub_ok (s.den o C env fr) false _ _ _ (den_args_eq hs) (knowsLe_sound hF hle)
        (den_cap hK s hcap), ← eval_mkSub]
      rfl
    · simp only [if_true] at h
      split_ifs at h with hle
      obtain ⟨hcap, rfl⟩ := push_some h
      rw [@Machine.addSub_ok (s.den o C env fr) true _ _ _ (den_args_eq hs) (show _ ≤ _ by omega)
        (den_cap hK s hcap), ← eval_mkAdd]
      rfl
  · cases h

theorem map_den_bools (bs : List BoolE) :
    (bs.map SymV.bool).map (SymV.den o env) = (bs.map (BoolE.eval o env)).map Value.bool := by
  simp only [List.map_map]
  rfl

theorem map_den_nums (bs : List NumE) :
    (bs.map SymV.num).map (SymV.den o env) = (bs.map (NumE.eval o env)).map Value.num := by
  simp only [List.map_map]
  rfl

theorem eval_foldl_andOr (andFlag : Bool) : ∀ (bs : List BoolE) (a : BoolE),
    (bs.foldl (fun acc b => if andFlag then mkAnd acc b else mkOr acc b) a).eval o env =
      (bs.map (BoolE.eval o env)).foldl (fun acc b => if andFlag then acc && b else acc || b)
        (a.eval o env)
  | [], _ => rfl
  | b :: bs, a => by
    rw [List.foldl_cons, List.map_cons, List.foldl_cons, eval_foldl_andOr andFlag bs]
    cases andFlag <;> simp

theorem eval_foldl_eq (hF : F.Holds o env) (a : NumE) : ∀ (bs : List NumE) (acc : BoolE),
    (bs.foldl (fun acc b => mkAnd acc (mkEq F a b)) acc).eval o env =
      (bs.map (NumE.eval o env)).foldl (fun acc b => if a.eval o env ≠ b then false else acc)
        (acc.eval o env)
  | [], _ => rfl
  | b :: bs, acc => by
    rw [List.foldl_cons, List.map_cons, List.foldl_cons, eval_foldl_eq hF a bs, eval_mkAnd,
      eval_mkEq hF]
    by_cases h : a.eval o env = b.eval o env <;> simp [h]

theorem andOrOp_sound (hK : Fits o C env fr program K) {n : Nat} {andFlag : Bool} {s s' : SymState}
    (h : andOrOp K n andFlag s = some s') :
    Machine.andOr n andFlag (s.den o C env fr) = .ok () (s'.den o C env fr) := by
  unfold andOrOp at h
  have hn : ¬n < 2 := fun hn => by rw [if_pos hn] at h; cases h
  rw [if_neg hn] at h
  split at h
  · rename_i a rest hs
    split at h
    · rename_i bs rest' hp
      obtain ⟨hlen, rfl⟩ := popBools_some hp
      obtain ⟨hcap, rfl⟩ := push_some h
      rw [@Machine.andOr_ok (s.den o C env fr) n andFlag (a.eval o env) (bs.map (BoolE.eval o env))
        (rest'.map (SymV.den o env) ++ fr.rest) (by rw [List.length_map]; omega) (by omega)
        (by rw [den_args_eq hs, List.map_cons, List.map_append, map_den_bools, List.cons_append,
          List.append_assoc]; rfl)
        (den_cap hK s hcap), ← eval_foldl_andOr]
      rfl
    · cases h
  · cases h

theorem eqOp_sound (hF : F.Holds o env) (hK : Fits o C env fr program K) {n : Nat} {s s' : SymState}
    (h : eqOp K F n s = some s') :
    Machine.eq n (s.den o C env fr) = .ok () (s'.den o C env fr) := by
  unfold eqOp at h
  have hn : ¬n < 2 := fun hn => by rw [if_pos hn] at h; cases h
  rw [if_neg hn] at h
  split at h
  · rename_i a rest hs
    split at h
    · rename_i bs rest' hp
      obtain ⟨hlen, rfl⟩ := popNums_some hp
      obtain ⟨hcap, rfl⟩ := push_some h
      rw [@Machine.eq_ok (s.den o C env fr) n (a.eval o env) (bs.map (NumE.eval o env))
        (rest'.map (SymV.den o env) ++ fr.rest) (by rw [List.length_map]; omega) (by omega)
        (by rw [den_args_eq hs, List.map_cons, List.map_append, map_den_nums, List.cons_append,
          List.append_assoc]; rfl)
        (den_cap hK s hcap), show true = (BoolE.lit true).eval o env from rfl, ← eval_foldl_eq hF]
      rfl
    · cases h
  · cases h

theorem ltGtOp_sound (hF : F.Holds o env) (hK : Fits o C env fr program K) {ltFlag : Bool} {s s' : SymState}
    (h : ltGtOp K F ltFlag s = some s') :
    Machine.ltGt ltFlag (s.den o C env fr) = .ok () (s'.den o C env fr) := by
  unfold ltGtOp at h
  split at h
  · rename_i b a rest hs
    obtain ⟨hcap, rfl⟩ := push_some h
    have he : (if ltFlag then mkLt F a b else mkLt F b a).eval o env =
        if ltFlag then decide (a.eval o env < b.eval o env)
        else decide (a.eval o env > b.eval o env) := by
      cases ltFlag <;> simp only [eval_mkLt hF, if_true, Bool.false_eq_true, if_false, gt_iff_lt]
    rw [@Machine.ltGt_ok (s.den o C env fr) ltFlag _ _ _ (den_args_eq hs) (den_cap hK s hcap), ← he]
    rfl
  · cases h

theorem notOp_sound (hK : Fits o C env fr program K) {s s' : SymState} (h : notOp K s = some s') :
    Machine.not (s.den o C env fr) = .ok () (s'.den o C env fr) := by
  unfold notOp at h
  split at h
  · rename_i a rest hs
    obtain ⟨hcap, rfl⟩ := push_some h
    rw [@Machine.not_ok (s.den o C env fr) _ _ (den_args_eq hs) (den_cap hK s hcap), ← eval_mkNot]
    rfl
  · cases h

theorem dupOp_sound (hK : Fits o C env fr program K) {n : Nat} {s s' : SymState} (h : dupOp K n s = some s') :
    Machine.dup n (s.den o C env fr) = .ok () (s'.den o C env fr) := by
  unfold dupOp at h
  split_ifs at h with hc
  cases h
  have hn : n ≤ (s.args.map (SymV.den o env)).length := by rw [List.length_map]; exact hc.2.1
  rw [@Machine.dup_ok (s.den o C env fr) n hc.1 (hn.trans (by simp)) (den_cap hK s hc.2.2),
    den_args, List.take_append_of_le_length hn, ← List.map_take, ← List.append_assoc,
    ← List.map_append]
  rfl

theorem popOp_sound {n : Nat} {s s' : SymState} (h : popOp n s = some s') :
    Machine.pop n (s.den o C env fr) = .ok () (s'.den o C env fr) := by
  unfold popOp at h
  split_ifs at h with hc
  cases h
  have hn : n ≤ (s.args.map (SymV.den o env)).length := by rw [List.length_map]; exact hc.2
  rw [@Machine.pop_ok (s.den o C env fr) n hc.1 (hn.trans (by simp)), den_args,
    List.drop_append_of_le_length hn, ← List.map_drop]
  rfl

theorem rollOp_sound {n : Nat} {s s' : SymState} (h : rollOp n s = some s') :
    Machine.roll n (s.den o C env fr) = .ok () (s'.den o C env fr) := by
  unfold rollOp at h
  split_ifs at h with hc
  cases h
  have hn : n ≤ (s.args.map (SymV.den o env)).length := by rw [List.length_map]; exact hc.2
  rw [@Machine.roll_ok (s.den o C env fr) n hc.1 (hn.trans (by simp)), den_args,
    roll_append _ hn, ← map_roll]
  rfl

theorem pushTypedOp_sound (hK : Fits o C env fr program K) {ty : ValueType} {literal lit' : Value}
    {sym : Option SymV} {s s' : SymState} (hty : literal.type = lit'.type)
    (hlit : ∀ x, (sym <|> SymV.ofValue literal) = some x → x.den o env = lit')
    (h : pushTypedOp K ty literal sym s = some s') :
    Machine.pushTyped ty lit' (s.den o C env fr) = .ok () (s'.den o C env fr) := by
  unfold pushTypedOp at h
  split_ifs at h with hty'
  obtain ⟨v, hv, h⟩ := Option.bind_eq_some.mp h
  obtain ⟨hcap, rfl⟩ := push_some h
  have hden : v.den o env = lit' := hlit v hv
  rw [@Machine.pushTyped_ok (s.den o C env fr) ty lit' (hty ▸ hty') (hden ▸ den_isArg v)
    (den_cap hK s hcap), ← hden]
  rfl

theorem inputOp_sound (hF : F.Holds o env) (hK : Fits o C env fr program K) {n : Nat} {s s' : SymState}
    (h : inputOp K F n s = some s') :
    Machine.execInput o n (s.den o C env fr) = .ok () (s'.den o C env fr) := by
  unfold inputOp at h
  split_ifs at h with hc
  obtain ⟨hcap, rfl⟩ := push_some h
  have hlim := hK.limit
  obtain ⟨x, hx, hrun⟩ := @Machine.execInput_ok o (s.den o C env fr) n env.image hc.1 hK.queue
    (show env.base + s.head + n ≤ fr.input.size by omega) (den_cap hK s hcap)
  have hxv : x = (F.resolveNum (.field s.head n)).eval o env := by
    rw [eval_resolveNum hF]
    exact Fin.ext (by rw [hx]; exact (Nat.mod_eq_of_lt (hx ▸ x.isLt)).symm)
  rw [hrun, hxv]
  simp only [SymState.den, SymState.machine, Nat.add_assoc]
  rfl

@[simp] theorem den_output (s : SymState) :
    (s.den o C env fr).output =
      lineBuffer C (s.line.flatMap (Piece.render o env fr.output.stringTable)) fr.output := rfl

@[simp] theorem den_events (s : SymState) :
    (s.den o C env fr).events = fr.events ++ s.events.flatMap (SymEvent.den o env fr.output.stringTable) :=
  rfl

/-- A piece appended to the line. -/
theorem den_appendLine (s : SymState) (rest : List SymV) (p : Piece) :
    ({ s with args := rest, line := s.line ++ [p] } : SymState).den o C env fr =
      { s.den o C env fr with
        stack := ⟨rest.map (SymV.den o env) ++ fr.rest, (s.den o C env fr).stack.ctl⟩
        output := lineBuffer C (s.line.flatMap (Piece.render o env fr.output.stringTable) ++
          p.render o env fr.output.stringTable) fr.output } := by
  simp only [SymState.den, SymState.machine, List.flatMap_append, List.flatMap_singleton]

theorem outputOp_sound (hF : F.Holds o env) (hK : Fits o C env fr program K) {s s' : SymState}
    (h : outputOp K F s = some s') :
    Machine.execOutput C (s.den o C env fr) = .ok () (s'.den o C env fr) := by
  have hmax := hK.lineMax
  have hsmall := hK.lineMaxSmall
  unfold outputOp at h
  split at h
  · rename_i t rest hs
    split_ifs at h with hc
    cases h
    have hL := length_line_le hF hK (s.line ++ [.str t])
    rw [List.flatMap_append, List.flatMap_singleton, List.length_append] at hL
    have hi : t.val < fr.output.numStrings := by
      rw [hK.numStrings, ← hK.lensLength]
      exact hc.1
    rw [Machine.execOutput_str_ok (den_args_eq hs) (by
      rw [den_output]
      exact outputEnqueueString_lineBuffer_ok hi (by simp only [Piece.render] at hL; omega)
        (by simp only [Piece.render] at hL; omega)), den_appendLine]
    rfl
  · rename_i e rest hs
    split_ifs at h with hc
    cases h
    have hL := length_line_le hF hK (s.line ++ [.num e])
    rw [List.flatMap_append, List.flatMap_singleton, List.length_append] at hL
    rw [Machine.execOutput_num_ok (den_args_eq hs) (by
      rw [den_output]
      exact outputEnqueueNumber_lineBuffer_ok _ (by simp only [Piece.render] at hL; omega)
        (by simp only [Piece.render] at hL; omega)), den_appendLine]
    rfl
  · cases h

theorem flushOp_sound (hF : F.Holds o env) (hK : Fits o C env fr program K) {s s' : SymState}
    (h : flushOp K F s = some s') :
    Machine.flush C (s.den o C env fr) = .ok () (s'.den o C env fr) := by
  unfold flushOp at h
  split at h
  · rename_i a b rest hs
    split_ifs at h with hc
    cases h
    have hL := length_line_le hF hK s.line
    have hmax := hK.lineMax
    rw [Machine.flush_ok (den_args_eq hs), den_output,
      outputFlush_lineBuffer _ _ (nul_not_mem_line _ _) (by omega)]
    simp only [SymState.den, SymState.machine, List.flatMap_append, List.flatMap_singleton,
      SymEvent.den, BoolE.eval, if_true, List.append_assoc, List.flatMap_nil, List.append_nil]
    rfl
  · cases h

theorem symInstr_sound (hF : F.Holds o env) (hK : Fits o C env fr program K) {op : Opcode}
    {i j : Instruction} {sym : Option SymV} {s s' : SymState} (hm : Matches o env sym i j)
    (hop : i.opcode = some op) (h : symInstr K F op i sym s = some s') :
    Machine.exec o C j (s.den o C env fr) = .ok () (s'.den o C env fr) := by
  rw [Machine.exec, hm.opcode, hop, hm.rep]
  cases op with
  | add | sub => exact addSubOp_sound hF hK h
  | and | or => exact andOrOp_sound hK h
  | dup => exact dupOp_sound hK h
  | eq => exact eqOp_sound hF hK h
  | flush => exact flushOp_sound hF hK h
  | gt | lt => exact ltGtOp_sound hF hK h
  | input => exact inputOp_sound hF hK h
  | not => exact notOp_sound hK h
  | output => exact outputOp_sound hF hK h
  | pop => exact popOp_sound h
  | pushb | pushn | pushs => exact pushTypedOp_sound hK hm.push.1 hm.push.2 h
  | roll => exact rollOp_sound h
  | call | halt | jmpif | «return» | rewind => cases h

end Instr

/-! ## Forks and whole runs -/

section Merge

variable {o : ByteOrder} {C : Nat} {env : Env} {fr : Frame} {program : List Instruction}

theorem map_den_zipWith_mergeV (c : BoolE) : ∀ {xs ys : List SymV}, xs.length = ys.length →
    (List.zipWith (mergeV c) xs ys).map (SymV.den o env) =
      if c.eval o env then xs.map (SymV.den o env) else ys.map (SymV.den o env)
  | [], [], _ => by simp
  | x :: xs, y :: ys, h => by
    rw [List.zipWith_cons_cons, List.map_cons, den_mergeV,
      map_den_zipWith_mergeV c (Nat.succ.inj h)]
    split_ifs <;> rfl
  | [], _ :: _, h | _ :: _, [], h => by simp at h

theorem flatMap_den_guardWith (strings : List String) (c : BoolE) (es : List SymEvent) :
    (es.map (SymEvent.guardWith c)).flatMap (SymEvent.den o env strings) =
      if c.eval o env then es.flatMap (SymEvent.den o env strings) else [] := by
  induction es with
  | nil => simp
  | cons e es ih =>
    rw [List.map_cons, List.flatMap_cons, ih, List.flatMap_cons]
    cases hc : c.eval o env <;> simp [SymEvent.den, SymEvent.guardWith, hc]

/-- The merge of two branches is the branch its condition selects. -/
theorem machine_merge {c : BoolE} {t₁ t₂ t : SymState} (h : merge c t₁ t₂ = some t)
    (pc : Fin 65536) (ctl : List Value) :
    t.machine o C env fr pc ctl =
      if c.eval o env then t₁.machine o C env fr pc ctl else t₂.machine o C env fr pc ctl := by
  unfold merge at h
  split_ifs at h with hm
  cases h
  obtain ⟨hlen, hhead, hline⟩ := hm
  simp only [SymState.machine, map_den_zipWith_mergeV c hlen, List.flatMap_append,
    flatMap_den_guardWith, eval_mkNot]
  cases c.eval o env
  · simp only [Bool.false_eq_true, if_false, Bool.not_false, if_true, List.nil_append, hhead, hline]
  · simp only [if_true, Bool.not_true, Bool.false_eq_true, if_false, List.append_nil]

/-- The frame a branch of a fork at `s` runs in: the return addresses and events of `s`
move into it. -/
def Frame.enter (o : ByteOrder) (env : Env) (fr : Frame) (s : SymState) : Frame :=
  { fr with
    ctl := s.ctl.map .pc ++ fr.ctl
    events := fr.events ++ s.events.flatMap (SymEvent.den o env fr.output.stringTable) }

theorem Frame.enter_ctl (s : SymState) : (fr.enter o env s).ctl = s.ctl.map .pc ++ fr.ctl := rfl

theorem den_enter {u s : SymState} (hc : u.ctl = s.ctl) (he : u.events = s.events) :
    u.den o C env fr = ({ u with ctl := [], events := [] } : SymState).den o C env (fr.enter o env s) := by
  simp only [SymState.den, SymState.machine, Frame.enter, hc, he, List.map_nil, List.nil_append,
    List.flatMap_nil, List.append_nil]

theorem machine_enter (t s : SymState) (pc : Fin 65536) (ctl : List Value) :
    t.machine o C env (fr.enter o env s) pc ctl =
      ({ t with events := s.events ++ t.events } : SymState).machine o C env fr pc ctl := by
  simp only [SymState.machine, Frame.enter, List.flatMap_append, List.append_assoc]

theorem Fits.enter {K : Code} (hK : Fits o C env fr program K) {s : SymState}
    (h : (s.ctl ≠ [] ∨ K.canReturn = true) ∧ s.ctl.length ≤ K.room) :
    Fits o C env (fr.enter o env s) program { K with canReturn := true, room := K.room - s.ctl.length } where
  tree := hK.tree
  lens := hK.lens
  lensLength := hK.lensLength
  room := by
    have := hK.room
    simp only [Frame.enter, List.length_append, List.length_map]
    omega
  queue := hK.queue
  limit := hK.limit
  strings := hK.strings
  numStrings := hK.numStrings
  lineMax := hK.lineMax
  lineMaxSmall := hK.lineMaxSmall
  vars := hK.vars
  ret := fun _ => by
    rcases h.1 with h₁ | h₁
    · simp [Frame.enter, h₁]
    · simpa [Frame.enter] using fun _ : s.ctl = [] => hK.ret h₁

end Merge

section Exec

variable {o : ByteOrder} {C : Nat} {env : Env} {program : List Instruction}

/-- What `exec` at some fuel satisfies: each run it completes is a run of the machine. -/
def Sound (o : ByteOrder) (C : Nat) (env : Env) (program : List Instruction)
    (run : Code → Facts → SymState → Option Outcome) : Prop :=
  ∀ (K : Code) (F : Facts) (s : SymState) (fr : Frame) (out : Outcome), run K F s = some out →
    F.Holds o env → Fits o C env fr program K →
    Runs o C program K.numInstructions (s.den o C env fr) (out.den o C env fr)

variable {run : Code → Facts → SymState → Option Outcome} {fr : Frame} {K : Code} {F : Facts}

theorem fork_sound (ih : Sound o C env program run) (hF : F.Holds o env) (hK : Fits o C env fr program K)
    {c : BoolE} {s sJ sF : SymState} {out : Outcome} (hJc : sJ.ctl = s.ctl)
    (hJe : sJ.events = s.events) (hFc : sF.ctl = s.ctl) (hFe : sF.events = s.events)
    (h : fork run K F c s sJ sF = some out) :
    Runs o C program K.numInstructions
      ((if c.eval o env then sJ else sF).den o C env fr) (out.den o C env fr) := by
  unfold fork at h
  split_ifs at h with hcond
  dsimp only at h
  split at h
  · rename_i t₁ t₂ h₁ h₂
    obtain ⟨t, hm, h⟩ := Option.bind_eq_some.mp h
    have hK' := hK.enter (o := o) hcond
    -- the merged end state, continued after the return
    have hcont : Runs o C program K.numInstructions
        ((Outcome.ret t).den o C env (fr.enter o env s)) (out.den o C env fr) := by
      show Runs o C program K.numInstructions (t.machine o C env (fr.enter o env s)
        (((fr.enter o env s).ctl).headD (.pc 0)).valPc (fr.enter o env s).ctl.tail) _
      rw [Frame.enter_ctl, machine_enter]
      split at h
      · rename_i r ctl hs
        rw [hs]
        exact ih K F _ fr out h hF hK
      · rename_i hs
        cases h
        rw [hs]
        exact .refl _
    simp only [Outcome.den, machine_merge hm] at hcont
    cases hc : c.eval o env
    · rw [if_neg (by simp)]
      rw [hc, if_neg (by simp)] at hcont
      rw [den_enter hFc hFe]
      exact (ih _ _ _ _ _ h₂ (hF.assume hc) hK').trans hcont
    · rw [if_pos rfl]
      rw [hc, if_pos rfl] at hcont
      rw [den_enter hJc hJe]
      exact (ih _ _ _ _ _ h₁ (hF.assume hc) hK').trans hcont
  · cases h

/-- One instruction from a state within the program, then a run. -/
theorem runs_step {s : SymState} {m' m'' : Machine} (hpc : s.pc < K.numInstructions)
    (h : Machine.exec o C (fetch program s.pc)
      (({ s with pc := s.pc + 1 } : SymState).den o C env fr) = .ok () m')
    (rest : Runs o C program K.numInstructions m' m'') :
    Runs o C program K.numInstructions (s.den o C env fr) m'' :=
  .step hpc h rest

theorem execStep_sound (ih : Sound o C env program run) (hF : F.Holds o env) (hK : Fits o C env fr program K)
    {s : SymState} {out : Outcome} (h : execStep run K F s = some out) :
    Runs o C program K.numInstructions (s.den o C env fr) (out.den o C env fr) := by
  unfold execStep at h
  by_cases hstop : s.pc ∈ K.stops
  · rw [if_pos hstop] at h
    cases h
    exact .refl _
  rw [if_neg hstop] at h
  by_cases hpc : s.pc < K.numInstructions
  swap
  · rw [if_pos hpc] at h
    cases h
  rw [if_neg (not_not.mpr hpc)] at h
  dsimp only at h
  have hm := hK.tree s.pc hpc
  split at h
  · -- `CALL`
    rename_i hdec
    have hop : (K.tree.get s.pc).opcode = some .call := (decodeOp_eq _).symm.trans hdec
    split at h
    · rename_i target hsym hlit
      split_ifs at h with hc
      refine runs_step hpc ?_ (ih K F _ fr out h hF hK)
      rw [hsym] at hm
      rw [hm.eq_of_none, Machine.exec, hop, hlit]
      exact Machine.call_ok' hc.1 (den_cap hK _ hc.2)
    · cases h
  · -- `RETURN`
    rename_i hdec
    have hop : (fetch program s.pc).opcode = some .return :=
      hm.opcode.trans ((decodeOp_eq _).symm.trans hdec)
    split at h
    · rename_i r ctl hs
      refine runs_step hpc ?_ (ih K F _ fr out h hF hK)
      rw [Machine.exec, hop]
      exact Machine.return_ok' (den_ctl_eq { s with pc := s.pc + 1 } hs)
    · rename_i hs
      split_ifs at h with hret
      cases h
      obtain ⟨v, rest, hv⟩ := List.exists_cons_of_ne_nil (hK.ret hret)
      refine runs_step hpc ?_ (.refl _)
      rw [Machine.exec, hop]
      refine (Machine.return_ok' (show (({ s with pc := s.pc + 1 } : SymState).den
        o C env fr).stack.ctl = v :: rest by rw [den_ctl, hs, hv]; rfl)).trans ?_
      simp only [Outcome.den, hv, List.headD_cons, List.tail_cons]
      rfl
  · -- `JMPIF`
    rename_i hdec
    have hop : (K.tree.get s.pc).opcode = some .jmpif := (decodeOp_eq _).symm.trans hdec
    split at h
    · rename_i offset c rest hsym hlit hargs
      have h2 : ¬offset.val < 2 := fun h2 => by rw [if_pos h2] at h; cases h
      rw [if_neg h2] at h
      rw [hsym] at hm
      -- the machine jumps on the value of `c`
      have hjump : ∀ v : Bool, c.eval o env = v →
          (v = true → offset.val ≤ 65535 - (s.pc + 1).val) →
          Runs o C program K.numInstructions
            ((if v then ({ s with pc := s.pc + 1 + (offset - 1), args := rest } : SymState)
              else { s with pc := s.pc + 1, args := rest }).den o C env fr) (out.den o C env fr) →
          Runs o C program K.numInstructions (s.den o C env fr) (out.den o C env fr) := by
        intro v hv hfit' hr
        refine runs_step hpc ?_ hr
        rw [hm.eq_of_none, Machine.exec, hop, hlit]
        have hargs' : (({ s with pc := s.pc + 1 } : SymState).den o C env fr).stack.args =
            .bool v :: (rest.map (SymV.den o env) ++ fr.rest) := by
          rw [den_args, hargs, ← hv]
          rfl
        cases v
        · exact Machine.jmpif_false (by omega) hargs'
        · exact Machine.jmpif_true (by omega) hargs' (hfit' rfl)
      split_ifs at h with hfit
      · split at h
        · rename_i hres
          exact hjump false (by rw [← eval_resolve hF, hres]; rfl) (by simp)
            (ih K F _ fr out h hF hK)
        · rename_i hres
          exact hjump true (by rw [← eval_resolve hF, hres]; rfl) (fun _ => hfit)
            (ih K F _ fr out h hF hK)
        · refine hjump (c.eval o env) rfl (fun _ => hfit) ?_
          rw [← eval_resolve hF c]
          exact fork_sound ih hF hK rfl rfl rfl rfl h
      · split at h
        · rename_i hres
          exact hjump false (by rw [← eval_resolve hF, hres]; rfl) (by simp)
            (ih K F _ fr out h hF hK)
        · cases h
    · cases h
  · cases h
  · rename_i op _ _ _ _ hdec
    obtain ⟨s', hs', h⟩ := Option.bind_eq_some.mp h
    exact runs_step hpc (symInstr_sound hF hK hm ((decodeOp_eq _).symm.trans hdec) hs')
      (ih K F s' fr out h hF hK)
  · cases h

/-- A completed symbolic run is a run of the machine: from the state a symbolic state denotes
under an environment satisfying the run's facts, in a frame that gives the run what it
assumes, the machine reaches the state the outcome denotes. -/
theorem exec_sound : ∀ fuel : Nat, Sound o C env program (exec fuel)
  | 0 => fun _ _ _ _ _ h => by cases h
  | fuel + 1 => fun _ _ _ _ _ h hF hK => execStep_sound (exec_sound fuel) hF hK h

end Exec

end Grunt.Sym
