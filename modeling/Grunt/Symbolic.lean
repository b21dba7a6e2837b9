import Grunt.Steps

/-!
# Symbolic execution of Grunt code

A program proof about a fixed Grunt program runs the program on symbolic states.  A
symbolic value is a term over unknown numbers, fields of the input window and literals;
the executor `exec` performs each instruction on such terms, with every check the
machine makes decided on the terms (a capacity against the room the caller leaves, a
read against the bytes it guarantees, an addition against bounds of its operands).  A
conditional jump on a term it cannot decide runs both branches to the return of the
subroutine they are in and merges them: values that differ become conditionals, and the
events of each branch are kept under the branch's condition.

`exec` is an ordinary structurally recursive function, so a run on a closed symbolic
state is evaluated by `decide`.  `exec_sound` says what such a run means: from the
machine state a symbolic state denotes under any environment satisfying the facts the
run assumed, the machine runs to the state the outcome denotes.
-/

namespace Grunt.Sym

/-! ## Terms -/

/-- A number: a literal, an unknown, the number read from the input window at an offset
from its base, or a sum or difference. -/
inductive NumE
  | lit (n : Number)
  | var (i : Nat)
  | field (off width : Nat)
  | add (a b : NumE)
  | sub (a b : NumE)
  deriving DecidableEq, Repr

/-- A Boolean computed from numbers. -/
inductive BoolE
  | lit (b : Bool)
  | eq (a b : NumE)
  | lt (a b : NumE)
  | not (b : BoolE)
  | and (a b : BoolE)
  | or (a b : BoolE)
  deriving DecidableEq, Repr

/-- An argument on the stack; `ite` is the merge of two branches. -/
inductive SymV
  | num (e : NumE)
  | bool (b : BoolE)
  | str (s : Fin 65536)
  | ite (c : BoolE) (x y : SymV)
  deriving DecidableEq, Repr

/-- A piece of the output line: a string of the table or the digits of a number. -/
inductive Piece
  | str (s : Fin 65536)
  | num (e : NumE)
  deriving DecidableEq, Repr

/-- An event, sent when its guard holds. -/
structure SymEvent where
  guard : BoolE
  eventId : NumE
  eventType : NumE
  text : List Piece
  deriving DecidableEq, Repr

/-- The part of the machine a subroutine works on: `pc`, the arguments and return
addresses it pushed above those of its caller, how far it read past the base of the
input window, the line so far and the events it sent. -/
structure SymState where
  pc : Fin 65536
  args : List SymV
  ctl : List (Fin 65536)
  head : Nat
  line : List Piece
  events : List SymEvent
  deriving DecidableEq, Repr

/-- How a run ends: by returning from the subroutine it started in, or at a stop
address. -/
inductive Outcome
  | ret (s : SymState)
  | stop (s : SymState)
  deriving DecidableEq, Repr

/-- What the executor assumes: numbers and Booleans whose value is known, and pairs of
numbers known to be ordered. -/
structure Facts where
  nums : List (NumE × Number)
  bools : List (BoolE × Bool)
  les : List (NumE × NumE)

/-- The value of a known number. -/
def Facts.resolveNum (F : Facts) (e : NumE) : NumE :=
  match F.nums.lookup e with
  | some n => .lit n
  | none => e

/-- The value of a known Boolean. -/
def Facts.resolve (F : Facts) (b : BoolE) : BoolE :=
  match F.bools.lookup b with
  | some v => .lit v
  | none => b

/-- The facts with `c = v` added. -/
def Facts.assume (F : Facts) (c : BoolE) (v : Bool) : Facts := { F with bools := (c, v) :: F.bools }

/-- Whether `a ≤ b` is known. -/
def Facts.knowsLe (F : Facts) (a b : NumE) : Bool :=
  (match a, b with
    | .lit m, .lit n => decide (m.val ≤ n.val)
    | _, _ => false) || F.les.contains (a, b)

/-! ## Constructors that fold literals -/

/-- Negation. -/
def mkNot : BoolE → BoolE
  | .lit b => .lit !b
  | .not b => b
  | b => .not b

/-- Conjunction. -/
def mkAnd : BoolE → BoolE → BoolE
  | .lit true, b => b
  | .lit false, _ => .lit false
  | a, .lit true => a
  | _, .lit false => .lit false
  | a, b => .and a b

/-- Disjunction. -/
def mkOr : BoolE → BoolE → BoolE
  | .lit true, _ => .lit true
  | .lit false, b => b
  | _, .lit true => .lit true
  | a, .lit false => a
  | a, b => .or a b

/-- Equality of numbers, decided on literals and on known facts. -/
def mkEq (F : Facts) : NumE → NumE → BoolE
  | .lit m, .lit n => .lit (decide (m = n))
  | a, b => F.resolve (.eq a b)

/-- Order of numbers, decided on literals and on known facts. -/
def mkLt (F : Facts) : NumE → NumE → BoolE
  | .lit m, .lit n => .lit (decide (m < n))
  | a, b => F.resolve (.lt a b)

/-- Sum. -/
def mkAdd : NumE → NumE → NumE
  | .lit m, .lit n => .lit (m + n)
  | a, b => .add a b

/-- Difference. -/
def mkSub : NumE → NumE → NumE
  | .lit m, .lit n => .lit (m - n)
  | a, b => .sub a b

/-- The Boolean that is `a` where `c` holds and `b` elsewhere. -/
def iteB (c a b : BoolE) : BoolE :=
  if a = .lit true ∧ b = .lit false then c
  else if a = .lit false ∧ b = .lit true then mkNot c
  else mkOr (mkAnd c a) (mkAnd (mkNot c) b)

/-- The argument that is `x` where `c` holds and `y` elsewhere. -/
def mergeV (c : BoolE) (x y : SymV) : SymV :=
  if x = y then x
  else
    match x, y with
    | .bool a, .bool b => .bool (iteB c a b)
    | _, _ => .ite c x y

/-- An event kept where `c` holds. -/
def SymEvent.guardWith (c : BoolE) (e : SymEvent) : SymEvent := { e with guard := mkAnd c e.guard }

/-- The merge of the end states of two branches of a jump on `c`: they must have read as
far and hold the same line; the arguments are merged one by one and the events of each
branch kept under its condition. -/
def merge (c : BoolE) (t₁ t₂ : SymState) : Option SymState :=
  if t₁.args.length = t₂.args.length ∧ t₁.head = t₂.head ∧ t₁.line = t₂.line then
    some { t₁ with
      args := List.zipWith (mergeV c) t₁.args t₂.args
      events := t₁.events.map (SymEvent.guardWith c) ++ t₂.events.map (SymEvent.guardWith (mkNot c)) }
  else none

/-! ## The executor -/

/-- A program as a search tree over addresses, so that an instruction is found in a few
comparisons. -/
inductive PTree
  | leaf (i : Instruction)
  | node (mid : Nat) (l r : PTree)

/-- The instruction at an address. -/
def PTree.get : PTree → Nat → Instruction
  | .leaf i, _ => i
  | .node mid l r, n => bif n.blt mid then l.get n else r.get n

/-- Pair neighbouring subtrees, each given with its first address. -/
def pairUp : List (Nat × PTree) → List (Nat × PTree)
  | (a, l) :: (b, r) :: rest => (a, .node b l r) :: pairUp rest
  | rest => rest

/-- Join subtrees, each given with its first address, by pairing them `d` times at most. -/
def joinUp : Nat → List (Nat × PTree) → PTree
  | 0, l => (l.headD (0, .leaf ⟨0, 0, .bool false⟩)).2
  | _ + 1, [x] => x.2
  | d + 1, l => joinUp d (pairUp l)

/-- The tree of a program of at most `2 ^ 10` instructions. -/
def PTree.ofList (l : List Instruction) : PTree := joinUp 10 (l.enum.map fun p => (p.1, .leaf p.2))

/-- The opcode of an instruction word, found by comparisons: `Opcode.ofCode` read as a
search (`decodeOp_eq`). -/
def decodeOp (n : Nat) : Option Opcode :=
  bif n.blt 12 then
    bif n.blt 6 then
      bif n.blt 3 then (bif n.beq 1 then some .add else bif n.beq 2 then some .and else none)
      else bif n.beq 3 then some .call else bif n.beq 4 then some .dup else some .eq
    else
      bif n.blt 9 then (bif n.beq 6 then some .flush else bif n.beq 7 then some .gt else some .halt)
      else bif n.beq 9 then some .jmpif else bif n.beq 10 then some .lt else some .not
  else
    bif n.blt 18 then
      bif n.blt 15 then (bif n.beq 12 then some .or else bif n.beq 13 then some .output else some .pop)
      else bif n.beq 15 then some .pushb else bif n.beq 16 then some .pushn else some .pushs
    else
      bif n.blt 21 then (bif n.beq 18 then some .input else bif n.beq 19 then some .return else some .rewind)
      else bif n.beq 21 then some .roll else bif n.beq 22 then some .sub else none

/-- What a run is given: the program as a tree, the addresses whose pushed literal is a
term (a constant the program is parametrised by), its string table, where to stop, and
what the caller guarantees: free stack slots, readable bytes past the base, room on the
output line, and bounds of the unknowns.  The program itself is not part of it, so that a
run of a program with parameters is a closed term. -/
structure Code where
  tree : PTree
  lits : List (Nat × SymV)
  numInstructions : Fin 65536
  strings : List String
  lens : List Nat
  stops : List (Fin 65536)
  room : Nat
  limit : Nat
  lineMax : Nat
  varBound : Nat → Nat
  canReturn : Bool

/-- A bound of a number. -/
def NumE.bound (K : Code) (F : Facts) : NumE → Nat
  | .lit n => n.val
  | .var i => K.varBound i
  | .field _ w => 256 ^ w - 1
  | .add a b => a.bound K F + b.bound K F
  | .sub a b => if F.knowsLe b a then a.bound K F else numMax.val

/-- A bound of the number of decimal digits of the numbers up to `n`. -/
def digitsBound (n : Nat) : Nat :=
  if n < 10 then 1 else if n < 100 then 2 else if n < 1000 then 3 else 10

/-- A bound of the length of a piece of a line. -/
def Piece.lenBound (K : Code) (F : Facts) : Piece → Nat
  | .str s => K.lens.getD s.val 0
  | .num e => digitsBound (e.bound K F)

/-- A bound of the length of a line. -/
def lineBound (K : Code) (F : Facts) (ps : List Piece) : Nat := (ps.map (Piece.lenBound K F)).sum

/-- The argument a literal pushes. -/
def SymV.ofValue : Value → Option SymV
  | .bool b => some (.bool (.lit b))
  | .num n => some (.num (.lit n))
  | .str s => some (.str s)
  | .pc _ => none

/-- `k` numbers off the top. -/
def popNums : Nat → List SymV → Option (List NumE × List SymV)
  | 0, l => some ([], l)
  | k + 1, .num e :: l => (popNums k l).map fun r => (e :: r.1, r.2)
  | _ + 1, _ => none

/-- `k` Booleans off the top. -/
def popBools : Nat → List SymV → Option (List BoolE × List SymV)
  | 0, l => some ([], l)
  | k + 1, .bool b :: l => (popBools k l).map fun r => (b :: r.1, r.2)
  | _ + 1, _ => none

section Ops

variable (K : Code) (F : Facts)

/-- Push, if the frame has room. -/
def push (v : SymV) (s : SymState) : Option SymState :=
  if s.args.length + s.ctl.length + 1 ≤ K.room then some { s with args := v :: s.args } else none

/-- `ADD` and `SUB`, when the operands' bounds or the facts rule out a wrap. -/
def addSubOp (addFlag : Bool) (s : SymState) : Option SymState :=
  match s.args with
  | .num b :: .num a :: rest =>
    if addFlag then
      if a.bound K F + b.bound K F ≤ numMax.val then push K (.num (mkAdd a b)) { s with args := rest }
      else none
    else if F.knowsLe b a then push K (.num (mkSub a b)) { s with args := rest }
    else none
  | _ => none

/-- `AND(n)` and `OR(n)`. -/
def andOrOp (n : Nat) (andFlag : Bool) (s : SymState) : Option SymState :=
  if n < 2 then none
  else
    match s.args with
    | .bool a :: rest =>
      match popBools (n - 1) rest with
      | some (bs, rest') =>
        push K (.bool (bs.foldl (fun acc b => if andFlag then mkAnd acc b else mkOr acc b) a))
          { s with args := rest' }
      | none => none
    | _ => none

/-- `EQ(n)`. -/
def eqOp (n : Nat) (s : SymState) : Option SymState :=
  if n < 2 then none
  else
    match s.args with
    | .num a :: rest =>
      match popNums (n - 1) rest with
      | some (bs, rest') =>
        push K (.bool (bs.foldl (fun acc b => mkAnd acc (mkEq F a b)) (.lit true)))
          { s with args := rest' }
      | none => none
    | _ => none

/-- `LT` and `GT`. -/
def ltGtOp (ltFlag : Bool) (s : SymState) : Option SymState :=
  match s.args with
  | .num b :: .num a :: rest =>
    push K (.bool (if ltFlag then mkLt F a b else mkLt F b a)) { s with args := rest }
  | _ => none

/-- `NOT`. -/
def notOp (s : SymState) : Option SymState :=
  match s.args with
  | .bool a :: rest => push K (.bool (mkNot a)) { s with args := rest }
  | _ => none

/-- `DUP(n)`. -/
def dupOp (n : Nat) (s : SymState) : Option SymState :=
  if 1 ≤ n ∧ n ≤ s.args.length ∧ s.args.length + s.ctl.length + n ≤ K.room then
    some { s with args := s.args.take n ++ s.args }
  else none

/-- `POP(n)`. -/
def popOp (n : Nat) (s : SymState) : Option SymState :=
  if 1 ≤ n ∧ n ≤ s.args.length then some { s with args := s.args.drop n } else none

/-- `ROLL(n)`. -/
def rollOp (n : Nat) (s : SymState) : Option SymState :=
  if 2 ≤ n ∧ n ≤ s.args.length then some { s with args := roll n s.args } else none

/-- `PUSHB`, `PUSHN` and `PUSHS`; `sym` is the term the code gives for the literal, if any. -/
def pushTypedOp (ty : ValueType) (literal : Value) (sym : Option SymV) (s : SymState) :
    Option SymState :=
  if literal.type = ty then (sym <|> SymV.ofValue literal).bind fun v => push K v s else none

/-- `INPUT(n)`, within the bytes the caller guarantees. -/
def inputOp (n : Nat) (s : SymState) : Option SymState :=
  if (n = 1 ∨ n = 2 ∨ n = 4) ∧ s.head + n ≤ K.limit then
    push K (.num (F.resolveNum (.field s.head n))) { s with head := s.head + n }
  else none

/-- `OUTPUT` of a string or a number, within the room on the line. -/
def outputOp (s : SymState) : Option SymState :=
  match s.args with
  | .str t :: rest =>
    if t.val < K.lens.length ∧ lineBound K F (s.line ++ [.str t]) ≤ K.lineMax then
      some { s with args := rest, line := s.line ++ [.str t] }
    else none
  | .num e :: rest =>
    if lineBound K F (s.line ++ [.num e]) ≤ K.lineMax then
      some { s with args := rest, line := s.line ++ [.num e] }
    else none
  | _ => none

/-- `FLUSH`. -/
def flushOp (s : SymState) : Option SymState :=
  match s.args with
  | .num a :: .num b :: rest =>
    if lineBound K F s.line ≤ K.lineMax then
      some { s with args := rest, line := [], events := s.events ++ [⟨.lit true, b, a, s.line⟩] }
    else none
  | _ => none

/-- An instruction with opcode `op` other than a jump, call, return or halt, with `pc`
already advanced; `sym` is the term the code gives for its literal, if any. -/
def symInstr (op : Opcode) (i : Instruction) (sym : Option SymV) (s : SymState) :
    Option SymState :=
  match op with
  | .add => addSubOp K F true s
  | .and => andOrOp K i.rep true s
  | .dup => dupOp K i.rep s
  | .eq => eqOp K F i.rep s
  | .flush => flushOp K F s
  | .gt => ltGtOp K F false s
  | .input => inputOp K F i.rep s
  | .lt => ltGtOp K F true s
  | .not => notOp K s
  | .or => andOrOp K i.rep false s
  | .output => outputOp K F s
  | .pop => popOp i.rep s
  | .pushb => pushTypedOp K .bool i.lit sym s
  | .pushn => pushTypedOp K .num i.lit sym s
  | .pushs => pushTypedOp K .str i.lit sym s
  | .roll => rollOp i.rep s
  | .sub => addSubOp K F false s
  | _ => none

end Ops

/-- The two branches of a jump on an undecided `c`, from `sJ` and from `sF`, each run by
`run` to the return of the subroutine `s` is in, merged, and continued after that return.
Each branch starts with the events and return addresses of `s` moved into its frame. -/
def fork (run : Code → Facts → SymState → Option Outcome) (K : Code) (F : Facts) (c : BoolE)
    (s sJ sF : SymState) : Option Outcome :=
  if (s.ctl ≠ [] ∨ K.canReturn = true) ∧ s.ctl.length ≤ K.room then
    let K' : Code := { K with canReturn := true, room := K.room - s.ctl.length }
    match run K' (F.assume c true) { sJ with ctl := [], events := [] },
        run K' (F.assume c false) { sF with ctl := [], events := [] } with
    | some (.ret t₁), some (.ret t₂) =>
      (merge c t₁ t₂).bind fun t =>
        match s.ctl with
        | r :: ctl => run K F { t with pc := r, ctl := ctl, events := s.events ++ t.events }
        | [] => some (.ret { t with events := s.events ++ t.events })
    | _, _ => none
  else none

/-- One instruction of a run, which `run` continues. -/
def execStep (run : Code → Facts → SymState → Option Outcome) (K : Code) (F : Facts)
    (s : SymState) : Option Outcome :=
  if s.pc ∈ K.stops then some (.stop s)
  else if ¬(s.pc < K.numInstructions) then none
  else
    let i := K.tree.get s.pc
    let sym := K.lits.lookup s.pc.val
    let s₁ : SymState := { s with pc := s.pc + 1 }
    match decodeOp i.op.val with
    | some .call =>
      match sym, i.lit with
      | none, .pc target =>
        if s₁.pc ≤ target ∧ s.args.length + s.ctl.length + 1 ≤ K.room then
          run K F { s₁ with pc := target, ctl := s₁.pc :: s.ctl }
        else none
      | _, _ => none
    | some .return =>
      match s.ctl with
      | r :: ctl => run K F { s₁ with pc := r, ctl := ctl }
      | [] => if K.canReturn then some (.ret s₁) else none
    | some .jmpif =>
      match sym, i.lit, s.args with
      | none, .pc offset, .bool c :: rest =>
        if offset.val < 2 then none
        else
          let sF : SymState := { s₁ with args := rest }
          let sJ : SymState := { sF with pc := s₁.pc + (offset - 1) }
          if offset.val ≤ 65535 - s₁.pc.val then
            match F.resolve c with
            | .lit false => run K F sF
            | .lit true => run K F sJ
            | c' => fork run K F c' s sJ sF
          else
            match F.resolve c with
            | .lit false => run K F sF
            | _ => none
      | _, _, _ => none
    | some .halt => none
    | some op => (symInstr K F op i sym s₁).bind (run K F)
    | none => none

/-- Run from `s` until the subroutine `s` is in returns or a stop address is reached. -/
def exec : Nat → Code → Facts → SymState → Option Outcome
  | 0, _, _, _ => none
  | fuel + 1, K, F, s => execStep (exec fuel) K F s

end Grunt.Sym
