import FolderTag.Command.Grammar

/-! # Reading command lines

Switches and operands may stand in any order. The operands of a grammar are taken from the first
run of operands; later runs are left over. -/

namespace FolderTag.Command

/-- What a command line says. -/
structure Reading where
  /-- The switches in their order, with their values. -/
  given : List (String × Option String) := []
  operands : Option (List String) := none
  /-- What nobody understands. -/
  extras : List String := []
deriving Repr, DecidableEq

namespace Reading

/-- The last value of a switch. -/
def value? (r : Reading) (key : String) : Option (Option String) := r.given.reverse.lookup key

def has (r : Reading) (key : String) : Bool := (r.value? key).isSome

end Reading

namespace Operands

/-- The number of separators that pieces begin with. -/
def leadingSeparators (ps : List Piece) : Nat := (ps.takeWhile (· = .separator)).length

/-- How many of some pieces are taken as operands; nothing where they do not begin with one. -/
def count (o : Operands) (ps : List Piece) : Option Nat :=
  let lead := leadingSeparators ps
  match ps.drop lead with
  | .operand _ :: rest =>
      match o with
      | .nothing => none
      | .one _ => some (lead + 1 + leadingSeparators rest)
      | .several _ => some (lead + 1 + (rest.takeWhile fun p => !p.isSwitch).length)
      | .command .. => some ps.length
  | _ => none

/-- The operands that some pieces stand for. The first separator is dropped, but not before a
command, which is one of those that the grammar names. -/
def ofPieces (o : Operands) (ps : List Piece) : Except UsageError (List String) :=
  let texts := ps.map Piece.text
  match o, texts with
  | .command name commands, first :: _ =>
      if commands.contains first then .ok texts else .error (.notAChoice name first commands)
  | _, _ => .ok (texts.erase "--")

/-- The name of operands that must be there. -/
def needed? : Operands → Option String
  | .nothing => none
  | .one name => some name
  | .several name => some name
  | .command name _ => some name

end Operands

namespace Grammar

/-- A value that is a separator alone says nothing. -/
def spokenValue (value : String) : Option String := if value = "--" then none else some value

def settle (g : Grammar) (s : Switch) (value : Option String) (r : Reading) : Except Stop Reading :=
  match value with
  | some v =>
      if s.choices.isEmpty || s.choices.contains v then .ok { r with given := r.given ++ [(s.key, value)] }
      else .error (.usage g.program (.notAChoice s.label v s.choices))
  | none =>
      if s.ends then .error (.asked g.program s.key)
      else .ok { r with given := r.given ++ [(s.key, none)] }

def settleAll (g : Grammar) (r : Reading) : List (Switch × Option String) → Except Stop Reading
  | [] => .ok r
  | (s, v) :: rest => do g.settleAll (← g.settle s v r) rest

/-- The switches of one piece, where the letters behind a switch of one letter are its value or, if
it takes none, switches in turn. The last switch is separate while it may have its value in the
next piece. -/
def cluster (g : Grammar) (short : Bool) (s : Switch) :
    List Char → Except UsageError (List (Switch × Option String) × Option Switch)
  | [] =>
      if s.takesValue then .ok ([(s, some "")], none) else .error (.valueIgnored s.label "")
  | c :: cs =>
      let value := String.ofList (c :: cs)
      if s.takesValue then .ok ([(s, spokenValue value)], none)
      else if !short then .error (.valueIgnored s.label value)
      else
        match g.find? (String.ofList ['-', c]) with
        | none => .error (.valueIgnored s.label value)
        | some t =>
            if cs.isEmpty then .ok ([(s, none)], some t)
            else do
              let (done, last) ← g.cluster short t cs
              return ((s, none) :: done, last)

/-- The value of a switch in the pieces behind it. -/
def followingValue (s : Switch) (rest : List Piece) :
    Except UsageError (Option String × List Piece) :=
  if s.takesValue then
    match rest with
    | .operand v :: rest => .ok (some v, rest)
    | _ => .error (.valueMissing s.label)
  else .ok (none, rest)

/-- The switches that a written switch stands for, with their values, and what is left of the pieces
behind it. -/
def expand (g : Grammar) (w : Written) (rest : List Piece) :
    Except UsageError (List (Switch × Option String) × List Piece) := do
  let (done, last) ← match w.value with
    | some v => g.cluster (w.name.toList.take 2 ≠ ['-', '-']) w.switch v.toList
    | none => pure ([], some w.switch)
  match last with
  | none => return (done, rest)
  | some s =>
      let (value, rest) ← followingValue s rest
      return (done ++ [(s, value)], rest)

def takeOperands (g : Grammar) (ps : List Piece) (r : Reading) : Except Stop Reading := do
  let operands ← (g.operands.ofPieces ps).mapError (.usage g.program)
  return { r with operands := some operands }

/-- How many pieces are taken as operands next. -/
def nextOperands (g : Grammar) (ps : List Piece) (r : Reading) : Option Nat :=
  if r.operands.isSome then none else g.operands.count ps

/-- Reads pieces among which there is no switch any more. -/
def finish (g : Grammar) (ps : List Piece) (r : Reading) : Except Stop Reading := do
  let n := (g.nextOperands ps r).getD 0
  let r ← if n = 0 then pure r else g.takeOperands (ps.take n) r
  let r := { r with extras := r.extras ++ (ps.drop n).map Piece.text }
  match g.operands.needed? with
  | some name =>
      if r.operands.isNone then throw (.usage g.program (.operandMissing name)) else return r
  | none => return r

/-- Reads pieces; `fuel` is at least their number. -/
def readPieces (g : Grammar) : (fuel : Nat) → List Piece → Reading → Except Stop Reading
  | 0, ps, r => g.finish ps r
  | fuel + 1, ps, r =>
      if !ps.any Piece.isSwitch then g.finish ps r
      else
        match ps with
        | .switch s none :: rest => g.readPieces fuel rest { r with extras := r.extras ++ [s] }
        | .switch _ (some w) :: rest => do
            let (settled, rest) ← (g.expand w rest).mapError (.usage g.program)
            g.readPieces fuel rest (← g.settleAll r settled)
        | ps =>
            match g.nextOperands ps r with
            | some n => do g.readPieces fuel (ps.drop n) (← g.takeOperands (ps.take n) r)
            | none =>
                let run := ps.takeWhile fun p => !p.isSwitch
                g.readPieces fuel (ps.drop run.length)
                  { r with extras := r.extras ++ run.map Piece.text }

def read (g : Grammar) (arguments : List String) : Except Stop Reading := do
  let ps ← (g.pieces arguments).mapError (.usage g.program)
  g.readPieces ps.length ps {}

end Grammar

end FolderTag.Command
