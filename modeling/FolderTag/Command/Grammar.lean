import FolderTag.Document.Display
import FolderTag.Text.Class

/-! # Command lines

A command line consists of switches, which begin with a dash, and operands. A grammar says which
switches there are and how many operands are expected. -/

namespace FolderTag.Command

open FolderTag.Document

/-- A switch. -/
structure Switch where
  key : String
  /-- How the switch is written. -/
  names : List String
  takesValue : Bool := false
  /-- The values that it may have; where none is named, any. -/
  choices : List String := []
  /-- Whether nothing else counts once it is read. -/
  ends : Bool := false
deriving Repr, DecidableEq

def Switch.label (s : Switch) : String := "/".intercalate s.names

/-- What is expected besides switches. -/
inductive Operands where
  | nothing
  | one (name : String)
  | several (name : String)
  /-- A command with all that follows it. -/
  | command (name : String) (commands : List String)
deriving Repr, DecidableEq

/-- What a program or one of its commands understands. -/
structure Grammar where
  program : String
  switches : List Switch
  operands : Operands
deriving Repr, DecidableEq

/-- Why a command line is refused. -/
inductive UsageError where
  | ambiguous (argument : String) (matching : List String)
  | valueMissing (label : String)
  | valueIgnored (label value : String)
  | notAChoice (label value : String) (choices : List String)
  | operandMissing (name : String)
  | unknown (arguments : List String)
deriving Repr, DecidableEq

def UsageError.message : UsageError → String
  | .ambiguous argument matching =>
      "ambiguous option: " ++ argument ++ " could match " ++ ", ".intercalate matching
  | .valueMissing label => "argument " ++ label ++ ": expected one argument"
  | .valueIgnored label value =>
      "argument " ++ label ++ ": ignored explicit argument " ++ Text.quotedString value
  | .notAChoice label value choices =>
      "argument " ++ label ++ ": invalid choice: " ++ Text.quotedString value ++ " (choose from " ++
        ", ".intercalate (choices.map Text.quotedString) ++ ")"
  | .operandMissing name => "the following arguments are required: " ++ name
  | .unknown arguments => "unrecognized arguments: " ++ " ".intercalate arguments

/-- Why the reading of a command line ends early. -/
inductive Stop where
  | usage (program : String) (e : UsageError)
  /-- A switch that stands for all. -/
  | asked (program key : String)
deriving Repr, DecidableEq

/-! ## Pieces -/

/-- A switch as it is written, with a value behind it in the same piece. -/
structure Written where
  switch : Switch
  name : String
  value : Option String
deriving Repr, DecidableEq

/-- A piece of a command line. -/
inductive Piece where
  /-- Behind it all pieces are operands. -/
  | separator
  | operand (s : String)
  /-- A switch, if the grammar knows it. -/
  | switch (s : String) (known : Option Written)
deriving Repr, DecidableEq

namespace Piece

def isSwitch : Piece → Bool
  | .switch .. => true
  | _ => false

def text : Piece → String
  | .separator => "--"
  | .operand s => s
  | .switch s _ => s

end Piece

/-- Whether a text is a negative number: digits, and perhaps a point with digits behind it. A line
break may follow. -/
def isNegativeNumber (s : List Char) : Bool :=
  match if s.getLast? = some '\n' then s.dropLast else s with
  | '-' :: cs =>
      match cs.dropWhile Text.isDecimal with
      | [] => !cs.isEmpty
      | '.' :: ds => !ds.isEmpty && ds.all Text.isDecimal
      | _ => false
  | _ => false

namespace Grammar

def find? (g : Grammar) (name : String) : Option Switch := g.switches.find? fun s => s.names.contains name

def allNames (g : Grammar) : List (String × Switch) :=
  g.switches.flatMap fun s => s.names.map (·, s)

/-- Splits an argument at its first equals sign. -/
def splitValue (argument : List Char) : List Char × Option String :=
  let name := argument.takeWhile (· ≠ '=')
  match argument.drop name.length with
  | _ :: value => (name, some (String.ofList value))
  | [] => (name, none)

/-- The switches that an argument may stand for: those whose long name it begins, or the one of a
single letter, which has its value right behind it. -/
def candidates (g : Grammar) (argument : List Char) : List Written :=
  if argument.take 2 = ['-', '-'] then
    let (start, value) := splitValue argument
    g.allNames.filterMap fun (name, s) =>
      if start.isPrefixOf name.toList then some ⟨s, name, value⟩ else none
  else
    g.allNames.filterMap fun (name, s) =>
      if name.toList = argument.take 2 then some ⟨s, name, some (String.ofList (argument.drop 2))⟩
      else if argument.isPrefixOf name.toList then some ⟨s, name, none⟩
      else none

/-- The switch that an argument names exactly, perhaps with a value behind an equals sign. -/
def named? (g : Grammar) (argument : String) : Option Written :=
  match g.find? argument with
  | some s => some ⟨s, argument, none⟩
  | none =>
      match splitValue argument.toList with
      | (name, some value) =>
          let name := String.ofList name
          (g.find? name).map fun s => ⟨s, name, some value⟩
      | _ => none

/-- What an argument before the separator is. -/
def piece (g : Grammar) (argument : String) : Except UsageError Piece :=
  match argument.toList with
  | '-' :: c :: cs =>
      match g.named? argument with
      | some w => .ok (.switch argument (some w))
      | none =>
          match g.candidates ('-' :: c :: cs) with
          | [w] => .ok (.switch argument (some w))
          | [] =>
              if isNegativeNumber ('-' :: c :: cs) || (c :: cs).contains ' ' then
                .ok (.operand argument)
              else .ok (.switch argument none)
          | ws => .error (.ambiguous argument (ws.map (·.name)))
  | _ => .ok (.operand argument)

def pieces (g : Grammar) : List String → Except UsageError (List Piece)
  | [] => .ok []
  | a :: rest =>
      if a = "--" then .ok (.separator :: rest.map .operand)
      else do
        let p ← g.piece a
        return p :: (← g.pieces rest)

end Grammar

end FolderTag.Command
