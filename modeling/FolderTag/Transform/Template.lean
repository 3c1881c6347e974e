import FolderTag.Document.Misuse
import FolderTag.Regex.Expression
import FolderTag.Text.Class

/-! # Replacement templates

A template is a text in which `$` introduces what is put in for each match: a group by number or
name, the match, what is before or behind it, or a dollar sign. -/

namespace FolderTag.Transform

open FolderTag.Document FolderTag.Text

/-- A part of a template. -/
inductive TemplatePart where
  | char (c : Char)
  | whole
  | before
  | after
  | group (index : Nat)
deriving Repr, DecidableEq

/-- What a template can refer to: the number of groups and the names of some. -/
structure GroupScope where
  count : Nat
  names : List (String × Nat)
deriving Repr, DecidableEq

def GroupScope.ofExpression (e : Regex.Expression) : GroupScope := ⟨e.groupCount, e.names⟩

/-- The group that digits refer to. Every character must be a digit of some kind; one that is not
decimal has no value. -/
def GroupScope.numbered? (scope : GroupScope) (digits : List Char) : Except Misuse (Option Nat) :=
  if digits.isEmpty || !digits.all isDigitForm then .ok none
  else match digits.mapM decimalValue? with
    | none => .error (.notDecimal (String.ofList digits))
    | some ds =>
        let n := ds.foldl (fun n d => 10 * n + d) 0
        .ok (if 0 < n ∧ n ≤ scope.count then some n else none)

/-- The group that a text right behind a dollar sign refers to and the length of the reference: two
digits rather than one. -/
def GroupScope.reference? (scope : GroupScope) (s : List Char) :
    Except Misuse (Option (Nat × Nat)) := do
  let two ← if s.length < 2 then pure none else scope.numbered? (s.take 2)
  match two with
  | some n => return some (n, 2)
  | none => return (← scope.numbered? (s.take 1)).map (·, 1)

/-- The group named between angle brackets and the text behind them, for a text behind the first
bracket. -/
def GroupScope.named? (scope : GroupScope) (s : List Char) : Option (Nat × List Char) :=
  match s.dropWhile (· != '>') with
  | '>' :: rest =>
      (scope.names.lookup (String.ofList (s.takeWhile (· != '>')))).map (·, rest)
  | _ => none

/-- Reads a template; `fuel` is at least its length. -/
def readParts (scope : GroupScope) : Nat → List Char → Except Misuse (List TemplatePart)
  | 0, _ => .ok []
  | _, [] => .ok []
  | _, ['$'] => .ok [.char '$']
  | fuel + 1, '$' :: '$' :: rest => return .char '$' :: (← readParts scope fuel rest)
  | fuel + 1, '$' :: '&' :: rest => return .whole :: (← readParts scope fuel rest)
  | fuel + 1, '$' :: '\x60' :: rest => return .before :: (← readParts scope fuel rest)
  | fuel + 1, '$' :: '\'' :: rest => return .after :: (← readParts scope fuel rest)
  | fuel + 1, '$' :: '<' :: rest =>
      match scope.named? rest with
      | some (g, rest) => return .group g :: (← readParts scope fuel rest)
      | none => return .char '$' :: (← readParts scope fuel ('<' :: rest))
  | fuel + 1, '$' :: rest => do
      match ← scope.reference? rest with
      | some (g, n) => return .group g :: (← readParts scope fuel (rest.drop n))
      | none => return .char '$' :: (← readParts scope fuel rest)
  | fuel + 1, c :: rest => return .char c :: (← readParts scope fuel rest)

def readTemplate (scope : GroupScope) (template : List Char) : Except Misuse (List TemplatePart) :=
  readParts scope template.length template

/-- What a part stands for at a match. A group that took no part stands for nothing. -/
def TemplatePart.text (m : Regex.Match) : TemplatePart → List Char
  | .char c => [c]
  | .whole => m.whole
  | .before => m.before
  | .after => m.after
  | .group g => (m.group? g).getD []

def expand (scope : GroupScope) (template : List Char) (m : Regex.Match) :
    Except Misuse (List Char) := do
  return (← readTemplate scope template).flatMap (·.text m)

/-! ## Stored templates

A stored template should be a text. Where it is a list, its items are taken for its characters;
where it is a mapping, what it has under their numbers is. -/

/-- What stands at a position of a template that is no text. -/
def partAt (template : Value) (index : Nat) : Except Misuse Value :=
  let part := match template with
    | .list items => items[index]?
    | .map entries => Value.find? (.int index) entries
    | _ => none
  match part with
  | some v => .ok v
  | none => .error (.missingKey (.int index))

/-- What goes wrong where a number is looked for behind a dollar sign. -/
def noDigits (template : Value) : Misuse :=
  match template with
  | .map _ => .unhashable "slice"
  | v => .noPart v.kind "isdigit"

/-- What the last `left` parts of a template stand for, the first of them at `index`. A dollar sign
followed by a dollar sign or by a mark stands for what it stands for in a text. -/
def expandParts (scope : GroupScope) (template : Value) (m : Regex.Match) :
    (left index : Nat) → Except Misuse (List Value)
  | 0, _ => .ok []
  | 1, index => return [← partAt template index]
  | left + 2, index => do
      let v ← partAt template index
      if v.equal (.text "$") then
        let put := fun (s : List Char) => do
          return .text (String.ofList s) :: (← expandParts scope template m left (index + 2))
        match ← partAt template (index + 1) with
        | .text "$" => put ['$']
        | .text "&" => put m.whole
        | .text "\x60" => put m.before
        | .text "'" => put m.after
        | .text "<" =>
            .error (if scope.names.isEmpty then noDigits template else .noPart template.kind "find")
        | _ => .error (noDigits template)
      else return v :: (← expandParts scope template m (left + 1) (index + 1))

/-- Joins values that all have to be texts; `index` counts them. -/
def joinTexts (index : Nat) : List Value → Except Misuse (List Char)
  | [] => .ok []
  | .text s :: rest => return s.toList ++ (← joinTexts (index + 1) rest)
  | v :: _ => .error (.notTextItem index v.fullKind)

/-- What a stored template stands for at a match. -/
def expandStored (scope : GroupScope) (template : Value) (m : Regex.Match) :
    Except Misuse (List Char) :=
  match template with
  | .text s => expand scope s.toList m
  | .list items => do joinTexts 0 (← expandParts scope template m items.length 0)
  | .map entries => do joinTexts 0 (← expandParts scope template m entries.length 0)
  | v => .error (.noLength v.fullKind)

end FolderTag.Transform
