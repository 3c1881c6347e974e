import FolderTag.Document.Misuse
import FolderTag.Number.Reading

/-! # What cannot be written

A document may hold values that have no written form. Writing stops at the first of them. -/

namespace FolderTag.Document

/-- Why a value cannot be written. -/
inductive Obstacle where
  /-- A whole number has too many digits. -/
  | tooManyDigits
  | misuse (m : Misuse)

/-- A whole number with more digits than can be written. -/
def digitObstacle? : Value → Option Obstacle
  | .int n =>
      if Number.digitLimit < (Nat.toDigits 10 n.natAbs).length then some .tooManyDigits else none
  | _ => none

section

variable (key scalar : Value → Option Obstacle)

mutual

/-- The first obstacle in a value, where `key` finds those in keys and `scalar` those in values
without parts. -/
def Value.firstObstacle? : Value → Option Obstacle
  | .list items => itemObstacle? items
  | .map entries => entryObstacle? entries
  | v => scalar v

def itemObstacle? : List Value → Option Obstacle
  | [] => none
  | v :: vs => v.firstObstacle?.or (itemObstacle? vs)

def entryObstacle? : List (Value × Value) → Option Obstacle
  | [] => none
  | (k, v) :: rest => ((key k).or v.firstObstacle?).or (entryObstacle? rest)

end

end

/-- Whether no whole number in a value has too many digits to be shown in a message. -/
def Value.isShowable (v : Value) : Bool := (v.firstObstacle? digitObstacle? digitObstacle?).isNone

end FolderTag.Document
