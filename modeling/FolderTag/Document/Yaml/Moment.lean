import FolderTag.Document.Value

/-! # Days and moments

A day is written as year, month and day between hyphens. A moment adds a time, and may add a
fraction of a second and a distance from universal time. -/

namespace FolderTag.Document

def isLeapYear (year : Nat) : Bool := (year % 4 = 0 && year % 100 ≠ 0) || year % 400 = 0

def daysOfMonth (year month : Nat) : Nat :=
  if month = 2 then (if isLeapYear year then 29 else 28)
  else if month = 4 ∨ month = 6 ∨ month = 9 ∨ month = 11 then 30
  else 31

def Day.isValid (d : Day) : Bool :=
  1 ≤ d.year && d.year ≤ 9999 && 1 ≤ d.month && d.month ≤ 12 && 1 ≤ d.day &&
    d.day ≤ daysOfMonth d.year d.month

def secondsOfDay : Nat := 86400

def Moment.isValid (m : Moment) : Bool :=
  m.day.isValid && m.hour < 24 && m.minute < 60 && m.second < 60 &&
    m.offset.all fun o => o.natAbs < secondsOfDay

namespace Yaml

/-- A written day or moment, whether it exists or not. -/
inductive Stamp where
  | day (d : Day)
  | moment (m : Moment)
deriving Repr, DecidableEq

namespace Stamp

/-- A reader of a part of a stamp. -/
abbrev Reader := StateT (List Char) Option

def char (c : Char) : Reader Unit
  | d :: cs => if d = c then some ((), cs) else none
  | [] => none

/-- Reads at least `least` and at most `most` digits. -/
def digits (least most : Nat) : Reader Nat := fun cs =>
  let ds := (cs.take most).takeWhile Char.isDigit
  if ds.length < least then none
  else some (ds.foldl (fun n d => 10 * n + (d.toNat - 48)) 0, cs.drop ds.length)

def isGap (c : Char) : Bool := c = ' ' || c = '\t'

/-- What stands between day and time: a letter or blanks. -/
def separator : Reader Unit
  | 'T' :: cs => some ((), cs)
  | 't' :: cs => some ((), cs)
  | c :: cs => if isGap c then some ((), cs.dropWhile isGap) else none
  | [] => none

/-- The millionth parts of a second that a fraction says; digits beyond the sixth do not count. -/
def fraction : Reader Nat
  | '.' :: cs =>
      let ds := (cs.takeWhile Char.isDigit).take 6
      let n := ds.foldl (fun n d => 10 * n + (d.toNat - 48)) 0
      some (n * Nat.pow 10 (6 - ds.length), cs.dropWhile Char.isDigit)
  | cs => some (0, cs)

/-- The minutes behind the hours of a distance. -/
def offsetMinutes : Reader Nat
  | ':' :: cs => digits 2 2 cs
  | cs => some (0, cs)

/-- The distance from universal time up to the end, in seconds. -/
def offset : Reader (Option Int) := fun cs =>
  match cs, cs.dropWhile isGap with
  | [], _ => some (none, [])
  | _, ['Z'] => some (some 0, [])
  | _, sign :: rest => do
      let ((hours, minutes), tail) ← (do return (← digits 1 2, ← offsetMinutes) : Reader _) rest
      let seconds : Int := 3600 * hours + 60 * minutes
      if sign = '+' ∧ tail = [] then some (some seconds, [])
      else if sign = '-' ∧ tail = [] then some (some (-seconds), [])
      else none
  | _, [] => none

def date : Reader Day := do
  let year ← digits 4 4
  char '-'
  let month ← digits 1 2
  char '-'
  return { year, month, day := ← digits 1 2 }

def time (d : Day) : Reader Stamp := do
  separator
  let hour ← digits 1 2
  char ':'
  let minute ← digits 2 2
  char ':'
  let second ← digits 2 2
  let microsecond ← fraction
  let offset ← offset
  return .moment { day := d, hour, minute, second, microsecond, offset }

def read? (text : List Char) : Option Stamp := do
  let (d, rest) ← date text
  if rest.isEmpty then return .day d else return (← time d rest).1

/-- A stamp that is recognised without being announced: a day alone has to have all its digits. -/
def recognise? (text : List Char) : Option Stamp :=
  match read? text with
  | some (.day d) => if text.length = 10 then some (.day d) else none
  | stamp => stamp

/-- The value of a stamp, if there is such a day or moment. -/
def value? : Stamp → Option Value
  | .day d => if d.isValid then some (.day d) else none
  | .moment m => if m.isValid then some (.moment m) else none

end Stamp

end Yaml

end FolderTag.Document
