import FolderTag.Document.Value
import FolderTag.Number.Shortest
import FolderTag.Text.Quoted

/-! # Values in messages

How a value is shown inside a message: texts quoted, containers with brackets around the quoted
forms of their parts. A text or day that stands alone is shown without quotes. -/

namespace FolderTag.Document

open FolderTag.Text

/-- The decimal digits of `n`, at least `width` of them. -/
def paddedDigits (width n : Nat) : List Char :=
  let ds := Nat.toDigits 10 n
  List.replicate (width - ds.length) '0' ++ ds

/-- The digits of a whole number, behind a minus for a negative one. -/
def intText (n : Int) : List Char :=
  (if n < 0 then ['-'] else []) ++ Nat.toDigits 10 n.natAbs

/-- Year, month and day between hyphens. -/
def Day.text (d : Day) : List Char :=
  paddedDigits 4 d.year ++ '-' :: (paddedDigits 2 d.month ++ '-' :: paddedDigits 2 d.day)

def offsetText (seconds : Int) : List Char :=
  let n := seconds.natAbs
  (if seconds < 0 then '-' else '+') :: (paddedDigits 2 (n / 3600) ++
    ':' :: (paddedDigits 2 (n / 60 % 60) ++ if n % 60 = 0 then [] else ':' :: paddedDigits 2 (n % 60)))

def Moment.text (m : Moment) : List Char :=
  m.day.text ++ ' ' :: (paddedDigits 2 m.hour ++ ':' :: (paddedDigits 2 m.minute ++
    ':' :: (paddedDigits 2 m.second ++
      (if m.microsecond = 0 then [] else '.' :: paddedDigits 6 m.microsecond) ++
      (m.offset.map offsetText).getD [])))

def commaSeparated (parts : List (List Char)) : List Char := [',', ' '].intercalate parts

/-- The constructor form of a distance from universal time. -/
def offsetForm (seconds : Int) : List Char :=
  if seconds = 0 then "datetime.timezone.utc".toList
  else
    let days := seconds.fdiv 86400
    let rest := seconds.fmod 86400
    let dayPart := if days = 0 then [] else ["days=".toList ++ intText days]
    let restPart := if rest = 0 then [] else ["seconds=".toList ++ intText rest]
    "datetime.timezone(datetime.timedelta(".toList ++ commaSeparated (dayPart ++ restPart) ++
      "))".toList

def Day.constructorForm (d : Day) : List Char :=
  "datetime.date(".toList ++
    commaSeparated [intText d.year, intText d.month, intText d.day] ++ [')']

/-- The constructor form of a moment; seconds and microseconds are left out from the end while
they are zero. -/
def Moment.constructorForm (m : Moment) : List Char :=
  let clock := [intText m.hour, intText m.minute] ++
    (if m.second = 0 ∧ m.microsecond = 0 then []
     else intText m.second :: if m.microsecond = 0 then [] else [intText m.microsecond])
  let zone := (m.offset.map fun o => ["tzinfo=".toList ++ offsetForm o]).getD []
  "datetime.datetime(".toList ++ commaSeparated
    ([intText m.day.year, intText m.day.month, intText m.day.day] ++ clock ++ zone) ++ [')']

mutual

def Value.quoted : Value → List Char
  | .null => "None".toList
  | .bool true => "True".toList
  | .bool false => "False".toList
  | .int n => intText n
  | .float x => Number.floatText x
  | .text s => Text.quoted s.toList
  | .list items => '[' :: (commaSeparated (quotedItems items) ++ [']'])
  | .map entries => '\x7b' :: (commaSeparated (quotedEntries entries) ++ ['\x7d'])
  | .day d => d.constructorForm
  | .moment m => m.constructorForm

def quotedItems : List Value → List (List Char)
  | [] => []
  | v :: vs => v.quoted :: quotedItems vs

def quotedEntries : List (Value × Value) → List (List Char)
  | [] => []
  | (k, v) :: rest => (k.quoted ++ ':' :: ' ' :: v.quoted) :: quotedEntries rest

end

/-- The form of a value that stands alone in a message. -/
def Value.shown : Value → List Char
  | .text s => s.toList
  | .day d => d.text
  | .moment m => m.text
  | v => v.quoted

def Value.quotedString (v : Value) : String := String.ofList v.quoted

def Value.shownString (v : Value) : String := String.ofList v.shown

def quotedList (texts : List String) : String := (Value.list (texts.map .text)).quotedString

end FolderTag.Document
