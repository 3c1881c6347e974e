import FolderTag.Regex.Parser

/-! # The ECMAScript dialect

Stored patterns may be written in the ECMAScript dialect of regular expressions. Its named groups
and code point escapes are spelled in another way, and its shorthand classes stop at ASCII. -/

namespace FolderTag.Pattern

/-- Writes `(?<name>` as `(?P<name>`. Lookbehinds and escaped parentheses stay. `escaped` tells
whether a backslash stands right before. -/
def renameGroups (escaped : Bool) : List Char → List Char
  | '(' :: '?' :: '<' :: cs =>
      let lookbehind := cs.head? == some '=' || cs.head? == some '!'
      if escaped || lookbehind then '(' :: '?' :: '<' :: renameGroups false cs
      else '(' :: '?' :: 'P' :: '<' :: renameGroups false cs
  | c :: cs => c :: renameGroups (c == '\\') cs
  | [] => []

/-- The upper case hexadecimal digits of `n`, at least eight of them. -/
def eightHexDigits (n : Nat) : List Char :=
  let ds := (Nat.toDigits 16 n).map Char.toUpper
  List.replicate (8 - ds.length) '0' ++ ds

/-- The code point of an escape whose text behind the opening brace is `cs`, and the number of
characters up to and including the closing brace. -/
def bracedCodePoint? (cs : List Char) : Option (Nat × Nat) :=
  let ds := cs.takeWhile Regex.isHex
  if 1 ≤ ds.length ∧ ds.length ≤ 6 ∧ cs[ds.length]? = some '\x7d' then
    some (Regex.numberIn 16 ds, ds.length + 1)
  else none

/-- Writes code point escapes in braces with eight digits. The first argument counts characters of
an escape that has been written already. -/
def widenCodePoints : Nat → List Char → List Char
  | _, [] => []
  | skip + 1, _ :: cs => widenCodePoints skip cs
  | 0, '\\' :: 'u' :: '\x7b' :: cs =>
      match bracedCodePoint? cs with
      | some (n, size) => '\\' :: 'U' :: (eightHexDigits n ++ widenCodePoints (2 + size) ('u' :: '\x7b' :: cs))
      | none => '\\' :: widenCodePoints 0 ('u' :: '\x7b' :: cs)
  | 0, c :: cs => c :: widenCodePoints 0 cs

/-- A pattern of the ECMAScript dialect in the syntax that `Regex.compile` reads. -/
def translateChars (pattern : List Char) : List Char := widenCodePoints 0 (renameGroups false pattern)

def translate (pattern : String) : String := String.ofList (translateChars pattern.toList)

/-- The members of a shorthand class inside brackets, limited to ASCII. -/
def asciiMembers? : Char → Option (List Char)
  | 'w' => some "a-zA-Z0-9_".toList
  | 'd' => some "0-9".toList
  | _ => none

/-- Whether an escape outside brackets depends on the alphabet. -/
def dependsOnAlphabet (c : Char) : Bool := "wWdDbB".toList.contains c

/-- Limits shorthand classes and word boundaries to ASCII; `inSet` tells whether a bracket is
open. Negated classes inside brackets and white space keep their meaning. -/
def restrictChars (inSet : Bool) : List Char → List Char
  | '\\' :: c :: cs =>
      let written :=
        match inSet, asciiMembers? c with
        | true, some members => members
        | true, none => ['\\', c]
        | false, _ =>
            if dependsOnAlphabet c then "(?a:".toList ++ ['\\', c, ')'] else ['\\', c]
      written ++ restrictChars inSet cs
  | c :: cs => c :: restrictChars (if inSet then c != ']' else c == '[') cs
  | [] => []

def restrictToAscii (pattern : String) : String :=
  String.ofList (restrictChars false pattern.toList)

end FolderTag.Pattern
