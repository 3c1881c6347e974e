import FolderTag.Document.Yaml.Style
import FolderTag.Text.Quoted

/-! # Long texts

A text that runs over the end of a line is folded at a blank, and goes on in the next line behind
the indentation. -/

namespace FolderTag.Document.Yaml

/-- The column behind which a text is folded. -/
def lineWidth : Nat := 80

/-- A line break and the indentation of the next line. -/
def newLine (indent : Nat) : List Char := '\n' :: List.replicate indent ' '

/-- The parts that folding looks at: runs of blanks, runs of line breaks, and all else. -/
def runClass (c : Char) : Nat := if c = ' ' then 1 else if isTextBreak c then 2 else 0

def runs (s : List Char) : List (List Char) := s.splitBy fun a b => runClass a = runClass b

/-- The line breaks of a text between single quotes. A break of its own would be read as a blank,
so one more stands before it. -/
def writtenBreaks (run : List Char) : List Char := if run.head? = some '\n' then '\n' :: run else run

/-- Single quotes inside of single quotes are written twice. -/
def doubledQuotes (s : List Char) : List Char := s.flatMap fun c => if c = '\'' then [c, c] else [c]

/-- The runs of a text from a column on. A single blank is folded, but neither the first nor the
last run of a text. -/
def foldRuns (indent : Nat) (wordForm : List Char → List Char) :
    Bool → Nat → List (List Char) → List Char
  | _, _, [] => []
  | first, column, run :: rest =>
      if run.head?.any (· = ' ') then
        if run.length = 1 ∧ column > lineWidth ∧ !first ∧ !rest.isEmpty then
          newLine indent ++ foldRuns indent wordForm false indent rest
        else run ++ foldRuns indent wordForm false (column + run.length) rest
      else if run.any isTextBreak then
        writtenBreaks run ++ List.replicate indent ' ' ++ foldRuns indent wordForm false indent rest
      else
        let word := wordForm run
        word ++ foldRuns indent wordForm false (column + word.length) rest

/-- A plain text from a column on. -/
def plainForm (indent column : Nat) (s : List Char) : List Char :=
  foldRuns indent id true column (runs s)

/-- A text between single quotes, of which the first stands at a column. -/
def singleForm (indent column : Nat) (s : List Char) : List Char :=
  '\'' :: (foldRuns indent doubledQuotes true (column + 1) (runs s) ++ ['\''])

/-- The characters that have an escape of one letter. -/
def shortEscapes : List (Char × Char) :=
  [('\x00', '0'), ('\x07', 'a'), ('\x08', 'b'), ('\t', 't'), ('\n', 'n'), ('\x0b', 'v'), ('\x0c', 'f'),
    ('\r', 'r'), ('\x1b', 'e'), ('"', '"'), ('\\', '\\'), ('\x85', 'N'), ('\u2028', 'L'),
    ('\u2029', 'P')]

/-- Whether a character stands for itself between double quotes. -/
def isBare (c : Char) : Bool :=
  ((' ' ≤ c && c ≤ '~') || ('\xa0' ≤ c && c ≤ '\ufffd')) &&
    !(['"', '\\', '\u2028', '\u2029', '\ufeff'].contains c)

def escapeForm (c : Char) : List Char :=
  let digits := fun width => (Text.hexDigits width c.toNat).map Char.toUpper
  match shortEscapes.lookup c with
  | some e => ['\\', e]
  | none =>
      if c.toNat < 0x100 then '\\' :: 'x' :: digits 2
      else if c.toNat < 0x10000 then '\\' :: 'u' :: digits 4
      else '\\' :: 'U' :: digits 8

/-- The inside of double quotes. A line may end before a blank or behind an escape; a blank that
begins the next line is escaped, so that it counts. -/
def doubleBody (indent : Nat) (fold : Bool) : (first behindEscape : Bool) → Nat → List Char →
    List Char
  | _, _, _, [] => []
  | first, behindEscape, column, c :: cs =>
      let inside := fold && !first && !cs.isEmpty
      if isBare c then
        if inside && (c = ' ' || behindEscape) && column > lineWidth then
          let lead := if c = ' ' then ['\\'] else []
          '\\' :: (newLine indent ++ lead ++
            c :: doubleBody indent fold false false (indent + lead.length + 1) cs)
        else c :: doubleBody indent fold false false (column + 1) cs
      else
        let e := escapeForm c
        if inside && column + e.length > lineWidth + 1 then
          let lead := if cs.head? = some ' ' then ['\\'] else []
          e ++ '\\' :: (newLine indent ++ lead ++
            doubleBody indent fold false true (indent + lead.length) cs)
        else e ++ doubleBody indent fold false true (column + e.length) cs

/-- A text between double quotes, of which the first stands at a column. -/
def doubleForm (indent : Nat) (fold : Bool) (column : Nat) (s : List Char) : List Char :=
  '"' :: (doubleBody indent fold true false (column + 1) s ++ ['"'])

end FolderTag.Document.Yaml
