import FolderTag.Document.Json.Reader
import FolderTag.Document.Json.Writer
import FolderTag.Document.Yaml.Reader
import FolderTag.Document.Yaml.Writer
import FolderTag.Settings.RuleSet
import FolderTag.Text.Case

/-! # Stored rule sets

The name of a file says whether it holds JSON; every other file holds a block document. -/

namespace FolderTag.Settings

open FolderTag.Document FolderTag.Files

def isJson (p : Path) : Bool :=
  match p.getLast? with
  | some name => Text.lower (Path.ending name.toList) = ".json".toList
  | none => false

def readText (bytes : ByteArray) : Except Fault (List Char) :=
  match textOf? bytes with
  | some s => .ok s
  | none => .error .notText

def readBlock (path : String) (text : List Char) : Except Fault Linked :=
  match Yaml.read text with
  | .ok t => .ok t
  | .error (.malformed cause) => refuse (.badYaml path cause)
  | .error (.noValue why) => .error (.noValue why)

def readJson (path : String) (text : List Char) : Except Fault Value :=
  match Json.read text with
  | .ok v => .ok v
  | .error (.malformed cause offset) => refuse (.badJson path (Json.malformedMessage text cause offset))
  | .error .tooManyDigits => .error (.noValue .noSuchThing)

end FolderTag.Settings

namespace FolderTag.RuleSet

open FolderTag.Document FolderTag.Files FolderTag.Settings

def load (files : Tree) (path : String) : Except Settings.Fault RuleSet := do
  let p := Path.ofString path
  if !files.has p then Settings.refuse (.noSettingsFile path)
  let bytes ← (files.read p).mapError fun t =>
    .refusal (.unreadable path (t.message p.toString))
  let text ← Settings.readText bytes
  let document ← if isJson p then readJson path text else Linked.value <$> readBlock path text
  match document with
  | .null | .map _ => ofValue document
  | _ => Settings.refuse (.noSettings path)

/-- The text of a rule set in a file of a name. -/
def fileText (p : Path) (document : Value) : List Char :=
  if isJson p then Json.write document else Yaml.write document

/-- What keeps a rule set from being written to a file of a name. -/
def obstacle? (p : Path) (document : Value) : Option Obstacle :=
  if isJson p then Json.obstacle? document else Yaml.obstacle? document

def obstacleFault : Obstacle → Settings.Fault
  | .tooManyDigits => .noValue .noSuchThing
  | .misuse m => .misuse m

/-- Writes a rule set to a file. The file is opened before the rule set is looked at. -/
def dump (s : RuleSet) (files : Tree) (path : String) : Except Settings.Fault Tree := do
  let p := Path.ofString path
  let document ← s.toValue.mapError .misuse
  let written ← (files.write p (String.ofList (fileText p document)).toUTF8).mapError fun t =>
    .refusal (.unwritable path (t.message p.toString))
  match obstacle? p document with
  | some obstacle => .error (obstacleFault obstacle)
  | none => return written

end FolderTag.RuleSet
