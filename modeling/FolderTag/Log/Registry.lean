import FolderTag.Document.Misuse
import FolderTag.Log.Entry
import FolderTag.Text.Blank
import FolderTag.Text.Case

/-! # Loggers

A logger writes to the channel of its name. A channel knows from which rank on it takes entries, and
whether somebody listens to it; a channel without a rank of its own takes that of the channel above
it. Named values that hold for a while are shared by all loggers. -/

namespace FolderTag.Log

open FolderTag.Document

namespace Level

/-- The rank that a value asks for: the name of a level in any case, or a whole number. -/
def rankOf (v : Value) : Except Misuse Int :=
  match v with
  | .text s =>
      match ofName? (String.ofList (Text.upper s.toList)) with
      | some l => .ok l.rank
      | none => .error (.missingKey v)
  | v =>
      match v.whole? with
      | some n => .ok n
      | none => .error (.badArguments "a level is a name or a whole number")

end Level

/-- Where the entries of one name go. -/
structure Channel where
  /-- The least rank that is taken; zero asks the channel above. -/
  least : Int := 0
  isHeard : Bool := false

/-- A logger: its name, and a number that tells it from others of the same name. -/
structure Logger where
  number : Nat
  name : String
deriving Repr, DecidableEq

/-- All loggers of a program. -/
structure Registry where
  channels : List (String × Channel) := []
  /-- Named values that hold at the moment, from the outside in. -/
  frames : List Context := []
  /-- The logger that is shared by all. -/
  shared : Option Logger := none
  opened : Nat := 0

namespace Registry

/-- The name of the channel above all others. -/
def topName : String := "root"

/-- The name of the shared logger where none is asked for. -/
def sharedName : String := "dyntags"

def channelName (name : String) : String := if name = "" then topName else name

/-- The channels above a name, the nearest first. -/
def namesAbove (name : String) : List String :=
  let parts := Text.splitAt '.' name.toList
  ((List.range (parts.length - 1)).map fun n =>
    String.ofList (['.'].intercalate (parts.take (parts.length - 1 - n)))) ++ [topName]

/-- The channel of a name; the top channel begins with warnings. -/
def channel (r : Registry) (name : String) : Channel :=
  (r.channels.lookup name).getD
    (if name = topName then { least := (Level.warning.rank : Int) } else {})

def setChannel (r : Registry) (name : String) (c : Channel) : Registry :=
  { r with channels := (name, c) :: r.channels.filter fun (n, _) => n ≠ name }

/-- The least rank that the channel of a name takes. -/
def leastOf (r : Registry) (name : String) : Int :=
  let name := channelName name
  (((name :: namesAbove name).map fun n => (r.channel n).least).find? (· ≠ 0)).getD 0

/-- Opens a logger. Nobody hears its channel but, if `isHeard`, the one who opened it. -/
def openLogger (r : Registry) (name : String) (least : Int) (isHeard : Bool) : Logger × Registry :=
  let r := r.setChannel (channelName name) { least, isHeard }
  ({ number := r.opened, name }, { r with opened := r.opened + 1 })

def setLeast (r : Registry) (name : String) (least : Int) : Registry :=
  let name := channelName name
  r.setChannel name { r.channel name with least }

/-- Begins or ends to listen to a channel. -/
def setHeard (r : Registry) (name : String) (isHeard : Bool) : Registry :=
  let name := channelName name
  r.setChannel name { r.channel name with isHeard }

/-- The level of a channel; a rank between the levels is none. -/
def levelOf (r : Registry) (name : String) : Except Misuse Level :=
  let least := (r.channel (channelName name)).least
  match Level.ofRank? least with
  | some l => .ok l
  | none => .error (.notAChoice (.int least) "LogLevel")

/-- The named values that hold at the moment. -/
def context (r : Registry) : Context := r.frames.foldl Context.extend []

/-- Lets named values hold until they are left again. A name that a logger takes itself cannot be
one of them. -/
def enter (r : Registry) (values : Context) : Except Misuse Registry :=
  if values.any (·.1 = "self") then .error (.badArguments "a value has a reserved name")
  else .ok { r with frames := r.frames ++ [values] }

def leave (r : Registry) : Registry := { r with frames := r.frames.dropLast }

/-- The entry that a logger writes, if its channel takes it and somebody hears it. -/
def write (r : Registry) (name : String) (level : Level) (message : String) (values : Context) :
    Except Misuse (Option Entry) :=
  if values.any fun (k, _) => k = "self" ∨ k = "msg" then
    .error (.badArguments "a value has a reserved name")
  else if r.leastOf name ≤ level.rank ∧ (r.channel (channelName name)).isHeard then
    .ok (some { level, message, context := r.context.extend values })
  else .ok none

/-- The shared logger of a name, which is opened where the shared one has another name. -/
def sharedLogger (r : Registry) (name : String) : Logger × Registry :=
  match r.shared with
  | some l => if l.name = name then (l, r) else renew
  | none => renew
where
  renew : Logger × Registry :=
    let (l, r) := r.openLogger name Level.warning.rank false
    (l, { r with shared := some l })

def share (r : Registry) (l : Logger) : Registry := { r with shared := some l }

end Registry

end FolderTag.Log
