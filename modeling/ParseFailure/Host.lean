import ParseFailure.Fault
import ParseFailure.Limits
import ParseFailure.Text.Blank

/-!
What the process around the errors decides: what it grants, whether it is a tool that wants compact
headings, and whether a terminal shows colours. The first question for the mode decides it until it
is forgotten.
-/

namespace ParseFailure

structure Host where
  limits : Limits
  /-- The value of the variable that asks for tooling mode. -/
  flag : Option String
  modules : List String
  /-- The mode, once it has been asked for. -/
  decided : Option Bool
  colors : Bool
  deriving DecidableEq, Repr

/-- A value for a variable of the process, or none to unset it. No variable can hold a NUL. -/
def checkVariable (value : Option String) : Except Fault (Option String) :=
  match value with
  | none => .ok none
  | some text => if '\x00' ∈ text.toList then .error .nulInVariable else .ok value

namespace Host

/-- A fresh process: no variable, no module, nothing decided. -/
def fresh (limits : Limits) (colors : Bool) : Host := ⟨limits, none, [], none, colors⟩

/-- The module whose presence alone means tooling mode. -/
def integration : String := "parsediag_lsp"

/-- Whether a text means yes, apart from white space around it and the case of its letters. -/
def isAffirmative (text : String) : Bool :=
  let word := String.ofList ((Text.trim text.toList).map Char.toLower)
  word == "1" || word == "true" || word == "yes" || word == "on"

/-- The mode that the surroundings ask for: the variable decides, and where it is unset, the
presence of the integration. -/
def detect (host : Host) : Bool :=
  match host.flag with
  | some text => isAffirmative text
  | none => host.modules.contains integration

/-- The mode in force: as decided before, else as the surroundings ask for. -/
def tooling (host : Host) : Bool :=
  match host.decided with
  | some mode => mode
  | none => host.detect

/-- The host after its mode has been asked for. -/
def settle (host : Host) : Host := { host with decided := some host.tooling }

def forget (host : Host) : Host := { host with decided := none }

def setFlag (host : Host) (flag : Option String) : Host := { host with flag := flag }

def setColors (host : Host) (colors : Bool) : Host := { host with colors := colors }

def load (host : Host) (name : String) : Host := { host with modules := name :: host.modules }

def unload (host : Host) (name : String) : Host :=
  { host with modules := host.modules.filter fun other => other != name }

end Host

end ParseFailure
