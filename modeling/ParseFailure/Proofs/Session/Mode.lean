import ParseFailure.Proofs.Host
import ParseFailure.Proofs.Session.Settling

/-!
The mode of the process, from one reset to the next. The first step that needs it decides it by what
surrounds the process then, and every later step that needs it uses the same mode.
-/

namespace ParseFailure.Session

variable {session : Session} {step : Step} {steps : List Step} {mode : Bool}

def usual : Session := start (.usual 80 1000) false

end ParseFailure.Session
