import ParseFailure.Host

/-!
What the surroundings of a process say about its mode, and what becomes of the mode when it is asked
for.
-/

namespace ParseFailure

namespace Text

variable {text before word after : List Char}

end Text

namespace Host

variable {host : Host}

theorem settle_settle (host : Host) : host.settle.settle = host.settle := rfl

theorem tooling_of_decided {mode : Bool} (decided : host.decided = some mode) :
    host.tooling = mode := by
  simp only [tooling, decided]

end Host

end ParseFailure
