/-!
What a process grants: how many digits a number may be written with, how long a padding fits into
its memory, and how deep saving may go.
-/

namespace ParseFailure

structure Limits where
  /-- The most digits that a number is written with, where there is such a bound. -/
  digits : Option Nat
  /-- No process can set the bound lower. -/
  floor : ∀ bound ∈ digits, 640 ≤ bound
  /-- The longest padding, in spaces, that fits into memory. -/
  padding : Nat
  /-- The most levels that saving may go down. -/
  nesting : Nat
  /-- The levels that saving goes down from an error to its cause or to its first token. -/
  errorLevels : Nat
  /-- The levels that saving goes down from a token to the next one. -/
  tokenLevels : Nat
  deriving DecidableEq, Repr

/-- The bound on digits that holds where nobody has set another, and the levels that saving has been
seen to take. -/
def Limits.usual (padding nesting : Nat) : Limits where
  digits := some 4300
  floor := by decide
  padding := padding
  nesting := nesting
  errorLevels := 3
  tokenLevels := 4

end ParseFailure
