import ParseFailure.Evidence

/-!
Saving what errors refer to. Saving goes down level by level, and meets a fault where it would go
too deep or finds something that cannot be saved.
-/

namespace ParseFailure

/-- Goes down some levels from a level, as far as the process lets saving go. -/
def Limits.descend (limits : Limits) (level levels : Nat) : Except Fault Nat :=
  if level + levels ≤ limits.nesting then .ok (level + levels) else .error .tooDeep

def NameTable.save : NameTable → Except Fault Unit
  | .view _ => .error (.notSavable .view)
  | _ => .ok ()

def PlainError.save (error : PlainError) : Except Fault Unit :=
  match error.unsaved with
  | some fault => .error fault
  | none => .ok ()

/-- Saves evidence. The tokens are saved before the names, each of them while its predecessor is. -/
def Evidence.save (evidence : Evidence) (limits : Limits) (level : Nat) : Except Fault Unit :=
  match evidence with
  | .failed failure => do
    let _ ← limits.descend level (failure.chain.linked * limits.tokenLevels)
    failure.names.save
  | .plain error => do
    let _ ← limits.descend level limits.errorLevels
    error.save

end ParseFailure
