-- What the entry points for foreign hosts share. They open the library on
-- first use, they never fail in the open but log a warning under their own
-- name, and then they leave the memory of the caller as it was.

import ImageGateway.Config

namespace ImageGateway.Foreign

/-- A pointer through which the caller wants something stored. -/
inductive Place where
  | null
  | writable
  deriving DecidableEq, Repr

def warn (entry text : String) : Program Unit := logLine .warn (entry ++ ": " ++ text)

/-- Opens the library where the environment says, unless a table is published. -/
def ensureLoaded : Attempt Unit := do
  match ← table? with
  | some _ => return
  | none =>
    let _ ← Control.load (← LibraryPaths.fromEnvironment)
    return

/-- The answer of an attempt on the loaded library. A failure is logged. -/
def guarded {α : Type} (entry : String) (attempt : Attempt α) : Program (Option α) := do
  let whole : Attempt α := do
    ensureLoaded
    attempt
  match ← whole.run with
  | .ok answer => return some answer
  | .error failure =>
    warn entry failure.message
    return none

/-- The text that the caller passed, if it is one. -/
def borrowText (entry : String) : Option CText → Program (Option String)
  | none => do
    warn entry "null string argument"
    return none
  | some text =>
    match text.decode with
    | .ok s => return some s
    | .error fault => do
      warn entry fault.message
      return none

/-- What is stored through the pointer. Nothing can be stored through a null pointer. -/
def store {α : Type} (entry : String) : Place → Option α → Program (Option α)
  | .null, _ => do
    warn entry "null output pointer"
    return none
  | .writable, answer => return answer

/-- The elements of an array of the caller. A null pointer and a size that is not positive stand
for none. -/
def lent {α : Type} (items : Option (List α)) (size : Int32) : List α :=
  match items with
  | some items => items.take size.toInt.toNat
  | none => []

end ImageGateway.Foreign
