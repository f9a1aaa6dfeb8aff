-- The way every operation takes: through the published table, and out again
-- with an answer or a failure. What an operation owns it releases on each exit.

import ImageGateway.Failure
import ImageGateway.Program.Basic
import ImageGateway.Text.Blank

namespace ImageGateway

/-- A program that fails or answers. -/
abbrev Attempt := ExceptT Failure Program

namespace Attempt

variable {α : Type}

/-- Carries out the clean-up after the attempt, however it ended. -/
def closedBy (attempt : Attempt α) (cleanUp : Program Unit) : Attempt α :=
  ExceptT.mk do
    let result ← attempt.run
    cleanUp
    return result

/-- The result of an attempt, failure or answer. -/
def result (attempt : Attempt α) : Attempt (Except Failure α) := ExceptT.lift attempt.run

end Attempt

/-- Goes on if a table is published. -/
def requireTable : Attempt Unit := do
  match ← table? with
  | some _ => return
  | none => throw .notLoaded

/-- Does something if a table is published. -/
def ifLoaded (p : Program Unit) : Program Unit := do
  match ← table? with
  | some _ => p
  | none => return

/-- The text as the native side takes it. -/
def nativeText (s : String) : Attempt CText :=
  match CText.ofString? s with
  | some text => return text
  | none => throw (.zeroByte s)

/-- The messages that the library has gathered. It forgets them. -/
def takeError : Program String := do
  let buffer ← native .errorBuffer
  native (.act .errorClear)
  return Text.trimEnd ((buffer.map CText.lossy).getD "")

def typeName (type : TypeId) : Attempt String := do
  requireTable
  let name ← native (.typeName type)
  return (name.map CText.lossy).getD "invalid"

/-- The failure of a value that holds another type than the wanted one. -/
def mismatch {α : Type} (expected found : TypeId) : Attempt α := do
  let expectedName ← typeName expected
  let foundName ← typeName found
  throw (.typeMismatch expectedName foundName)

end ImageGateway
