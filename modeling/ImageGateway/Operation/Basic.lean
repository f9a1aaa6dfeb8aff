-- Operations: made by nickname, filled with inputs, built through the cache,
-- and read. A call does all of it and cleans up on every exit.

import ImageGateway.Operation.Argument

namespace ImageGateway

/-- An operation, with the nickname it was made by. It owns one reference. -/
structure Operation where
  object : Object
  nickname : String
  deriving DecidableEq, Repr

namespace Operation

/-- A new operation that is not built yet. -/
def new (nickname : String) : Attempt Operation := do
  requireTable
  let text ← nativeText nickname
  match ← native (.operationNew text) with
  | some handle => return ⟨⟨handle⟩, nickname⟩
  | none => throw (.operation nickname (← takeError))

/-- A second owned reference to the same operation. -/
def clone (operation : Operation) : Program Operation :=
  return { operation with object := ← operation.object.clone }

def release (operation : Operation) : Program Unit := operation.object.release

def set (operation : Operation) (name : String) (argument : Argument) : Attempt Unit := do
  let value ← argument.toValue
  value.lend (Property.set operation.object name)

/-- Builds the operation through the cache and uses it up. The built operation may be another one
that the cache held. On a failure the outputs made so far are given up. -/
def build (operation : Operation) : Attempt Operation := do
  match ← table? with
  | none =>
    operation.release
    throw .notLoaded
  | some _ =>
    let (status, left) ← native (.build operation.object.handle)
    if status ≠ 0 then
      let message ← takeError
      native (.unrefOutputs left)
      native (.unref left)
      throw (.operation operation.nickname message)
    match left with
    | some handle => return ⟨⟨handle⟩, operation.nickname⟩
    | none => throw (.nullPointer .operation)

/-- Gives up the references that the operation holds to its outputs. -/
def unrefOutputs (operation : Operation) : Attempt Unit := do
  requireTable
  native (.unrefOutputs (some operation.object.handle))

/-- Sets the inputs in order, up to the first failure. -/
def setAll (operation : Operation) : List (String × Argument) → Attempt Unit
  | [] => return
  | (name, argument) :: rest => do
    operation.set name argument
    operation.setAll rest

/-- Reads the outputs in order, up to the first failure. They come back with what they hold
then. -/
def readAll (operation : Operation) :
    List (String × Output) → Program (Except Failure Unit × List Output)
  | [] => return (.ok (), [])
  | (name, output) :: rest => do
    match ← (output.read operation.object name).run with
    | .error failure => return (.error failure, output :: rest.map (·.2))
    | .ok read =>
      let (result, others) ← operation.readAll rest
      return (result, read :: others)

/-- Makes an operation, sets its inputs and builds it. -/
def prepare (nickname : String) (inputs : List (String × Argument)) : Attempt Operation := do
  let operation ← new nickname
  match ← (operation.setAll inputs : Attempt Unit).result with
  | .ok () => operation.build
  | .error failure =>
    operation.release
    throw failure

/-- Runs an operation: sets the inputs, builds, reads the outputs. The outputs come back with what
they hold at the end, also after a failure. -/
def call (nickname : String) (options : CallOptions) :
    Program (Except Failure Unit × List Output) := do
  logLine .debug ("vips call " ++ nickname)
  match ← (prepare nickname options.inputs).run with
  | .error failure => return (.error failure, options.held)
  | .ok operation =>
    let (result, outputs) ← operation.readAll options.outputs
    let cleared ← operation.unrefOutputs.run
    operation.release
    return (do cleared; result, outputs)

/-- Runs an operation for its outputs alone. After a failure what they own is given up. -/
def callFor (nickname : String) (options : CallOptions) : Attempt (List Output) := do
  let (result, outputs) ← call nickname options
  match result with
  | .ok () => return outputs
  | .error failure =>
    outputs.forM fun output => (output.release : Program Unit)
    throw failure

/-- The image that the first output holds. -/
def firstImage : List Output → Attempt Image
  | .image (some image) :: _ => return image
  | _ => throw (.nullPointer .image)

end Operation

end ImageGateway
