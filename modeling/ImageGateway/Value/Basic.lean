-- Owned tagged cells. Whoever holds a value has to release it, or give the
-- cell away. An empty cell needs no release.

import ImageGateway.Reference
import ImageGateway.Span

namespace ImageGateway

/-- An owned cell. -/
structure Value where
  cell : Cell
  deriving DecidableEq, Repr

namespace Value

/-- A cell of the type, holding its default. A library that leaves the cell empty gives an empty
value. -/
def make (type : TypeId) : Program Value := do
  match ← native (.cellInit type) with
  | some number => return ⟨⟨some number, type⟩⟩
  | none => return ⟨.empty⟩

/-- A cell of the type, holding its default. -/
def new (type : TypeId) : Attempt Value := do
  requireTable
  make type

/-- Gives the cell back to the library, unless it has no type. -/
def release (value : Value) : Program Unit :=
  if value.cell.type = .invalid then return else ifLoaded (native (.cellUnset value.cell))

def type (value : Value) : TypeId := value.cell.type

def typeName (value : Value) : Attempt String := ImageGateway.typeName value.type

/-- Whether the type is `type` or comes from it. -/
def holds (value : Value) (type : TypeId) : Attempt Bool := do
  requireTable
  let answer ← native (.isA value.type type)
  return answer != 0

/-- The value as a developer sees it. -/
def shown (value : Value) : Program String := do
  let name ← value.typeName.run
  return Text.withParts "GenericValue" [("type", Text.quote (name.toOption.getD ""))]

/-- Uses a value and releases it, whatever comes of it. -/
def lend {α : Type} (value : Value) (f : Value → Attempt α) : Attempt α :=
  (f value).closedBy value.release

end Value

end ImageGateway
