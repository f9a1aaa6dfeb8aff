-- Reading cells. Each reader looks at the type first and touches the payload
-- only if it is of the right kind.

import ImageGateway.Value.Basic

namespace ImageGateway

/-- The items of an array that the library lends. A null pointer and a count that is not positive
stand for no items. -/
def Block.toList {α : Type} (block : Block α) : List α :=
  match block.items with
  | some items => items.take block.count.toInt.toNat
  | none => []

theorem Block.toList_eq_nil {α : Type} {block : Block α}
    (h : block.items = none ∨ block.count ≤ 0) : block.toList = [] := by
  unfold Block.toList
  rcases h with hnull | hcount
  · rw [hnull]
  · have hzero : block.count.toInt.toNat = 0 := by
      have hsign := Int32.le_iff_toInt_le.1 hcount
      simp at hsign
      omega
    rw [hzero]
    cases block.items <;> rfl

/-- An array that the library lends as it has it is copied out whole. -/
theorem Block.toList_of_lent {α : Type} {block : Block α} {xs : List α}
    (hcount : block.count = Int32.ofNat xs.length) (hitems : block.items = some xs ∨ xs = [])
    (hlength : xs.length ≤ Int32.maxValue.toInt) : block.toList = xs := by
  have hmax : Int32.maxValue.toInt = 2 ^ 31 - 1 := by decide
  have htoInt : block.count.toInt = xs.length := by
    rw [hcount]
    exact Int32.toInt_ofNat_of_lt (by omega)
  rcases hitems with hitems | rfl
  · simp [Block.toList, hitems, htoInt]
  · refine Block.toList_eq_nil (.inr ?_)
    rw [hcount]
    show Int32.ofNat 0 ≤ 0
    decide

namespace Value

/-- Goes on if the value is of the type. -/
def expect (value : Value) (type : TypeId) : Attempt Unit := do
  let answer ← native (.isA value.type type)
  if answer == 0 then mismatch type value.type

/-- Reads with an accessor, after a look at the type. -/
def readAs (value : Value) (type : TypeId) (accessor : Accessor) : Attempt accessor.Reply := do
  value.expect type
  native (.cellGet value.cell accessor)

def getBool (value : Value) : Attempt Bool := do
  requireTable
  let n : Int32 ← value.readAs .boolean .boolean
  return n != 0

/-- Reads a whole number, or the number of an enum value. -/
def getInt (value : Value) : Attempt Int32 := do
  requireTable
  let ancestor ← native (.fundamental value.type)
  if ancestor = .enumeration then native (.cellGet value.cell .enumeration)
  else value.readAs .int .int

def getUInt64 (value : Value) : Attempt UInt64 := do
  requireTable
  value.readAs .uint64 .uint64

def getDouble (value : Value) : Attempt Double := do
  requireTable
  value.readAs .double .double

/-- Reads a text, if the value holds one. -/
def getString (value : Value) : Attempt (Option String) := do
  requireTable
  let text : Option CText ← value.readAs .string .string
  return text.map CText.lossy

/-- Copies out an array of whole numbers. -/
def getInts (value : Value) : Attempt (List Int32) := do
  requireTable
  let block : Block Int32 ← value.readAs (← native (.registered .intArray)) .ints
  return block.toList

def getDoubles (value : Value) : Attempt (List Double) := do
  requireTable
  let block : Block Double ← value.readAs (← native (.registered .doubleArray)) .doubles
  return block.toList

/-- A new reference to the blob that the value holds, if any. -/
def getBlob (value : Value) : Attempt (Option Blob) := do
  requireTable
  let handle : Option Handle ← value.readAs (← native (.registered .blob)) .boxedCopy
  return handle.map Blob.mk

/-- A new reference to the object that the value holds, if any. -/
def getObject (value : Value) : Attempt (Option Object) := do
  requireTable
  let handle : Option Handle ← value.readAs .object .object
  Object.borrow? handle

/-- A new reference to the image that the value holds, if any. The type of the value is looked at
first, and then the type of the object itself. -/
def getImage (value : Value) : Attempt (Option Image) := do
  requireTable
  value.expect (← native (.registered .image))
  match ← value.getObject with
  | some object => return some (← Image.ofObject object)
  | none => return none

end Value

end ImageGateway
