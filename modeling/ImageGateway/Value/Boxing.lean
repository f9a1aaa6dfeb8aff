-- Putting things into cells, by the conventions of the library for each kind
-- of argument.

import ImageGateway.Value.Basic

namespace ImageGateway.Value

/-- A cell of the type with the payload in it. -/
def filled (type : TypeId) (payload : Payload) : Program Value := do
  let value ← make type
  native (.cellSet value.cell payload)
  return value

def ofBool (b : Bool) : Attempt Value := do
  requireTable
  filled .boolean (.boolean (if b then 1 else 0))

/-- A cell that holds a whole number. Enum arguments take it as their number. -/
def ofInt (n : Int32) : Attempt Value := do
  requireTable
  filled .int (.int n)

def ofUInt64 (n : UInt64) : Attempt Value := do
  requireTable
  filled .uint64 (.uint64 n)

def ofDouble (x : Double) : Attempt Value := do
  requireTable
  filled .double (.double x)

/-- A cell that holds a copy of the text. -/
def ofString (s : String) : Attempt Value := do
  let text ← nativeText s
  requireTable
  filled .string (.string text)

/-- A cell of an enum type. -/
def ofEnum (type : TypeId) (n : Int32) : Attempt Value := do
  requireTable
  filled type (.enumeration n)

/-- The length of an array, if the library can count that far. -/
def countOf (length : Nat) : Attempt Int32 :=
  if length ≤ Int32.maxValue.toInt then return Int32.ofNat length else throw (.arrayTooLarge length)

/-- A cell that holds a copy of the whole numbers. -/
def ofInts (xs : Span Int32) : Attempt Value := do
  requireTable
  let _ ← countOf xs.size
  filled (← native (.registered .intArray)) (.ints xs.toList)

/-- A cell that holds a copy of the doubles. -/
def ofDoubles (xs : Span Double) : Attempt Value := do
  requireTable
  let _ ← countOf xs.size
  filled (← native (.registered .doubleArray)) (.doubles xs.toList)

/-- Puts a new reference to each image into the slots of the cell, from `place` on. -/
def fillSlots (cell : Cell) : Nat → List Image → Program Unit
  | _, [] => return
  | place, image :: images => do
    native (.ref image.object.handle)
    Program.request (.fillSlot cell place image.object.handle)
    fillSlots cell (place + 1) images

/-- A cell that holds a new reference to each image. -/
def ofImages (images : List Image) : Attempt Value := do
  requireTable
  let n ← countOf images.length
  let value ← make (← native (.registered .imageArray))
  native (.makeSlots value.cell n)
  let slots ← native (.slots value.cell)
  if slots || n == 0 then
    fillSlots value.cell 0 images
    return value
  else
    value.release
    throw (.nullPointer .imageArray)

/-- A cell that shares the blob. -/
def ofBlob (blob : Blob) : Attempt Value := do
  requireTable
  filled (← native (.registered .blob)) (.boxed blob.handle)

/-- A cell that holds a blob with a copy of the bytes. -/
def ofBytes (bytes : List UInt8) : Attempt Value := do
  let blob ← Blob.copyOf bytes
  (ofBlob blob).closedBy blob.release

/-- A cell that holds the object, under the type that its header names. -/
def ofObject (object : Object) : Attempt Value := do
  requireTable
  filled (← object.typeId) (.object object.handle)

end ImageGateway.Value
