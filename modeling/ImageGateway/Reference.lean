-- Owned references to native objects and blobs. Who holds one of these values
-- owns one reference and has to release it, or give it away.

import ImageGateway.Control

namespace ImageGateway

/-- An owned reference to an object. -/
structure Object where
  handle : Handle
  deriving DecidableEq, Repr

namespace Object

/-- Takes a new reference to a handle that someone else holds. -/
def borrow? : Option Handle → Attempt (Option Object)
  | none => return none
  | some handle => do
    requireTable
    native (.ref handle)
    return some ⟨handle⟩

/-- A second owned reference to the same object. -/
def clone (object : Object) : Program Object := do
  ifLoaded (native (.ref object.handle))
  return object

/-- Gives the reference up. -/
def release (object : Object) : Program Unit := ifLoaded (native (.unref object.handle))

/-- The type of the object, as its header names it. -/
def typeId (object : Object) : Program TypeId := instanceType object.handle

/-- The name of the object's type. -/
def typeName (object : Object) : Attempt String := do
  ImageGateway.typeName (← object.typeId)

/-- The nickname of the object's type, if it has one. -/
def nickname (object : Object) : Attempt (Option String) := do
  requireTable
  let name ← native (.nicknameFind (← object.typeId))
  return name.map CText.lossy

/-- What messages call the object: its nickname, or else the name of its type. -/
def describe (object : Object) : Program String := do
  match ← object.nickname.run with
  | .ok (some nickname) => return nickname
  | _ =>
    match ← object.typeName.run with
    | .ok name => return name
    | .error _ => return "object"

/-- Whether the object's type is `type` or comes from it. -/
def isA (object : Object) (type : TypeId) : Attempt Bool := do
  requireTable
  let answer ← native (.isA (← object.typeId) type)
  return answer != 0

/-- The object as a developer sees it. The pointer itself is not shown. -/
def shown (object : Object) : Program String := do
  let name ← object.typeName.run
  return Text.withParts "Object" [("ptr", "PTR"), ("type", Text.quote (name.toOption.getD ""))]

end Object

/-- An owned reference to an image. -/
structure Image where
  object : Object
  deriving DecidableEq, Repr

namespace Image

/-- The type of images. -/
def type : Attempt TypeId := do
  requireTable
  native (.registered .image)

/-- Takes a new reference to an image that someone else holds. -/
def borrow? (handle : Option Handle) : Attempt (Option Image) :=
  return (← Object.borrow? handle).map Image.mk

/-- Gives the reference up. -/
def release (image : Image) : Program Unit := image.object.release

/-- The object as an image, if it is one. Otherwise its reference is given up. -/
def ofObject (object : Object) : Attempt Image := do
  let attempt : Attempt Image := do
    let expected ← type
    if ← object.isA expected then
      return ⟨object⟩
    else
      let expectedName ← typeName expected
      let foundName ← object.typeName
      throw (.typeMismatch expectedName foundName)
  match ← attempt.result with
  | .ok image => return image
  | .error failure =>
    object.release
    throw failure

def extent (image : Image) (which : Extent) : Attempt Int32 := do
  requireTable
  native (.extent which image.object.handle)

end Image

/-- An owned reference to a blob of bytes. -/
structure Blob where
  handle : Handle
  deriving DecidableEq, Repr

namespace Blob

/-- A new blob with a copy of the bytes. -/
def copyOf (bytes : List UInt8) : Attempt Blob := do
  requireTable
  match ← native (.blobCopy bytes) with
  | some handle => return ⟨handle⟩
  | none => throw (.nullPointer .blob)

/-- Gives the reference up. -/
def release (blob : Blob) : Program Unit := ifLoaded (native (.areaUnref blob.handle))

def bytes (blob : Blob) : Program (List UInt8) := do
  match ← table? with
  | none => return []
  | some _ => return (← native (.blobGet blob.handle)).getD []

/-- The blob as a developer sees it. The pointer itself is not shown. -/
def shown (blob : Blob) : Program String := do
  let content ← blob.bytes
  return Text.withParts "Blob" [("ptr", "PTR"), ("len", toString content.length)]

/-- A source that reads from the blob. It keeps a reference of its own to the blob. -/
def source (blob : Blob) : Attempt Object := do
  requireTable
  match ← native (.sourceFromBlob blob.handle) with
  | some handle => return ⟨handle⟩
  | none => throw (.operation "source_new_from_blob" (← takeError))

end Blob

/-- A target that gathers what is written in memory. -/
def memoryTarget : Attempt Object := do
  requireTable
  match ← native .targetToMemory with
  | some handle => return ⟨handle⟩
  | none => throw (.operation "target_new_to_memory" (← takeError))

end ImageGateway
