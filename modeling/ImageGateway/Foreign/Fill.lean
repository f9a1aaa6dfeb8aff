-- Entry points that fill an empty cell of the caller. What they answer is the
-- cell that was written, or none if the caller's cell is as it was. The caller
-- owns a written cell.

import ImageGateway.Foreign.Basic
import ImageGateway.Value.Boxing

namespace ImageGateway.Foreign

/-- Fills the cell with a new value. -/
def fill (entry : String) (place : Place) (make : Attempt Value) : Program (Option Cell) := do
  match place with
  | .null =>
    warn entry "null GValue"
    return none
  | .writable => return (← guarded entry make).map Value.cell

def setBool (place : Place) (n : Int32) : Program (Option Cell) :=
  fill "vo_set_bool" place (Value.ofBool (n != 0))

def setInt (place : Place) (n : Int32) : Program (Option Cell) :=
  fill "vo_set_int" place (Value.ofInt n)

def setUInt64 (place : Place) (n : UInt64) : Program (Option Cell) :=
  fill "vo_set_guint64" place (Value.ofUInt64 n)

def setDouble (place : Place) (x : Double) : Program (Option Cell) :=
  fill "vo_set_double" place (Value.ofDouble x)

/-- Fills the cell with a copy of a text. The text is looked at before the cell. -/
def setString (place : Place) (text : Option CText) : Program (Option Cell) := do
  match ← borrowText "vo_set_string" text with
  | some s => fill "vo_set_string" place (Value.ofString s)
  | none => return none

/-- Fills the cell with a copy of an array of whole numbers. -/
def setInts (place : Place) (items : Option (List Int32)) (size : Int32) :
    Program (Option Cell) :=
  fill "vo_set_int_array" place (Value.ofInts (.ofList (lent items size)))

def setDoubles (place : Place) (items : Option (List Double)) (size : Int32) :
    Program (Option Cell) :=
  fill "vo_set_double_array" place (Value.ofDoubles (.ofList (lent items size)))

/-- Gives up the images, in order. -/
def releaseAll (images : List Image) : Program Unit :=
  images.forM fun image => (image.release : Program Unit)

/-- Takes a reference to each image, after those already taken. If one is missing, all that were
taken are given up. -/
def borrowImages (taken : List Image) : List (Option Handle) → Attempt (List Image)
  | [] => return taken
  | handle :: rest => do
    match ← (Image.borrow? handle).result with
    | .ok (some image) => borrowImages (taken ++ [image]) rest
    | .ok none =>
      releaseAll taken
      throw (.nullPointer .image)
    | .error failure =>
      releaseAll taken
      throw failure

/-- Fills the cell with an array that holds a reference to each image. -/
def setImages (place : Place) (items : Option (List (Option Handle))) (size : Int32) :
    Program (Option Cell) :=
  fill "vo_set_images" place do
    let images ← borrowImages [] (lent items size)
    (Value.ofImages images).closedBy (releaseAll images)

/-- Fills the cell with a blob. The caller keeps its reference. -/
def setBlob (place : Place) (blob : Option Handle) : Program (Option Cell) :=
  fill "vo_set_blob" place do
    match blob with
    | some handle => Value.ofBlob ⟨handle⟩
    | none => throw (.nullPointer .blob)

/-- Fills the cell with an object, under its own type. The caller keeps its reference. -/
def setAnyObject (entry : String) (place : Place) (object : Option Handle) :
    Program (Option Cell) :=
  fill entry place do
    match object with
    | some handle => Value.ofObject ⟨handle⟩
    | none => throw (.nullPointer .object)

def setObject : Place → Option Handle → Program (Option Cell) := setAnyObject "vo_set_object"

def setImage : Place → Option Handle → Program (Option Cell) := setAnyObject "vo_set_image"

def setSource : Place → Option Handle → Program (Option Cell) := setAnyObject "vo_set_source"

def setTarget : Place → Option Handle → Program (Option Cell) := setAnyObject "vo_set_target"

end ImageGateway.Foreign
