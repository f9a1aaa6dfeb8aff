-- The arguments of one operation call: what goes in, and the places that take
-- what comes out.

import ImageGateway.Property.Basic

namespace ImageGateway

/-- An input argument. Images and objects are only lent. -/
inductive Argument where
  | bool (b : Bool)
  /-- A whole number. Enum arguments take it too. -/
  | int (n : Int32)
  | uint64 (n : UInt64)
  | double (x : Double)
  /-- A text. Enum arguments take it as a nick. -/
  | text (s : String)
  | ints (xs : Span Int32)
  | doubles (xs : Span Double)
  | images (images : List Image)
  /-- Bytes, of which the library gets a copy. -/
  | bytes (bytes : List UInt8)
  | image (image : Image)
  | object (object : Object)

/-- Puts the argument into a new value. -/
def Argument.toValue : Argument → Attempt Value
  | .bool b => Value.ofBool b
  | .int n => Value.ofInt n
  | .uint64 n => Value.ofUInt64 n
  | .double x => Value.ofDouble x
  | .text s => Value.ofString s
  | .ints xs => Value.ofInts xs
  | .doubles xs => Value.ofDoubles xs
  | .images xs => Value.ofImages xs
  | .bytes bs => Value.ofBytes bs
  | .image i => Value.ofObject i.object
  | .object o => Value.ofObject o

/-- A place of the caller for something that comes out, with what it holds now. -/
inductive Output where
  | bool (b : Bool)
  /-- Takes whole numbers and the numbers of enum values. -/
  | int (n : Int32)
  | double (x : Double)
  | doubles (xs : List Double)
  /-- A buffer for doubles. It takes as many as fit and leaves the rest alone. -/
  | buffer (xs : List Double)
  | ints (xs : List Int32)
  | text (s : Option String)
  | blob (blob : Option Blob)
  | image (image : Option Image)
  deriving DecidableEq, Repr

namespace Output

/-- Gives up what the place owns. -/
def release : Output → Program Unit
  | blob (some b) => b.release
  | image (some i) => i.release
  | _ => return

/-- Reads a property into the place. What it held before is given up after that. -/
def read (output : Output) (object : Object) (name : String) : Attempt Output := do
  match output with
  | bool _ => return bool (← Property.getBool object name)
  | int _ => return int (← Property.getInt object name)
  | double _ => return double (← Property.getDouble object name)
  | doubles _ => return doubles (← Property.getDoubles object name)
  | buffer xs =>
    let (_, filled) ← Property.getDoublesInto object name xs
    return buffer filled
  | ints _ => return ints (← Property.getInts object name)
  | text _ => return text (← Property.getString object name)
  | blob _ =>
    let found ← Property.getBlob object name
    output.release
    return blob found
  | image _ =>
    let found ← Property.getImage object name
    output.release
    return image found

end Output

/-- The named arguments of one call. -/
structure CallOptions where
  /-- What goes in, in the order of assignment. -/
  inputs : List (String × Argument) := []
  /-- What comes out, in the order of reading. -/
  outputs : List (String × Output) := []

namespace CallOptions

def set (options : CallOptions) (name : String) (argument : Argument) : CallOptions :=
  { options with inputs := options.inputs ++ [(name, argument)] }

def out (options : CallOptions) (name : String) (output : Output) : CallOptions :=
  { options with outputs := options.outputs ++ [(name, output)] }

/-- What the outputs hold, in order. -/
def held (options : CallOptions) : List Output := options.outputs.map (·.2)

end CallOptions

end ImageGateway
