-- Entry points that read a property for the caller, and the one that assigns a
-- property. What a reader answers is what it stored, or none if the caller's
-- memory is as it was.

import ImageGateway.Foreign.Basic
import ImageGateway.Property.Basic

namespace ImageGateway.Foreign

/-- Does something with an operation and a property name of the caller, who keeps the reference.
The name is looked at first, and a bad one does not even open the library. -/
def onProperty {α : Type} (entry : String) (operation : Option Handle) (name : Option CText)
    (f : Object → String → Attempt α) : Program (Option α) := do
  match ← borrowText entry name with
  | none => return none
  | some name =>
    guarded entry do
      match operation with
      | some handle => f ⟨handle⟩ name
      | none => throw (.nullPointer .operation)

def fetch {α : Type} (entry : String) (operation : Option Handle) (name : Option CText)
    (place : Place) (f : Object → String → Attempt α) : Program (Option α) := do
  let answer ← onProperty entry operation name f
  store entry place answer

/-- Stores a truth value, as 0 or 1. -/
def getBool (operation : Option Handle) (name : Option CText) (place : Place) :
    Program (Option Int32) :=
  fetch "vo_get_bool" operation name place fun object name => do
    return if ← Property.getBool object name then 1 else 0

/-- Stores a whole number, or the number of an enum value. -/
def getInt (operation : Option Handle) (name : Option CText) (place : Place) :
    Program (Option Int32) :=
  fetch "vo_get_int" operation name place Property.getInt

def getUInt64 (operation : Option Handle) (name : Option CText) (place : Place) :
    Program (Option UInt64) :=
  fetch "vo_get_guint64" operation name place Property.getUInt64

def getDouble (operation : Option Handle) (name : Option CText) (place : Place) :
    Program (Option Double) :=
  fetch "vo_get_double" operation name place Property.getDouble

/-- Stores a new copy of a text, which the caller has to free, or null. -/
def getString (operation : Option Handle) (name : Option CText) (place : Place) :
    Program (Option (Option CText)) :=
  fetch "vo_get_string" operation name place Property.copyText

/-- Stores a new reference to a blob, which the caller has to give up, or null. -/
def getBlob (operation : Option Handle) (name : Option CText) (place : Place) :
    Program (Option (Option Handle)) :=
  fetch "vo_get_blob" operation name place fun object name => do
    return (← Property.getBlob object name).map Blob.handle

/-- Stores a new reference to an image, which the caller has to give up, or null. -/
def getImage (operation : Option Handle) (name : Option CText) (place : Place) :
    Program (Option (Option Handle)) :=
  fetch "vo_get_image" operation name place fun object name => do
    return (← Property.getImage object name).map (·.object.handle)

/-- Reads an array into a buffer of the caller, which holds `size` elements. The answer is how many
were copied, or -1, and the buffer after that. -/
def fetchInto {α : Type} (entry : String) (operation : Option Handle) (name : Option CText)
    (buffer : Option (List α)) (size : Int32) (f : Object → String → Attempt (List α)) :
    Program (Int32 × Option (List α)) := do
  let window := lent buffer size
  match ← onProperty entry operation name f with
  | none => return (-1, buffer)
  | some values =>
    let after := buffer.map fun items =>
      Property.overwrite window values ++ items.drop window.length
    return (Int32.ofNat (min values.length window.length), after)

/-- Copies an array of whole numbers into a buffer. -/
def getInts (operation : Option Handle) (name : Option CText) (buffer : Option (List Int32))
    (size : Int32) : Program (Int32 × Option (List Int32)) :=
  fetchInto "vo_get_int_array" operation name buffer size Property.getInts

def getDoubles (operation : Option Handle) (name : Option CText) (buffer : Option (List Double))
    (size : Int32) : Program (Int32 × Option (List Double)) :=
  fetchInto "vo_get_double_array" operation name buffer size Property.getDoubles

/-- Assigns a property. The cell stays with the caller. -/
def setProperty (object : Option Handle) (name : Option CText) : Option Cell → Program Unit
  | none => warn "vo_set_property" "null GValue"
  | some cell => do
    let _ ← onProperty "vo_set_property" object name fun object name =>
      Property.set object name ⟨cell⟩
    return

end ImageGateway.Foreign
