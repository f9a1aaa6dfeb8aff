-- Named, typed properties of objects. Every access looks the argument up
-- first, so an unknown name is a failure and not a warning of the library.

import ImageGateway.Property.Flags
import ImageGateway.Value.Boxing
import ImageGateway.Value.Reading

namespace ImageGateway

/-- What is known about an argument of an object. -/
structure ArgumentInfo where
  /-- The name that the library has for it. -/
  name : String
  type : TypeId
  typeName : String
  flags : ArgumentFlags
  /-- Whether the argument takes nicks. -/
  isEnum : Bool
  deriving DecidableEq, Repr

/-- An argument that was found. -/
structure FoundArgument where
  spec : PropertySpec
  flags : Option UInt32

namespace Property

/-- Goes on if values of one type can be turned into values of the other. -/
def checkTransformable (source target : TypeId) : Attempt Unit := do
  let answer ← native (.transformable source target)
  if answer == 0 then mismatch target source

def lookup (object : Object) (name : CText) : Attempt FoundArgument := do
  let found ← native (.getArgument object.handle name)
  match found.spec with
  | some spec =>
    if found.status = 0 then return ⟨spec, found.flags⟩ else unknown
  | none => unknown
where
  unknown : Attempt FoundArgument := do
    let described ← object.describe
    let message ← takeError
    throw (.unknownArgument name.lossy described message)

/-- Whether a type comes from the enums. -/
def isEnumType (type : TypeId) : Program Bool := do
  let ancestor ← native (.fundamental type)
  return ancestor = .enumeration

/-- What the library says about an argument. -/
def argument (object : Object) (name : String) : Attempt ArgumentInfo := do
  requireTable
  let found ← lookup object (← nativeText name)
  let type := found.spec.type
  let name := (found.spec.name.map CText.lossy).getD name
  let typeName ← typeName type
  let isEnum ← isEnumType type
  return ⟨name, type, typeName, ⟨found.flags.getD 0⟩, isEnum⟩

/-- Reads a property into a new value of the type. The library turns one type into the other where
it can. -/
def get (object : Object) (name : String) (type : TypeId) : Attempt Value := do
  requireTable
  let text ← nativeText name
  let found ← lookup object text
  checkTransformable found.spec.type type
  let value ← Value.new type
  native (.getProperty object.handle text value.cell)
  return value

/-- Reads a property under the type that it was declared with. -/
def getValue (object : Object) (name : String) : Attempt Value := do
  let info ← argument object name
  get object name info.type

/-- Reads a property of the type with a reader of values. -/
def getWith {α : Type} (object : Object) (name : String) (type : TypeId)
    (read : Value → Attempt α) : Attempt α := do
  let value ← get object name type
  value.lend read

def getBool (object : Object) (name : String) : Attempt Bool :=
  getWith object name .boolean Value.getBool

/-- Reads a whole number, or the number of an enum value. -/
def getInt (object : Object) (name : String) : Attempt Int32 := do
  let info ← argument object name
  getWith object name (if info.isEnum then info.type else .int) Value.getInt

def getUInt64 (object : Object) (name : String) : Attempt UInt64 :=
  getWith object name .uint64 Value.getUInt64

def getDouble (object : Object) (name : String) : Attempt Double :=
  getWith object name .double Value.getDouble

/-- Reads a text, if the property holds one. -/
def getString (object : Object) (name : String) : Attempt (Option String) :=
  getWith object name .string Value.getString

/-- Has the library copy a text out, if the property holds one. The type is not looked at again. -/
def copyText (object : Object) (name : String) : Attempt (Option CText) :=
  getWith object name .string fun value => do
    requireTable
    native (.cellGet value.cell .stringCopy)

/-- Reads a property of a type that the image library registers. -/
def getRegistered {α : Type} (object : Object) (name : String) (which : Registered)
    (read : Value → Attempt α) : Attempt α := do
  requireTable
  getWith object name (← native (.registered which)) read

def getInts (object : Object) (name : String) : Attempt (List Int32) :=
  getRegistered object name .intArray Value.getInts

def getDoubles (object : Object) (name : String) : Attempt (List Double) :=
  getRegistered object name .doubleArray Value.getDoubles

/-- A new reference to the blob of a property, if it holds one. -/
def getBlob (object : Object) (name : String) : Attempt (Option Blob) :=
  getRegistered object name .blob Value.getBlob

/-- A new reference to the image of a property, if it holds one. -/
def getImage (object : Object) (name : String) : Attempt (Option Image) :=
  getRegistered object name .image Value.getImage

/-- A buffer after values were copied into it from the front, as far as it goes. -/
def overwrite {α : Type} (buffer values : List α) : List α :=
  values.take buffer.length ++ buffer.drop values.length

/-- Reads an array of doubles into a buffer: how many were copied, and the buffer after that. -/
def getDoublesInto (object : Object) (name : String) (buffer : List Double) :
    Attempt (Nat × List Double) := do
  let values ← getDoubles object name
  return (min values.length buffer.length, overwrite buffer values)

/-! ## Assignment -/

/-- The number of the nick that the value holds, for an enum argument of the type. A negative
answer of the library is a failure. -/
def numberOfNick (object : Object) (name : String) (type : TypeId) (value : Value) :
    Attempt Int32 := do
  let domain ← native (.nicknameFind (← object.typeId))
  let nick : Option CText ← native (.cellGet value.cell .string)
  let number ← native (.enumFromNick domain type nick)
  if number < 0 then
    let held ← value.getString
    let message ← takeError
    throw (.unknownNick name (held.getD "") message)
  return number

/-- The value to assign in place of the given one, if there is one. An enum argument takes a text
as a nick and a whole number as the number of the enum value. Everything else has to be of a type
that can be turned into that of the argument. -/
def substitute (object : Object) (name : String) (type : TypeId) (value : Value) :
    Attempt (Option Value) := do
  let isEnum ← isEnumType type
  if isEnum && value.type == .string then
    let number ← numberOfNick object name type value
    return some (← Value.ofEnum type number)
  else if isEnum && value.type == .int then
    let number ← value.getInt
    return some (← Value.ofEnum type number)
  else
    checkTransformable value.type type
    return none

/-- Assigns a property. The value stays with the caller, and nothing is set on a failure. -/
def set (object : Object) (name : String) (value : Value) : Attempt Unit := do
  requireTable
  let text ← nativeText name
  let found ← lookup object text
  match ← substitute object name found.spec.type value with
  | some other => other.lend fun v => native (.setProperty object.handle text v.cell)
  | none => native (.setProperty object.handle text value.cell)

end Property

end ImageGateway
