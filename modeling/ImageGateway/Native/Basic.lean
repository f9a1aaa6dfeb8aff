-- What crosses the border to the native library: type numbers, handles,
-- doubles, texts that end at a zero byte, and tagged cells.

import ImageGateway.Text.Utf8

namespace ImageGateway

/-- The number of a type that the native type system knows. -/
structure TypeId where
  code : UInt64
  deriving DecidableEq, Repr, Inhabited

namespace TypeId

/-- The number of a built-in type: its place, shifted by two bits. -/
def fundamental (place : UInt64) : TypeId := ⟨place <<< 2⟩

/-- No type. An empty cell has it. -/
def invalid : TypeId := fundamental 0
def boolean : TypeId := fundamental 5
def int : TypeId := fundamental 6
def uint64 : TypeId := fundamental 11
/-- The ancestor of every enum type. -/
def enumeration : TypeId := fundamental 12
/-- The ancestor of every type of flags. -/
def flags : TypeId := fundamental 13
def double : TypeId := fundamental 15
def string : TypeId := fundamental 16
/-- The ancestor of every boxed type, such as blobs and arrays. -/
def boxed : TypeId := fundamental 18
/-- The ancestor of every type of objects. -/
def object : TypeId := fundamental 20

end TypeId

/-- A pointer to a native object or blob that is not null. Only its identity can be seen. -/
structure Handle where
  name : String
  deriving DecidableEq, Repr, Inhabited

/-- A double, as the pattern of its 64 bits. -/
structure Double where
  bits : UInt64
  deriving DecidableEq, Repr, Inhabited

/-- A native text: bytes, none of which is zero. The zero that ends it is not part of it. -/
structure CText where
  bytes : List UInt8
  no_zero : 0 ∉ bytes
  deriving DecidableEq

namespace CText

instance : Inhabited CText := ⟨⟨[], List.not_mem_nil⟩⟩

theorem zero_not_mem_takeWhile (bytes : List UInt8) : 0 ∉ bytes.takeWhile (· != 0) := by
  intro h
  simpa using List.all_eq_true.mp List.all_takeWhile 0 h

/-- The native text that a block of memory starts with. -/
def cut (bytes : List UInt8) : CText :=
  ⟨bytes.takeWhile (· != 0), zero_not_mem_takeWhile bytes⟩

/-- A text as the native side takes it, if it has no zero byte. -/
def ofString? (s : String) : Option CText :=
  if h : 0 ∈ Text.Utf8.encode s then none else some ⟨Text.Utf8.encode s, h⟩

/-- The text, with a replacement character for each part that is not UTF-8. -/
def lossy (t : CText) : String := Text.Utf8.lossy t.bytes

/-- The text, if it is UTF-8. -/
def decode (t : CText) : Except Text.Utf8.Fault String := Text.Utf8.decode t.bytes

/-- The format that passes one text through as it is. -/
def passThrough : CText := ⟨[37, 115], by decide⟩

end CText

/-- A tagged cell, as its owner holds it: the number that the library gave it when it was
initialised, and the type of what it holds. An empty cell has no number. -/
structure Cell where
  number : Option Nat
  type : TypeId
  deriving DecidableEq, Repr, Inhabited

def Cell.empty : Cell := ⟨none, .invalid⟩

end ImageGateway
