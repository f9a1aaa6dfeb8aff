-- A place in a document: the bytes before it, counted, and the bytes after it.

import ImageGateway.Json.Fault

namespace ImageGateway.Json

/-- A place in a document. -/
structure Cursor where
  offset : Nat
  rest : List UInt8
  deriving Repr

namespace Cursor

/-- The place after `n` bytes more. -/
def skip (c : Cursor) (n : Nat) : Cursor := ⟨c.offset + n, c.rest.drop n⟩

/-- A fault at this place. -/
def fault (c : Cursor) (cause : Cause) : Fault := ⟨cause, c.offset⟩

/-- A fault that the next byte shows. Its place is after that byte, or at the end. -/
def faultNext (c : Cursor) (cause : Cause) : Fault :=
  ⟨cause, if c.rest.isEmpty then c.offset else c.offset + 1⟩

end Cursor

/-- The white space of JSON. -/
def isSpace (b : UInt8) : Bool := b == 32 || b == 10 || b == 9 || b == 13

def isDigit (b : UInt8) : Bool := 48 ≤ b && b ≤ 57

/-- The place after the white space. -/
def Cursor.skipSpace (c : Cursor) : Cursor := c.skip (c.rest.takeWhile isSpace).length

end ImageGateway.Json
