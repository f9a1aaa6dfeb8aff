-- What can be wrong with a JSON document, and where.

import ImageGateway.Decimal.Shortest
import ImageGateway.Text.Quoted

namespace ImageGateway.Json

/-- A number as it is written: whole and in range of 64 bits, or a double. -/
inductive Number where
  | natural (n : UInt64)
  | negative (n : Int64)
  | floating (x : Double)
  deriving DecidableEq, Repr

/-- What stands where something else was wanted. -/
inductive Found where
  | null
  | boolean (b : Bool)
  | number (n : Number)
  | text (s : String)
  | sequence
  | map
  deriving DecidableEq, Repr

/-- Doubles in messages are plain from 10^-5 up to 10^16. -/
def numberLayout : Decimal.Layout := ⟨-5, 15⟩

def Number.text : Number → String
  | natural n => toString n
  | negative n => toString n.toInt
  | floating x => numberLayout.text x

def Found.message : Found → String
  | null => "null"
  | boolean b => "boolean `" ++ toString b ++ "`"
  | number (.floating x) => "floating point `" ++ (Number.floating x).text ++ "`"
  | number n => "integer `" ++ n.text ++ "`"
  | text s => "string " ++ Text.quote s
  | sequence => "sequence"
  | map => "map"

/-- What is wrong. -/
inductive Cause where
  | valueCut
  | textCut
  | listCut
  | objectCut
  | noValue
  | wrongWord
  | noColon
  | noListSeparator
  | noMemberSeparator
  | keyNotText
  | trailingComma
  | trailingText
  | badNumber
  | numberTooLarge
  | badEscape
  | controlCharacter
  | surrogateCut
  | loneSurrogate
  | wrongType (found : Found) (expected : String)
  | wrongValue (n : Number) (expected : String)
  | repeatedKey (key : String)
  deriving DecidableEq, Repr

def Cause.message : Cause → String
  | valueCut => "EOF while parsing a value"
  | textCut => "EOF while parsing a string"
  | listCut => "EOF while parsing a list"
  | objectCut => "EOF while parsing an object"
  | noValue => "expected value"
  | wrongWord => "expected ident"
  | noColon => "expected `:`"
  | noListSeparator => "expected `,` or `]`"
  | noMemberSeparator => "expected `,` or `\x7d`"
  | keyNotText => "key must be a string"
  | trailingComma => "trailing comma"
  | trailingText => "trailing characters"
  | badNumber => "invalid number"
  | numberTooLarge => "number out of range"
  | badEscape => "invalid escape"
  | controlCharacter => "control character (\\u0000-\\u001F) found while parsing a string"
  | surrogateCut => "unexpected end of hex escape"
  | loneSurrogate => "lone leading surrogate in hex escape"
  | wrongType found expected => "invalid type: " ++ found.message ++ ", expected " ++ expected
  | wrongValue n expected =>
    "invalid value: " ++ (Found.number n).message ++ ", expected " ++ expected
  | repeatedKey key => "duplicate field `" ++ key ++ "`"

/-- A cause and the number of bytes before its place. -/
structure Fault where
  cause : Cause
  offset : Nat
  deriving DecidableEq, Repr

/-- A cause with its place as a reader of the document counts: lines from 1, and the bytes of the
line up to the place. -/
structure Problem where
  cause : Cause
  line : Nat
  column : Nat
  deriving DecidableEq, Repr

def Problem.message (p : Problem) : String :=
  p.cause.message ++ " at line " ++ toString p.line ++ " column " ++ toString p.column

/-- The place of a fault in the document. -/
def Fault.locate (document : List UInt8) (f : Fault) : Problem :=
  let before := document.take f.offset
  let line := before.reverse.takeWhile (· != 10)
  ⟨f.cause, before.count 10 + 1, line.length⟩

end ImageGateway.Json
