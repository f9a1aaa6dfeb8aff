-- Whole numbers of 32 bits, read from decimal text. The digits are taken from
-- the left, and the first thing that goes wrong is the answer.

namespace ImageGateway.Text

/-- Why a text is no number of the wanted range. -/
inductive IntegerFault where
  | empty
  | invalidDigit
  | tooLarge
  | tooSmall
  deriving DecidableEq, Repr

def IntegerFault.message : IntegerFault → String
  | .empty => "cannot parse integer from empty string"
  | .invalidDigit => "invalid digit found in string"
  | .tooLarge => "number too large to fit in target type"
  | .tooSmall => "number too small to fit in target type"

/-- The value of a decimal digit. -/
def digit? (c : Char) : Option Nat :=
  if '0' ≤ c ∧ c ≤ '9' then some (c.toNat - '0'.toNat) else none

/-- Appends the digits to a value that must not rise above `limit`. -/
def readDigits (limit : Nat) (beyond : IntegerFault) : Nat → List Char → Except IntegerFault Nat
  | value, [] => .ok value
  | value, c :: cs =>
    match digit? c with
    | none => .error .invalidDigit
    | some d =>
      if value * 10 + d ≤ limit then readDigits limit beyond (value * 10 + d) cs else .error beyond

/-- Reads an optional sign and then digits, in the range of 32 bits. -/
def readInt32Chars : List Char → Except IntegerFault Int
  | [] => .error .empty
  | ['-'] => .error .invalidDigit
  | ['+'] => .error .invalidDigit
  | '-' :: cs => (readDigits 2147483648 .tooSmall 0 cs).map (fun n => -(n : Int))
  | '+' :: cs => (readDigits 2147483647 .tooLarge 0 cs).map (fun n => (n : Int))
  | cs => (readDigits 2147483647 .tooLarge 0 cs).map (fun n => (n : Int))

def readInt32 (s : String) : Except IntegerFault Int32 :=
  (readInt32Chars s.toList).map Int32.ofInt

end ImageGateway.Text
