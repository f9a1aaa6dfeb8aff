-- Numbers and strings of a document. Each can be read for its content or only
-- passed over. Passing over is the more lenient: it does not look at the range
-- of a number or at surrogates.

import ImageGateway.Json.Cursor

namespace ImageGateway.Json

/-! ## Numbers -/

/-- The powers of ten that a double holds to the last bit. -/
def tenTo (n : Nat) : Float := Float.ofScientific 1 false n

/-- Scales by a power of ten in steps of at most 10^308. None stands for what is out of range. -/
def scaled : Nat → Float → Int → Option Float
  | 0, f, _ => some f
  | fuel + 1, f, e =>
    if e.natAbs ≤ 308 then
      if 0 ≤ e then
        let g := f * tenTo e.natAbs
        if g.isInf then none else some g
      else some (f / tenTo e.natAbs)
    else if f == 0.0 then some f
    else if 0 ≤ e then none
    else scaled fuel (f / tenTo 308) (e + 308)

/-- The double that a significand and a power of ten stand for. -/
def toDouble (positive : Bool) (significand : Nat) (exponent : Int) : Option Double :=
  (scaled (exponent.natAbs / 308 + 2) significand.toUInt64.toFloat exponent).map fun f =>
    ⟨(if positive then f else -f).toBits⟩

/-- Digits taken into a significand of 64 bits as long as it holds them. -/
structure Significand where
  value : Nat
  /-- How many digits it took. -/
  taken : Nat
  deriving Repr

/-- Takes digits from the left, up to the first one that does not fit. -/
def Significand.take : Significand → List UInt8 → Significand
  | s, [] => s
  | s, b :: bs =>
    let next := s.value * 10 + (b.toNat - 48)
    if next < UInt64.size then Significand.take ⟨next, s.taken + 1⟩ bs else s

/-- The value of the digits of an exponent, with the number of digits up to the one that no longer
fits into 32 bits, if one does not. -/
def exponentOf : List UInt8 → Nat → Nat → Nat × Option Nat
  | [], value, _ => (value, none)
  | b :: bs, value, seen =>
    let next := value * 10 + (b.toNat - 48)
    if next ≤ 2147483647 then exponentOf bs next (seen + 1) else (value, some (seen + 1))

/-- The end of a number: its value, and the place after it. -/
def finish (c : Cursor) (positive : Bool) (significand : Nat) (exponent : Int) :
    Except Fault (Number × Cursor) :=
  match toDouble positive significand exponent with
  | some x => .ok (.floating x, c)
  | none => .error (c.fault .numberTooLarge)

/-- Reads from the letter of an exponent on. -/
def readExponent (c : Cursor) (positive : Bool) (significand : Nat) (exponent : Int) :
    Except Fault (Number × Cursor) :=
  let c := c.skip 1
  let (positiveExponent, c) :=
    match c.rest with
    | 43 :: _ => (true, c.skip 1)
    | 45 :: _ => (false, c.skip 1)
    | _ => (true, c)
  match c.rest with
  | [] => .error (c.fault .valueCut)
  | b :: _ =>
    if isDigit b then
      let digits := c.rest.takeWhile isDigit
      let after := c.skip digits.length
      match exponentOf digits 0 0 with
      | (value, none) =>
        finish after positive significand
          (if positiveExponent then exponent + value else exponent - value)
      | (_, some seen) =>
        if significand ≠ 0 ∧ positiveExponent then .error ((c.skip seen).fault .numberTooLarge)
        else finish after positive 0 0
    else .error ((c.skip 1).fault .badNumber)

/-- Reads what may follow the digits of a double. -/
def readTail (c : Cursor) (positive : Bool) (significand : Nat) (exponent : Int) :
    Except Fault (Number × Cursor) :=
  match c.rest with
  | 101 :: _ | 69 :: _ => readExponent c positive significand exponent
  | _ => finish c positive significand exponent

/-- Reads from the decimal point on. -/
def readFraction (c : Cursor) (positive : Bool) (significand : Nat) (exponent : Int) :
    Except Fault (Number × Cursor) :=
  let c := c.skip 1
  let digits := c.rest.takeWhile isDigit
  let s := Significand.take ⟨significand, 0⟩ digits
  let after := c.skip digits.length
  match digits, after.rest with
  | [], [] => .error (after.faultNext .valueCut)
  | [], _ :: _ => .error (after.faultNext .badNumber)
  | _ :: _, _ => readTail after positive s.value (exponent - s.taken)

/-- A whole number, which is a double where 64 bits do not hold it, and so is minus zero. -/
def wholeNumber (positive : Bool) (significand : Nat) : Number :=
  if positive then .natural significand.toUInt64
  else if 0 < significand ∧ Int64.minValue.toInt ≤ -significand then
    .negative (Int64.ofInt (-significand))
  else .floating ⟨(-(significand.toUInt64.toFloat)).toBits⟩

/-- Reads a number from after its sign on. -/
def readUnsigned (c : Cursor) (positive : Bool) : Except Fault (Number × Cursor) :=
  match c.rest with
  | [] => .error (c.fault .valueCut)
  | b :: rest =>
    if !isDigit b then .error ((c.skip 1).fault .badNumber)
    else if b == 48 && rest.head?.any isDigit then .error ((c.skip 1).faultNext .badNumber)
    else
      let digits := c.rest.takeWhile isDigit
      let s := Significand.take ⟨0, 0⟩ digits
      let after := c.skip digits.length
      let exponent := digits.length - s.taken
      match after.rest with
      | 46 :: _ => readFraction after positive s.value exponent
      | 101 :: _ | 69 :: _ => readExponent after positive s.value exponent
      | _ =>
        if exponent = 0 then .ok (wholeNumber positive s.value, after)
        else finish after positive s.value exponent

def readNumber (c : Cursor) : Except Fault (Number × Cursor) :=
  match c.rest with
  | 45 :: _ => readUnsigned (c.skip 1) false
  | _ => readUnsigned c true

/-- Passes over the exponent of a number, if there is one. -/
def passExponent (c : Cursor) : Except Fault Cursor :=
  match c.rest with
  | 101 :: sign | 69 :: sign =>
    let c := c.skip (if sign.head? == some 43 || sign.head? == some 45 then 2 else 1)
    match c.rest with
    | [] => .error (c.fault .badNumber)
    | b :: _ =>
      if isDigit b then .ok (c.skip (c.rest.takeWhile isDigit).length)
      else .error ((c.skip 1).fault .badNumber)
  | _ => .ok c

def passNumber (c : Cursor) : Except Fault Cursor :=
  let c := if c.rest.head? == some 45 then c.skip 1 else c
  match c.rest with
  | [] => .error (c.fault .badNumber)
  | b :: rest =>
    if !isDigit b then .error ((c.skip 1).fault .badNumber)
    else if b == 48 && rest.head?.any isDigit then .error ((c.skip 1).faultNext .badNumber)
    else
      let c := c.skip (c.rest.takeWhile isDigit).length
      match c.rest with
      | 46 :: _ =>
        let c := c.skip 1
        let digits := c.rest.takeWhile isDigit
        if digits.isEmpty then .error (c.faultNext .badNumber)
        else passExponent (c.skip digits.length)
      | _ => passExponent c

/-! ## Strings -/

/-- The value of a hexadecimal digit. -/
def hexValue? (b : UInt8) : Option Nat :=
  if 48 ≤ b && b ≤ 57 then some (b.toNat - 48)
  else if 97 ≤ b && b ≤ 102 then some (b.toNat - 87)
  else if 65 ≤ b && b ≤ 70 then some (b.toNat - 55)
  else none

/-- The unit that four hexadecimal digits stand for. They follow the place `at`. -/
def unitOf (offset : Nat) : List UInt8 → Except Fault Nat
  | a :: b :: c :: d :: _ =>
    match hexValue? a, hexValue? b, hexValue? c, hexValue? d with
    | some a, some b, some c, some d => .ok (((a * 16 + b) * 16 + c) * 16 + d)
    | _, _, _, _ => .error ⟨.badEscape, offset + 4⟩
  | short => .error ⟨.textCut, offset + short.length⟩

/-- What a one-letter escape stands for. -/
def plainEscape? (b : UInt8) : Option UInt8 :=
  if b == 34 || b == 92 || b == 47 then some b
  else if b == 98 then some 8
  else if b == 102 then some 12
  else if b == 110 then some 10
  else if b == 114 then some 13
  else if b == 116 then some 9
  else none

/-- A unit that begins a pair. -/
def isLeading (n : Nat) : Bool := 0xD800 ≤ n && n ≤ 0xDBFF

/-- A unit that ends a pair. -/
def isTrailing (n : Nat) : Bool := 0xDC00 ≤ n && n ≤ 0xDFFF

/-- The bytes of a code point. -/
def codeBytes (n : Nat) : List UInt8 := String.utf8EncodeChar (Char.ofNat n)

/-- The bytes of a string from after its opening quote on, and the place after its closing quote.
The bytes so far are held in reverse. -/
def readBytes : Nat → Nat → List UInt8 → List UInt8 → Except Fault (List UInt8 × Cursor)
  | 0, offset, _, _ => .error ⟨.textCut, offset⟩
  | _ + 1, offset, _, [] => .error ⟨.textCut, offset⟩
  | fuel + 1, offset, got, b :: r =>
    if b == 34 then .ok (got.reverse, ⟨offset + 1, r⟩)
    else if b < 32 then .error ⟨.controlCharacter, offset + 1⟩
    else if b ≠ 92 then readBytes fuel (offset + 1) (b :: got) r
    else
      match r with
      | [] => .error ⟨.textCut, offset + 1⟩
      | e :: r =>
        match plainEscape? e with
        | some x => readBytes fuel (offset + 2) (x :: got) r
        | none =>
          if e ≠ 117 then .error ⟨.badEscape, offset + 2⟩
          else
            match unitOf (offset + 2) r with
            | .error f => .error f
            | .ok n =>
              let s := r.drop 4
              let offset := offset + 6
              if isTrailing n then .error ⟨.loneSurrogate, offset⟩
              else if !isLeading n then
                readBytes fuel offset ((codeBytes n).reverse ++ got) s
              else
                match s with
                | [] => .error ⟨.textCut, offset⟩
                | [92] => .error ⟨.textCut, offset + 1⟩
                | 92 :: 117 :: s =>
                  match unitOf (offset + 2) s with
                  | .error f => .error f
                  | .ok m =>
                    if isTrailing m then
                      let code := (n - 0xD800) * 1024 + (m - 0xDC00) + 0x10000
                      readBytes fuel (offset + 6) ((codeBytes code).reverse ++ got) (s.drop 4)
                    else .error ⟨.loneSurrogate, offset + 6⟩
                | 92 :: _ :: _ => .error ⟨.surrogateCut, offset + 2⟩
                | _ => .error ⟨.surrogateCut, offset + 1⟩

/-- Reads a string from after its opening quote on. -/
def readText (c : Cursor) : Except Fault (String × Cursor) :=
  (readBytes (c.rest.length + 1) c.offset [] c.rest).map fun (bytes, after) =>
    (Text.Utf8.lossy bytes, after)

/-- Passes over a string, from after its opening quote on. -/
def passBytes : Nat → Nat → List UInt8 → Except Fault Cursor
  | 0, offset, _ => .error ⟨.textCut, offset⟩
  | _ + 1, offset, [] => .error ⟨.textCut, offset⟩
  | fuel + 1, offset, b :: r =>
    if b == 34 then .ok ⟨offset + 1, r⟩
    else if b < 32 then .error ⟨.controlCharacter, offset⟩
    else if b ≠ 92 then passBytes fuel (offset + 1) r
    else
      match r with
      | [] => .error ⟨.textCut, offset + 1⟩
      | e :: r =>
        if (plainEscape? e).isSome then passBytes fuel (offset + 2) r
        else if e ≠ 117 then .error ⟨.badEscape, offset + 2⟩
        else
          match unitOf (offset + 2) r with
          | .error f => .error f
          | .ok _ => passBytes fuel (offset + 6) (r.drop 4)

/-- Passes over a string, from after its opening quote on. -/
def passText (c : Cursor) : Except Fault Cursor := passBytes (c.rest.length + 1) c.offset c.rest

end ImageGateway.Json
