-- Reading bytes as UTF-8. The bytes are first cut into pieces: characters,
-- and the longest stretches that begin a character and then go wrong. The
-- strict and the lenient reading are two views of these pieces.

namespace ImageGateway.Text.Utf8

/-- One piece of a byte sequence that should be UTF-8. -/
inductive Piece where
  /-- A whole character, written in `width` bytes. -/
  | char (c : Char) (width : Nat)
  /-- `width` bytes that begin a character, or none, and are followed by a byte that cannot be. -/
  | bad (width : Nat)
  /-- The bytes end inside a character. -/
  | cut (width : Nat)
  deriving DecidableEq, Repr

/-- A continuation byte. -/
def isTail (b : UInt8) : Bool := 0x80 ≤ b && b ≤ 0xBF

/-- What the second byte after the first byte `a` of a longer character may be. Overlong forms,
surrogates and what is above the last code point are refused here. -/
def isSecond (a b : UInt8) : Bool :=
  if a == 0xE0 then 0xA0 ≤ b && b ≤ 0xBF
  else if a == 0xED then 0x80 ≤ b && b ≤ 0x9F
  else if a == 0xF0 then 0x90 ≤ b && b ≤ 0xBF
  else if a == 0xF4 then 0x80 ≤ b && b ≤ 0x8F
  else isTail b

/-- The number of bytes of the character that starts with `a`, and 0 if none does. -/
def widthOf (a : UInt8) : Nat :=
  if a < 0x80 then 1
  else if 0xC2 ≤ a && a ≤ 0xDF then 2
  else if 0xE0 ≤ a && a ≤ 0xEF then 3
  else if 0xF0 ≤ a && a ≤ 0xF4 then 4
  else 0

/-- The low six bits of a continuation byte. -/
def low (b : UInt8) : Nat := b.toNat % 64

/-- The pieces of a byte sequence, in order. -/
def pieces : List UInt8 → List Piece
  | [] => []
  | a :: r =>
    match widthOf a with
    | 1 => .char (Char.ofNat a.toNat) 1 :: pieces r
    | 2 =>
      match r with
      | [] => [.cut 1]
      | b :: s =>
        if isTail b then .char (Char.ofNat (a.toNat % 32 * 64 + low b)) 2 :: pieces s
        else .bad 1 :: pieces (b :: s)
    | 3 =>
      match r with
      | [] => [.cut 1]
      | b :: s =>
        if isSecond a b then
          match s with
          | [] => [.cut 2]
          | c :: t =>
            if isTail c then
              .char (Char.ofNat ((a.toNat % 16 * 64 + low b) * 64 + low c)) 3 :: pieces t
            else .bad 2 :: pieces (c :: t)
        else .bad 1 :: pieces (b :: s)
    | 4 =>
      match r with
      | [] => [.cut 1]
      | b :: s =>
        if isSecond a b then
          match s with
          | [] => [.cut 2]
          | c :: t =>
            if isTail c then
              match t with
              | [] => [.cut 3]
              | d :: u =>
                if isTail d then
                  .char (Char.ofNat (((a.toNat % 8 * 64 + low b) * 64 + low c) * 64 + low d)) 4
                    :: pieces u
                else .bad 3 :: pieces (d :: u)
            else .bad 2 :: pieces (c :: t)
        else .bad 1 :: pieces (b :: s)
    | _ => .bad 1 :: pieces r

/-- Why bytes are not UTF-8, with the place of the first piece at fault. -/
inductive Fault where
  /-- `width` bytes at `offset` are no character. -/
  | invalid (width offset : Nat)
  /-- The bytes end inside the character at `offset`. -/
  | incomplete (offset : Nat)
  deriving DecidableEq, Repr

def Fault.message : Fault → String
  | .invalid width offset => s!"invalid utf-8 sequence of {width} bytes from index {offset}"
  | .incomplete offset => s!"incomplete utf-8 byte sequence from index {offset}"

/-- The characters of the pieces, which start at `offset`, or the first fault. -/
def chars : List Piece → Nat → Except Fault (List Char)
  | [], _ => .ok []
  | .char c width :: ps, offset => (chars ps (offset + width)).map (c :: ·)
  | .bad width :: _, offset => .error (.invalid width offset)
  | .cut _ :: _, offset => .error (.incomplete offset)

/-- The strict reading: every piece is a character. -/
def decode (bytes : List UInt8) : Except Fault String :=
  (chars (pieces bytes) 0).map String.ofList

/-- What a piece stands for in the lenient reading. -/
def Piece.shown : Piece → Char
  | .char c _ => c
  | _ => '\uFFFD'

/-- The lenient reading: each piece that is no character becomes a replacement character. -/
def lossy (bytes : List UInt8) : String := String.ofList ((pieces bytes).map Piece.shown)

/-- The bytes of a text. -/
def encode (s : String) : List UInt8 := s.toList.flatMap String.utf8EncodeChar

/-- The place of the first zero byte of a text that has one. -/
def firstZero (s : String) : Nat := (encode s).idxOf 0

/-- The bytes of a text as a list of numbers. -/
def listed (s : String) : String :=
  "[" ++ ", ".intercalate ((encode s).map fun b => toString b.toNat) ++ "]"

end ImageGateway.Text.Utf8
