-- The grammar of JSON: what a document can be made of, and the bytes that spell it.
-- One value can be spelled in many ways, as white space may stand between any two
-- signs and a character of a string may be written as itself or escaped.

import ImageGateway.Json.Literal

namespace ImageGateway.Json

/-! ## Numbers -/

/-- One digit or more. -/
structure Digits where
  bytes : List UInt8
  any : bytes ≠ []
  only : ∀ b ∈ bytes, isDigit b = true

/-- The number that the digits denote, behind a number that comes before them. -/
def valueOf (digits : List UInt8) (before : Nat) : Nat :=
  digits.foldl (fun value b => value * 10 + (b.toNat - 48)) before

def Digits.value (digits : Digits) : Nat := valueOf digits.bytes 0

/-- The power of ten of a number. -/
structure Exponent where
  capital : Bool
  /-- The sign, if there is one, and then whether it is a minus. -/
  minus? : Option Bool
  digits : Digits

/-- What stands behind the letter. -/
def Exponent.power (e : Exponent) : List UInt8 :=
  match e.minus? with
  | none => e.digits.bytes
  | some minus => (if minus then 45 else 43) :: e.digits.bytes

def Exponent.bytes (e : Exponent) : List UInt8 := (if e.capital then 69 else 101) :: e.power

/-- A number as it is written. -/
structure Numeral where
  minus : Bool
  whole : Digits
  /-- A zero is the only digit where it is the first. -/
  plain : whole.bytes.head? = some 48 → whole.bytes = [48]
  fraction : Option Digits
  exponent : Option Exponent

namespace Numeral

/-- The exponent, if there is one. -/
def scale (n : Numeral) : List UInt8 :=
  match n.exponent with
  | none => []
  | some e => e.bytes

/-- What stands behind the whole digits. -/
def tail (n : Numeral) : List UInt8 :=
  match n.fraction with
  | none => n.scale
  | some digits => 46 :: (digits.bytes ++ n.scale)

def bytes (n : Numeral) : List UInt8 :=
  if n.minus then 45 :: (n.whole.bytes ++ n.tail) else n.whole.bytes ++ n.tail

/-- The number if it is written without a fraction and without an exponent, and is not minus
zero. -/
def value? (n : Numeral) : Option Int :=
  match n.fraction, n.exponent, n.minus with
  | none, none, false => some n.whole.value
  | none, none, true => if n.whole.value = 0 then none else some (-n.whole.value)
  | _, _, _ => none

end Numeral

/-! ## Strings -/

/-- A hexadecimal digit and its value. -/
inductive HexDigit : UInt8 → Nat → Prop where
  | digit {n : Nat} (h : n < 10) : HexDigit (UInt8.ofNat (48 + n)) n
  | small {n : Nat} (h : n < 6) : HexDigit (UInt8.ofNat (97 + n)) (10 + n)
  | capital {n : Nat} (h : n < 6) : HexDigit (UInt8.ofNat (65 + n)) (10 + n)

/-- Four hexadecimal digits and their value. -/
inductive SpellsUnit : List UInt8 → Nat → Prop where
  | mk {a b c d : UInt8} {x y z w : Nat} (ha : HexDigit a x) (hb : HexDigit b y)
      (hc : HexDigit c z) (hd : HexDigit d w) :
      SpellsUnit [a, b, c, d] (((x * 16 + y) * 16 + z) * 16 + w)

/-- The letters that stand for a character behind a backslash. -/
def escapes : List (UInt8 × Char) :=
  [(34, '"'), (92, '\\'), (47, '/'), (98, '\x08'), (102, '\x0c'), (110, '\n'), (114, '\r'),
    (116, '\t')]

/-- The bytes between the quotes of a string, and its characters. -/
inductive SpellsText : List UInt8 → List Char → Prop where
  | nil : SpellsText [] []
  | plain {c : Char} {bytes : List UInt8} {cs : List Char} (quote : c ≠ '"') (escape : c ≠ '\\')
      (control : 32 ≤ c.toNat) (rest : SpellsText bytes cs) :
      SpellsText (String.utf8EncodeChar c ++ bytes) (c :: cs)
  | escaped {c : Char} {letter : UInt8} {bytes : List UInt8} {cs : List Char}
      (listed : (letter, c) ∈ escapes) (rest : SpellsText bytes cs) :
      SpellsText (92 :: letter :: bytes) (c :: cs)
  | unit {n : Nat} {digits bytes : List UInt8} {cs : List Char} (spelled : SpellsUnit digits n)
      (scalar : n < 0xD800 ∨ 0xDFFF < n) (rest : SpellsText bytes cs) :
      SpellsText (92 :: 117 :: (digits ++ bytes)) (Char.ofNat n :: cs)
  /-- What needs more than 16 bits is written as two units. -/
  | pair {n m : Nat} {digits others bytes : List UInt8} {cs : List Char}
      (leading : SpellsUnit digits n) (first : 0xD800 ≤ n ∧ n ≤ 0xDBFF)
      (trailing : SpellsUnit others m) (second : 0xDC00 ≤ m ∧ m ≤ 0xDFFF)
      (rest : SpellsText bytes cs) :
      SpellsText (92 :: 117 :: (digits ++ 92 :: 117 :: (others ++ bytes)))
        (Char.ofNat ((n - 0xD800) * 1024 + (m - 0xDC00) + 0x10000) :: cs)

/-- A character that can stand for itself. -/
def isPlain (c : Char) : Bool := c ≠ '"' && c ≠ '\\' && 32 ≤ c.toNat

/-- A text of such characters spells itself. -/
theorem spellsText_of_plain {cs : List Char} (h : cs.all isPlain = true) :
    SpellsText (cs.flatMap String.utf8EncodeChar) cs := by
  induction cs with
  | nil => exact .nil
  | cons c cs ih =>
    obtain ⟨hc, hcs⟩ := (Bool.and_eq_true _ _).mp (List.all_cons ▸ h)
    obtain ⟨⟨hquote, hescape⟩, hcontrol⟩ : (c ≠ '"' ∧ c ≠ '\\') ∧ 32 ≤ c.toNat := by
      simpa [isPlain] using hc
    exact .plain hquote hescape hcontrol (ih hcs)

/-! ## Values -/

/-- What a document says. -/
inductive Tree where
  | null
  | boolean (b : Bool)
  | number (n : Numeral)
  | text (s : String)
  | list (items : List Tree)
  /-- The members in the order in which they are written. -/
  | object (members : List (String × Tree))

/-- White space, or nothing. -/
def Blank (bytes : List UInt8) : Prop := ∀ b ∈ bytes, isSpace b = true

theorem blank_nil : Blank [] := nofun

mutual

/-- The bytes of a value, without white space around it. -/
inductive Spells : List UInt8 → Tree → Prop where
  | null : Spells [110, 117, 108, 108] .null
  | yes : Spells [116, 114, 117, 101] (.boolean true)
  | no : Spells [102, 97, 108, 115, 101] (.boolean false)
  | number (n : Numeral) : Spells n.bytes (.number n)
  | text {bytes : List UInt8} {s : String} (h : SpellsText bytes s.toList) :
      Spells (34 :: (bytes ++ [34])) (.text s)
  | noItems {blank : List UInt8} (h : Blank blank) : Spells (91 :: (blank ++ [93])) (.list [])
  | list {blank bytes : List UInt8} {items : List Tree} (before : Blank blank)
      (h : SpellsItems bytes items) : Spells (91 :: (blank ++ bytes)) (.list items)
  | noMembers {blank : List UInt8} (h : Blank blank) :
      Spells (123 :: (blank ++ [125])) (.object [])
  | object {blank bytes : List UInt8} {members : List (String × Tree)} (before : Blank blank)
      (h : SpellsMembers bytes members) : Spells (123 :: (blank ++ bytes)) (.object members)

/-- The bytes of a list from an item on. -/
inductive SpellsItems : List UInt8 → List Tree → Prop where
  | last {bytes blank : List UInt8} {item : Tree} (h : Spells bytes item) (after : Blank blank) :
      SpellsItems (bytes ++ (blank ++ [93])) [item]
  | more {bytes blank₁ blank₂ rest : List UInt8} {item : Tree} {items : List Tree}
      (h : Spells bytes item) (after : Blank blank₁) (before : Blank blank₂)
      (others : SpellsItems rest items) :
      SpellsItems (bytes ++ (blank₁ ++ 44 :: (blank₂ ++ rest))) (item :: items)

/-- The bytes of a member. -/
inductive SpellsMember : List UInt8 → String × Tree → Prop where
  | mk {name blank₁ blank₂ bytes : List UInt8} {key : String} {value : Tree}
      (named : SpellsText name key.toList) (before : Blank blank₁) (after : Blank blank₂)
      (h : Spells bytes value) :
      SpellsMember (34 :: (name ++ 34 :: (blank₁ ++ 58 :: (blank₂ ++ bytes)))) (key, value)

/-- The bytes of an object from a member on. -/
inductive SpellsMembers : List UInt8 → List (String × Tree) → Prop where
  | last {bytes blank : List UInt8} {member : String × Tree} (h : SpellsMember bytes member)
      (after : Blank blank) : SpellsMembers (bytes ++ (blank ++ [125])) [member]
  | more {bytes blank₁ blank₂ rest : List UInt8} {member : String × Tree}
      {members : List (String × Tree)} (h : SpellsMember bytes member) (after : Blank blank₁)
      (before : Blank blank₂) (others : SpellsMembers rest members) :
      SpellsMembers (bytes ++ (blank₁ ++ 44 :: (blank₂ ++ rest))) (member :: members)

end

/-- The bytes of a document, in which white space may stand around the value. -/
inductive SpellsDocument : List UInt8 → Tree → Prop where
  | mk {blank₁ bytes blank₂ : List UInt8} {tree : Tree} (before : Blank blank₁)
      (h : Spells bytes tree) (after : Blank blank₂) :
      SpellsDocument (blank₁ ++ (bytes ++ blank₂)) tree

end ImageGateway.Json
