-- The flags of an argument, as a set of bits. Eight of the bits have names.
-- The others are kept as they come, for libraries newer than the names.

import ImageGateway.Text.Quoted

namespace ImageGateway

/-- The flags of an argument. -/
structure ArgumentFlags where
  bits : UInt32
  deriving DecidableEq, Repr, Inhabited

namespace ArgumentFlags

/-- The flags with a name, in order. -/
def named : List (String × UInt32) := [
  ("REQUIRED", 1), ("CONSTRUCT", 2), ("SET_ONCE", 4), ("SET_ALWAYS", 8),
  ("INPUT", 16), ("OUTPUT", 32), ("DEPRECATED", 64), ("MODIFY", 128)]

def empty : ArgumentFlags := ⟨0⟩

def all : ArgumentFlags := ⟨named.foldl (fun bits flag => bits ||| flag.2) 0⟩

def isEmpty (f : ArgumentFlags) : Bool := f.bits == 0

/-- Whether every flag of `g` is set. -/
def contains (f g : ArgumentFlags) : Bool := f.bits &&& g.bits == g.bits

/-- Whether a flag of `g` is set. -/
def intersects (f g : ArgumentFlags) : Bool := f.bits &&& g.bits != 0

/-- Whether every flag with a name is set. -/
def isAll (f : ArgumentFlags) : Bool := f.contains all

def union (f g : ArgumentFlags) : ArgumentFlags := ⟨f.bits ||| g.bits⟩

def inter (f g : ArgumentFlags) : ArgumentFlags := ⟨f.bits &&& g.bits⟩

/-- The flags of `f` that are not set in `g`. -/
def diff (f g : ArgumentFlags) : ArgumentFlags := ⟨f.bits &&& ~~~g.bits⟩

/-- The flags that are set in one of the two only. -/
def symmDiff (f g : ArgumentFlags) : ArgumentFlags := ⟨f.bits ^^^ g.bits⟩

/-- The flags of `f` that have a name. -/
def truncate (f : ArgumentFlags) : ArgumentFlags := f.inter all

/-- The flags with a name that are not set. -/
def complement (f : ArgumentFlags) : ArgumentFlags := all.diff f

/-- The flags that the bits stand for, if each of them has a name. -/
def ofBits? (bits : UInt32) : Option ArgumentFlags :=
  if (truncate ⟨bits⟩).bits = bits then some ⟨bits⟩ else none

/-- The names of the flags that are set, in order. -/
def names (f : ArgumentFlags) : List String :=
  (named.filter fun flag => f.contains ⟨flag.2⟩).map (·.1)

/-- The set as a developer sees it: the names, and the bits without a name in one number. -/
def shown (f : ArgumentFlags) : String :=
  let rest := (f.diff all).bits
  let unnamed := if rest = 0 then [] else ["0x" ++ Text.hexDigits rest.toNat]
  let shownParts := f.names ++ unnamed
  "ArgumentFlags("
    ++ (if shownParts.isEmpty then "0x0" else " | ".intercalate shownParts) ++ ")"

end ArgumentFlags

end ImageGateway
