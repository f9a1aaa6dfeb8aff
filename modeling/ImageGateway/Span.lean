-- Arrays that a caller lends: a length and what stands at each place. The
-- length can be looked at without the elements.

namespace ImageGateway

/-- An array that belongs to someone else. -/
structure Span (α : Type) where
  size : Nat
  item : Fin size → α

namespace Span

variable {α : Type}

/-- The elements in order. -/
def toList (s : Span α) : List α := List.ofFn s.item

/-- The elements of a list. -/
def ofList (xs : List α) : Span α := ⟨xs.length, xs.get⟩

/-- An array with the same element everywhere. -/
def replicate (n : Nat) (x : α) : Span α := ⟨n, fun _ => x⟩

@[simp] theorem size_ofList (xs : List α) : (ofList xs).size = xs.length := rfl

@[simp] theorem toList_ofList (xs : List α) : (ofList xs).toList = xs := List.ofFn_getElem

@[simp] theorem length_toList (s : Span α) : s.toList.length = s.size := List.length_ofFn

end Span

end ImageGateway
