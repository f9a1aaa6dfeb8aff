-- Tables of types: which type comes from which, what type an object has, and
-- which types the image library registers. A library that goes by a table says
-- nothing about types that the table does not bear out.

import ImageGateway.Proofs.Resource

namespace ImageGateway

/-- Whether the one type is the other or comes from it, step by step. -/
inductive ComesFrom (parent : TypeId → Option TypeId) : TypeId → TypeId → Prop where
  | refl {type : TypeId} : ComesFrom parent type type
  | step {type next last : TypeId} (hparent : parent type = some next)
      (h : ComesFrom parent next last) : ComesFrom parent type last

theorem ComesFrom.trans {parent : TypeId → Option TypeId} {type next last : TypeId}
    (h : ComesFrom parent type next) (h' : ComesFrom parent next last) :
    ComesFrom parent type last := by
  induction h with
  | refl => exact h'
  | step hparent _ ih => exact .step hparent (ih h')

/-- The types of a library. Nothing here needs them to be free of cycles. -/
structure TypeTable where
  /-- The type that a type comes from, if there is one. -/
  parent : TypeId → Option TypeId
  /-- The type that the header of an object names. -/
  instanceType : Handle → TypeId
  /-- The type that the image library registers. -/
  registered : Registered → TypeId
  invalid : parent .invalid = none
  instances : ∀ object, ComesFrom parent (instanceType object) .object
  boxed : ∀ which ∈ [Registered.blob, .intArray, .doubleArray, .imageArray],
    ComesFrom parent (registered which) .boxed

namespace TypeTable

variable (types : TypeTable)

/-- Whether the one type is the other or comes from it. -/
def IsA : TypeId → TypeId → Prop := ComesFrom types.parent

def IsEnum (type : TypeId) : Prop := types.IsA type .enumeration

/-- Whether the object is an image, as its header says. -/
def IsImage (object : Handle) : Prop :=
  types.IsA (types.instanceType object) (types.registered .image)

/-- The types that a cell can hold something of. -/
def Storable (type : TypeId) : Prop :=
  ∃ root ∈ [TypeId.boolean, .int, .uint64, .double, .string, .enumeration, .boxed, .object],
    types.IsA type root

/-- The type that a setter belongs to. -/
def ofPayload : Payload → TypeId
  | .boolean _ => .boolean
  | .int _ => .int
  | .uint64 _ => .uint64
  | .double _ => .double
  | .string _ => .string
  | .enumeration _ => .enumeration
  | .boxed _ => .boxed
  | .object _ => .object
  | .ints _ => types.registered .intArray
  | .doubles _ => types.registered .doubleArray

/-- The type that a getter belongs to. -/
def ofAccessor : Accessor → TypeId
  | .boolean => .boolean
  | .int => .int
  | .uint64 => .uint64
  | .double => .double
  | .string | .stringCopy => .string
  | .enumeration => .enumeration
  | .boxedCopy => .boxed
  | .object => .object
  | .ints => types.registered .intArray
  | .doubles => types.registered .doubleArray

/-- The cell that a typed entry point is called on, with the type that it belongs to. -/
def accessed? : Request → Option (Cell × TypeId)
  | .call (.cellSet c payload) => some (c, types.ofPayload payload)
  | .call (.cellGet c accessor) => some (c, types.ofAccessor accessor)
  | .call (.makeSlots c _) | .call (.slots c) => some (c, types.registered .imageArray)
  | _ => none

/-- A request that passes what the entry point takes: a cell of the type that it belongs to, or an
image. -/
structure Fits (q : Request) : Prop where
  cells : ∀ c type, types.accessed? q = some (c, type) → types.IsA c.type type
  images : ∀ which object, q = .call (.extent which object) → types.IsImage object

/-- What the library answers. It affirms only what is true of the table, and a cell can be
initialised under every type that it can hold something of. -/
def Admits : (q : Request) → q.Reply → Prop
  | .call (.isA type ancestor), answer => answer ≠ 0 → types.IsA type ancestor
  | .call (.fundamental type), root => root ≠ .invalid → types.IsA type root
  | .call (.registered which), type => type = types.registered which
  | .instanceType object, type => type = types.instanceType object
  | .call (.cellInit type), number => types.Storable type → number.isSome
  | _, _ => True

/-- Whether all answers of a run go by the table. -/
def Answers (events : Transcript) : Prop := ∀ e ∈ events, types.Admits e.request e.reply

variable {types}

theorem isA_refl (type : TypeId) : types.IsA type type := .refl

theorem IsA.trans {type next last : TypeId} (h : types.IsA type next) (h' : types.IsA next last) :
    types.IsA type last := ComesFrom.trans h h'

theorem isA_object (object : Handle) : types.IsA (types.instanceType object) .object :=
  types.instances object

theorem isA_boxed {which : Registered}
    (h : which ∈ [Registered.blob, .intArray, .doubleArray, .imageArray]) :
    types.IsA (types.registered which) .boxed := types.boxed which h

/-- What is no type comes from no type. -/
theorem eq_of_isA_invalid {type : TypeId} (h : types.IsA .invalid type) : type = .invalid := by
  cases h with
  | refl => rfl
  | step hparent _ =>
    rw [types.invalid] at hparent
    cases hparent

theorem IsA.storable {type next : TypeId} (h : types.IsA type next)
    (hnext : types.Storable next) : types.Storable type := by
  obtain ⟨root, hroot, hisA⟩ := hnext
  exact ⟨root, hroot, h.trans hisA⟩

theorem storable_root {root : TypeId}
    (h : root ∈ [TypeId.boolean, .int, .uint64, .double, .string, .enumeration, .boxed, .object]) :
    types.Storable root := ⟨root, h, isA_refl root⟩

theorem storable_registered {which : Registered}
    (h : which ∈ [Registered.blob, .intArray, .doubleArray, .imageArray]) :
    types.Storable (types.registered which) :=
  (isA_boxed h).storable (storable_root (by decide))

theorem Storable.ne_invalid {type : TypeId} (h : types.Storable type) : type ≠ .invalid := by
  rintro rfl
  obtain ⟨root, hroot, hisA⟩ := h
  cases eq_of_isA_invalid hisA
  revert hroot
  decide

theorem cells_of_accessed {q : Request} {c : Cell} {type : TypeId}
    (h : types.accessed? q = some (c, type)) : q.cells = [c] := by
  unfold accessed? at h
  split at h <;> cases h <;> rfl

/-- A cell of the type that a typed entry point belongs to can hold something. -/
theorem storable_of_accessed {q : Request} {c : Cell} {type : TypeId}
    (h : types.accessed? q = some (c, type)) : types.Storable type := by
  unfold accessed? at h
  split at h <;> cases h
  · unfold ofPayload
    split <;> first | exact storable_root (by decide) | exact storable_registered (by decide)
  · unfold ofAccessor
    split <;> first | exact storable_root (by decide) | exact storable_registered (by decide)
  · exact storable_registered (by decide)
  · exact storable_registered (by decide)

end TypeTable

end ImageGateway
