-- What goes into a value and what comes out of it. An argument or the number of
-- an enum is put into a cell of its type. The reader of its kind finds it there,
-- and every other reader refuses it after a look at the type.

import ImageGateway.Proofs.Keeping.Library
import ImageGateway.Proofs.Utf8

namespace ImageGateway

open Program

/-! ## What goes in -/

/-- Something that is put into a value: an argument, or the number of an enum value. -/
inductive Content where
  | argument (argument : Argument)
  | enumeration (type : TypeId) (n : Int32)

namespace Content

/-- Puts it into a new value. -/
def make : Content → Attempt Value
  | argument a => a.toValue
  | enumeration type n => Value.ofEnum type n

/-- The type of its value. -/
def type (types : TypeTable) : Content → TypeId
  | argument (.bool _) => .boolean
  | argument (.int _) => .int
  | argument (.uint64 _) => .uint64
  | argument (.double _) => .double
  | argument (.text _) => .string
  | argument (.ints _) => types.registered .intArray
  | argument (.doubles _) => types.registered .doubleArray
  | argument (.images _) => types.registered .imageArray
  | argument (.bytes _) => types.registered .blob
  | argument (.image i) => types.instanceType i.object.handle
  | argument (.object o) => types.instanceType o.handle
  | enumeration type _ => type

/-- What a value can hold and give back: texts without a zero byte, arrays that the library can
count, and numbers of enums. Arrays of images have no reader. -/
def Fits (types : TypeTable) : Content → Prop
  | argument (.text s) => (CText.ofString? s).isSome
  | argument (.ints xs) => xs.size ≤ Int32.maxValue.toInt
  | argument (.doubles xs) => xs.size ≤ Int32.maxValue.toInt
  | argument (.images _) => False
  | enumeration type _ => types.IsEnum type
  | _ => True

/-- What the library has in the cell. -/
def Stored (s : Store) : Content → Payload → Prop
  | argument (.bool b), p => p = .boolean (if b then 1 else 0)
  | argument (.int n), p => p = .int n
  | argument (.uint64 n), p => p = .uint64 n
  | argument (.double x), p => p = .double x
  | argument (.text t), p => ∃ text, CText.ofString? t = some text ∧ p = .string text
  | argument (.ints xs), p => p = .ints xs.toList
  | argument (.doubles xs), p => p = .doubles xs.toList
  | argument (.images _), _ => False
  | argument (.bytes bytes), p => ∃ blob, p = .boxed blob ∧ s.blobs blob = bytes
  | argument (.image i), p => p = .object i.object.handle
  | argument (.object o), p => p = .object o.handle
  | enumeration _ n, p => p = .enumeration n

/-- The value has a cell of its own, and the content is in it. -/
def Kept (lib : Keeper) (c : Content) (v : Value) (s : Store) : Prop :=
  ∃ k p, v.cell = ⟨some k, c.type lib.types.toTypeTable⟩ ∧ s.cells k = some (some p) ∧ c.Stored s p

end Content

/-! ## What comes out -/

/-- A typed reader of values. -/
inductive Getter where
  | bool
  | int
  | uint64
  | double
  | text
  | ints
  | doubles
  | blob
  | object
  | image
  deriving DecidableEq

namespace Getter

abbrev Answer : Getter → Type
  | bool => Bool
  | int => Int32
  | uint64 => UInt64
  | double => Double
  | text => Option String
  | ints => List Int32
  | doubles => List Double
  | blob => Option Blob
  | object => Option Object
  | image => Option Image

def read (v : Value) : (getter : Getter) → Attempt getter.Answer
  | bool => v.getBool
  | int => v.getInt
  | uint64 => v.getUInt64
  | double => v.getDouble
  | text => v.getString
  | ints => v.getInts
  | doubles => v.getDoubles
  | blob => v.getBlob
  | object => v.getObject
  | image => v.getImage

/-- The type that the reader asks for. -/
def type (types : TypeTable) : Getter → TypeId
  | bool => .boolean
  | int => .int
  | uint64 => .uint64
  | double => .double
  | text => .string
  | ints => types.registered .intArray
  | doubles => types.registered .doubleArray
  | blob => types.registered .blob
  | object => .object
  | image => types.registered .image

end Getter

namespace Content

/-- Whether the reader is the one for the content. An image is an object too. -/
def Suits (types : TypeTable) : Content → Getter → Prop
  | argument (.bool _), .bool | argument (.int _), .int | enumeration _ _, .int => True
  | argument (.uint64 _), .uint64 | argument (.double _), .double => True
  | argument (.text _), .text | argument (.ints _), .ints | argument (.doubles _), .doubles => True
  | argument (.bytes _), .blob => True
  | argument (.image _), .object | argument (.object _), .object => True
  | argument (.image i), .image => types.IsImage i.object.handle
  | argument (.object o), .image => types.IsImage o.handle
  | _, _ => False

/-- The answer is the content. Bytes come as a blob that has them. -/
def Given (has : Blob → List UInt8 → Prop) : Content → (getter : Getter) → getter.Answer → Prop
  | argument (.bool b), .bool, answer => answer = b
  | argument (.int n), .int, answer | enumeration _ n, .int, answer => answer = n
  | argument (.uint64 n), .uint64, answer => answer = n
  | argument (.double x), .double, answer => answer = x
  | argument (.text t), .text, answer => answer = some t
  | argument (.ints xs), .ints, answer => answer = xs.toList
  | argument (.doubles xs), .doubles, answer => answer = xs.toList
  | argument (.bytes bytes), .blob, answer => ∃ blob, answer = some blob ∧ has blob bytes
  | argument (.image i), .object, answer => answer = some i.object
  | argument (.object o), .object, answer => answer = some o
  | argument (.image i), .image, answer => answer = some i
  | argument (.object o), .image, answer => answer = some ⟨o⟩
  | _, _, _ => False

theorem Given.mono {has had : Blob → List UInt8 → Prop} {c : Content} {getter : Getter}
    {answer : getter.Answer} (h : c.Given has getter answer)
    (himp : ∀ blob bytes, has blob bytes → had blob bytes) : c.Given had getter answer := by
  unfold Given at h ⊢
  split at h <;> first | exact h | skip
  obtain ⟨blob, hanswer, hhas⟩ := h
  exact ⟨blob, hanswer, himp _ _ hhas⟩

end Content

/-! ## Which reader is the one -/

namespace TypeSystem

variable {types : TypeSystem} {c : Content} {getter : Getter}

/-- The root of the type of a content. -/
def contentRoot : Content → TypeId
  | .argument (.bool _) => .boolean
  | .argument (.int _) => .int
  | .argument (.uint64 _) => .uint64
  | .argument (.double _) => .double
  | .argument (.text _) => .string
  | .argument (.ints _) | .argument (.doubles _) | .argument (.images _) => .boxed
  | .argument (.bytes _) => .boxed
  | .argument (.image _) | .argument (.object _) => .object
  | .enumeration _ _ => .enumeration

/-- The root of the type that a reader asks for. -/
def getterRoot : Getter → TypeId
  | .bool => .boolean
  | .int => .int
  | .uint64 => .uint64
  | .double => .double
  | .text => .string
  | .ints | .doubles | .blob => .boxed
  | .object | .image => .object

theorem contentRoot_mem_storable (c : Content) : contentRoot c ∈
    [TypeId.boolean, .int, .uint64, .double, .string, .enumeration, .boxed, .object] := by
  rcases c with a | _
  · cases a <;> simp [contentRoot]
  · simp [contentRoot]

theorem contentRoot_mem (c : Content) : contentRoot c ∈ TypeId.roots :=
  (by decide : [TypeId.boolean, .int, .uint64, .double, .string, .enumeration, .boxed, .object] ⊆
    TypeId.roots) (contentRoot_mem_storable c)

theorem getterRoot_mem (getter : Getter) : getterRoot getter ∈ TypeId.roots := by
  cases getter <;> decide

open TypeTable in
theorem isA_contentRoot (h : c.Fits types.toTypeTable) :
    types.IsA (c.type types.toTypeTable) (contentRoot c) := by
  rcases c with a | ⟨type, n⟩
  · cases a <;> first | exact isA_refl _ | exact isA_boxed (by decide) | exact isA_object _
  · exact h

theorem storable_content (h : c.Fits types.toTypeTable) :
    types.Storable (c.type types.toTypeTable) :=
  (isA_contentRoot h).storable (TypeTable.storable_root (contentRoot_mem_storable c))

open TypeTable in
theorem isA_getterRoot (getter : Getter) :
    types.IsA (getter.type types.toTypeTable) (getterRoot getter) := by
  cases getter <;> first | exact isA_refl _ | exact isA_boxed (by decide) |
    exact types.objects _ (by decide)

/-- A reader asks for a type of which the content is, if and only if it is the one for it. Numbers
of enums are read in another way. -/
theorem suits_of_isA (hfits : c.Fits types.toTypeTable)
    (h : types.IsA (c.type types.toTypeTable) (getter.type types.toTypeTable)) :
    c.Suits types.toTypeTable getter := by
  have hroot : contentRoot c = getterRoot getter :=
    root_unique (contentRoot_mem c) (getterRoot_mem getter) (isA_contentRoot hfits)
      (TypeTable.IsA.trans h (isA_getterRoot getter))
  rcases c with a | ⟨type, n⟩
  · cases a <;> cases getter <;> simp only [contentRoot, getterRoot] at hroot <;> first
      | trivial
      | exact h
      | exact absurd hroot (by decide)
      | exact absurd (types.apart _ (by decide) _ (by decide) h) (by decide)
  · cases getter <;> simp only [contentRoot, getterRoot] at hroot <;> trivial

end TypeSystem

/-! ## Making -/

namespace Keeper

variable {lib : Keeper} {s : Store} {failed : Failure → Store → Prop}

/-- A new cell of a type that can hold something. -/
theorem ensures_make {type : TypeId} (h : lib.types.Storable type) :
    lib.watch.Ensures s (Value.make type) fun v t =>
      ∃ k, v.cell = ⟨some k, type⟩ ∧ t = s.fill v.cell none := by
  refine ⟨trivial, fun number hnumber => ?_⟩
  have hsome := hnumber.2 h
  cases number with
  | none => cases hsome
  | some k => exact ⟨k, rfl, rfl⟩

theorem ensures_filled {type : TypeId} {payload : Payload} (h : lib.types.Storable type) :
    lib.watch.Ensures s (Value.filled type payload) fun v t =>
      ∃ k, v.cell = ⟨some k, type⟩ ∧ t = (s.fill v.cell none).fill v.cell (some payload) := by
  refine (ensures_make h).bind fun v t hv => ?_
  obtain ⟨k, hcell, rfl⟩ := hv
  exact ⟨trivial, fun _ _ => ⟨k, hcell, rfl⟩⟩

variable {c : Content}

theorem kept_of_filled {type : TypeId} {payload : Payload} {v : Value} {t : Store}
    (htype : c.type lib.types.toTypeTable = type) (hstored : ∀ t : Store, t.blobs = s.blobs →
      c.Stored t payload)
    (h : ∃ k, v.cell = ⟨some k, type⟩ ∧ t = (s.fill v.cell none).fill v.cell (some payload)) :
    c.Kept lib v t := by
  subst htype
  obtain ⟨k, hcell, rfl⟩ := h
  exact ⟨k, payload, hcell, fill_cells_self _ (by rw [hcell]) _, hstored _ rfl⟩

/-- On the published table, a payload is put into a new cell. -/
theorem tries_boxed {type : TypeId} {payload : Payload} (h : lib.types.Storable type)
    (htype : c.type lib.types.toTypeTable = type)
    (hstored : ∀ t : Store, t.blobs = s.blobs → c.Stored t payload) :
    lib.watch.Tries s (do requireTable; Value.filled type payload) (c.Kept lib) failed :=
  tries_requireTable trivial (Watch.tries_lift.2 ((ensures_filled h).mono fun _ _ =>
    kept_of_filled htype hstored))

theorem tries_nativeText {α : Type} {text : String} {native : CText} {k : CText → Attempt α}
    {P : Request → Prop} {ok : α → Store → Prop} (h : CText.ofString? text = some native)
    (hk : (lib.guard P).Tries s (k native) ok failed) :
    (lib.guard P).Tries s (nativeText text >>= k) ok failed := by
  unfold nativeText
  rw [h]
  exact hk

/-- The library is asked for a type that it registers. -/
theorem tries_registered {α : Type} {which : Registered} {k : TypeId → Attempt α}
    {P : Request → Prop} {ok : α → Store → Prop} (hP : P (.call (.registered which)))
    (h : (lib.guard P).Tries s (k (lib.types.registered which)) ok failed) :
    (lib.guard P).Tries s (liftM (native (.registered which)) >>= k) ok failed := by
  refine tries_ask hP fun type htype => ?_
  obtain rfl : type = lib.types.registered which := htype
  exact h

theorem tries_countOf {α : Type} {n : Nat} {k : Int32 → Attempt α} {ok : α → Store → Prop}
    (h : n ≤ Int32.maxValue.toInt) (hk : lib.watch.Tries s (k (Int32.ofNat n)) ok failed) :
    lib.watch.Tries s (Value.countOf n >>= k) ok failed := by
  unfold Value.countOf
  rw [if_pos h]
  exact hk

theorem tries_array {which : Registered} {n : Nat} {payload : Payload}
    (hwhich : which ∈ [Registered.blob, .intArray, .doubleArray, .imageArray])
    (hn : n ≤ Int32.maxValue.toInt)
    (htype : c.type lib.types.toTypeTable = lib.types.registered which)
    (hstored : ∀ t : Store, t.blobs = s.blobs → c.Stored t payload) :
    lib.watch.Tries s (do
      requireTable
      let _ ← Value.countOf n
      Value.filled (← native (.registered which)) payload) (c.Kept lib) failed :=
  tries_requireTable trivial <| tries_countOf hn <| tries_registered trivial <|
    Watch.tries_lift.2 <| (ensures_filled (TypeTable.storable_registered hwhich)).mono fun _ _ =>
      kept_of_filled htype hstored

theorem tries_ofObject {object : Object}
    (htype : c.type lib.types.toTypeTable = lib.types.instanceType object.handle)
    (hstored : ∀ t : Store, c.Stored t (.object object.handle)) :
    lib.watch.Tries s (Value.ofObject object) (c.Kept lib) failed := by
  refine tries_requireTable trivial (tries_ask trivial fun type hanswer => ?_)
  obtain rfl : type = lib.types.instanceType object.handle := hanswer
  have hstorable : lib.types.Storable (lib.types.instanceType object.handle) :=
    (TypeTable.isA_object _).storable (TypeTable.storable_root (by decide))
  exact Watch.tries_lift.2 ((ensures_filled hstorable).mono fun _ _ =>
    kept_of_filled htype fun t _ => hstored t)

/-- The blob of some bytes is given up once a cell shares it. -/
theorem tries_ofBytes {bytes : List UInt8} :
    lib.watch.Tries s (Value.ofBytes bytes) ((Content.argument (.bytes bytes)).Kept lib)
      failed := by
  refine Watch.tries_bind.2 (tries_requireTable trivial (tries_ask trivial fun blob hblob => ?_))
  obtain ⟨b, rfl, -⟩ := hblob
  refine Watch.tries_closedBy.2 (tries_requireTable trivial (tries_registered trivial ?_))
  have hstorable : lib.types.Storable (lib.types.registered .blob) :=
    TypeTable.storable_registered (by decide)
  refine Watch.tries_lift.2 ((ensures_filled hstorable).mono fun v t hv => ?_)
  have hkept : (Content.argument (.bytes bytes)).Kept lib v t :=
    kept_of_filled rfl (fun u hu => ⟨b, rfl, (congrFun hu b).trans (if_pos rfl)⟩) hv
  exact ensures_ifLoaded trivial ⟨trivial, fun _ _ => hkept⟩

end Keeper

open Keeper TypeTable in
/-- What fits is put into a cell. -/
theorem Content.make_tries {lib : Keeper} {s : Store} {c : Content}
    (h : c.Fits lib.types.toTypeTable) :
    lib.watch.Tries s c.make (c.Kept lib) fun _ _ => False := by
  rcases c with a | ⟨type, n⟩
  · cases a with
    | bool b => exact tries_boxed (storable_root (by decide)) rfl fun _ _ => rfl
    | int n => exact tries_boxed (storable_root (by decide)) rfl fun _ _ => rfl
    | uint64 n => exact tries_boxed (storable_root (by decide)) rfl fun _ _ => rfl
    | double x => exact tries_boxed (storable_root (by decide)) rfl fun _ _ => rfl
    | text text =>
      obtain ⟨native, hnative⟩ := Option.isSome_iff_exists.1 h
      exact tries_nativeText hnative
        (tries_boxed (storable_root (by decide)) rfl fun _ _ => ⟨native, hnative, rfl⟩)
    | ints xs => exact tries_array (by decide) h rfl fun _ _ => rfl
    | doubles xs => exact tries_array (by decide) h rfl fun _ _ => rfl
    | images images => exact h.elim
    | bytes bytes => exact tries_ofBytes
    | image image => exact tries_ofObject rfl fun _ => rfl
    | object object => exact tries_ofObject rfl fun _ => rfl
  · exact tries_boxed (IsA.storable h (storable_root (by decide))) rfl fun _ _ => rfl

/-! ## Waiting -/

namespace Content

variable {lib : Keeper} {s : Store} {c : Content} {v : Value}

theorem Stored.of_blobs {t : Store} {p : Payload} (h : c.Stored s p)
    (hblobs : ∀ blob, p = .boxed blob → t.blobs blob = s.blobs blob) : c.Stored t p := by
  rcases c with a | ⟨type, n⟩
  · cases a with
    | bytes bytes =>
      obtain ⟨blob, rfl, hbytes⟩ := h
      exact ⟨blob, rfl, (hblobs blob rfl).trans hbytes⟩
    | _ => exact h
  · exact h

/-- What is in a cell is in it until the cell is altered. -/
theorem Kept.after {events : Transcript} (h : c.Kept lib v s) (hlib : lib.watch.Admits s events)
    (huntouched : ∀ e ∈ events, ∀ k, v.cell.number = some k → ¬ e.request.Alters k) :
    c.Kept lib v (lib.watch.after s events) := by
  induction events generalizing s with
  | nil => exact h
  | cons e events ih =>
    obtain ⟨hadmitted, hrest⟩ := hlib
    refine ih ?_ hrest fun e he => huntouched e (List.mem_cons_of_mem _ he)
    obtain ⟨k, p, hcell, hcontent, hstored⟩ := h
    have hunaltered := huntouched e (List.mem_cons_self ..) k (by rw [hcell])
    refine ⟨k, p, hcell, Keeper.next_cells hunaltered hadmitted hcontent, ?_⟩
    refine hstored.of_blobs fun blob hblob => Keeper.next_blobs hadmitted (.inl ⟨k, ?_⟩)
    rw [hcontent, hblob]

end Content

/-! ## Reading -/

namespace Keeper

variable {lib : Keeper} {s : Store} {P : Request → Prop} {α : Type} {v : Value}
  {failed : Failure → Store → Prop}

/-- A reader that asks for a type of which the value is finds what is in the cell. -/
theorem tries_readAs {type : TypeId} {accessor : Accessor} {payload : Payload}
    {ok : accessor.Reply → Store → Prop} (hisA : lib.types.IsA v.type type)
    (hcontent : s.content v.cell = some payload)
    (hok : ∀ r, payload.Answers accessor r → ok r s) :
    lib.watch.Tries s (v.readAs type accessor) ok failed := by
  refine Watch.tries_bind.2 (tries_ask (q := .call (.isA v.type type)) trivial
    fun answer hanswer => ?_)
  have htrue : answer ≠ 0 := hanswer.2 hisA
  rw [if_neg (by simpa using htrue)]
  exact Watch.tries_lift.2 ⟨trivial, fun r hr => hok r (hr payload hcontent)⟩

theorem tries_expect {type : TypeId} {k : Unit → Attempt α} {ok : α → Store → Prop}
    (hisA : lib.types.IsA v.type type) (h : lib.watch.Tries s (k ()) ok failed) :
    lib.watch.Tries s (v.expect type >>= k) ok failed := by
  refine Watch.tries_bind.2 (tries_ask (q := .call (.isA v.type type)) trivial
    fun answer hanswer => ?_)
  have htrue : answer ≠ 0 := hanswer.2 hisA
  rw [if_neg (by simpa using htrue)]
  exact h

/-- A reference that someone else holds is borrowed. -/
theorem tries_borrow {handle : Handle} {ok : Option Object → Store → Prop}
    (h : ok (some ⟨handle⟩) s) : lib.watch.Tries s (Object.borrow? (some handle)) ok failed :=
  tries_requireTable trivial (tries_ask trivial fun _ _ => h)

/-- An image is an image. -/
theorem tries_ofObject_image {object : Object} {ok : Image → Store → Prop}
    (himage : lib.types.IsImage object.handle) (h : ok ⟨object⟩ s) :
    lib.watch.Tries s (Image.ofObject object) ok failed := by
  have hisA : lib.watch.Tries s (object.isA (lib.types.registered .image))
      (fun b t => b = true ∧ t = s) fun _ _ => False := by
    refine tries_requireTable trivial (tries_ask trivial fun type htype => ?_)
    obtain rfl : type = lib.types.instanceType object.handle := htype
    refine tries_ask trivial fun answer hanswer => ?_
    have htrue : answer ≠ 0 := hanswer.2 himage
    exact ⟨by simpa using htrue, rfl⟩
  refine Watch.Tries.result (?_ : lib.watch.Tries s _ (fun image t => image = ⟨object⟩ ∧ t = s)
    fun _ _ => False) ?_ fun _ _ hfalse => hfalse.elim
  · refine Watch.tries_bind.2 (tries_requireTable trivial (Watch.tries_lift.2
      ⟨trivial, fun type htype => ?_⟩))
    obtain rfl : type = lib.types.registered .image := htype
    refine hisA.bind fun b t hb => ?_
    obtain ⟨rfl, rfl⟩ := hb
    exact ⟨rfl, rfl⟩
  · rintro _ _ ⟨rfl, rfl⟩
    exact h

/-- Whoever asks for the bytes of the blob finds these. -/
def Tells (lib : Keeper) (s : Store) (blob : Blob) (bytes : List UInt8) : Prop :=
  ∀ events found, blob.bytes.Runs events found → lib.watch.Admits s events → found = bytes

theorem tells_of_blobs {blob : Blob} {bytes : List UInt8} (h : s.blobs blob.handle = bytes) :
    lib.Tells s blob bytes := by
  intro events found hrun hlib
  have hensures : lib.watch.Ensures s blob.bytes fun found _ => found = s.blobs blob.handle := by
    refine ⟨trivial, fun table htable => ?_⟩
    cases table with
    | none => cases htable
    | some table => exact ⟨trivial, fun bytes hbytes => hbytes⟩
  exact (hensures.of_runs hrun hlib).2.trans h

/-- A look at the type is enough to refuse. The failure names both types. -/
theorem tries_expect_refused {type : TypeId} {k : Unit → Attempt α} {ok : α → Store → Prop}
    (hP : ∀ q : Request, q.Inquiry → P q) (hisA : ¬ lib.types.IsA v.type type)
    (hfailed : failed (.typeMismatch (lib.shown type) (lib.shown v.type)) s) :
    (lib.guard P).Tries s (v.expect type >>= k) ok failed := by
  refine Watch.tries_bind.2 (tries_ask (q := .call (.isA v.type type)) (hP _ trivial)
    fun answer hanswer => ?_)
  have hzero : answer = 0 := by
    by_contra hne
    exact hisA (hanswer.1 hne)
  subst hzero
  have hname {β : Type} {type : TypeId} {k : String → Attempt β} {ok : β → Store → Prop}
      (h : (lib.guard P).Tries s (k (lib.shown type)) ok failed) :
      (lib.guard P).Tries s (typeName type >>= k) ok failed := by
    refine Watch.tries_bind.2 (tries_requireTable (hP _ trivial) (tries_ask (hP _ trivial)
      fun name hanswer => ?_))
    obtain rfl : name = lib.types.name type := hanswer
    exact h
  exact hname (hname hfailed)

end Keeper

/-- A request that looks at no payload. -/
def Request.Payloadless : Request → Prop
  | .call (.cellGet _ _) => False
  | _ => True

theorem Request.payloadless_of_inquiry (q : Request) (h : q.Inquiry) : q.Payloadless := by
  unfold Inquiry at h
  split at h <;> trivial

namespace Content

open Keeper TypeTable

variable {lib : Keeper} {s : Store} {c : Content} {v : Value} {failed : Failure → Store → Prop}

theorem Kept.type {t : Store} (h : c.Kept lib v t) : v.type = c.type lib.types.toTypeTable := by
  obtain ⟨k, p, hcell, -, -⟩ := h
  exact congrArg Cell.type hcell

theorem Kept.content (h : c.Kept lib v s) : ∃ p, s.content v.cell = some p ∧ c.Stored s p := by
  obtain ⟨k, p, hcell, hcontent, hstored⟩ := h
  exact ⟨p, content_eq (by rw [hcell]) hcontent, hstored⟩

/-- Only a number of an enum is of an enum. -/
theorem not_isEnum {a : Argument} (h : (argument a).Fits lib.types.toTypeTable) :
    ¬ lib.types.IsEnum ((argument a).type lib.types.toTypeTable) := by
  intro henum
  have hroot := TypeSystem.root_unique (TypeSystem.contentRoot_mem (argument a)) (by decide)
    (TypeSystem.isA_contentRoot h) henum
  revert hroot
  cases a <;> simp only [TypeSystem.contentRoot] <;> decide

/-- A reader of a built-in type. -/
theorem tries_read {α : Type} {type : TypeId} {accessor : Accessor} {f : accessor.Reply → α}
    {payload : Payload} {ok : α → Store → Prop} (hisA : lib.types.IsA v.type type)
    (hcontent : s.content v.cell = some payload)
    (hok : ∀ r, payload.Answers accessor r → ok (f r) s) :
    lib.watch.Tries s (do
      requireTable
      let r ← v.readAs type accessor
      return f r) ok failed :=
  tries_requireTable trivial (Watch.tries_bind.2 (tries_readAs hisA hcontent hok))

/-- A reader of a type that the library registers. -/
theorem tries_readRegistered {α : Type} {which : Registered} {accessor : Accessor}
    {f : accessor.Reply → α} {payload : Payload} {ok : α → Store → Prop}
    (hisA : lib.types.IsA v.type (lib.types.registered which))
    (hcontent : s.content v.cell = some payload)
    (hok : ∀ r, payload.Answers accessor r → ok (f r) s) :
    lib.watch.Tries s (do
      requireTable
      let r ← v.readAs (← native (.registered which)) accessor
      return f r) ok failed :=
  tries_requireTable trivial (tries_registered trivial
    (Watch.tries_bind.2 (tries_readAs hisA hcontent hok)))

theorem getInt_tries {n : Int32} {ok : Int32 → Store → Prop} (henum : ¬ lib.types.IsEnum v.type)
    (hisA : lib.types.IsA v.type .int) (hcontent : s.content v.cell = some (.int n))
    (hok : ok n s) : lib.watch.Tries s v.getInt ok failed := by
  refine tries_requireTable trivial (tries_ask trivial fun root hroot => ?_)
  have hother : root ≠ .enumeration := fun h => henum ((hroot _ (by decide)).1 h)
  rw [if_neg hother]
  refine tries_readAs hisA hcontent fun r hr => ?_
  obtain rfl : r = n := hr
  exact hok

theorem getInt_tries_of_isEnum {n : Int32} {ok : Int32 → Store → Prop}
    (henum : lib.types.IsEnum v.type) (hcontent : s.content v.cell = some (.enumeration n))
    (hok : ok n s) : lib.watch.Tries s v.getInt ok failed := by
  refine tries_requireTable trivial (tries_ask trivial fun root hroot => ?_)
  obtain rfl : root = .enumeration := (hroot _ (by decide)).2 henum
  refine Watch.tries_lift.2 ⟨trivial, fun r hr => ?_⟩
  obtain rfl : r = n := hr _ hcontent
  exact hok

theorem getObject_tries {handle : Handle} {ok : Option Object → Store → Prop}
    (hisA : lib.types.IsA v.type .object) (hcontent : s.content v.cell = some (.object handle))
    (hok : ok (some ⟨handle⟩) s) : lib.watch.Tries s v.getObject ok failed := by
  refine tries_requireTable trivial (Watch.tries_bind.2 (tries_readAs hisA hcontent fun r hr => ?_))
  obtain rfl : r = some handle := hr
  exact tries_borrow hok

theorem getImage_tries {handle : Handle} {ok : Option Image → Store → Prop}
    (hisA : lib.types.IsA v.type (lib.types.registered .image))
    (himage : lib.types.IsImage handle) (hcontent : s.content v.cell = some (.object handle))
    (hok : ok (some ⟨⟨handle⟩⟩) s) : lib.watch.Tries s v.getImage ok failed := by
  have hobject : lib.types.IsA v.type .object :=
    TypeTable.IsA.trans hisA (lib.types.objects .image (by decide))
  refine tries_requireTable trivial (tries_registered trivial (tries_expect hisA ?_))
  exact Watch.tries_bind.2 (getObject_tries hobject hcontent
    (Watch.tries_bind.2 (tries_ofObject_image himage hok)))

/-- The reader for the content finds it. -/
theorem read_tries {getter : Getter} (hfits : c.Fits lib.types.toTypeTable)
    (hkept : c.Kept lib v s) (hsuits : c.Suits lib.types.toTypeTable getter) :
    lib.watch.Tries s (getter.read v)
      (fun answer t => t = s ∧
        c.Given (fun blob bytes => s.blobs blob.handle = bytes) getter answer)
      fun _ _ => False := by
  obtain ⟨p, hcontent, hstored⟩ := hkept.content
  have htype := hkept.type
  have hisA {type : TypeId} (h : lib.types.IsA (c.type lib.types.toTypeTable) type) :
      lib.types.IsA v.type type := htype ▸ h
  rcases c with a | ⟨type, n⟩
  · have henum : ¬ lib.types.IsEnum v.type := htype ▸ not_isEnum hfits
    cases a with
    | bool b =>
      cases getter with
      | bool =>
        obtain rfl := hstored
        refine tries_read (hisA (isA_refl _)) hcontent fun r hr => ?_
        obtain rfl : r = if b then 1 else 0 := hr
        cases b <;> exact ⟨rfl, rfl⟩
      | _ => exact hsuits.elim
    | int n =>
      cases getter with
      | int =>
        obtain rfl := hstored
        exact getInt_tries henum (hisA (isA_refl _)) hcontent ⟨rfl, rfl⟩
      | _ => exact hsuits.elim
    | uint64 n =>
      cases getter with
      | uint64 =>
        obtain rfl := hstored
        exact tries_requireTable trivial
          (tries_readAs (hisA (isA_refl _)) hcontent fun _ hr => ⟨rfl, hr⟩)
      | _ => exact hsuits.elim
    | double x =>
      cases getter with
      | double =>
        obtain rfl := hstored
        exact tries_requireTable trivial
          (tries_readAs (hisA (isA_refl _)) hcontent fun _ hr => ⟨rfl, hr⟩)
      | _ => exact hsuits.elim
    | text t =>
      cases getter with
      | text =>
        obtain ⟨text, htext, rfl⟩ := hstored
        refine tries_read (hisA (isA_refl _)) hcontent fun r hr => ?_
        obtain rfl : r = some text := hr
        exact ⟨rfl, congrArg some (CText.lossy_of_ofString? htext)⟩
      | _ => exact hsuits.elim
    | ints xs =>
      cases getter with
      | ints =>
        obtain rfl := hstored
        exact tries_readRegistered (hisA (isA_refl _)) hcontent fun r hr =>
          ⟨rfl, Block.toList_of_lent hr.1 hr.2 (by rwa [Span.length_toList])⟩
      | _ => exact hsuits.elim
    | doubles xs =>
      cases getter with
      | doubles =>
        obtain rfl := hstored
        exact tries_readRegistered (hisA (isA_refl _)) hcontent fun r hr =>
          ⟨rfl, Block.toList_of_lent hr.1 hr.2 (by rwa [Span.length_toList])⟩
      | _ => exact hsuits.elim
    | images images => exact hfits.elim
    | bytes bytes =>
      cases getter with
      | blob =>
        obtain ⟨blob, rfl, rfl⟩ := hstored
        refine tries_readRegistered (hisA (isA_refl _)) hcontent fun r hr => ?_
        obtain rfl : r = some blob := hr
        exact ⟨rfl, ⟨blob⟩, rfl, rfl⟩
      | _ => exact hsuits.elim
    | image image =>
      cases getter with
      | object =>
        obtain rfl := hstored
        exact getObject_tries (hisA (isA_object _)) hcontent ⟨rfl, rfl⟩
      | image =>
        obtain rfl := hstored
        exact getImage_tries (hisA hsuits) hsuits hcontent ⟨rfl, rfl⟩
      | _ => exact hsuits.elim
    | object object =>
      cases getter with
      | object =>
        obtain rfl := hstored
        exact getObject_tries (hisA (isA_object _)) hcontent ⟨rfl, rfl⟩
      | image =>
        obtain rfl := hstored
        exact getImage_tries (hisA hsuits) hsuits hcontent ⟨rfl, rfl⟩
      | _ => exact hsuits.elim
  · cases getter with
    | int =>
      obtain rfl := hstored
      exact getInt_tries_of_isEnum (hisA hfits) hcontent ⟨rfl, rfl⟩
    | _ => exact hsuits.elim

/-- Every other reader refuses it, and looks at no payload. -/
theorem read_refused {getter : Getter} (hfits : c.Fits lib.types.toTypeTable)
    (hkept : c.Kept lib v s) (hsuits : ¬ c.Suits lib.types.toTypeTable getter) :
    (lib.guard Request.Payloadless).Tries s (getter.read v) (fun _ _ => False) fun failure _ =>
      failure = .typeMismatch (lib.shown (getter.type lib.types.toTypeTable))
        (lib.shown (c.type lib.types.toTypeTable)) := by
  have htype := hkept.type
  have hisA : ¬ lib.types.IsA v.type (getter.type lib.types.toTypeTable) := fun h =>
    hsuits (TypeSystem.suits_of_isA hfits (htype ▸ h))
  have hinquiry := Request.payloadless_of_inquiry
  have hrefused {α : Type} {k : Unit → Attempt α} {ok : α → Store → Prop} :
      (lib.guard Request.Payloadless).Tries s
        (v.expect (getter.type lib.types.toTypeTable) >>= k) ok fun failure _ =>
        failure = .typeMismatch (lib.shown (getter.type lib.types.toTypeTable))
          (lib.shown (c.type lib.types.toTypeTable)) :=
    tries_expect_refused hinquiry hisA (htype ▸ rfl)
  cases getter with
  | int =>
    have henum : ¬ lib.types.IsEnum v.type := by
      rcases c with a | ⟨type, n⟩
      · exact htype ▸ not_isEnum hfits
      · exact absurd trivial hsuits
    refine tries_requireTable trivial (tries_ask trivial fun root hroot => ?_)
    have hother : root ≠ .enumeration := fun h => henum ((hroot _ (by decide)).1 h)
    rw [if_neg hother]
    exact hrefused
  | ints =>
    exact tries_requireTable trivial (tries_registered trivial (Watch.tries_bind.2 hrefused))
  | doubles =>
    exact tries_requireTable trivial (tries_registered trivial (Watch.tries_bind.2 hrefused))
  | blob =>
    exact tries_requireTable trivial (tries_registered trivial (Watch.tries_bind.2 hrefused))
  | image => exact tries_requireTable trivial (tries_registered trivial hrefused)
  | object => exact tries_requireTable trivial (Watch.tries_bind.2 hrefused)
  | bool => exact tries_requireTable trivial (Watch.tries_bind.2 hrefused)
  | text => exact tries_requireTable trivial (Watch.tries_bind.2 hrefused)
  | uint64 => exact tries_requireTable trivial hrefused
  | double => exact tries_requireTable trivial hrefused

end Content

end ImageGateway
