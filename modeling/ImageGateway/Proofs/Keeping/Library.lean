-- A library that keeps what it is given. What is put into a cell is in it until
-- the cell is given back or filled again, a property holds what was assigned,
-- and a blob has its bytes. About types the library says what is so.

import ImageGateway.Proofs.Assignment
import ImageGateway.Proofs.OwnCells
import ImageGateway.Proofs.TypeTable

namespace ImageGateway

/-! ## Types -/

/-- The built-in types. They come from no type. -/
def TypeId.roots : List TypeId :=
  [.boolean, .int, .uint64, .double, .string, .enumeration, .flags, .boxed, .object]

/-- A table of types with their names. The built-in types are roots, and no type of arrays or blobs
comes from another one. Any enums and any types of objects may be there besides. -/
structure TypeSystem extends TypeTable where
  name : TypeId → Option CText
  rootless : ∀ root ∈ TypeId.roots, parent root = none
  objects : ∀ which ∈ [Registered.image, .source, .target],
    ComesFrom parent (registered which) .object
  apart : ∀ which ∈ [Registered.blob, .intArray, .doubleArray, .imageArray],
    ∀ other ∈ [Registered.blob, .intArray, .doubleArray, .imageArray],
      ComesFrom parent (registered which) (registered other) → which = other

theorem ComesFrom.linear {parent : TypeId → Option TypeId} {type one other : TypeId}
    (h : ComesFrom parent type one) (h' : ComesFrom parent type other) :
    ComesFrom parent one other ∨ ComesFrom parent other one := by
  induction h with
  | refl => exact .inl h'
  | @step type next one hparent h ih =>
    cases h' with
    | refl => exact .inr (.step hparent h)
    | step hparent' h' =>
      obtain rfl : next = _ := Option.some.inj (hparent.symm.trans hparent')
      exact ih h'

theorem ComesFrom.eq_or_step {parent : TypeId → Option TypeId} {type last : TypeId}
    (h : ComesFrom parent type last) :
    type = last ∨ ∃ next, parent type = some next ∧ ComesFrom parent next last := by
  cases h with
  | refl => exact .inl rfl
  | @step type next last hparent h => exact .inr ⟨next, hparent, h⟩

theorem ComesFrom.eq_of_rootless {parent : TypeId → Option TypeId} {type last : TypeId}
    (h : ComesFrom parent type last) (hroot : parent type = none) : last = type := by
  cases h with
  | refl => rfl
  | step hparent _ =>
    rw [hroot] at hparent
    cases hparent

namespace TypeSystem

variable {types : TypeSystem} {type one other : TypeId}

/-- A type has one root at most. -/
theorem root_unique (hone : one ∈ TypeId.roots) (hother : other ∈ TypeId.roots)
    (h : types.IsA type one) (h' : types.IsA type other) : one = other := by
  rcases ComesFrom.linear h h' with h | h
  · exact (h.eq_of_rootless (types.rootless one hone)).symm
  · exact h.eq_of_rootless (types.rootless other hother)

end TypeSystem

namespace TypeSystem

/-- The types that the image library registers, as one of its builds numbers them. -/
def numbered : Registered → TypeId
  | .image => ⟨2001⟩
  | .source => ⟨2002⟩
  | .target => ⟨2003⟩
  | .blob => ⟨2004⟩
  | .intArray => ⟨2005⟩
  | .doubleArray => ⟨2006⟩
  | .imageArray => ⟨2007⟩

/-- Which type comes from which, with an enum besides the types of the image library. -/
def numberedParent (type : TypeId) : Option TypeId :=
  if type = ⟨3000⟩ then some .enumeration
  else if type ∈ [⟨2001⟩, ⟨2002⟩, ⟨2003⟩] then some .object
  else if type ∈ [⟨2004⟩, ⟨2005⟩, ⟨2006⟩, ⟨2007⟩] then some .boxed
  else none

theorem numberedParent_box : ∀ which ∈ [Registered.blob, .intArray, .doubleArray, .imageArray],
    numberedParent (numbered which) = some .boxed ∧ numbered which ≠ .boxed := by decide

theorem numbered_inj {which other : Registered} (h : numbered which = numbered other) :
    which = other := by
  cases which <;> cases other <;> first | rfl | exact absurd h (by decide)

/-- The built-in types with those of the image library, an enum, and an image among the objects. -/
def builtIn : TypeSystem where
  parent := numberedParent
  instanceType object := if object = ⟨"im"⟩ then ⟨2001⟩ else .object
  registered := numbered
  invalid := by decide
  instances object := by
    split
    · exact .step rfl .refl
    · exact .refl
  boxed which hwhich := .step (numberedParent_box which hwhich).1 .refl
  name type := if type = .string then CText.ofString? "gchararray" else
    if type = ⟨2004⟩ then CText.ofString? "VipsBlob" else none
  rootless := by decide
  objects which hwhich := by
    cases which <;> first | exact .step rfl .refl | exact absurd hwhich (by decide)
  apart which hwhich other hother h := by
    rcases h.eq_or_step with heq | ⟨next, hparent, hrest⟩
    · exact numbered_inj heq
    · rw [(numberedParent_box which hwhich).1] at hparent
      cases hparent
      exact absurd (hrest.eq_of_rootless (by decide)) (numberedParent_box other hother).2

end TypeSystem

/-! ## Nicks -/

/-- The enum, the nick and the number, if the request looks a nick up. -/
def Request.nick? : (q : Request) → q.Reply → Option (TypeId × Option CText × Int32)
  | .call (.enumFromNick _ type nick), n => some (type, nick, n)
  | _, _ => none

/-- The nicks that a transcript looks up. -/
def Transcript.nicks (events : Transcript) : List (TypeId × Option CText × Int32) :=
  events.filterMap fun e => e.request.nick? e.reply

theorem Request.nick?_of_slotting {q : Request} {r : q.Reply} (h : q.Slotting) :
    q.nick? r = none := by
  unfold Slotting at h
  split at h <;> first | rfl | skip
  unfold Boxing at h
  split at h <;> first | rfl | skip
  unfold Inquiry at h
  split at h <;> first | rfl | exact h.elim

/-! ## What is kept -/

/-- What a library keeps. What is in a cell may be unknown, such as the default of a new one. -/
structure Store where
  /-- The cells that are initialised, and what is in each. -/
  cells : Nat → Option (Option Payload)
  properties : Handle → CText → Option Payload
  blobs : Handle → List UInt8
  /-- The nicks that were looked up, each with the enum and the number. -/
  nicks : List (TypeId × Option CText × Int32)

namespace Store

/-- Something is in the cell now. -/
def fill (s : Store) (c : Cell) (content : Option Payload) : Store where
  cells k := if c.number = some k then some content else s.cells k
  properties := s.properties
  blobs := s.blobs
  nicks := s.nicks

/-- The cell is given back. -/
def empty (s : Store) (c : Cell) : Store where
  cells k := if c.number = some k then none else s.cells k
  properties := s.properties
  blobs := s.blobs
  nicks := s.nicks

/-- What is in the cell, as far as it is known. -/
def content (s : Store) (c : Cell) : Option Payload := do
  let k ← c.number
  let content ← s.cells k
  content

/-- The property holds something now. -/
def assign (s : Store) (object : Handle) (name : CText) (content : Option Payload) : Store where
  cells := s.cells
  properties o n := if o = object ∧ n = name then content else s.properties o n
  blobs := s.blobs
  nicks := s.nicks

/-- Whether a cell or a property holds the blob. -/
def Shares (s : Store) (blob : Handle) : Prop :=
  (∃ k, s.cells k = some (some (.boxed blob))) ∨
    ∃ object name, s.properties object name = some (.boxed blob)

end Store

/-- Nothing is kept yet. -/
def Store.blank : Store := ⟨fun _ => none, fun _ _ => none, fun _ => [], []⟩

/-- What an accessor may answer, given what is in the cell. -/
def Payload.Answers : Payload → (accessor : Accessor) → accessor.Reply → Prop
  | boolean n, .boolean, r => r = n
  | int n, .int, r => r = n
  | uint64 n, .uint64, r => r = n
  | double x, .double, r => r = x
  | string text, .string, r | string text, .stringCopy, r => r = some text
  | enumeration n, .enumeration, r => r = n
  | boxed blob, .boxedCopy, r => r = some blob
  | object o, .object, r => r = some o
  | ints xs, .ints, r => r.count = Int32.ofNat xs.length ∧ (r.items = some xs ∨ xs = [])
  | doubles xs, .doubles, r => r.count = Int32.ofNat xs.length ∧ (r.items = some xs ∨ xs = [])
  | _, _, _ => True

/-- A library that keeps what it is given: its types, the types under which the properties of
objects are declared, and which properties are passed on as they are. -/
structure Keeper where
  types : TypeSystem
  declared : Handle → CText → Option TypeId
  /-- Whether a property of the one type goes as it is into a cell of the other. -/
  passes : TypeId → TypeId → Bool
  passes_self : ∀ type, passes type type

namespace Keeper

/-- A library of the built-in types. Each object has a blob and the number of an enum. -/
def builtIn : Keeper where
  types := .builtIn
  declared _ name :=
    if name = .cut [98] then some ⟨2004⟩ else if name = .cut [101] then some ⟨3000⟩ else none
  passes type other := type == other
  passes_self := by simp

variable (lib : Keeper)

/-- What messages call a type. -/
def shown (type : TypeId) : String := SpokenWatch.shownName (lib.types.name type)

/-- What is kept after a reply. -/
def next (s : Store) : (q : Request) → q.Reply → Store
  | .call (.cellInit type), number => s.fill ⟨number, type⟩ none
  | .call (.cellSet c payload), _ => s.fill c (some payload)
  | .call (.cellUnset c), _ => s.empty c
  | .call (.makeSlots c _), _ | .fillSlot c _ _, _ => s.fill c none
  | .call (.getProperty object name c), _ =>
    s.fill c <| if (lib.declared object name).any (lib.passes · c.type) then
      s.properties object name else none
  | .call (.setProperty object name c), _ =>
    s.assign object name <| if lib.declared object name = some c.type then s.content c else none
  | .call (.blobCopy bytes), some blob =>
    { s with blobs := fun b => if b = blob then bytes else s.blobs b }
  | .call (.enumFromNick _ type nick), n => { s with nicks := s.nicks ++ [(type, nick, n)] }
  | _, _ => s

/-- What the library may answer. New cells are not in use, and neither are new blobs. -/
def Admits (s : Store) : (q : Request) → q.Reply → Prop
  | .table, table => table.isSome
  | .instanceType object, type => type = lib.types.instanceType object
  | .call (.typeName type), name => name = lib.types.name type
  | .call (.fundamental type), root => ∀ r ∈ TypeId.roots, root = r ↔ lib.types.IsA type r
  | .call (.isA type ancestor), answer => answer ≠ 0 ↔ lib.types.IsA type ancestor
  | .call (.registered which), type => type = lib.types.registered which
  | .call (.transformable source target), answer => lib.passes source target → answer ≠ 0
  | .call (.cellInit type), number =>
    (∀ k, number = some k → s.cells k = none) ∧ (lib.types.Storable type → number.isSome)
  | .call (.cellGet c accessor), r => ∀ payload, s.content c = some payload →
      payload.Answers accessor r
  | .call (.getArgument object name), found => found.type? = lib.declared object name
  | .call (.blobCopy _), blob => ∃ b, blob = some b ∧ ¬ s.Shares b
  | .call (.blobGet blob), bytes => bytes.getD [] = s.blobs blob
  | _, _ => True

/-- Notes what the library keeps, while a program asks for nothing else. -/
def guard (P : Request → Prop) : Watch Store where
  allows _ q := P q
  admits := lib.Admits
  next := lib.next

/-- Notes what the library keeps. -/
def watch : Watch Store := lib.guard fun _ => True

theorem admits_guard {lib : Keeper} {P : Request → Prop} {s : Store} {events : Transcript}
    (h : lib.watch.Admits s events) : (lib.guard P).Admits s events := by
  induction events generalizing s with
  | nil => trivial
  | cons e events ih => exact ⟨h.1, ih h.2⟩

theorem after_guard (lib : Keeper) (P : Request → Prop) (s : Store) (events : Transcript) :
    (lib.guard P).after s events = lib.watch.after s events := by
  induction events generalizing s with
  | nil => rfl
  | cons e events ih => exact ih _

theorem of_allows {lib : Keeper} {P : Request → Prop} {s : Store} {events : Transcript}
    (h : (lib.guard P).Allows s events) : ∀ e ∈ events, P e.request := by
  induction events generalizing s with
  | nil => exact List.forall_mem_nil _
  | cons e events ih =>
    rw [List.forall_mem_cons]
    exact ⟨h.1, ih h.2⟩

/-- What an attempt ensures shows in each of its runs. -/
theorem of_runs {lib : Keeper} {P : Request → Prop} {s : Store} {events : Transcript} {α : Type}
    {p : Attempt α} {ok : α → Store → Prop} {failed : Failure → Store → Prop}
    {r : Except Failure α} (h : (lib.guard P).Tries s p ok failed) (hrun : p.run.Runs events r)
    (hlib : lib.watch.Admits s events) :
    (∀ e ∈ events, P e.request) ∧
      ((∃ a, r = .ok a ∧ ok a (lib.watch.after s events)) ∨
        ∃ failure, r = .error failure ∧ failed failure (lib.watch.after s events)) := by
  obtain ⟨hallows, hend⟩ := h.of_runs hrun (admits_guard hlib)
  rw [after_guard] at hend
  refine ⟨of_allows hallows, ?_⟩
  cases r with
  | ok a => exact .inl ⟨a, rfl, hend⟩
  | error failure => exact .inr ⟨failure, rfl, hend⟩

theorem ok_of_runs {lib : Keeper} {s : Store} {events : Transcript} {α : Type} {p : Attempt α}
    {ok : α → Store → Prop} {r : Except Failure α} (h : lib.watch.Tries s p ok fun _ _ => False)
    (hrun : p.run.Runs events r) (hlib : lib.watch.Admits s events) :
    ∃ a, r = .ok a ∧ ok a (lib.watch.after s events) := by
  rcases (of_runs h hrun hlib).2 with hok | ⟨_, -, hfalse⟩
  · exact hok
  · exact hfalse.elim

/-! ## What stays -/

variable {lib : Keeper} {s : Store} {q : Request} {r : q.Reply}

theorem content_eq {c : Cell} {k : Nat} {content : Option Payload} (hnumber : c.number = some k)
    (h : s.cells k = some content) : s.content c = content := by
  simp [Store.content, hnumber, h]

theorem fill_cells_self (s : Store) {c : Cell} {k : Nat} (h : c.number = some k)
    (content : Option Payload) : (s.fill c content).cells k = some content := if_pos h

/-- What is in a cell stays in it until the cell is altered. -/
theorem next_cells {k : Nat} {content : Option Payload} (hq : ¬ q.Alters k)
    (hr : lib.Admits s q r) (h : s.cells k = some content) :
    (lib.next s q r).cells k = some content := by
  rw [← h]
  cases q with
  | fillSlot c place image => exact if_neg hq
  | call c =>
    cases c with
    | cellInit type =>
      refine if_neg fun hnumber => ?_
      rw [hr.1 k hnumber] at h
      cases h
    | cellSet c payload => exact if_neg hq
    | cellUnset c => exact if_neg hq
    | makeSlots c n => exact if_neg hq
    | getProperty object name c => exact if_neg hq
    | blobCopy bytes => cases r <;> rfl
    | _ => rfl
  | _ => rfl

/-- A property holds what it holds until it is assigned. -/
theorem next_properties (hq : q.step? = none) : (lib.next s q r).properties = s.properties := by
  cases q with
  | call c =>
    cases c with
    | setProperty object name c => cases hq
    | blobCopy bytes => cases r <;> rfl
    | _ => rfl
  | _ => rfl

theorem next_nicks : (lib.next s q r).nicks = s.nicks ++ (q.nick? r).toList := by
  cases q with
  | call c =>
    cases c with
    | enumFromNick domain type nick => rfl
    | blobCopy bytes => cases r <;> exact (List.append_nil _).symm
    | _ => exact (List.append_nil _).symm
  | _ => exact (List.append_nil _).symm

/-- A blob that a cell or a property shares has its bytes. -/
theorem next_blobs {blob : Handle} (hr : lib.Admits s q r) (h : s.Shares blob) :
    (lib.next s q r).blobs blob = s.blobs blob := by
  cases q with
  | call c =>
    cases c with
    | blobCopy bytes =>
      obtain ⟨b, rfl, hb⟩ := hr
      exact if_neg fun heq : blob = b => hb (heq ▸ h)
    | _ => rfl
  | _ => rfl

/-- What is known about nicks is what the library answered. -/
theorem after_nicks (s : Store) (events : Transcript) :
    (lib.watch.after s events).nicks = s.nicks ++ events.nicks := by
  induction events generalizing s with
  | nil => exact (List.append_nil _).symm
  | cons e events ih =>
    show (lib.watch.after (lib.next s e.request e.reply) events).nicks = _
    have hnicks : Transcript.nicks (e :: events) =
        (e.request.nick? e.reply).toList ++ Transcript.nicks events := by
      unfold Transcript.nicks
      rw [List.filterMap_cons]
      cases e.request.nick? e.reply <;> rfl
    rw [ih, next_nicks, hnicks, List.append_assoc]

/-! ## Programs -/

open Program

variable {α : Type} {P : Request → Prop} {ok : α → Store → Prop} {failed : Failure → Store → Prop}

theorem ensures_any (p : Program α) : lib.watch.Ensures s p fun _ _ => True := by
  induction p generalizing s with
  | done a => trivial
  | ask q k ih => exact ⟨trivial, fun r _ => ih r⟩

/-- A program that puts something into a cell looks up no nick. -/
theorem ensures_nicks {p : Program α} {Q : α → Store → Prop} (hp : p.Asks Request.Slotting)
    (h : lib.watch.Ensures s p Q) :
    lib.watch.Ensures s p fun a t => Q a t ∧ t.nicks = s.nicks := by
  induction p generalizing s with
  | done a => exact ⟨h, rfl⟩
  | ask q k ih =>
    have hsame (r : q.Reply) : (lib.next s q r).nicks = s.nicks := by
      rw [next_nicks, Request.nick?_of_slotting hp.1]
      exact List.append_nil _
    exact ⟨trivial, fun r hr => (ih r (hp.2 r) (h.2 r hr)).mono fun a t ht =>
      ⟨ht.1, ht.2.trans (hsame r)⟩⟩

theorem tries_ask {k : q.Reply → Attempt α} (hq : P q)
    (h : ∀ r, lib.Admits s q r → (lib.guard P).Tries (lib.next s q r) (k r) ok failed) :
    (lib.guard P).Tries s (liftM (request q) >>= k) ok failed :=
  Watch.tries_bind.2 (Watch.tries_lift.2 ⟨hq, h⟩)

theorem tries_requireTable {k : Unit → Attempt α} (hP : P .table)
    (h : (lib.guard P).Tries s (k ()) ok failed) :
    (lib.guard P).Tries s (requireTable >>= k) ok failed := by
  refine ⟨hP, fun table htable => ?_⟩
  cases table with
  | none => cases htable
  | some table => exact h

theorem ensures_ifLoaded {p : Program Unit} {Q : Unit → Store → Prop} (hP : P .table)
    (h : (lib.guard P).Ensures s p Q) : (lib.guard P).Ensures s (ifLoaded p) Q := by
  refine ⟨hP, fun table htable => ?_⟩
  cases table with
  | none => cases htable
  | some table => exact h

end Keeper

end ImageGateway
