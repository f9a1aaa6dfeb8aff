-- The conduct of a program: someone watches it, and whenever nothing is pending
-- the note is calm. A program that keeps to its conduct starts calm, asks only
-- for what it may ask for and ends calm, however it ends. Some cells and some
-- images may be passed on, and others not.

import ImageGateway.Proofs.Custody.Deeds
import ImageGateway.Proofs.Footprint
import ImageGateway.Proofs.Watch

namespace ImageGateway

/-- Rules for the conduct of a program. -/
structure Conduct (Note : Type) where
  watch : Watch Note
  /-- Whether nothing is pending. -/
  calm : Note → Prop
  /-- Whether the cell may be passed on. -/
  cell : Cell → Prop
  /-- Whether the object may be looked at as an image. -/
  image : Handle → Prop
  /-- Whether the type may be used as that of an enum. -/
  enum : TypeId → Prop

/-- A request that takes up or gives up a reference to something that is there, makes a new object,
or goes on in the background. -/
def Request.Handling : Request → Prop
  | .call (.ref _) | .call (.unref (some _)) | .call (.areaUnref _) => True
  | .call (.unrefOutputs (some _)) | .call (.operationNew _) | .call (.sourceFromBlob _) => True
  | .call .targetToMemory | .call (.blobCopy _) => True
  | q => q.Background

theorem Request.handling_of_background (q : Request) (h : q.Background) : q.Handling := by
  unfold Handling
  split <;> trivial

theorem Request.handling_of_question (q : Request) (h : q.Question) : q.Handling :=
  q.handling_of_background (q.background_of_question h)

namespace Conduct

open Program

variable {Note α β : Type} {c : Conduct Note}

/-- A request that leaves a calm note calm. -/
def Plain (c : Conduct Note) (q : Request) : Prop :=
  ∀ n, c.calm n → c.watch.allows n q ∧ ∀ r, c.watch.admits n q r → c.calm (c.watch.next n q r)

/-- What a program answers if it keeps to its conduct. -/
def Does (c : Conduct Note) (p : Program α) (Q : α → Prop) : Prop :=
  ∀ n, c.calm n → c.watch.Ensures n p fun a m => Q a ∧ c.calm m

/-- What an attempt answers, unless it fails, if it keeps to its conduct. -/
def Gets (c : Conduct Note) (p : Attempt α) (Q : α → Prop) : Prop :=
  ∀ n, c.calm n → c.watch.Tries n p (fun a m => Q a ∧ c.calm m) fun _ m => c.calm m

/-- A program that keeps to its conduct. -/
abbrev Heeds (c : Conduct Note) (p : Program α) : Prop := c.Does p fun _ => True

/-- An attempt that keeps to its conduct. -/
abbrev Minds (c : Conduct Note) (p : Attempt α) : Prop := c.Gets p fun _ => True

/-! ## Programs -/

section

variable {p : Program α} {P : α → Prop} {Q : β → Prop}

theorem does_done {a : α} (h : P a) : c.Does (done a) P := fun _ hn => ⟨h, hn⟩

theorem Does.mono {P' : α → Prop} (h : c.Does p P) (hP : ∀ a, P a → P' a) : c.Does p P' :=
  fun n hn => (h n hn).mono fun a _ ha => ⟨hP a ha.1, ha.2⟩

theorem Does.bind {f : α → Program β} (h : c.Does p P) (hf : ∀ a, P a → c.Does (f a) Q) :
    c.Does (p >>= f) Q :=
  fun n hn => (h n hn).bind fun a m ha => hf a ha.1 m ha.2

theorem heeds_of_asks (h : p.Asks c.Plain) : c.Heeds p := by
  induction p with
  | done a => exact does_done trivial
  | ask q k ih =>
    intro n hn
    obtain ⟨hallowed, hnext⟩ := h.1 n hn
    exact ⟨hallowed, fun r hr => ih r (h.2 r) _ (hnext r hr)⟩

theorem heeds_request {q : Request} (h : c.Plain q) : c.Heeds (request q) :=
  heeds_of_asks (asks_request.2 h)

end

/-! ## Attempts -/

section

variable {p : Attempt α} {P : α → Prop} {Q : β → Prop}

theorem gets_pure {a : α} (h : P a) : c.Gets (pure a : Attempt α) P := fun _ hn => ⟨h, hn⟩

theorem gets_throw {f : Failure} : c.Gets (throw f : Attempt α) P := fun _ hn => hn

theorem Gets.mono {P' : α → Prop} (h : c.Gets p P) (hP : ∀ a, P a → P' a) : c.Gets p P' :=
  fun n hn => (h n hn).mono (fun a _ ha => ⟨hP a ha.1, ha.2⟩) fun _ _ hm => hm

/-- First the one attempt, then the other. -/
theorem Gets.try {f : α → Attempt β} (h : c.Gets p P) (hf : ∀ a, P a → c.Gets (f a) Q) :
    c.Gets (p >>= f) Q :=
  fun n hn => (h n hn).bind fun a m ha => hf a ha.1 m ha.2

theorem Does.lift {p : Program α} (h : c.Does p P) : c.Gets (liftM p : Attempt α) P :=
  fun n hn => Watch.tries_lift.2 (h n hn)

/-- First a program, then an attempt. -/
theorem Does.then {p : Program α} {f : α → Attempt β} (h : c.Does p P)
    (hf : ∀ a, P a → c.Gets (f a) Q) : c.Gets (liftM p >>= f) Q := h.lift.try hf

theorem Gets.closedBy {q : Program Unit} (h : c.Gets p P) (hq : c.Heeds q) :
    c.Gets (p.closedBy q) P :=
  fun n hn => Watch.tries_closedBy.2 ((h n hn).mono
    (fun _ m ha => (hq m ha.2).mono fun _ _ hm => ⟨ha.1, hm.2⟩)
    fun _ m hm => (hq m hm).mono fun _ _ hm => hm.2)

/-- An attempt whose failure is looked at, and then another one. -/
theorem Gets.result {f : Except Failure α → Attempt β} (h : c.Gets p P)
    (hok : ∀ a, P a → c.Gets (f (.ok a)) Q) (hfailed : ∀ e, c.Gets (f (.error e)) Q) :
    c.Gets (p.result >>= f) Q :=
  fun n hn => (h n hn).result (fun a m ha => hok a ha.1 m ha.2) fun e m hm => hfailed e m hm

/-- An attempt whose failure is looked at by a program. -/
theorem Gets.run {f : Except Failure α → Program β} (h : c.Gets p P)
    (hok : ∀ a, P a → c.Does (f (.ok a)) Q) (hfailed : ∀ e, c.Does (f (.error e)) Q) :
    c.Does (p.run >>= f) Q :=
  fun n hn => (h n hn).run (fun a m ha => hok a ha.1 m ha.2) fun e m hm => hfailed e m hm

theorem minds_of_asks (h : p.run.Asks c.Plain) : c.Minds p := by
  intro n hn
  apply (heeds_of_asks h n hn).mono
  intro answer m hm
  cases answer with
  | error f => exact hm.2
  | ok a => exact hm

theorem minds_native {call : Call} (h : c.Plain (.call call)) :
    c.Minds (native call : Attempt call.Reply) := (heeds_request h).lift

theorem gets_nothing {Q : List Holding → Prop} :
    c.Gets p.nothing Q ↔ c.Gets p fun _ => Q [] :=
  forall₂_congr fun _ _ => Watch.tries_bind

theorem gets_holding? {p : Attempt (Option α)} {f : α → Holding} {Q : List Holding → Prop} :
    c.Gets (p.holding? f) Q ↔ c.Gets p fun a => Q (a.toList.map f) :=
  forall₂_congr fun _ _ => Watch.tries_bind

theorem gets_holding {f : α → Holding} {Q : List Holding → Prop} :
    c.Gets (p.holding f) Q ↔ c.Gets p fun a => Q [f a] :=
  forall₂_congr fun _ _ => Watch.tries_bind

end

/-! ## Good things -/

/-- Whether a thing may be used as what it is. -/
def Good (c : Conduct Note) : Holding → Prop
  | .value v => c.cell v.cell
  | .image i => c.image i.object.handle
  | _ => True

/-- Whether all of the things may be used as what they are. -/
def AllGood (c : Conduct Note) (things : List Holding) : Prop := ∀ thing ∈ things, c.Good thing

theorem allGood_nil : c.AllGood [] := fun _ h => (List.not_mem_nil h).elim

@[simp] theorem allGood_cons {thing : Holding} {things : List Holding} :
    c.AllGood (thing :: things) ↔ c.Good thing ∧ c.AllGood things := List.forall_mem_cons

@[simp] theorem allGood_append {things more : List Holding} :
    c.AllGood (things ++ more) ↔ c.AllGood things ∧ c.AllGood more := List.forall_mem_append

theorem allGood_one {thing : Holding} (h : c.Good thing) : c.AllGood [thing] := by
  simpa using ⟨h, allGood_nil⟩

theorem AllGood.perm {things more : List Holding} (h : c.AllGood things)
    (hperm : things.Perm more) : c.AllGood more :=
  fun thing hthing => h thing (hperm.mem_iff.2 hthing)

/-! ## What a conduct has to say -/

/-- All that has to be shown of a conduct. The rest of what a program can do is made of it. -/
structure Lawful (c : Conduct Note) : Prop where
  handling (q : Request) : q.Handling → c.Plain q
  unset {cell : Cell} : c.cell cell → c.Plain (.call (.cellUnset cell))
  fetch {object : Handle} {name : CText} {cell : Cell} :
    c.cell cell → c.Plain (.call (.getProperty object name cell))
  extent {which : Extent} {image : Handle} : c.image image → c.Plain (.call (.extent which image))
  empty : c.cell .empty
  init {type : TypeId} : c.Plain (.call (.cellInit type))
  /-- A cell that someone initialised may be passed on. -/
  initialised {type : TypeId} {number : Nat} {n : Note} : c.calm n →
    c.watch.admits n (.call (.cellInit type)) (some number) → c.cell ⟨some number, type⟩
  new (type : TypeId) : c.Gets (Value.new type) fun v => c.cell v.cell
  box (argument : Argument) : c.Gets argument.toValue fun v => c.cell v.cell
  boxEnum {type : TypeId} {n : Int32} :
    c.enum type → c.Gets (Value.ofEnum type n) fun v => c.cell v.cell
  boxBlob (blob : Blob) : c.Gets (Value.ofBlob blob) fun v => c.cell v.cell
  read (reading : Reading) {v : Value} : c.cell v.cell → c.Gets (reading.ofValue v) c.AllGood
  readObject {v : Value} : c.cell v.cell → c.Minds v.getObject
  copy (object : Object) (name : String) : c.Minds (Property.copyText object name)
  asImage (object : Object) : c.Gets (Image.ofObject object) fun i => c.image i.object.handle
  set (object : Object) (name : String) {v : Value} :
    c.cell v.cell → c.Minds (Property.set object name v)
  build (operation : Operation) : c.Minds operation.build

end Conduct

/-! ## A conduct about few requests -/

/-- Any request but that of the number of a nick, that of a build, and those about no object at
all. -/
def Request.Ordinary : Request → Prop
  | .call (.enumFromNick _ _ _) | .call (.build _) => False
  | .call (.unref none) | .call (.unrefOutputs none) => False
  | _ => True

namespace Request

/-- A class of requests without those few has ordinary ones only. -/
theorem ordinary_of {P : Request → Prop}
    (hnick : ∀ domain type nick, ¬ P (.call (.enumFromNick domain type nick)))
    (hbuild : ∀ operation, ¬ P (.call (.build operation))) (hunref : ¬ P (.call (.unref none)))
    (hclear : ¬ P (.call (.unrefOutputs none))) (q : Request) (h : P q) : q.Ordinary := by
  unfold Ordinary
  split
  · exact hnick _ _ _ h
  · exact hbuild _ h
  · exact hunref h
  · exact hclear h
  · trivial

theorem ordinary_of_handling : ∀ q : Request, q.Handling → q.Ordinary :=
  ordinary_of (fun _ _ _ => id) (fun _ => id) id id

theorem ordinary_of_question : ∀ q : Request, q.Question → q.Ordinary :=
  ordinary_of (fun _ _ _ => id) (fun _ => id) id id

theorem ordinary_of_boxing : ∀ q : Request, q.Boxing → q.Ordinary :=
  ordinary_of (fun _ _ _ => id) (fun _ => id) id id

theorem ordinary_of_slotting : ∀ q : Request, q.Slotting → q.Ordinary :=
  ordinary_of (fun _ _ _ => id) (fun _ => id) id id

theorem ordinary_of_taking {object : Handle} : ∀ q : Request, q.Taking object → q.Ordinary :=
  ordinary_of (fun _ _ _ => id) (fun _ => id) id id

theorem ordinary_of_looking : ∀ q : Request, q.Looking → q.Ordinary :=
  ordinary_of (fun _ _ _ => id) (fun _ => id) id id

end Request

namespace Conduct

open Program Request

variable {Note : Type} {c : Conduct Note}

theorem minds_read (hplain : ∀ q : Request, q.Looking → c.Plain q) (reading : Reading) (v : Value) :
    c.Minds (reading.ofValue v) := by
  have hlook {α : Type} {p : Attempt α} (h : p.run.Asks Looking) : c.Minds p :=
    minds_of_asks (h.mono hplain)
  cases reading with
  | bool => exact gets_nothing.2 (hlook (getBool_looks v))
  | int => exact gets_nothing.2 (hlook (getInt_looks v))
  | uint64 => exact gets_nothing.2 (hlook (getUInt64_looks v))
  | double => exact gets_nothing.2 (hlook (getDouble_looks v))
  | text => exact gets_nothing.2 (hlook (getString_looks v))
  | ints => exact gets_nothing.2 (hlook (getInts_looks v))
  | doubles => exact gets_nothing.2 (hlook (getDoubles_looks v))
  | blob => exact gets_holding?.2 (hlook (getBlob_looks v))
  | image => exact gets_holding?.2 (hlook (getImage_looks v))

/-- A conduct that does not tell cells or images apart, and for which ordinary requests are plain,
has to say something about assignments and builds only. -/
theorem Lawful.of_ordinary (hcell : ∀ k, c.cell k) (himage : ∀ h, c.image h)
    (hplain : ∀ q : Request, q.Ordinary → c.Plain q)
    (hset : ∀ object name v, c.Minds (Property.set object name v))
    (hbuild : ∀ operation : Operation, c.Minds operation.build) : c.Lawful := by
  have hmake {p : Attempt Value} (h : p.run.Asks Ordinary) : c.Gets p fun v => c.cell v.cell :=
    (minds_of_asks (h.mono hplain)).mono fun v _ => hcell v.cell
  have hlook : ∀ q : Request, q.Looking → c.Plain q := fun q hq =>
    hplain q (ordinary_of_looking q hq)
  have hgood (things : List Holding) : c.AllGood things := by
    intro thing _
    cases thing with
    | value v => exact hcell v.cell
    | image i => exact himage i.object.handle
    | _ => trivial
  refine
    { handling := fun q hq => hplain q (ordinary_of_handling q hq)
      unset := fun _ => hplain _ trivial
      fetch := fun _ => hplain _ trivial
      extent := fun _ => hplain _ trivial
      empty := hcell _
      init := hplain _ trivial
      initialised := fun _ _ => hcell _
      new := fun type => hmake ?_
      box := fun argument => hmake ((toValue_slots argument).mono ordinary_of_slotting)
      boxEnum := fun _ => hmake ((tableThenFilled_boxes _ _).mono ordinary_of_boxing)
      boxBlob := fun blob => hmake ((ofBlob_boxes blob).mono ordinary_of_boxing)
      read := fun reading v _ => (minds_read hlook reading v).mono fun _ _ => hgood _
      readObject := fun {v} _ => minds_of_asks ((getObject_looks v).mono hlook)
      copy := fun object name => ?_
      asImage := fun object =>
        (minds_of_asks ((ofObject_looks object).mono hlook)).mono fun _ _ => himage _
      set := fun object name {v} _ => hset object name v
      build := hbuild }
  · exact new_asks (inquiry_of ordinary_of_question)
      (show Ordinary (.call (.cellInit type)) from trivial)
  · refine minds_of_asks ((getWith_asks ordinary_of_taking (fun v => ?_) name .string).mono hplain)
    exact (requireTable_asks (inquiry_of ordinary_of_question)).try fun _ =>
      (asks_of (q := .call (.cellGet v.cell .stringCopy)) trivial).lift

end Conduct

end ImageGateway
