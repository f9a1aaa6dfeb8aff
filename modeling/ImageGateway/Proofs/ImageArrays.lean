-- Arrays of images, all or nothing. An array that is made has every image in its
-- slot, in order, and a reference to it for each time that it occurs. Where the
-- library makes no slots, or where one of the images that a host passes is missing,
-- every reference that was taken is given up and the host's cell is not written.

import Mathlib.Data.List.Count
import ImageGateway.Proofs.PropertyReading
import ImageGateway.Proofs.Opening.Search
import ImageGateway.Proofs.Publication.Answers
import ImageGateway.Proofs.StartUp.Exits
import ImageGateway.Proofs.TwoWays.Assigning

namespace ImageGateway

open Program Transcript

/-! ## References and slots -/

namespace Event

/-- The object to which a reference is taken. -/
def referenced? : Event → Option Handle
  | ⟨.call (.ref handle), _⟩ => some handle
  | _ => none

/-- The object of which a reference is given up. -/
def unreferenced? : Event → Option Handle
  | ⟨.call (.unref handle), _⟩ => handle
  | _ => none

/-- The slots of a cell after the event. They are made empty, and filled one by one. -/
def slotsAfter (cell : Cell) (slots : List (Option Handle)) : Event → List (Option Handle)
  | ⟨.call (.makeSlots c n), _⟩ => if c = cell then .replicate n.toInt.toNat none else slots
  | ⟨.fillSlot c place image, _⟩ => if c = cell then slots.set place (some image) else slots
  | _ => slots

end Event

namespace Transcript

/-- The objects to which references are taken, oldest first. -/
def referenced (events : Transcript) : List Handle := events.filterMap Event.referenced?

/-- The objects of which references are given up, oldest first. -/
def unreferenced (events : Transcript) : List Handle := events.filterMap Event.unreferenced?

/-- The slots that a cell has in the end. -/
def slotsOf (cell : Cell) (events : Transcript) : List (Option Handle) :=
  events.foldl (Event.slotsAfter cell) []

variable {cell : Cell} {events : Transcript} {slots : List (Option Handle)} {images : List Image}

@[simp] theorem referenced_append (first second : Transcript) :
    referenced (first ++ second) = referenced first ++ referenced second := List.filterMap_append

@[simp] theorem unreferenced_append (first second : Transcript) :
    unreferenced (first ++ second) = unreferenced first ++ unreferenced second :=
  List.filterMap_append

@[simp] theorem referenced_spoken (events : Transcript) :
    events.spoken.referenced = events.referenced := filterMap_spoken (fun _ => rfl) events

@[simp] theorem unreferenced_spoken (events : Transcript) :
    events.spoken.unreferenced = events.unreferenced := filterMap_spoken (fun _ => rfl) events

theorem foldl_slots_spoken (events : Transcript) :
    events.spoken.foldl (Event.slotsAfter cell) slots =
      events.foldl (Event.slotsAfter cell) slots := by
  induction events generalizing slots with
  | nil => rfl
  | cons e events ih =>
    obtain ⟨q, r⟩ := e
    by_cases hq : q = .table
    · subst hq
      exact ih
    · rw [spoken_cons (e := ⟨q, r⟩) hq]
      exact ih

/-- What neither makes slots nor fills them leaves them as they are. -/
theorem foldl_slots_of_still (h : ∀ e ∈ events, ∀ slots, e.slotsAfter cell slots = slots) :
    events.foldl (Event.slotsAfter cell) slots = slots := by
  induction events with
  | nil => rfl
  | cons e events ih =>
    rw [List.foldl_cons, h e (List.mem_cons_self ..)]
    exact ih fun e he => h e (List.mem_cons_of_mem _ he)

/-! ### The references of a host -/

@[simp] theorem referenced_refs : (refs images).referenced = images.map (·.object.handle) := by
  simp [refs, referenced, List.filterMap_map, Function.comp_def, Event.referenced?]

@[simp] theorem unreferenced_refs : (refs images).unreferenced = [] := by
  simp [refs, unreferenced, Event.unreferenced?]

@[simp] theorem referenced_unrefs : (unrefs images).referenced = [] := by
  simp [unrefs, referenced, Event.referenced?]

@[simp] theorem unreferenced_unrefs :
    (unrefs images).unreferenced = images.map (·.object.handle) := by
  simp [unrefs, unreferenced, List.filterMap_map, Function.comp_def, Event.unreferenced?]

theorem foldl_slots_refs :
    (refs images).foldl (Event.slotsAfter cell) slots = slots := by
  refine foldl_slots_of_still fun e he slots => ?_
  obtain ⟨image, -, rfl⟩ := List.mem_map.1 he
  rfl

theorem foldl_slots_unrefs :
    (unrefs images).foldl (Event.slotsAfter cell) slots = slots := by
  refine foldl_slots_of_still fun e he slots => ?_
  obtain ⟨image, -, rfl⟩ := List.mem_map.1 he
  rfl

/-! ### Filling -/

theorem referenced_fillings (place : Nat) (images : List Image) :
    (fillings cell place images).referenced = images.map (·.object.handle) := by
  induction images generalizing place with
  | nil => rfl
  | cons image images ih => exact congrArg (image.object.handle :: ·) (ih (place + 1))

theorem unreferenced_fillings (place : Nat) (images : List Image) :
    (fillings cell place images).unreferenced = [] := by
  induction images generalizing place with
  | nil => rfl
  | cons image images ih => exact ih (place + 1)

theorem containers_fillings (cell : Cell) (place : Nat) (images : List Image) :
    (fillings cell place images).containers = [] ∧ (fillings cell place images).returned = [] := by
  induction images generalizing place with
  | nil => exact ⟨rfl, rfl⟩
  | cons image images ih => exact ih (place + 1)

/-- One image goes into the first empty slot, and so on to the last. -/
theorem foldl_slots_fillings (filled : List (Option Handle)) (images : List Image) :
    (fillings cell filled.length images).foldl (Event.slotsAfter cell)
        (filled ++ .replicate images.length none) =
      filled ++ images.map fun image => some image.object.handle := by
  induction images generalizing filled with
  | nil => simp [fillings]
  | cons image images ih =>
    have hset : (filled ++ .replicate (images.length + 1) none).set filled.length
        (some image.object.handle) =
          (filled ++ [some image.object.handle]) ++ .replicate images.length none := by
      rw [List.set_append_right _ _ (Nat.le_refl _)]
      simp [List.replicate_succ]
    have hnext := ih (filled ++ [some image.object.handle])
    rw [List.length_append, List.length_singleton] at hnext
    simp only [fillings, List.foldl_cons, Event.slotsAfter, if_pos, List.length_cons, hset, hnext]
    simp

end Transcript

/-! ## The making of an array -/

namespace Value

variable {images : List Image} {said : Transcript}

/-- All of the images are in the array, or none of them has got a reference. -/
inductive AllOrNone (images : List Image) (events : Transcript) : Except Failure Value → Prop where
  /-- The slots of the value, which is made under the type of arrays of images, hold the images in
  order. Each image has got one reference for each time that it occurs. -/
  | all {type : TypeId} {number? : Option Nat}
      (typed : ⟨.call (.registered .imageArray), type⟩ ∈ events)
      (made : ⟨.call (.cellInit type), number?⟩ ∈ events)
      (there : ⟨.call (.slots (Cell.made number? type)), true⟩ ∈ events ∨ images = [])
      (slots : events.slotsOf (Cell.made number? type) =
        images.map fun image => some image.object.handle)
      (referenced : events.referenced = images.map (·.object.handle))
      (unreferenced : events.unreferenced = []) (returned : events.returned = []) :
      AllOrNone images events (.ok ⟨Cell.made number? type⟩)
  /-- Without slots for the images no reference is taken, and the cell that was made is unset
once. -/
  | none {type : TypeId} {number? : Option Nat}
      (typed : ⟨.call (.registered .imageArray), type⟩ ∈ events)
      (made : ⟨.call (.cellInit type), number?⟩ ∈ events)
      (there : ⟨.call (.slots (Cell.made number? type)), false⟩ ∈ events) (wanted : images ≠ [])
      (referenced : events.referenced = []) (unreferenced : events.unreferenced = [])
      (containers : events.containers =
        if (Cell.made number? type).type = .invalid then [] else [Cell.made number? type])
      (returned : events.returned = events.containers) :
      AllOrNone images events (.error (.nullPointer .imageArray))

theorem slotsOf_slotsAsked {type : TypeId} {number? : Option Nat} {there : Bool}
    (hlength : images.length ≤ Int32.maxValue.toInt) (rest : Transcript) :
    slotsOf (Cell.made number? type)
        (slotsAsked type number? (Int32.ofNat images.length) there ++ rest) =
      rest.foldl (Event.slotsAfter (Cell.made number? type)) (.replicate images.length .none) := by
  have hmax : Int32.maxValue.toInt = 2 ^ 31 - 1 := by decide
  have hcount : (Int32.ofNat images.length).toInt = images.length :=
    Int32.toInt_ofNat_of_lt (by omega)
  simp [slotsOf, slotsAsked, Event.slotsAfter, hcount]

theorem Boxed.allOrNone {r : Except Failure Value} (hlength : images.length ≤ Int32.maxValue.toInt)
    (h : Boxed images r said) : AllOrNone images said r := by
  cases h with
  | @filled type number? there hslots =>
    have hfillings := containers_fillings (Cell.made number? type) 0 images
    refine .all ?_ ?_ ?_ ?_ ?_ ?_ ?_
    · simp [slotsAsked]
    · simp [slotsAsked]
    · rcases hslots with rfl | hnone
      · exact .inl (by simp [slotsAsked])
      · exact .inr hnone
    · rw [slotsOf_slotsAsked hlength]
      exact foldl_slots_fillings [] images
    · rw [referenced_append, referenced_fillings]
      rfl
    · rw [unreferenced_append, unreferenced_fillings]
      rfl
    · rw [returned_append, hfillings.2]
      rfl
  | @bare type number? hwanted =>
    obtain ⟨hcontainers, hreturned⟩ := released_containers (Cell.made number? type)
    have hreleased : (released (Cell.made number? type)).referenced = [] ∧
        (released (Cell.made number? type)).unreferenced = [] := by
      unfold released
      split <;> exact ⟨rfl, rfl⟩
    have hmade : containers (slotsAsked type number? (Int32.ofNat images.length) false) =
        if (Cell.made number? type).type = .invalid then [] else [Cell.made number? type] := by
      simp only [slotsAsked, containers_cons, Event.container?_cellInit]
      split <;> rfl
    refine @AllOrNone.none _ _ type number? ?_ ?_ ?_ hwanted ?_ ?_ ?_ ?_
    · simp [slotsAsked]
    · simp [slotsAsked]
    · simp [slotsAsked]
    · rw [referenced_append, hreleased.1]
      rfl
    · rw [unreferenced_append, hreleased.2]
      rfl
    · rw [containers_append, hcontainers, List.append_nil, hmade]
    · rw [returned_append, containers_append, hcontainers, List.append_nil, hmade, hreturned]
      rfl

/-- The looks at the table make no difference. -/
theorem AllOrNone.of_spoken {events : Transcript} {r : Except Failure Value}
    (h : AllOrNone images events.spoken r) : AllOrNone images events r := by
  have hmem {e : Event} (he : e ∈ events.spoken) : e ∈ events := (mem_spoken.1 he).1
  cases h with
  | all typed made there slots referenced unreferenced returned =>
    refine .all (hmem typed) (hmem made) (there.imp_left hmem) ?_ ?_ ?_ ?_
    · exact (foldl_slots_spoken events).symm.trans slots
    · rwa [referenced_spoken] at referenced
    · rwa [unreferenced_spoken] at unreferenced
    · rwa [returned_spoken] at returned
  | none typed made there wanted referenced unreferenced containers returned =>
    rw [referenced_spoken] at referenced
    rw [unreferenced_spoken] at unreferenced
    rw [containers_spoken] at containers returned
    rw [returned_spoken] at returned
    exact .none (hmem typed) (hmem made) (hmem there) wanted referenced unreferenced containers
      returned

theorem ofImages_allOrNone {events : Transcript} {r : Except Failure Value}
    (hlength : images.length ≤ Int32.maxValue.toInt)
    (hrun : (ofImages images).run.Runs events r) (htable : events.Lasting true) :
    AllOrNone images events r :=
  ((ofImages_speaks hlength (speaks_of_runs hrun htable)).allOrNone hlength).of_spoken

end Value

/-! ## The cell of a host -/

/-- A request that has nothing to do with references, cells or slots. -/
def Request.Aside : Request → Prop
  | .call _ | .fillSlot _ _ _ => False
  | _ => True

theorem Request.aside_of_loading (q : Request) (h : q.Loading) : q.Aside := by
  cases q <;> trivial

namespace Event

variable {e : Event} (h : e.request.Aside)
include h

theorem referenced?_of_aside : e.referenced? = none := by
  obtain ⟨q, r⟩ := e
  cases q <;> first | rfl | exact h.elim

theorem unreferenced?_of_aside : e.unreferenced? = none := by
  obtain ⟨q, r⟩ := e
  cases q <;> first | rfl | exact h.elim

theorem slotsAfter_of_aside {cell : Cell} {slots : List (Option Handle)} :
    e.slotsAfter cell slots = slots := by
  obtain ⟨q, r⟩ := e
  cases q <;> first | rfl | exact h.elim

end Event

namespace Transcript

variable {events : Transcript}

/-- Nothing that has to do with references, cells or slots. -/
def Aside (events : Transcript) : Prop := ∀ e ∈ events, e.request.Aside

theorem aside_logged {α : Type} (entry : String) (r : Except Failure α) :
    Aside (Foreign.logged entry r) := by
  cases r with
  | ok _ => exact fun _ => nofun
  | error failure =>
    intro e he
    cases List.mem_singleton.1 he
    trivial

theorem filterMap_of_aside {α : Type} {f : Event → Option α}
    (hf : ∀ e : Event, e.request.Aside → f e = none) (h : events.Aside) :
    events.filterMap f = [] :=
  List.filterMap_eq_nil_iff.2 fun e he => hf e (h e he)

theorem Aside.calls (h : events.Aside) : events.calls = [] := by
  refine filterMap_of_aside ?_ h
  rintro ⟨q, r⟩ hq
  cases q <;> first | rfl | exact hq.elim

theorem Aside.foldl_slots {cell : Cell} {slots : List (Option Handle)} (h : events.Aside) :
    events.foldl (Event.slotsAfter cell) slots = slots :=
  foldl_slots_of_still fun e he _ => Event.slotsAfter_of_aside (h e he)

theorem calls_refs (images : List Image) :
    (refs images).calls = images.map fun image => .ref image.object.handle := by
  rw [refs, Transcript.calls, List.filterMap_map]
  exact congrFun List.filterMap_eq_map images

theorem calls_unrefs (images : List Image) :
    (unrefs images).calls = images.map fun image => .unref (some image.object.handle) := by
  rw [unrefs, Transcript.calls, List.filterMap_map]
  exact congrFun List.filterMap_eq_map images

end Transcript

namespace Foreign

variable {entry : String} {place : Place} {make : Attempt Value} {events : Transcript}
  {stored : Option Cell}

/-- Where the host has no cell, or the library cannot be loaded, nothing is done. Otherwise the
value is made on the loaded library. -/
theorem fill_cases (h : (fill entry place make).Runs events stored)
    (htable : events.Lasting false) :
    (stored = none ∧ events.Aside ∧ (place = .writable → ¬ events.Lasting true)) ∨
      place = .writable ∧ ∃ loading inner r, events = loading ++ inner ++ logged entry r ∧
        loading.Aside ∧ inner.Lasting true ∧ make.run.Runs inner r ∧
          stored = r.toOption.map Value.cell := by
  rw [Export.fill_eq] at h
  obtain ⟨first, second, yield, rfl, hfirst, hsecond⟩ := runs_bind_iff.1 h
  obtain ⟨rfl, rfl⟩ := runs_done_iff.1 hsecond
  rw [List.append_nil] at htable ⊢
  cases place with
  | null =>
    obtain ⟨_, rest, rfl, hrest⟩ := runs_ask_iff.1 hfirst
    obtain ⟨rfl, rfl⟩ := runs_done_iff.1 hrest
    refine .inl ⟨rfl, ?_, nofun⟩
    intro e he
    cases List.mem_singleton.1 he
    trivial
  | writable =>
    obtain ⟨whole, r, rfl, hrun, rfl⟩ := Export.runs_reported_iff.1 hfirst
    have hloads {loading : Transcript} {r : Except Failure Unit}
        (h : ensureLoaded.run.Runs loading r) : loading.Aside :=
      (ensureLoaded_asks Request.aside_of_loading).of_runs h
    rcases runs_try_iff.1 hrun with ⟨f, hfailed, rfl⟩ | ⟨loading, inner, _, rfl, hload, hmake⟩
    · refine .inl ⟨rfl, ?_, fun _ hlasting => ?_⟩
      · exact List.forall_mem_append.2 ⟨hloads hfailed, aside_logged entry _⟩
      · have hload :
            (do Foreign.ensureLoaded; pure () : Attempt Unit).run.Runs whole (.error f) := by
          simpa using hfailed
        obtain ⟨_, _, -, hdone⟩ :=
          Export.loaded_runs (Transcript.lasting_append_iff.1 hlasting).1 hload
        cases (runs_done_iff.1 hdone).2
    · refine .inr ⟨rfl, loading, inner, r, rfl, hloads hload, ?_, hmake, rfl⟩
      obtain ⟨e, he, table, hshown⟩ := Caller.ensureLoaded_shown hload
      exact lasting_of_shown (Transcript.lasting_append.1 htable).1 ⟨e, he, hshown⟩

/-- The images up to the first that is missing. -/
def present (items : List (Option Handle)) : List Handle :=
  (items.takeWhile Option.isSome).filterMap id

theorem present_of_missing (before : List Image) (others : List (Option Handle)) :
    present (before.map (fun image => some image.object.handle) ++ none :: others) =
      before.map (·.object.handle) := by
  induction before with
  | nil => rfl
  | cons image before ih => exact congrArg (image.object.handle :: ·) ih

/-- What filling a host's cell with an array of images leaves: all of it, or nothing. -/
structure FillsAllOrNone (place : Place) (items : List (Option Handle)) (events : Transcript)
    (stored : Option Cell) : Prop where
  /-- Where an image is missing, the host's cell is as it was, -/
  untouched : none ∈ items → stored = none
  /-- no cell is made, -/
  unmade : none ∈ items → ∀ type, Call.cellInit type ∉ events.calls
  /-- references were taken to no other images than those before it, -/
  taken : none ∈ items → events.referenced = present items ∨ events.referenced = []
  /-- on a loaded library to all of these, -/
  takenLoaded : none ∈ items → place = .writable → events.Lasting true →
    events.referenced = present items
  /-- and exactly the references that were taken are given up. -/
  givenUp : none ∈ items → events.unreferenced = events.referenced
  /-- Whatever else goes wrong, no image has more references than before. -/
  balanced : stored = none → ∀ handle,
    events.referenced.count handle = events.unreferenced.count handle
  /-- A cell that is written has all the images in its slots, in order, -/
  slots : ∀ cell, stored = some cell → none ∉ items ∧ events.slotsOf cell = items
  /-- and each image has one reference more for each time that it occurs. -/
  references : ∀ cell, stored = some cell → ∀ handle,
    events.referenced.count handle =
      events.unreferenced.count handle + items.count (some handle)
  /-- On a loaded library that makes slots, a host's cell is written. -/
  written : none ∉ items → place = .writable → events.Lasting true →
    (∀ cell there, ⟨.call (.slots cell), there⟩ ∈ events → there = true) → stored ≠ none

theorem length_lent_le {α : Type} (items : Option (List α)) (size : Int32) :
    (lent items size).length ≤ Int32.maxValue.toInt := by
  have hmax : Int32.maxValue.toInt = 2 ^ 31 - 1 := by decide
  have hsize := Int32.toInt_lt size
  cases items with
  | none => simp [lent, hmax]
  | some items =>
    simp only [lent, List.length_take]
    omega

theorem fillsAllOrNone_of_aside {items : List (Option Handle)} (h : events.Aside)
    (hnot : place = .writable → ¬ events.Lasting true) :
    FillsAllOrNone place items events none := by
  have hreferenced : events.referenced = [] :=
    filterMap_of_aside (fun _ => Event.referenced?_of_aside) h
  have hunreferenced : events.unreferenced = [] :=
    filterMap_of_aside (fun _ => Event.unreferenced?_of_aside) h
  constructor
  case untouched => exact fun _ => rfl
  case unmade => simp [h.calls]
  case taken => exact fun _ => .inr hreferenced
  case takenLoaded => exact fun _ hplace hloaded => absurd hloaded (hnot hplace)
  case givenUp => rw [hreferenced, hunreferenced]; exact fun _ => rfl
  case balanced => rw [hreferenced, hunreferenced]; exact fun _ _ => rfl
  case slots => exact fun _ => nofun
  case references => exact fun _ => nofun
  case written => exact fun _ hplace hloaded => absurd hloaded (hnot hplace)

section

variable {loading : Transcript} {α : Type} (entry : String) (inner : Transcript)
  (r : Except Failure α) (hloading : loading.Aside)
include hloading

/-- A view that leaves such requests out is the view of what was said in between. -/
theorem filterMap_loaded {β : Type} {f : Event → Option β}
    (hf : ∀ e : Event, e.request.Aside → f e = none) :
    (loading ++ inner ++ logged entry r).filterMap f = inner.spoken.filterMap f := by
  have hlogged := filterMap_of_aside hf (aside_logged entry r)
  have hspoken := filterMap_spoken (fun table => hf ⟨.table, table⟩ trivial) inner
  rw [List.filterMap_append, List.filterMap_append, filterMap_of_aside hf hloading, hlogged,
    hspoken, List.nil_append, List.append_nil]

theorem calls_loaded : (loading ++ inner ++ logged entry r).calls = inner.spoken.calls := by
  rw [calls_append, calls_append, hloading.calls, (aside_logged entry r).calls, calls_spoken,
    List.nil_append, List.append_nil]

theorem referenced_loaded :
    (loading ++ inner ++ logged entry r).referenced = inner.spoken.referenced :=
  filterMap_loaded entry inner r hloading fun _ => Event.referenced?_of_aside

theorem unreferenced_loaded :
    (loading ++ inner ++ logged entry r).unreferenced = inner.spoken.unreferenced :=
  filterMap_loaded entry inner r hloading fun _ => Event.unreferenced?_of_aside

theorem slotsOf_loaded (cell : Cell) :
    (loading ++ inner ++ logged entry r).slotsOf cell = inner.spoken.slotsOf cell := by
  unfold slotsOf
  rw [List.foldl_append, List.foldl_append, hloading.foldl_slots,
    (aside_logged entry r).foldl_slots, foldl_slots_spoken]

end

/-- All images are there, and an array of them is made in between. -/
theorem fillsAllOrNone_of_present {loading inner boxing : Transcript} {images : List Image}
    {r : Except Failure Value} (hloading : loading.Aside) (hboxed : Value.AllOrNone images boxing r)
    (hspoken : inner.spoken = refs images ++ boxing ++ unrefs images) :
    FillsAllOrNone .writable (images.map fun image => some image.object.handle)
      (loading ++ inner ++ logged entry r) (r.toOption.map Value.cell) := by
  have hall : none ∉ images.map fun image => some image.object.handle := by simp
  have hreferenced := referenced_loaded entry inner r hloading
  have hunreferenced := unreferenced_loaded entry inner r hloading
  have hslots := slotsOf_loaded entry inner r hloading
  have hmem {e : Event} (he : e ∈ boxing) : e ∈ loading ++ inner ++ logged entry r := by
    have hinner : e ∈ inner.spoken := by simp [hspoken, he]
    simp [(mem_spoken.1 hinner).1]
  generalize loading ++ inner ++ logged entry r = events at hreferenced hunreferenced hslots hmem
  rw [hspoken, referenced_append, referenced_append, referenced_refs, referenced_unrefs,
    List.append_nil] at hreferenced
  rw [hspoken, unreferenced_append, unreferenced_append, unreferenced_refs, unreferenced_unrefs,
    List.nil_append] at hunreferenced
  cases hboxed with
  | @all type number? _ _ _ slots referenced unreferenced _ =>
    rw [referenced] at hreferenced
    rw [unreferenced, List.nil_append] at hunreferenced
    constructor
    case slots =>
      rintro _ ⟨⟩
      refine ⟨hall, ?_⟩
      rw [hslots, hspoken]
      unfold slotsOf at slots ⊢
      rw [List.foldl_append, List.foldl_append, foldl_slots_refs, slots, foldl_slots_unrefs]
    case references =>
      rintro _ ⟨⟩ handle
      have hcount : (images.map fun image => some image.object.handle).count (some handle) =
          (images.map (·.object.handle)).count handle := by
        rw [← List.count_map_of_injective (images.map (·.object.handle)) some
          (fun _ _ => Option.some.inj), List.map_map]
        rfl
      rw [hreferenced, hunreferenced, hcount, List.count_append]
    case balanced => exact nofun
    case written => exact fun _ _ _ _ => nofun
    all_goals exact fun hnone => absurd hnone hall
  | none _ _ there _ referenced unreferenced _ _ =>
    rw [referenced, List.append_nil] at hreferenced
    rw [unreferenced, List.nil_append] at hunreferenced
    constructor
    case balanced => exact fun _ handle => by rw [hreferenced, hunreferenced]
    case slots => exact fun _ => nofun
    case references => exact fun _ => nofun
    case written => exact fun _ _ _ hthere => nomatch hthere _ _ (hmem there)
    all_goals exact fun hnone => absurd hnone hall

/-- An image is missing. -/
theorem fillsAllOrNone_of_missing {loading inner : Transcript} {before : List Image}
    {others : List (Option Handle)} {failure : Failure} (hloading : loading.Aside)
    (hspoken : inner.spoken = refs before ++ unrefs before) :
    FillsAllOrNone .writable (before.map (fun image => some image.object.handle) ++ none :: others)
      (loading ++ inner ++ logged entry (.error failure : Except Failure Value)) none := by
  let r : Except Failure Value := .error failure
  have hreferenced := referenced_loaded entry inner r hloading
  have hunreferenced := unreferenced_loaded entry inner r hloading
  have hcalls := calls_loaded entry inner r hloading
  generalize loading ++ inner ++ logged entry r = events at hreferenced hunreferenced hcalls
  rw [hspoken, referenced_append, referenced_refs, referenced_unrefs, List.append_nil]
    at hreferenced
  rw [hspoken, unreferenced_append, unreferenced_refs, unreferenced_unrefs, List.nil_append]
    at hunreferenced
  rw [hspoken, calls_append, calls_refs, calls_unrefs] at hcalls
  have hpresent := present_of_missing before others
  constructor
  case untouched => exact fun _ => rfl
  case unmade => simp [hcalls]
  case taken => exact fun _ => .inl (hreferenced.trans hpresent.symm)
  case takenLoaded => exact fun _ _ _ => hreferenced.trans hpresent.symm
  case givenUp => exact fun _ => hunreferenced.trans hreferenced.symm
  case balanced => exact fun _ handle => by rw [hreferenced, hunreferenced]
  case slots => exact fun _ => nofun
  case references => exact fun _ => nofun
  case written => exact fun hall => absurd (by simp) hall

theorem setImages_fillsAllOrNone {items : Option (List (Option Handle))} {size : Int32}
    (h : (setImages place items size).Runs events stored) (htable : events.Lasting false) :
    FillsAllOrNone place (lent items size) events stored := by
  have hlength := length_lent_le items size
  unfold setImages at h
  generalize lent items size = items at h hlength
  obtain ⟨rfl, haside, hnot⟩ | ⟨rfl, loading, inner, r, rfl, hloading, hinner, hmake, rfl⟩ :=
    fill_cases h htable
  · exact fillsAllOrNone_of_aside haside hnot
  · obtain ⟨images, boxing, rfl, hboxing, hspoken⟩ | ⟨before, others, rfl, hspoken, rfl⟩ :=
      speaks_lentImages (speaks_of_runs hmake hinner)
    · rw [List.length_map] at hlength
      exact fillsAllOrNone_of_present hloading
        ((Value.ofImages_speaks hlength hboxing).allOrNone hlength) hspoken
    · exact fillsAllOrNone_of_missing hloading hspoken

end Foreign

/-! ## Whole or not at all -/

/-- A table that every look shows is there throughout. -/
theorem Transcript.lasting_of_world {events : Transcript} {world : (q : Request) → q.Reply}
    {seen : Bool} (htable : (world .table).isSome)
    (h : ∀ e ∈ events, e.reply = world e.request) : events.Lasting seen := by
  induction events generalizing seen with
  | nil => trivial
  | cons e events ih =>
    refine ⟨fun hlook _ => ?_, ih fun e he => h e (List.mem_cons_of_mem _ he)⟩
    rw [h e (List.mem_cons_self ..), hlook]
    exact htable

/-- On a loaded library an array of images takes all of the images or none, whatever the library
answers, and a host's cell gets all of the images that the host passes, or it is left alone and
every reference is given up. -/
theorem an_array_of_images_is_whole_or_nothing :
    (∀ images : List Image, images.length ≤ Int32.maxValue.toInt →
      (∀ events r, (Value.ofImages images).run.Runs events r → events.Lasting true →
        Value.AllOrNone images events r) ∧
      ∀ world : (q : Request) → q.Reply, (world .table).isSome →
        ∃ events r, (Value.ofImages images).run.Runs events r ∧ events.Lasting true ∧
          ∀ e ∈ events, e.reply = world e.request) ∧
    ∀ place items size events stored, (Foreign.setImages place items size).Runs events stored →
      events.Lasting false →
        Foreign.FillsAllOrNone place (Foreign.lent items size) events stored := by
  refine ⟨fun images hlength => ⟨fun events r => Value.ofImages_allOrNone hlength, ?_⟩,
    fun place items size events stored => Foreign.setImages_fillsAllOrNone⟩
  intro world htable
  obtain ⟨events, r, hrun, hworld⟩ := (Value.ofImages images).run.exists_runs world
  exact ⟨events, r, hrun, Transcript.lasting_of_world htable hworld, hworld⟩

/-- One image twice, in the two slots of a cell. -/
def imageTwice : Transcript :=
  [⟨.table, some ⟨⟨"libvips.so.42"⟩, none, []⟩⟩, ⟨.call (.registered .imageArray), ⟨2001⟩⟩,
    ⟨.call (.cellInit ⟨2001⟩), some 1⟩, ⟨.call (.makeSlots ⟨some 1, ⟨2001⟩⟩ 2), ()⟩,
    ⟨.call (.slots ⟨some 1, ⟨2001⟩⟩), true⟩, ⟨.call (.ref ⟨"a"⟩), ()⟩,
    ⟨.fillSlot ⟨some 1, ⟨2001⟩⟩ 0 ⟨"a"⟩, ()⟩, ⟨.call (.ref ⟨"a"⟩), ()⟩,
    ⟨.fillSlot ⟨some 1, ⟨2001⟩⟩ 1 ⟨"a"⟩, ()⟩]

/-- A host passes three images, and the second is missing. -/
def secondMissing : Transcript :=
  let table : Event := ⟨.table, some ⟨⟨"libvips.so.42"⟩, none, []⟩⟩
  [table, table, ⟨.call (.ref ⟨"a"⟩), ()⟩, table, ⟨.call (.unref (some ⟨"a"⟩)), ()⟩,
    Foreign.warning "vo_set_images" (Failure.nullPointer .image).message]

/-- A loaded library that answers with nothing, and so makes no slots. -/
def slotless : (q : Request) → q.Reply
  | .table => some ⟨⟨"libvips.so.42"⟩, none, []⟩
  | q => Loader.answer ⟨fun _ => .ok ⟨"libvips.so.42"⟩, fun _ _ => .ok ()⟩ (fun _ => none) q

theorem a_missing_image_gives_back_the_one_before_it :
    Value.AllOrNone [⟨⟨⟨"a"⟩⟩⟩, ⟨⟨⟨"a"⟩⟩⟩] imageTwice (.ok ⟨⟨some 1, ⟨2001⟩⟩⟩) ∧
      (∃ events r, (Value.ofImages [⟨⟨⟨"a"⟩⟩⟩]).run.Runs events r ∧ events.Lasting true ∧
        ∀ e ∈ events, e.reply = slotless e.request) ∧
      Foreign.FillsAllOrNone .writable [some ⟨"a"⟩, none, some ⟨"b"⟩] secondMissing none := by
  obtain ⟨harrays, hcells⟩ := an_array_of_images_is_whole_or_nothing
  have htwice : (Value.ofImages [⟨⟨⟨"a"⟩⟩⟩, ⟨⟨⟨"a"⟩⟩⟩]).run.Runs imageTwice
      (.ok ⟨⟨some 1, ⟨2001⟩⟩⟩) :=
    .ask _ (.ask _ (.ask _ (.ask _ (.ask _ (.ask _ (.ask _ (.ask _ (.ask _ (.done _)))))))))
  have hmissing : (Foreign.setImages .writable (some [some ⟨"a"⟩, none, some ⟨"b"⟩]) 3).Runs
      secondMissing none :=
    .ask _ (.ask _ (.ask _ (.ask _ (.ask _ (.ask _ (.done _))))))
  refine ⟨(harrays _ (by decide)).1 _ _ htwice ?_, (harrays _ (by decide)).2 slotless rfl,
    hcells _ _ _ _ _ hmissing ?_⟩
  · simp [imageTwice, Transcript.Lasting, Resource.tableSeen]
  · simp [secondMissing, Transcript.Lasting, Resource.tableSeen, Foreign.warning]

end ImageGateway
