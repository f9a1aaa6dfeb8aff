-- How an input of a call is assigned. A new cell takes what the argument is, under
-- the type of its kind, the cell is assigned to the property, and it is released
-- whatever comes of that. What the library cannot take is refused before.

import ImageGateway.Proofs.PropertyReading

namespace ImageGateway

open Program Transcript

namespace Transcript

/-- A new cell of the type takes the payload. -/
def storing (type : TypeId) (number? : Option Nat) (payload : Payload) : Transcript :=
  [⟨.call (.cellInit type), number?⟩, ⟨.call (.cellSet (Cell.made number? type) payload), ()⟩]

/-- Each image gets a reference and goes into the next slot of the cell. -/
def fillings (cell : Cell) : Nat → List Image → Transcript
  | _, [] => []
  | place, image :: images =>
    ⟨.call (.ref image.object.handle), ()⟩ :: ⟨.fillSlot cell place image.object.handle, ()⟩ ::
      fillings cell (place + 1) images

end Transcript

namespace Value

variable {images : List Image} {said : Transcript}

/-! ## One payload -/

theorem filled_speaks {type : TypeId} {payload : Payload} {v : Value}
    (h : (filled type payload).Speaks said v) :
    ∃ number?, said = storing type number? payload ∧ v = ⟨Cell.made number? type⟩ := by
  obtain ⟨making, rest, v, rfl, hmake, hrest⟩ := speaks_bind_iff.1 h
  obtain ⟨number?, rfl, rfl⟩ := make_speaks hmake
  obtain ⟨setting, last, _, rfl, hset, hlast⟩ := speaks_bind_iff.1 hrest
  obtain ⟨rfl, rfl⟩ := speaks_done_iff.1 hlast
  rw [speaks_request (q := .call (.cellSet (Cell.made number? type) payload)) (by simp) hset]
  exact ⟨number?, rfl, rfl⟩

/-- A cell of a type of its own. -/
theorem stored_speaks {type : TypeId} {payload : Payload} {r : Except Failure Value}
    (h : (do requireTable; filled type payload : Attempt Value).run.Speaks said r) :
    ∃ number?, said = storing type number? payload ∧ r = .ok ⟨Cell.made number? type⟩ := by
  obtain ⟨v, rfl, hfilled⟩ := speaks_lift (speaks_requireTable h)
  obtain ⟨number?, rfl, rfl⟩ := filled_speaks hfilled
  exact ⟨number?, rfl, rfl⟩

/-- A cell of a type that the library is asked for. -/
theorem registered_speaks {which : Registered} {payload : Payload} {r : Except Failure Value}
    (h : (do filled (← native (.registered which)) payload : Attempt Value).run.Speaks said r) :
    ∃ type number?, said = ⟨.call (.registered which), type⟩ :: storing type number? payload ∧
      r = .ok ⟨Cell.made number? type⟩ := by
  obtain ⟨type, _, rfl, hrest⟩ := speaks_call h
  obtain ⟨v, rfl, hfilled⟩ := speaks_lift hrest
  obtain ⟨number?, rfl, rfl⟩ := filled_speaks hfilled
  exact ⟨type, number?, rfl, rfl⟩

/-- An array goes on if the library can count that far. -/
theorem counted_speaks {n : Nat} {f : Int32 → Attempt Value} {r : Except Failure Value}
    (h : (countOf n >>= f).run.Speaks said r) :
    (n ≤ Int32.maxValue.toInt ∧ (f (Int32.ofNat n)).run.Speaks said r) ∨
      (Int32.maxValue.toInt < n ∧ said = [] ∧ r = .error (.arrayTooLarge n)) := by
  unfold countOf at h
  split at h
  · exact .inl ⟨‹_›, h⟩
  · exact .inr ⟨by omega, speaks_done_iff.1 h⟩

/-! ## Slots of images -/

theorem fillSlots_speaks {cell : Cell} {place : Nat}
    (h : (fillSlots cell place images).Speaks said ()) : said = fillings cell place images := by
  induction images generalizing place said with
  | nil => exact (speaks_done_iff.1 h).1
  | cons image images ih =>
    obtain ⟨first, rest, _, rfl, hfirst, hrest⟩ := speaks_bind_iff.1 h
    obtain ⟨second, last, _, rfl, hsecond, hlast⟩ := speaks_bind_iff.1 hrest
    rw [speaks_request (q := .call (.ref image.object.handle)) (by simp) hfirst,
      speaks_request (q := .fillSlot cell place image.object.handle) (by simp) hsecond, ih hlast]
    rfl

/-- What is said up to the slots: the type, the cell, `n` slots in it, and whether they are
there. -/
def slotsAsked (type : TypeId) (number? : Option Nat) (n : Int32) (there : Bool) : Transcript :=
  [⟨.call (.registered .imageArray), type⟩, ⟨.call (.cellInit type), number?⟩,
    ⟨.call (.makeSlots (Cell.made number? type) n), ()⟩,
    ⟨.call (.slots (Cell.made number? type)), there⟩]

/-- How an array of images is made: what is said, and what comes of it. -/
inductive Boxed (images : List Image) : Except Failure Value → Transcript → Prop where
  | filled {type : TypeId} {number? : Option Nat} {there : Bool}
      (slots : there = true ∨ images = []) :
      Boxed images (.ok ⟨Cell.made number? type⟩)
        (slotsAsked type number? (Int32.ofNat images.length) there ++
          fillings (Cell.made number? type) 0 images)
  /-- There are no slots for the images, and the cell is given back. -/
  | bare {type : TypeId} {number? : Option Nat} (wanted : images ≠ []) :
      Boxed images (.error (.nullPointer .imageArray))
        (slotsAsked type number? (Int32.ofNat images.length) false ++
          released (Cell.made number? type))

/-- An array that the library can count has no elements exactly if their number is zero. -/
theorem ofNat_length_eq_zero_iff (hlength : images.length ≤ Int32.maxValue.toInt) :
    Int32.ofNat images.length = 0 ↔ images = [] := by
  have hmax : Int32.maxValue.toInt = 2 ^ 31 - 1 := by decide
  have hcount : (Int32.ofNat images.length).toInt = images.length :=
    Int32.toInt_ofNat_of_lt (by omega)
  rw [← Int32.toInt_inj, hcount, ← List.length_eq_zero_iff]
  exact Int.natCast_eq_zero

theorem ofImages_speaks {r : Except Failure Value}
    (hlength : images.length ≤ Int32.maxValue.toInt)
    (h : (ofImages images).run.Speaks said r) : Boxed images r said := by
  have hcount : countOf images.length = return Int32.ofNat images.length := if_pos hlength
  have htable := speaks_requireTable h
  rw [hcount] at htable
  obtain ⟨type, _, rfl, htype⟩ := speaks_call htable
  obtain ⟨_, _, v, rfl, hmake, hmade⟩ := speaks_then htype
  obtain ⟨number?, rfl, rfl⟩ := make_speaks hmake
  obtain ⟨_, _, rfl, hasked⟩ := speaks_call hmade
  obtain ⟨there, rest, rfl, hrest⟩ := speaks_call hasked
  by_cases hslots : there = true ∨ images = []
  · rw [if_pos (by simpa [ofNat_length_eq_zero_iff hlength] using hslots)] at hrest
    obtain ⟨filling, last, _, rfl, hfilling, hlast⟩ := speaks_then hrest
    obtain ⟨rfl, rfl⟩ := speaks_done_iff.1 hlast
    rw [fillSlots_speaks hfilling, List.append_nil]
    exact .filled hslots
  · rw [if_neg (by simpa [ofNat_length_eq_zero_iff hlength] using hslots)] at hrest
    obtain ⟨releasing, last, _, rfl, hrelease, hlast⟩ := speaks_then hrest
    obtain ⟨rfl, rfl⟩ := speaks_done_iff.1 hlast
    rw [release_speaks hrelease, List.append_nil]
    rw [not_or, Bool.not_eq_true] at hslots
    obtain ⟨rfl, hwanted⟩ := hslots
    exact .bare hwanted

end Value

/-! ## Arguments -/

/-- The number of items of an array. -/
def Argument.items? : Argument → Option Nat
  | ints xs => some xs.size
  | doubles xs => some xs.size
  | images xs => some xs.length
  | _ => none

/-- How a value is made of an argument: what is said, and what comes of it. -/
inductive Argument.Made : Argument → Except Failure Value → Transcript → Prop where
  | bool {b : Bool} {number? : Option Nat} :
      Made (.bool b) (.ok ⟨Cell.made number? .boolean⟩)
        (storing .boolean number? (.boolean (if b then 1 else 0)))
  | int {n : Int32} {number? : Option Nat} :
      Made (.int n) (.ok ⟨Cell.made number? .int⟩) (storing .int number? (.int n))
  | uint64 {n : UInt64} {number? : Option Nat} :
      Made (.uint64 n) (.ok ⟨Cell.made number? .uint64⟩) (storing .uint64 number? (.uint64 n))
  | double {x : Double} {number? : Option Nat} :
      Made (.double x) (.ok ⟨Cell.made number? .double⟩) (storing .double number? (.double x))
  | text {s : String} {text : CText} {number? : Option Nat}
      (passed : CText.ofString? s = some text) :
      Made (.text s) (.ok ⟨Cell.made number? .string⟩) (storing .string number? (.string text))
  /-- The native side cannot take the text. -/
  | zeroByte {s : String} (zero : CText.ofString? s = none) :
      Made (.text s) (.error (.zeroByte s)) []
  /-- The library cannot count that far. -/
  | tooLarge {argument : Argument} {n : Nat} (items : argument.items? = some n)
      (uncounted : Int32.maxValue.toInt < n) : Made argument (.error (.arrayTooLarge n)) []
  | ints {xs : Span Int32} {type : TypeId} {number? : Option Nat}
      (counted : xs.size ≤ Int32.maxValue.toInt) :
      Made (.ints xs) (.ok ⟨Cell.made number? type⟩)
        (⟨.call (.registered .intArray), type⟩ :: storing type number? (.ints xs.toList))
  | doubles {xs : Span Double} {type : TypeId} {number? : Option Nat}
      (counted : xs.size ≤ Int32.maxValue.toInt) :
      Made (.doubles xs) (.ok ⟨Cell.made number? type⟩)
        (⟨.call (.registered .doubleArray), type⟩ :: storing type number? (.doubles xs.toList))
  | images {images : List Image} {r : Except Failure Value} {said : Transcript}
      (counted : images.length ≤ Int32.maxValue.toInt) (boxed : Value.Boxed images r said) :
      Made (.images images) r said
  /-- The cell keeps the copy of the bytes alive. -/
  | bytes {bytes : List UInt8} {blob : Handle} {type : TypeId} {number? : Option Nat} :
      Made (.bytes bytes) (.ok ⟨Cell.made number? type⟩)
        ([⟨.call (.blobCopy bytes), some blob⟩, ⟨.call (.registered .blob), type⟩] ++
          storing type number? (.boxed blob) ++ [⟨.call (.areaUnref blob), ()⟩])
  | noBlob {bytes : List UInt8} :
      Made (.bytes bytes) (.error (.nullPointer .blob)) [⟨.call (.blobCopy bytes), none⟩]
  | image {image : Image} {type : TypeId} {number? : Option Nat} :
      Made (.image image) (.ok ⟨Cell.made number? type⟩)
        (⟨.instanceType image.object.handle, type⟩ ::
          storing type number? (.object image.object.handle))
  | object {object : Object} {type : TypeId} {number? : Option Nat} :
      Made (.object object) (.ok ⟨Cell.made number? type⟩)
        (⟨.instanceType object.handle, type⟩ :: storing type number? (.object object.handle))

namespace Value

variable {said : Transcript} {r : Except Failure Value}

theorem ofObject_speaks {object : Object} (h : (ofObject object).run.Speaks said r) :
    ∃ type number?, said = ⟨.instanceType object.handle, type⟩ ::
        storing type number? (.object object.handle) ∧ r = .ok ⟨Cell.made number? type⟩ := by
  obtain ⟨type, _, rfl, hrest⟩ :=
    speaks_ask (q := .instanceType object.handle) (by simp) (speaks_requireTable h)
  obtain ⟨v, rfl, hfilled⟩ := speaks_lift hrest
  obtain ⟨number?, rfl, rfl⟩ := filled_speaks hfilled
  exact ⟨type, number?, rfl, rfl⟩

theorem ofBytes_speaks {bytes : List UInt8} (h : (ofBytes bytes).run.Speaks said r) :
    Argument.Made (.bytes bytes) r said := by
  obtain ⟨_, hcopy, rfl⟩ | ⟨copying, _, ⟨blob⟩, rfl, hcopy, hrest⟩ := speaks_try h <;>
    obtain ⟨copied, _, rfl, hcopied⟩ := speaks_call (speaks_requireTable hcopy)
  · cases copied with
    | some blob => cases (speaks_done_iff.1 hcopied).2
    | none =>
      obtain ⟨rfl, ⟨⟩⟩ := speaks_done_iff.1 hcopied
      exact .noBlob
  · cases copied with
    | none => cases (speaks_done_iff.1 hcopied).2
    | some _ =>
      obtain ⟨rfl, ⟨⟩⟩ := speaks_done_iff.1 hcopied
      obtain ⟨storing, releasing, rfl, hstored, hrelease⟩ := speaks_closedBy hrest
      obtain ⟨type, number?, rfl, rfl⟩ := registered_speaks (speaks_requireTable hstored)
      rw [speaks_request (q := .call (.areaUnref blob)) (by simp) (speaks_ifLoaded hrelease)]
      exact .bytes

end Value

open Value

theorem Argument.toValue_speaks {argument : Argument} {r : Except Failure Value}
    {said : Transcript} (h : argument.toValue.run.Speaks said r) : argument.Made r said := by
  cases argument with
  | bool b =>
    obtain ⟨number?, rfl, rfl⟩ := stored_speaks h
    exact .bool
  | int n =>
    obtain ⟨number?, rfl, rfl⟩ := stored_speaks h
    exact .int
  | uint64 n =>
    obtain ⟨number?, rfl, rfl⟩ := stored_speaks h
    exact .uint64
  | double x =>
    obtain ⟨number?, rfl, rfl⟩ := stored_speaks h
    exact .double
  | text s =>
    cases hs : CText.ofString? s with
    | none =>
      obtain ⟨rfl, rfl⟩ := speaks_zeroByte hs h
      exact .zeroByte hs
    | some text =>
      obtain ⟨number?, rfl, rfl⟩ := stored_speaks (speaks_nativeText hs h)
      exact .text hs
  | ints xs =>
    obtain ⟨hcount, hrest⟩ | ⟨hlarge, rfl, rfl⟩ := counted_speaks (speaks_requireTable h)
    · obtain ⟨type, number?, rfl, rfl⟩ := registered_speaks hrest
      exact .ints hcount
    · exact .tooLarge rfl hlarge
  | doubles xs =>
    obtain ⟨hcount, hrest⟩ | ⟨hlarge, rfl, rfl⟩ := counted_speaks (speaks_requireTable h)
    · obtain ⟨type, number?, rfl, rfl⟩ := registered_speaks hrest
      exact .doubles hcount
    · exact .tooLarge rfl hlarge
  | images images =>
    obtain ⟨hcount, -⟩ | ⟨hlarge, rfl, rfl⟩ := counted_speaks (speaks_requireTable h)
    · exact .images hcount (ofImages_speaks hcount h)
    · exact .tooLarge rfl hlarge
  | bytes bytes => exact ofBytes_speaks h
  | image image =>
    obtain ⟨type, number?, rfl, rfl⟩ := ofObject_speaks h
    exact .image
  | object object =>
    obtain ⟨type, number?, rfl, rfl⟩ := ofObject_speaks h
    exact .object

/-! ## Inputs -/

/-- How an input is assigned to an object: what is said, and what comes of it. -/
inductive Argument.Given (object : Handle) (name : String) (argument : Argument) :
    Except Failure Unit → Transcript → Prop where
  /-- There is no value to assign. -/
  | unmade {f : Failure} {said : Transcript} (made : argument.Made (.error f) said) :
      Given object name argument (.error f) said
  /-- The value is assigned or not, and it is released. -/
  | made {v : Value} {r : Except Failure Unit} {making assigning : Transcript}
      (made : argument.Made (.ok v) making) (assigned : Assignment object name v.cell r assigning) :
      Given object name argument r (making ++ assigning ++ released v.cell)

theorem Operation.set_gives {operation : Operation} {name : String} {argument : Argument}
    {events : Transcript} {r : Except Failure Unit}
    (hrun : (operation.set name argument).run.Runs events r) (htable : events.Lasting true)
    (hself : events.Reflexive) :
    argument.Given operation.object.handle name r events.spoken := by
  obtain ⟨f, hmake, rfl⟩ | ⟨making, rest, v, rfl, hmake, hrest⟩ := runs_try_iff.1 hrun
  · exact .unmade (Argument.toValue_speaks (speaks_of_runs hmake htable))
  obtain ⟨assigning, closing, rfl, hassign, hrelease⟩ := runs_closedBy_iff.1 hrest
  obtain ⟨hmaking, hlater⟩ := Transcript.lasting_append_iff.1 htable
  obtain ⟨hassigning, hclosing⟩ := Transcript.lasting_append_iff.1 hlater
  have hmade := Argument.toValue_speaks (speaks_of_runs hmake hmaking)
  have hassigned : Assignment operation.object.handle name v.cell r assigning.spoken :=
    SpokenWatch.spoken_of_runs (SpokenWatch.set_tries.mono (by simp) (by simp)) hassign hassigning
      hself.of_append.2.of_append.1
  rw [Transcript.spoken_append, Transcript.spoken_append, ← List.append_assoc,
    release_speaks (speaks_of_runs hrelease hclosing)]
  exact .made hmade hassigned

end ImageGateway
