-- Custody of cells: whoever makes a value owns one initialised cell, and the
-- release of the value unsets it.

import ImageGateway.Operation.Argument
import ImageGateway.Proofs.Custody.References

namespace ImageGateway.Resource

variable {α : Type} {x : Resource} {s : Standing}

/-! ## Making and releasing -/

theorem make_ensures (type : TypeId) :
    x.watch.Ensures s (Value.make type) fun v t =>
      x.Sound v.cell ∧ s.Moves t 0 (x.inCell v.cell) := by
  have hinit := ensures_request (x := x) (s := s) (q := .call (.cellInit type)) (Nat.zero_le _)
    (by simp [Request.cells])
  apply hinit.bind
  intro number t hend
  obtain ⟨hanswer, hmoves, -⟩ := hend
  cases number with
  | none => exact ⟨⟨fun hx => hanswer.1 hx, fun _ _ hnumber => by cases hnumber⟩, hmoves⟩
  | some number => exact ⟨⟨fun _ => rfl, fun k hk hnumber => (hanswer.2 k hk hnumber).1⟩, hmoves⟩

theorem set_ensures {c : Cell} (payload : Payload) (h : x.Lends s c) :
    x.watch.Ensures s (native (.cellSet c payload)) fun _ t => s.Moves t 0 0 := by
  refine (ensures_still ⟨fun _ => rfl, fun _ _ => rfl⟩ (by simpa [Request.cells] using h)).mono ?_
  exact fun _ _ ht => ht.2

theorem filled_ensures (type : TypeId) (payload : Payload) :
    x.watch.Ensures s (Value.filled type payload) fun v t =>
      x.Sound v.cell ∧ s.Moves t 0 (x.inCell v.cell) := by
  apply (make_ensures type).bind
  intro v t hend
  obtain ⟨hsound, ht⟩ := hend
  have hlends : x.Lends t v.cell := hsound.lends ht.le_there
  apply (set_ensures payload hlends).bind
  intro _ u hu
  exact ⟨hsound, by simpa using ht.trans hu⟩

theorem unset_ensures {c : Cell} (hsound : x.Sound c) (hcount : x.inCell c ≤ s.count) :
    x.watch.Ensures s (native (.cellUnset c)) fun _ t => s.Moves t (x.inCell c) 0 := by
  have hlends := hsound.lends (Nat.le_trans hcount (Nat.le_add_right _ s.lent))
  refine (ensures_request (q := .call (.cellUnset c)) hcount ?_).mono fun _ _ ht => ht.2.1
  simpa [Request.cells] using hlends

/-- The release of a value gives its cell back. -/
theorem release_ensures {v : Value} (hs : s.loaded = true ∨ x.inCell v.cell = 0)
    (hsound : x.Sound v.cell) (hcount : x.inCell v.cell ≤ s.count) :
    x.watch.Ensures s v.release fun _ t => s.Moves t (x.inCell v.cell) 0 := by
  unfold Value.release
  split
  · rename_i htype
    -- a cell without a type is none that the watch follows
    have hnone : x.inCell v.cell = 0 := by
      unfold inCell inAny
      rcases hnumber : v.cell.number with _ | m
      · rfl
      · apply one_of_ne
        rintro rfl
        exact hsound.2 m rfl hnumber htype
    exact hnone ▸ .refl s 0
  · exact ensures_ifLoaded hs (unset_ensures hsound hcount)

/-! ## Boxing -/

theorem filled_gives (hs : s.loaded = true) (type : TypeId) (payload : Payload) :
    x.YieldsValue s (liftM (Value.filled type payload)) := by
  refine Watch.tries_lift.2 ((filled_ensures type payload).mono ?_)
  intro v t hend
  obtain ⟨hsound, ht⟩ := hend
  exact ⟨ht.loaded hs, hsound, ht⟩

theorem ofBool_gives (b : Bool) : x.YieldsValue s (Value.ofBool b) :=
  .onTable fun _ ht _ => filled_gives ht _ _

theorem ofInt_gives (n : Int32) : x.YieldsValue s (Value.ofInt n) :=
  .onTable fun _ ht _ => filled_gives ht _ _

theorem ofUInt64_gives (n : UInt64) : x.YieldsValue s (Value.ofUInt64 n) :=
  .onTable fun _ ht _ => filled_gives ht _ _

theorem ofDouble_gives (d : Double) : x.YieldsValue s (Value.ofDouble d) :=
  .onTable fun _ ht _ => filled_gives ht _ _

theorem ofString_gives (text : String) : x.YieldsValue s (Value.ofString text) :=
  .onText fun _ _ => .onTable fun _ ht _ => filled_gives ht _ _

theorem ofEnum_gives (type : TypeId) (n : Int32) : x.YieldsValue s (Value.ofEnum type n) :=
  .onTable fun _ ht _ => filled_gives ht _ _

theorem countOf_idle (length : Nat) : (Value.countOf length).run.Asks Idle := by
  unfold Value.countOf
  split <;> trivial

theorem ofInts_gives (xs : Span Int32) : x.YieldsValue s (Value.ofInts xs) :=
  .onTable fun _ ht _ => .try ht (countOf_idle _) fun _ =>
    .then ht (idle_question trivial) fun type => filled_gives ht type _

theorem ofDoubles_gives (xs : Span Double) : x.YieldsValue s (Value.ofDoubles xs) :=
  .onTable fun _ ht _ => .try ht (countOf_idle _) fun _ =>
    .then ht (idle_question trivial) fun type => filled_gives ht type _

theorem ofBlob_gives (blob : Blob) : x.YieldsValue s (Value.ofBlob blob) :=
  .onTable fun _ ht _ => .then ht (idle_question trivial) fun type => filled_gives ht type _

theorem ofObject_gives (object : Object) : x.YieldsValue s (Value.ofObject object) :=
  .onTable fun _ ht _ => .then ht (typeId_asks idle_of_inquiry object) fun type =>
    filled_gives ht type _

/-- Each reference taken goes into its slot. -/
theorem fillSlots_ensures {cell : Cell} (place : Nat) (images : List Image)
    (hcell : x.Lends s cell) :
    x.watch.Ensures s (Value.fillSlots cell place images) fun _ t => s.Moves t 0 0 := by
  induction images generalizing s place with
  | nil => exact .refl s 0
  | cons image images ih =>
    apply (ref_ensures image.object.handle).bind
    intro _ t ht
    have hlends : x.Lends t cell := hcell.mono (by
      have := ht.count
      have := ht.lent
      unfold Standing.there
      omega)
    have hfill := ensures_request (x := x) (q := .fillSlot cell place image.object.handle) ht.le
      (by simpa [Request.cells] using hlends)
    apply hfill.bind
    intro _ u hend
    obtain ⟨-, hu, -⟩ := hend
    have hback : s.Moves u 0 0 := ht.back hu
    refine (ih (place + 1) (hcell.mono ?_)).mono fun _ _ hv => hback.trans hv
    have := hback.count
    have := hback.lent
    unfold Standing.there
    omega

theorem ofImages_gives (images : List Image) : x.YieldsValue s (Value.ofImages images) := by
  refine .onTable fun t ht _ => .try ht (countOf_idle _) fun n =>
    .then ht (idle_question trivial) fun type => ?_
  apply (make_ensures type).then
  intro v u hend
  obtain ⟨hsound, hu⟩ := hend
  have hloaded := hu.loaded ht
  have hlends := hsound.lends hu.le_there
  have hslots := ensures_lent (q := .call (.makeSlots v.cell n)) hloaded
    ⟨fun _ => rfl, fun _ _ => rfl⟩ rfl hlends
  apply hslots.then
  rintro _ _ rfl
  have hasked := ensures_lent (q := .call (.slots v.cell)) hloaded
    ⟨fun _ => rfl, fun _ _ => rfl⟩ rfl hlends
  apply hasked.then
  rintro slots _ rfl
  split
  · apply (fillSlots_ensures 0 images hlends).then
    intro _ w hw
    exact ⟨hw.loaded hloaded, hsound, by simpa using hu.trans hw⟩
  · apply (release_ensures (.inl hloaded) hsound hu.le).then
    intro _ w hw
    exact hu.back hw

theorem ofBytes_gives (bytes : List UInt8) : x.YieldsValue s (Value.ofBytes bytes) := by
  apply Watch.Tries.bind (copyOf_yields bytes)
  intro blob t hend
  obtain ⟨ht, -, hmoves⟩ := hend
  exact (ofBlob_gives blob).closedBy hmoves ht fun u hu => releaseBlob_ensures (.inl hu)

/-- Whatever the argument is, its value owns one cell. -/
theorem toValue_gives (argument : Argument) : x.YieldsValue s argument.toValue := by
  cases argument with
  | bool b => exact ofBool_gives b
  | int n => exact ofInt_gives n
  | uint64 n => exact ofUInt64_gives n
  | double d => exact ofDouble_gives d
  | text text => exact ofString_gives text
  | ints xs => exact ofInts_gives xs
  | doubles xs => exact ofDoubles_gives xs
  | images images => exact ofImages_gives images
  | bytes bytes => exact ofBytes_gives bytes
  | image image => exact ofObject_gives image.object
  | object object => exact ofObject_gives object

/-- A value that was gained is used and released, whatever comes of it. -/
theorem Gives.lend {v : Value} {f : Value → Attempt α} {t : Standing} {owned : α → Nat}
    {good : α → Prop} (hsound : x.Sound v.cell) (hst : s.Moves t 0 (x.inCell v.cell))
    (ht : t.loaded = true) (hf : x.Gives t (f v) owned good) :
    x.watch.Tries t (v.lend f)
      (fun a u => u.loaded = true ∧ good a ∧ s.Moves u 0 (owned a)) fun _ u => s.Moves u 0 0 :=
  hf.closedBy hst ht fun _ hu hcount => release_ensures (.inl hu) hsound hcount

/-! ## Reading -/

/-- A reader gains what its accessor hands out. -/
theorem readAs_yields {v : Value} (type : TypeId) (accessor : Accessor) (hs : s.loaded = true)
    (hsound : x.Sound v.cell) (hcount : x.inCell v.cell ≤ s.there) :
    x.Yields s (v.readAs type accessor) (x.gained (.call (.cellGet v.cell accessor))) := by
  refine .try hs (expect_asks idle_of_inquiry v type) fun _ => ?_
  refine Watch.tries_lift.2 ((ensures_request (q := .call (.cellGet v.cell accessor))
    (Nat.zero_le _) ?_).mono ?_)
  · simpa [Request.cells] using hsound.lends hcount
  · intro r t hend
    obtain ⟨-, ht, -⟩ := hend
    exact ⟨ht.loaded hs, trivial, ht⟩

/-- A reader of owned values that gains what its answer owns. -/
def Reader (x : Resource) (f : Value → Attempt α) (owned : α → Nat) : Prop :=
  ∀ (v : Value) (s : Standing), x.Sound v.cell → x.inCell v.cell ≤ s.there → x.Yields s (f v) owned

theorem getBool_reader : x.Reader Value.getBool fun _ => 0 := fun _ _ hsound hcount =>
  .onTable fun _ ht htcount => .map (readAs_yields .boolean .boolean ht hsound (htcount ▸ hcount))
    fun _ => rfl

theorem getInt_reader : x.Reader Value.getInt fun _ => 0 := by
  intro v s hsound hcount
  refine .onTable fun t ht htcount => .then ht (idle_question trivial) fun ancestor => ?_
  split
  · refine Watch.tries_lift.2 ((ensures_lent (q := .call (.cellGet v.cell .enumeration)) ht
      ⟨fun _ => rfl, fun _ _ => rfl⟩ rfl (hsound.lends (htcount ▸ hcount))).mono ?_)
    rintro _ _ rfl
    exact ⟨ht, trivial, .refl _ 0⟩
  · exact readAs_yields .int .int ht hsound (htcount ▸ hcount)

theorem getUInt64_reader : x.Reader Value.getUInt64 fun _ => 0 := fun _ _ hsound hcount =>
  .onTable fun _ ht htcount => readAs_yields .uint64 .uint64 ht hsound (htcount ▸ hcount)

theorem getDouble_reader : x.Reader Value.getDouble fun _ => 0 := fun _ _ hsound hcount =>
  .onTable fun _ ht htcount => readAs_yields .double .double ht hsound (htcount ▸ hcount)

theorem getString_reader : x.Reader Value.getString fun _ => 0 := fun _ _ hsound hcount =>
  .onTable fun _ ht htcount => .map (readAs_yields .string .string ht hsound (htcount ▸ hcount))
    fun _ => rfl

theorem getInts_reader : x.Reader Value.getInts fun _ => 0 := fun _ _ hsound hcount =>
  .onTable fun _ ht htcount => .then ht (idle_question trivial) fun type =>
    .map (readAs_yields type .ints ht hsound (htcount ▸ hcount)) fun _ => rfl

theorem getDoubles_reader : x.Reader Value.getDoubles fun _ => 0 := fun _ _ hsound hcount =>
  .onTable fun _ ht htcount => .then ht (idle_question trivial) fun type =>
    .map (readAs_yields type .doubles ht hsound (htcount ▸ hcount)) fun _ => rfl

theorem getBlob_reader : x.Reader Value.getBlob (x.inAny fun b => .blob b.handle) := by
  intro v s hsound hcount
  refine .onTable fun t ht htcount => .then ht (idle_question trivial) fun type =>
    .map (readAs_yields type .boxedCopy ht hsound (htcount ▸ hcount)) ?_
  intro handle
  cases handle <;> rfl

theorem getObject_reader : x.Reader Value.getObject (x.inAny fun o => .object o.handle) := by
  intro v s hsound hcount
  refine .onTable fun t ht htcount => ?_
  apply Watch.Tries.bind (readAs_yields .object .object ht hsound (htcount ▸ hcount))
  intro handle u hend
  obtain ⟨hu, -, hmoves⟩ := hend
  cases handle with
  | none => exact ⟨hu, trivial, hmoves⟩
  | some handle =>
    cases hmoves.eq ht
    exact borrow_yields handle

theorem getImage_reader : x.Reader Value.getImage (x.inAny fun i => .object i.object.handle) := by
  intro v s hsound hcount
  refine .onTable fun t ht htcount => .then ht (idle_question trivial) fun type => ?_
  refine .try ht (expect_asks idle_of_inquiry v type) fun _ => ?_
  apply Watch.Tries.bind (getObject_reader v t hsound (htcount ▸ hcount))
  intro object u hend
  obtain ⟨hu, -, hmoves⟩ := hend
  cases object with
  | none => exact ⟨hu, trivial, hmoves⟩
  | some object =>
    have himage := ofObject_tries object (.inl hu) hmoves.le
    refine Watch.Tries.bind (himage.mono (fun _ _ h => h) fun _ _ hw => hmoves.back hw) ?_
    intro image w hend
    obtain ⟨himage, hw⟩ := hend
    refine ⟨hw.loaded hu, trivial, (hmoves.trans hw).same ?_⟩
    simp [himage]

end ImageGateway.Resource
