-- Types: whatever a program and a foreign host do, the entry points that belong
-- to a type are called on cells of that type only, and the sizes of images are
-- asked of images only.

import ImageGateway.Proofs.Conduct.Sessions
import ImageGateway.Proofs.TypeTable

namespace ImageGateway

/-- The cell was initialised, under the type that it carries. -/
def Transcript.Initialised (events : Transcript) (c : Cell) : Prop :=
  ∃ number, c.number = some number ∧ ⟨.call (.cellInit c.type), some number⟩ ∈ events

/-- Only what fits may be asked for after `first`, on empty cells and those initialised in it. -/
def typeConduct (types : TypeTable) (first : Transcript) : Conduct Unit where
  watch :=
    { allows := fun _ q => types.Fits q ∧ ∀ c ∈ q.cells, c = .empty ∨ first.Initialised c
      admits := fun _ q r => ⟨q, r⟩ ∈ first
      next := fun _ _ _ => () }
  calm _ := True
  cell c := c = .empty ∨ first.Initialised c
  image := types.IsImage
  enum := types.IsEnum

namespace TypeConduct

open Program Request Conduct TypeTable

variable {types : TypeTable} {first : Transcript}

theorem admits_all {events : Transcript} (h : events ⊆ first) :
    (typeConduct types first).watch.Admits () events := by
  induction events with
  | nil => trivial
  | cons e events ih =>
    obtain ⟨he, hrest⟩ := List.cons_subset.1 h
    exact ⟨he, ih hrest⟩

/-! ## Requests -/

theorem plain {q : Request} (hfits : types.Fits q)
    (hcells : ∀ c ∈ q.cells, (typeConduct types first).cell c) :
    (typeConduct types first).Plain q :=
  fun _ _ => ⟨⟨hfits, hcells⟩, fun _ _ => trivial⟩

/-- A request that is not about cells or images fits. -/
theorem fits_of_handling {q : Request} (h : q.Handling) : types.Fits q ∧ q.cells = [] := by
  cases q with
  | call c =>
    cases c <;> first | exact h.elim | exact ⟨⟨nofun, nofun⟩, rfl⟩
  | fillSlot cell place image => exact h.elim
  | _ => exact ⟨⟨nofun, nofun⟩, rfl⟩

theorem plain_of_handling (q : Request) (h : q.Handling) : (typeConduct types first).Plain q := by
  obtain ⟨hfits, hcells⟩ : types.Fits q ∧ q.cells = [] := fits_of_handling h
  exact plain hfits (by simp [hcells])

theorem plain_of_question (q : Request) (h : q.Question) : (typeConduct types first).Plain q :=
  plain_of_handling q (handling_of_question q h)

theorem plain_of_inquiry (q : Request) (h : q.Inquiry) : (typeConduct types first).Plain q :=
  plain_of_question q (q.question_of_inquiry h)

theorem plain_accessor {q : Request} {c : Cell} {type : TypeId}
    (hq : types.accessed? q = some (c, type)) (hcells : q.cells = [c])
    (htype : types.IsA c.type type) (hc : (typeConduct types first).cell c) :
    (typeConduct types first).Plain q := by
  refine plain ⟨fun c' type' h => ?_, fun which object h => ?_⟩ (by simpa [hcells] using hc)
  · rw [hq] at h
    cases h
    exact htype
  · subst h
    cases hq

theorem plain_cellInit (type : TypeId) :
    (typeConduct types first).Plain (.call (.cellInit type)) :=
  plain ⟨nofun, nofun⟩ (by simp [cells])

/-- A request that may be made gets an answer that is in `first`. -/
theorem does_ask {q : Request} (h : (typeConduct types first).Plain q) :
    (typeConduct types first).Does (request q) fun r => ⟨q, r⟩ ∈ first :=
  fun n hn => ⟨(h n hn).1, fun _ hr => ⟨hr, trivial⟩⟩

theorem does_question {q : Request} (h : q.Question) :
    (typeConduct types first).Does (request q) fun r => ⟨q, r⟩ ∈ first :=
  does_ask (plain_of_question q h)

theorem onTable : (typeConduct types first).Minds requireTable :=
  minds_of_asks (requireTable_asks plain_of_inquiry)

theorem gets_mismatch {α : Type} {P : α → Prop} (expected found : TypeId) :
    (typeConduct types first).Gets (mismatch expected found) P :=
  (minds_of_asks (typeName_asks plain_of_inquiry expected)).try fun _ _ =>
    (minds_of_asks (typeName_asks plain_of_inquiry found)).try fun _ _ => gets_throw

theorem releaseValue {v : Value} (hv : (typeConduct types first).cell v.cell) :
    (typeConduct types first).Heeds v.release := by
  refine heeds_of_asks (valueRelease_asks plain_of_inquiry (plain ⟨nofun, nofun⟩ ?_))
  simpa [cells] using hv

theorem lookup_minds (object : Object) (name : CText) :
    (typeConduct types first).Minds (Property.lookup object name) :=
  minds_of_asks (lookup_asks plain_of_question object name (plain_of_handling _ trivial))

section

variable (hfirst : types.Answers first)
include hfirst

/-! ## Making values -/

/-- A cell is initialised under its type if it can hold something of that type. -/
theorem make_does (type : TypeId) :
    (typeConduct types first).Does (Value.make type) fun v =>
      (typeConduct types first).cell v.cell ∧ (types.Storable type → v.type = type) := by
  refine (does_ask (plain_cellInit type)).bind fun number hnumber => ?_
  cases number with
  | none =>
    refine does_done ⟨.inl rfl, fun hstorable => ?_⟩
    have hsome : (none : Option Nat).isSome := hfirst _ hnumber hstorable
    cases hsome
  | some number => exact does_done ⟨.inr ⟨number, rfl, hnumber⟩, fun _ => rfl⟩

theorem filled_does {type : TypeId} {payload : Payload}
    (h : types.IsA type (types.ofPayload payload)) :
    (typeConduct types first).Does (Value.filled type payload) fun v =>
      (typeConduct types first).cell v.cell := by
  have hstorable : types.Storable type :=
    h.storable (storable_of_accessed (q := .call (.cellSet .empty payload)) rfl)
  refine (make_does hfirst type).bind fun v hv => ?_
  obtain ⟨hcell, htype⟩ := hv
  have hfits : types.IsA v.cell.type (types.ofPayload payload) := by
    rwa [show v.cell.type = type from htype hstorable]
  exact (heeds_request (plain_accessor (q := .call (.cellSet v.cell payload)) rfl rfl hfits
    hcell)).bind fun _ _ => does_done hcell

theorem boxed_gets {type : TypeId} {payload : Payload}
    (h : types.IsA type (types.ofPayload payload)) :
    (typeConduct types first).Gets (do requireTable; Value.filled type payload) fun v =>
      (typeConduct types first).cell v.cell :=
  onTable.try fun _ _ => (filled_does hfirst h).lift

/-- An array is put into a cell of the type that the library registers for it. -/
theorem array_gets {length : Nat} {which : Registered} {payload : Payload}
    (h : types.IsA (types.registered which) (types.ofPayload payload)) :
    (typeConduct types first).Gets (do
        requireTable
        let _ ← Value.countOf length
        Value.filled (← native (.registered which)) payload) fun v =>
      (typeConduct types first).cell v.cell := by
  refine onTable.try fun _ _ => (minds_of_asks (countOf_asks length)).try fun _ _ =>
    (does_question (q := .call (.registered which)) trivial).then fun type htype => ?_
  obtain rfl : type = types.registered which := hfirst _ htype
  exact (filled_does hfirst h).lift

theorem ofImages_gets (images : List Image) :
    (typeConduct types first).Gets (Value.ofImages images) fun v =>
      (typeConduct types first).cell v.cell := by
  refine onTable.try fun _ _ => (minds_of_asks (countOf_asks _)).try fun n _ =>
    (does_question (q := .call (.registered .imageArray)) trivial).then fun type htype => ?_
  obtain rfl : type = types.registered .imageArray := hfirst _ htype
  refine (make_does hfirst _).then fun v hv => ?_
  obtain ⟨hcell, htype⟩ := hv
  have hfits : types.IsA v.cell.type (types.registered .imageArray) := by
    rw [show v.cell.type = types.registered .imageArray from
      htype (storable_registered (by decide))]
    exact isA_refl _
  have hfill (place : Nat) (images : List Image) :
      (typeConduct types first).Heeds (Value.fillSlots v.cell place images) := by
    induction images generalizing place with
    | nil => exact does_done trivial
    | cons image rest ih =>
      refine (heeds_request (plain_of_handling (.call (.ref image.object.handle)) trivial)).bind
        fun _ _ => (heeds_request (plain (q := .fillSlot v.cell place image.object.handle)
          ⟨nofun, nofun⟩ ?_)).bind fun _ _ => ih _
      simpa [cells] using hcell
  refine (heeds_request (plain_accessor (q := .call (.makeSlots v.cell n)) rfl rfl hfits
    hcell)).then fun _ _ => (heeds_request (plain_accessor (q := .call (.slots v.cell)) rfl rfl
      hfits hcell)).then fun slots _ => ?_
  split
  · exact (hfill 0 images).then fun _ _ => gets_pure hcell
  · exact (releaseValue hcell).then fun _ _ => gets_throw

theorem ofBlob_gets (blob : Blob) :
    (typeConduct types first).Gets (Value.ofBlob blob) fun v =>
      (typeConduct types first).cell v.cell := by
  refine onTable.try fun _ _ =>
    (does_question (q := .call (.registered .blob)) trivial).then fun type htype => ?_
  obtain rfl : type = types.registered .blob := hfirst _ htype
  exact (filled_does hfirst (isA_boxed (by decide))).lift

theorem ofObject_gets (object : Object) :
    (typeConduct types first).Gets (Value.ofObject object) fun v =>
      (typeConduct types first).cell v.cell := by
  refine onTable.try fun _ _ =>
    (does_question (q := .instanceType object.handle) trivial).then fun type htype => ?_
  obtain rfl : type = types.instanceType object.handle := hfirst _ htype
  exact (filled_does hfirst (isA_object object.handle)).lift

theorem ofBytes_gets (bytes : List UInt8) :
    (typeConduct types first).Gets (Value.ofBytes bytes) fun v =>
      (typeConduct types first).cell v.cell := by
  have hcopy : (typeConduct types first).Minds (Blob.copyOf bytes) := by
    refine onTable.try fun _ _ =>
      (heeds_request (plain_of_handling (.call (.blobCopy bytes)) trivial)).then fun handle _ => ?_
    cases handle with
    | none => exact gets_throw
    | some handle => exact gets_pure trivial
  exact hcopy.try fun blob _ => (ofBlob_gets hfirst blob).closedBy
    (heeds_of_asks (blobRelease_asks plain_of_inquiry (plain_of_handling _ trivial)))

/-- Whatever the argument is, it is put into a cell of its type. -/
theorem toValue_gets (argument : Argument) :
    (typeConduct types first).Gets argument.toValue fun v =>
      (typeConduct types first).cell v.cell := by
  cases argument with
  | bool b => exact boxed_gets hfirst (isA_refl _)
  | int n => exact boxed_gets hfirst (isA_refl _)
  | uint64 n => exact boxed_gets hfirst (isA_refl _)
  | double x => exact boxed_gets hfirst (isA_refl _)
  | text s =>
    exact (minds_of_asks (nativeText_asks s)).try fun _ _ => boxed_gets hfirst (isA_refl _)
  | ints xs => exact array_gets hfirst (isA_refl _)
  | doubles xs => exact array_gets hfirst (isA_refl _)
  | images images => exact ofImages_gets hfirst images
  | bytes bytes => exact ofBytes_gets hfirst bytes
  | image image => exact ofObject_gets hfirst image.object
  | object object => exact ofObject_gets hfirst object

/-! ## Reading values -/

/-- Who goes on after a look at the type knows it. -/
theorem expect_gets (v : Value) (type : TypeId) :
    (typeConduct types first).Gets (v.expect type) fun _ => types.IsA v.cell.type type := by
  refine (does_question (q := .call (.isA v.type type)) trivial).then fun answer hanswer => ?_
  split
  · exact gets_mismatch _ _
  · exact gets_pure (hfirst _ hanswer (by simp_all))

variable {v : Value} (hv : (typeConduct types first).cell v.cell)
include hv

theorem readAs_minds {type : TypeId} (accessor : Accessor)
    (h : types.IsA type (types.ofAccessor accessor)) :
    (typeConduct types first).Minds (v.readAs type accessor) :=
  (expect_gets hfirst v type).try fun _ hisA => minds_native
    (plain_accessor (q := .call (.cellGet v.cell accessor)) rfl rfl (hisA.trans h) hv)

/-- A reader of a built-in type. -/
theorem read_minds {α : Type} {type : TypeId} (accessor : Accessor) {f : accessor.Reply → α}
    (h : types.IsA type (types.ofAccessor accessor)) :
    (typeConduct types first).Minds (do
      requireTable
      let r ← v.readAs type accessor
      return f r) :=
  onTable.try fun _ _ => (readAs_minds hfirst hv _ h).try fun _ _ => gets_pure trivial

/-- A reader of a type that the library registers. -/
theorem readRegistered_minds {α : Type} {which : Registered} (accessor : Accessor)
    {f : accessor.Reply → α} (h : types.IsA (types.registered which) (types.ofAccessor accessor)) :
    (typeConduct types first).Minds (do
      requireTable
      let type ← native (.registered which)
      let r ← v.readAs type accessor
      return f r) := by
  refine onTable.try fun _ _ =>
    (does_question (q := .call (.registered which)) trivial).then fun type htype => ?_
  obtain rfl : type = types.registered which := hfirst _ htype
  exact (readAs_minds hfirst hv _ h).try fun _ _ => gets_pure trivial

theorem getInt_minds : (typeConduct types first).Minds v.getInt := by
  refine onTable.try fun _ _ =>
    (does_question (q := .call (.fundamental v.type)) trivial).then fun root hroot => ?_
  split
  · rename_i henum
    subst henum
    have hisA : types.IsA v.cell.type .enumeration :=
      hfirst _ hroot (show TypeId.enumeration ≠ .invalid by decide)
    exact minds_native
      (plain_accessor (q := .call (.cellGet v.cell .enumeration)) rfl rfl hisA hv)
  · exact readAs_minds hfirst hv _ (isA_refl _)

theorem getString_minds : (typeConduct types first).Minds v.getString :=
  read_minds hfirst hv .string (isA_refl _)

theorem getObject_minds : (typeConduct types first).Minds v.getObject := by
  refine onTable.try fun _ _ =>
    (readAs_minds hfirst hv .object (isA_refl _)).try fun handle _ => ?_
  cases handle with
  | none => exact gets_pure trivial
  | some handle =>
    exact onTable.try fun _ _ =>
      (heeds_request (plain_of_handling (.call (.ref handle)) trivial)).then fun _ _ =>
        gets_pure trivial

omit hv

/-- What becomes an image is one. -/
theorem ofObject_image_gets (object : Object) :
    (typeConduct types first).Gets (Image.ofObject object) fun i =>
      types.IsImage i.object.handle := by
  have htype : (typeConduct types first).Gets Image.type fun type =>
      type = types.registered .image :=
    onTable.try fun _ _ =>
      ((does_question (q := .call (.registered .image)) trivial).mono fun _ h => hfirst _ h).lift
  have hasked (type : TypeId) : (typeConduct types first).Gets (object.isA type) fun b =>
      b = true → types.IsA (types.instanceType object.handle) type := by
    refine onTable.try fun _ _ =>
      (does_question (q := .instanceType object.handle) trivial).then fun own hown =>
        (does_question (q := .call (.isA own type)) trivial).then fun answer hanswer =>
          gets_pure fun hb => ?_
    obtain rfl : own = types.instanceType object.handle := hfirst _ hown
    exact hfirst _ hanswer (by simpa using hb)
  refine Gets.result (P := fun i => types.IsImage i.object.handle) ?_
    (fun _ himage => gets_pure himage) fun failure => ?_
  · refine htype.try fun type himage => (hasked type).try fun b hb => ?_
    subst himage
    split
    · exact gets_pure (hb ‹_›)
    · exact (minds_of_asks (typeName_asks plain_of_inquiry _)).try fun _ _ =>
        (minds_of_asks (objectTypeName_asks plain_of_inquiry object)).try fun _ _ => gets_throw
  · exact (heeds_of_asks (objectRelease_asks plain_of_inquiry
      (plain_of_handling _ trivial))).then fun _ _ => gets_throw

include hv

theorem getImage_gets : (typeConduct types first).Gets v.getImage fun i =>
    (typeConduct types first).AllGood (i.toList.map .image) := by
  refine onTable.try fun _ _ =>
    (does_question (q := .call (.registered .image)) trivial).then fun type _ =>
      (expect_gets hfirst v type).try fun _ _ => (getObject_minds hfirst hv).try fun object _ => ?_
  cases object with
  | none => exact gets_pure allGood_nil
  | some object =>
    exact (ofObject_image_gets hfirst object).try fun _ himage => gets_pure (allGood_one himage)

theorem reading_gets (reading : Reading) :
    (typeConduct types first).Gets (reading.ofValue v) (typeConduct types first).AllGood := by
  have hplain {α : Type} {p : Attempt α} (h : (typeConduct types first).Minds p) :
      (typeConduct types first).Gets p.nothing (typeConduct types first).AllGood :=
    gets_nothing.2 (h.mono fun _ _ => allGood_nil)
  cases reading with
  | bool => exact hplain (read_minds hfirst hv .boolean (isA_refl _))
  | int => exact hplain (getInt_minds hfirst hv)
  | uint64 => exact hplain (onTable.try fun _ _ => readAs_minds hfirst hv _ (isA_refl _))
  | double => exact hplain (onTable.try fun _ _ => readAs_minds hfirst hv _ (isA_refl _))
  | text => exact hplain (getString_minds hfirst hv)
  | ints => exact hplain (readRegistered_minds hfirst hv .ints (isA_refl _))
  | doubles => exact hplain (readRegistered_minds hfirst hv .doubles (isA_refl _))
  | blob =>
    have hblob : (typeConduct types first).Minds v.getBlob :=
      readRegistered_minds hfirst hv .boxedCopy (isA_boxed (by decide))
    refine gets_holding?.2 (hblob.mono fun blob _ => ?_)
    cases blob with
    | none => exact allGood_nil
    | some blob => exact allGood_one trivial
  | image => exact gets_holding?.2 (getImage_gets hfirst hv)

omit hv

/-! ## Properties -/

theorem new_gets (type : TypeId) :
    (typeConduct types first).Gets (Value.new type) fun v =>
      (typeConduct types first).cell v.cell ∧ (types.Storable type → v.type = type) :=
  onTable.try fun _ _ => (make_does hfirst type).lift

/-- The text of a property is copied out of a cell that was made for text. -/
theorem copyText_minds (object : Object) (name : String) :
    (typeConduct types first).Minds (Property.copyText object name) := by
  have hget : (typeConduct types first).Gets (Property.get object name .string) fun v =>
      (typeConduct types first).cell v.cell ∧ v.cell.type = .string := by
    refine onTable.try fun _ _ => (minds_of_asks (nativeText_asks name)).try fun text _ =>
      (lookup_minds object text).try fun found _ =>
        (minds_of_asks (checkTransformable_asks plain_of_inquiry found.spec.type .string)).try
          fun _ _ => (new_gets hfirst .string).try fun v hv => ?_
    obtain ⟨hcell, htype⟩ := hv
    refine (heeds_request (plain (q := .call (.getProperty object.handle text v.cell))
      ⟨nofun, nofun⟩ ?_)).then fun _ _ =>
        gets_pure ⟨hcell, htype (storable_root (by decide))⟩
    simpa [cells] using hcell
  refine hget.try fun v hv => ?_
  obtain ⟨hcell, htype⟩ := hv
  have hfits : types.IsA v.cell.type .string := htype ▸ isA_refl _
  exact (onTable.try fun _ _ => minds_native (plain_accessor
    (q := .call (.cellGet v.cell .stringCopy)) rfl rfl hfits hcell)).closedBy (releaseValue hcell)

theorem ofEnum_gets {type : TypeId} (henum : types.IsEnum type) (n : Int32) :
    (typeConduct types first).Gets (Value.ofEnum type n) fun v =>
      (typeConduct types first).cell v.cell := boxed_gets hfirst henum

include hv

/-- What is assigned in place of the given value may be passed on. -/
theorem substitute_gets (object : Object) (name : String) (type : TypeId) :
    (typeConduct types first).Gets (Property.substitute object name type v) fun other =>
      ∀ w, other = some w → (typeConduct types first).cell w.cell := by
  have hasked : (typeConduct types first).Does (Property.isEnumType type) fun b =>
      b = true → types.IsEnum type := by
    refine (does_question (q := .call (.fundamental type)) trivial).bind fun root hroot =>
      does_done fun hb => ?_
    obtain rfl : root = .enumeration := by simpa using hb
    exact hfirst _ hroot (show TypeId.enumeration ≠ .invalid by decide)
  have hmake (henum : types.IsEnum type) (n : Int32) :
      (typeConduct types first).Gets (do return some (← Value.ofEnum type n)) fun other =>
        ∀ w, other = some w → (typeConduct types first).cell w.cell :=
    (ofEnum_gets hfirst henum n).try fun w hw => gets_pure (by simpa using hw)
  have hnumber (hstring : v.type = .string) :
      (typeConduct types first).Minds (Property.numberOfNick object name type v) := by
    have hfits : types.IsA v.cell.type .string :=
      (show v.cell.type = .string from hstring) ▸ isA_refl _
    refine (does_question (q := .instanceType object.handle) trivial).then fun own _ =>
      (does_question (q := .call (.nicknameFind own)) trivial).then fun domain _ =>
        (heeds_request (plain_accessor (q := .call (.cellGet v.cell .string)) rfl rfl hfits
          hv)).then fun nick _ => ?_
    refine (heeds_request (plain (q := .call (.enumFromNick domain type nick)) ⟨nofun, nofun⟩
      (by simp [cells]))).then fun number _ => ?_
    split
    · exact (getString_minds hfirst hv).try fun _ _ =>
        (heeds_of_asks (takeError_asks plain_of_question)).then fun _ _ => gets_throw
    · exact gets_pure trivial
  refine hasked.then fun isEnum henum => ?_
  split
  · rename_i hnick
    obtain ⟨henum', hstring⟩ := Bool.and_eq_true_iff.1 hnick
    exact (hnumber (by simpa using hstring)).try fun number _ => hmake (henum henum') number
  · split
    · rename_i hint
      exact (getInt_minds hfirst hv).try fun number _ =>
        hmake (henum (Bool.and_eq_true_iff.1 hint).1) number
    · exact (minds_of_asks (checkTransformable_asks plain_of_inquiry _ _)).try fun _ _ =>
        gets_pure (by simp)

theorem set_minds (object : Object) (name : String) :
    (typeConduct types first).Minds (Property.set object name v) := by
  have hassign (text : CText) {w : Value} (hw : (typeConduct types first).cell w.cell) :
      (typeConduct types first).Minds (native (.setProperty object.handle text w.cell)) :=
    minds_native (plain ⟨nofun, nofun⟩ (by simpa [cells] using hw))
  refine onTable.try fun _ _ => (minds_of_asks (nativeText_asks name)).try fun text _ =>
    (lookup_minds object text).try fun found _ =>
      (substitute_gets hfirst hv object name found.spec.type).try fun other hother => ?_
  cases other with
  | none => exact hassign text hv
  | some other => exact (hassign text (hother other rfl)).closedBy (releaseValue (hother other rfl))

omit hv

theorem lawful : (typeConduct types first).Lawful where
  handling := plain_of_handling
  unset := fun hc => plain ⟨nofun, nofun⟩ (by simpa [cells] using hc)
  fetch := fun hc => plain ⟨nofun, nofun⟩ (by simpa [cells] using hc)
  extent := fun himage =>
    plain ⟨nofun, fun which object h => by cases h; exact himage⟩ (by simp [cells])
  empty := .inl rfl
  init := plain_cellInit _
  initialised := fun _ hnumber => .inr ⟨_, rfl, hnumber⟩
  new := fun type => (new_gets hfirst type).mono fun _ hv => hv.1
  box := toValue_gets hfirst
  boxEnum := fun henum => ofEnum_gets hfirst henum _
  boxBlob := ofBlob_gets hfirst
  read := fun reading _ hv => reading_gets hfirst hv reading
  readObject := getObject_minds hfirst
  copy := copyText_minds hfirst
  asImage := ofObject_image_gets hfirst
  set := fun object name _ hv => set_minds hfirst hv object name
  build := fun operation => minds_of_asks (build_asks plain_of_question operation
    (plain ⟨nofun, nofun⟩ (by simp [cells])) fun _ =>
      ⟨plain ⟨nofun, nofun⟩ (by simp [cells]), plain ⟨nofun, nofun⟩ (by simp [cells])⟩)

end

end TypeConduct

/-- A request that passes a typed entry point what it takes: a cell of the type that it belongs to,
which was initialised before under the type that it carries, or an image. -/
structure TypeTable.WellTyped (types : TypeTable) (first : Transcript) (q : Request) : Prop where
  cells : ∀ c type, types.accessed? q = some (c, type) →
    types.IsA c.type type ∧ first.Initialised c
  images : ∀ which object, q = .call (.extent which object) → types.IsImage object

/-- In a fair session with a library that goes by the table every request is well typed. -/
theorem FairSession.wellTyped {types : TypeTable} {past : Past} {w : World}
    (h : FairSession types.IsImage types.IsEnum past w) (hanswers : types.Answers past.trace)
    {first rest : Transcript} {e : Event} (hsplit : past.trace = first ++ e :: rest) :
    types.WellTyped first e.request := by
  have hfirst : types.Answers first := fun e' he' => hanswers e' (by simp [hsplit, he'])
  have hallows := (TypeConduct.lawful hfirst).session_until h (n := ()) trivial hsplit
    (TypeConduct.admits_all (List.Subset.refl first))
  obtain ⟨-, ⟨hfits, hcells⟩, -⟩ := (Watch.allows_append _ _ _).1 hallows
  refine ⟨fun c type hc => ?_, hfits.images⟩
  have hisA := hfits.cells c type hc
  refine ⟨hisA, (hcells c ?_).resolve_left ?_⟩
  · simp [TypeTable.cells_of_accessed hc]
  · -- nothing that an entry point belongs to comes from the type of an empty cell
    rintro rfl
    exact (TypeTable.storable_of_accessed hc).ne_invalid (TypeTable.eq_of_isA_invalid hisA)

end ImageGateway
