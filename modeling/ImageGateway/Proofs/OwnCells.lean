-- Which cells change in a run. Boxing and assigning alter only cells that were
-- initialised in the same run, so a cell that someone else holds stays as it is.

import ImageGateway.Proofs.Footprint
import ImageGateway.Proofs.Tally

namespace ImageGateway

namespace Request

/-- A request that changes what is in the cell of the number. -/
def Alters (k : Nat) : Request → Prop
  | .call (.cellSet c _) | .call (.cellUnset c) | .call (.makeSlots c _) => c.number = some k
  | .call (.getProperty _ _ c) | .fillSlot c _ _ => c.number = some k
  | _ => False

/-- A request that changes no cell. -/
def Harmless (q : Request) : Prop := ∀ k, ¬ q.Alters k

theorem harmless_of_question (q : Request) (h : q.Question) : q.Harmless := by
  unfold Question at h
  split at h <;> first | exact fun _ => id | exact h.elim

theorem harmless_of_inquiry : ∀ q : Request, q.Inquiry → q.Harmless :=
  inquiry_of harmless_of_question

theorem harmless_of_looking (q : Request) (h : q.Looking) : q.Harmless := by
  unfold Looking at h
  split at h
  · exact fun _ => id
  · exact fun _ => id
  · exact fun _ => id
  · exact harmless_of_inquiry q h

end Request

/-- Notes the numbers of the cells that are initialised. Other cells may not be altered. -/
def ownCells : Watch (List Nat) where
  allows numbers q := ∀ k, q.Alters k → k ∈ numbers
  admits _ _ _ := True
  next numbers q r := numbers ++ (Event.number? ⟨q, r⟩).toList

namespace OwnCells

open Program Request

variable {α β : Type} {numbers more : List Nat} {events : Transcript}

theorem admits_all (numbers : List Nat) (events : Transcript) :
    ownCells.Admits numbers events := by
  induction events generalizing numbers with
  | nil => trivial
  | cons e events ih => exact ⟨trivial, ih _⟩

theorem after_eq (numbers : List Nat) (events : Transcript) :
    ownCells.after numbers events = numbers ++ events.numbers := by
  induction events generalizing numbers with
  | nil => simp [Watch.after, Transcript.numbers]
  | cons e events ih =>
    refine (ih _).trans ?_
    rcases hnumber : e.number? with _ | k <;>
      simp [ownCells, Transcript.numbers, hnumber]

/-- What is altered was initialised before. -/
theorem mem_of_allows (h : ownCells.Allows numbers events) {ev : Event} (hev : ev ∈ events)
    {k : Nat} (hk : ev.request.Alters k) : k ∈ numbers ++ events.numbers := by
  induction events generalizing numbers with
  | nil => simp at hev
  | cons e events ih =>
    rcases List.mem_cons.1 hev with rfl | hev
    · exact List.mem_append_left _ (h.1 k hk)
    · have hmem := ih h.2 hev
      have hnext : ownCells.next numbers e.request e.reply ++ Transcript.numbers events =
          numbers ++ Transcript.numbers (e :: events) := by
        rcases hnumber : e.number? with _ | k <;>
          simp [ownCells, Transcript.numbers, hnumber]
      rwa [hnext] at hmem

/-! ## Values of their own cells -/

/-- The cell of the value is among those that were initialised. -/
def Owned (v : Value) (numbers : List Nat) : Prop := ∀ k, v.cell.number = some k → k ∈ numbers

theorem Owned.mono {v : Value} (h : Owned v numbers) (hsub : numbers ⊆ more) : Owned v more :=
  fun k hk => hsub (h k hk)

theorem ensures_harmless {p : Program α} (h : p.Asks Harmless) :
    ownCells.Ensures numbers p fun _ after => numbers ⊆ after := by
  induction p generalizing numbers with
  | done a => exact List.Subset.refl numbers
  | ask q k ih =>
    refine ⟨fun k hk => absurd hk (h.1 k), fun r _ => ?_⟩
    apply (ih r (h.2 r)).mono
    intro a after hsub
    exact List.Subset.trans (List.subset_append_left _ _) hsub

theorem tries_harmless {p : Attempt α} (h : p.run.Asks Harmless) :
    ownCells.Tries numbers p (fun _ after => numbers ⊆ after) fun _ after => numbers ⊆ after := by
  apply (ensures_harmless h).mono
  intro answer after hsub
  cases answer <;> exact hsub

/-- A request that alters nothing but the cell of an owned value. -/
theorem ensures_owned {q : Request} {v : Value} (hv : Owned v numbers)
    (hq : ∀ k, q.Alters k → v.cell.number = some k) :
    ownCells.Ensures numbers (request q) fun _ after => numbers ⊆ after :=
  ⟨fun k hk => hv k (hq k hk), fun _ _ => List.subset_append_left _ _⟩

/-- An attempt that alters no cells but its own, and whose answer is in a cell of its own. -/
def Makes (p : Attempt Value) : Prop :=
  ∀ numbers, ownCells.Tries numbers p Owned fun _ _ => True

theorem Makes.try {p : Attempt α} {f : α → Attempt Value} (hp : p.run.Asks Harmless)
    (hf : ∀ a, Makes (f a)) : Makes (p >>= f) := fun _ =>
  ((tries_harmless hp).mono (fun _ _ h => h) fun _ _ _ => trivial).bind fun a m _ => hf a m

theorem Makes.then {p : Program α} {f : α → Attempt Value} (hp : p.Asks Harmless)
    (hf : ∀ a, Makes (f a)) : Makes (liftM p >>= f) := .try hp.lift hf

theorem Makes.closedBy {p : Attempt Value} {q : Program Unit} (hp : Makes p)
    (hq : q.Asks Harmless) : Makes (p.closedBy q) := by
  intro numbers
  refine Watch.tries_closedBy.2 ((hp numbers).mono (fun v m hv => ?_) fun _ m _ => ?_)
  · exact (ensures_harmless hq).mono fun _ _ hsub => hv.mono hsub
  · exact (ensures_harmless hq).mono fun _ _ _ => trivial

theorem requireTable_harmless : requireTable.run.Asks Harmless :=
  requireTable_asks harmless_of_inquiry

theorem registered_harmless (which : Registered) : (native (.registered which)).Asks Harmless :=
  asks_of fun _ => id

theorem make_ensures (type : TypeId) : ownCells.Ensures numbers (Value.make type) Owned := by
  refine ⟨fun _ => False.elim, fun number _ => ?_⟩
  cases number with
  | none => exact fun _ => nofun
  | some number =>
    intro k hk
    cases hk
    exact List.mem_append_right _ (List.mem_singleton_self _)

theorem makes_filled (type : TypeId) (payload : Payload) :
    Makes (liftM (Value.filled type payload)) := by
  intro numbers
  refine Watch.tries_lift.2 ((make_ensures type).bind fun v m hv => ?_)
  exact (ensures_owned (q := .call (.cellSet v.cell payload)) hv fun _ hk => hk).bind
    fun _ _ hsub => hv.mono hsub

theorem tableThenFilled_makes (type : TypeId) (payload : Payload) :
    Makes (do requireTable; Value.filled type payload) :=
  .try requireTable_harmless fun _ => makes_filled type payload

theorem ofObject_makes (object : Object) : Makes (Value.ofObject object) :=
  .try requireTable_harmless fun _ =>
    .then (typeId_asks harmless_of_inquiry object) fun type => makes_filled type _

theorem ofBlob_makes (blob : Blob) : Makes (Value.ofBlob blob) :=
  .try requireTable_harmless fun _ =>
    .then (registered_harmless .blob) fun type => makes_filled type _

theorem fillSlots_ensures {v : Value} (hv : Owned v numbers) (place : Nat) (images : List Image) :
    ownCells.Ensures numbers (Value.fillSlots v.cell place images) fun _ after =>
      numbers ⊆ after := by
  induction images generalizing numbers place with
  | nil => exact List.Subset.refl numbers
  | cons image images ih =>
    have href : (native (.ref image.object.handle)).Asks Harmless := asks_of fun _ => id
    refine (ensures_harmless href).bind fun _ first hfirst => ?_
    refine (ensures_owned (q := .fillSlot v.cell place image.object.handle) (hv.mono hfirst)
      fun _ hk => hk).bind fun _ second hsecond => ?_
    apply (ih ((hv.mono hfirst).mono hsecond) (place + 1)).mono
    intro _ after hsub
    exact List.Subset.trans (List.Subset.trans hfirst hsecond) hsub

theorem release_ensures {v : Value} (hv : Owned v numbers) :
    ownCells.Ensures numbers v.release fun _ after => numbers ⊆ after := by
  unfold Value.release
  split
  · exact List.Subset.refl numbers
  · have hlook : table?.Asks Harmless := asks_of fun _ => id
    refine (ensures_harmless hlook).bind fun look m hsub => ?_
    cases look with
    | none => exact hsub
    | some table =>
      apply (ensures_owned (q := .call (.cellUnset v.cell)) (hv.mono hsub) fun _ hk => hk).mono
      intro _ after hafter
      exact List.Subset.trans hsub hafter

theorem ofImages_makes (images : List Image) : Makes (Value.ofImages images) := by
  refine .try requireTable_harmless fun _ => .try (countOf_asks _) fun n =>
    .then (registered_harmless .imageArray) fun type => ?_
  intro numbers
  refine (make_ensures type).then fun v made hv => ?_
  refine (ensures_owned (q := .call (.makeSlots v.cell n)) hv fun _ hk => hk).then
    fun _ first hfirst => ?_
  have hslots : (native (.slots v.cell)).Asks Harmless := asks_of fun _ => id
  refine (ensures_harmless hslots).then fun slots second hsecond => ?_
  have hv' : Owned v second := (hv.mono hfirst).mono hsecond
  split
  · exact (fillSlots_ensures hv' 0 images).then fun _ _ hsub => hv'.mono hsub
  · exact (release_ensures hv').then fun _ _ _ => trivial

/-- Every argument is put into a cell of its own. -/
theorem toValue_makes (argument : Argument) : Makes argument.toValue := by
  cases argument with
  | bool b => exact tableThenFilled_makes _ _
  | int n => exact tableThenFilled_makes _ _
  | uint64 n => exact tableThenFilled_makes _ _
  | double x => exact tableThenFilled_makes _ _
  | text s => exact .try (nativeText_asks s) fun _ => tableThenFilled_makes _ _
  | ints xs =>
    exact .try requireTable_harmless fun _ => .try (countOf_asks _) fun _ =>
      .then (registered_harmless .intArray) fun type => makes_filled type _
  | doubles xs =>
    exact .try requireTable_harmless fun _ => .try (countOf_asks _) fun _ =>
      .then (registered_harmless .doubleArray) fun type => makes_filled type _
  | images images => exact ofImages_makes images
  | bytes bs =>
    have hcopy : (Blob.copyOf bs).run.Asks Harmless := by
      refine requireTable_harmless.try fun _ => (asks_of fun _ => id).then fun handle => ?_
      cases handle <;> trivial
    exact .try hcopy fun blob =>
      (ofBlob_makes blob).closedBy (blobRelease_asks harmless_of_inquiry fun _ => id)
  | image image => exact ofObject_makes image.object
  | object object => exact ofObject_makes object

/-! ## Assignments -/

theorem numberOfNick_harmless (object : Object) (name : String) (type : TypeId) (v : Value) :
    (Property.numberOfNick object name type v).run.Asks Harmless := by
  refine (typeId_asks harmless_of_inquiry object).then fun own =>
    (asks_of fun _ => id).then fun domain => (asks_of fun _ => id).then fun nick =>
      (asks_of fun _ => id).then fun number => ?_
  split
  · exact ((getString_looks v).mono harmless_of_looking).try fun held =>
      (takeError_asks harmless_of_question).then fun _ => trivial
  · trivial

/-- What is assigned in place of a value is in a cell of its own. -/
theorem substitute_tries (object : Object) (name : String) (type : TypeId) (v : Value) :
    ownCells.Tries numbers (Property.substitute object name type v)
      (fun other after => ∀ w, other = some w → Owned w after) fun _ _ => True := by
  have hnumber {p : Attempt Int32} (hp : p.run.Asks Harmless) {numbers : List Nat} :
      ownCells.Tries numbers (do let n ← p; return some (← Value.ofEnum type n))
        (fun other after => ∀ w, other = some w → Owned w after) fun _ _ => True := by
    apply ((tries_harmless hp).mono (fun _ _ h => h) fun _ _ _ => trivial).bind
    intro n m _
    apply (tableThenFilled_makes type (.enumeration n) m).bind
    intro w after hw _ heq
    cases heq
    exact hw
  refine (ensures_harmless (isEnumType_asks harmless_of_inquiry type)).then fun isEnum m _ => ?_
  split
  · exact hnumber (numberOfNick_harmless object name type v)
  · split
    · exact hnumber ((getInt_looks v).mono harmless_of_looking)
    · refine ((tries_harmless (checkTransformable_asks harmless_of_inquiry _ _)).mono
        (fun _ _ h => h) fun _ _ _ => trivial).bind fun _ _ _ => ?_
      exact fun _ => nofun

theorem set_tries (object : Object) (name : String) (v : Value) :
    ownCells.Tries numbers (Property.set object name v) (fun _ _ => True) fun _ _ => True := by
  have hstep {α β : Type} {p : Attempt α} {f : α → Attempt β} {numbers : List Nat}
      {ok : β → List Nat → Prop} (hp : p.run.Asks Harmless)
      (hf : ∀ a m, ownCells.Tries m (f a) ok fun _ _ => True) :
      ownCells.Tries numbers (p >>= f) ok fun _ _ => True :=
    ((tries_harmless hp).mono (fun _ _ h => h) fun _ _ _ => trivial).bind fun a m _ => hf a m
  refine hstep requireTable_harmless fun _ _ => hstep (nativeText_asks name) fun text _ =>
    hstep (lookup_asks harmless_of_question object text fun _ => id) fun found _ => ?_
  apply (substitute_tries object name found.spec.type v).bind
  intro other m hother
  have hassign (w : Value) : (native (.setProperty object.handle text w.cell)).Asks Harmless :=
    asks_of fun _ => id
  cases other with
  | none =>
    exact (tries_harmless (hassign v).lift).mono (fun _ _ _ => trivial) fun _ _ _ => trivial
  | some other =>
    refine Watch.tries_closedBy.2 ((tries_harmless (hassign other).lift).mono ?_ ?_)
    · intro _ after hsub
      exact (release_ensures ((hother other rfl).mono hsub)).mono fun _ _ _ => trivial
    · intro _ after hsub
      exact (release_ensures ((hother other rfl).mono hsub)).mono fun _ _ _ => trivial

/-! ## What runs show -/

/-- The cell of a new value was initialised in the run. -/
theorem owned_of_runs {p : Attempt Value} {v : Value} (hp : Makes p)
    (h : p.run.Runs events (.ok v)) : Owned v events.numbers := by
  have hafter := ((hp []).of_runs h (admits_all _ _)).2
  rwa [after_eq, List.nil_append] at hafter

/-- An assignment alters only cells that it initialised. -/
theorem mem_numbers_of_set {object : Object} {name : String} {v : Value} {r : Except Failure Unit}
    (h : (Property.set object name v).run.Runs events r) {ev : Event} (hev : ev ∈ events) {k : Nat}
    (hk : ev.request.Alters k) : k ∈ events.numbers := by
  have hallows := ((set_tries object name v).of_runs h (admits_all [] _)).1
  simpa using mem_of_allows hallows hev hk

end OwnCells

end ImageGateway
