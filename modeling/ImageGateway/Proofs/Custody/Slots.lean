-- Image slots: only an array of images has any, and what was put into its slots
-- goes to the host together with the array.

import ImageGateway.Proofs.EntryPoints

namespace ImageGateway

/-- Any request but one that fills an image slot. -/
def Request.Slotless : Request → Prop
  | .fillSlot _ _ _ => False
  | _ => True

namespace Request

/-- Requests that are never the filling of a slot are slotless. -/
theorem slotless_of {P : Request → Prop} (hP : ∀ c place image, ¬ P (.fillSlot c place image))
    (q : Request) (h : P q) : q.Slotless := by
  cases q with
  | fillSlot c place image => exact hP c place image h
  | _ => trivial

theorem slotless_of_question : ∀ q : Request, q.Question → q.Slotless :=
  slotless_of fun _ _ _ => id

theorem slotless_of_inquiry : ∀ q : Request, q.Inquiry → q.Slotless :=
  inquiry_of slotless_of_question

theorem slotless_of_looking : ∀ q : Request, q.Looking → q.Slotless := slotless_of fun _ _ _ => id

theorem slotless_of_operating : ∀ q : Request, q.Operating → q.Slotless :=
  slotless_of fun _ _ _ => id

theorem slotless_of_background : ∀ q : Request, q.Background → q.Slotless :=
  slotless_of fun _ _ _ => id

end Request

namespace Program

open Request

variable {α : Type}

theorem requireTable_slotless : requireTable.run.Asks Slotless :=
  requireTable_asks slotless_of_inquiry

/-- Only an array of images has slots. -/
theorem export_slotless (entry : Export)
    (h : ∀ place items size, entry ≠ .setImages place items size) :
    entry.program.Asks Slotless := by
  apply Export.program_asks
  by_cases hstart : ∃ host, entry = .start host
  · obtain ⟨host, rfl⟩ := hstart
    exact startForHost_asks slotless_of_background host
  · refine Export.call_asks (fun _ => trivial) ?_ fun attempt => Export.task_asks
      slotless_of_operating (fun place items size hentry => absurd hentry (h place items size))
      fun host hentry => hstart ⟨host, hentry⟩
    cases entry <;>
      first | trivial | exact ensureLoaded_asks (loading_of slotless_of_background)

end Program

/-! ## The filled slots -/

/-- The watch that remembers the cells whose slots were filled. -/
def slotWatch : Watch (List Cell) where
  allows _ _ := True
  admits _ _ _ := True
  next cells q _ :=
    match q with
    | .fillSlot c _ _ => c :: cells
    | _ => cells

namespace SlotWatch

open Program Request

variable {α : Type} {cells : List Cell}

/-- Whatever was filled on the way is remembered in the end. -/
theorem mem_after {events : Transcript} {c : Cell}
    (h : c ∈ cells ∨ ∃ e ∈ events, ∃ place image, e.request = .fillSlot c place image) :
    c ∈ slotWatch.after cells events := by
  induction events generalizing cells with
  | nil =>
    rcases h with h | ⟨e, he, -⟩
    · exact h
    · exact (List.not_mem_nil he).elim
  | cons e events ih =>
    apply ih
    rcases h with h | ⟨e', he, place, image, hrequest⟩
    · left
      simp only [slotWatch]
      split
      · exact List.mem_cons_of_mem _ h
      · exact h
    · rcases List.mem_cons.1 he with rfl | he
      · obtain ⟨q, r⟩ := e'
        cases hrequest
        exact .inl (List.mem_cons_self ..)
      · exact .inr ⟨e', he, place, image, hrequest⟩

theorem admits_all (events : Transcript) : slotWatch.Admits cells events := by
  induction events generalizing cells with
  | nil => trivial
  | cons e events ih => exact ⟨trivial, ih⟩

theorem ensures_slotless {p : Program α} (h : p.Asks Slotless) :
    slotWatch.Ensures cells p fun _ after => after = cells := by
  induction p generalizing cells with
  | done a => rfl
  | ask q k ih =>
    refine ⟨trivial, fun r _ => ?_⟩
    have hnext : slotWatch.next cells q r = cells := by
      have hq := h.1
      cases q <;> first | rfl | exact hq.elim
    rw [hnext]
    exact ih r (h.2 r)

theorem tries_slotless {p : Attempt α} (h : p.run.Asks Slotless) :
    slotWatch.Tries cells p (fun _ after => after = cells) fun _ after => after = cells := by
  apply Watch.Ensures.mono (ensures_slotless h)
  intro answer after hafter
  cases answer <;> exact hafter

/-- Slots are filled in the one cell only. -/
theorem fillSlots_ensures (cell : Cell) (place : Nat) (images : List Image) :
    slotWatch.Ensures cells (Value.fillSlots cell place images) fun _ after =>
      ∀ c ∈ after, c ∈ cells ∨ c = cell := by
  induction images generalizing cells place with
  | nil => exact fun c hc => .inl hc
  | cons image rest ih =>
    refine ⟨trivial, fun _ _ => ⟨trivial, fun _ _ => (ih (place + 1)).mono ?_⟩⟩
    intro _ after hafter c hc
    rcases hafter c hc with hc | hc
    · rcases List.mem_cons.1 hc with rfl | hc
      · exact .inr rfl
      · exact .inl hc
    · exact .inr hc

/-- The slots that were filled are those of the array, if one was made. -/
theorem ofImages_tries (images : List Image) :
    slotWatch.Tries [] (Value.ofImages images) (fun v after => ∀ c ∈ after, c = v.cell)
      fun _ after => after = [] := by
  have hnative (call : Call) : (native call).Asks Slotless := asks_of (q := .call call) trivial
  apply Watch.Tries.bind (tries_slotless requireTable_slotless)
  rintro _ _ rfl
  apply Watch.Tries.bind (tries_slotless (countOf_asks _))
  rintro n _ rfl
  apply (ensures_slotless (hnative (.registered .imageArray))).then
  rintro type _ rfl
  have hmake : (Value.make type).Asks Slotless := by
    apply (hnative (.cellInit type)).bind
    intro number
    cases number <;> trivial
  apply (ensures_slotless hmake).then
  rintro v _ rfl
  apply (ensures_slotless (hnative (.makeSlots v.cell n))).then
  rintro _ _ rfl
  apply (ensures_slotless (hnative (.slots v.cell))).then
  rintro slots _ rfl
  split
  · apply (fillSlots_ensures v.cell 0 images).then
    intro _ after hafter c hc
    exact (hafter c hc).elim (fun h => (List.not_mem_nil h).elim) id
  · exact (ensures_slotless (valueRelease_asks slotless_of_inquiry trivial)).then fun _ _ h => h

theorem setImages_ensures (place : Foreign.Place) (items : Option (List (Option Handle)))
    (size : Int32) :
    slotWatch.Ensures [] (Foreign.setImages place items size) fun cell after =>
      ∀ c ∈ after, cell = some c := by
  have hwarned (text : String) : slotWatch.Ensures []
      (do Foreign.warn "vo_set_images" text; return none : Program (Option Value))
      fun v after => ∀ c ∈ after, v.map Value.cell = some c := by
    apply (ensures_slotless (warn_asks slotless_of_background _ text)).bind
    rintro _ _ rfl c hc
    exact (List.not_mem_nil hc).elim
  cases place with
  | null => exact Watch.ensures_bind.1 (hwarned "null GValue")
  | writable =>
    have hreleased (images : List Image) : (Foreign.releaseAll images).Asks Slotless :=
      (Export.releaseAll_looks images).mono slotless_of_looking
    have hfilled : slotWatch.Tries [] (do
        Foreign.ensureLoaded
        let images ← Foreign.borrowImages [] (Foreign.lent items size)
        (Value.ofImages images).closedBy (Foreign.releaseAll images) : Attempt Value)
        (fun v after => ∀ c ∈ after, c = v.cell) fun _ after => after = [] := by
      apply Watch.Tries.bind
        (tries_slotless (ensureLoaded_asks (loading_of slotless_of_background)))
      rintro _ _ rfl
      apply Watch.Tries.bind
        (tries_slotless ((Export.borrowImages_looks [] _).mono slotless_of_looking))
      rintro images _ rfl
      refine Watch.tries_closedBy.2 ((ofImages_tries images).mono ?_ ?_)
      · intro v after hafter
        apply (ensures_slotless (hreleased images)).mono
        rintro _ _ rfl
        exact hafter
      · rintro failure _ rfl
        exact (ensures_slotless (hreleased images)).mono fun _ _ h => h
    have hguarded : slotWatch.Ensures [] (Foreign.guarded "vo_set_images" do
        let images ← Foreign.borrowImages [] (Foreign.lent items size)
        (Value.ofImages images).closedBy (Foreign.releaseAll images))
        fun v after => ∀ c ∈ after, v.map Value.cell = some c := by
      refine hfilled.run ?_ ?_
      · intro v after hafter c hc
        simp [hafter c hc]
      · rintro failure _ rfl
        exact hwarned failure.message
    exact hguarded.bind fun _ _ h => h

/-- Every cell that an entry point puts images into is one that the host owns after it. -/
theorem export_ensures (entry : Export) :
    slotWatch.Ensures [] entry.program fun stored after => ∀ c ∈ after, .value ⟨c⟩ ∈ stored := by
  by_cases h : ∃ place items size, entry = .setImages place items size
  · obtain ⟨place, items, size, rfl⟩ := h
    apply (setImages_ensures place items size).bind
    intro cell after hafter c hc
    simp [Export.filled, hafter c hc]
  · have hslotless := export_slotless entry fun place items size he => h ⟨place, items, size, he⟩
    apply (ensures_slotless hslotless).mono
    rintro stored _ rfl c hc
    exact (List.not_mem_nil hc).elim

end SlotWatch

end ImageGateway
