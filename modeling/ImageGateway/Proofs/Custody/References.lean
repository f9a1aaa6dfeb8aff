-- Custody of references: whoever makes, borrows or copies an object or a blob
-- owns one reference to it, and its release gives that one up. What goes on in
-- the background owns nothing.

import ImageGateway.Proofs.Background
import ImageGateway.Proofs.Resource

namespace ImageGateway.Resource

variable {α : Type} {x : Resource} {s : Standing}

theorem idle_of_background (q : Request) (h : q.Background) : Idle q := by
  unfold Request.Background at h
  split at h <;> first | exact ⟨⟨fun _ => rfl, fun _ _ => rfl⟩, rfl⟩ | exact idle_of_question h

theorem idle_question {q : Request} (hq : q.Question) : (Program.request q).Asks Idle :=
  Program.asks_request.2 (idle_of_question hq)

theorem takeError_idle : takeError.Asks Idle := takeError_asks fun _ => idle_of_question

/-! ## Objects -/

/-- One more reference to the object is held. -/
theorem ref_ensures (handle : Handle) :
    x.watch.Ensures s (native (.ref handle)) fun _ t => s.Moves t 0 (x.one (.object handle)) :=
  (ensures_request (q := .call (.ref handle)) (Nat.zero_le _) (by simp [Request.cells])).mono
    fun _ _ ht => ht.2.1

theorem unref_ensures (handle : Option Handle) (h : x.inAny .object handle ≤ s.count) :
    x.watch.Ensures s (native (.unref handle)) fun _ t => s.Moves t (x.inAny .object handle) 0 :=
  (ensures_request (q := .call (.unref handle)) h (by simp [Request.cells])).mono
    fun _ _ ht => ht.2.1

theorem releaseObject_ensures (object : Object)
    (hs : s.loaded = true ∨ x.one (.object object.handle) = 0)
    (h : x.one (.object object.handle) ≤ s.count) :
    x.watch.Ensures s object.release fun _ t => s.Moves t (x.one (.object object.handle)) 0 :=
  ensures_ifLoaded hs (unref_ensures (some object.handle) h)

theorem cloneObject_ensures {object : Object}
    (hs : s.loaded = true ∨ 0 = x.one (.object object.handle)) :
    x.watch.Ensures s object.clone fun copy t =>
      copy = object ∧ s.Moves t 0 (x.one (.object object.handle)) := by
  apply (ensures_ifLoaded hs (ref_ensures object.handle)).bind
  intro _ t ht
  exact ⟨rfl, ht⟩

theorem borrow_yields (handle : Handle) :
    x.Yields s (Object.borrow? (some handle)) fun o => x.inAny (.object ∘ Object.handle) o := by
  refine .onTable fun t ht _ => (ref_ensures handle).then ?_
  intro _ u hu
  exact ⟨hu.loaded ht, trivial, hu⟩

theorem borrowImage_yields (handle : Handle) :
    x.Yields s (Image.borrow? (some handle)) (x.inAny fun i => .object i.object.handle) :=
  .map (borrow_yields handle) fun o => by cases o <;> rfl

/-- The object becomes an image, or its reference is given up. -/
theorem ofObject_tries (object : Object)
    (hs : s.loaded = true ∨ x.one (.object object.handle) = 0)
    (h : x.one (.object object.handle) ≤ s.count) :
    x.watch.Tries s (Image.ofObject object) (fun image t => image.object = object ∧ s.Moves t 0 0)
      fun _ t => s.Moves t (x.one (.object object.handle)) 0 := by
  have hasked : x.watch.Tries s
      (do
        let expected ← Image.type
        if ← object.isA expected then
          return ⟨object⟩
        else
          let expectedName ← typeName expected
          let foundName ← object.typeName
          throw (.typeMismatch expectedName foundName) : Attempt Image)
      (fun image t => image.object = object ∧ s.Moves t 0 0) fun _ t => s.Moves t 0 0 := by
    apply tries_after_idle (imageType_asks idle_of_inquiry) (fun _ _ ht => ht)
    intro expected t ht
    refine tries_after_idle (isA_asks idle_of_inquiry object expected)
      (fun _ _ hu => ht.trans hu) ?_
    intro isImage u hu
    split
    · exact ⟨rfl, ht.trans hu⟩
    · refine tries_after_idle (typeName_asks idle_of_inquiry expected)
        (fun _ _ hv => (ht.trans hu).trans hv) ?_
      intro _ v hv
      refine tries_after_idle (objectTypeName_asks idle_of_inquiry object)
        (fun _ _ hw => ((ht.trans hu).trans hv).trans hw) ?_
      exact fun _ _ hw => ((ht.trans hu).trans hv).trans hw
  refine hasked.result ?_ ?_
  · intro image t ht
    exact ht
  · intro failure t ht
    have hcount := ht.count
    refine (releaseObject_ensures object (hs.imp ht.loaded id) (by omega)).then fun _ u hu => ?_
    exact (ht.trans hu).same (by omega)

/-! ## Blobs -/

theorem areaUnref_ensures (handle : Handle) (h : x.one (.blob handle) ≤ s.count) :
    x.watch.Ensures s (native (.areaUnref handle)) fun _ t => s.Moves t (x.one (.blob handle)) 0 :=
  (ensures_request (q := .call (.areaUnref handle)) h (by simp [Request.cells])).mono
    fun _ _ ht => ht.2.1

theorem releaseBlob_ensures {blob : Blob} (hs : s.loaded = true ∨ x.one (.blob blob.handle) = 0)
    (h : x.one (.blob blob.handle) ≤ s.count) :
    x.watch.Ensures s blob.release fun _ t => s.Moves t (x.one (.blob blob.handle)) 0 :=
  ensures_ifLoaded hs (areaUnref_ensures blob.handle h)

/-- What is owned by the answer of a call that hands out a new reference, or none. -/
theorem handed_gives {call : Call} {f : call.Reply → Attempt α} {owned : α → Nat}
    (hspent : x.spent (.call call) = 0) (hcells : Request.cells (.call call) = [])
    (hs : s.loaded = true)
    (hf : ∀ r t, t.loaded = true → s.Moves t 0 (x.gained (.call call) r) →
      x.watch.Tries t (f r) (fun a u => u = t ∧ owned a = x.gained (.call call) r)
        fun _ u => s.Moves u 0 0) :
    x.Yields s (liftM (native call) >>= f) owned := by
  have hcall := ensures_request (x := x) (s := s) (q := .call call) (by simp [hspent])
    (by simp [hcells])
  apply hcall.then
  intro r t hend
  obtain ⟨-, ht, -⟩ := hend
  rw [hspent] at ht
  have hloaded := ht.loaded hs
  refine (hf r t hloaded ht).mono ?_ fun _ _ hu => hu
  intro a u hend
  obtain ⟨rfl, howned⟩ := hend
  exact ⟨hloaded, trivial, howned ▸ ht⟩

theorem copyOf_yields (bytes : List UInt8) :
    x.Yields s (Blob.copyOf bytes) fun b => x.one (.blob b.handle) := by
  refine .onTable fun t ht _ => handed_gives rfl rfl ht ?_
  intro handle u hu hmoves
  cases handle with
  | none => exact hmoves
  | some handle => exact ⟨rfl, rfl⟩

theorem source_yields (blob : Blob) :
    x.Yields s blob.source fun o => x.one (.object o.handle) := by
  refine .onTable fun t ht _ => handed_gives rfl rfl ht ?_
  intro handle u hu hmoves
  cases handle with
  | none =>
    apply (ensures_idle_of_loaded hu takeError_idle).then
    rintro _ _ rfl
    exact hmoves
  | some handle => exact ⟨rfl, rfl⟩

theorem memoryTarget_yields : x.Yields s memoryTarget fun o => x.one (.object o.handle) := by
  refine .onTable fun t ht _ => handed_gives rfl rfl ht ?_
  intro handle u hu hmoves
  cases handle with
  | none =>
    apply (ensures_idle_of_loaded hu takeError_idle).then
    rintro _ _ rfl
    exact hmoves
  | some handle => exact ⟨rfl, rfl⟩

/-! ## The library as a whole -/

/-- A table that was loaded is published. -/
theorem load_tries (paths : LibraryPaths) :
    x.watch.Tries s (Control.load paths) (fun _ t => t.loaded = true ∧ s.Moves t 0 0)
      fun _ t => s.Moves t 0 0 := by
  refine Watch.tries_adapt.2 (tries_table (fun table => ?_) fun _ => ?_)
  · exact ⟨rfl, .of_seen (.refl _ 0)⟩
  · refine Watch.Tries.bind (P := fun _ t => s.Moves t 0 0) ?_ fun table t ht => ?_
    · have hidle := opening_of_loading (loading_of idle_of_background)
      apply Watch.Ensures.mono (ensures_idle (open_asks hidle paths))
      intro answer t ht
      cases answer <;> exact ht
    refine Watch.tries_lift.2 ((ensures_request (q := .publish table) (Nat.zero_le _)
      (by simp [Request.cells])).mono ?_)
    intro published u hend
    obtain ⟨-, hu, hseen⟩ := hend
    exact ⟨hseen rfl, ht.trans hu⟩

end ImageGateway.Resource
