-- Custody in operations: a call keeps what its outputs own and nothing else,
-- on each of its exits.

import Mathlib.Algebra.GroupWithZero.Nat
import ImageGateway.Operation.TileCache
import ImageGateway.Proofs.Custody.Properties

namespace ImageGateway

/-- What kind of thing an output takes. -/
inductive Output.Kind where
  | bool
  | int
  | double
  | doubles
  | buffer
  | ints
  | text
  | blob
  | image
  deriving DecidableEq

def Output.kind : Output → Output.Kind
  | .bool _ => .bool
  | .int _ => .int
  | .double _ => .double
  | .doubles _ => .doubles
  | .buffer _ => .buffer
  | .ints _ => .ints
  | .text _ => .text
  | .blob _ => .blob
  | .image _ => .image

theorem Output.eq_image_of_kind {output : Output} (h : output.kind = .image) :
    ∃ i, output = .image i := by
  cases output with
  | image i => exact ⟨i, rfl⟩
  | _ => cases h

namespace Resource

variable {α : Type} {x : Resource} {s : Standing}

/-- How often an output owns the resource. -/
def inOutput (x : Resource) : Output → Nat
  | .blob b => x.inAny (fun b => .blob b.handle) b
  | .image i => x.inAny (fun i => .object i.object.handle) i
  | _ => 0

/-- How often some outputs own the resource. -/
def inOutputs (x : Resource) (outputs : List Output) : Nat := (outputs.map x.inOutput).sum

@[simp] theorem inOutputs_nil : x.inOutputs [] = 0 := rfl

@[simp] theorem inOutputs_cons (output : Output) (outputs : List Output) :
    x.inOutputs (output :: outputs) = x.inOutput output + x.inOutputs outputs := rfl

/-! ## Outputs -/

theorem releaseOutput_ensures (output : Output)
    (hs : s.loaded = true ∨ x.inOutput output = 0) (h : x.inOutput output ≤ s.count) :
    x.watch.Ensures s output.release fun _ t => s.Moves t (x.inOutput output) 0 := by
  unfold Output.release
  split
  · exact releaseBlob_ensures hs h
  · exact releaseObject_ensures _ hs h
  · rename_i hblob himage
    have hnone : x.inOutput output = 0 := by
      rcases output with _ | _ | _ | _ | _ | _ | _ | b | i <;> try rfl
      · rcases b with _ | b
        · rfl
        · exact absurd rfl (hblob b)
      · rcases i with _ | i
        · rfl
        · exact absurd rfl (himage i)
    exact hnone ▸ .refl s 0

theorem releaseOutputs_tries (outputs : List Output)
    (hs : s.loaded = true ∨ x.inOutputs outputs = 0) (h : x.inOutputs outputs ≤ s.count) :
    x.watch.Tries s (outputs.forM fun output => liftM output.release : Attempt Unit)
      (fun _ t => s.Moves t (x.inOutputs outputs) 0) fun _ _ => False := by
  induction outputs generalizing s with
  | nil => exact .refl s 0
  | cons output rest ih =>
    simp only [inOutputs_cons] at hs h ⊢
    apply (releaseOutput_ensures output (hs.imp id (by omega)) (by omega)).then
    intro _ t ht
    have hcount := ht.count
    refine (ih (hs.imp ht.loaded (by omega)) (by omega)).mono ?_ fun _ _ h => h
    exact fun _ _ hu => ht.trans hu

/-- What is read into a place takes the place of what it held before. -/
theorem replaced_tries {p : Attempt α} {output : Output} {place : α → Output} {owned : α → Nat}
    (h : x.inOutput output ≤ s.count) (hp : x.Yields s p owned)
    (howned : ∀ a, owned a = x.inOutput (place a)) (hkind : ∀ a, (place a).kind = output.kind) :
    x.watch.Tries s (do let found ← p; output.release; return place found)
      (fun after t => t.loaded = true ∧ after.kind = output.kind ∧
        s.Moves t (x.inOutput output) (x.inOutput after))
      fun _ t => s.Moves t 0 0 := by
  apply Watch.Tries.bind hp
  intro a t hend
  obtain ⟨ht, -, hmoves⟩ := hend
  have hcount := hmoves.count
  apply (releaseOutput_ensures output (.inl ht) (by omega)).then
  intro _ u hu
  exact ⟨hu.loaded ht, hkind a, (hmoves.trans hu).same (by rw [← howned a]; omega)⟩

/-- Where nothing was held before, there is nothing to give up. -/
theorem placed_tries {p : Attempt α} {output : Output} (place : α → Output)
    (hp : x.Keeps s p) (hbefore : x.inOutput output = 0) (hafter : ∀ a, x.inOutput (place a) = 0)
    (hkind : ∀ a, (place a).kind = output.kind) :
    x.watch.Tries s (do return place (← p))
      (fun after t => t.loaded = true ∧ after.kind = output.kind ∧
        s.Moves t (x.inOutput output) (x.inOutput after))
      fun _ t => s.Moves t 0 0 := by
  apply Watch.Tries.bind hp
  intro a t hend
  obtain ⟨ht, -, hmoves⟩ := hend
  refine ⟨ht, hkind a, ?_⟩
  rw [hbefore, hafter]
  exact hmoves

theorem read_tries (output : Output) (object : Object) (name : String)
    (h : x.inOutput output ≤ s.count) :
    x.watch.Tries s (output.read object name)
      (fun after t => t.loaded = true ∧ after.kind = output.kind ∧
        s.Moves t (x.inOutput output) (x.inOutput after))
      fun _ t => s.Moves t 0 0 := by
  cases output with
  | bool b =>
    exact placed_tries .bool (getWith_yields getBool_reader object name _) rfl (fun _ => rfl)
      fun _ => rfl
  | int n => exact placed_tries .int (getInt_yields object name) rfl (fun _ => rfl) fun _ => rfl
  | double d =>
    exact placed_tries .double (getWith_yields getDouble_reader object name _) rfl (fun _ => rfl)
      fun _ => rfl
  | doubles xs =>
    exact placed_tries .doubles (getRegistered_yields getDoubles_reader object name _) rfl
      (fun _ => rfl) fun _ => rfl
  | buffer xs =>
    have hbuffer : x.inOutput (.buffer xs) = 0 := rfl
    exact placed_tries (fun a => .buffer a.2) (getDoublesInto_keeps object name xs) hbuffer
      (fun _ => rfl) fun _ => rfl
  | ints xs =>
    exact placed_tries .ints (getRegistered_yields getInts_reader object name _) rfl (fun _ => rfl)
      fun _ => rfl
  | text t =>
    exact placed_tries .text (getWith_yields getString_reader object name _) rfl (fun _ => rfl)
      fun _ => rfl
  | blob b =>
    exact replaced_tries h (getRegistered_yields getBlob_reader object name _) (fun _ => rfl)
      fun _ => rfl
  | image i =>
    exact replaced_tries h (getRegistered_yields getImage_reader object name _) (fun _ => rfl)
      fun _ => rfl

/-- The places that were read own what was found, and the others what they owned before. -/
theorem readAll_ensures (operation : Operation) (outputs : List (String × Output))
    (hs : s.loaded = true) (h : x.inOutputs (outputs.map (·.2)) ≤ s.count) :
    x.watch.Ensures s (operation.readAll outputs) fun r t =>
      t.loaded = true ∧ r.2.map Output.kind = outputs.map (·.2.kind) ∧
        s.Moves t (x.inOutputs (outputs.map (·.2))) (x.inOutputs r.2) := by
  induction outputs generalizing s with
  | nil => exact ⟨hs, rfl, .refl s 0⟩
  | cons output rest ih =>
    obtain ⟨name, output⟩ := output
    simp only [List.map_cons, inOutputs_cons] at h ⊢
    refine (read_tries output operation.object name (by omega)).run ?_ ?_
    · intro after t hend
      obtain ⟨ht, hkind, hmoves⟩ := hend
      have hcount := hmoves.count
      apply (ih ht (by omega)).bind
      rintro ⟨result, others⟩ u ⟨hu, hkinds, hmoves'⟩
      refine ⟨hu, by simpa [hkind] using hkinds, ?_⟩
      simpa using hmoves.trans hmoves'
    · intro failure t hmoves
      exact ⟨hmoves.loaded hs, by simp, hmoves.same (by simp)⟩

/-! ## Operations -/

theorem unrefOutputs_idle {handle : Option Handle} : (native (.unrefOutputs handle)).Asks Idle :=
  Program.asks_request.2 ⟨⟨fun _ => rfl, fun _ _ => rfl⟩, rfl⟩

theorem newOperation_yields (nickname : String) :
    x.Yields s (Operation.new nickname) fun o => x.one (.object o.object.handle) := by
  refine .onTable fun t ht _ => .onText fun text _ => handed_gives rfl rfl ht ?_
  intro handle u hu hmoves
  cases handle with
  | none =>
    apply (ensures_idle_of_loaded hu takeError_idle).then
    rintro _ _ rfl
    exact hmoves
  | some handle => exact ⟨rfl, rfl⟩

theorem setInput_keeps (operation : Operation) (name : String) (argument : Argument) :
    x.Keeps s (operation.set name argument) := by
  apply Watch.Tries.bind (toValue_gives argument)
  intro v t hend
  obtain ⟨ht, hsound, hmoves⟩ := hend
  exact (set_keeps operation.object name hsound hmoves.le_there).lend hsound hmoves ht

theorem setAll_keeps (operation : Operation) (inputs : List (String × Argument))
    (hs : s.loaded = true) : x.Keeps s (operation.setAll inputs) := by
  induction inputs with
  | nil => exact gives_pure hs trivial rfl
  | cons input rest ih =>
    obtain ⟨name, argument⟩ := input
    apply Watch.Tries.bind (setInput_keeps operation name argument)
    intro _ t hend
    obtain ⟨-, -, hmoves⟩ := hend
    cases hmoves.eq hs
    exact ih

/-- The built operation takes the place of the one that was passed in. -/
theorem build_tries (operation : Operation)
    (hs : s.loaded = true ∨ x.one (.object operation.object.handle) = 0)
    (h : x.one (.object operation.object.handle) ≤ s.count) :
    x.watch.Tries s operation.build
      (fun built t => t.loaded = true ∧
        s.Moves t (x.one (.object operation.object.handle)) (x.one (.object built.object.handle)))
      fun _ t => s.Moves t (x.one (.object operation.object.handle)) 0 := by
  refine tries_table (fun table => ?_) fun _ => (releaseObject_ensures _ hs h).then fun _ _ hu => hu
  have hbuild := ensures_request (x := x) (s := { s with loaded := true })
    (q := .call (.build operation.object.handle)) h (by simp [Request.cells])
  apply hbuild.then
  rintro ⟨status, left⟩ t ⟨-, hmoves, -⟩
  have ht := hmoves.loaded rfl
  have hleft : x.inAny .object left ≤ t.count := by
    have hcount : t.count + x.one (.object operation.object.handle) =
      s.count + x.inAny .object left := hmoves.count
    omega
  dsimp only
  split
  · -- the failed build: what it left behind is given up
    apply (ensures_idle_of_loaded ht takeError_idle).then
    rintro _ _ rfl
    apply (ensures_idle_of_loaded ht unrefOutputs_idle).then
    rintro _ _ rfl
    apply (unref_ensures left hleft).then
    intro _ u hu
    exact (hmoves.of_seen.trans hu).same (by simp only [spent, gained]; omega)
  · rcases left with _ | handle
    · exact hmoves.of_seen
    · exact ⟨ht, hmoves.of_seen⟩

theorem prepare_yields (nickname : String) (inputs : List (String × Argument)) :
    x.Yields s (Operation.prepare nickname inputs) fun o => x.one (.object o.object.handle) := by
  apply Watch.Tries.bind (newOperation_yields nickname)
  intro operation t hend
  obtain ⟨ht, -, hmoves⟩ := hend
  have hset : x.watch.Tries t (Operation.setAll operation inputs) (fun _ u => u = t)
      fun _ u => u = t := by
    refine (setAll_keeps operation inputs ht).mono ?_ fun _ _ hu => hu.eq ht
    intro _ u hend
    obtain ⟨-, -, hu⟩ := hend
    exact hu.eq ht
  refine hset.result ?_ ?_
  · rintro _ _ rfl
    refine (build_tries operation (.inl ht) hmoves.le).mono ?_ ?_
    · intro built u hend
      obtain ⟨hu, hmoves'⟩ := hend
      exact ⟨hu, trivial, (hmoves.trans hmoves').same (by dsimp only; omega)⟩
    · intro _ u hmoves'
      exact hmoves.back hmoves'
  · rintro failure _ rfl
    apply (releaseObject_ensures _ (.inl ht) hmoves.le).then
    intro _ u hu
    exact hmoves.back hu

/-- Whatever comes of a call, its outputs own what they owned before and what was read. -/
theorem call_ensures (nickname : String) (options : CallOptions)
    (h : x.inOutputs options.held ≤ s.count) :
    x.watch.Ensures s (Operation.call nickname options) fun r t =>
      (t.loaded = true ∨ ∃ failure, r = (.error failure, options.held)) ∧
      r.2.map Output.kind = options.held.map Output.kind ∧
      s.Moves t (x.inOutputs options.held) (x.inOutputs r.2) := by
  apply (ensures_idle (Program.asks_request.2 ⟨⟨fun _ => rfl, fun _ _ => rfl⟩, rfl⟩)).bind
  intro _ t ht
  have htcount : t.count = s.count := by
    have := ht.count
    omega
  refine Watch.Tries.run (prepare_yields nickname options.inputs) ?_ ?_
  · intro operation u hend
    obtain ⟨hu, -, hnew⟩ := hend
    have hucount := hnew.count
    dsimp only at hucount
    apply (readAll_ensures operation options.outputs hu (Nat.le_trans h (by omega))).bind
    rintro ⟨result, outputs⟩ v ⟨hv, hkinds, hread⟩
    have hvcount := hread.count
    have hidle : operation.unrefOutputs.run.Asks Idle :=
      (requireTable_asks idle_of_inquiry).try fun _ => unrefOutputs_idle.lift
    apply (ensures_idle_of_loaded hv hidle).bind
    rintro cleared v rfl
    unfold CallOptions.held at h ⊢
    dsimp only at hvcount
    apply (releaseObject_ensures operation.object (.inl hv) (by omega)).bind
    intro _ w hw
    refine ⟨.inl (hw.loaded hv), ?_, (((ht.trans hnew).trans hread).trans hw).same ?_⟩
    · simpa [Function.comp_def] using hkinds
    · dsimp only
      omega
  · intro failure u hu
    exact ⟨.inr ⟨failure, rfl⟩, rfl, (ht.trans hu).same (by simp)⟩

/-- A call for the outputs alone, none of which holds anything before. -/
theorem callFor_tries (nickname : String) (options : CallOptions)
    (h : x.inOutputs options.held = 0) :
    x.watch.Tries s (Operation.callFor nickname options)
      (fun outputs t => t.loaded = true ∧
        outputs.map Output.kind = options.held.map Output.kind ∧ s.Moves t 0 (x.inOutputs outputs))
      fun _ t => s.Moves t 0 0 := by
  apply (call_ensures nickname options (by omega)).then
  rintro ⟨result, outputs⟩ t ⟨ht, hkinds, hmoves⟩
  rw [h] at hmoves
  rcases result with failure | _
  · refine Watch.Tries.bind (P := fun _ u => s.Moves u 0 0)
      ((releaseOutputs_tries outputs ?_ hmoves.le).mono ?_ fun _ _ h => h.elim) fun _ _ hu => hu
    · rcases ht with ht | ⟨_, ⟨⟩⟩
      · exact .inl ht
      · exact .inr h
    · intro _ u hu
      exact hmoves.back hu
  · rcases ht with ht | ⟨_, ⟨⟩⟩
    exact ⟨ht, hkinds, hmoves⟩

/-- A call for one image, which nobody held before. -/
theorem imageCall_yields (nickname : String) {options : CallOptions}
    (h : options.held = [.image none]) :
    x.Yields s (Operation.callFor nickname options >>= Operation.firstImage) fun i =>
      x.one (.object i.object.handle) := by
  apply Watch.Tries.bind (callFor_tries nickname options (by rw [h]; rfl))
  intro outputs t hend
  obtain ⟨ht, hkinds, hmoves⟩ := hend
  rw [h] at hkinds
  obtain ⟨output, rfl⟩ : ∃ output, outputs = [output] := by
    apply List.length_eq_one_iff.1
    rw [← List.length_map (f := Output.kind), hkinds]
    rfl
  obtain ⟨_ | image, rfl⟩ := Output.eq_image_of_kind (List.cons.inj hkinds).1
  · exact hmoves
  · exact ⟨ht, trivial, hmoves⟩

theorem tileCache_yields (image : Image) (options : TileOptions) :
    x.Yields s (tileCache image options) fun i => x.one (.object i.object.handle) :=
  imageCall_yields "cache" (show (options.callOptions image).held = [.image none] from rfl)

end Resource

end ImageGateway
