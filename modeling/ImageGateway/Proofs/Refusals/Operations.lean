-- Refusals in operations: a call stops at the first check that is refused, while
-- its inputs are set and while its outputs are read.

import ImageGateway.Proofs.Refusals.Basic

namespace ImageGateway.Refusals

open Program

variable {α : Type}

/-! ## Boxing -/

theorem boxed_stops (type : TypeId) (payload : Payload) :
    Stops (do requireTable; Value.filled type payload) :=
  requireTable_sure.stops.try fun _ => (filled_calm type payload).lift

theorem countOf_stops (length : Nat) : Stops (Value.countOf length) := by
  unfold Value.countOf
  split
  · exact stops_pure _
  · exact stops_throw _

theorem array_stops (length : Nat) (which : Registered) (payload : Payload) :
    Stops (do
      requireTable
      let _ ← Value.countOf length
      Value.filled (← native (.registered which)) payload) :=
  requireTable_sure.stops.try fun _ => (countOf_stops length).try fun _ =>
    stops_call (.registered which) id fun type => (filled_calm type payload).lift

theorem ofImages_stops (images : List Image) : Stops (Value.ofImages images) := by
  have hfill (cell : Cell) (place : Nat) (images : List Image) :
      Calm (Value.fillSlots cell place images) := by
    induction images generalizing place with
    | nil => exact calm_done ()
    | cons image rest ih =>
      exact (calm_request (q := .call (.ref image.object.handle)) id).bind fun _ =>
        (calm_request (q := .fillSlot cell place image.object.handle) id).bind fun _ => ih _
  refine requireTable_sure.stops.try fun _ => (countOf_stops _).try fun n =>
    stops_call (.registered .imageArray) id fun type => (make_calm type).then fun v =>
      stops_call (.makeSlots v.cell n) id fun _ =>
        stops_call (.slots v.cell) id fun slots => ?_
  split
  · exact (hfill v.cell 0 images).then fun _ => stops_pure v
  · exact (releaseValue_quiet v).calm.then fun _ => stops_throw _

theorem ofBlob_stops (blob : Blob) : Stops (Value.ofBlob blob) :=
  requireTable_sure.stops.try fun _ =>
    stops_call (.registered .blob) id fun type => (filled_calm type _).lift

theorem ofObject_stops_boxing (object : Object) : Stops (Value.ofObject object) :=
  requireTable_sure.stops.try fun _ =>
    (calm_request (q := .instanceType object.handle) id).then fun type => (filled_calm type _).lift

theorem toValue_stops (argument : Argument) : Stops argument.toValue := by
  cases argument with
  | bool b => exact boxed_stops _ _
  | int n => exact boxed_stops _ _
  | uint64 n => exact boxed_stops _ _
  | double x => exact boxed_stops _ _
  | text s => exact (nativeText_stops s).try fun _ => boxed_stops _ _
  | ints xs => exact array_stops _ _ _
  | doubles xs => exact array_stops _ _ _
  | images images => exact ofImages_stops images
  | bytes bytes =>
    have hcopy : Stops (Blob.copyOf bytes) := by
      refine requireTable_sure.stops.try fun _ =>
        stops_call (.blobCopy bytes) id fun handle => ?_
      cases handle with
      | none => exact stops_throw _
      | some handle => exact stops_pure _
    exact hcopy.try fun blob => (ofBlob_stops blob).closedBy (releaseBlob_quiet blob)
  | image image => exact ofObject_stops_boxing image.object
  | object object => exact ofObject_stops_boxing object

/-! ## Outputs -/

theorem releaseOutput_quiet (output : Output) : Quiet output.release := by
  unfold Output.release
  split
  · exact releaseBlob_quiet _
  · exact releaseObject_quiet _
  · exact quiet_done ()

theorem output_stops (output : Output) (object : Object) (name : String) :
    Stops (output.read object name) := by
  cases output with
  | bool b => exact (getWith_stops getBool_stops object name _).map
  | int n => exact (getInteger_stops object name).map
  | double d => exact (getWith_stops getDouble_stops object name _).map
  | doubles xs => exact (getRegistered_stops getDoubles_stops object name _).map
  | buffer xs => exact (getDoublesInto_stops object name xs).map
  | ints xs => exact (getRegistered_stops getInts_stops object name _).map
  | text t => exact (getWith_stops getString_stops object name _).map
  | blob b =>
    exact (getRegistered_stops getBlob_stops object name _).try fun _ =>
      (releaseOutput_quiet _).calm.then fun _ => stops_pure _
  | image i =>
    exact (getRegistered_stops getImage_stops object name _).try fun _ =>
      (releaseOutput_quiet _).calm.then fun _ => stops_pure _

/-- What a refusal makes of a result that comes with something else. -/
def Ends (result : Except Failure α) (refused : Bool) : Prop :=
  refused = true → ∃ failure, result = .error failure ∧ failure.IsMismatch

theorem ends_false (result : Except Failure α) : Ends result false := nofun

/-- The outputs after one that was refused are not read. -/
theorem readAll_ends (operation : Operation) (outputs : List (String × Output)) :
    refusalWatch.Ensures false (operation.readAll outputs) fun r => Ends r.1 := by
  induction outputs with
  | nil => exact ends_false _
  | cons output rest ih =>
    obtain ⟨name, output⟩ := output
    refine Watch.Tries.run (output_stops output operation.object name) ?_ ?_
    · rintro read _ rfl
      exact ih.bind fun _ _ hends => hends
    · exact fun failure _ hfailed hrefused => ⟨failure, rfl, hfailed hrefused⟩

/-! ## Operations -/

theorem newOperation_stops (nickname : String) : Stops (Operation.new nickname) := by
  refine requireTable_sure.stops.try fun _ => (nativeText_stops nickname).try fun text =>
    stops_call (.operationNew text) id fun handle => ?_
  cases handle with
  | none => exact takeError_quiet.calm.then fun _ => stops_throw _
  | some handle => exact stops_pure _

theorem setInput_stops (operation : Operation) (name : String) (argument : Argument) :
    Stops (operation.set name argument) :=
  (toValue_stops argument).try fun v =>
    (set_stops operation.object name v).closedBy (releaseValue_quiet v)

/-- The inputs after one that was refused are not set. -/
theorem setAll_stops (operation : Operation) (inputs : List (String × Argument)) :
    Stops (operation.setAll inputs) := by
  induction inputs with
  | nil => exact stops_pure ()
  | cons input rest ih => exact (setInput_stops operation input.1 input.2).try fun _ => ih

theorem build_stops (operation : Operation) : Stops operation.build := by
  refine (calm_request (q := .table) id).then fun table => ?_
  cases table with
  | none => exact (releaseObject_quiet operation.object).calm.then fun _ => stops_throw _
  | some table =>
    refine stops_call (.build operation.object.handle) id fun built => ?_
    obtain ⟨status, left⟩ := built
    dsimp only
    split
    · exact takeError_quiet.calm.then fun _ => stops_call (.unrefOutputs left) id fun _ =>
        stops_call (.unref left) id fun _ => stops_throw _
    · cases left with
      | none => exact stops_throw _
      | some handle => exact stops_pure _

theorem prepare_stops (nickname : String) (inputs : List (String × Argument)) :
    Stops (Operation.prepare nickname inputs) :=
  (newOperation_stops nickname).try fun operation => (setAll_stops operation inputs).orElse
    (releaseObject_quiet operation.object) (fun _ => build_stops operation) fun _ => rfl

theorem unrefOutputs_sure (operation : Operation) : Sure operation.unrefOutputs :=
  requireTable_sure.try fun _ => (quiet_request id id).sure

/-- A call ends with the mismatch as soon as a check is refused. -/
theorem call_ends (nickname : String) (options : CallOptions) :
    refusalWatch.Ensures false (Operation.call nickname options) fun r => Ends r.1 := by
  refine Watch.Ensures.bind (calm_request (q := .log .debug _) id) ?_
  rintro _ _ rfl
  refine Watch.Tries.run (prepare_stops nickname options.inputs) ?_ ?_
  · rintro operation _ rfl
    refine (readAll_ends operation options.outputs).bind ?_
    rintro ⟨result, outputs⟩ m hends
    refine Watch.Tries.run (unrefOutputs_sure operation m) ?_ fun _ _ h => h.elim
    rintro _ m' rfl
    refine (releaseObject_quiet operation.object m').bind ?_
    rintro _ _ rfl
    exact hends
  · exact fun failure _ hfailed hrefused => ⟨failure, rfl, hfailed hrefused⟩

theorem callFor_stops (nickname : String) (options : CallOptions) :
    Stops (Operation.callFor nickname options) := by
  have hrelease (outputs : List Output) :
      Sure (outputs.forM fun output => liftM output.release : Attempt Unit) := by
    induction outputs with
    | nil => exact sure_pure ()
    | cons output rest ih => exact (releaseOutput_quiet output).sure.try fun _ => ih
  refine (call_ends nickname options).then ?_
  rintro ⟨result, outputs⟩ m hends
  cases result with
  | error failure =>
    refine Watch.Tries.bind ((hrelease outputs m).mono (fun _ _ h => h) fun _ _ h => h.elim) ?_
    rintro _ _ rfl hrefused
    obtain ⟨_, hresult, hmismatch⟩ := hends hrefused
    cases hresult
    exact hmismatch
  | ok _ =>
    show m = false
    rcases m with _ | _
    · rfl
    · obtain ⟨_, hresult, -⟩ := hends rfl
      cases hresult

theorem tileCache_stops (image : Image) (options : TileOptions) :
    Stops (tileCache image options) := by
  refine (callFor_stops "cache" (options.callOptions image)).try fun outputs => ?_
  unfold Operation.firstImage
  split
  · exact stops_pure _
  · exact stops_throw _

end ImageGateway.Refusals
