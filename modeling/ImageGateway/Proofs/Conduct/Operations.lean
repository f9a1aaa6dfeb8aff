-- Conduct in references, properties and operations: what keeps to it piece by
-- piece keeps to it as a whole.

import ImageGateway.Proofs.Conduct.Basic

namespace ImageGateway.Conduct

open Program Request

variable {Note α β : Type} {c : Conduct Note}

namespace Lawful

variable (h : c.Lawful)
include h

theorem background (q : Request) (hq : q.Background) : c.Plain q :=
  h.handling q (q.handling_of_background hq)

theorem question (q : Request) (hq : q.Question) : c.Plain q :=
  h.handling q (q.handling_of_question hq)

theorem inquiry : ∀ q : Request, q.Inquiry → c.Plain q := inquiry_of h.question

theorem onTable : c.Minds requireTable := minds_of_asks (requireTable_asks h.inquiry)

theorem error : c.Heeds takeError := heeds_of_asks (takeError_asks h.question)

theorem call (call : Call) (hcall : (Request.call call).Handling) : c.Heeds (native call) :=
  heeds_request (h.handling _ hcall)

/-! ## References -/

theorem release (object : Object) : c.Heeds object.release :=
  heeds_of_asks (objectRelease_asks h.inquiry (h.handling _ trivial))

theorem releaseBlob (blob : Blob) : c.Heeds blob.release :=
  heeds_of_asks (blobRelease_asks h.inquiry (h.handling _ trivial))

theorem releaseValue {v : Value} (hv : c.cell v.cell) : c.Heeds v.release :=
  heeds_of_asks (valueRelease_asks h.inquiry (h.unset hv))

theorem clone (object : Object) : c.Does object.clone fun copy => copy = object := by
  have hasked : (ifLoaded (native (.ref object.handle))).Asks c.Plain :=
    ifLoaded_asks h.inquiry (asks_request.2 (h.handling _ trivial))
  exact (heeds_of_asks hasked).bind fun _ _ => does_done rfl

theorem borrow (handle : Option Handle) :
    c.Gets (Object.borrow? handle) fun o => o = handle.map Object.mk := by
  cases handle with
  | none => exact gets_pure rfl
  | some handle =>
    exact h.onTable.try fun _ _ => (h.call (.ref handle) trivial).then fun _ _ =>
      gets_pure rfl

theorem borrowImage (handle : Option Handle) :
    c.Gets (Image.borrow? handle) fun i => i = handle.map fun handle => ⟨⟨handle⟩⟩ := by
  refine (h.borrow handle).try fun o ho => gets_pure ?_
  subst ho
  cases handle <;> rfl

theorem copyBytes (bytes : List UInt8) : c.Minds (Blob.copyOf bytes) := by
  refine h.onTable.try fun _ _ => (h.call (.blobCopy bytes) trivial).then fun handle _ => ?_
  cases handle with
  | none => exact gets_throw
  | some handle => exact gets_pure trivial

theorem source (blob : Blob) : c.Minds blob.source := by
  refine h.onTable.try fun _ _ =>
    (h.call (.sourceFromBlob blob.handle) trivial).then fun handle _ => ?_
  cases handle with
  | none => exact h.error.then fun _ _ => gets_throw
  | some handle => exact gets_pure trivial

theorem memoryTarget : c.Minds memoryTarget := by
  refine h.onTable.try fun _ _ => (h.call .targetToMemory trivial).then fun handle _ => ?_
  cases handle with
  | none => exact h.error.then fun _ _ => gets_throw
  | some handle => exact gets_pure trivial

/-! ## Properties -/

theorem info (object : Object) (name : String) : c.Minds (Property.argument object name) :=
  minds_of_asks (propertyInfo_asks h.background object name)

theorem get (object : Object) (name : String) (type : TypeId) :
    c.Gets (Property.get object name type) fun v => c.cell v.cell := by
  refine h.onTable.try fun _ _ => (minds_of_asks (nativeText_asks name)).try fun text _ => ?_
  have hlookup : c.Minds (Property.lookup object text) :=
    minds_of_asks (lookup_asks h.question object text (h.background _ trivial))
  refine hlookup.try fun found _ =>
    (minds_of_asks (checkTransformable_asks h.inquiry found.spec.type type)).try fun _ _ =>
      (h.new type).try fun v hv => (minds_native (h.fetch hv)).try fun _ _ => gets_pure hv

theorem getDeclared (object : Object) (name : String) :
    c.Gets (Property.getValue object name) fun v => c.cell v.cell :=
  (h.info object name).try fun info _ => h.get object name info.type

theorem getWith {read : Value → Attempt α} {P : α → Prop}
    (hread : ∀ v, c.cell v.cell → c.Gets (read v) P) (object : Object) (name : String)
    (type : TypeId) : c.Gets (Property.getWith object name type read) P :=
  (h.get object name type).try fun v hv => (hread v hv).closedBy (h.releaseValue hv)

theorem getRegistered {read : Value → Attempt α} {P : α → Prop}
    (hread : ∀ v, c.cell v.cell → c.Gets (read v) P) (object : Object) (name : String)
    (which : Registered) : c.Gets (Property.getRegistered object name which read) P :=
  h.onTable.try fun _ _ => (h.call (.registered which) trivial).then fun type _ =>
    h.getWith hread object name type

theorem getBool (object : Object) (name : String) : c.Minds (Property.getBool object name) :=
  h.getWith (fun _ hv => (gets_nothing.1 (h.read .bool hv)).mono fun _ _ => trivial) object name _

theorem getInt (object : Object) (name : String) : c.Minds (Property.getInt object name) :=
  (h.info object name).try fun _ _ => h.getWith
    (fun _ hv => (gets_nothing.1 (h.read .int hv)).mono fun _ _ => trivial) object name _

theorem getUInt64 (object : Object) (name : String) : c.Minds (Property.getUInt64 object name) :=
  h.getWith (fun _ hv => (gets_nothing.1 (h.read .uint64 hv)).mono fun _ _ => trivial) object name _

theorem getDouble (object : Object) (name : String) : c.Minds (Property.getDouble object name) :=
  h.getWith (fun _ hv => (gets_nothing.1 (h.read .double hv)).mono fun _ _ => trivial) object name _

theorem getText (object : Object) (name : String) : c.Minds (Property.getString object name) :=
  h.getWith (fun _ hv => (gets_nothing.1 (h.read .text hv)).mono fun _ _ => trivial) object name _

theorem getInts (object : Object) (name : String) : c.Minds (Property.getInts object name) :=
  h.getRegistered (fun _ hv => (gets_nothing.1 (h.read .ints hv)).mono fun _ _ => trivial)
    object name _

theorem getDoubles (object : Object) (name : String) : c.Minds (Property.getDoubles object name) :=
  h.getRegistered (fun _ hv => (gets_nothing.1 (h.read .doubles hv)).mono fun _ _ => trivial)
    object name _

theorem getDoublesInto (object : Object) (name : String) (buffer : List Double) :
    c.Minds (Property.getDoublesInto object name buffer) :=
  (h.getDoubles object name).try fun _ _ => gets_pure trivial

theorem getBlob (object : Object) (name : String) : c.Minds (Property.getBlob object name) :=
  h.getRegistered (fun _ hv => (gets_holding?.1 (h.read .blob hv)).mono fun _ _ => trivial)
    object name _

theorem getImage (object : Object) (name : String) :
    c.Gets (Property.getImage object name) fun i => c.AllGood (i.toList.map .image) :=
  h.getRegistered (fun _ hv => gets_holding?.1 (h.read .image hv)) object name _

theorem readProperty (object : Object) (name : String) (reading : Reading) :
    c.Gets (reading.ofProperty object name) c.AllGood := by
  cases reading with
  | bool => exact gets_nothing.2 ((h.getBool object name).mono fun _ _ => allGood_nil)
  | int => exact gets_nothing.2 ((h.getInt object name).mono fun _ _ => allGood_nil)
  | uint64 => exact gets_nothing.2 ((h.getUInt64 object name).mono fun _ _ => allGood_nil)
  | double => exact gets_nothing.2 ((h.getDouble object name).mono fun _ _ => allGood_nil)
  | text => exact gets_nothing.2 ((h.getText object name).mono fun _ _ => allGood_nil)
  | ints => exact gets_nothing.2 ((h.getInts object name).mono fun _ _ => allGood_nil)
  | doubles => exact gets_nothing.2 ((h.getDoubles object name).mono fun _ _ => allGood_nil)
  | blob =>
    refine gets_holding?.2 ((h.getBlob object name).mono fun blob _ => ?_)
    cases blob with
    | none => exact allGood_nil
    | some blob => exact allGood_one trivial
  | image => exact gets_holding?.2 (h.getImage object name)

/-! ## Outputs -/

theorem releaseOutput (output : Output) : c.Heeds output.release := by
  unfold Output.release
  split
  · exact h.releaseBlob _
  · exact h.release _
  · exact does_done trivial

/-- What is read into a place of any kind is good. -/
theorem readOutput (output : Output) (object : Object) (name : String) :
    c.Gets (output.read object name) fun after => c.AllGood after.holdings := by
  cases output with
  | bool b => exact (h.getBool object name).try fun _ _ => gets_pure allGood_nil
  | int n => exact (h.getInt object name).try fun _ _ => gets_pure allGood_nil
  | double d => exact (h.getDouble object name).try fun _ _ => gets_pure allGood_nil
  | doubles xs => exact (h.getDoubles object name).try fun _ _ => gets_pure allGood_nil
  | buffer xs => exact (h.getDoublesInto object name xs).try fun _ _ => gets_pure allGood_nil
  | ints xs => exact (h.getInts object name).try fun _ _ => gets_pure allGood_nil
  | text t => exact (h.getText object name).try fun _ _ => gets_pure allGood_nil
  | blob b =>
    refine (h.getBlob object name).try fun found _ =>
      (h.releaseOutput _).then fun _ _ => gets_pure ?_
    cases found with
    | none => exact allGood_nil
    | some found => exact allGood_one trivial
  | image i =>
    refine (h.getImage object name).try fun found hfound =>
      (h.releaseOutput _).then fun _ _ => gets_pure ?_
    cases found with
    | none => exact allGood_nil
    | some found => exact hfound

theorem readAll (operation : Operation) (outputs : List (String × Output))
    (hgood : c.AllGood (outputs.flatMap (·.2.holdings))) :
    c.Does (operation.readAll outputs) fun r => c.AllGood (r.2.flatMap Output.holdings) := by
  induction outputs with
  | nil => exact does_done allGood_nil
  | cons output rest ih =>
    obtain ⟨name, output⟩ := output
    obtain ⟨houtput, hrest⟩ := allGood_append.1 hgood
    refine (h.readOutput output operation.object name).run ?_ ?_
    · intro after hafter
      exact (ih hrest).bind fun _ hothers => does_done (allGood_append.2 ⟨hafter, hothers⟩)
    · intro failure
      refine does_done (allGood_append.2 ⟨houtput, ?_⟩)
      simpa [List.flatMap_def, Function.comp_def] using hrest

/-! ## Operations -/

theorem newOperation (nickname : String) : c.Minds (Operation.new nickname) := by
  refine h.onTable.try fun _ _ => (minds_of_asks (nativeText_asks nickname)).try fun text _ =>
    (h.call (.operationNew text) trivial).then fun handle _ => ?_
  cases handle with
  | none => exact h.error.then fun _ _ => gets_throw
  | some handle => exact gets_pure trivial

theorem setInput (operation : Operation) (name : String) (argument : Argument) :
    c.Minds (operation.set name argument) :=
  (h.box argument).try fun _ hv => (h.set operation.object name hv).closedBy (h.releaseValue hv)

theorem setAll (operation : Operation) (inputs : List (String × Argument)) :
    c.Minds (operation.setAll inputs) := by
  induction inputs with
  | nil => exact gets_pure trivial
  | cons input rest ih => exact (h.setInput operation input.1 input.2).try fun _ _ => ih

theorem unrefOutputs (operation : Operation) : c.Minds operation.unrefOutputs :=
  h.onTable.try fun _ _ => minds_native (h.handling _ trivial)

theorem prepare (nickname : String) (inputs : List (String × Argument)) :
    c.Minds (Operation.prepare nickname inputs) := by
  refine (h.newOperation nickname).try fun operation _ =>
    (h.setAll operation inputs).result (fun _ _ => h.build operation) fun failure => ?_
  exact (h.release operation.object).then fun _ _ => gets_throw

theorem callOperation (nickname : String) (options : CallOptions)
    (hgood : c.AllGood (options.held.flatMap Output.holdings)) :
    c.Does (Operation.call nickname options) fun r => c.AllGood (r.2.flatMap Output.holdings) := by
  refine (heeds_of_asks (log_asks h.background _ _)).bind fun _ _ =>
    (h.prepare nickname options.inputs).run (fun operation _ => ?_) fun failure => does_done hgood
  have houtputs : c.AllGood (options.outputs.flatMap (·.2.holdings)) := by
    simpa [CallOptions.held, List.flatMap_def, Function.comp_def] using hgood
  refine (h.readAll operation options.outputs houtputs).bind fun r hr =>
    (h.unrefOutputs operation).run (fun _ _ => ?_) fun _ => ?_
  · exact (h.release operation.object).bind fun _ _ => does_done hr
  · exact (h.release operation.object).bind fun _ _ => does_done hr

theorem releaseOutputs (outputs : List Output) :
    c.Minds (outputs.forM fun output => liftM output.release : Attempt Unit) := by
  induction outputs with
  | nil => exact gets_pure trivial
  | cons output rest ih => exact (h.releaseOutput output).then fun _ _ => ih

theorem callFor (nickname : String) (options : CallOptions)
    (hgood : c.AllGood (options.held.flatMap Output.holdings)) :
    c.Gets (Operation.callFor nickname options) fun outputs =>
      c.AllGood (outputs.flatMap Output.holdings) := by
  refine (h.callOperation nickname options hgood).then fun r hr => ?_
  obtain ⟨failure | _, outputs⟩ := r
  · exact (h.releaseOutputs outputs).try fun _ _ => gets_throw
  · exact gets_pure hr

theorem tileCache (image : Image) (options : TileOptions) :
    c.Gets (tileCache image options) fun i => c.image i.object.handle := by
  refine (h.callFor "cache" (options.callOptions image) allGood_nil).try fun outputs houtputs => ?_
  unfold Operation.firstImage
  split
  · exact gets_pure (allGood_cons.1 (allGood_append.1 houtputs).1).1
  · exact gets_throw

end Lawful

end ImageGateway.Conduct
