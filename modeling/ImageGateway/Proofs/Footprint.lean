-- Footprints: what boxing, reading, assigning and whole operations ask for at
-- all. Each of them asks questions besides, about types and names. Those that
-- look an argument up ask for messages too.

import ImageGateway.Operation.TileCache
import ImageGateway.Proofs.Questions

namespace ImageGateway

namespace Request

/-- A request that puts something into a new cell. -/
def Boxing : Request → Prop
  | .call (.cellInit _) | .call (.cellSet _ _) => True
  | .call (.blobCopy _) | .call (.areaUnref _) => True
  | q => q.Inquiry

/-- A request that puts something into a new cell, or images into its slots. -/
def Slotting : Request → Prop
  | .call (.makeSlots _ _) | .call (.slots _) | .call (.cellUnset _) => True
  | .call (.ref _) | .fillSlot _ _ _ => True
  | q => q.Boxing

/-- A request that looks into a cell, or takes or gives up a reference to what is in it. -/
def Looking : Request → Prop
  | .call (.cellGet _ _) | .call (.ref _) | .call (.unref (some _)) => True
  | q => q.Inquiry

/-- A request that looks into a cell. -/
def Peeking : Request → Prop
  | .call (.cellGet _ _) | .call (.ref _) | .call (.unref _) => True
  | q => q.Question

/-- A request that takes a property of the object into a new cell. -/
def Taking (object : Handle) : Request → Prop
  | .call (.getArgument o _) | .call (.getProperty o _ _) => o = object
  | .call (.cellInit _) | .call (.cellUnset _) => True
  | q => q.Question

/-- A request that reads a property of the object. -/
def Reading (object : Handle) : Request → Prop
  | .call (.getArgument o _) | .call (.getProperty o _ _) => o = object
  | .call (.cellInit _) | .call (.cellUnset _) | .call (.areaUnref _) => True
  | q => q.Peeking

/-- A request on the way to the assignment of a property of the object. -/
def Preparing (object : Handle) : Request → Prop
  | .call (.getArgument o _) => o = object
  | .call (.cellGet _ _) | .call (.cellUnset _) | .call (.enumFromNick _ _ _) => True
  | .call .errorBuffer | .call (.act .errorClear) => True
  | q => q.Boxing

/-- A request on the way of an operation from its name to its outputs. Arrays of images have slots
to fill besides. -/
def Operating : Request → Prop
  | .fillSlot _ _ _ | .publish _ | .openLibrary _ | .resolve _ _ | .environment _ => False
  | .logs _ | .log .warn _ | .print _ => False
  | _ => True

theorem boxing_of_inquiry (q : Request) (h : q.Inquiry) : q.Boxing := by
  unfold Boxing
  split <;> trivial

theorem slotting_of_boxing (q : Request) (h : q.Boxing) : q.Slotting := by
  unfold Slotting
  split <;> trivial

theorem looking_of_inquiry (q : Request) (h : q.Inquiry) : q.Looking := by
  unfold Looking
  split <;> trivial

theorem taking_of_question {object : Handle} (q : Request) (h : q.Question) : q.Taking object := by
  unfold Taking
  split <;> trivial

theorem reading_of_question {object : Handle} (q : Request) (h : q.Question) :
    q.Reading object := by
  unfold Reading Peeking
  split <;> first | trivial | (split <;> trivial)

theorem reading_of_looking {object : Handle} (q : Request) (h : q.Looking) : q.Reading object := by
  unfold Looking at h
  split at h
  · trivial
  · trivial
  · trivial
  · exact reading_of_question q (q.question_of_inquiry h)

theorem reading_of_taking {object : Handle} (q : Request) (h : q.Taking object) :
    q.Reading object := by
  unfold Taking at h
  split at h
  · exact h
  · exact h
  · trivial
  · trivial
  · exact reading_of_question q h

theorem preparing_of_boxing {object : Handle} (q : Request) (h : q.Boxing) :
    q.Preparing object := by
  unfold Preparing
  split <;> trivial

theorem preparing_of_inquiry {object : Handle} (q : Request) (h : q.Inquiry) :
    q.Preparing object := preparing_of_boxing q (boxing_of_inquiry q h)

theorem preparing_of_question {object : Handle} (q : Request) (h : q.Question) :
    q.Preparing object := by
  unfold Question at h
  split at h <;> trivial

theorem operating_of_question (q : Request) (h : q.Question) : q.Operating := by
  cases q <;> trivial

theorem operating_of_boxing (q : Request) (h : q.Boxing) : q.Operating := by
  cases q <;> trivial

theorem operating_of_looking (q : Request) (h : q.Looking) : q.Operating := by
  cases q <;> trivial

theorem operating_of_reading {object : Handle} (q : Request) (h : q.Reading object) :
    q.Operating := by
  cases q <;> trivial

theorem operating_of_preparing {object : Handle} (q : Request) (h : q.Preparing object) :
    q.Operating := by
  cases q <;> trivial

end Request

namespace Program

open Request

variable {α : Type} {P : Request → Prop}

theorem asks_of {q : Request} (h : P q) : (request q).Asks P := asks_request.2 h

/-! ## Boxing -/

theorem requireTable_boxes : requireTable.run.Asks Boxing := requireTable_asks boxing_of_inquiry

theorem filled_boxes (type : TypeId) (payload : Payload) :
    (Value.filled type payload).Asks Boxing := by
  have hmake : (Value.make type).Asks Boxing := by
    apply (asks_of (q := .call (.cellInit type)) trivial).bind
    intro number
    cases number <;> trivial
  exact hmake.bind fun v => (asks_of (q := .call (.cellSet v.cell payload)) trivial).bind fun _ =>
    trivial

theorem tableThenFilled_boxes (type : TypeId) (payload : Payload) :
    (do requireTable; Value.filled type payload : Attempt Value).run.Asks Boxing :=
  requireTable_boxes.try fun _ => (filled_boxes type payload).lift

theorem countOf_asks (length : Nat) : (Value.countOf length).run.Asks P := by
  unfold Value.countOf
  split <;> trivial

theorem ofInts_boxes (xs : Span Int32) : (Value.ofInts xs).run.Asks Boxing :=
  requireTable_boxes.try fun _ => (countOf_asks _).try fun _ =>
    (asks_of (q := .call (.registered .intArray)) trivial).then fun type =>
      (filled_boxes type _).lift

theorem ofDoubles_boxes (xs : Span Double) : (Value.ofDoubles xs).run.Asks Boxing :=
  requireTable_boxes.try fun _ => (countOf_asks _).try fun _ =>
    (asks_of (q := .call (.registered .doubleArray)) trivial).then fun type =>
      (filled_boxes type _).lift

theorem ofString_boxes (text : String) : (Value.ofString text).run.Asks Boxing :=
  (nativeText_asks text).try fun _ => tableThenFilled_boxes _ _

theorem ofBlob_boxes (blob : Blob) : (Value.ofBlob blob).run.Asks Boxing :=
  requireTable_boxes.try fun _ => (asks_of (q := .call (.registered .blob)) trivial).then
    fun type => (filled_boxes type _).lift

theorem ofObject_boxes (object : Object) : (Value.ofObject object).run.Asks Boxing :=
  requireTable_boxes.try fun _ => (typeId_asks boxing_of_inquiry object).then fun type =>
    (filled_boxes type _).lift

theorem ofBytes_boxes (bytes : List UInt8) : (Value.ofBytes bytes).run.Asks Boxing := by
  have hcopy : (Blob.copyOf bytes).run.Asks Boxing := by
    refine requireTable_boxes.try fun _ => (asks_of (q := .call (.blobCopy bytes)) trivial).then ?_
    intro handle
    cases handle <;> trivial
  refine hcopy.try fun blob => (ofBlob_boxes blob).closedBy ?_
  exact blobRelease_asks boxing_of_inquiry trivial

theorem fillSlots_slots (cell : Cell) (place : Nat) (images : List Image) :
    (Value.fillSlots cell place images).Asks Slotting := by
  induction images generalizing place with
  | nil => trivial
  | cons image rest ih =>
    exact (asks_of (q := .call (.ref image.object.handle)) trivial).bind fun _ =>
      (asks_of (q := .fillSlot cell place image.object.handle) trivial).bind fun _ => ih _

theorem ofImages_slots (images : List Image) : (Value.ofImages images).run.Asks Slotting := by
  have hinquiry (q : Request) (h : q.Inquiry) : q.Slotting :=
    slotting_of_boxing q (boxing_of_inquiry q h)
  refine (requireTable_asks hinquiry).try fun _ => (countOf_asks _).try fun n =>
    (asks_of (q := .call (.registered .imageArray)) trivial).then fun type => ?_
  have hmake : (Value.make type).Asks Slotting := by
    apply (asks_of (q := .call (.cellInit type)) trivial).bind
    intro number
    cases number <;> trivial
  refine hmake.then fun v => (asks_of (q := .call (.makeSlots v.cell n)) trivial).then fun _ =>
    (asks_of (q := .call (.slots v.cell)) trivial).then fun slots => ?_
  split
  · exact (fillSlots_slots v.cell 0 images).then fun _ => trivial
  · exact (valueRelease_asks hinquiry trivial).then fun _ => trivial

/-- Boxing an argument touches no property of any object. -/
theorem toValue_slots (argument : Argument) : argument.toValue.run.Asks Slotting := by
  cases argument with
  | images images => exact ofImages_slots images
  | bool b => exact (tableThenFilled_boxes _ _).mono slotting_of_boxing
  | int n => exact (tableThenFilled_boxes _ _).mono slotting_of_boxing
  | uint64 n => exact (tableThenFilled_boxes _ _).mono slotting_of_boxing
  | double x => exact (tableThenFilled_boxes _ _).mono slotting_of_boxing
  | text s => exact (ofString_boxes s).mono slotting_of_boxing
  | ints xs => exact (ofInts_boxes xs).mono slotting_of_boxing
  | doubles xs => exact (ofDoubles_boxes xs).mono slotting_of_boxing
  | bytes bs => exact (ofBytes_boxes bs).mono slotting_of_boxing
  | image i => exact (ofObject_boxes i.object).mono slotting_of_boxing
  | object o => exact (ofObject_boxes o).mono slotting_of_boxing

/-! ## Looking -/

theorem requireTable_looks : requireTable.run.Asks Looking := requireTable_asks looking_of_inquiry

theorem cellGet_looks (cell : Cell) (accessor : Accessor) :
    (native (.cellGet cell accessor)).Asks Looking :=
  asks_of (q := .call (.cellGet cell accessor)) trivial

theorem readAs_looks (v : Value) (type : TypeId) (accessor : Accessor) :
    (v.readAs type accessor).run.Asks Looking :=
  (expect_asks looking_of_inquiry v type).try fun _ => (cellGet_looks v.cell accessor).lift

theorem getBool_looks (v : Value) : v.getBool.run.Asks Looking :=
  requireTable_looks.try fun _ => (readAs_looks v .boolean .boolean).try fun _ => trivial

theorem getInt_looks (v : Value) : v.getInt.run.Asks Looking := by
  refine requireTable_looks.try fun _ =>
    (asks_of (q := .call (.fundamental v.type)) trivial).then fun ancestor => ?_
  split
  · exact (cellGet_looks v.cell .enumeration).lift
  · exact readAs_looks v .int .int

theorem getUInt64_looks (v : Value) : v.getUInt64.run.Asks Looking :=
  requireTable_looks.try fun _ => readAs_looks v .uint64 .uint64

theorem getDouble_looks (v : Value) : v.getDouble.run.Asks Looking :=
  requireTable_looks.try fun _ => readAs_looks v .double .double

theorem getString_looks (v : Value) : v.getString.run.Asks Looking :=
  requireTable_looks.try fun _ => (readAs_looks v .string .string).try fun _ => trivial

theorem getInts_looks (v : Value) : v.getInts.run.Asks Looking :=
  requireTable_looks.try fun _ => (asks_of (q := .call (.registered .intArray)) trivial).then
    fun type => (readAs_looks v type .ints).try fun _ => trivial

theorem getDoubles_looks (v : Value) : v.getDoubles.run.Asks Looking :=
  requireTable_looks.try fun _ => (asks_of (q := .call (.registered .doubleArray)) trivial).then
    fun type => (readAs_looks v type .doubles).try fun _ => trivial

theorem getBlob_looks (v : Value) : v.getBlob.run.Asks Looking :=
  requireTable_looks.try fun _ => (asks_of (q := .call (.registered .blob)) trivial).then
    fun type => (readAs_looks v type .boxedCopy).try fun _ => trivial

theorem borrow_looks (handle : Option Handle) : (Object.borrow? handle).run.Asks Looking := by
  rcases handle with _ | handle
  · trivial
  · exact requireTable_looks.try fun _ =>
      (asks_of (q := .call (.ref handle)) trivial).then fun _ => trivial

theorem ofObject_looks (object : Object) : (Image.ofObject object).run.Asks Looking := by
  refine Asks.try (Asks.result ?_) ?_
  · refine (imageType_asks looking_of_inquiry).try fun expected =>
      (isA_asks looking_of_inquiry object expected).try fun isImage => ?_
    split
    · trivial
    · exact (typeName_asks looking_of_inquiry expected).try fun _ =>
        (objectTypeName_asks looking_of_inquiry object).try fun _ => trivial
  · intro answer
    cases answer with
    | error failure => exact (objectRelease_asks looking_of_inquiry trivial).then fun _ => trivial
    | ok image => trivial

theorem getObject_looks (v : Value) : v.getObject.run.Asks Looking :=
  requireTable_looks.try fun _ => (readAs_looks v .object .object).try fun handle =>
    borrow_looks handle

theorem getImage_looks (v : Value) : v.getImage.run.Asks Looking := by
  refine requireTable_looks.try fun _ => (asks_of (q := .call (.registered .image)) trivial).then
    fun type => (expect_asks looking_of_inquiry v type).try fun _ =>
      (getObject_looks v).try ?_
  intro object
  cases object with
  | none => trivial
  | some object => exact (ofObject_looks object).try fun _ => trivial

/-! ## Reading properties -/

section

variable {object : Object}

theorem new_asks (hI : ∀ q : Request, q.Inquiry → P q) {type : TypeId}
    (hinit : P (.call (.cellInit type))) : (Value.new type).run.Asks P := by
  refine (requireTable_asks hI).try fun _ => ((asks_of hinit).bind fun number => ?_).lift
  cases number <;> trivial

section

variable (hP : ∀ q : Request, q.Taking object.handle → P q)
include hP

theorem get_asks (name : String) (type : TypeId) : (Property.get object name type).run.Asks P := by
  have hQ (q : Request) (hq : q.Question) : P q := hP q (taking_of_question q hq)
  exact (requireTable_asks (inquiry_of hQ)).try fun _ => (nativeText_asks name).try fun text =>
    (lookup_asks hQ object text (hP _ rfl)).try fun _ =>
      (checkTransformable_asks (inquiry_of hQ) _ _).try fun _ =>
        (new_asks (inquiry_of hQ) (hP _ trivial)).try fun v =>
          (asks_of (hP (.call (.getProperty object.handle text v.cell)) rfl)).then fun _ => trivial

theorem getWith_asks {read : Value → Attempt α} (hread : ∀ v, (read v).run.Asks P)
    (name : String) (type : TypeId) : (Property.getWith object name type read).run.Asks P :=
  (get_asks hP name type).try fun v =>
    (hread v).closedBy (valueRelease_asks (inquiry_of fun q hq => hP q (taking_of_question q hq))
      (hP _ trivial))

end

theorem getWith_reads {read : Value → Attempt α} (hread : ∀ v, (read v).run.Asks Looking)
    (name : String) (type : TypeId) :
    (Property.getWith object name type read).run.Asks (Reading object.handle) :=
  getWith_asks reading_of_taking (fun v => (hread v).mono reading_of_looking) name type

theorem getRegistered_reads {read : Value → Attempt α} (hread : ∀ v, (read v).run.Asks Looking)
    (name : String) (which : Registered) :
    (Property.getRegistered object name which read).run.Asks (Reading object.handle) :=
  (requireTable_asks (inquiry_of reading_of_question)).try fun _ =>
    (asks_of (q := .call (.registered which)) trivial).then fun type =>
      getWith_reads hread name type

theorem argument_reads (name : String) :
    (Property.argument object name).run.Asks (Reading object.handle) :=
  argument_asks reading_of_question fun _ => rfl

theorem outputRelease_reads (object : Object) (output : Output) :
    output.release.Asks (Reading object.handle) := by
  unfold Output.release
  split
  · exact blobRelease_asks (inquiry_of reading_of_question) trivial
  · exact objectRelease_asks (inquiry_of reading_of_question) trivial
  · trivial

/-- Whatever an output takes, its reading touches the properties of the one object only. -/
theorem output_reads (output : Output) (name : String) :
    (output.read object name).run.Asks (Reading object.handle) := by
  cases output with
  | bool b => exact (getWith_reads getBool_looks name _).try fun _ => trivial
  | int n =>
    have hasked : (Property.getInt object name).run.Asks (Reading object.handle) :=
      (argument_reads name).try fun _ => getWith_reads getInt_looks name _
    exact hasked.try fun _ => trivial
  | double d => exact (getWith_reads getDouble_looks name _).try fun _ => trivial
  | doubles xs => exact (getRegistered_reads getDoubles_looks name _).try fun _ => trivial
  | buffer xs =>
    have hfilled : (Property.getDoublesInto object name xs).run.Asks (Reading object.handle) :=
      (getRegistered_reads getDoubles_looks name _).try fun _ => trivial
    exact hfilled.try fun _ => trivial
  | ints xs => exact (getRegistered_reads getInts_looks name _).try fun _ => trivial
  | text t => exact (getWith_reads getString_looks name _).try fun _ => trivial
  | blob b =>
    exact (getRegistered_reads getBlob_looks name _).try fun _ =>
      (outputRelease_reads object _).then fun _ => trivial
  | image i =>
    exact (getRegistered_reads getImage_looks name _).try fun _ =>
      (outputRelease_reads object _).then fun _ => trivial

end

/-! ## Preparing an assignment -/

section

variable {object : Object}

theorem cellGet_prepares (cell : Cell) (accessor : Accessor) :
    (native (.cellGet cell accessor)).Asks (Preparing object.handle) :=
  asks_of (q := .call (.cellGet cell accessor)) trivial

theorem ofEnum_prepares (type : TypeId) (n : Int32) :
    (Value.ofEnum type n).run.Asks (Preparing object.handle) :=
  (tableThenFilled_boxes type _).mono preparing_of_boxing

theorem getString_prepares (v : Value) : v.getString.run.Asks (Preparing object.handle) :=
  (requireTable_asks preparing_of_inquiry).try fun _ =>
    ((expect_asks preparing_of_inquiry v .string).try fun _ =>
      (cellGet_prepares v.cell .string).lift).try fun _ => trivial

theorem getInt_prepares (v : Value) : v.getInt.run.Asks (Preparing object.handle) := by
  refine (requireTable_asks preparing_of_inquiry).try fun _ =>
    (asks_of (q := .call (.fundamental v.type)) trivial).then fun ancestor => ?_
  split
  · exact (cellGet_prepares v.cell .enumeration).lift
  · exact (expect_asks preparing_of_inquiry v .int).try fun _ =>
      (cellGet_prepares v.cell .int).lift

theorem numberOfNick_prepares (name : String) (type : TypeId) (v : Value) :
    (Property.numberOfNick object name type v).run.Asks (Preparing object.handle) := by
  refine (typeId_asks preparing_of_inquiry object).then fun own =>
    (asks_of (q := .call (.nicknameFind own)) trivial).then fun domain =>
      (cellGet_prepares v.cell .string).then fun nick =>
        (asks_of (q := .call (.enumFromNick domain type nick)) trivial).then fun number => ?_
  split
  · exact (getString_prepares v).try fun _ =>
      (takeError_asks preparing_of_question).then fun _ => trivial
  · trivial

/-- On the way to an assignment nothing is assigned. -/
theorem substitute_prepares (name : String) (type : TypeId) (v : Value) :
    (Property.substitute object name type v).run.Asks (Preparing object.handle) := by
  refine (isEnumType_asks preparing_of_inquiry type).then fun isEnum => ?_
  split
  · exact (numberOfNick_prepares name type v).try fun number =>
      (ofEnum_prepares type number).try fun _ => trivial
  · split
    · exact (getInt_prepares v).try fun number => (ofEnum_prepares type number).try fun _ => trivial
    · exact (checkTransformable_asks preparing_of_inquiry _ _).try fun _ => trivial

/-- An assignment prepares itself and then assigns. -/
theorem set_asks (hP : ∀ q : Request, q.Preparing object.handle → P q)
    (hassign : ∀ text cell, P (.call (.setProperty object.handle text cell))) (name : String)
    (v : Value) : (Property.set object name v).run.Asks P := by
  have hQ (q : Request) (hq : q.Question) : P q := hP q (preparing_of_question q hq)
  have hset (text : CText) (w : Value) :
      (native (.setProperty object.handle text w.cell)).Asks P := asks_of (hassign text w.cell)
  refine (requireTable_asks (inquiry_of hQ)).try fun _ => (nativeText_asks name).try fun text =>
    (lookup_asks hQ object text (hP _ rfl)).try fun found =>
      ((substitute_prepares name found.spec.type v).mono hP).try fun other => ?_
  cases other with
  | none => exact (hset text v).lift
  | some other =>
    exact (hset text other).lift.closedBy (valueRelease_asks (inquiry_of hQ) (hP _ trivial))

end

/-- A build gives up what it leaves behind. -/
theorem build_asks (hQ : ∀ q : Request, q.Question → P q) (operation : Operation)
    (hbuild : P (.call (.build operation.object.handle)))
    (hleft : ∀ left, P (.call (.unrefOutputs left)) ∧ P (.call (.unref left))) :
    operation.build.run.Asks P := by
  apply (asks_of (hQ .table trivial)).then
  intro table
  cases table with
  | none => exact (objectRelease_asks (inquiry_of hQ) (hleft _).2).then fun _ => trivial
  | some table =>
    apply (asks_of hbuild).then
    rintro ⟨status, left⟩
    dsimp only
    split
    · exact (takeError_asks hQ).then fun _ => (asks_of (hleft left).1).then fun _ =>
        (asks_of (hleft left).2).then fun _ => trivial
    · rcases left with _ | handle <;> trivial

/-! ## Whole operations -/

theorem firstImage_asks (outputs : List Output) : (Operation.firstImage outputs).run.Asks P := by
  unfold Operation.firstImage
  split <;> trivial

section

variable (hP : ∀ q : Request, q.Operating → P q)
include hP

theorem assign_asks (object : Object) (name : String) (v : Value) :
    (Property.set object name v).run.Asks P :=
  set_asks (fun q hq => hP q (operating_of_preparing q hq)) (fun _ _ => hP _ trivial) name v

theorem release_asks (object : Object) : object.release.Asks P :=
  objectRelease_asks (fun q hq => hP q (operating_of_question q (q.question_of_inquiry hq)))
    (hP _ trivial)

theorem setAll_asks (operation : Operation) (inputs : List (String × Argument))
    (h : ∀ input ∈ inputs, input.2.toValue.run.Asks P) :
    (operation.setAll inputs).run.Asks P := by
  induction inputs with
  | nil => trivial
  | cons input rest ih =>
    obtain ⟨name, argument⟩ := input
    have hset : (operation.set name argument).run.Asks P := by
      refine (h _ (List.mem_cons_self ..)).try fun v =>
        (assign_asks hP operation.object name v).closedBy ?_
      exact valueRelease_asks (inquiry_of fun q hq => hP q (operating_of_question q hq))
        (hP _ trivial)
    exact hset.try fun _ => ih fun input hinput => h input (List.mem_cons_of_mem _ hinput)

theorem newOperation_asks (nickname : String) : (Operation.new nickname).run.Asks P := by
  have hQ (q : Request) (hq : q.Question) : P q := hP q (operating_of_question q hq)
  refine (requireTable_asks (inquiry_of hQ)).try fun _ => (nativeText_asks nickname).try fun text =>
    (asks_of (hP (.call (.operationNew text)) trivial)).then ?_
  intro handle
  cases handle with
  | none => exact (takeError_asks hQ).then fun _ => trivial
  | some handle => trivial

theorem prepare_asks (nickname : String) (inputs : List (String × Argument))
    (h : ∀ input ∈ inputs, input.2.toValue.run.Asks P) :
    (Operation.prepare nickname inputs).run.Asks P := by
  refine (newOperation_asks hP nickname).try fun operation =>
    ((setAll_asks hP operation inputs h).result).try ?_
  intro answer
  cases answer with
  | error failure => exact (release_asks hP operation.object).then fun _ => trivial
  | ok _ =>
    exact build_asks (fun q hq => hP q (operating_of_question q hq)) operation (hP _ trivial)
      fun _ => ⟨hP _ trivial, hP _ trivial⟩

theorem readAll_asks (operation : Operation) (outputs : List (String × Output)) :
    (operation.readAll outputs).Asks P := by
  induction outputs with
  | nil => trivial
  | cons output rest ih =>
    obtain ⟨name, output⟩ := output
    apply ((output_reads output name).mono fun q hq => hP q (operating_of_reading q hq)).bind
    intro answer
    cases answer with
    | error failure => trivial
    | ok found => exact ih.bind fun _ => trivial

theorem call_asks (nickname : String) (options : CallOptions)
    (h : ∀ input ∈ options.inputs, input.2.toValue.run.Asks P) :
    (Operation.call nickname options).Asks P := by
  refine (asks_of (hP (.log .debug _) trivial)).bind fun _ =>
    (prepare_asks hP nickname options.inputs h).bind ?_
  intro answer
  cases answer with
  | error failure => trivial
  | ok operation =>
    refine (readAll_asks hP operation options.outputs).bind fun _ => .bind ?_ fun _ =>
      (release_asks hP operation.object).bind fun _ => trivial
    exact (requireTable_asks (inquiry_of fun q hq => hP q (operating_of_question q hq))).try
      fun _ => (asks_of (hP (.call (.unrefOutputs (some operation.object.handle))) trivial)).lift

theorem callFor_asks (nickname : String) (options : CallOptions)
    (h : ∀ input ∈ options.inputs, input.2.toValue.run.Asks P) :
    (Operation.callFor nickname options).run.Asks P := by
  have hreleases (outputs : List Output) :
      (outputs.forM fun output => liftM output.release : Attempt Unit).run.Asks P := by
    induction outputs with
    | nil => trivial
    | cons output rest ih =>
      -- a release touches no property, so any object will do
      exact ((outputRelease_reads ⟨⟨nickname⟩⟩ output).mono
        fun q hq => hP q (operating_of_reading q hq)).then fun _ => ih
  apply (call_asks hP nickname options h).then
  rintro ⟨failure | _, outputs⟩
  · exact (hreleases outputs).try fun _ => trivial
  · trivial

theorem imageInput_asks (image : Image) : (Argument.image image).toValue.run.Asks P :=
  (ofObject_boxes image.object).mono fun q hq => hP q (operating_of_boxing q hq)

theorem tileCache_asks (image : Image) (options : TileOptions) :
    (tileCache image options).run.Asks P := by
  refine (callFor_asks hP "cache" (options.callOptions image) fun input hinput => ?_).try
    firstImage_asks
  rcases List.mem_cons.1 hinput with rfl | hinput
  · exact imageInput_asks hP image
  · obtain ⟨_, -, rfl⟩ := List.mem_map.1 hinput
    exact (tableThenFilled_boxes _ _).mono fun q hq => hP q (operating_of_boxing q hq)

end

end Program

end ImageGateway
