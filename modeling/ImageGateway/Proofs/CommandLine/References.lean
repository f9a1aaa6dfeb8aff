-- What the program takes it gives back. It holds a reference to each image that it
-- has and gives it up on every way out, and it leaves none in a slot.

import ImageGateway.CommandLine.Run
import ImageGateway.Proofs.Footprint
import ImageGateway.Proofs.ForeignReferences

namespace ImageGateway

/-- Any request but a line for the user and an image for a slot. -/
def Request.Internal : Request → Prop
  | .print _ | .fillSlot _ _ _ => False
  | _ => True

namespace Request

/-- Requests that are never a line or the filling of a slot are internal. -/
theorem internal_of {R : Request → Prop} (hprint : ∀ line, ¬ R (.print line))
    (hslot : ∀ c place image, ¬ R (.fillSlot c place image)) (q : Request) (h : R q) :
    q.Internal := by
  cases q with
  | print line => exact hprint line h
  | fillSlot c place image => exact hslot c place image h
  | _ => trivial

theorem internal_of_loading : ∀ q : Request, q.Loading → q.Internal :=
  internal_of (fun _ => id) fun _ _ _ => id

theorem internal_of_steady : ∀ q : Request, q.Steady → q.Internal :=
  internal_of (fun _ => id) fun _ _ _ => id

theorem internal_of_question : ∀ q : Request, q.Question → q.Internal :=
  internal_of (fun _ => id) fun _ _ _ => id

theorem internal_of_operating : ∀ q : Request, q.Operating → q.Internal :=
  internal_of (fun _ => id) fun _ _ _ => id

theorem slotless_of_internal : ∀ q : Request, q.Internal → q.Slotless :=
  slotless_of fun _ _ _ => id

end Request

theorem Resource.slottedIn_of_slotless {x : Resource} {events : Transcript}
    (h : ∀ e ∈ events, e.request.Slotless) : x.slottedIn events = 0 := by
  have hslotted {q : Request} (hq : q.Slotless) : x.slotted q = 0 := by
    unfold slotted
    split
    · exact hq.elim
    · rfl
  induction events with
  | nil => rfl
  | cons e events ih =>
    obtain ⟨he, hrest⟩ := List.forall_mem_cons.1 h
    rw [slottedIn_cons, hslotted he, ih hrest]

namespace CommandLine

open Program Request

/-! ## What the program asks for -/

/-- The sizes are asked for and printed. -/
theorem showSizes_asks {P : Request → Prop} {image : Image} (hI : ∀ q : Request, q.Inquiry → P q)
    (hextent : ∀ which, P (.call (.extent which image.object.handle)))
    (hprint : ∀ line, P (.print line)) : (showSizes image).run.Asks P := by
  have hasked (which : Extent) : (image.extent which).run.Asks P :=
    (requireTable_asks hI).try fun _ =>
      (asks_of (q := .call (.extent which image.object.handle)) (hextent which)).lift
  exact (hasked .width).try fun _ => (hasked .height).try fun _ => (hasked .bands).try fun _ =>
    (asks_of (q := .print _) (hprint _)).lift

section

variable {P : Request → Prop} (hP : ∀ q : Request, q.Internal → P q)
include hP

theorem fromEnvironment_internal : Config.fromEnvironment.Asks P :=
  fromEnvironment_asks (fun _ => hP _ trivial) fun _ => hP _ trivial

theorem start_internal (config : Config) : (Control.start config).run.Asks P :=
  start_asks (fun q hq => hP q (internal_of_loading q hq))
    (fun q hq => hP q (internal_of_steady q hq))
    (takeError_asks fun q hq => hP q (internal_of_question q hq)) config

/-- Looks for a codec, logs it and calls it. -/
theorem codecCall_internal {α : Type} {direction : Direction} {filename : String}
    {line : String → String} {options : CallOptions} {k : List Output → Attempt α}
    (hinputs : ∀ input ∈ options.inputs, input.2.toValue.run.Asks P)
    (hk : ∀ outputs, (k outputs).run.Asks P) :
    (do
      let codec ← Control.findCodec direction filename
      logLine .debug (line codec)
      let outputs ← Operation.callFor codec options
      k outputs : Attempt α).run.Asks P := by
  have hlog (text : String) : (logLine .debug text).Asks P :=
    asks_of (q := .log .debug text) (hP _ trivial)
  refine (findCodec_asks (fun q hq => hP q (internal_of_question q hq)) (fun _ => hP _ trivial)
    filename).try fun codec => (hlog _).then fun _ => ?_
  exact (callFor_asks (fun q hq => hP q (internal_of_operating q hq)) codec options hinputs).try hk

theorem textInput_internal (text : String) : (Argument.text text).toValue.run.Asks P :=
  (ofString_boxes text).mono fun q hq => hP q (internal_of_operating q (operating_of_boxing q hq))

theorem loadImage_internal (filename : String) : (loadImage filename).run.Asks P := by
  refine codecCall_internal hP (fun input hinput => ?_) firstImage_asks
  obtain rfl := List.mem_singleton.1 hinput
  exact textInput_internal hP filename

theorem tileCache_internal (image : Image) (options : TileOptions) :
    (tileCache image options).run.Asks P :=
  tileCache_asks (fun q hq => hP q (internal_of_operating q hq)) image options

theorem saveImage_internal (image : Image) (filename : String) :
    (saveImage image filename).run.Asks P := by
  refine codecCall_internal hP (fun input hinput => ?_) fun _ => trivial
  obtain rfl | hinput := List.mem_cons.1 hinput
  · exact imageInput_asks (fun q hq => hP q (internal_of_operating q hq)) image
  · obtain rfl := List.mem_singleton.1 hinput
    exact textInput_internal hP filename

theorem release_internal (object : Object) : object.release.Asks P :=
  release_asks (fun q hq => hP q (internal_of_operating q hq)) object

theorem convert_asks (hprint : ∀ line, P (.print line)) (arguments : Arguments) :
    (convert arguments).run.Asks P := by
  refine (loadImage_internal hP arguments.input).try fun image => .closedBy ?_
    (release_internal hP image.object)
  have hinquiry (q : Request) (hq : q.Inquiry) : P q :=
    hP q (internal_of_question q (q.question_of_inquiry hq))
  refine (showSizes_asks hinquiry (fun _ => hP _ trivial) hprint).try fun _ =>
    (tileCache_internal hP image arguments.tiles).try fun cached =>
      (saveImage_internal hP cached arguments.output).result.try fun saved => ?_
  cases saved with
  | error failure => exact (release_internal hP cached.object).then fun _ => trivial
  | ok _ => trivial

/-- Lines are all that the work asks for that is not internal. -/
theorem work_asks (hprint : ∀ line, P (.print line)) (arguments : Arguments) :
    (work arguments).run.Asks P := by
  have hsteady (q : Request) (hq : q.Steady) : P q := hP q (internal_of_steady q hq)
  have hline (line : String) : (printLine line).Asks P := asks_of (q := .print line) (hprint line)
  refine (fromEnvironment_internal hP).then fun config => (start_internal hP config).try fun _ =>
    (versionString_asks hsteady).try fun version => (hline _).then fun _ =>
      (convert_asks hP hprint arguments).try fun cached =>
        (release_internal hP cached.object).then fun _ =>
          (read_asks hsteady .cacheSize).try fun size => (hline _).lift

end

/-! ## Custody -/

open Resource

variable {x : Resource} {s : Standing}

theorem log_idle (level : Level) (line : String) : (logLine level line).Asks Idle :=
  log_asks idle_of_background level line

theorem print_idle (line : String) : (printLine line).Asks Idle :=
  asks_of (idle_of_background (.print line) trivial)

theorem findCodec_idle (direction : Direction) (filename : String) :
    (Control.findCodec direction filename).run.Asks Idle :=
  findCodec_asks (fun _ => idle_of_question) (fun _ => idle_of_background _ trivial) filename

theorem showSizes_idle (image : Image) : (showSizes image).run.Asks Idle :=
  showSizes_asks idle_of_inquiry (fun _ => ⟨⟨fun _ => rfl, fun _ _ => rfl⟩, rfl⟩) fun line =>
    idle_of_background (.print line) trivial

theorem loadImage_yields (filename : String) :
    x.Yields s (loadImage filename) fun i => x.one (.object i.object.handle) :=
  .look (findCodec_idle .load filename) fun loader _ => .look (log_idle _ _).lift fun _ _ =>
    imageCall_yields loader rfl

theorem saveImage_keeps (image : Image) (filename : String) :
    x.Keeps s (saveImage image filename) := by
  refine .look (findCodec_idle .save filename) fun saver _ => ?_
  refine .look (log_idle _ _).lift fun _ _ => ?_
  apply Watch.Tries.bind (callFor_tries saver _ rfl)
  rintro outputs t ⟨ht, hkinds, hmoves⟩
  obtain rfl : outputs = [] := List.map_eq_nil_iff.1 hkinds
  exact ⟨ht, trivial, hmoves⟩

/-- The cached image is held until it is saved, and then it is the answer. If it cannot be saved, it
is given up. -/
theorem cacheAndSave_yields (image : Image) (arguments : Arguments) :
    x.Yields s (cacheAndSave image arguments) fun i => x.one (.object i.object.handle) := by
  apply Watch.Tries.bind (tileCache_yields image arguments.tiles)
  rintro cached t ⟨ht, -, hmoves⟩
  refine (saveImage_keeps cached arguments.output).result ?_ ?_
  · rintro _ u ⟨hu, -, hsaved⟩
    exact ⟨hu, trivial, hmoves.trans hsaved⟩
  · intro failure u hfailed
    obtain rfl := hfailed.eq ht
    apply (releaseObject_ensures cached.object (.inl ht) hmoves.le).then
    intro _ v hv
    exact hmoves.back hv

theorem convert_yields (arguments : Arguments) :
    x.Yields s (convert arguments) fun i => x.one (.object i.object.handle) := by
  apply Watch.Tries.bind (loadImage_yields arguments.input)
  rintro image t ⟨ht, -, hmoves⟩
  have hrest : x.Yields t (do showSizes image; cacheAndSave image arguments : Attempt Image)
      fun i => x.one (.object i.object.handle) :=
    .look (showSizes_idle image) fun _ _ => cacheAndSave_yields image arguments
  exact Gives.closedBy hmoves ht hrest fun u hu hcount =>
    releaseObject_ensures image.object (.inl hu) hcount

/-- Whatever comes of the work, nothing is left of what it took. -/
theorem work_keeps (arguments : Arguments) :
    x.watch.Tries s (work arguments) (fun _ t => s.Moves t 0 0) fun _ t => s.Moves t 0 0 := by
  have hstart (config : Config) : (Control.start config).run.Asks Idle :=
    start_asks (loading_of idle_of_background) (steady_of idle_of_background) takeError_idle config
  have hsteady (q : Request) (hq : q.Steady) : Idle q := steady_of idle_of_background q hq
  have henv : Config.fromEnvironment.Asks Idle :=
    fromEnvironment_asks (fun _ => idle_of_background _ trivial)
      fun _ => idle_of_background _ trivial
  apply (ensures_idle henv).then
  intro config t ht
  refine tries_after_idle (hstart config) (fun _ _ hu => ht.trans hu) fun _ u hu => ?_
  refine tries_after_idle (versionString_asks hsteady) (fun _ _ hv => (ht.trans hu).trans hv)
    fun version v hv => ?_
  apply (ensures_idle (print_idle _)).then
  intro _ w hw
  have hbefore := ((ht.trans hu).trans hv).trans hw
  refine Watch.tries_bind.2 ((convert_yields arguments).mono ?_ fun _ _ h => hbefore.trans h)
  rintro cached a ⟨ha, -, hmoves⟩
  apply (releaseObject_ensures cached.object (.inl ha) hmoves.le).then
  intro _ b hb
  have hgiven := hbefore.trans (hmoves.back hb)
  refine tries_after_idle (read_asks hsteady .cacheSize) (fun _ _ hc => hgiven.trans hc)
    fun size c hc => ?_
  exact Watch.tries_lift.2 ((ensures_idle (print_idle _)).mono fun _ _ hd =>
    (hgiven.trans hc).trans hd)

/-- After the work every reference and every copy that was taken is given back, and none was given
back before it was taken. -/
theorem work_settled (hx : ¬ x.OfCells) {arguments : Arguments} {events : Transcript}
    {r : Except Failure Unit} {seen : Bool} (hrun : (work arguments).run.Runs events r)
    (htable : events.Lasting seen) :
    x.acquiredIn events = x.releasedIn events ∧
      ∀ first, first <+: events → x.releasedIn first ≤ x.acquiredIn first := by
  have hkeeps : x.watch.Ensures ⟨seen, 0, 0⟩ (work arguments).run fun _ t =>
      Standing.Moves ⟨seen, 0, 0⟩ t 0 0 := by
    apply Watch.Ensures.mono (work_keeps arguments)
    rintro (_ | _) t ht <;> exact ht
  have hbooks := books_of_runs hx hkeeps hrun htable
  have hslotless := (work_asks slotless_of_internal (fun _ => trivial) arguments).of_runs hrun
  refine ⟨?_, fun first hfirst => ?_⟩
  · have hbalance := hbooks.balance
    rw [slottedIn_of_slotless hslotless] at hbalance
    exact hbalance
  · exact Nat.le_trans (Nat.le_add_right _ _) (hbooks.covered first hfirst)

end CommandLine

end ImageGateway
