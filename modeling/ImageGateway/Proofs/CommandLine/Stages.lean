-- The stages of the program. They are gone through in order up to the first that
-- fails. What is held then is given up, the newest image first, and nothing of a
-- later stage is done.

import Mathlib.Data.List.Forall2
import ImageGateway.Proofs.CallCompletion
import ImageGateway.Proofs.CommandLine.Arguments
import ImageGateway.Proofs.CommandLine.References
import ImageGateway.Proofs.Speech
import ImageGateway.Proofs.StartUp.Exits

namespace ImageGateway

open Program SpokenWatch

/-! ## Lines -/

namespace Transcript

/-- The lines for the user, oldest first. -/
def printed (events : Transcript) : List String :=
  events.filterMap fun e =>
    match e.request with
    | .print line => some line
    | _ => none

@[simp] theorem printed_append (first second : Transcript) :
    printed (first ++ second) = printed first ++ printed second := List.filterMap_append

theorem printed_spoken (events : Transcript) : events.spoken.printed = events.printed :=
  filterMap_spoken (fun _ => rfl) events

theorem printed_of_internal {events : Transcript} (h : ∀ e ∈ events, e.request.Internal) :
    events.printed = [] := by
  refine List.filterMap_eq_nil_iff.2 fun e he => ?_
  have hinternal := h e he
  split
  · rename_i hprint
    rw [hprint] at hinternal
    exact hinternal.elim
  · rfl

end Transcript

namespace CommandLine

variable {arguments : Arguments} {image : Image} {events said : Transcript}

/-- The line that tells of the success. -/
def wroteLine (output : String) (size : Int32) : String :=
  "Wrote " ++ output ++ " (" ++ toString size.toInt ++ " cached operations)"

def sizesLine (width height bands : Int32) : String :=
  "Input: " ++ toString width.toInt ++ "x" ++ toString height.toInt ++ " with "
    ++ toString bands.toInt ++ " bands"

/-! ## Stages -/

/-- The stages between the arguments and the last line. -/
inductive Stage where
  /-- The library is loaded and started as the environment says. -/
  | start
  /-- Its version is printed. -/
  | version
  | load
  /-- The sizes of the image are printed. -/
  | sizes
  | cache
  | save
  deriving DecidableEq

def stages : List Stage := [.start, .version, .load, .sizes, .cache, .save]

/-- A codec is looked for, and the one that is found is called. -/
inductive CodecCall (direction : Direction) (filename : String) (options : CallOptions) :
    Transcript → Except Failure Unit → List Output → Prop where
  | zeroByte {finding : Transcript} (hname : CText.ofString? filename = none)
      (hfinding : finding.spoken = []) :
    CodecCall direction filename options finding (.error (.zeroByte filename)) options.held
  | unfound {finding : Transcript} {name : CText} {buffer : Option CText}
      (hname : CText.ofString? filename = some name)
      (hfinding : finding.spoken = [⟨.call (.findCodec direction name), none⟩,
        ⟨.call .errorBuffer, buffer⟩, ⟨.call (.act .errorClear), ()⟩]) :
    CodecCall direction filename options finding
      (.error (.operation filename (pendingMessage buffer))) options.held
  | called {finding calling : Transcript} {name codec : CText} {line : String}
      {result : Except Failure Unit} {outputs : List Output}
      (hname : CText.ofString? filename = some name)
      (hfinding : finding.spoken = [⟨.call (.findCodec direction name), some codec⟩,
        ⟨.log .debug line, ()⟩])
      (hexit : Operation.Exit codec.lossy options calling result outputs) :
    CodecCall direction filename options (finding ++ calling) result outputs

/-- What a stage does with the images that are held, newest first, and what comes of it: the images
that are held after it, or its failure. -/
inductive Step (arguments : Arguments) :
    Stage → List Image → Transcript → Except Failure (List Image) → Prop where
  | start {reading starting : Transcript} {config : Config} {result : Except Failure Unit}
      (henvironment : Config.fromEnvironment.Runs reading config)
      (hexit : StartExit config starting result) (hprinted : (reading ++ starting).printed = []) :
    Step arguments .start [] (reading ++ starting) (result.map fun _ => [])
  | unversioned {events : Transcript}
      (hevents : events.spoken = [⟨.call .versionString, none⟩]) :
    Step arguments .version [] events (.error (.nullPointer .versionString))
  | version {events : Transcript} {version : CText}
      (hevents : events.spoken = [⟨.call .versionString, some version⟩,
        ⟨.print ("libvips " ++ version.lossy), ()⟩]) :
    Step arguments .version [] events (.ok [])
  | load {events : Transcript} {result : Except Failure Unit} {outputs : List Output}
      (hcall : CodecCall .load arguments.input
        ⟨[("filename", .text arguments.input)], [("out", .image none)]⟩ events result outputs)
      (hprinted : events.printed = []) :
    Step arguments .load [] events ((Operation.imageOf result outputs).map fun image => [image])
  | sizes {image : Image} {events : Transcript} {width height bands : Int32}
      (hevents : events.spoken = [⟨.call (.extent .width image.object.handle), width⟩,
        ⟨.call (.extent .height image.object.handle), height⟩,
        ⟨.call (.extent .bands image.object.handle), bands⟩,
        ⟨.print (sizesLine width height bands), ()⟩]) :
    Step arguments .sizes [image] events (.ok [image])
  /-- The image that was loaded is cached with the options of the command line. It is assigned
  first, and then the options that are there are, in this order. -/
  | cache {image : Image} {events : Transcript} {result : Except Failure Unit}
      {outputs : List Output}
      (hexit : Operation.Exit "cache"
        ⟨("in", .image image) :: (ifGiven "max_tiles" arguments.tiles.maxTiles ++
            ifGiven "tile_height" arguments.tiles.tileHeight ++
            ifGiven "tile_width" arguments.tiles.tileWidth),
          [("out", .image none)]⟩ events result outputs)
      (hprinted : events.printed = []) :
    Step arguments .cache [image] events
      ((Operation.imageOf result outputs).map fun cached => [cached, image])
  /-- The image that is saved is the cached one. -/
  | save {cached image : Image} {events : Transcript} {result : Except Failure Unit}
      {outputs : List Output}
      (hcall : CodecCall .save arguments.output
        ⟨[("in", .image cached), ("filename", .text arguments.output)], []⟩ events result outputs)
      (hprinted : events.printed = []) :
    Step arguments .save [cached, image] events (result.map fun _ => [cached, image])

/-- Stages in order, up to the first that fails, and then the closing, which hangs on the images
that are held at that point and on the failure. -/
inductive Course (arguments : Arguments)
    (Closed : List Image → Option Failure → Transcript → Prop) :
    List Stage → List Image → Transcript → Prop where
  | done {held : List Image} {closing : Transcript} (hclosed : Closed held none closing) :
    Course arguments Closed [] held closing
  | stopped {stage : Stage} {rest : List Stage} {held : List Image} {first closing : Transcript}
      {failure : Failure} (hstep : Step arguments stage held first (.error failure))
      (hclosed : Closed held (some failure) closing) :
    Course arguments Closed (stage :: rest) held (first ++ closing)
  | next {stage : Stage} {rest : List Stage} {held after : List Image} {first second : Transcript}
      (hstep : Step arguments stage held first (.ok after))
      (hrest : Course arguments Closed rest after second) :
    Course arguments Closed (stage :: rest) held (first ++ second)

/-- A course goes on after its closing. -/
theorem Course.append {Closed Closed' : List Image → Option Failure → Transcript → Prop}
    {list : List Stage} {held : List Image} {more : Transcript}
    (h : Course arguments Closed list held events)
    (hclosed : ∀ last failure closing, Closed last failure closing →
      Closed' last failure (closing ++ more)) :
    Course arguments Closed' list held (events ++ more) := by
  induction h with
  | done h => exact .done (hclosed _ _ _ h)
  | stopped hstep h =>
    rw [List.append_assoc]
    exact .stopped hstep (hclosed _ _ _ h)
  | next hstep _ ih =>
    rw [List.append_assoc]
    exact .next hstep ih

/-- An image is given up. -/
def givenUp (image : Image) : Event := ⟨.call (.unref (some image.object.handle)), ()⟩

/-- How an attempt at an image closes, where the images of `outer` are not its own. A failure gives
up all that is its own, and a success all but the answer. -/
inductive Closes (outer : List Image) (r : Except Failure Image) :
    List Image → Option Failure → Transcript → Prop where
  | stopped {own : List Image} {failure : Failure} {closing : Transcript}
      (hclosing : closing.spoken = own.map givenUp) (hr : r = .error failure) :
    Closes outer r (own ++ outer) (some failure) closing
  | gained {answer : Image} {own : List Image} {closing : Transcript}
      (hclosing : closing.spoken = own.map givenUp) (hr : r = .ok answer) :
    Closes outer r (answer :: own ++ outer) none closing

/-- Whoever owns one image more gives it up at last. -/
theorem Closes.append {outer held : List Image} {r : Except Failure Image}
    {failure : Option Failure} {closing more : Transcript}
    (h : Closes (image :: outer) r held failure closing) (hmore : more.spoken = [givenUp image]) :
    Closes outer r held failure (closing ++ more) := by
  have hspoken {own : List Image} (hclosing : closing.spoken = own.map givenUp) :
      (closing ++ more).spoken = (own ++ [image]).map givenUp := by
    rw [Transcript.spoken_append, hclosing, hmore, List.map_append]
    rfl
  cases h with
  | @stopped own _ _ hclosing hr =>
    have hstopped : Closes outer r (own ++ [image] ++ outer) _ _ := .stopped (hspoken hclosing) hr
    rwa [List.append_assoc] at hstopped
  | @gained answer own _ hclosing hr =>
    have hgained : Closes outer r (answer :: (own ++ [image]) ++ outer) _ _ :=
      .gained (hspoken hclosing) hr
    rwa [← List.cons_append, List.append_assoc] at hgained

/-- How the program ends. After a failure all that it holds is given up, and the failure is what it
complains of. After a success the images are given up, the cached one at last, the size of the
operation cache is asked for, and the last line is printed. -/
inductive Ending (arguments : Arguments) (exit : Exit) :
    List Image → Option Failure → Transcript → Prop where
  | stopped {held : List Image} {failure : Failure} {closing : Transcript}
      (hclosing : closing.spoken = held.map givenUp)
      (hexit : exit = ⟨1, "Error: " ++ failure.describe ++ "\n"⟩) :
    Ending arguments exit held (some failure) closing
  | finished {cached : Image} {held : List Image} {closing : Transcript} {size : Int32}
      (hclosing : closing.spoken = held.map givenUp ++ [givenUp cached,
        ⟨.call (.read .cacheSize), size⟩, ⟨.print (wroteLine arguments.output size), ()⟩])
      (hexit : exit = ⟨0, ""⟩) :
    Ending arguments exit (cached :: held) none closing

/-! ## The stages one by one -/

theorem extent_speaks {which : Extent} {r : Except Failure Int32}
    (h : (image.extent which).run.Speaks said r) :
    ∃ n, said = [⟨.call (.extent which image.object.handle), n⟩] ∧ r = .ok n := by
  obtain ⟨n, rfl, hn⟩ := speaks_lift (speaks_requireTable h)
  exact ⟨n, speaks_request (q := .call (.extent which image.object.handle)) (by simp) hn, rfl⟩

/-- One of the sizes, and what comes after it. -/
theorem speaks_extent {α : Type} {which : Extent} {f : Int32 → Attempt α} {r : Except Failure α}
    (h : (image.extent which >>= f).run.Speaks said r) :
    ∃ n rest, said = ⟨.call (.extent which image.object.handle), n⟩ :: rest ∧
      (f n).run.Speaks rest r := by
  obtain ⟨failure, hfailed, -⟩ | ⟨first, rest, _, rfl, hfirst, hrest⟩ := speaks_try h
  · obtain ⟨_, -, ⟨⟩⟩ := extent_speaks hfailed
  · obtain ⟨n, rfl, ⟨⟩⟩ := extent_speaks hfirst
    exact ⟨_, rest, rfl, hrest⟩

theorem showSizes_speaks {r : Except Failure Unit} (h : (showSizes image).run.Speaks said r) :
    r = .ok () ∧ ∃ width height bands : Int32,
      said = [⟨.call (.extent .width image.object.handle), width⟩,
        ⟨.call (.extent .height image.object.handle), height⟩,
        ⟨.call (.extent .bands image.object.handle), bands⟩,
        ⟨.print (sizesLine width height bands), ()⟩] := by
  obtain ⟨width, _, rfl, hwidth⟩ := speaks_extent h
  obtain ⟨height, _, rfl, hheight⟩ := speaks_extent hwidth
  obtain ⟨bands, _, rfl, hbands⟩ := speaks_extent hheight
  obtain ⟨_, rfl, hprint⟩ := speaks_lift hbands
  obtain rfl := speaks_request (q := .print (sizesLine width height bands)) (by simp) hprint
  exact ⟨rfl, width, height, bands, rfl⟩

theorem findCodec_speaks {direction : Direction} {filename : String} {r : Except Failure String}
    (h : (Control.findCodec direction filename).run.Speaks said r) :
    (CText.ofString? filename = none ∧ said = [] ∧ r = .error (.zeroByte filename)) ∨
      ∃ name, CText.ofString? filename = some name ∧
        ((∃ buffer, said = [⟨.call (.findCodec direction name), none⟩,
            ⟨.call .errorBuffer, buffer⟩, ⟨.call (.act .errorClear), ()⟩] ∧
            r = .error (.operation filename (pendingMessage buffer))) ∨
          ∃ codec, said = [⟨.call (.findCodec direction name), some codec⟩] ∧
            r = .ok codec.lossy) := by
  have hfind := speaks_requireTable h
  cases hname : CText.ofString? filename with
  | none =>
    obtain ⟨rfl, rfl⟩ := speaks_zeroByte hname hfind
    exact .inl ⟨rfl, rfl, rfl⟩
  | some name =>
    refine .inr ⟨name, rfl, ?_⟩
    obtain ⟨codec, rest, rfl, hrest⟩ := speaks_call (speaks_nativeText hname hfind)
    cases codec with
    | none =>
      obtain ⟨taken, last, message, rfl, htaken, hlast⟩ := speaks_then hrest
      obtain ⟨buffer, rfl, rfl⟩ := speaks_takeError htaken
      obtain ⟨rfl, rfl⟩ := speaks_done_iff.1 hlast
      exact .inl ⟨buffer, rfl, rfl⟩
    | some codec =>
      obtain ⟨rfl, rfl⟩ := speaks_done_iff.1 hrest
      exact .inr ⟨codec, rfl, rfl⟩

/-- A codec is looked for, logged and called, and its outputs are taken as they are. -/
theorem codecCall_runs {α : Type} {direction : Direction} {filename : String}
    {line : String → String} {options : CallOptions} {k : List Output → Attempt α}
    {made : List Output → Except Failure α} {r : Except Failure α}
    (hk : ∀ outputs, (k outputs).run = .done (made outputs))
    (hrun : (do
      let codec ← Control.findCodec direction filename
      logLine .debug (line codec)
      let outputs ← Operation.callFor codec options
      k outputs : Attempt α).run.Runs events r)
    (htable : events.Lasting true) (hone : options.outputs.length ≤ 1)
    (hempty : ∀ output ∈ options.held, output.release = .done ()) :
    ∃ result outputs, CodecCall direction filename options events result outputs ∧
      r = result.bind fun _ => made outputs := by
  rcases runs_try_iff.1 hrun with ⟨failure, hfinding, rfl⟩ |
    ⟨finding, rest, found, rfl, hfinding, hrest⟩
  · obtain ⟨hname, hsaid, ⟨⟩⟩ | ⟨name, hname, ⟨buffer, hsaid, ⟨⟩⟩ | ⟨_, -, ⟨⟩⟩⟩ :=
      findCodec_speaks (speaks_of_runs hfinding htable)
    · exact ⟨_, _, .zeroByte hname hsaid, rfl⟩
    · exact ⟨_, _, .unfound hname hsaid, rfl⟩
  · obtain ⟨htable, hlasting⟩ := Transcript.lasting_append_iff.1 htable
    obtain ⟨-, -, ⟨⟩⟩ | ⟨name, hname, ⟨_, -, ⟨⟩⟩ | ⟨codec, hsaid, ⟨⟩⟩⟩ :=
      findCodec_speaks (speaks_of_runs hfinding htable)
    obtain ⟨logging, calling, _, rfl, hlogging, hcalling⟩ := runs_then_iff.1 hrest
    obtain rfl := runs_request_iff.1 hlogging
    obtain ⟨result, outputs, hexit, hr⟩ := Operation.callThen_exits hk hcalling
      (Transcript.lasting_append_iff.1 hlasting).2 hone hempty
    refine ⟨result, outputs, ?_, hr⟩
    have hlogged : Transcript.spoken (finding ++ [⟨.log .debug (line codec.lossy), ()⟩]) =
        [⟨.call (.findCodec direction name), some codec⟩,
          ⟨.log .debug (line codec.lossy), ()⟩] := by
      rw [Transcript.spoken_append, hsaid]
      rfl
    rw [← List.append_assoc]
    exact .called hname hlogged hexit

theorem loadImage_steps {r : Except Failure Image}
    (hrun : (loadImage arguments.input).run.Runs events r) (htable : events.Lasting true) :
    Step arguments .load [] events (r.map fun image => [image]) := by
  have hprinted := Transcript.printed_of_internal
    ((loadImage_internal (fun _ => id) arguments.input).of_runs hrun)
  obtain ⟨result, outputs, hcall, rfl⟩ := codecCall_runs Operation.firstImage_run hrun htable
    (Nat.le_refl 1) (by simp [CallOptions.held]; rfl)
  rw [← Operation.imageOf_eq]
  exact .load hcall hprinted

theorem tileCache_steps {r : Except Failure Image}
    (hrun : (tileCache image arguments.tiles).run.Runs events r) (htable : events.Lasting true) :
    Step arguments .cache [image] events (r.map fun cached => [cached, image]) := by
  have hprinted := Transcript.printed_of_internal
    ((tileCache_internal (fun _ => id) image arguments.tiles).of_runs hrun)
  obtain ⟨result, outputs, hexit, rfl⟩ := Operation.imageCall_exits hrun htable (Nat.le_refl 1)
    (by simp [TileOptions.callOptions, CallOptions.held]; rfl)
  rw [TileOptions.callOptions_eq] at hexit
  exact .cache hexit hprinted

theorem saveImage_steps {cached : Image} {r : Except Failure Unit}
    (hrun : (saveImage cached arguments.output).run.Runs events r) (htable : events.Lasting true) :
    Step arguments .save [cached, image] events (r.map fun _ => [cached, image]) := by
  have hprinted := Transcript.printed_of_internal
    ((saveImage_internal (fun _ => id) cached arguments.output).of_runs hrun)
  have hpure (outputs : List Output) : (pure () : Attempt Unit).run = .done (.ok ()) := rfl
  obtain ⟨result, outputs, hcall, rfl⟩ := codecCall_runs hpure hrun htable (Nat.zero_le 1)
    (by simp [CallOptions.held])
  have hresult : (result.bind fun _ => .ok ()) = result := by cases result <;> rfl
  rw [hresult]
  exact .save hcall hprinted

/-! ## The course of the work -/

theorem release_runs {closing : Transcript} (hrun : image.release.Runs closing ())
    (htable : closing.Lasting true) : closing.spoken = [givenUp image] :=
  speaks_releaseObject (speaks_of_runs hrun htable)

theorem cacheAndSave_course {r : Except Failure Image}
    (hrun : (cacheAndSave image arguments).run.Runs events r) (htable : events.Lasting true) :
    Course arguments (Closes [image] r) [.cache, .save] [image] events := by
  rcases runs_try_iff.1 hrun with
    ⟨failure, hcache, rfl⟩ | ⟨caching, rest, cached, rfl, hcache, hrest⟩
  · have hclosed : Closes [image] (.error failure) ([] ++ [image]) (some failure) [] :=
      .stopped rfl rfl
    rw [← List.append_nil events]
    exact .stopped (tileCache_steps hcache htable) hclosed
  obtain ⟨hcaching, htable⟩ := Transcript.lasting_append_iff.1 htable
  refine .next (tileCache_steps hcache hcaching) ?_
  obtain ⟨saving, last, saved, rfl, hsave, hlast⟩ := runs_then_iff.1 hrest
  obtain ⟨hsaving, htable⟩ := Transcript.lasting_append_iff.1 htable
  have hstep : Step arguments .save [cached, image] saving (saved.map fun _ => [cached, image]) :=
    saveImage_steps hsave hsaving
  cases saved with
  | ok _ =>
    obtain ⟨rfl, rfl⟩ := runs_done_iff.1 hlast
    have hclosed : Closes [image] (.ok cached) (cached :: [] ++ [image]) none [] := .gained rfl rfl
    exact .next hstep (.done hclosed)
  | error failure =>
    obtain ⟨releasing, _, _, rfl, hrelease, hthrow⟩ := runs_then_iff.1 hlast
    obtain ⟨rfl, rfl⟩ := runs_done_iff.1 hthrow
    rw [List.append_nil] at htable ⊢
    have hclosed : Closes [image] (.error failure) ([cached] ++ [image]) (some failure) releasing :=
      .stopped (release_runs hrelease htable) rfl
    exact .stopped hstep hclosed

/-- From the load on the image is held, and whatever comes after it, it is given up at last. -/
theorem convert_course {r : Except Failure Image}
    (hrun : (convert arguments).run.Runs events r) (htable : events.Lasting true) :
    Course arguments (Closes [] r) [.load, .sizes, .cache, .save] [] events := by
  rcases runs_try_iff.1 hrun with ⟨failure, hload, rfl⟩ | ⟨loading, rest, image, rfl, hload, hrest⟩
  · have hclosed : Closes [] (.error failure) ([] ++ []) (some failure) [] := .stopped rfl rfl
    rw [← List.append_nil events]
    exact .stopped (loadImage_steps hload htable) hclosed
  obtain ⟨hloading, htable⟩ := Transcript.lasting_append_iff.1 htable
  refine .next (loadImage_steps hload hloading) ?_
  obtain ⟨converting, releasing, rfl, hconverting, hrelease⟩ := runs_closedBy_iff.1 hrest
  obtain ⟨htable, hreleasing⟩ := Transcript.lasting_append_iff.1 htable
  have hreleased := release_runs hrelease hreleasing
  rcases runs_try_iff.1 hconverting with
    ⟨failure, hsizes, -⟩ | ⟨showing, last, _, rfl, hsizes, hlast⟩
  · obtain ⟨⟨⟩, -⟩ := showSizes_speaks (speaks_of_runs hsizes htable)
  obtain ⟨hshowing, htable⟩ := Transcript.lasting_append_iff.1 htable
  obtain ⟨-, width, height, bands, hsaid⟩ := showSizes_speaks (speaks_of_runs hsizes hshowing)
  rw [List.append_assoc]
  refine .next (.sizes hsaid) ?_
  exact (cacheAndSave_course hlast htable).append fun _ _ _ hclosed => hclosed.append hreleased

theorem versionString_cases {r : Except Failure String}
    (hrun : Control.versionString.run.Runs events r) (htable : events.Lasting true) :
    (events.spoken = [⟨.call .versionString, none⟩] ∧ r = .error (.nullPointer .versionString)) ∨
      ∃ version, events.spoken = [⟨.call .versionString, some version⟩] ∧
        r = .ok version.lossy := by
  rcases versionString_runs hrun with
    ⟨-, hlost⟩ | ⟨table, ⟨rfl, rfl⟩ | ⟨version, rfl, rfl⟩⟩
  · exact absurd htable hlost
  · exact .inl ⟨rfl, rfl⟩
  · exact .inr ⟨version, rfl, rfl⟩

/-- The exit of the program when its work is done. -/
def exitOf : Except Failure Unit → Exit
  | .ok () => ⟨0, ""⟩
  | .error failure => ⟨1, "Error: " ++ failure.describe ++ "\n"⟩

/-- What is left of the work when the cached image is saved. -/
def finish (arguments : Arguments) (cached : Image) : Attempt Unit := do
  cached.release
  let size : Int32 ← Control.read .cacheSize
  printLine (wroteLine arguments.output size)

/-- What is left of the work when the library has started. -/
def workOnStarted (arguments : Arguments) : Attempt Unit := do
  let version ← Control.versionString
  printLine ("libvips " ++ version)
  let cached ← convert arguments
  finish arguments cached

theorem work_eq (arguments : Arguments) : work arguments = (do
    let config ← Config.fromEnvironment
    Control.start config
    workOnStarted arguments) := rfl

theorem finish_ends {cached : Image} {own : List Image} {closing finishing : Transcript}
    {r : Except Failure Unit} (hclosing : closing.spoken = own.map givenUp)
    (hrun : (finish arguments cached).run.Runs finishing r) (htable : finishing.Lasting true) :
    Ending arguments (exitOf r) (cached :: own) none (closing ++ finishing) := by
  obtain ⟨said, rest, _, hsaid, hrelease, hrest⟩ := speaks_then (speaks_of_runs hrun htable)
  obtain rfl := speaks_releaseObject hrelease
  rcases speaks_try hrest with ⟨failure, hread, -⟩ | ⟨reading, last, size, rfl, hread, hlast⟩
  · obtain ⟨_, ⟨⟩, -⟩ := speaks_lift (speaks_requireTable hread)
  obtain ⟨_, ⟨⟩, hsize⟩ := speaks_lift (speaks_requireTable hread)
  obtain rfl := speaks_request (q := .call (.read .cacheSize)) (by simp) hsize
  obtain ⟨_, rfl, hprint⟩ := speaks_lift hlast
  obtain rfl := speaks_request (q := .print (wroteLine arguments.output size)) (by simp) hprint
  have hspoken : (closing ++ finishing).spoken = own.map givenUp ++ [givenUp cached,
      ⟨.call (.read .cacheSize), size⟩, ⟨.print (wroteLine arguments.output size), ()⟩] := by
    rw [Transcript.spoken_append, hclosing, hsaid]
    rfl
  exact .finished hspoken rfl

/-- From the load on. What the conversion did not give up itself is the cached image, if there is
one. -/
theorem converted_course {r : Except Failure Unit}
    (hrun : (convert arguments >>= finish arguments).run.Runs events r)
    (htable : events.Lasting true) :
    Course arguments (Ending arguments (exitOf r)) [.load, .sizes, .cache, .save] [] events := by
  rcases runs_try_iff.1 hrun with
    ⟨failure, hconvert, rfl⟩ | ⟨converting, finishing, cached, rfl, hconvert, hfinish⟩
  · rw [← List.append_nil events]
    refine (convert_course hconvert htable).append fun held stop closing hclosed => ?_
    rw [List.append_nil]
    cases hclosed with
    | stopped hclosing hr =>
      cases hr
      rw [List.append_nil]
      exact .stopped hclosing rfl
    | gained _ hr => cases hr
  · obtain ⟨hconverting, hfinishing⟩ := Transcript.lasting_append_iff.1 htable
    refine (convert_course hconvert hconverting).append fun held stop closing hclosed => ?_
    cases hclosed with
    | stopped _ hr => cases hr
    | gained hclosing hr =>
      cases hr
      rw [List.append_nil]
      exact finish_ends hclosing hfinish hfinishing

/-- Before there is an image, a failure leaves nothing to give up. -/
theorem Course.stoppedEmpty {stage : Stage} {rest : List Stage} {failure : Failure}
    (hstep : Step arguments stage [] events (.error failure)) :
    Course arguments (Ending arguments (exitOf (.error failure))) (stage :: rest) [] events := by
  rw [← List.append_nil events]
  exact .stopped hstep (.stopped rfl rfl)

theorem started_course {r : Except Failure Unit}
    (hrun : (workOnStarted arguments).run.Runs events r) (htable : events.Lasting true) :
    Course arguments (Ending arguments (exitOf r)) [.version, .load, .sizes, .cache, .save] []
      events := by
  rcases runs_try_iff.1 hrun with
    ⟨failure, hversion, rfl⟩ | ⟨asking, printing, _, rfl, hversion, hprinting⟩
  · obtain ⟨hsaid, ⟨⟩⟩ | ⟨_, -, ⟨⟩⟩ := versionString_cases hversion htable
    exact .stoppedEmpty (.unversioned hsaid)
  obtain ⟨hasking, htable⟩ := Transcript.lasting_append_iff.1 htable
  obtain ⟨-, ⟨⟩⟩ | ⟨version, hsaid, ⟨⟩⟩ := versionString_cases hversion hasking
  obtain ⟨line, converting, _, rfl, hline, hconverting⟩ := runs_then_iff.1 hprinting
  obtain rfl := runs_request_iff.1 hline
  have hshown : Transcript.spoken (asking ++ [⟨.print ("libvips " ++ version.lossy), ()⟩]) =
      [⟨.call .versionString, some version⟩, ⟨.print ("libvips " ++ version.lossy), ()⟩] := by
    rw [Transcript.spoken_append, hsaid]
    rfl
  rw [← List.append_assoc]
  exact .next (.version hshown)
    (converted_course hconverting (Transcript.lasting_append_iff.1 htable).2)

/-- What the program does when its arguments are read. -/
theorem work_course {r : Except Failure Unit} (hrun : (work arguments).run.Runs events r)
    (htable : events.Lasting false) :
    Course arguments (Ending arguments (exitOf r)) stages [] events := by
  rw [work_eq] at hrun
  obtain ⟨reading, rest, config, rfl, hreading, hrest⟩ := runs_then_iff.1 hrun
  have hprinted {starting : Transcript} {started : Except Failure Unit}
      (hstart : (Control.start config).run.Runs starting started) :
      (reading ++ starting).printed = [] := by
    rw [Transcript.printed_append,
      Transcript.printed_of_internal ((fromEnvironment_internal fun _ => id).of_runs hreading),
      Transcript.printed_of_internal ((start_internal (fun _ => id) config).of_runs hstart)]
    rfl
  rcases runs_try_iff.1 hrest with
    ⟨failure, hstart, rfl⟩ | ⟨starting, later, _, rfl, hstart, hlater⟩
  · exact .stoppedEmpty (.start hreading (start_exits hstart) (hprinted hstart))
  -- a start that goes well was shown a table, which stays from then on
  obtain ⟨e, he, table, hshown⟩ := Caller.start_shown hstart nofun
  rw [← List.append_assoc] at htable ⊢
  exact .next (.start hreading (start_exits hstart) (hprinted hstart))
    (started_course hlater (lasting_of_shown htable ⟨e, List.mem_append_right _ he, hshown⟩))

/-! ## The lines of the stages -/

/-- How the line of a stage begins, if the stage prints one. -/
def Stage.heading? : Stage → Option String
  | .version => some "libvips "
  | .sizes => some "Input: "
  | _ => none

/-- The lines begin with these headings, one each. -/
def Heads (headings lines : List String) : Prop :=
  List.Forall₂ (fun heading line => ∃ rest, line = heading ++ rest) headings lines

/-- Whatever the headings, there are lines for them. -/
theorem heads_self (headings : List String) : Heads headings headings :=
  List.forall₂_same.2 fun _ _ => ⟨"", String.append_empty.symm⟩

theorem Step.printed_of_error {stage : Stage} {held : List Image} {failure : Failure}
    (h : Step arguments stage held events (.error failure)) : events.printed = [] := by
  generalize hresult : Except.error failure = result at h
  cases h with
  | start _ _ hprinted => exact hprinted
  | unversioned hevents =>
    rw [← Transcript.printed_spoken, hevents]
    rfl
  | version | sizes => cases hresult
  | load _ hprinted => exact hprinted
  | cache _ hprinted => exact hprinted
  | save _ hprinted => exact hprinted

/-- A stage that goes well prints its line. -/
theorem Step.printed_of_ok {stage : Stage} {held after : List Image}
    (h : Step arguments stage held events (.ok after)) :
    Heads stage.heading?.toList events.printed := by
  generalize hresult : Except.ok after = result at h
  have hquiet {events : Transcript} (hprinted : events.printed = []) :
      Heads [] events.printed := by
    rw [hprinted]
    exact .nil
  cases h with
  | start _ _ hprinted => exact hquiet hprinted
  | unversioned => cases hresult
  | version hevents =>
    rw [← Transcript.printed_spoken, hevents]
    exact .cons ⟨_, rfl⟩ .nil
  | load _ hprinted => exact hquiet hprinted
  | @sizes _ _ width height bands hevents =>
    rw [← Transcript.printed_spoken, hevents]
    have hline : ∃ rest, sizesLine width height bands = "Input: " ++ rest := by
      unfold sizesLine
      simp only [String.append_assoc]
      exact ⟨_, rfl⟩
    exact .cons hline .nil
  | cache _ hprinted => exact hquiet hprinted
  | save _ hprinted => exact hquiet hprinted

theorem printed_givenUp (images : List Image) :
    Transcript.printed (images.map givenUp) = [] := by
  induction images with
  | nil => rfl
  | cons image rest ih => exact ih

/-- Stages print their lines in order, and after the last of them, and then only, the last line is
printed. -/
theorem Course.printed {exit : Exit} {list : List Stage} {held : List Image}
    (h : Course arguments (Ending arguments exit) list held events) :
    (exit.status = 1 ∧ ∃ lines, Heads (list.filterMap Stage.heading?) lines ∧
        events.printed <+: lines) ∨
      (exit.status = 0 ∧ ∃ lines size, Heads (list.filterMap Stage.heading?) lines ∧
        events.printed = lines ++ [wroteLine arguments.output size]) := by
  induction h with
  | done hclosed =>
    cases hclosed with
    | @finished _ _ closing size hclosing hexit =>
      refine .inr ⟨by rw [hexit], [], size, .nil, ?_⟩
      rw [← Transcript.printed_spoken, hclosing, Transcript.printed_append, printed_givenUp]
      rfl
  | stopped hstep hclosed =>
    cases hclosed with
    | stopped hclosing hexit =>
      refine .inl ⟨by rw [hexit], _, heads_self _, ?_⟩
      rw [Transcript.printed_append, hstep.printed_of_error, ← Transcript.printed_spoken, hclosing,
        printed_givenUp]
      exact List.nil_prefix
  | @next stage rest held after first second hstep _ ih =>
    have hheads {lines : List String} (hlines : Heads (rest.filterMap Stage.heading?) lines) :
        Heads ((stage :: rest).filterMap Stage.heading?) (first.printed ++ lines) := by
      have hcons : (stage :: rest).filterMap Stage.heading? =
          stage.heading?.toList ++ rest.filterMap Stage.heading? := by
        cases stage <;> rfl
      rw [hcons]
      exact List.rel_append hstep.printed_of_ok hlines
    obtain ⟨hexit, lines, hlines, hprinted⟩ | ⟨hexit, lines, size, hlines, hprinted⟩ := ih
    · refine .inl ⟨hexit, _, hheads hlines, ?_⟩
      rw [Transcript.printed_append]
      exact (List.prefix_append_right_inj _).2 hprinted
    · refine .inr ⟨hexit, _, size, hheads hlines, ?_⟩
      rw [Transcript.printed_append, hprinted, List.append_assoc]

/-- Two lines are what the stages print. -/
theorem heads_stages {lines : List String} (h : Heads (stages.filterMap Stage.heading?) lines) :
    ∃ version sizes, lines = ["libvips " ++ version, "Input: " ++ sizes] := by
  cases h with
  | cons hversion hrest =>
    cases hrest with
    | cons hsizes hnone =>
      cases hnone
      obtain ⟨version, rfl⟩ := hversion
      obtain ⟨sizes, rfl⟩ := hsizes
      exact ⟨version, sizes, rfl⟩

/-- Neither of the two is the line that tells of the success. -/
theorem wroteLine_not_mem (output version sizes : String) (size : Int32) :
    wroteLine output size ∉ ["libvips " ++ version, "Input: " ++ sizes] := by
  have hother {heading rest : String} {c : Char} (hhead : heading.toList.head? = some c)
      (hc : c ≠ 'W') : wroteLine output size ≠ heading ++ rest := by
    intro h
    have hfirst : 'W' = c := by
      simpa [wroteLine, hhead] using congrArg (fun line => line.toList.head?) h
    exact hc hfirst.symm
  simp only [List.mem_cons, List.not_mem_nil, or_false, not_or]
  exact ⟨hother rfl (by decide), hother rfl (by decide)⟩

/-! ## The program -/

/-- What the program does with its arguments. -/
structure Conversion (arguments : Arguments) (events : Transcript) (exit : Exit) : Prop where
  /-- The stages are gone through up to the first that fails, and with that failure the program
  ends. -/
  course : Course arguments (Ending arguments exit) stages [] events
  stopped : exit.status ≠ 0 →
    (∃ version sizes, events.printed <+: ["libvips " ++ version, "Input: " ++ sizes]) ∧
      ∀ size, wroteLine arguments.output size ∉ events.printed
  finished : exit.status = 0 →
    ∃ version sizes size, events.printed =
      ["libvips " ++ version, "Input: " ++ sizes, wroteLine arguments.output size]
  /-- Each reference and each copy that was taken is given back, and not before it was taken. -/
  settled : ∀ x : Resource, ¬ x.OfCells →
    x.acquiredIn events = x.releasedIn events ∧
      ∀ first, first <+: events → x.releasedIn first ≤ x.acquiredIn first

theorem conversion_of_work {r : Except Failure Unit} (hrun : (work arguments).run.Runs events r)
    (htable : events.Lasting false) : Conversion arguments events (exitOf r) where
  course := work_course hrun htable
  stopped := by
    intro hstatus
    obtain ⟨-, lines, hlines, hprinted⟩ | ⟨hzero, -⟩ := (work_course hrun htable).printed
    · obtain ⟨version, sizes, rfl⟩ := heads_stages hlines
      exact ⟨⟨version, sizes, hprinted⟩, fun size hmem =>
        wroteLine_not_mem arguments.output version sizes size (hprinted.subset hmem)⟩
    · exact absurd hzero hstatus
  finished := by
    intro hstatus
    obtain ⟨hone, -⟩ | ⟨-, lines, size, hlines, hprinted⟩ := (work_course hrun htable).printed
    · rw [hstatus] at hone
      cases hone
    · obtain ⟨version, sizes, rfl⟩ := heads_stages hlines
      exact ⟨version, sizes, size, hprinted⟩
  settled := fun _ hx => work_settled hx hrun htable

/-- When its arguments are read, the program does its work, and its exit tells how that ended. -/
theorem run_of_parse {args : List (List UInt8)} (hparse : Arguments.parse args = .ok arguments) :
    run args = ((work arguments).run >>= fun r => pure (exitOf r)) := by
  unfold run
  rw [hparse]
  show ((work arguments).run >>= fun r => _) = _
  congr 1
  funext r
  cases r <;> rfl

end CommandLine

open CommandLine

/-- Whatever the paths, the options and the replies, the program goes through its stages in order
and stops at the first failure, which it ends with. It caches the image that it loaded, with the
options of the command line, and saves the image that this gave it. The last line is printed when
all is done, and then only, and on every way out each reference is given back. -/
theorem the_stages_end_with_the_first_failure (arguments : Arguments) :
    Arguments.parse (arguments.words.map Text.Utf8.encode) = .ok arguments ∧
      ∀ args events exit, Arguments.parse args = .ok arguments → (run args).Runs events exit →
        events.Lasting false → Conversion arguments events exit := by
  refine ⟨parse_words arguments, fun args events exit hparse hrun htable => ?_⟩
  rw [run_of_parse hparse] at hrun
  obtain ⟨working, last, r, rfl, hwork, hlast⟩ := runs_bind_iff.1 hrun
  obtain ⟨rfl, rfl⟩ := runs_done_iff.1 hlast
  rw [List.append_nil] at htable ⊢
  exact conversion_of_work hwork htable

namespace CommandLine

/-- The library starts. -/
def starting : Transcript :=
  let look : Event := Table.usual.shown
  [⟨.environment "VIPS_BRIDGE_PROGRAM", some [112]⟩, ⟨.environment "VIPS_BRIDGE_LEAK", none⟩,
    ⟨.environment "VIPS_BRIDGE_CONCURRENCY", none⟩, ⟨.environment "VIPS_LIBRARY_PATH", none⟩,
    ⟨.environment "GOBJECT_LIBRARY_PATH", none⟩, look, ⟨.call (.start (.cut [112])), 0⟩,
    ⟨.logs .debug, false⟩, look, ⟨.call .versionString, some (.cut [56])⟩, ⟨.print "libvips 8", ()⟩]

/-- The loader of the file is called. -/
def loading : Transcript :=
  let look : Event := Table.usual.shown
  [look, ⟨.call (.findCodec .load (.cut [97])), some (.cut [108])⟩] ++
    ([⟨.log .debug "loading a with l", ()⟩] ++
      Transcript.calling .usual "l" (.cut [108]) ⟨"load"⟩ ⟨"built load"⟩
        [.filled [look] .string (.string (.cut [97])) (.cut (Text.Utf8.encode "filename")) 6]
        (.fetchingImage .usual ⟨"built load"⟩ (.cut (Text.Utf8.encode "out")) ⟨2001⟩ 7 ⟨"image"⟩))

/-- The sizes of the image are shown. -/
def sizing : Transcript :=
  let look : Event := Table.usual.shown
  [look, ⟨.call (.extent .width ⟨"image"⟩), 640⟩, look, ⟨.call (.extent .height ⟨"image"⟩), 480⟩,
    look, ⟨.call (.extent .bands ⟨"image"⟩), 3⟩, ⟨.print (sizesLine 640 480 3), ()⟩]

/-- There is no saver for the file, and the cached image is given up. -/
def failing : Transcript :=
  let look : Event := Table.usual.shown
  [look, ⟨.call (.findCodec .save (.cut [98])), none⟩, ⟨.call .errorBuffer, none⟩,
    ⟨.call (.act .errorClear), ()⟩, look, ⟨.call (.unref (some ⟨"cached"⟩)), ()⟩]

/-- Some tiles of a width of their own. -/
def threeTiles : TileOptions := { maxTiles := some 3, tileWidth := some 64 }

/-- The image is loaded and cached, and the library has no saver. -/
def saverless : Transcript :=
  starting ++ (loading ++ (sizing ++
    (.cachingTiles .usual ⟨"image"⟩ ⟨"cached"⟩ ⟨2001⟩ threeTiles ++ failing) ++
      [Table.usual.shown, ⟨.call (.unref (some ⟨"image"⟩)), ()⟩]))

theorem saverless_lasting : saverless.Lasting false := by
  have hloading : loading.Lasting true := by
    refine Transcript.lasting_append_iff.2 ⟨?_, Transcript.lasting_append_iff.2 ⟨?_, ?_⟩⟩
    · simp [Table.shown, Transcript.Lasting, Resource.tableSeen]
    · simp [Transcript.Lasting]
    · refine Transcript.calling_lasting (List.forall_mem_singleton.2 ?_)
        Transcript.fetchingImage_lasting
      simp [Passing.filled, Table.shown, Transcript.Lasting, Resource.tableSeen]
  simp [saverless, starting, hloading, sizing, failing, Table.shown, Transcript.lasting_append_iff,
    Transcript.cachingTiles_lasting, Transcript.Lasting, Resource.tableSeen]

theorem saverless_runs : (work ⟨"a", "b", threeTiles⟩).run.Runs saverless
    (.error (.operation "b" "")) := by
  have hload : (loadImage "a").run.Runs loading (.ok ⟨⟨⟨"image"⟩⟩⟩) := by
    have hfind : (Control.findCodec .load "a").run.Runs
        [Table.usual.shown, ⟨.call (.findCodec .load (.cut [97])), some (.cut [108])⟩] (.ok "l") :=
      .ask _ (.ask _ (.done _))
    refine runs_after hfind (runs_then_iff.2 ⟨[_], _, (), rfl, .ask _ (.done _), ?_⟩)
    exact Operation.imageCall_completes rfl (.cons (Passing.text_carries rfl rfl) .nil) rfl
      (by decide)
  have hsizes : (showSizes ⟨⟨⟨"image"⟩⟩⟩).run.Runs sizing (.ok ()) :=
    .ask _ (.ask _ (.ask _ (.ask _ (.ask _ (.ask _ (.ask _ (.done _)))))))
  have hcache : (cacheAndSave ⟨⟨⟨"image"⟩⟩⟩ ⟨"a", "b", threeTiles⟩).run.Runs
      (.cachingTiles .usual ⟨"image"⟩ ⟨"cached"⟩ ⟨2001⟩ threeTiles ++ failing)
      (.error (.operation "b" "")) :=
    runs_after (tileCache_completes threeTiles (by decide) (by decide))
      (.ask _ (.ask _ (.ask _ (.ask _ (.ask _ (.ask _ (.done _)))))))
  have hrelease : (Image.release ⟨⟨⟨"image"⟩⟩⟩).Runs
      [Table.usual.shown, ⟨.call (.unref (some ⟨"image"⟩)), ()⟩] () := .ask _ (.ask _ (.done _))
  have hconvert : (convert ⟨"a", "b", threeTiles⟩).run.Runs _ (.error (.operation "b" "")) :=
    runs_after hload (runs_closedBy_iff.2 ⟨_, _, rfl, runs_after hsizes hcache, hrelease⟩)
  have hconverted : (convert ⟨"a", "b", threeTiles⟩ >>= finish ⟨"a", "b", threeTiles⟩).run.Runs _
      (.error (.operation "b" "")) := runs_try_iff.2 (.inl ⟨_, hconvert, rfl⟩)
  rw [work_eq]
  exact .ask _ (.ask _ (.ask _ (.ask _ (.ask _ (.ask _ (.ask _ (.ask _ (.ask _ (.ask _ (.ask _
    hconverted))))))))))

end CommandLine

/-- Without a saver the program ends at the last stage. It has cached the image with the two options
that are set, and it gives up the cached image and then the other one. -/
theorem a_missing_saver_gives_both_images_up :
    saverless.steps = [.create (CText.ofString? "l"),
        .assign ⟨"load"⟩ (CText.ofString? "filename"), .build ⟨"load"⟩,
        .fetch ⟨"built load"⟩ (CText.ofString? "out"), .clear (some ⟨"built load"⟩),
        .create (CText.ofString? "cache"), .assign ⟨"cache"⟩ (CText.ofString? "in"),
        .assign ⟨"cache"⟩ (CText.ofString? "max_tiles"),
        .assign ⟨"cache"⟩ (CText.ofString? "tile_width"), .build ⟨"cache"⟩,
        .fetch ⟨"built cache"⟩ (CText.ofString? "out"), .clear (some ⟨"built cache"⟩)] ∧
      saverless.calls.reverse.take 2 = [.unref (some ⟨"image"⟩), .unref (some ⟨"cached"⟩)] ∧
      Conversion ⟨"a", "b", threeTiles⟩ saverless
        ⟨1, "Error: " ++ (Failure.operation "b" "").describe ++ "\n"⟩ := by
  have hparse := parse_words ⟨"a", "b", threeTiles⟩
  have hrun : (run ((Arguments.words ⟨"a", "b", threeTiles⟩).map Text.Utf8.encode)).Runs saverless
      ⟨1, "Error: " ++ (Failure.operation "b" "").describe ++ "\n"⟩ := by
    rw [run_of_parse hparse]
    exact runs_bind_iff.2 ⟨saverless, [], _, (List.append_nil _).symm, saverless_runs, .done _⟩
  exact ⟨rfl, rfl, (the_stages_end_with_the_first_failure _).2 _ _ _ hparse hrun saverless_lasting⟩

end ImageGateway
