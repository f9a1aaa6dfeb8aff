-- The background of a run: requests that touch no property, no cell, no image
-- and nobody's references, and the parts of the gateway that ask nothing else,
-- while the library is loaded, set up and asked. Loading and asking keep to
-- smaller classes of their own.

import ImageGateway.Config
import ImageGateway.Foreign.Fetch
import ImageGateway.Foreign.Fill
import ImageGateway.Foreign.Start
import ImageGateway.Foreign.TileCache
import ImageGateway.Proofs.Questions

namespace ImageGateway

/-- A request to the loader, or a note about it. -/
def Request.Opening : Request → Prop
  | .openLibrary _ | .resolve _ _ | .log .debug _ => True
  | _ => False

/-- A request on the way to a published table. -/
def Request.Loading : Request → Prop
  | .table | .publish _ | .environment _ => True
  | q => q.Opening

/-- A request about the library as a whole, about what an object or a blob has, or an inquiry. It
leaves the messages that the library gathers where they are, or adds to them. -/
def Request.Steady : Request → Prop
  | .logs _ | .log .debug _ => True
  | .call (.start _) | .call .versionString | .call (.apply _) | .call (.read _) => True
  | .call (.error _ _ _) | .call (.errorSystem _ _ _ _) | .call (.blobGet _) => True
  | q => q.Inquiry

/-- A request to the loader, the environment or the log, about the library as a whole, about what an
object or a blob has, or a question. -/
def Request.Background : Request → Prop
  | .publish _ | .openLibrary _ | .resolve _ _ => True
  | .environment _ | .logs _ | .log _ _ | .print _ => True
  | .call (.findCodec _ _) | .call (.start _) | .call .versionString | .call (.apply _) => True
  | .call (.read _) | .call (.act _) | .call (.error _ _ _) | .call (.errorSystem _ _ _ _) => True
  | .call (.getArgument _ _) | .call (.blobGet _) => True
  | q => q.Question

namespace Request

theorem background_of_question (q : Request) (h : q.Question) : q.Background := by
  unfold Background
  split <;> trivial

theorem loading_of_opening (q : Request) (h : q.Opening) : q.Loading := by
  unfold Opening at h
  split at h <;> trivial

theorem background_of_loading (q : Request) (h : q.Loading) : q.Background := by
  unfold Loading Opening at h
  split at h <;> first | trivial | (split at h <;> trivial)

theorem steady_of_inquiry (q : Request) (h : q.Inquiry) : q.Steady := by
  unfold Steady
  split <;> trivial

theorem background_of_steady (q : Request) (h : q.Steady) : q.Background := by
  unfold Steady at h
  split at h <;> first | trivial | exact q.background_of_question (q.question_of_inquiry h)

end Request

variable {α : Type} {P : Request → Prop}

/-! ## The library as a whole -/

section

variable (hP : ∀ q : Request, q.Steady → P q)
include hP

theorem inquiry_of_steady (q : Request) (h : q.Inquiry) : P q := hP q (q.steady_of_inquiry h)

theorem asks_steady {q : Request} (h : q.Steady) : (Program.request q).Asks P :=
  Program.asks_request.2 (hP q h)

theorem onTable_asks : requireTable.run.Asks P := requireTable_asks (inquiry_of_steady hP)

theorem versionString_asks : Control.versionString.run.Asks P := by
  refine (onTable_asks hP).try fun _ =>
    (asks_steady hP (q := .call .versionString) trivial).then ?_
  intro version
  cases version <;> trivial

theorem apply_asks (setting : Setting) : (Control.apply setting).run.Asks P :=
  (onTable_asks hP).try fun _ => (asks_steady hP (q := .call (.apply setting)) trivial).lift

theorem read_asks (gauge : Gauge) : (Control.read gauge).run.Asks P :=
  (onTable_asks hP).try fun _ => (asks_steady hP (q := .call (.read gauge)) trivial).lift

theorem error_asks (domain message : String) : (Control.error domain message).run.Asks P :=
  (onTable_asks hP).try fun _ => (nativeText_asks domain).try fun domain =>
    (nativeText_asks message).try fun message =>
      (asks_steady hP (q := .call (.error domain .passThrough message)) trivial).lift

theorem errorSystem_asks (code : Int32) (domain message : String) :
    (Control.errorSystem code domain message).run.Asks P :=
  (onTable_asks hP).try fun _ => (nativeText_asks domain).try fun domain =>
    (nativeText_asks message).try fun message =>
      (asks_steady hP (q := .call (.errorSystem code domain .passThrough message)) trivial).lift

theorem applyAll_asks (settings : List Setting) :
    (settings.forM Control.apply : Attempt Unit).run.Asks P := by
  induction settings with
  | nil => trivial
  | cons setting rest ih => exact (apply_asks hP setting).try fun _ => ih

theorem currentLimits_asks : CacheLimits.current.run.Asks P :=
  (read_asks hP .cacheMax).try fun _ => (read_asks hP .cacheMaxMem).try fun _ =>
    (read_asks hP .cacheMaxFiles).try fun _ => trivial

theorem bytes_asks (blob : Blob) : blob.bytes.Asks P := by
  apply (asks_steady hP (q := .table) trivial).bind
  intro table
  cases table with
  | none => trivial
  | some table =>
    exact (asks_steady hP (q := .call (.blobGet blob.handle)) trivial).bind fun _ => trivial

theorem holds_asks (value : Value) (type : TypeId) : (value.holds type).run.Asks P :=
  (onTable_asks hP).try fun _ =>
    (asks_steady hP (q := .call (.isA value.type type)) trivial).then fun _ => trivial

/-- What is left of a start once the library has started. -/
theorem started_asks (config : Config) :
    (do
      if let some n := config.concurrency then Control.apply (.concurrency n)
      config.cache.apply
      if ← Program.request (.logs .debug) then
        let version ← Control.versionString
        logLine .debug ("libvips " ++ version ++ " started as " ++ config.programName)
      : Attempt Unit).run.Asks P := by
  have hcache : (do
      config.cache.apply
      if ← Program.request (.logs .debug) then
        let version ← Control.versionString
        logLine .debug ("libvips " ++ version ++ " started as " ++ config.programName)
      : Attempt Unit).run.Asks P := by
    refine (applyAll_asks hP config.cache.settings).try fun _ =>
      (asks_steady hP (q := .logs .debug) trivial).then fun logged => ?_
    split
    · exact (versionString_asks hP).try fun version =>
        (asks_steady hP (q := .log .debug _) trivial).lift
    · trivial
  dsimp only
  split
  · exact (apply_asks hP _).try fun _ => hcache
  · exact hcache

end

/-! ## The environment -/

/-- A thread count that cannot be read is warned about. -/
theorem concurrencyOf_asks
    (hwarn : ∀ text, P (.log .warn ("Ignoring VIPS_BRIDGE_CONCURRENCY: " ++ text)))
    (value : Option String) : (Config.concurrencyOf value).Asks P := by
  unfold Config.concurrencyOf
  split
  · trivial
  · split
    · trivial
    · exact (Program.asks_request.2 (hwarn _)).bind fun _ => trivial

section

variable (henv : ∀ name, P (.environment name))
include henv

theorem setting_asks (name : String) : (Config.setting? name).Asks P := by
  apply (Program.asks_request.2 (henv name)).bind
  intro bytes
  cases bytes <;> trivial

theorem pathsFromEnvironment_asks : LibraryPaths.fromEnvironment.Asks P :=
  (Program.asks_request.2 (henv "VIPS_LIBRARY_PATH")).bind fun _ =>
    (Program.asks_request.2 (henv "GOBJECT_LIBRARY_PATH")).bind fun _ => trivial

theorem fromEnvironment_asks
    (hwarn : ∀ text, P (.log .warn ("Ignoring VIPS_BRIDGE_CONCURRENCY: " ++ text))) :
    Config.fromEnvironment.Asks P :=
  (setting_asks henv "VIPS_BRIDGE_PROGRAM").bind fun _ =>
    (setting_asks henv "VIPS_BRIDGE_LEAK").bind fun _ =>
      (setting_asks henv "VIPS_BRIDGE_CONCURRENCY").bind fun value =>
        (concurrencyOf_asks hwarn value).bind fun _ =>
          (pathsFromEnvironment_asks henv).bind fun _ => trivial

end

/-! ## Loading -/

section

variable (hP : ∀ q : Request, q.Opening → P q)
include hP

theorem asks_opening {q : Request} (h : q.Opening) : (Program.request q).Asks P :=
  Program.asks_request.2 (hP q h)

theorem debug_asks (line : String) : (logLine .debug line).Asks P :=
  asks_opening hP (q := .log .debug line) trivial

theorem openNamed_asks (name : String) : (openNamed name).Asks P := by
  unfold openNamed
  split
  · trivial
  · exact asks_opening hP trivial

theorem openFirst_asks (library name : String) (others : List String) :
    (openFirst library name others).Asks P := by
  induction others generalizing name with
  | nil =>
    unfold openFirst
    apply (openNamed_asks hP name).bind
    intro answer
    cases answer with
    | error fault => trivial
    | ok opened => exact (debug_asks hP _).bind fun _ => trivial
  | cons next rest ih =>
    unfold openFirst
    apply (openNamed_asks hP name).bind
    intro answer
    cases answer with
    | error fault => exact ih next
    | ok opened => exact (debug_asks hP _).bind fun _ => trivial

theorem openLibrary_asks (library : String) (candidates : Candidates) :
    (openLibrary library candidates).run.Asks P := by
  apply (openFirst_asks hP library candidates.first candidates.others).then
  intro answer
  cases answer <;> trivial

theorem openAll_asks (paths : LibraryPaths) : paths.openAll.run.Asks P := by
  refine (openLibrary_asks hP _ _).try fun vips => ?_
  apply (openLibrary_asks hP "libgobject" paths.gobjectCandidates).then
  intro answer
  cases answer with
  | error failure => exact (debug_asks hP _).then fun _ => trivial
  | ok gobject => trivial

theorem resolve_asks (opened : Opened) (symbol : Symbol) :
    (opened.resolve symbol).run.Asks P := by
  apply (asks_opening hP (q := .resolve opened.vips symbol) trivial).then
  intro answer
  cases answer with
  | error fault =>
    obtain ⟨vips, _ | gobject⟩ := opened
    · trivial
    · apply (asks_opening hP (q := .resolve gobject symbol) trivial).then
      rintro (fault | _) <;> trivial
  | ok _ => trivial

theorem resolveAll_asks (opened : Opened) (symbols : List Symbol) :
    (opened.resolveAll symbols).run.Asks P := by
  induction symbols with
  | nil => trivial
  | cons symbol rest ih =>
    exact (resolve_asks hP opened symbol).try fun _ => ih.try fun _ => trivial

theorem open_asks (paths : LibraryPaths) : (Table.open paths).run.Asks P :=
  (openAll_asks hP paths).try fun opened =>
    (resolveAll_asks hP opened Symbol.all).try fun _ => trivial

end

section

variable (hP : ∀ q : Request, q.Loading → P q)
include hP

theorem opening_of_loading (q : Request) (h : q.Opening) : P q := hP q (q.loading_of_opening h)

theorem asks_loading {q : Request} (h : q.Loading) : (Program.request q).Asks P :=
  Program.asks_request.2 (hP q h)

theorem load_asks (paths : LibraryPaths) : (Control.load paths).run.Asks P := by
  have htable : (Table.load paths).run.Asks P := by
    apply (asks_loading hP (q := .table) trivial).then
    intro table
    cases table with
    | none =>
      exact (open_asks (opening_of_loading hP) paths).try fun table =>
        (asks_loading hP (q := .publish table) trivial).lift
    | some table => trivial
  exact htable.bind fun _ => trivial

theorem ensureLoaded_asks : Foreign.ensureLoaded.run.Asks P := by
  apply (asks_loading hP (q := .table) trivial).then
  intro table
  cases table with
  | none =>
    exact (pathsFromEnvironment_asks fun _ => hP _ trivial).then fun paths =>
      (load_asks hP paths).try fun _ => trivial
  | some table => trivial

end

/-! ## Starting -/

/-- What is left of a start once a table is published. -/
theorem starting_asks (hsteady : ∀ q : Request, q.Steady → P q) (herror : takeError.Asks P)
    (config : Config) :
    (do
      let program ← nativeText config.programName
      let status ← native (.start program)
      if status ≠ 0 then throw (.start (← takeError))
      if config.leakDetection then native (.apply (.leak true))
      if let some n := config.concurrency then Control.apply (.concurrency n)
      config.cache.apply
      if ← Program.request (.logs .debug) then
        let version ← Control.versionString
        logLine .debug ("libvips " ++ version ++ " started as " ++ config.programName)
      : Attempt Unit).run.Asks P := by
  refine (nativeText_asks _).try fun program =>
    (asks_steady hsteady (q := .call (.start program)) trivial).then fun status => ?_
  dsimp only
  split
  · exact herror.then fun _ => trivial
  · split
    · exact (asks_steady hsteady (q := .call (.apply (.leak true))) trivial).then fun _ =>
        started_asks hsteady config
    · exact started_asks hsteady config

theorem start_asks (hloading : ∀ q : Request, q.Loading → P q)
    (hsteady : ∀ q : Request, q.Steady → P q) (herror : takeError.Asks P) (config : Config) :
    (Control.start config).run.Asks P :=
  (load_asks hloading config.library).try fun _ => starting_asks hsteady herror config

/-- A codec that is not there leaves a message. -/
theorem findCodec_asks (hQ : ∀ q : Request, q.Question → P q) {direction : Direction}
    (hfind : ∀ name, P (.call (.findCodec direction name))) (filename : String) :
    (Control.findCodec direction filename).run.Asks P := by
  refine (requireTable_asks (inquiry_of hQ)).try fun _ => (nativeText_asks filename).try fun name =>
    (Program.asks_request.2 (hfind name)).then ?_
  intro nickname
  cases nickname with
  | none => exact (takeError_asks hQ).then fun _ => trivial
  | some nickname => trivial

section

variable (hP : ∀ q : Request, q.Background → P q)
include hP

theorem question_of (q : Request) (h : q.Question) : P q := hP q (q.background_of_question h)

theorem loading_of (q : Request) (h : q.Loading) : P q := hP q (q.background_of_loading h)

theorem steady_of (q : Request) (h : q.Steady) : P q := hP q (q.background_of_steady h)

theorem asks_background {q : Request} (h : q.Background) : (Program.request q).Asks P :=
  Program.asks_request.2 (hP q h)

theorem log_asks (level : Level) (line : String) : (logLine level line).Asks P :=
  asks_background hP (q := .log level line) trivial

/-! ## What touches the messages of the library -/

theorem errorBuffer_asks : Control.errorBuffer.run.Asks P :=
  (onTable_asks (steady_of hP)).try fun _ =>
    (asks_background hP (q := .call .errorBuffer) trivial).then fun _ => trivial

theorem act_asks (action : Action) : (Control.act action).run.Asks P :=
  (onTable_asks (steady_of hP)).try fun _ =>
    (asks_background hP (q := .call (.act action)) trivial).lift

theorem propertyInfo_asks (object : Object) (name : String) :
    (Property.argument object name).run.Asks P :=
  argument_asks (question_of hP) fun _ => hP _ trivial

/-! ## The frame of an entry point -/

theorem warn_asks (entry text : String) : (Foreign.warn entry text).Asks P := log_asks hP _ _

theorem borrowText_asks (entry : String) (text : Option CText) :
    (Foreign.borrowText entry text).Asks P := by
  rcases text with _ | text
  · exact (warn_asks hP _ _).bind fun _ => trivial
  · unfold Foreign.borrowText
    dsimp only
    split
    · trivial
    · exact (warn_asks hP _ _).bind fun _ => trivial

theorem borrowPairs_asks (entry : String) (pairs : List (Option CText × Int32)) :
    (Foreign.borrowPairs entry pairs).Asks P := by
  induction pairs with
  | nil => trivial
  | cons pair rest ih =>
    obtain ⟨_ | name, n⟩ := pair
    · trivial
    · apply (borrowText_asks hP entry (some name)).bind
      intro name
      cases name with
      | none => trivial
      | some name => exact ih.bind fun _ => trivial

theorem startForHost_asks (name : Option CText) : (Foreign.start name).Asks P := by
  refine (fromEnvironment_asks (fun _ => hP _ trivial) fun _ => hP _ trivial).bind fun config =>
    (start_asks (loading_of hP) (steady_of hP) (takeError_asks (question_of hP)) _).bind ?_
  intro answer
  cases answer with
  | error failure => exact (warn_asks hP _ _).bind fun _ => trivial
  | ok _ => trivial

end

end ImageGateway
