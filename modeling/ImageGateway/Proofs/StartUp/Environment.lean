-- The configuration that an environment asks for. Every field comes from the
-- variables that are its own, a variable that is unset, is not UTF-8 or cannot be
-- read leaves its field at the default, and only a thread count that cannot be read
-- is worth a log line.

import ImageGateway.Config
import ImageGateway.Proofs.Opening.Paths
import ImageGateway.Proofs.StartUp.Numerals

namespace ImageGateway

/-- The bytes of the variables that are set. -/
abbrev Environment := String → Option (List UInt8)

/-- The log lines of a run, oldest first. -/
def Transcript.logLines (events : Transcript) : List (Level × String) :=
  events.filterMap fun e =>
    match e.request with
    | .log level line => some (level, line)
    | _ => none

@[simp] theorem Transcript.logLines_append (first second : Transcript) :
    logLines (first ++ second) = logLines first ++ logLines second := List.filterMap_append

theorem Transcript.reads_append_iff {environment : Environment} {first second : Transcript} :
    (first ++ second).Reads environment ↔ first.Reads environment ∧ second.Reads environment := by
  constructor
  · intro h
    exact ⟨fun name bytes he => h name bytes (List.mem_append_left _ he),
      fun name bytes he => h name bytes (List.mem_append_right _ he)⟩
  · rintro ⟨hfirst, hsecond⟩ name bytes he
    exact (List.mem_append.1 he).elim (hfirst name bytes) (hsecond name bytes)

namespace Environment

variable {environment : Environment} {name s : String}

/-- The variable is set to the UTF-8 form of the text. -/
def Sets (environment : Environment) (name s : String) : Prop :=
  environment name = some (Text.Utf8.encode s)

/-- The text of a variable, if it is set and UTF-8. -/
def text? (environment : Environment) (name : String) : Option String :=
  (environment name).bind fun bytes => (Text.Utf8.decode bytes).toOption

theorem text?_eq_some_iff : environment.text? name = some s ↔ environment.Sets name s := by
  unfold text? Sets
  cases hbytes : environment name with
  | none => simp
  | some bytes =>
    rw [Option.bind_some, Option.some.injEq]
    constructor
    · intro h
      cases hdecode : Text.Utf8.decode bytes with
      | error fault => simp [hdecode, Except.toOption] at h
      | ok found =>
        obtain rfl : found = s := by simpa [hdecode, Except.toOption] using h
        exact (Text.Utf8.encode_of_decode hdecode).symm
    · rintro rfl
      rw [Text.Utf8.decode_encode]
      rfl

end Environment

namespace Config

variable {environment other : Environment} {events : Transcript}

/-! ## Switches and counts -/

/-- The words that switch something on. -/
def switches : List String := ["1", "true", "TRUE", "yes"]

/-- The text is a word that switches something on, with blanks around it or not. -/
def SwitchesOn (value : String) : Prop :=
  ∃ word ∈ switches, Text.Around word.toList value.toList

/-- The text is a decimal form of the number, with blanks around it or not. -/
def Denotes (value : String) (n : Int) : Prop :=
  ∃ cs, Text.Decimal cs n ∧ Text.Around cs value.toList

theorem isEnabled_iff {value : String} : isEnabled value = true ↔ SwitchesOn value := by
  have hbare : ∀ word ∈ switches, ∀ c ∈ word.toList, Text.isBlank c = false := by
    simp [switches, Text.isBlank]
  have hword {word : String} (h : word ∈ switches) :
      Text.trim value = word ↔ Text.Around word.toList value.toList := by
    rw [← Text.trim_eq_iff (hbare word h), String.toList_inj]
  unfold isEnabled SwitchesOn
  rw [List.contains_iff_mem]
  constructor
  · intro h
    exact ⟨_, h, (hword h).1 rfl⟩
  · rintro ⟨word, h, haround⟩
    rwa [(hword h).2 haround]

/-- The thread count that a text asks for. -/
def count? (value : String) : Option Int32 := (Text.readInt32 (Text.trim value)).toOption

theorem count?_eq_some_iff {value : String} {n : Int32} :
    count? value = some n ↔ Denotes value n.toInt := by
  apply Iff.trans _ Text.readInt32_trim_eq_ok_iff
  unfold count?
  cases Text.readInt32 (Text.trim value) <;> simp [Except.toOption]

/-- Every number of 32 bits is denoted by its own decimal form. -/
theorem denotes_of_around {value : String} {n : Int}
    (h : Text.Around (toString n).toList value.toList) : Denotes value n :=
  ⟨_, Text.decimal_toString n, h⟩

/-- A text that denotes no number of 32 bits gives no count. -/
theorem count?_eq_none {value : String}
    (h : ∀ m : Int, Denotes value m → ¬(-2 ^ 31 ≤ m ∧ m < 2 ^ 31)) : count? value = none :=
  Option.eq_none_iff_forall_ne_some.2 fun n hn =>
    h n.toInt (count?_eq_some_iff.1 hn) ⟨Int32.le_toInt n, Int32.toInt_lt n⟩

theorem count?_of_denotes {value : String} {m : Int} (h : Denotes value m) (hlow : -2 ^ 31 ≤ m)
    (hhigh : m < 2 ^ 31) : count? value = some (Int32.ofInt m) := by
  rw [count?_eq_some_iff, Int32.toInt_ofInt_of_le hlow hhigh]
  exact h

/-! ## One variable after the other -/

theorem setting?_runs {name : String} {r : Option String} (hrun : (setting? name).Runs events r)
    (hreads : events.Reads environment) :
    events.logLines = [] ∧ r = environment.text? name := by
  obtain ⟨look, rest, bytes, rfl, hlook, hrest⟩ := Program.runs_bind_iff.1 hrun
  obtain rfl := Program.runs_request_iff.1 hlook
  obtain rfl := hreads name bytes (by simp)
  unfold Environment.text?
  cases hname : environment name with
  | none =>
    rw [hname] at hrest
    obtain ⟨rfl, rfl⟩ := Program.runs_done_iff.1 hrest
    exact ⟨rfl, rfl⟩
  | some bytes =>
    rw [hname] at hrest
    obtain ⟨rfl, rfl⟩ := Program.runs_done_iff.1 hrest
    exact ⟨rfl, rfl⟩

/-- A count that cannot be read is logged, and nothing else is. -/
theorem concurrencyOf_runs {value : Option String} {r : Option Int32}
    (hrun : (concurrencyOf value).Runs events r) :
    r = value.bind count? ∧
      ((value = none ∨ r ≠ none) ∧ events.logLines = [] ∨
        value ≠ none ∧ r = none ∧ ∃ fault : Text.IntegerFault, events.logLines =
          [(.warn, "Ignoring VIPS_BRIDGE_CONCURRENCY: " ++ fault.message)]) := by
  cases value with
  | none =>
    obtain ⟨rfl, rfl⟩ := Program.runs_done_iff.1 hrun
    exact ⟨rfl, .inl ⟨.inl rfl, rfl⟩⟩
  | some value =>
    unfold concurrencyOf at hrun
    dsimp only at hrun
    rw [Option.bind_some]
    unfold count?
    cases hread : Text.readInt32 (Text.trim value) with
    | ok n =>
      rw [hread] at hrun
      obtain ⟨rfl, rfl⟩ := Program.runs_done_iff.1 hrun
      exact ⟨rfl, .inl ⟨.inr (by simp), rfl⟩⟩
    | error fault =>
      rw [hread] at hrun
      obtain ⟨logged, rest, _, rfl, hlogged, hrest⟩ := Program.runs_bind_iff.1 hrun
      obtain rfl := Program.runs_request_iff.1 hlogged
      obtain ⟨rfl, rfl⟩ := Program.runs_done_iff.1 hrest
      exact ⟨rfl, .inr ⟨by simp, rfl, fault, rfl⟩⟩

theorem paths_logLines {paths : LibraryPaths}
    (hrun : LibraryPaths.fromEnvironment.Runs events paths) : events.logLines = [] := by
  obtain ⟨first, rest, vips, rfl, hvips, hrest⟩ := Program.runs_bind_iff.1 hrun
  obtain ⟨second, last, gobject, rfl, hgobject, hlast⟩ := Program.runs_bind_iff.1 hrest
  obtain rfl := Program.runs_request_iff.1 hvips
  obtain rfl := Program.runs_request_iff.1 hgobject
  obtain ⟨rfl, -⟩ := Program.runs_done_iff.1 hlast
  rfl

/-! ## All variables -/

/-- The configuration that an environment asks for. -/
def told (environment : Environment) : Config :=
  let defaults : Config := { }
  { programName := (environment.text? "VIPS_BRIDGE_PROGRAM").getD defaults.programName
    library := LibraryPaths.told environment
    leakDetection := (environment.text? "VIPS_BRIDGE_LEAK").any isEnabled
    concurrency := (environment.text? "VIPS_BRIDGE_CONCURRENCY").bind count?
    cache := defaults.cache }

theorem fromEnvironment_told {config : Config} (hrun : fromEnvironment.Runs events config)
    (hreads : events.Reads environment) :
    config = told environment ∧
      ((environment.text? "VIPS_BRIDGE_CONCURRENCY" = none ∨ config.concurrency ≠ none) ∧
          events.logLines = [] ∨
        environment.text? "VIPS_BRIDGE_CONCURRENCY" ≠ none ∧ config.concurrency = none ∧
          ∃ fault : Text.IntegerFault, events.logLines =
            [(.warn, "Ignoring VIPS_BRIDGE_CONCURRENCY: " ++ fault.message)]) := by
  obtain ⟨naming, rest, name, rfl, hname, hrest⟩ := Program.runs_bind_iff.1 hrun
  obtain ⟨switching, rest, leak, rfl, hleak, hrest⟩ := Program.runs_bind_iff.1 hrest
  obtain ⟨asking, rest, value, rfl, hvalue, hrest⟩ := Program.runs_bind_iff.1 hrest
  obtain ⟨counting, rest, count, rfl, hcount, hrest⟩ := Program.runs_bind_iff.1 hrest
  obtain ⟨looking, rest, paths, rfl, hpaths, hrest⟩ := Program.runs_bind_iff.1 hrest
  obtain ⟨rfl, rfl⟩ := Program.runs_done_iff.1 hrest
  simp only [Transcript.reads_append_iff] at hreads
  obtain ⟨hnaming, hswitching, hasking, -, hlooking, -⟩ := hreads
  obtain ⟨hquietName, rfl⟩ := setting?_runs hname hnaming
  obtain ⟨hquietLeak, rfl⟩ := setting?_runs hleak hswitching
  obtain ⟨hquietValue, rfl⟩ := setting?_runs hvalue hasking
  obtain ⟨-, rfl⟩ := fromEnvironment_runs hpaths hlooking
  obtain ⟨rfl, hlines⟩ := concurrencyOf_runs hcount
  refine ⟨rfl, ?_⟩
  simpa [hquietName, hquietLeak, hquietValue, paths_logLines hpaths] using hlines

/-- What a configuration and the log lines have to do with the environment they come from. -/
structure FollowsFrom (environment : Environment) (config : Config)
    (lines : List (Level × String)) : Prop where
  /-- The name is the text of its variable. -/
  named : ∀ name, environment.Sets "VIPS_BRIDGE_PROGRAM" name → config.programName = name
  /-- Without a text it is the default. -/
  unnamed : (¬∃ name, environment.Sets "VIPS_BRIDGE_PROGRAM" name) →
    config.programName = ({ } : Config).programName
  leaks : config.leakDetection = true ↔
    ∃ value, environment.Sets "VIPS_BRIDGE_LEAK" value ∧ SwitchesOn value
  /-- The count is the number of 32 bits that the text denotes. -/
  counts : ∀ n, config.concurrency = some n ↔
    ∃ value, environment.Sets "VIPS_BRIDGE_CONCURRENCY" value ∧ Denotes value n.toInt
  /-- There is no count where no number of 32 bits is denoted. -/
  uncounted : config.concurrency = none ↔
    ∀ value, environment.Sets "VIPS_BRIDGE_CONCURRENCY" value →
      ∀ m : Int, Denotes value m → ¬(-2 ^ 31 ≤ m ∧ m < 2 ^ 31)
  /-- The decimal form of a number, between blanks, is read back. -/
  readBack : ∀ (n : Int32) value, Text.Around (toString n).toList value.toList →
    environment.Sets "VIPS_BRIDGE_CONCURRENCY" value → config.concurrency = some n
  /-- A text that denotes no number of 32 bits is worth one warning. -/
  warns : ∀ value, environment.Sets "VIPS_BRIDGE_CONCURRENCY" value →
    (∀ m : Int, Denotes value m → ¬(-2 ^ 31 ≤ m ∧ m < 2 ^ 31)) →
      ∃ fault : Text.IntegerFault,
        lines = [(.warn, "Ignoring VIPS_BRIDGE_CONCURRENCY: " ++ fault.message)]
  /-- Nothing else is worth a log line. -/
  quiet : (∀ value, environment.Sets "VIPS_BRIDGE_CONCURRENCY" value →
    ∃ m : Int, Denotes value m ∧ -2 ^ 31 ≤ m ∧ m < 2 ^ 31) → lines = []
  library : config.library = .told environment
  cache : config.cache = { }

/-- Each field is the same in two configurations if its own variables are the same in the two
environments that they come from. -/
structure FieldByField (environment other : Environment) (config config' : Config) : Prop where
  programName : environment "VIPS_BRIDGE_PROGRAM" = other "VIPS_BRIDGE_PROGRAM" →
    config.programName = config'.programName
  leakDetection : environment "VIPS_BRIDGE_LEAK" = other "VIPS_BRIDGE_LEAK" →
    config.leakDetection = config'.leakDetection
  concurrency : environment "VIPS_BRIDGE_CONCURRENCY" = other "VIPS_BRIDGE_CONCURRENCY" →
    config.concurrency = config'.concurrency
  vips : environment "VIPS_LIBRARY_PATH" = other "VIPS_LIBRARY_PATH" →
    config.library.vips = config'.library.vips
  gobject : environment "GOBJECT_LIBRARY_PATH" = other "GOBJECT_LIBRARY_PATH" →
    config.library.gobject = config'.library.gobject
  cache : config.cache = config'.cache

theorem told_concurrency_eq_some_iff {n : Int32} :
    (told environment).concurrency = some n ↔
      ∃ value, environment.Sets "VIPS_BRIDGE_CONCURRENCY" value ∧ Denotes value n.toInt := by
  show (environment.text? _).bind count? = some n ↔ _
  simp only [Option.bind_eq_some_iff, Environment.text?_eq_some_iff, count?_eq_some_iff]

theorem told_concurrency_eq_none_iff :
    (told environment).concurrency = none ↔
      ∀ value, environment.Sets "VIPS_BRIDGE_CONCURRENCY" value →
        ∀ m : Int, Denotes value m → ¬(-2 ^ 31 ≤ m ∧ m < 2 ^ 31) := by
  constructor
  · rintro hnone value hvalue m hm ⟨hlow, hhigh⟩
    have hcount : (told environment).concurrency = count? value := by
      show (environment.text? _).bind count? = _
      rw [Environment.text?_eq_some_iff.2 hvalue, Option.bind_some]
    rw [hcount, count?_of_denotes hm hlow hhigh] at hnone
    cases hnone
  · intro h
    show (environment.text? _).bind count? = none
    cases hvalue : environment.text? "VIPS_BRIDGE_CONCURRENCY" with
    | none => rfl
    | some value =>
      rw [Option.bind_some]
      exact count?_eq_none (h value (Environment.text?_eq_some_iff.1 hvalue))

theorem followsFrom {config : Config} (hrun : fromEnvironment.Runs events config)
    (hreads : events.Reads environment) : FollowsFrom environment config events.logLines := by
  obtain ⟨rfl, hlines⟩ := fromEnvironment_told hrun hreads
  constructor
  case named =>
    intro name hname
    show (environment.text? _).getD _ = name
    rw [Environment.text?_eq_some_iff.2 hname, Option.getD_some]
  case unnamed =>
    intro hnone
    show (environment.text? _).getD _ = _
    cases hname : environment.text? "VIPS_BRIDGE_PROGRAM" with
    | none => rfl
    | some name => exact absurd ⟨name, Environment.text?_eq_some_iff.1 hname⟩ hnone
  case leaks =>
    show (environment.text? _).any isEnabled = true ↔ _
    simp only [Option.any_eq_true, Environment.text?_eq_some_iff, isEnabled_iff]
  case counts => exact fun n => told_concurrency_eq_some_iff
  case uncounted => exact told_concurrency_eq_none_iff
  case readBack =>
    intro n value haround hvalue
    exact told_concurrency_eq_some_iff.2 ⟨value, hvalue, denotes_of_around haround⟩
  case warns =>
    intro value hvalue hno
    have htext := Environment.text?_eq_some_iff.2 hvalue
    have hnone : (told environment).concurrency = none := by
      refine told_concurrency_eq_none_iff.2 fun found hfound => ?_
      obtain rfl : found = value :=
        Option.some.inj ((Environment.text?_eq_some_iff.2 hfound).symm.trans htext)
      exact hno
    obtain ⟨hunset | hsome, -⟩ | ⟨-, -, hwarning⟩ := hlines
    · exact nomatch hunset.symm.trans htext
    · exact absurd hnone hsome
    · exact hwarning
  case quiet =>
    intro hall
    obtain ⟨-, hquiet⟩ | ⟨hset, hnone, -⟩ := hlines
    · exact hquiet
    · obtain ⟨value, htext⟩ := Option.ne_none_iff_exists'.1 hset
      have hvalue := Environment.text?_eq_some_iff.1 htext
      obtain ⟨m, hm, hrange⟩ := hall value hvalue
      exact absurd hrange (told_concurrency_eq_none_iff.1 hnone value hvalue m hm)
  case library => rfl
  case cache => rfl

theorem fieldByField : FieldByField environment other (told environment) (told other) := by
  have htext {name : String} (h : environment name = other name) :
      environment.text? name = other.text? name := by
    unfold Environment.text?
    rw [h]
  constructor
  case programName => exact fun h => congrArg (Option.getD · _) (htext h)
  case leakDetection => exact fun h => congrArg (Option.any isEnabled) (htext h)
  case concurrency => exact fun h => congrArg (Option.bind · count?) (htext h)
  case vips => exact congrArg (Option.map Path.mk)
  case gobject => exact congrArg (Option.map Path.mk)
  case cache => rfl

/-- In every environment a configuration is read, it follows from the environment as the variables
say, and no variable has a part in a field that is not its own. -/
theorem an_environment_settles_the_configuration (environment : Environment) :
    (∃ events config, fromEnvironment.Runs events config ∧ events.Reads environment) ∧
    ∀ events config, fromEnvironment.Runs events config → events.Reads environment →
      FollowsFrom environment config events.logLines ∧
      ∀ (other : Environment) events' config', fromEnvironment.Runs events' config' →
        events'.Reads other → FieldByField environment other config config' := by
  constructor
  · obtain ⟨events, config, hrun, -, hreads⟩ := fromEnvironment.exists_runs_answered
      ⟨fun _ => .error (.notOpened ""), fun _ _ => .error (.notExported "")⟩ environment
    exact ⟨events, config, hrun, hreads⟩
  · intro events config hrun hreads
    refine ⟨followsFrom hrun hreads, fun other events' config' hrun' hreads' => ?_⟩
    obtain ⟨rfl, -⟩ := fromEnvironment_told hrun hreads
    obtain ⟨rfl, -⟩ := fromEnvironment_told hrun' hreads'
    exact fieldByField

/-- A name that is not UTF-8, a word and a count between blanks, and nothing else. -/
def untidy : Environment
  | "VIPS_BRIDGE_PROGRAM" => some [255]
  | "VIPS_BRIDGE_LEAK" => some (Text.Utf8.encode "\u00a0TRUE ")
  | "VIPS_BRIDGE_CONCURRENCY" => some (Text.Utf8.encode "\t-2147483648\n")
  | _ => none

/-- The untidy environment asks for leak detection and for the least count there is. -/
theorem an_untidy_environment_is_read :
    ∃ events config, fromEnvironment.Runs events config ∧ events.Reads untidy ∧
      config.programName = "vips-bridge" ∧ config.leakDetection = true ∧
      config.concurrency = some (-2147483648) ∧ events.logLines = [] := by
  obtain ⟨⟨events, config, hrun, hreads⟩, hall⟩ := an_environment_settles_the_configuration untidy
  obtain ⟨hfollows, -⟩ := hall events config hrun hreads
  have hleast : Text.Around (toString (-2147483648 : Int32)).toList "\t-2147483648\n".toList :=
    ⟨['\t'], ['\n'], by decide, by simp [Text.isBlank], by simp [Text.isBlank]⟩
  have hvalue : untidy.Sets "VIPS_BRIDGE_CONCURRENCY" "\t-2147483648\n" := rfl
  refine ⟨events, config, hrun, hreads, hfollows.unnamed ?_, hfollows.leaks.2 ?_,
    hfollows.readBack _ _ hleast hvalue, hfollows.quiet ?_⟩
  · rintro ⟨name, hname⟩
    have hnone : untidy.text? "VIPS_BRIDGE_PROGRAM" = none := by decide
    rw [Environment.text?_eq_some_iff.2 hname] at hnone
    cases hnone
  · exact ⟨_, rfl, "TRUE", by decide, ['\u00a0'], [' '], by decide,
      by simp [Text.isBlank], by simp [Text.isBlank]⟩
  · intro value hset
    obtain rfl : "\t-2147483648\n" = value := Option.some.inj
      ((Environment.text?_eq_some_iff.2 hvalue).symm.trans (Environment.text?_eq_some_iff.2 hset))
    exact ⟨_, denotes_of_around hleast, by decide, by decide⟩

end Config

end ImageGateway
