-- How a start of the library ends. It loads, starts under its program name, makes
-- the settings one by one, and tells the version in the log, if lines of that
-- level are kept. Until the library has started no setting is made, and afterwards
-- all of them are made. But a version that is missing fails a start that is done.

import ImageGateway.Proofs.Background
import ImageGateway.Proofs.CallProtocol
import ImageGateway.Proofs.Publication.Answers

namespace ImageGateway

open Program

/-! ## Settings -/

/-- The limits of the operation cache that a configuration asks for. -/
def Config.limits (config : Config) : List Setting :=
  (config.cache.maxOperations.map Setting.cacheMax).toList ++
    (config.cache.maxMem.map Setting.cacheMaxMem).toList ++
    (config.cache.maxFiles.map Setting.cacheMaxFiles).toList

/-- The settings that a configuration asks for, in the order in which they are made. -/
def Config.settings (config : Config) : List Setting :=
  (if config.leakDetection then [.leak true] else []) ++
    ((config.concurrency.map Setting.concurrency).toList ++ config.limits)

def Call.setting? : Call → Option Setting
  | .apply setting => some setting
  | _ => none

namespace Transcript

/-- The settings that are made, oldest first. -/
def settings (events : Transcript) : List Setting := events.calls.filterMap Call.setting?

theorem settings_append (first second : Transcript) :
    settings (first ++ second) = settings first ++ settings second := by
  rw [settings, calls_append]
  exact List.filterMap_append

theorem settings_of_calls {events : Transcript} {c : Call} {made : List Setting} {more : List Call}
    (hcalls : events.calls = c :: made.map Call.apply ++ more) (hc : c.setting? = none)
    (hmore : more.filterMap Call.setting? = []) : events.settings = made := by
  have hmade : (made.map Call.apply).filterMap Call.setting? = made := by
    rw [List.filterMap_map]
    exact List.filterMap_some
  rw [settings, hcalls, List.filterMap_append, List.filterMap_cons_none hc, hmade, hmore,
    List.append_nil]

theorem settings_of_no_calls {events : Transcript} (h : events.calls = []) :
    events.settings = [] := by
  rw [settings, h]
  rfl

theorem mem_calls {events : Transcript} {c : Call} {r : c.Reply} (h : ⟨.call c, r⟩ ∈ events) :
    c ∈ events.calls := List.mem_filterMap.2 ⟨_, h, rfl⟩

end Transcript

/-! ## Once the library has started -/

/-- What is left of a start that makes these settings, and how it can end. -/
inductive SetUp (settings : List Setting) : Transcript → Except Failure Unit → Prop where
  | done {events : Transcript} {more : List Call}
      (hcalls : events.calls = settings.map Call.apply ++ more)
      (hmore : more = [] ∨ more = [.versionString])
      (hversion : ⟨.call .versionString, none⟩ ∉ events) : SetUp settings events (.ok ())
  /-- The settings are made, and then the version is missing for the log. -/
  | unversioned {events : Transcript}
      (hcalls : events.calls = settings.map Call.apply ++ [.versionString])
      (hlogs : ⟨.logs .debug, true⟩ ∈ events) (hversion : ⟨.call .versionString, none⟩ ∈ events) :
    SetUp settings events (.error (.nullPointer .versionString))
  /-- The table that was there is gone. -/
  | lost {events : Transcript} (h : ¬ events.Lasting true) :
    SetUp settings events (.error .notLoaded)

/-- However the attempt ends, these are the settings that it is to make. -/
def SetsUp (settings : List Setting) (p : Attempt Unit) : Prop :=
  ∀ events r, p.run.Runs events r → SetUp settings events r

variable {settings made : List Setting} {setting : Setting} {config : Config}
  {events first second : Transcript} {r : Except Failure Unit} {p : Attempt Unit}

theorem requireTable_cases (hrun : requireTable.run.Runs events r) :
    (∃ table, events = [⟨.table, some table⟩] ∧ r = .ok ()) ∨
      (events = [⟨.table, none⟩] ∧ r = .error .notLoaded) := by
  obtain ⟨look, rest, found, rfl, hlook, hrest⟩ := runs_then_iff.1 hrun
  obtain rfl := runs_request_iff.1 hlook
  cases found with
  | none =>
    obtain ⟨rfl, rfl⟩ := runs_done_iff.1 hrest
    exact .inr ⟨rfl, rfl⟩
  | some table =>
    obtain ⟨rfl, rfl⟩ := runs_done_iff.1 hrest
    exact .inl ⟨table, rfl, rfl⟩

theorem not_lasting_of_none : ¬ Transcript.Lasting true (⟨.table, none⟩ :: events) :=
  fun h => nomatch h.1 rfl rfl

/-- One setting is made, or the table is gone. -/
theorem apply_runs (hrun : (Control.apply setting).run.Runs events r) :
    (r = .ok () ∧ events.calls = [.apply setting]) ∨
      (r = .error .notLoaded ∧ ¬ events.Lasting true) := by
  rcases runs_try_iff.1 hrun with ⟨failure, hrequire, rfl⟩ | ⟨look, rest, _, rfl, hrequire, hrest⟩
  · obtain ⟨_, -, ⟨⟩⟩ | ⟨rfl, ⟨⟩⟩ := requireTable_cases hrequire
    exact .inr ⟨rfl, not_lasting_of_none⟩
  · obtain ⟨table, rfl, -⟩ | ⟨-, ⟨⟩⟩ := requireTable_cases hrequire
    obtain ⟨_, rfl, hcall⟩ := runs_lift_iff.1 hrest
    obtain rfl := runs_request_iff.1 hcall
    exact .inl ⟨rfl, rfl⟩

theorem SetUp.after (h : SetUp settings second r) (hmade : first.calls = made.map Call.apply) :
    SetUp (made ++ settings) (first ++ second) r := by
  have hversion : ⟨.call .versionString, none⟩ ∉ first := fun hmem => by
    have hcall := Transcript.mem_calls hmem
    rw [hmade] at hcall
    obtain ⟨_, -, ⟨⟩⟩ := List.mem_map.1 hcall
  cases h with
  | done hcalls hmore hnever =>
    refine .done ?_ hmore ?_
    · rw [Transcript.calls_append, hmade, hcalls, List.map_append, List.append_assoc]
    · exact fun hmem => (List.mem_append.1 hmem).elim hversion hnever
  | unversioned hcalls hlogs hnone =>
    refine .unversioned ?_ (List.mem_append_right _ hlogs) (List.mem_append_right _ hnone)
    rw [Transcript.calls_append, hmade, hcalls, List.map_append, List.append_assoc]
  | lost hlost => exact .lost fun h => hlost (Transcript.lasting_append_iff.1 h).2

namespace SetsUp

theorem apply (h : SetsUp settings p) :
    SetsUp (setting :: settings) (do Control.apply setting; p) := by
  intro events r hrun
  rcases runs_try_iff.1 hrun with ⟨failure, hfailed, rfl⟩ | ⟨first, second, _, rfl, hfirst, hsecond⟩
  · obtain ⟨⟨⟩, -⟩ | ⟨⟨⟩, hlost⟩ := apply_runs hfailed
    exact .lost hlost
  · obtain ⟨-, hcalls⟩ | ⟨⟨⟩, -⟩ := apply_runs hfirst
    exact (h second r hsecond).after (show _ = [setting].map Call.apply from hcalls)

theorem applyAll (made : List Setting) (h : SetsUp settings p) :
    SetsUp (made ++ settings) (do made.forM Control.apply; p) := by
  induction made with
  | nil => exact h
  | cons setting rest ih =>
    have hassoc : (do (setting :: rest).forM Control.apply; p : Attempt Unit) =
        (do Control.apply setting; rest.forM Control.apply; p) := bind_assoc _ _ _
    rw [hassoc]
    exact ih.apply

/-- The first setting is made without a look at the table. -/
theorem native (h : SetsUp settings p) :
    SetsUp (setting :: settings) (do ImageGateway.native (.apply setting); p) := by
  intro events r hrun
  obtain ⟨first, second, _, rfl, hfirst, hsecond⟩ := runs_then_iff.1 hrun
  obtain rfl := runs_request_iff.1 hfirst
  exact (h second r hsecond).after (show _ = [setting].map Call.apply from rfl)

end SetsUp

theorem versionString_runs {r : Except Failure String}
    (hrun : Control.versionString.run.Runs events r) :
    (r = .error .notLoaded ∧ ¬ events.Lasting true) ∨
      ∃ table, (events = [⟨.table, some table⟩, ⟨.call .versionString, none⟩] ∧
          r = .error (.nullPointer .versionString)) ∨
        ∃ version, events = [⟨.table, some table⟩, ⟨.call .versionString, some version⟩] ∧
          r = .ok version.lossy := by
  rcases runs_try_iff.1 hrun with ⟨failure, hrequire, rfl⟩ | ⟨look, rest, _, rfl, hrequire, hrest⟩
  · obtain ⟨_, -, ⟨⟩⟩ | ⟨rfl, ⟨⟩⟩ := requireTable_cases hrequire
    exact .inl ⟨rfl, not_lasting_of_none⟩
  · obtain ⟨table, rfl, -⟩ | ⟨-, ⟨⟩⟩ := requireTable_cases hrequire
    obtain ⟨asked, last, version, rfl, hasked, hlast⟩ := runs_then_iff.1 hrest
    obtain rfl := runs_request_iff.1 hasked
    refine .inr ⟨table, ?_⟩
    cases version with
    | none =>
      obtain ⟨rfl, rfl⟩ := runs_done_iff.1 hlast
      exact .inl ⟨rfl, rfl⟩
    | some version =>
      obtain ⟨rfl, rfl⟩ := runs_done_iff.1 hlast
      exact .inr ⟨version, rfl, rfl⟩

/-- What is left of a start when the settings are made: the version goes into the log, if lines of
its level are kept. -/
def Config.tellVersion (config : Config) : Attempt Unit := do
  if ← Program.request (.logs .debug) then
    let version ← Control.versionString
    logLine .debug ("libvips " ++ version ++ " started as " ++ config.programName)

theorem setsUp_nothing (config : Config) : SetsUp [] config.tellVersion := by
  intro events r hrun
  obtain ⟨asked, rest, logs, rfl, hasked, hrest⟩ := runs_then_iff.1 hrun
  obtain rfl := runs_request_iff.1 hasked
  cases logs with
  | false =>
    obtain ⟨rfl, rfl⟩ := runs_done_iff.1 hrest
    exact .done (List.append_nil _).symm (.inl rfl) (by simp)
  | true =>
    rcases runs_try_iff.1 hrest with ⟨failure, hfailed, rfl⟩ |
      ⟨told, logged, version, rfl, hversion, hlogged⟩
    · obtain ⟨⟨⟩, hlost⟩ | ⟨table, ⟨rfl, ⟨⟩⟩ | ⟨_, -, ⟨⟩⟩⟩ := versionString_runs hfailed
      · exact .lost fun h => hlost (Transcript.lasting_append_iff.1 h).2
      · exact .unversioned rfl (by simp) (by simp)
    · obtain ⟨⟨⟩, -⟩ | ⟨table, ⟨-, ⟨⟩⟩ | ⟨found, rfl, -⟩⟩ := versionString_runs hversion
      obtain ⟨_, rfl, hline⟩ := runs_lift_iff.1 hlogged
      obtain rfl := runs_request_iff.1 hline
      exact .done (show _ = _ ++ [Call.versionString] from rfl) (.inr rfl) (by simp)

theorem setsUp_limits : SetsUp config.limits (do
    config.cache.apply
    config.tellVersion) := by
  have h := (setsUp_nothing config).applyAll config.limits
  rw [List.append_nil] at h
  exact h

/-- What is left of a start when the library has started. -/
theorem setsUp_settings : SetsUp config.settings (do
    if config.leakDetection then ImageGateway.native (.apply (.leak true))
    if let some n := config.concurrency then Control.apply (.concurrency n)
    config.cache.apply
    config.tellVersion) := by
  have hrest : SetsUp ((config.concurrency.map Setting.concurrency).toList ++ config.limits) (do
        if let some n := config.concurrency then Control.apply (.concurrency n)
        config.cache.apply
        config.tellVersion) := by
    cases config.concurrency with
    | none => exact setsUp_limits
    | some n => exact setsUp_limits.apply
  unfold Config.settings
  cases config.leakDetection with
  | false => exact hrest
  | true => exact hrest.native

/-! ## The whole start -/

/-- How a start can end. -/
inductive StartExit (config : Config) : Transcript → Except Failure Unit → Prop where
  | unloaded {events : Transcript} {failure : Failure}
      (hload : (Control.load config.library).run.Runs events (.error failure)) :
    StartExit config events (.error failure)
  | zeroByte {events : Transcript} (hcalls : events.calls = [])
      (hzero : 0 ∈ Text.Utf8.encode config.programName) :
    StartExit config events (.error (.zeroByte config.programName))
  | refused {events : Transcript} {program : CText} {status : Int32} {message : String}
      (hcalls : events.calls = [.start program, .errorBuffer, .act .errorClear])
      (hstart : ⟨.call (.start program), status⟩ ∈ events) (hstatus : status ≠ 0) :
    StartExit config events (.error (.start message))
  | accepted {loading rest : Transcript} {program : CText} {table : Table}
      {r : Except Failure Unit} (hcalls : loading.calls = [])
      (htable : ∃ e ∈ loading, e.shown? = some table)
      (hprogram : program.bytes = Text.Utf8.encode config.programName)
      (hrest : SetUp config.settings rest r) :
    StartExit config (loading ++ ⟨.call (.start program), 0⟩ :: rest) r

/-- A program that asks for no native call makes none. -/
theorem calls_of_asks {α : Type} {p : Program α} {a : α} (hasks : p.Asks fun q => ∀ c, q ≠ .call c)
    (hrun : p.Runs events a) : events.calls = [] := by
  refine List.filterMap_eq_nil_iff.2 fun e he => ?_
  have hcall := hasks.of_runs hrun e he
  split
  · exact absurd ‹_› (hcall _)
  · rfl

theorem load_calls {paths : LibraryPaths} {r : Except Failure Table}
    (hrun : (Control.load paths).run.Runs events r) : events.calls = [] := by
  refine calls_of_asks (load_asks (fun q hq c => ?_) paths) hrun
  rintro rfl
  exact hq

/-- The name is passed as it is, if it has no zero byte. -/
theorem nativeText_cases {s : String} {r : Except Failure CText}
    (hrun : (nativeText s).run.Runs events r) : events = [] ∧
      ((0 ∈ Text.Utf8.encode s ∧ r = .error (.zeroByte s)) ∨
        ∃ text, text.bytes = Text.Utf8.encode s ∧ r = .ok text) := by
  unfold nativeText CText.ofString? at hrun
  by_cases hzero : 0 ∈ Text.Utf8.encode s
  · rw [dif_pos hzero] at hrun
    obtain ⟨rfl, rfl⟩ := runs_done_iff.1 hrun
    exact ⟨rfl, .inl ⟨hzero, rfl⟩⟩
  · rw [dif_neg hzero] at hrun
    obtain ⟨rfl, rfl⟩ := runs_done_iff.1 hrun
    exact ⟨rfl, .inr ⟨_, rfl, rfl⟩⟩

theorem start_exits (hrun : (Control.start config).run.Runs events r) :
    StartExit config events r := by
  rcases runs_try_iff.1 hrun with ⟨failure, hload, rfl⟩ | ⟨loading, rest, _, rfl, hload, hrest⟩
  · exact .unloaded hload
  have hcalls := load_calls hload
  obtain ⟨e, he, hshown⟩ := Caller.load_shown hload
  rcases runs_try_iff.1 hrest with
    ⟨failure, htext, rfl⟩ | ⟨_, starting, program, rfl, htext, hstarting⟩
  · obtain ⟨rfl, ⟨hzero, ⟨⟩⟩ | ⟨_, -, ⟨⟩⟩⟩ := nativeText_cases htext
    exact .zeroByte (by rw [List.append_nil, hcalls]) hzero
  · obtain ⟨rfl, ⟨-, ⟨⟩⟩ | ⟨_, hprogram, ⟨⟩⟩⟩ := nativeText_cases htext
    obtain ⟨asked, answered, status, rfl, hasked, hanswered⟩ := runs_then_iff.1 hstarting
    obtain rfl := runs_request_iff.1 hasked
    by_cases hstatus : status = 0
    · subst hstatus
      exact .accepted hcalls ⟨e, he, hshown⟩ hprogram (setsUp_settings _ _ hanswered)
    · dsimp only at hanswered
      rw [if_pos hstatus] at hanswered
      obtain ⟨taken, last, message, rfl, hmessage, hlast⟩ := runs_then_iff.1 hanswered
      obtain ⟨rfl, rfl⟩ := runs_done_iff.1 hlast
      have hstart : ⟨.call (.start program), status⟩ ∈
          loading ++ ([] ++ ([⟨.call (.start program), status⟩] ++ (taken ++ []))) := by simp
      refine .refused ?_ hstart hstatus
      simp [hcalls, takeError_calls hmessage]

/-- Why a start may fail: the load fails, the program name has a zero byte, or the library refuses
to start. -/
inductive Reason (config : Config) (events : Transcript) : Failure → Prop where
  | load (cause : LoadFailure)
      (h : (Control.load config.library).run.Runs events (.error (.load cause))) :
    Reason config events (.load cause)
  | zeroByte (h : 0 ∈ Text.Utf8.encode config.programName) :
    Reason config events (.zeroByte config.programName)
  | refused {program : CText} {status : Int32} (message : String)
      (hstart : ⟨.call (.start program), status⟩ ∈ events) (hstatus : status ≠ 0) :
    Reason config events (.start message)

/-- A start fails for a reason and makes no setting, or it goes well and makes all of them. -/
structure AllOrNone (config : Config) (events : Transcript) (result : Except Failure Unit) :
    Prop where
  failed : ∀ failure, result = .error failure →
    Reason config events failure ∧ events.settings = []
  /-- The library is started once, under the program name, and then the settings are made, each
  once. -/
  done : result = .ok () → ∃ program more, program.bytes = Text.Utf8.encode config.programName ∧
    events.calls = .start program :: config.settings.map Call.apply ++ more ∧
    (more = [] ∨ more = [.versionString])

/-- The library is started and the settings are made, and the start fails all the same, since the
version is missing for the log. -/
structure FailsDone (config : Config) (events : Transcript) (result : Except Failure Unit) :
    Prop where
  failed : result = .error (.nullPointer .versionString)
  logs : ⟨.logs .debug, true⟩ ∈ events
  done : ∃ program, program.bytes = Text.Utf8.encode config.programName ∧
    events.calls = .start program :: config.settings.map Call.apply ++ [.versionString]

theorem load_failure {paths : LibraryPaths} {failure : Failure}
    (hrun : (Control.load paths).run.Runs events (.error failure)) :
    ∃ cause, failure = .load cause := by
  obtain ⟨answer, -, hanswer⟩ := runs_adapt_iff.1 hrun
  cases answer with
  | ok table => cases hanswer
  | error cause => exact ⟨cause, Except.error.inj hanswer⟩

/-- A table that was shown stays. -/
theorem lasting_of_shown {table : Table} (h : (first ++ second).Lasting false)
    (hshown : ∃ e ∈ first, e.shown? = some table) : second.Lasting true := by
  obtain ⟨⟨q, r⟩, he, hshown⟩ := hshown
  have hseen : Resource.tableSeen q r = true := by
    cases q with
    | table => exact Option.isSome_iff_exists.2 ⟨table, hshown⟩
    | publish offered => rfl
    | _ => cases hshown
  have hany : first.any (fun e => Resource.tableSeen e.request e.reply) = true :=
    List.any_eq_true.2 ⟨_, he, hseen⟩
  have hrest := (Transcript.lasting_append.1 h).2
  rwa [hany] at hrest

theorem calls_of_accepted {loading rest : Transcript} {program : CText} {more : List Call}
    (hloading : loading.calls = []) (hrest : rest.calls = settings.map Call.apply ++ more) :
    (loading ++ ⟨.call (.start program), 0⟩ :: rest).calls =
      .start program :: settings.map Call.apply ++ more := by
  simp [hloading, hrest]

/-- A start that goes well makes the settings of its configuration. -/
theorem settings_of_start (hrun : (Control.start config).run.Runs events (.ok ())) :
    events.settings = config.settings := by
  cases start_exits hrun with
  | accepted hloading _ _ hrest =>
    cases hrest with
    | done hcalls hmore _ =>
      refine Transcript.settings_of_calls (calls_of_accepted hloading hcalls) rfl ?_
      rcases hmore with rfl | rfl <;> rfl

/-- A start that fails before the version is asked for has made no setting. -/
theorem allOrNone_of_failed {failure : Failure} (hreason : Reason config events failure)
    (hsettings : events.settings = []) (hversion : Call.versionString ∉ events.calls) :
    (⟨.call .versionString, none⟩ ∉ events → AllOrNone config events (.error failure)) ∧
      (⟨.call .versionString, none⟩ ∈ events → FailsDone config events (.error failure)) := by
  refine ⟨fun _ => ⟨?_, nofun⟩, fun h => absurd (Transcript.mem_calls h) hversion⟩
  rintro _ ⟨⟩
  exact ⟨hreason, hsettings⟩

/-- Unless the version is missing, a start makes all settings or none, and it fails only for a
reason. If the version is missing, the start is done and fails. -/
theorem a_start_makes_all_settings_or_none {config : Config} {events : Transcript}
    {result : Except Failure Unit} (hrun : (Control.start config).run.Runs events result)
    (htable : events.Lasting false) :
    (⟨.call .versionString, none⟩ ∉ events → AllOrNone config events result) ∧
      (⟨.call .versionString, none⟩ ∈ events → FailsDone config events result) := by
  cases start_exits hrun with
  | unloaded hload =>
    have hcalls := load_calls hload
    obtain ⟨cause, rfl⟩ := load_failure hload
    exact allOrNone_of_failed (.load cause hload) (Transcript.settings_of_no_calls hcalls)
      (by simp [hcalls])
  | zeroByte hcalls hzero =>
    exact allOrNone_of_failed (.zeroByte hzero) (Transcript.settings_of_no_calls hcalls)
      (by simp [hcalls])
  | @refused _ program _ message hcalls hstart hstatus =>
    have hnone : events.calls = .start program :: [].map Call.apply ++
        [.errorBuffer, .act .errorClear] := hcalls
    exact allOrNone_of_failed (.refused message hstart hstatus)
      (Transcript.settings_of_calls hnone rfl rfl) (by simp [hcalls])
  | @accepted loading rest program table _ hloading hshown hprogram hrest =>
    cases hrest with
    | done hcalls hmore hversion =>
      have hloaded : ⟨.call .versionString, none⟩ ∉ loading := fun h => by
        simpa [hloading] using Transcript.mem_calls h
      have hnever : ⟨.call .versionString, none⟩ ∉
          loading ++ ⟨.call (.start program), (0 : Int32)⟩ :: rest := by
        simp [hloaded, hversion]
      exact ⟨fun _ => ⟨nofun, fun _ =>
        ⟨program, _, hprogram, calls_of_accepted hloading hcalls, hmore⟩⟩, fun h => absurd h hnever⟩
    | unversioned hcalls hlogs hversion =>
      exact ⟨fun h => absurd (by simp [hversion]) h, fun _ =>
        ⟨rfl, by simp [hlogs], program, hprogram, calls_of_accepted hloading hcalls⟩⟩
    | lost hlost => exact absurd (lasting_of_shown htable hshown).2 hlost

/-- A configuration with a thread count and a limit. -/
def threeThreads : Config := { programName := "p", concurrency := some 3, cache.maxFiles := some 5 }

/-- A start of it on a library that is loaded, up to the version. -/
def started (version : Option CText) : Transcript :=
  let table : Event := ⟨.table, some ⟨⟨"libvips.so.42"⟩, none, []⟩⟩
  [table, ⟨.call (.start (.cut [112])), 0⟩, table, ⟨.call (.apply (.concurrency 3)), ()⟩,
    table, ⟨.call (.apply (.cacheMaxFiles 5)), ()⟩, ⟨.logs .debug, true⟩,
    table, ⟨.call .versionString, version⟩]

theorem started_lasting (version : Option CText) : (started version).Lasting false := by
  simp [started, Transcript.Lasting, Resource.tableSeen]

theorem started_runs : (Control.start threeThreads).run.Runs (started none)
    (.error (.nullPointer .versionString)) :=
  .ask _ (.ask _ (.ask _ (.ask _ (.ask _ (.ask _ (.ask _ (.ask _ (.ask _ (.done _)))))))))

/-- The start is done, and it is reported as a failure. -/
theorem a_start_can_fail_when_it_is_done :
    ¬ ∀ (config : Config) (events : Transcript) (result : Except Failure Unit),
      (Control.start config).run.Runs events result → events.Lasting false →
        AllOrNone config events result := by
  intro h
  have hsettings := ((h _ _ _ started_runs (started_lasting none)).failed _ rfl).2
  exact absurd hsettings (by decide)

/-- With a version the same start goes well. -/
def startedAs8 : Transcript :=
  started (some (.cut [56])) ++ [⟨.log .debug "libvips 8 started as p", ()⟩]

theorem threads_and_a_limit_are_set_once :
    (Control.start threeThreads).run.Runs startedAs8 (.ok ()) ∧
      AllOrNone threeThreads startedAs8 (.ok ()) ∧
      FailsDone threeThreads (started none) (.error (.nullPointer .versionString)) := by
  have hrun : (Control.start threeThreads).run.Runs startedAs8 (.ok ()) :=
    .ask _ (.ask _ (.ask _ (.ask _ (.ask _ (.ask _ (.ask _ (.ask _ (.ask _ (.ask _
      (.done _))))))))))
  have htable : startedAs8.Lasting false := by
    simp [startedAs8, started, Transcript.Lasting, Resource.tableSeen]
  have hversion : ⟨.call .versionString, none⟩ ∉ startedAs8 := by simp [startedAs8, started]
  have hmissing : ⟨.call .versionString, none⟩ ∈ started none := by simp [started]
  exact ⟨hrun, (a_start_makes_all_settings_or_none hrun htable).1 hversion,
    (a_start_makes_all_settings_or_none started_runs (started_lasting none)).2 hmissing⟩

end ImageGateway
