-- The settings that are in force after several starts. A setting that a
-- configuration may leave out keeps the value that it was given last. Leak reports
-- are switched on by any configuration, and none switches them off again.

import ImageGateway.Foreign.Start
import ImageGateway.Proofs.StartUp.Exits

namespace ImageGateway

open Program

/-! ## The settings in force -/

/-- The values that the library was given last. -/
structure InForce where
  leak : Bool
  concurrency : Int32
  cacheMax : Int32
  cacheMaxMem : UInt64
  cacheMaxFiles : Int32
  deriving DecidableEq, Repr

namespace InForce

def put (s : InForce) : Setting → InForce
  | .leak on => { s with leak := on }
  | .concurrency n => { s with concurrency := n }
  | .cacheMax n => { s with cacheMax := n }
  | .cacheMaxMem n => { s with cacheMaxMem := n }
  | .cacheMaxFiles n => { s with cacheMaxFiles := n }
  | _ => s

/-- What is in force after these settings. -/
def after (s : InForce) (settings : List Setting) : InForce := settings.foldl put s

@[simp] theorem after_nil (s : InForce) : s.after [] = s := rfl

@[simp] theorem after_cons (s : InForce) (setting : Setting) (settings : List Setting) :
    s.after (setting :: settings) = (s.put setting).after settings := rfl

theorem after_append (s : InForce) (first second : List Setting) :
    s.after (first ++ second) = (s.after first).after second := List.foldl_append

/-- One configuration: what it has is put in force, and the rest stays. -/
theorem after_settings (s : InForce) (config : Config) :
    s.after config.settings =
      ⟨s.leak || config.leakDetection, config.concurrency.getD s.concurrency,
        config.cache.maxOperations.getD s.cacheMax, config.cache.maxMem.getD s.cacheMaxMem,
        config.cache.maxFiles.getD s.cacheMaxFiles⟩ := by
  obtain ⟨-, -, leak, concurrency, ⟨maxOperations, maxMem, maxFiles⟩⟩ := config
  unfold Config.settings Config.limits
  cases leak <;> cases concurrency <;> cases maxOperations <;> cases maxMem <;> cases maxFiles <;>
    simp [put]

end InForce

/-! ## One start after the other -/

/-- The configuration with the name that a host has for itself. -/
def Config.under (config : Config) (name : Option CText) : Config :=
  name.elim config fun name => { config with programName := name.lossy }

/-- A start that went well, by the program or for a host. A host's configuration is what the
environment was found to hold. -/
inductive Starts : Config → Transcript → Prop where
  | program {config : Config} {events : Transcript}
      (hrun : (Control.start config).run.Runs events (.ok ())) : Starts config events
  | host {name : Option CText} {found : Config} {looks rest : Transcript}
      (hlooks : Config.fromEnvironment.Runs looks found)
      (hrun : (Foreign.start name).Runs (looks ++ rest) 0) :
    Starts (found.under name) (looks ++ rest)

/-- Starts that went well, one after the other, with their configurations, oldest first. -/
inductive StartsInTurn : List Config → Transcript → Prop where
  | none : StartsInTurn [] []
  | next {configs : List Config} {config : Config} {events more : Transcript}
      (h : StartsInTurn configs events) (hstart : Starts config more) :
    StartsInTurn (configs ++ [config]) (events ++ more)

/-- Two runs of one program on the same replies are the same, whatever comes afterwards. -/
theorem runs_append_unique {α : Type} {p : Program α} {a b : α}
    {first second other more : Transcript} (h : p.Runs first a) (h' : p.Runs other b)
    (heq : first ++ second = other ++ more) : first = other ∧ second = more ∧ a = b := by
  induction h generalizing other with
  | done a =>
    obtain ⟨rfl, rfl⟩ := runs_done_iff.1 h'
    exact ⟨rfl, heq, rfl⟩
  | ask r _ ih =>
    obtain ⟨r', rest, rfl, hrest⟩ := runs_ask_iff.1 h'
    obtain ⟨hevent, hafter⟩ := List.cons.inj heq
    cases hevent
    obtain ⟨rfl, rfl, rfl⟩ := ih hrest hafter
    exact ⟨rfl, rfl, rfl⟩

theorem fromEnvironment_calls {events : Transcript} {config : Config}
    (hrun : Config.fromEnvironment.Runs events config) : events.calls = [] :=
  calls_of_asks (fromEnvironment_asks (fun _ => nofun) fun _ => nofun) hrun

/-- A start for a host goes well only if the start of the library does. -/
theorem startForHost_done {name : Option CText} {events : Transcript}
    (hrun : (Foreign.start name).Runs events 0) :
    ∃ looks found rest, events = looks ++ rest ∧ Config.fromEnvironment.Runs looks found ∧
      (Control.start (found.under name)).run.Runs rest (.ok ()) := by
  obtain ⟨looks, started, found, rfl, hlooks, hstarted⟩ := runs_bind_iff.1 hrun
  obtain ⟨rest, last, answer, rfl, hstart, hlast⟩ := runs_bind_iff.1 hstarted
  cases answer with
  | error failure =>
    obtain ⟨_, _, _, -, -, hfailed⟩ := runs_bind_iff.1 hlast
    obtain ⟨-, ⟨⟩⟩ := runs_done_iff.1 hfailed
  | ok _ =>
    obtain ⟨rfl, -⟩ := runs_done_iff.1 hlast
    refine ⟨looks, found, rest, by rw [List.append_nil], hlooks, ?_⟩
    cases name <;> exact hstart

theorem Starts.settings {config : Config} {events : Transcript} (h : Starts config events) :
    events.settings = config.settings := by
  cases h with
  | program hrun => exact settings_of_start hrun
  | @host name found looks rest hlooks hrun =>
    obtain ⟨others, _, last, heq, hothers, hstart⟩ := startForHost_done hrun
    obtain ⟨rfl, rfl, rfl⟩ := runs_append_unique hlooks hothers heq
    rw [Transcript.settings, Transcript.calls_append, fromEnvironment_calls hlooks,
      List.nil_append]
    exact settings_of_start hstart

/-! ## What the starts leave -/

/-- The last value that one of the configurations has. -/
def latest {α : Type} (field : Config → Option α) (configs : List Config) : Option α :=
  configs.reverse.findSome? field

theorem latest_append {α : Type} (field : Config → Option α) (configs : List Config)
    (config : Config) :
    latest field (configs ++ [config]) = (field config).or (latest field configs) := by
  unfold latest
  rw [List.reverse_append, List.findSome?_append]
  simp

/-- One more configuration: its value, or the one in force before. -/
theorem getD_latest_append {α : Type} (field : Config → Option α) (configs : List Config)
    (config : Config) (before : α) :
    (latest field (configs ++ [config])).getD before =
      (field config).getD ((latest field configs).getD before) := by
  rw [latest_append]
  cases field config <;> rfl

/-- The settings in force after some starts. -/
structure LatestInForce (configs : List Config) (before now : InForce) : Prop where
  /-- Leak reports are on if they were, or if any configuration asked for them. -/
  leak : now.leak = (before.leak || configs.any Config.leakDetection)
  concurrency : now.concurrency = (latest Config.concurrency configs).getD before.concurrency
  cacheMax : now.cacheMax = (latest (·.cache.maxOperations) configs).getD before.cacheMax
  cacheMaxMem : now.cacheMaxMem = (latest (·.cache.maxMem) configs).getD before.cacheMaxMem
  cacheMaxFiles : now.cacheMaxFiles = (latest (·.cache.maxFiles) configs).getD before.cacheMaxFiles

theorem StartsInTurn.inForce {configs : List Config} {events : Transcript}
    (h : StartsInTurn configs events) (before : InForce) :
    LatestInForce configs before (before.after events.settings) := by
  induction h with
  | none => exact ⟨(Bool.or_false _).symm, rfl, rfl, rfl, rfl⟩
  | @next configs config events more _ hstart ih =>
    rw [Transcript.settings_append, InForce.after_append, hstart.settings, InForce.after_settings]
    constructor
    case leak =>
      rw [ih.leak, List.any_append]
      simp [Bool.or_assoc]
    case concurrency => rw [ih.concurrency, getD_latest_append]
    case cacheMax => rw [ih.cacheMax, getD_latest_append]
    case cacheMaxMem => rw [ih.cacheMaxMem, getD_latest_append]
    case cacheMaxFiles => rw [ih.cacheMaxFiles, getD_latest_append]

/-- After any number of starts each setting has the last value that a configuration has for it, but
leak reports stay on once they are on. They are as the last configuration has them unless it leaves
them out after one that asked for them. -/
theorem repeated_starts_make_the_latest_settings {configs : List Config} {events : Transcript}
    (h : StartsInTurn configs events) (before : InForce) :
    LatestInForce configs before (before.after events.settings) ∧
      ∀ earlier last, configs = earlier ++ [last] → before.leak = false →
        ((before.after events.settings).leak = last.leakDetection ↔
          (earlier.any Config.leakDetection = true → last.leakDetection = true)) := by
  refine ⟨h.inForce before, ?_⟩
  rintro earlier last rfl hbefore
  have hleak := (h.inForce before).leak
  rw [hbefore, Bool.false_or, List.any_append, List.any_cons, List.any_nil, Bool.or_false] at hleak
  rw [hleak]
  cases earlier.any Config.leakDetection <;> cases last.leakDetection <;> decide

/-! ## Leak reports that stay on -/

def withReports : Config := { programName := "p", leakDetection := true }

/-- A start of it on a library that is loaded. -/
def switchedOn : Transcript :=
  [⟨.table, some ⟨⟨"libvips.so.42"⟩, none, []⟩⟩, ⟨.call (.start (.cut [112])), 0⟩,
    ⟨.call (.apply (.leak true)), ()⟩, ⟨.logs .debug, false⟩]

def withoutReports : Config := { programName := "p" }

def leftOn : Transcript :=
  [⟨.table, some ⟨⟨"libvips.so.42"⟩, none, []⟩⟩, ⟨.call (.start (.cut [112])), 0⟩,
    ⟨.logs .debug, false⟩]

theorem switchedOn_starts : StartsInTurn [withReports] switchedOn :=
  .next .none (.program (.ask _ (.ask _ (.ask _ (.ask _ (.done _))))))

theorem reports_are_not_switched_off :
    ¬ ∀ (earlier : List Config) (last : Config) (events : Transcript) (before : InForce),
      StartsInTurn (earlier ++ [last]) events → before.leak = false →
        (before.after events.settings).leak = last.leakDetection := by
  intro h
  have hstarts : StartsInTurn ([withReports] ++ [withoutReports]) (switchedOn ++ leftOn) :=
    switchedOn_starts.next (.program (.ask _ (.ask _ (.ask _ (.done _)))))
  exact absurd (h _ _ _ ⟨false, 1, 0, 0, 0⟩ hstarts rfl) (by decide)

/-- What a host finds in the environment. -/
def twoThreads : Transcript :=
  [⟨.environment "VIPS_BRIDGE_PROGRAM", none⟩, ⟨.environment "VIPS_BRIDGE_LEAK", none⟩,
    ⟨.environment "VIPS_BRIDGE_CONCURRENCY", some [50]⟩, ⟨.environment "VIPS_LIBRARY_PATH", none⟩,
    ⟨.environment "GOBJECT_LIBRARY_PATH", none⟩]

/-- The start for the host. -/
def threadsSet : Transcript :=
  [⟨.table, some ⟨⟨"libvips.so.42"⟩, none, []⟩⟩, ⟨.call (.start (.cut [104])), 0⟩,
    ⟨.table, some ⟨⟨"libvips.so.42"⟩, none, []⟩⟩, ⟨.call (.apply (.concurrency 2)), ()⟩,
    ⟨.logs .debug, false⟩]

def hostConfig : Config := Config.under { concurrency := some 2 } (some (.cut [104]))

theorem a_host_sets_its_threads_and_leaves_the_reports_on :
    StartsInTurn [withReports, hostConfig] (switchedOn ++ (twoThreads ++ threadsSet)) ∧
      LatestInForce [withReports, hostConfig] ⟨false, 1, 50, 900, 7⟩ ⟨true, 2, 50, 900, 7⟩ := by
  have hlooks : Config.fromEnvironment.Runs twoThreads { concurrency := some 2 } :=
    .ask _ (.ask _ (.ask _ (.ask _ (.ask _ (.done _)))))
  have hrun : (Foreign.start (some (.cut [104]))).Runs (twoThreads ++ threadsSet) 0 :=
    .ask _ (.ask _ (.ask _ (.ask _ (.ask _ (.ask _ (.ask _ (.ask _ (.ask _ (.ask _
      (.done _))))))))))
  have hstarts :
      StartsInTurn [withReports, hostConfig] (switchedOn ++ (twoThreads ++ threadsSet)) :=
    switchedOn_starts.next (.host hlooks hrun)
  have hnow : InForce.after ⟨false, 1, 50, 900, 7⟩
      (switchedOn ++ (twoThreads ++ threadsSet)).settings = ⟨true, 2, 50, 900, 7⟩ := by decide
  obtain ⟨hlatest, -⟩ := repeated_starts_make_the_latest_settings hstarts ⟨false, 1, 50, 900, 7⟩
  rw [hnow] at hlatest
  exact ⟨hstarts, hlatest⟩

end ImageGateway
