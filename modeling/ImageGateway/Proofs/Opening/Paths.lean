-- Explicit paths. The loader is asked for an explicit path and for nothing else,
-- whether the path comes from the environment or from the configuration. The name
-- it is asked for is the path, read leniently as a text: byte for byte the path if
-- that is UTF-8, and another name otherwise.

import ImageGateway.Proofs.LenientText
import ImageGateway.Proofs.Opening.Search

namespace ImageGateway

/-! ## The name of a path -/

namespace Path

/-- The bytes of the name under which a path is looked for. -/
def searched (path : Path) : List UInt8 := Text.Utf8.encode path.lossy

def IsText (path : Path) : Prop := ∃ s, Text.Utf8.decode path.bytes = .ok s

theorem searched_eq_iff (path : Path) : path.searched = path.bytes ↔ path.IsText :=
  Text.Utf8.encode_lossy_eq_iff

/-- Two paths that are texts are looked for under different names. -/
theorem eq_of_searched_eq {path other : Path} (hpath : path.IsText) (hother : other.IsText)
    (h : path.searched = other.searched) : path = other := by
  rw [(searched_eq_iff path).2 hpath, (searched_eq_iff other).2 hother] at h
  cases path
  exact congrArg Path.mk h

/-- A path without a zero byte can be passed to the loader. -/
theorem exists_passed {path : Path} (h : 0 ∉ path.bytes) :
    ∃ text, loaderName path.lossy = .ok text ∧ text.bytes = path.searched := by
  have hzero : 0 ∉ Text.Utf8.encode path.lossy := Text.Utf8.zero_not_mem_encode_lossy h
  have hlast : (Text.Utf8.encode path.lossy).getLast? ≠ some 0 := fun hlast =>
    hzero (List.mem_of_getLast? hlast)
  unfold loaderName
  rw [if_neg hlast, dif_neg hzero]
  exact ⟨_, rfl, rfl⟩

end Path

/-! ## One library -/

namespace Loader

variable {loader : Loader} {path : Path} (usual : Candidates)

/-- The names that are passed to the loader in a search. -/
def passed (loader : Loader) (names : List String) : List CText :=
  (loader.tried names).filterMap passedName

theorem passed_explicit (h : 0 ∉ path.bytes) :
    (loader.passed (LibraryPaths.candidates (some path) usual).toList).map CText.bytes =
      [path.searched] := by
  obtain ⟨text, htext, hbytes⟩ := Path.exists_passed h
  have htried : loader.tried [path.lossy] = [path.lossy] := by simp [tried]
  show ((loader.tried [path.lossy]).filterMap passedName).map CText.bytes = _
  rw [htried]
  simp [passedName, htext, Except.toOption, hbytes]

/-- What the loader has under the name of the path is found. -/
theorem first_explicit {name : CText} {library : Library} (h : 0 ∉ path.bytes)
    (hname : name.bytes = path.searched) (hlibrary : loader.library name = .ok library) :
    loader.first (LibraryPaths.candidates (some path) usual).toList = some library := by
  obtain ⟨text, htext, hbytes⟩ := Path.exists_passed h
  obtain rfl : name = text := by
    cases name
    cases text
    simp_all
  have hnamed : loader.named path.lossy = .ok library := by
    unfold named
    rw [htext]
    exact hlibrary
  exact first_cons_of_ok hnamed

end Loader

/-! ## Both libraries -/

namespace LibraryPaths

/-- The paths that an environment holds. -/
def told (environment : String → Option (List UInt8)) : LibraryPaths :=
  ⟨(environment "VIPS_LIBRARY_PATH").map Path.mk, (environment "GOBJECT_LIBRARY_PATH").map Path.mk⟩

/-- Opens the libraries that the environment names. -/
def openTold : Loading Opened := do
  let paths ← LibraryPaths.fromEnvironment
  paths.openAll

theorem vipsCandidates_of_some {paths : LibraryPaths} {path : Path} (h : paths.vips = some path) :
    ∃ usual, paths.vipsCandidates = candidates (some path) usual := by
  unfold vipsCandidates
  rw [h]
  exact ⟨_, rfl⟩

theorem gobjectCandidates_of_some {paths : LibraryPaths} {path : Path}
    (h : paths.gobject = some path) :
    ∃ usual, paths.gobjectCandidates = candidates (some path) usual := by
  unfold gobjectCandidates
  rw [h]
  exact ⟨_, rfl⟩

end LibraryPaths

/-- What an opening does with explicit paths. -/
structure UsesPaths (loader : Loader) (paths : LibraryPaths) (events : Transcript)
    (result : Except LoadFailure Opened) : Prop where
  /-- The loader is asked for the image library, then for the object system if the image library was
  found, and for nothing else. -/
  asked : events.asked = loader.passed paths.vipsCandidates.toList ++
    if (loader.first paths.vipsCandidates.toList).isSome then
      loader.passed paths.gobjectCandidates.toList
    else []
  /-- An explicit path is the only name that is passed. -/
  vips : ∀ path, paths.vips = some path → 0 ∉ path.bytes →
    (loader.passed paths.vipsCandidates.toList).map CText.bytes = [path.searched]
  gobject : ∀ path, paths.gobject = some path → 0 ∉ path.bytes →
    (loader.passed paths.gobjectCandidates.toList).map CText.bytes = [path.searched]
  /-- A library that can be opened under the name of the path is found. -/
  findsVips : ∀ path name library, paths.vips = some path → 0 ∉ path.bytes →
    name.bytes = path.searched → loader.library name = .ok library →
      ∃ opened, result = .ok opened ∧ opened.vips = library
  findsGobject : ∀ path name library, paths.gobject = some path → 0 ∉ path.bytes →
    name.bytes = path.searched → loader.library name = .ok library →
      ∀ opened, result = .ok opened → opened.gobject = some library

section

variable {loader : Loader} {paths : LibraryPaths} {events : Transcript}
  {result : Except LoadFailure Opened} {environment : String → Option (List UInt8)}

theorem usesPaths_of_opensBoth (h : Program.OpensBoth loader paths events.asked result) :
    UsesPaths loader paths events result := by
  generalize hasked : events.asked = asked at h
  constructor
  case asked =>
    rw [hasked]
    cases h with
    | notFound hnone =>
      rw [hnone]
      exact (List.append_nil _).symm
    | opened hvips =>
      rw [hvips]
      exact List.filterMap_append
  case vips =>
    intro path hpath hzero
    obtain ⟨usual, hcandidates⟩ := LibraryPaths.vipsCandidates_of_some hpath
    rw [hcandidates]
    exact Loader.passed_explicit usual hzero
  case gobject =>
    intro path hpath hzero
    obtain ⟨usual, hcandidates⟩ := LibraryPaths.gobjectCandidates_of_some hpath
    rw [hcandidates]
    exact Loader.passed_explicit usual hzero
  case findsVips =>
    intro path name library hpath hzero hname hlibrary
    obtain ⟨usual, hcandidates⟩ := LibraryPaths.vipsCandidates_of_some hpath
    have hfirst := Loader.first_explicit usual hzero hname hlibrary
    rw [← hcandidates] at hfirst
    cases h with
    | notFound hnone => exact nomatch hnone.symm.trans hfirst
    | opened hvips => exact ⟨_, rfl, Option.some.inj (hvips.symm.trans hfirst)⟩
  case findsGobject =>
    intro path name library hpath hzero hname hlibrary opened hopened
    obtain ⟨usual, hcandidates⟩ := LibraryPaths.gobjectCandidates_of_some hpath
    have hfirst := Loader.first_explicit usual hzero hname hlibrary
    rw [← hcandidates] at hfirst
    cases h with
    | notFound hnone => cases hopened
    | opened hvips =>
      cases hopened
      exact hfirst

theorem fromEnvironment_runs (hrun : LibraryPaths.fromEnvironment.Runs events paths)
    (hreads : events.Reads environment) :
    events.asked = [] ∧ paths = LibraryPaths.told environment := by
  obtain ⟨first, rest, vips, rfl, hvips, hrest⟩ := Program.runs_bind_iff.1 hrun
  obtain ⟨second, last, gobject, rfl, hgobject, hlast⟩ := Program.runs_bind_iff.1 hrest
  obtain rfl := Program.runs_request_iff.1 hvips
  obtain rfl := Program.runs_request_iff.1 hgobject
  obtain ⟨rfl, rfl⟩ := Program.runs_done_iff.1 hlast
  obtain rfl := hreads "VIPS_LIBRARY_PATH" vips (by simp)
  obtain rfl := hreads "GOBJECT_LIBRARY_PATH" gobject (by simp)
  exact ⟨rfl, rfl⟩

theorem openTold_runs (hrun : LibraryPaths.openTold.run.Runs events result)
    (hloader : loader.Answers events) (hreads : events.Reads environment) :
    Program.OpensBoth loader (.told environment) events.asked result := by
  obtain ⟨looks, rest, paths, rfl, hpaths, hrest⟩ := Program.runs_then_iff.1 hrun
  obtain ⟨hquiet, rfl⟩ := fromEnvironment_runs hpaths
    fun name bytes he => hreads name bytes (List.mem_append_left _ he)
  rw [Transcript.asked_append, hquiet, List.nil_append]
  exact Program.openAll_runs hrest (Loader.answers_append.1 hloader).2

end

/-- The loader is asked for an explicit path under the name that the path reads as, and under no
other name, and opens what is there. That name is the path itself exactly if the path is UTF-8, and
among such paths no two have the same name. -/
theorem an_explicit_path_is_used_as_it_reads (loader : Loader) (paths : LibraryPaths)
    (environment : String → Option (List UInt8)) :
    ((∃ events result, LibraryPaths.openTold.run.Runs events result ∧ loader.Answers events ∧
        events.Reads environment) ∧
      ∀ events result, LibraryPaths.openTold.run.Runs events result → loader.Answers events →
        events.Reads environment → UsesPaths loader (.told environment) events result) ∧
    ((∃ events result, paths.openAll.run.Runs events result ∧ loader.Answers events) ∧
      ∀ events result, paths.openAll.run.Runs events result → loader.Answers events →
        UsesPaths loader paths events result) ∧
    (∀ path : Path, path.searched = path.bytes ↔ path.IsText) ∧
    ∀ path other : Path, path.IsText → other.IsText → path.searched = other.searched →
      path = other := by
  refine ⟨⟨?_, fun events result hrun hloader hreads => ?_⟩,
    ⟨?_, fun events result hrun hloader => ?_⟩, Path.searched_eq_iff,
    fun path other => Path.eq_of_searched_eq⟩
  · exact Program.exists_runs_answered LibraryPaths.openTold.run loader environment
  · exact usesPaths_of_opensBoth (openTold_runs hrun hloader hreads)
  · obtain ⟨events, result, hrun, hloader, -⟩ :=
      Program.exists_runs_answered paths.openAll.run loader environment
    exact ⟨events, result, hrun, hloader⟩
  · exact usesPaths_of_opensBoth (Program.openAll_runs hrun hloader)

/-- A loader that has the image library under one name only. -/
def onlyUnder (bytes : List UInt8) : Loader where
  library name := if name.bytes = bytes then .ok ⟨"libvips"⟩ else .error (.notOpened "no such file")
  exported _ _ := .ok ()

/-- An environment in which the image library has an explicit path. -/
def vipsAt (path : Path) (name : String) : Option (List UInt8) :=
  if name = "VIPS_LIBRARY_PATH" then some path.bytes else none

theorem a_path_that_is_a_text_is_used_as_given :
    ∃ events gobject, LibraryPaths.openTold.run.Runs events (.ok ⟨⟨"libvips"⟩, gobject⟩) ∧
      (onlyUnder (Path.ofString "/opt/vips.so").bytes).Answers events ∧
      events.Reads (vipsAt (.ofString "/opt/vips.so")) := by
  have hzero : 0 ∉ (Path.ofString "/opt/vips.so").bytes := by decide
  obtain ⟨⟨⟨events, result, hrun, hloader, hreads⟩, huses⟩, -, hexact, -⟩ :=
    an_explicit_path_is_used_as_it_reads (onlyUnder (Path.ofString "/opt/vips.so").bytes) { }
      (vipsAt (.ofString "/opt/vips.so"))
  have hsearched := (hexact (.ofString "/opt/vips.so")).2 ⟨_, Text.Utf8.decode_encode _⟩
  have hlibrary : (onlyUnder (Path.ofString "/opt/vips.so").bytes).library ⟨_, hzero⟩ =
      .ok ⟨"libvips"⟩ := by simp [onlyUnder]
  obtain ⟨⟨vips, gobject⟩, rfl, rfl⟩ := (huses events result hrun hloader hreads).findsVips
    _ _ _ rfl hzero hsearched.symm hlibrary
  exact ⟨events, gobject, hrun, hloader, hreads⟩

/-- A library that is there under a path of one byte is missed, since another name is looked for.
With another path of one byte it is the same name. -/
theorem a_path_that_is_no_text_is_missed :
    ∃ events failure, LibraryPaths.openTold.run.Runs events (.error failure) ∧
      (onlyUnder [255]).Answers events ∧ events.Reads (vipsAt ⟨[255]⟩) ∧
      events.asked.map CText.bytes = [[239, 191, 189]] ∧
      Path.searched ⟨[255]⟩ = Path.searched ⟨[254]⟩ := by
  obtain ⟨events, result, hrun, hloader, hreads⟩ :=
    Program.exists_runs_answered LibraryPaths.openTold.run (onlyUnder [255]) (vipsAt ⟨[255]⟩)
  have hopens := openTold_runs hrun hloader hreads
  have hnone : (onlyUnder [255]).first [Path.lossy ⟨[255]⟩] = none := by decide
  generalize hasked : events.asked = asked at hopens
  cases hopens with
  | opened hvips => exact nomatch hvips.symm.trans hnone
  | notFound _ _ _ =>
    refine ⟨events, _, hrun, hloader, hreads, ?_, by decide⟩
    rw [hasked]
    decide

end ImageGateway
