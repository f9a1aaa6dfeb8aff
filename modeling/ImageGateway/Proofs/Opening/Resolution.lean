-- An opening of the libraries, with any loader. The image library has to be found,
-- the object system may be missing, and every entry point is taken from the first
-- of them that exports it. What is missing is told in the order in which it is
-- looked for.

import ImageGateway.Proofs.Opening.Search

namespace ImageGateway

/-- The library that is searched last. -/
def Opened.last (opened : Opened) : Library := opened.gobject.getD opened.vips

namespace Loader

variable (loader : Loader)

def exports (library : Library) (symbol : Symbol) : Bool := (loader.exported library symbol).isOk

/-- Whether at least one of the opened libraries exports the entry point. -/
def provides (opened : Opened) (symbol : Symbol) : Bool :=
  loader.exports opened.vips symbol || opened.gobject.any fun gobject =>
    loader.exports gobject symbol

/-- Where an entry point is taken from: from the image library if it exports it, and from the
object system otherwise. -/
def Binds (opened : Opened) (symbol : Symbol) (library : Library) : Prop :=
  if loader.exports opened.vips symbol then library = opened.vips
  else opened.gobject = some library ∧ loader.exports library symbol

/-- What the resolution of entry points can end with. -/
inductive Resolves (opened : Opened) (symbols : List Symbol) :
    Except LoadFailure (List (Symbol × Library)) → Prop where
  | all {bindings : List (Symbol × Library)} (hkeys : bindings.map Prod.fst = symbols)
      (hbound : ∀ b ∈ bindings, loader.Binds opened b.1 b.2) :
    Resolves opened symbols (.ok bindings)
  | missing {symbol : Symbol} {fault : LoaderFault}
      (hfirst : symbols.find? (fun s => !loader.provides opened s) = some symbol)
      (hfault : loader.exported opened.last symbol = .error fault) :
    Resolves opened symbols (.error (.missingSymbol symbol fault))

variable {loader : Loader} {opened : Opened} {symbol : Symbol}

theorem exports_of_ok {library : Library} (h : loader.exported library symbol = .ok ()) :
    loader.exports library symbol = true := by
  simp [exports, h, Except.isOk, Except.toBool]

theorem exports_of_error {library : Library} {fault : LoaderFault}
    (h : loader.exported library symbol = .error fault) :
    loader.exports library symbol = false := by
  simp [exports, h, Except.isOk, Except.toBool]

end Loader

namespace Program

variable {loader : Loader} {opened : Opened} {events : Transcript}

/-- An entry point is taken from the first library that exports it. If none does, the fault is that
of the last one. -/
theorem resolve_runs {symbol : Symbol} {r : Except LoadFailure Library}
    (hrun : (opened.resolve symbol).run.Runs events r) (hloader : loader.Answers events) :
    events.asked = [] ∧
      ((∃ library, r = .ok library ∧ loader.Binds opened symbol library ∧
        loader.provides opened symbol) ∨
      ∃ fault, r = .error (.missingSymbol symbol fault) ∧
        loader.provides opened symbol = false ∧
        loader.exported opened.last symbol = .error fault) := by
  obtain ⟨vips, gobject⟩ := opened
  obtain ⟨first, rest, answer, rfl, hfirst, hrest⟩ := runs_then_iff.1 hrun
  obtain rfl := runs_request_iff.1 hfirst
  obtain ⟨hvips, hafter⟩ := Loader.answers_append.1 hloader
  have hvips : answer = loader.exported vips symbol := hvips _ (List.mem_singleton_self _)
  cases answer with
  | ok _ =>
    obtain ⟨rfl, rfl⟩ := runs_done_iff.1 hrest
    have hexports := Loader.exports_of_ok hvips.symm
    exact ⟨rfl, .inl ⟨vips, rfl, by simp [Loader.Binds, hexports],
      by simp [Loader.provides, hexports]⟩⟩
  | error fault =>
    have hlacks := Loader.exports_of_error hvips.symm
    cases gobject with
    | none =>
      obtain ⟨rfl, rfl⟩ := runs_done_iff.1 hrest
      exact ⟨rfl, .inr ⟨fault, rfl, by simp [Loader.provides, hlacks], hvips.symm⟩⟩
    | some gobject =>
      obtain ⟨second, last, answer, rfl, hsecond, hlast⟩ := runs_then_iff.1 hrest
      obtain rfl := runs_request_iff.1 hsecond
      have hgobject : answer = loader.exported gobject symbol :=
        (Loader.answers_append.1 hafter).1 _ (List.mem_singleton_self _)
      cases answer with
      | ok _ =>
        obtain ⟨rfl, rfl⟩ := runs_done_iff.1 hlast
        have hexports := Loader.exports_of_ok hgobject.symm
        exact ⟨rfl, .inl ⟨gobject, rfl, by simp [Loader.Binds, hlacks, hexports],
          by simp [Loader.provides, hexports]⟩⟩
      | error fault =>
        obtain ⟨rfl, rfl⟩ := runs_done_iff.1 hlast
        have hnone := Loader.exports_of_error hgobject.symm
        exact ⟨rfl, .inr ⟨fault, rfl, by simp [Loader.provides, hlacks, hnone], hgobject.symm⟩⟩

/-- Entry points are resolved in order, up to the first that is missing. -/
theorem resolveAll_runs {symbols : List Symbol}
    {r : Except LoadFailure (List (Symbol × Library))}
    (hrun : (opened.resolveAll symbols).run.Runs events r) (hloader : loader.Answers events) :
    events.asked = [] ∧ loader.Resolves opened symbols r := by
  induction symbols generalizing events r with
  | nil =>
    obtain ⟨rfl, rfl⟩ := runs_done_iff.1 hrun
    exact ⟨rfl, .all rfl (by simp)⟩
  | cons symbol rest ih =>
    obtain ⟨failure, hone, rfl⟩ | ⟨first, more, library, rfl, hone, hmore⟩ := runs_try_iff.1 hrun
    · obtain ⟨hquiet, ⟨_, ⟨⟩, -⟩ | ⟨fault, hfailure, hlacks, hfault⟩⟩ := resolve_runs hone hloader
      cases hfailure
      exact ⟨hquiet, .missing (by simp [hlacks]) hfault⟩
    · obtain ⟨hfirst, hafter⟩ := Loader.answers_append.1 hloader
      obtain ⟨hquiet, ⟨_, hlibrary, hbinds, hprovides⟩ | ⟨_, ⟨⟩, -⟩⟩ := resolve_runs hone hfirst
      cases hlibrary
      obtain ⟨answer, hrest, rfl⟩ := runs_map_iff.1 hmore
      obtain ⟨hstill, hresolves⟩ := ih hrest hafter
      refine ⟨by simp [hquiet, hstill], ?_⟩
      cases hresolves with
      | all hkeys hbound => exact .all (by simp [hkeys]) (List.forall_mem_cons.2 ⟨hbinds, hbound⟩)
      | missing hmissing hfault => exact .missing (by simp [hprovides, hmissing]) hfault

/-- What an opening can end with. The result of the resolution is that of the whole. -/
inductive OpensTable (loader : Loader) (paths : LibraryPaths) :
    List CText → Except LoadFailure Table → Prop where
  | notFound {last : String} {fault : LoaderFault}
      (hnone : loader.first paths.vipsCandidates.toList = none)
      (hlast : paths.vipsCandidates.toList.getLast? = some last)
      (hfault : loader.named last = .error fault) :
    OpensTable loader paths ((loader.tried paths.vipsCandidates.toList).filterMap passedName)
      (.error (.libraryNotFound "libvips" paths.vipsCandidates.toList fault))
  | opened {vips : Library} {answer : Except LoadFailure (List (Symbol × Library))}
      (hvips : loader.first paths.vipsCandidates.toList = some vips)
      (hresolves : loader.Resolves ⟨vips, loader.first paths.gobjectCandidates.toList⟩ Symbol.all
        answer) :
    OpensTable loader paths
      ((loader.tried paths.vipsCandidates.toList ++
        loader.tried paths.gobjectCandidates.toList).filterMap passedName)
      (answer.map (Table.mk vips (loader.first paths.gobjectCandidates.toList)))

theorem open_runs {paths : LibraryPaths} {r : Except LoadFailure Table}
    (hrun : (Table.open paths).run.Runs events r) (hloader : loader.Answers events) :
    OpensTable loader paths events.asked r := by
  obtain ⟨failure, hopen, rfl⟩ | ⟨first, rest, opened, rfl, hopen, hrest⟩ := runs_try_iff.1 hrun
  · have hboth := openAll_runs hopen hloader
    generalize events.asked = asked at hboth ⊢
    cases hboth with
    | notFound hnone hlast hfault => exact .notFound hnone hlast hfault
  · obtain ⟨hfirst, hafter⟩ := Loader.answers_append.1 hloader
    obtain ⟨answer, hall, rfl⟩ := runs_map_iff.1 hrest
    obtain ⟨hquiet, hresolves⟩ := resolveAll_runs hall hafter
    rw [Transcript.asked_append, hquiet, List.append_nil]
    have hboth := openAll_runs hopen hfirst
    generalize first.asked = asked at hboth ⊢
    cases hboth with
    | opened hvips => exact .opened hvips hresolves

end Program

/-! ## What an opening comes to -/

/-- What an opening of the libraries keeps to. -/
structure ResolvesWhatIsExported (loader : Loader) (paths : LibraryPaths) (events : Transcript)
    (result : Except LoadFailure Table) : Prop where
  /-- A library is not found exactly if no candidate for the image library opens. -/
  notFound : (∃ library names fault, result = .error (.libraryNotFound library names fault)) ↔
    ∀ name ∈ paths.vipsCandidates.toList, loader.opens name = false
  /-- Then all its candidates are told, in order and with the fault of the last one, and nothing
  else was tried. -/
  told : ∀ library names fault, result = .error (.libraryNotFound library names fault) →
    library = "libvips" ∧ names = paths.vipsCandidates.toList ∧
      (∃ last, names.getLast? = some last ∧ loader.named last = .error fault) ∧
      events.asked = names.filterMap passedName
  /-- Otherwise the candidates for each library were tried up to the first that opens. -/
  tried : ∀ vips, loader.first paths.vipsCandidates.toList = some vips →
    events.asked = (loader.tried paths.vipsCandidates.toList ++
      loader.tried paths.gobjectCandidates.toList).filterMap passedName
  /-- There is a table exactly if the first image library that opens and the first object system
  that opens, if one does, export every entry point between them. -/
  succeeds : (∃ table, result = .ok table) ↔
    ∃ vips, loader.first paths.vipsCandidates.toList = some vips ∧ ∀ symbol ∈ Symbol.all,
      loader.exports vips symbol ∨ ∃ gobject,
        loader.first paths.gobjectCandidates.toList = some gobject ∧
          loader.exports gobject symbol
  /-- The table takes every entry point from the image library if that exports it, and otherwise
  from the object system, which then does. -/
  bound : ∀ table, result = .ok table →
    loader.first paths.vipsCandidates.toList = some table.vips ∧
      loader.first paths.gobjectCandidates.toList = table.gobject ∧
      ∀ symbol ∈ Symbol.all,
        if loader.exports table.vips symbol then table.binding? symbol = some table.vips
        else ∃ gobject, table.gobject = some gobject ∧ loader.exports gobject symbol ∧
          table.binding? symbol = some gobject
  /-- A missing entry point is told exactly if it is the first that no opened library exports. The
  fault is that of the last of them. -/
  missing : ∀ symbol fault, result = .error (.missingSymbol symbol fault) ↔
    ∃ vips, loader.first paths.vipsCandidates.toList = some vips ∧
      Symbol.all.find? (fun s => !loader.provides
        ⟨vips, loader.first paths.gobjectCandidates.toList⟩ s) = some symbol ∧
      loader.exported ((loader.first paths.gobjectCandidates.toList).getD vips) symbol =
        .error fault
  /-- The object system is needed only for what the image library does not export. -/
  optional : ∀ vips, loader.first paths.vipsCandidates.toList = some vips →
    (∀ symbol ∈ Symbol.all, loader.exports vips symbol) → ∃ table, result = .ok table
  /-- An explicit path takes the place of the usual names of its own library, and of no other. -/
  explicit : paths.vipsCandidates.toList =
      paths.vips.elim ["libvips.so.42", "libvips.so"] (fun path => [path.lossy]) ∧
    paths.gobjectCandidates.toList =
      paths.gobject.elim ["libgobject-2.0.so.0", "libgobject-2.0.so"] (fun path => [path.lossy])

namespace Loader

variable {loader : Loader} {opened : Opened} {symbols : List Symbol} {symbol : Symbol}

theorem provides_iff : loader.provides opened symbol = true ↔
    loader.exports opened.vips symbol ∨
      ∃ gobject, opened.gobject = some gobject ∧ loader.exports gobject symbol := by
  simp [provides, Option.any_eq_true]

theorem Binds.provides {library : Library} (h : loader.Binds opened symbol library) :
    loader.provides opened symbol = true := by
  unfold Binds at h
  split at h
  · exact provides_iff.2 (.inl ‹_›)
  · exact provides_iff.2 (.inr ⟨library, h⟩)

/-- Everything is resolved exactly if everything is exported. -/
theorem Resolves.isOk_iff {r : Except LoadFailure (List (Symbol × Library))}
    (h : loader.Resolves opened symbols r) :
    (∃ bindings, r = .ok bindings) ↔ ∀ symbol ∈ symbols, loader.provides opened symbol := by
  cases h with
  | all hkeys hbound =>
    refine iff_of_true ⟨_, rfl⟩ fun symbol hsymbol => ?_
    rw [← hkeys] at hsymbol
    obtain ⟨b, hb, rfl⟩ := List.mem_map.1 hsymbol
    exact (hbound b hb).provides
  | missing hfirst hfault =>
    refine iff_of_false nofun fun hall => ?_
    have hlacks := List.find?_some hfirst
    have hprovides := hall _ (List.mem_of_find?_eq_some hfirst)
    simp [hprovides] at hlacks

/-- What is bound is found again. -/
theorem Resolves.lookup {bindings : List (Symbol × Library)}
    (h : loader.Resolves opened symbols (.ok bindings)) (hsymbol : symbol ∈ symbols) :
    ∃ library, bindings.lookup symbol = some library ∧ loader.Binds opened symbol library := by
  cases h with
  | all hkeys hbound =>
    cases hlookup : bindings.lookup symbol with
    | none =>
      rw [← hkeys] at hsymbol
      obtain ⟨b, hb, rfl⟩ := List.mem_map.1 hsymbol
      simpa using List.lookup_eq_none_iff.1 hlookup b hb
    | some library =>
      obtain ⟨before, after, rfl, -⟩ := List.lookup_eq_some_iff.1 hlookup
      exact ⟨library, rfl, hbound (symbol, library) (by simp)⟩

theorem Resolves.missing_iff {r : Except LoadFailure (List (Symbol × Library))}
    (h : loader.Resolves opened symbols r) {fault : LoaderFault} :
    r = .error (.missingSymbol symbol fault) ↔
      symbols.find? (fun s => !loader.provides opened s) = some symbol ∧
        loader.exported opened.last symbol = .error fault := by
  cases h with
  | all hkeys hbound =>
    refine iff_of_false nofun ?_
    rintro ⟨hfirst, -⟩
    have hall := (Resolves.isOk_iff (.all hkeys hbound)).1 ⟨_, rfl⟩
    have hlacks := List.find?_some hfirst
    simp [hall _ (List.mem_of_find?_eq_some hfirst)] at hlacks
  | missing hfirst hfault =>
    constructor
    · rintro ⟨⟩
      exact ⟨hfirst, hfault⟩
    · rintro ⟨hfirst', hfault'⟩
      obtain rfl := Option.some.inj (hfirst.symm.trans hfirst')
      obtain rfl := Except.error.inj (hfault.symm.trans hfault')
      rfl

theorem tried_of_first_eq_none {names : List String} (h : loader.first names = none) :
    loader.tried names = names := by
  rw [first_eq_none_iff] at h
  induction names with
  | nil => rfl
  | cons name rest ih =>
    obtain ⟨hname, hrest⟩ := List.forall_mem_cons.1 h
    obtain ⟨fault, hfault⟩ := opens_eq_false_iff.1 hname
    rw [tried_of_error hfault, ih hrest]

end Loader

theorem candidates_explicit (paths : LibraryPaths) :
    paths.vipsCandidates.toList =
        paths.vips.elim ["libvips.so.42", "libvips.so"] (fun path => [path.lossy]) ∧
      paths.gobjectCandidates.toList =
        paths.gobject.elim ["libgobject-2.0.so.0", "libgobject-2.0.so"]
          (fun path => [path.lossy]) := by
  obtain ⟨vips, gobject⟩ := paths
  cases vips <;> cases gobject <;> exact ⟨rfl, rfl⟩

section

variable {loader : Loader} {paths : LibraryPaths} {events : Transcript}

theorem resolvesWhatIsExported_of_nothing {last : String} {fault : LoaderFault}
    (hasked : events.asked =
      (loader.tried paths.vipsCandidates.toList).filterMap passedName)
    (hnone : loader.first paths.vipsCandidates.toList = none)
    (hlast : paths.vipsCandidates.toList.getLast? = some last)
    (hfault : loader.named last = .error fault) :
    ResolvesWhatIsExported loader paths events
      (.error (.libraryNotFound "libvips" paths.vipsCandidates.toList fault)) := by
  have hnever {vips : Library} (h : loader.first paths.vipsCandidates.toList = some vips) :
      False := nomatch hnone.symm.trans h
  constructor
  case notFound => exact iff_of_true ⟨_, _, _, rfl⟩ (Loader.first_eq_none_iff.1 hnone)
  case told =>
    rintro _ _ _ ⟨⟩
    rw [hasked, Loader.tried_of_first_eq_none hnone]
    exact ⟨rfl, rfl, ⟨_, hlast, hfault⟩, rfl⟩
  case tried => exact fun vips hvips => (hnever hvips).elim
  case succeeds => exact iff_of_false nofun fun ⟨vips, hvips, _⟩ => hnever hvips
  case bound => exact nofun
  case missing => exact fun _ _ => iff_of_false nofun fun ⟨vips, hvips, _⟩ => hnever hvips
  case optional => exact fun vips hvips => (hnever hvips).elim
  case explicit => exact candidates_explicit paths

theorem resolvesWhatIsExported_of_opened {vips : Library}
    {answer : Except LoadFailure (List (Symbol × Library))}
    (hasked : events.asked = (loader.tried paths.vipsCandidates.toList ++
      loader.tried paths.gobjectCandidates.toList).filterMap passedName)
    (hvips : loader.first paths.vipsCandidates.toList = some vips)
    (hresolves : loader.Resolves ⟨vips, loader.first paths.gobjectCandidates.toList⟩ Symbol.all
      answer) :
    ResolvesWhatIsExported loader paths events
      (answer.map (Table.mk vips (loader.first paths.gobjectCandidates.toList))) := by
  have hsame {other : Library} (h : loader.first paths.vipsCandidates.toList = some other) :
      other = vips := Option.some.inj (h.symm.trans hvips)
  have hok {table : Table}
      (h : answer.map (Table.mk vips (loader.first paths.gobjectCandidates.toList)) = .ok table) :
      ∃ bindings, answer = .ok bindings ∧
        table = ⟨vips, loader.first paths.gobjectCandidates.toList, bindings⟩ := by
    cases answer with
    | error failure => cases h
    | ok bindings => exact ⟨bindings, rfl, (Except.ok.inj h).symm⟩
  have herror (failure : LoadFailure) :
      answer.map (Table.mk vips (loader.first paths.gobjectCandidates.toList)) = .error failure ↔
        answer = .error failure := by
    cases answer <;> simp [Except.map]
  have hnotFound {library : String} {names : List String} {fault : LoaderFault} :
      answer ≠ .error (.libraryNotFound library names fault) := by
    cases hresolves <;> exact nofun
  have hall (h : ∀ symbol ∈ Symbol.all,
      loader.provides ⟨vips, loader.first paths.gobjectCandidates.toList⟩ symbol) :
      ∃ table, answer.map (Table.mk vips (loader.first paths.gobjectCandidates.toList)) =
        .ok table := by
    obtain ⟨bindings, rfl⟩ := hresolves.isOk_iff.2 h
    exact ⟨_, rfl⟩
  constructor
  case notFound =>
    refine iff_of_false (fun ⟨_, _, _, h⟩ => hnotFound ((herror _).1 h)) fun hnone => ?_
    exact nomatch (Loader.first_eq_none_iff.2 hnone).symm.trans hvips
  case told => exact fun _ _ _ h => absurd ((herror _).1 h) hnotFound
  case tried => exact fun _ _ => hasked
  case succeeds =>
    constructor
    · rintro ⟨table, htable⟩
      obtain ⟨bindings, hbindings, -⟩ := hok htable
      exact ⟨vips, hvips, fun symbol hsymbol =>
        Loader.provides_iff.1 (hresolves.isOk_iff.1 ⟨bindings, hbindings⟩ symbol hsymbol)⟩
    · rintro ⟨other, hother, hexported⟩
      obtain rfl := hsame hother
      exact hall fun symbol hsymbol => Loader.provides_iff.2 (hexported symbol hsymbol)
  case bound =>
    intro table htable
    obtain ⟨bindings, rfl, rfl⟩ := hok htable
    refine ⟨hvips, rfl, fun symbol hsymbol => ?_⟩
    obtain ⟨library, hlookup, hbinds⟩ := hresolves.lookup hsymbol
    unfold Loader.Binds at hbinds
    split at hbinds
    · rw [if_pos ‹_›]
      exact hlookup.trans (congrArg some hbinds)
    · rw [if_neg ‹_›]
      exact ⟨library, hbinds.1, hbinds.2, hlookup⟩
  case missing =>
    intro symbol fault
    rw [herror, hresolves.missing_iff]
    constructor
    · exact fun h => ⟨vips, hvips, h⟩
    · rintro ⟨other, hother, h⟩
      obtain rfl := hsame hother
      exact h
  case optional =>
    intro other hother hexported
    obtain rfl := hsame hother
    exact hall fun symbol hsymbol => Loader.provides_iff.2 (.inl (hexported symbol hsymbol))
  case explicit => exact candidates_explicit paths

end

/-- Every opening that a loader answers resolves exactly what the libraries export that were opened,
and there is such an opening. -/
theorem an_opening_resolves_exactly_what_is_exported (loader : Loader) (paths : LibraryPaths) :
    (∃ events result, (Table.open paths).run.Runs events result ∧ loader.Answers events) ∧
      ∀ events result, (Table.open paths).run.Runs events result → loader.Answers events →
        ResolvesWhatIsExported loader paths events result := by
  refine ⟨?_, fun events result hrun hloader => ?_⟩
  · obtain ⟨events, result, hrun, hloader, -⟩ :=
      Program.exists_runs_answered (Table.open paths).run loader fun _ => none
    exact ⟨events, result, hrun, hloader⟩
  have hopens := Program.open_runs hrun hloader
  generalize hasked : events.asked = asked at hopens
  cases hopens with
  | notFound hnone hlast hfault =>
    exact resolvesWhatIsExported_of_nothing hasked hnone hlast hfault
  | opened hvips hresolves => exact resolvesWhatIsExported_of_opened hasked hvips hresolves

/-- A loader that has the image library under its second name, without one entry point, and the
object system with that one only. -/
def halves : Loader where
  library name :=
    if name.bytes = Text.Utf8.encode "libvips.so" then .ok ⟨"libvips.so"⟩
    else if name.bytes = Text.Utf8.encode "libgobject-2.0.so.0" then .ok ⟨"libgobject-2.0.so.0"⟩
    else .error (.notOpened "no such file")
  exported library symbol :=
    if (library = ⟨"libvips.so"⟩) = (symbol ≠ ⟨"g_free"⟩) then .ok ()
    else .error (.notExported "undefined symbol")

/-- Each entry point is taken from the half that has it. -/
theorem halves_make_a_table :
    ∃ events table, (Table.open { }).run.Runs events (.ok table) ∧ halves.Answers events ∧
      ResolvesWhatIsExported halves { } events (.ok table) ∧
      table.binding? ⟨"vips_init"⟩ = some ⟨"libvips.so"⟩ ∧
      table.binding? ⟨"g_free"⟩ = some ⟨"libgobject-2.0.so.0"⟩ := by
  obtain ⟨⟨events, result, hrun, hloader⟩, hall⟩ :=
    an_opening_resolves_exactly_what_is_exported halves { }
  have h := hall events result hrun hloader
  have hvips : halves.first ["libvips.so.42", "libvips.so"] = some ⟨"libvips.so"⟩ := by decide
  have hgobject : halves.first ["libgobject-2.0.so.0", "libgobject-2.0.so"] =
      some ⟨"libgobject-2.0.so.0"⟩ := by decide
  obtain ⟨table, rfl⟩ := h.succeeds.2 ⟨_, hvips, fun symbol _ => by
    by_cases hfree : symbol = ⟨"g_free"⟩
    · exact .inr ⟨_, hgobject, by subst hfree; decide⟩
    · exact .inl (by simp [Loader.exports, halves, hfree, Except.isOk, Except.toBool])⟩
  obtain ⟨htable, hsecond, hbound⟩ := h.bound table rfl
  have hfirst : table.vips = ⟨"libvips.so"⟩ := Option.some.inj (htable.symm.trans hvips)
  have hsecond : table.gobject = some ⟨"libgobject-2.0.so.0"⟩ := hsecond.symm.trans hgobject
  rw [hfirst, hsecond] at hbound
  refine ⟨events, table, hrun, hloader, h, ?_, ?_⟩
  · exact (if_pos (c := halves.exports ⟨"libvips.so"⟩ ⟨"vips_init"⟩ = true) (by decide)).mp
      (hbound ⟨"vips_init"⟩ (by decide))
  · obtain ⟨gobject, hgobject, -, hbinding⟩ :=
      (if_neg (c := halves.exports ⟨"libvips.so"⟩ ⟨"g_free"⟩ = true) (by decide)).mp
        (hbound ⟨"g_free"⟩ (by decide))
    exact hbinding.trans hgobject.symm

end ImageGateway
