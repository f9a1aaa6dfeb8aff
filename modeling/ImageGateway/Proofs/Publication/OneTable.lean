-- One table for the whole process. Any number of callers load the library at
-- once, each with paths of its own. Whoever is first to offer a table has it
-- published. Everyone else gets that one, also those who opened another.

import ImageGateway.Proofs.Publication.Answers

namespace ImageGateway

open Program Process

variable {ι : Type} [DecidableEq ι]

/-! ## A load that comes later -/

/-- A caller that only loads puts what the load gives in its own words. -/
theorem Caller.of_loads {c : Caller} {paths : LibraryPaths} (h : c.Loads paths) :
    ∃ f : Except LoadFailure Table → c.Answer,
      (c.program = (Table.load paths).run.bind fun r => .done (f r)) ∧
        ∀ table, c.gets? (f (.ok table)) = some table := by
  cases c with
  | direct own =>
    obtain rfl : own = paths := h
    exact ⟨id, (bind_done _).symm, fun _ => rfl⟩
  | load own =>
    obtain rfl : own = paths := h
    exact ⟨fun r => r.mapError Failure.load, rfl, fun _ => rfl⟩
  | look => exact h.elim
  | start config => exact h.elim
  | enter entry => exact h.elim

/-- A load that finds no table can open its own and get ready to offer it. -/
theorem exists_offer {Answer : ι → Type} {s : Process ι Answer} {i : ι} {paths : LibraryPaths}
    {f : Except LoadFailure Table → Answer i} {opening : Transcript} {table : Table}
    (hleft : s.left i = (Table.load paths).run.bind fun r => .done (f r))
    (hpublished : s.published = none)
    (hopening : (Table.open paths).run.Runs opening (.ok table)) :
    ∃ t, Reaches s ((⟨.table, none⟩ :: opening).map fun e => (i, e)) t ∧
      t.left i = .ask (.publish table) (fun kept => .done (f (.ok kept))) ∧
      t.published = none := by
  obtain ⟨t, hlook, ht, hsame⟩ := exists_step (q := .table) hleft none hpublished.symm
  have hnext : t.left i = (Table.open paths).run.bind fun
      | .ok table => .ask (.publish table) fun kept => .done (f (.ok kept))
      | .error failure => .done (f (.error failure)) := by
    rw [ht]
    show ((Table.open paths).run.bind _).bind _ = _
    rw [bind_assoc]
    congr 1
    funext result
    cases result <;> rfl
  have hopened : (t.left i).Leads opening
      (.ask (.publish table) fun kept => .done (f (.ok kept))) := by
    rw [hnext, ← List.append_nil opening]
    exact Leads.bind hopening (.refl _)
  obtain ⟨u, hreach, hu, hstill⟩ := exists_reaches hopened (open_quiet hopening)
  exact ⟨u, .step hlook hreach, hu, hstill.trans (hsame.trans hpublished)⟩

/-- Whatever happened before, a load that can open its libraries can come to its end. -/
theorem exists_load {Answer : ι → Type} {s : Process ι Answer} {i : ι} {paths : LibraryPaths}
    {f : Except LoadFailure Table → Answer i} {opening : Transcript} {table : Table}
    (hleft : s.left i = (Table.load paths).run.bind fun r => .done (f r))
    (hopening : (Table.open paths).run.Runs opening (.ok table)) :
    ∃ more t, Reaches s more t ∧ t.left i = .done (f (.ok (s.published.getD table))) ∧
      t.published = some (s.published.getD table) := by
  cases hpublished : s.published with
  | some kept =>
    obtain ⟨t, hlook, ht, hsame⟩ := exists_step (q := .table) hleft (some kept) hpublished.symm
    exact ⟨_, t, .step hlook (.refl t), ht, hsame.trans hpublished⟩
  | none =>
    obtain ⟨t, hreach, ht, hstill⟩ := exists_offer hleft hpublished hopening
    obtain ⟨u, hoffer, hu, hkept⟩ :=
      exists_step (q := .publish table) ht table (by rw [hstill]; rfl)
    refine ⟨_, u, hreach.append (.step hoffer (.refl u)), hu, ?_⟩
    rw [hkept, hstill]
    rfl

/-! ## One table -/

/-- What a process keeps to that has come from its beginning by way of `middle`: there is one table,
and everyone gets it. -/
structure OneTable (who : ι → Caller) (before : History ι)
    (middle : Process ι fun i => (who i).Answer) (later : History ι)
    (last : Process ι fun i => (who i).Answer) : Prop where
  /-- A published table stays, and from then on every look and every offer shows it. -/
  stays : ∀ table, middle.published = some table → last.published = some table ∧
    ∀ i e, (i, e) ∈ later → e.request.AtTable → e.shown? = some table
  /-- Whoever was shown a table, before or after, was shown the one that is published. -/
  shown : ∀ i e table, (i, e) ∈ before ++ later → e.shown? = some table →
    last.published = some table
  /-- A caller whose load went well got the published table, also if it opened another one, and
  also if it failed for another reason after that. -/
  loaded : ∀ i answer, last.left i = .done answer → (who i).Loaded answer →
    ∃ table, last.published = some table ∧
      ∀ got, (who i).gets? answer = some got → got = table
  /-- Whoever offers a table has opened it to the end right before. -/
  offered : ∀ i first rest table kept,
    (before ++ later).own i = first ++ ⟨.publish table, kept⟩ :: rest →
      ∃ paths start opening, first = start ++ opening ∧
        (Table.open paths).run.Runs opening (.ok table)
  /-- A load fails only if no table was there and none could be opened. It offers nothing. -/
  failed : ∀ i answer, last.left i = .done answer → (who i).Failed answer →
    ∃ paths opening failure, (who i).paths? = some paths ∧
      (before ++ later).own i = ⟨.table, none⟩ :: opening ∧
      (Table.open paths).run.Runs opening (.error failure) ∧
      ∀ e ∈ opening, ¬ e.request.AtTable
  /-- A caller that looks after the publication opens nothing, and it could do the same with any
  other paths. -/
  late : ∀ i table, middle.published = some table →
    (∀ e ∈ before.own i, e.request ≠ .table) →
      (∀ e ∈ (before ++ later).own i, ¬ e.request.Opens) ∧
      ∀ paths, ∃ left, ((who i).withPaths paths).program.Leads
        (((before ++ later).own i).map (Event.elsewhere paths)) left
  /-- Whatever has failed, a load that is still to begin and finds its libraries comes to its end
  with the published table, or with its own if there is none yet. -/
  again : ∀ i paths opening table, (who i).Loads paths → last.left i = (who i).program →
    (Table.open paths).run.Runs opening (.ok table) →
      ∃ more final answer, Reaches last more final ∧ final.left i = .done answer ∧
        (who i).gets? answer = some (last.published.getD table) ∧
        final.published = some (last.published.getD table)

/-- Whoever the callers are and in whatever order they go on, there is one table, and everyone gets
it. -/
theorem a_process_has_one_table {who : ι → Caller} {before later : History ι}
    {middle last : Process ι fun i => (who i).Answer}
    (hbefore : Reaches (Caller.fresh who) before middle) (hlater : Reaches middle later last) :
    OneTable who before middle later last := by
  have hall : Reaches (Caller.fresh who) (before ++ later) last := hbefore.append hlater
  have hleads (i : ι) : (who i).program.Leads ((before ++ later).own i) (last.left i) :=
    hall.leads i
  have hruns {i : ι} {answer : (who i).Answer} (hdone : last.left i = .done answer) :
      (who i).program.Runs ((before ++ later).own i) answer :=
    leads_done_iff.1 (hdone ▸ hleads i)
  constructor
  case stays =>
    intro table htable
    exact ⟨hlater.stays htable, fun i e he hq => hlater.found htable he hq⟩
  case shown => exact fun i e table he hshown => hall.shown he hshown
  case loaded =>
    intro i answer hdone hloaded
    obtain ⟨e, he, table, hshown, hgot⟩ := Caller.shown_of_loaded (hruns hdone) hloaded
    exact ⟨table, hall.shown (mem_own.1 he) hshown, hgot⟩
  case offered =>
    intro i first rest table kept hown
    exact OfferWatch.opened (hown ▸ hleads i)
  case failed => exact fun i answer hdone hfailed => Caller.opens_in_vain (hruns hdone) hfailed
  case late =>
    intro i table htable hunseen
    have hfound : ((before ++ later).own i).Found := by
      intro e he hq
      rw [own_append] at he
      rcases List.mem_append.1 he with he | he
      · exact absurd hq (hunseen e he)
      · rw [hlater.found htable (mem_own.1 he) (by rw [hq]; trivial)]
        rfl
    exact ⟨Caller.opens_nothing (hleads i) hfound, fun paths =>
      Caller.withPaths_follows (who i) paths _ _ (hleads i) hfound⟩
  case again =>
    intro i paths opening table hloads hleft hopening
    obtain ⟨f, hprogram, hgets⟩ := Caller.of_loads hloads
    obtain ⟨more, final, hmore, hdone, hpublished⟩ :=
      exists_load (hleft.trans hprogram) hopening
    exact ⟨more, final, _, hmore, hdone, hgets _, hpublished⟩

/-! ### A race -/

/-- Every entry point can be there. -/
theorem exists_bindings (opened : Opened) (symbols : List Symbol) :
    ∃ events bindings, (opened.resolveAll symbols).run.Runs events (.ok bindings) := by
  induction symbols with
  | nil => exact ⟨[], [], .done _⟩
  | cons symbol rest ih =>
    obtain ⟨events, bindings, hrest⟩ := ih
    have hfound : (opened.resolve symbol).run.Runs
        [⟨.resolve opened.vips symbol, .ok ()⟩] (.ok opened.vips) :=
      runs_then_iff.2 ⟨[_], [], .ok (), by simp, .ask _ (.done _), .done _⟩
    refine ⟨[⟨.resolve opened.vips symbol, .ok ()⟩] ++ (events ++ []),
      (symbol, opened.vips) :: bindings, ?_⟩
    exact runs_bind_iff.2 ⟨_, _, _, rfl, hfound,
      runs_bind_iff.2 ⟨events, [], _, rfl, hrest, .done _⟩⟩

/-- The loader can open a file whose name it accepts. -/
theorem exists_opened (library : String) {candidates : Candidates} (file : Library)
    (hname : (loaderName candidates.first).isOk) :
    ∃ events, (openLibrary library candidates).run.Runs events (.ok file) := by
  obtain ⟨first, others⟩ := candidates
  obtain ⟨text, htext⟩ : ∃ text, loaderName first = .ok text := by
    generalize loaderName first = name at hname
    cases name with
    | error fault => cases hname
    | ok text => exact ⟨text, rfl⟩
  have hnamed : (openNamed first).Runs [⟨.openLibrary text, .ok file⟩] (.ok file) := by
    unfold openNamed
    rw [htext]
    exact .ask (q := .openLibrary text) _ (.done _)
  have hlogged : (do
      logLine .debug ("Loaded " ++ library ++ " from " ++ first)
      return .ok file : Program (Except LoaderFault Library)).Runs
        [⟨.log .debug ("Loaded " ++ library ++ " from " ++ first), ()⟩] (.ok file) :=
    .ask (q := .log _ _) () (.done _)
  have hfirst : (openFirst library first others).Runs
      ([⟨.openLibrary text, .ok file⟩] ++
        [⟨.log .debug ("Loaded " ++ library ++ " from " ++ first), ()⟩]) (.ok file) := by
    unfold openFirst
    exact runs_bind_iff.2 ⟨_, _, _, rfl, hnamed, hlogged⟩
  exact ⟨_, runs_then_iff.2 ⟨_, [], _, rfl, hfirst, .done _⟩⟩

/-- Whoever names a file for the image library can open that file. -/
theorem exists_opening (paths : LibraryPaths) (file : Library)
    (hvips : (loaderName paths.vipsCandidates.first).isOk)
    (hgobject : (loaderName paths.gobjectCandidates.first).isOk) :
    ∃ opening table, (Table.open paths).run.Runs opening (.ok table) ∧ table.vips = file := by
  obtain ⟨first, hfirst⟩ := exists_opened "libvips" file hvips
  obtain ⟨second, hsecond⟩ := exists_opened "libgobject" file hgobject
  obtain ⟨third, bindings, hthird⟩ := exists_bindings ⟨file, some file⟩ Symbol.all
  have hall : paths.openAll.run.Runs (first ++ (second ++ [])) (.ok ⟨file, some file⟩) :=
    runs_bind_iff.2 ⟨first, _, _, rfl, hfirst,
      runs_then_iff.2 ⟨second, [], .ok file, rfl, hsecond, .done _⟩⟩
  refine ⟨first ++ (second ++ []) ++ (third ++ []), ⟨file, some file, bindings⟩, ?_, rfl⟩
  exact runs_bind_iff.2 ⟨_, _, _, rfl, hall,
    runs_bind_iff.2 ⟨third, [], _, rfl, hthird, .done _⟩⟩

/-- Two callers, each of which loads a file of its own. -/
def rivals (i : Bool) : Caller := .direct { vips := some ⟨[if i then 98 else 97]⟩ }

/-- Both find no table and open their own. The one that is late to offer gets that of the other. -/
theorem rivals_have_one_table :
    ∃ (before later : History Bool) (middle last : Process Bool fun i => (rivals i).Answer)
      (winner loser : Table), winner ≠ loser ∧ Reaches (Caller.fresh rivals) before middle ∧
      Reaches middle later last ∧ middle.published = some winner ∧
      (∃ e ∈ later.own true, e.request = .publish loser) ∧
      last.left true = .done (.ok winner) ∧ OneTable rivals before middle later last := by
  obtain ⟨opening, winner, hwinner, hfile⟩ :=
    exists_opening { vips := some ⟨[97]⟩ } ⟨"a"⟩ (by decide) (by decide)
  obtain ⟨opening', loser, hloser, hfile'⟩ :=
    exists_opening { vips := some ⟨[98]⟩ } ⟨"b"⟩ (by decide) (by decide)
  obtain ⟨s, hs, hleft, hnone⟩ := exists_offer (s := Caller.fresh rivals) (i := false) (f := id)
    (bind_done _).symm rfl hwinner
  obtain ⟨t, ht, hleft', hnone'⟩ := exists_offer (s := s) (i := true) (f := id)
    ((hs.idle (by simp [History.own])).trans (bind_done _).symm) hnone hloser
  obtain ⟨middle, hfirst, -, hpublished⟩ := exists_step (s := t) (i := false)
    (q := .publish winner) ((ht.idle (by simp [History.own])).trans hleft) winner
    (by rw [hnone']; rfl)
  rw [hnone'] at hpublished
  have hbefore := hs.append (ht.append (.step hfirst (.refl _)))
  obtain ⟨last, hsecond, hdone, -⟩ := exists_step (s := middle) (i := true)
    (q := .publish loser) ((hfirst.left.2 _ (by decide)).trans hleft') winner
    (by rw [hpublished]; rfl)
  have hlater := Reaches.step hsecond (.refl _)
  refine ⟨_, _, middle, last, winner, loser, ?_, hbefore, hlater, hpublished, ?_, hdone,
    a_process_has_one_table hbefore hlater⟩
  · rintro rfl
    exact absurd (hfile.symm.trans hfile') (by decide)
  · exact ⟨_, mem_own.2 (List.mem_cons_self ..), rfl⟩

end ImageGateway
