-- A host that caches an image with named parameters. The names are read up to the
-- first null name, and the last value under a name counts. Then the entry point
-- caches with the options that were gathered, as the program does. A name that it
-- does not know, and a missing image or place, end it before any native call.

import Mathlib.Data.List.Nodup
import ImageGateway.Proofs.CallCompletion
import ImageGateway.Proofs.ForeignReferences
import ImageGateway.Proofs.LenientText
import ImageGateway.Proofs.Speech
import ImageGateway.Proofs.TwoWays.Reading

namespace ImageGateway

open Program

namespace Foreign

/-! ## The parameters of a list -/

/-- The parameters before the first null name. -/
def named : List (Option CText × Int32) → List (CText × Int32)
  | (some name, n) :: rest => (name, n) :: named rest
  | _ => []

/-- The names of the parameters that there are. -/
def parameterNames : List String := ["max_tiles", "tile_height", "tile_width"]

/-- The name is UTF-8 and that of a parameter. -/
def Known (name : CText) : Prop := ∃ word ∈ parameterNames, name.decode = .ok word

/-- The last value under the name. -/
def lastNamed (word : String) (parameters : List (CText × Int32)) : Option Int32 :=
  parameters.reverse.findSome? fun p => if p.1.decode = .ok word then some p.2 else none

/-- The options with the last value of each parameter, where there is one. -/
def override (options : TileOptions) (parameters : List (CText × Int32)) : TileOptions :=
  ⟨(lastNamed "max_tiles" parameters).or options.maxTiles,
    (lastNamed "tile_height" parameters).or options.tileHeight,
    (lastNamed "tile_width" parameters).or options.tileWidth⟩

/-- The options that some parameters stand for. -/
def optionsOf (parameters : List (CText × Int32)) : TileOptions :=
  ⟨lastNamed "max_tiles" parameters, lastNamed "tile_height" parameters,
    lastNamed "tile_width" parameters⟩

variable {options : TileOptions} {name : CText} {word : String} {n : Int32}
  {parameters others : List (CText × Int32)}

/-- The first parameter counts where no later one has its name. -/
theorem override_cons (options : TileOptions) (parameters : List (CText × Int32)) :
    override options ((name, n) :: parameters) =
      override (override options [(name, n)]) parameters := by
  simp [override, lastNamed, Option.or_assoc]

theorem setTileOption?_of_known (hname : name.decode = .ok word) (hword : word ∈ parameterNames) :
    setTileOption? options word n = some (override options [(name, n)]) := by
  have hlast (other : String) :
      lastNamed other [(name, n)] = if word = other then some n else none := by
    simp [lastNamed, hname]
  simp only [parameterNames, List.mem_cons, List.not_mem_nil, or_false] at hword
  rcases hword with rfl | rfl | rfl <;> simp [setTileOption?, override, hlast]

theorem setTileOption?_of_not_mem (hword : word ∉ parameterNames) :
    setTileOption? options word n = none := by
  simp only [parameterNames, List.mem_cons, List.not_mem_nil, or_false, not_or] at hword
  simp [setTileOption?, hword]

/-- The options that come of a list, or what is wrong with it. -/
def gathered (options : TileOptions) (pairs : List (Option CText × Int32)) :
    Except String TileOptions := do
  let found ← borrowedPairs pairs
  parseTileOptions options found

theorem gathered_cons_of_known {pairs : List (Option CText × Int32)}
    (hname : name.decode = .ok word) (hword : word ∈ parameterNames) :
    gathered options ((some name, n) :: pairs) =
      gathered (override options [(name, n)]) pairs := by
  unfold gathered
  rw [borrowedPairs, borrowed, hname]
  cases borrowedPairs pairs with
  | error problem => rfl
  | ok found =>
    show parseTileOptions options ((word, n) :: found) = parseTileOptions _ found
    rw [parseTileOptions, setTileOption?_of_known hname hword]

theorem gathered_cons_of_unknown (options : TileOptions) {pairs : List (Option CText × Int32)}
    (h : ¬ Known name) :
    ∃ problem, gathered options ((some name, n) :: pairs) = .error problem := by
  unfold gathered
  rw [borrowedPairs, borrowed]
  cases hname : name.decode with
  | error fault => exact ⟨_, rfl⟩
  | ok word =>
    have hword : word ∉ parameterNames := fun hword => h ⟨word, hword, hname⟩
    cases borrowedPairs pairs with
    | error problem => exact ⟨_, rfl⟩
    | ok found =>
      show ∃ problem, parseTileOptions options ((word, n) :: found) = .error problem
      rw [parseTileOptions, setTileOption?_of_not_mem hword]
      exact ⟨_, rfl⟩

/-- A list of known names gives options, and no other list does. -/
theorem gathered_cases (options : TileOptions) (pairs : List (Option CText × Int32)) :
    (∃ problem, gathered options pairs = .error problem ∧ ∃ p ∈ named pairs, ¬ Known p.1) ∨
      gathered options pairs = .ok (override options (named pairs)) ∧
        ∀ p ∈ named pairs, Known p.1 := by
  induction pairs generalizing options with
  | nil => exact .inr ⟨rfl, nofun⟩
  | cons pair rest ih =>
    obtain ⟨_ | name, n⟩ := pair
    · exact .inr ⟨rfl, nofun⟩
    by_cases hknown : Known name
    · obtain ⟨word, hword, hname⟩ := hknown
      rw [gathered_cons_of_known hname hword, named, override_cons options (named rest)]
      obtain ⟨problem, hproblem, p, hp, hunknown⟩ | ⟨hok, hall⟩ := ih (override options [(name, n)])
      · exact .inl ⟨problem, hproblem, p, List.mem_cons_of_mem _ hp, hunknown⟩
      · exact .inr ⟨hok, List.forall_mem_cons.2 ⟨⟨word, hword, hname⟩, hall⟩⟩
    · obtain ⟨problem, hproblem⟩ := gathered_cons_of_unknown options hknown
      exact .inl ⟨problem, hproblem, (name, n), List.mem_cons_self .., hknown⟩

/-! ## Lists that ask for the same -/

theorem eq_of_decode {other : CText} (h : name.decode = .ok word) (h' : other.decode = .ok word) :
    name = other := by
  have hbytes : name.bytes = other.bytes :=
    (Text.Utf8.encode_of_decode h).symm.trans (Text.Utf8.encode_of_decode h')
  cases name
  cases other
  simp_all

theorem mem_of_lastNamed (h : lastNamed word parameters = some n) :
    ∃ name, (name, n) ∈ parameters ∧ name.decode = .ok word := by
  obtain ⟨⟨name, m⟩, hmem, hvalue⟩ := List.exists_of_findSome?_eq_some h
  by_cases hname : name.decode = .ok word
  · rw [if_pos hname] at hvalue
    cases hvalue
    exact ⟨name, List.mem_reverse.1 hmem, hname⟩
  · rw [if_neg hname] at hvalue
    cases hvalue

/-- Under names that differ, the last value of a name is its only one. -/
theorem lastNamed_eq_some_iff (h : (parameters.map (·.1)).Nodup) :
    lastNamed word parameters = some n ↔
      ∃ name, (name, n) ∈ parameters ∧ name.decode = .ok word := by
  refine ⟨mem_of_lastNamed, ?_⟩
  rintro ⟨name, hmem, hname⟩
  cases hlast : lastNamed word parameters with
  | none =>
    have hnone := List.findSome?_eq_none_iff.1 hlast (name, n) (List.mem_reverse.2 hmem)
    rw [if_pos hname] at hnone
    cases hnone
  | some m =>
    obtain ⟨other, hother, hdecode⟩ := mem_of_lastNamed hlast
    have hsame : (other, m) = (name, n) :=
      List.inj_on_of_nodup_map h hother hmem (eq_of_decode hdecode hname)
    rw [(Prod.mk.inj hsame).2]

theorem override_perm (hperm : others.Perm parameters) (h : (parameters.map (·.1)).Nodup) :
    override options others = override options parameters := by
  have hlast (word : String) : lastNamed word others = lastNamed word parameters := by
    refine Option.ext fun n => ?_
    rw [lastNamed_eq_some_iff h, lastNamed_eq_some_iff ((hperm.map _).nodup_iff.2 h)]
    simp only [hperm.mem_iff]
  simp only [override, hlast]

/-! ## The entry point -/

variable {image : Option Handle} {place : Place} {pairs more : List (Option CText × Int32)}

/-- What stands behind a null name is not looked at. -/
theorem borrowedPairs_named (pairs : List (Option CText × Int32)) :
    borrowedPairs pairs = borrowedPairs ((named pairs).map fun p => (some p.1, p.2)) := by
  induction pairs with
  | nil => rfl
  | cons pair rest ih =>
    obtain ⟨_ | name, n⟩ := pair
    · rfl
    · rw [named, List.map_cons, borrowedPairs, borrowedPairs, ih]

theorem task_eq (image : Option Handle) (place : Place) (pairs : List (Option CText × Int32)) :
    (Export.cacheImageWith image place pairs).task =
      (do caching image place (← gathered { } pairs) : Except String (Attempt Image)) := by
  show (do
    let found ← borrowedPairs pairs
    caching image place (← parseTileOptions { } found) : Except String (Attempt Image)) = _
  unfold gathered
  cases borrowedPairs pairs <;> rfl

/-- The entry point looks at nothing of its list but what comes of it. -/
theorem cacheImageWith_congr (h : gathered { } more = gathered { } pairs) :
    cacheImageWith image place more = cacheImageWith image place pairs := by
  have hwork : (Export.cacheImageWith image place more).worked =
      (Export.cacheImageWith image place pairs).worked := by
    unfold Export.worked
    rw [task_eq, task_eq, h]
    rfl
  show (Export.cacheImageWith image place more).call =
    (Export.cacheImageWith image place pairs).call
  rw [Export.call_eq, Export.call_eq, hwork]
  rfl

theorem optionsOf_eq : override { } (named pairs) = optionsOf (named pairs) := by
  simp [override, optionsOf]

/-- Known parameters, an image and a place are all that the work needs. -/
theorem task_of_known (image : Option Handle) (place : Place)
    (hknown : ∀ p ∈ named pairs, Known p.1) :
    (Export.cacheImageWith image place pairs).task =
      caching image place (optionsOf (named pairs)) := by
  rw [task_eq]
  obtain ⟨_, -, p, hp, hunknown⟩ | ⟨hok, -⟩ := gathered_cases { } pairs
  · exact absurd (hknown p hp) hunknown
  · rw [hok, optionsOf_eq]
    rfl

theorem task_of_unknown (image : Option Handle) (place : Place)
    (hunknown : ¬ ∀ p ∈ named pairs, Known p.1) :
    ∃ problem, (Export.cacheImageWith image place pairs).task = .error problem := by
  rw [task_eq]
  obtain ⟨problem, hproblem, -⟩ | ⟨-, hknown⟩ := gathered_cases { } pairs
  · exact ⟨problem, by rw [hproblem]; rfl⟩
  · exact absurd hknown hunknown

/-! ## What is called -/

/-- An image is borrowed, cached and given back. -/
theorem caching_runs {handle : Handle} {options : TileOptions} {task : Attempt Image}
    {events : Transcript} {r : Except Failure Image}
    (htask : caching (some handle) .writable options = .ok task) (hrun : task.run.Runs events r)
    (htable : events.Lasting true) :
    ∃ calling, (tileCache ⟨⟨handle⟩⟩ options).run.Runs calling r ∧ calling.Lasting true ∧
      events.calls = .ref handle :: calling.calls ++ [.unref (some handle)] := by
  cases htask
  obtain ⟨f, hborrow, -⟩ | ⟨borrowing, rest, _, rfl, hborrow, hrest⟩ := runs_try_iff.1 hrun
  · cases (speaks_borrowImage (speaks_of_runs hborrow htable)).1
  obtain ⟨hborrowing, hlater⟩ := Transcript.lasting_append_iff.1 htable
  obtain ⟨⟨⟩, hsaid⟩ := speaks_borrowImage (speaks_of_runs hborrow hborrowing)
  have hcalls : borrowing.calls = [.ref handle] := by
    rw [← Transcript.calls_spoken, hsaid]
    rfl
  obtain ⟨calling, closing, rfl, hcalling, hclosing⟩ := runs_closedBy_iff.1 hrest
  obtain ⟨hcallingTable, hclosingTable⟩ := Transcript.lasting_append_iff.1 hlater
  refine ⟨calling, hcalling, hcallingTable, ?_⟩
  simp [hcalls, Operation.release_calls hclosing hclosingTable]

theorem caching_none_runs {options : TileOptions} {task : Attempt Image} {events : Transcript}
    {r : Except Failure Image} (htask : caching none .writable options = .ok task)
    (hrun : task.run.Runs events r) : events = [] ∧ r = .error (.nullPointer .image) := by
  cases htask
  exact runs_done_iff.1 hrun

theorem logged_calls {α : Type} (entry : String) (r : Except Failure α) :
    (logged entry r).calls = [] := by
  cases r <;> rfl

/-- What becomes of a task that cannot be done at all. -/
theorem refused_of_error {problem : String} {events : Transcript} {answer : Int32 × Option Handle}
    (htask : (Export.cacheImageWith image place pairs).task = .error problem)
    (hrun : (cacheImageWith image place pairs).Runs events answer) :
    events.calls = [] ∧ answer = (-1, none) := by
  have hcall : (Export.cacheImageWith image place pairs).call.Runs events answer := hrun
  obtain ⟨first, result, htried, rfl, rfl⟩ := Export.tried_of_call hcall
  rw [htask] at htried
  cases htried
  exact ⟨rfl, rfl⟩

/-- What a host gets that caches with named parameters, and what was called for it. -/
structure CachesWith (image : Option Handle) (place : Place)
    (parameters : List (CText × Int32)) (events : Transcript) (answer : Int32 × Option Handle) :
    Prop where
  /-- Nothing is called, and nothing is stored. -/
  refused : ((∃ p ∈ parameters, ¬ Known p.1) ∨ place = .null ∨ image = none) →
    events.calls = [] ∧ answer = (-1, none)
  /-- The image is cached as the program does it, with the options in their order. -/
  cached : ∀ handle, (∀ p ∈ parameters, Known p.1) → place = .writable → image = some handle →
    ∃ calling r result outputs,
      (tileCache ⟨⟨handle⟩⟩ (optionsOf parameters)).run.Runs calling r ∧
      events.calls = .ref handle :: calling.calls ++ [.unref (some handle)] ∧
      answer = Export.shared r.toOption ∧
      Operation.Exit "cache"
        ⟨("in", .image ⟨⟨handle⟩⟩) :: parameterNames.flatMap fun word =>
            (lastNamed word parameters).toList.map fun n => (word, .int n),
          [("out", .image none)]⟩ calling result outputs ∧
      r = Operation.imageOf result outputs
  /-- What is stored is the one reference that the host has afterwards. -/
  owned : ∀ x : Resource, ¬ x.OfCells → Books events x (x.inAny .object answer.2)

theorem inputs_optionsOf (parameters : List (CText × Int32)) :
    ((optionsOf parameters).arguments.map fun (name, n) => (name, Argument.int n)) =
      parameterNames.flatMap fun word =>
        (lastNamed word parameters).toList.map fun n => (word, .int n) := by
  unfold TileOptions.arguments optionsOf parameterNames
  simp only [List.flatMap_cons, List.flatMap_nil]
  cases lastNamed "max_tiles" parameters <;> cases lastNamed "tile_height" parameters <;>
    cases lastNamed "tile_width" parameters <;> rfl

theorem cachesWith {events : Transcript} {answer : Int32 × Option Handle}
    (hrun : (cacheImageWith image place pairs).Runs events answer) (htable : events.Lasting true) :
    CachesWith image place (named pairs) events answer := by
  have hcall : (Export.cacheImageWith image place pairs).call.Runs events answer := hrun
  have hdone {task : Attempt Image}
      (htask : (Export.cacheImageWith image place pairs).task = .ok task) :=
    (Export.runs_call_iff rfl rfl htask htable).1 hcall
  constructor
  case refused =>
    intro hbad
    by_cases hknown : ∀ p ∈ named pairs, Known p.1
    · have htask := task_of_known image place hknown
      obtain ⟨p, hp, hunknown⟩ | rfl | rfl := hbad
      · exact absurd (hknown p hp) hunknown
      · exact refused_of_error htask hrun
      · cases place with
        | null => exact refused_of_error htask hrun
        | writable =>
          obtain ⟨table, inner, r, rfl, hinner, rfl⟩ := hdone htask
          obtain ⟨rfl, rfl⟩ := caching_none_runs rfl hinner
          exact ⟨rfl, rfl⟩
    · obtain ⟨problem, htask⟩ := task_of_unknown image place hknown
      exact refused_of_error htask hrun
  case cached =>
    rintro handle hknown rfl rfl
    obtain ⟨table, inner, r, rfl, hinner, rfl⟩ := hdone (task_of_known _ _ hknown)
    obtain ⟨hinnerTable, -⟩ := Transcript.lasting_append_iff.1 htable.2
    obtain ⟨calling, hcalling, hcallingTable, hcalls⟩ := caching_runs rfl hinner hinnerTable
    obtain ⟨result, outputs, hexit, hr⟩ := Operation.imageCall_exits hcalling hcallingTable
      (Nat.le_refl 1) (by simp [TileOptions.callOptions, CallOptions.held]; rfl)
    refine ⟨calling, r, result, outputs, hcalling, ?_, rfl, ?_, hr⟩
    · show (inner ++ logged _ r).calls = _
      simp [hcalls, logged_calls]
    · rw [← inputs_optionsOf]
      exact hexit
  case owned =>
    intro x hx
    have hprogram : (Export.cacheImageWith image place pairs).program.Runs events
        (answer.2.map fun h => Holding.image ⟨⟨h⟩⟩).toList :=
      runs_bind_iff.2 ⟨events, [], answer, (List.append_nil _).symm, hrun, .done _⟩
    have hbooks : Books events x (x.worths _) :=
      Resource.export_books hx (show ¬ (Export.cacheImageWith image place pairs).Misplaced from id)
        hprogram htable
    obtain ⟨status, _ | h⟩ := answer
    · exact hbooks
    · exact hbooks

end Foreign

open Foreign

/-- Caching with named parameters is caching with the last value of each, for any list. What stands
behind a null name plays no part, and neither does the order of known parameters with different
names. -/
theorem named_parameters_are_the_options_they_name (image : Option Handle) (place : Place)
    (pairs : List (Option CText × Int32)) :
    (∀ events answer, (cacheImageWith image place pairs).Runs events answer →
      events.Lasting true → CachesWith image place (named pairs) events answer) ∧
    (∀ others, named others = named pairs →
      cacheImageWith image place others = cacheImageWith image place pairs) ∧
    ∀ others, (named others).Perm (named pairs) → ((named pairs).map (·.1)).Nodup →
      (∀ p ∈ named pairs, Known p.1) →
        cacheImageWith image place others = cacheImageWith image place pairs := by
  refine ⟨fun events answer => cachesWith, fun others hnamed => cacheImageWith_congr ?_,
    fun others hperm hnodup hknown => cacheImageWith_congr ?_⟩
  · unfold gathered
    rw [borrowedPairs_named others, borrowedPairs_named pairs, hnamed]
  · obtain ⟨_, -, p, hp, hunknown⟩ | ⟨hok, -⟩ := gathered_cases { } pairs
    · exact absurd (hknown p hp) hunknown
    obtain ⟨_, -, p, hp, hunknown⟩ | ⟨hother, -⟩ := gathered_cases { } others
    · exact absurd (hknown p (hperm.mem_iff.1 hp)) hunknown
    rw [hok, hother, override_perm hperm hnodup]

/-- Two tile widths and a number of tiles, and more behind a null name. -/
def someTiles : List (Option CText × Int32) :=
  [(some (.cut (Text.Utf8.encode "tile_width")), 32),
    (some (.cut (Text.Utf8.encode "max_tiles")), 3),
    (some (.cut (Text.Utf8.encode "tile_width")), 64), (none, 0),
    (some (.cut (Text.Utf8.encode "tile_height")), 9)]

/-- A library that caches the image. -/
def cachedTiles : Transcript :=
  let look : Event := Table.usual.shown
  look :: ([look, ⟨.call (.ref ⟨"image"⟩), ()⟩] ++
    (Transcript.cachingTiles .usual ⟨"image"⟩ ⟨"cached"⟩ ⟨2001⟩ ⟨some 3, none, some 64⟩ ++
      [look, ⟨.call (.unref (some ⟨"image"⟩)), ()⟩]))

/-- The number of tiles is assigned before the width, and the later width is the one that counts.
The parameter behind the null name plays no part. -/
theorem a_later_width_is_assigned_after_the_number_of_tiles :
    cachedTiles.steps = [.create (CText.ofString? "cache"),
        .assign ⟨"cache"⟩ (CText.ofString? "in"), .assign ⟨"cache"⟩ (CText.ofString? "max_tiles"),
        .assign ⟨"cache"⟩ (CText.ofString? "tile_width"), .build ⟨"cache"⟩,
        .fetch ⟨"built cache"⟩ (CText.ofString? "out"), .clear (some ⟨"built cache"⟩)] ∧
      CachesWith (some ⟨"image"⟩) .writable (named someTiles) cachedTiles (0, some ⟨"cached"⟩) ∧
      cacheImageWith (some ⟨"image"⟩) .writable (someTiles.take 3) =
        cacheImageWith (some ⟨"image"⟩) .writable someTiles := by
  have hknown : ∀ p ∈ named someTiles, Known p.1 := by
    simp only [someTiles, named, List.forall_mem_cons]
    exact ⟨⟨"tile_width", by decide, rfl⟩, ⟨"max_tiles", by decide, rfl⟩,
      ⟨"tile_width", by decide, rfl⟩, nofun⟩
  have htable : cachedTiles.Lasting true := by
    simp [cachedTiles, Table.shown, Transcript.lasting_append_iff,
      Transcript.cachingTiles_lasting, Transcript.Lasting, Resource.tableSeen]
  have hrun : (cacheImageWith (some ⟨"image"⟩) .writable someTiles).Runs cachedTiles
      (0, some ⟨"cached"⟩) := by
    have hborrow : (Image.borrow? (some ⟨"image"⟩)).run.Runs
        [Table.usual.shown, ⟨.call (.ref ⟨"image"⟩), ()⟩] (.ok (some ⟨⟨⟨"image"⟩⟩⟩)) :=
      .ask _ (.ask _ (.done _))
    have hcached : (tileCache ⟨⟨⟨"image"⟩⟩⟩ (optionsOf (named someTiles))).run.Runs
        (.cachingTiles .usual ⟨"image"⟩ ⟨"cached"⟩ ⟨2001⟩ ⟨some 3, none, some 64⟩)
        (.ok ⟨⟨⟨"cached"⟩⟩⟩) :=
      tileCache_completes _ (by decide) (by decide)
    have hrelease : (Image.release ⟨⟨⟨"image"⟩⟩⟩).Runs
        [Table.usual.shown, ⟨.call (.unref (some ⟨"image"⟩)), ()⟩] () := .ask _ (.ask _ (.done _))
    have hlent := runs_closedBy_iff.2 ⟨_, _, rfl, hcached, hrelease⟩
    show (Export.cacheImageWith (some ⟨"image"⟩) .writable someTiles).call.Runs _ _
    refine (Export.runs_call_iff rfl rfl (task_of_known _ _ hknown) htable).2 ?_
    exact ⟨.usual, _, .ok ⟨⟨⟨"cached"⟩⟩⟩, rfl, runs_after hborrow hlent, rfl⟩
  obtain ⟨hcaches, hnamed, -⟩ :=
    named_parameters_are_the_options_they_name (some ⟨"image"⟩) .writable someTiles
  exact ⟨rfl, hcaches cachedTiles _ hrun htable, hnamed _ rfl⟩

end ImageGateway
