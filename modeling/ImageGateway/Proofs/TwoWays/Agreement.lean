-- A host and the program come to the same end. Whatever a host reads of a
-- property or assigns to it, the program reads or assigns with the same requests
-- to the library, in the same order, and it fails where the host gets nothing.

import ImageGateway.Proofs.TwoWays.Assigning

namespace ImageGateway

open Program

/-- A host assigned the cell `c`, which was filled with the argument, and the program puts the
argument into a cell and assigns that. `boxing` and `setting` are what the program asks for. -/
structure AssignsAlike (operation : Operation) (s : String) (name : CText) (argument : Argument)
    (c : Cell) (filling assigning boxing setting : Transcript) (r : Except Failure Unit) :
    Prop where
  /-- The host makes the same assignment, and a failure of it is logged. -/
  said : assigning.spoken = setting.spoken ++ Foreign.logged "vo_set_property" r
  /-- All that the program does besides is that it gives the cell up. It ends like the host, and in
  no other way. -/
  ends : ∀ releasing, (Value.release ⟨c⟩).Runs releasing () → ∀ r',
    (operation.set s argument).run.Runs (boxing ++ (setting ++ releasing)) r' ↔ r' = r
  /-- The property is assigned exactly if the program does not fail. -/
  steps : assigning.steps = if r.isOk then [.assign operation.object.handle (some name)] else []
  /-- The cell of the host stays as it is, if each cell gets a number of its own. -/
  kept : (filling ++ assigning).numbers.Nodup → ∀ k, c.number = some k → ∀ ev ∈ assigning,
    ¬ ev.request.Alters k

/-- A host, who has the name as a native text, and the program do the same to the property of an
operation. -/
structure WaysAgree (operation : Operation) (s : String) (name : CText) : Prop where
  /-- A reader for the host looks at the table once and does what the reader of the program does.
  It stores what that answers, and nothing if that fails. -/
  reads : ∀ (reader : Reader) {events : Transcript} {stored : Option reader.Stored},
    events.Lasting true →
      ((reader.entry (some operation.object.handle) (some name) .writable).Runs events stored ↔
        ∃ table inner r,
          events = ⟨.table, some table⟩ :: (inner ++ Foreign.logged reader.entryName r) ∧
          (reader.read operation.object s).run.Runs inner r ∧
          stored = r.toOption.map reader.stored)
  /-- Where a host gets a copy of a text, the program reads that text. -/
  copies : ∀ {events : Transcript} {stored : Option (Option CText)}, events.Lasting true →
    (Foreign.getString (some operation.object.handle) (some name) .writable).Runs events stored →
      ∃ table inner r,
        events = ⟨.table, some table⟩ :: (inner ++ Foreign.logged "vo_get_string" r) ∧
        stored = r.toOption ∧
        ∀ answer, answer ≠ 0 → (Property.getString operation.object s).run.Runs
          (inner.plainly answer) (r.map (Option.map CText.lossy))
  /-- Where the program reads a text, a host gets a copy of it. -/
  copied : ∀ {plain : Transcript} {r' : Except Failure (Option String)},
    (Property.getString operation.object s).run.Runs plain r' → plain.Reflexive →
      plain.Initialising → ∃ answer inner r, answer ≠ 0 ∧ plain = Transcript.plainly answer inner ∧
        r' = r.map (Option.map CText.lossy) ∧ ∀ table,
          (Foreign.getString (some operation.object.handle) (some name) .writable).Runs
            (⟨.table, some table⟩ :: (inner ++ Foreign.logged "vo_get_string" r)) r.toOption
  /-- The program reads a text as it is, if it is one at all. -/
  readable : ∀ {t : String} {text : CText}, CText.ofString? t = some text → text.lossy = t
  /-- A host fills a cell exactly if the program can put the argument into one, and with the same
  requests, and if the host assigns the cell, both assign it alike. -/
  sets : ∀ {argument : Argument} {entry : String} {p : Program (Option Cell)}
    {filling : Transcript} {made : Option Cell}, argument.PassedBy entry p →
      filling.Lasting true → p.Runs filling made →
      ∃ boxing boxed, argument.toValue.run.Runs boxing boxed ∧
        made = boxed.toOption.map Value.cell ∧
        filling.spoken = Transcript.refs argument.borrowed ++ boxing.spoken ++
          Transcript.unrefs argument.borrowed ++ Foreign.logged entry boxed ∧
        ∀ {c : Cell} {assigning : Transcript}, made = some c → assigning.Lasting true →
          (Foreign.setProperty (some operation.object.handle) (some name) (some c)).Runs
            assigning () →
          ∃ setting r, AssignsAlike operation s name argument c filling assigning boxing setting r
  /-- Whatever the program can put into a cell, bytes apart, a host can pass. -/
  passed : ∀ {argument : Argument} {boxing : Transcript} {v : Value},
    argument.toValue.run.Runs boxing (.ok v) → (∀ bytes, argument ≠ .bytes bytes) →
      ∃ entry p, argument.PassedBy entry p

/-! ## What is left alone -/

section

variable {argument : Argument} {c : Cell} {filling assigning boxing setting : Transcript}

theorem numbers_of_fills {entry : String} {boxed : Except Failure Value}
    (h : filling.spoken = Transcript.refs argument.borrowed ++ boxing.spoken ++
      Transcript.unrefs argument.borrowed ++ Foreign.logged entry boxed) {k : Nat}
    (hk : k ∈ boxing.numbers) : k ∈ filling.numbers := by
  rw [← Transcript.numbers_spoken filling, h]
  simp only [Transcript.numbers_append, List.mem_append]
  rw [← Transcript.numbers_spoken boxing] at hk
  exact .inl (.inl (.inr hk))

/-- An assignment initialises cells of its own and alters no others, so it does not alter a cell
that was filled before. -/
theorem kept_of_set {object : Object} {s : String} {r : Except Failure Unit} {table : Table}
    {entry : String} (hset : (Property.set object s ⟨c⟩).run.Runs setting r)
    (hc : ∀ k, c.number = some k → k ∈ filling.numbers)
    (hnodup : (filling ++
      ⟨.table, some table⟩ :: (setting ++ Foreign.logged entry r)).numbers.Nodup)
    {k : Nat} (hk : c.number = some k) {ev : Event}
    (hev : ev ∈ ⟨.table, some table⟩ :: (setting ++ Foreign.logged entry r)) :
    ¬ ev.request.Alters k := by
  intro halters
  rcases List.mem_cons.1 hev with rfl | hev
  · exact halters
  rcases List.mem_append.1 hev with hev | hev
  · have hown := OwnCells.mem_numbers_of_set hset hev halters
    rw [Transcript.numbers_append, List.nodup_append] at hnodup
    have hlater : k ∈ Transcript.numbers
        (⟨.table, some table⟩ :: (setting ++ Foreign.logged entry r)) := by
      show k ∈ Transcript.numbers (setting ++ Foreign.logged entry r)
      rw [Transcript.numbers_append]
      exact List.mem_append_left _ hown
    exact hnodup.2.2 k (hc k hk) k hlater rfl
  · exact harmless_logged hev k halters

end

/-- To every property of every operation, a host and the program do the same. Whatever the library
answers, a reader for the host stores what the reader of the program answers, after the same
requests, and a text is the copy of what the program reads. A value that a host puts into a cell and
assigns is assigned exactly if the program, given it as an argument, assigns it without a failure,
with the same requests up to the references to images of an array and the end of the cell. -/
theorem a_host_and_the_program_do_alike (operation : Operation) {s : String} {name : CText}
    (hname : CText.ofString? s = some name) : WaysAgree operation s name where
  reads reader _ _ htable := reader.runs_iff hname htable
  copies htable h := by
    obtain ⟨table, inner, r, rfl, hcopy, rfl⟩ := (getString_runs_iff hname htable).1 h
    exact ⟨table, inner, r, rfl, rfl, fun answer => Property.getString_runs hcopy⟩
  copied h hself hinits := by
    obtain ⟨answer, inner, r, hanswer, rfl, rfl, hcopy⟩ := Property.copyText_runs h hself hinits
    exact ⟨answer, inner, r, hanswer, rfl, rfl, fun table => getString_call_runs hname table hcopy⟩
  readable := CText.lossy_of_ofString?
  sets := by
    intro argument entry p filling made hpass hfilling h
    obtain ⟨boxing, boxed, hboxing, rfl, hspoken⟩ := hpass.fills h hfilling
    refine ⟨boxing, boxed, hboxing, rfl, hspoken, ?_⟩
    intro c assigning hmade hassigning hcall
    obtain ⟨v, rfl, rfl⟩ : ∃ v, boxed = .ok v ∧ v.cell = c := by
      cases boxed with
      | error f => cases hmade
      | ok v => exact ⟨v, rfl, Option.some.inj hmade⟩
    obtain ⟨table, setting, r, rfl, hset⟩ := setProperty_runs hname hcall hassigning
    refine ⟨setting, r, ?_, ?_, ?_, ?_⟩
    · rw [Transcript.spoken_cons_table, Transcript.spoken_append, spoken_logged]
    · intro releasing hreleasing r'
      have hwhole := operationSet_runs hboxing hset hreleasing
      exact ⟨runs_unique hwhole, fun hr => hr ▸ hwhole⟩
    · rw [Transcript.steps_cons, Transcript.steps_append, steps_logged, steps_of_set hname hset]
      simp [Request.step?]
    · intro hnodup k hk ev hev
      exact kept_of_set hset (fun k hk => numbers_of_fills hspoken
        (OwnCells.owned_of_runs (OwnCells.toValue_makes argument) hboxing k hk)) hnodup hk hev
  passed := Argument.exists_passedBy

/-! ### A number that is set, a truth value and a text that are read -/

/-- An operation of a host. -/
def resizing : Operation := ⟨⟨⟨"op"⟩⟩, "resize"⟩

/-- What a host says to fill a cell with a number. -/
def numberFilled : Transcript :=
  [⟨.table, some ⟨⟨"vips"⟩, none, []⟩⟩, ⟨.table, some ⟨⟨"vips"⟩, none, []⟩⟩,
    ⟨.call (.cellInit .int), some 1⟩, ⟨.call (.cellSet ⟨some 1, .int⟩ (.int 3)), ()⟩]

/-- What is asked to assign the cell. -/
def numberSet : Transcript :=
  [⟨.table, some ⟨⟨"vips"⟩, none, []⟩⟩,
    ⟨.call (.getArgument ⟨"op"⟩ (.cut [110])), ⟨0, some ⟨none, .int⟩, some 19⟩⟩,
    ⟨.call (.fundamental .int), .int⟩, ⟨.call (.transformable .int .int), 1⟩,
    ⟨.call (.setProperty ⟨"op"⟩ (.cut [110]) ⟨some 1, .int⟩), ()⟩]

/-- What is asked up to the look into a new cell of the type. -/
def fetched (type : TypeId) : Transcript :=
  [⟨.table, some ⟨⟨"vips"⟩, none, []⟩⟩,
    ⟨.call (.getArgument ⟨"op"⟩ (.cut [110])), ⟨0, some ⟨none, type⟩, some 19⟩⟩,
    ⟨.call (.transformable type type), 1⟩, ⟨.table, some ⟨⟨"vips"⟩, none, []⟩⟩,
    ⟨.call (.cellInit type), some 1⟩, ⟨.call (.getProperty ⟨"op"⟩ (.cut [110]) ⟨some 1, type⟩), ()⟩,
    ⟨.table, some ⟨⟨"vips"⟩, none, []⟩⟩, ⟨.call (.isA type type), 1⟩]

/-- What is asked to read a truth value. -/
def truthRead : Transcript :=
  fetched .boolean ++ [⟨.call (.cellGet ⟨some 1, .boolean⟩ .boolean), (2 : Int32)⟩,
    ⟨.table, some ⟨⟨"vips"⟩, none, []⟩⟩, ⟨.call (.cellUnset ⟨some 1, .boolean⟩), ()⟩]

/-- What is asked to read a text. -/
def textRead : Transcript :=
  fetched .string ++ [⟨.call (.cellGet ⟨some 1, .string⟩ .string), some (.cut [120])⟩,
    ⟨.table, some ⟨⟨"vips"⟩, none, []⟩⟩, ⟨.call (.cellUnset ⟨some 1, .string⟩), ()⟩]

theorem a_number_is_set_and_a_truth_value_and_a_text_are_read_alike :
    WaysAgree resizing "n" (.cut [110]) ∧
      (∃ boxing setting, ∀ releasing, (Value.release ⟨⟨some 1, .int⟩⟩).Runs releasing () →
        (resizing.set "n" (.int 3)).run.Runs (boxing ++ (setting ++ releasing)) (.ok ())) ∧
      (∃ events, (Foreign.getBool (some ⟨"op"⟩) (some (.cut [110])) .writable).Runs events
        (some 1)) ∧
      ∃ events text, text.lossy = "x" ∧
        (Foreign.getString (some ⟨"op"⟩) (some (.cut [110])) .writable).Runs events
          (some (some text)) := by
  have hname : CText.ofString? "n" = some (.cut [110]) := rfl
  have hways := a_host_and_the_program_do_alike resizing hname
  refine ⟨hways, ?_, ?_, ?_⟩
  · have hfill : (Foreign.setInt .writable 3).Runs numberFilled (some ⟨some 1, .int⟩) :=
      .ask _ (.ask _ (.ask _ (.ask _ (.done _))))
    have hset : (Property.set ⟨⟨"op"⟩⟩ "n" ⟨⟨some 1, .int⟩⟩).run.Runs numberSet (.ok ()) :=
      .ask _ (.ask _ (.ask _ (.ask _ (.ask _ (.done _)))))
    have hcall := Export.call_runs (e := .setProperty (some ⟨"op"⟩) (some (.cut [110]))
      (some ⟨some 1, .int⟩)) rfl rfl (Export.onBorrowed_some hname fun object name =>
        Property.set object name ⟨⟨some 1, .int⟩⟩) ⟨⟨"vips"⟩, none, []⟩ hset
    obtain ⟨boxing, boxed, -, -, -, hassigns⟩ := hways.sets (.int 3)
      (by simp [numberFilled, Transcript.Lasting, Resource.tableSeen]) hfill
    obtain ⟨setting, r, halike⟩ := hassigns rfl
      (by simp [numberSet, Foreign.logged, Transcript.Lasting, Resource.tableSeen]) hcall
    refine ⟨boxing, setting, fun releasing hreleasing => (halike.ends releasing hreleasing _).2 ?_⟩
    have hsteps := halike.steps
    cases r with
    | error failure => cases hsteps
    | ok _ => rfl
  · have hread : (Property.getBool ⟨⟨"op"⟩⟩ "n").run.Runs truthRead (.ok true) :=
      .ask _ (.ask _ (.ask _ (.ask _ (.ask _ (.ask _ (.ask _ (.ask _ (.ask _ (.ask _ (.ask _
        (.done _)))))))))))
    exact ⟨_, (hways.reads .bool (by simp [truthRead, fetched, Foreign.logged, Transcript.Lasting,
      Resource.tableSeen])).2 ⟨⟨⟨"vips"⟩, none, []⟩, truthRead, .ok true, rfl, hread, rfl⟩⟩
  · have hread : (Property.getString ⟨⟨"op"⟩⟩ "n").run.Runs textRead (.ok (some "x")) :=
      .ask _ (.ask _ (.ask _ (.ask _ (.ask _ (.ask _ (.ask _ (.ask _ (.ask _ (.ask _ (.ask _
        (.done _)))))))))))
    obtain ⟨answer, inner, r, -, -, hr, hcall⟩ := hways.copied hread
      (by simp [textRead, fetched, Transcript.Reflexive]) (by
        simp [textRead, fetched, Transcript.Initialising])
    have hstored := hcall ⟨⟨"vips"⟩, none, []⟩
    rcases r with f | _ | text
    · cases hr
    · cases hr
    · exact ⟨_, text, (Option.some.inj (Except.ok.inj hr)).symm, hstored⟩

end ImageGateway
