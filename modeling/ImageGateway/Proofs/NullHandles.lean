-- Null handles: the library gets no object and no blob at all in one place only,
-- the clean-up after a build that failed and left nothing.

import ImageGateway.Native.Trace
import ImageGateway.Proofs.Conduct.Sessions

namespace ImageGateway

/-- The entry points that take an object or a blob. -/
def objectEntries : List String :=
  ["g_object_ref", "g_object_unref", "vips_area_unref", "vips_object_unref_outputs",
    "vips_object_get_argument", "g_object_get_property", "g_object_set_property",
    "vips_cache_operation_buildp", "vips_source_new_from_blob", "vips_blob_get",
    "vips_image_get_width", "vips_image_get_height", "vips_image_get_bands"]

/-- Whether the call goes to one of those entry points with null among its arguments. -/
def Call.PassesNull (call : Call) : Prop :=
  call.entry ∈ objectEntries ∧ .null ∈ call.arguments

instance (call : Call) : Decidable call.PassesNull := inferInstanceAs (Decidable (_ ∧ _))

/-- Whether the request is such a call. -/
def Request.PassesNull : Request → Prop
  | .call c => c.PassesNull
  | _ => False

theorem Payload.datum_ne_null (payload : Payload) : payload.datum ≠ .null := by
  cases payload <;> nofun

theorem Call.passesNull_iff {call : Call} :
    call.PassesNull ↔ call = .unref none ∨ call = .unrefOutputs none := by
  constructor
  · rintro ⟨hentry, hnull⟩
    cases call with
    | unref object =>
      cases object with
      | none => exact .inl rfl
      | some object => simp [arguments, Datum.handle?] at hnull
    | unrefOutputs object =>
      cases object with
      | none => exact .inr rfl
      | some object => simp [arguments, Datum.handle?] at hnull
    | enumFromNick domain type nick => simp [entry, objectEntries] at hentry
    | cellSet cell payload => simp [arguments, payload.datum_ne_null.symm] at hnull
    | apply setting => cases setting <;> simp [arguments, Setting.datum, Datum.flag] at hnull
    | _ => simp [arguments, Datum.type] at hnull
  · rintro (rfl | rfl) <;> decide

/-! ## Builds that fail and leave nothing -/

/-- A build that failed and left no operation. -/
def Event.FailsEmpty (e : Event) : Prop :=
  ∃ operation, ∃ status : Int32, status ≠ 0 ∧ e = ⟨.call (.build operation), (status, none)⟩

/-- What is done after it: the error is taken, the outputs of no operation are given up, and then
the operation that is none. -/
def emptyCleanUp : List Request :=
  [.call .errorBuffer, .call (.act .errorClear), .call (.unrefOutputs none), .call (.unref none)]

/-- The watch that knows what has to be done after such a build, and lets null pass only there. -/
def nullWatch : Watch (List Request) where
  allows
    | [], q => ¬ q.PassesNull
    | next :: _, q => q = next
  admits _ _ _ := True
  next
    | [], .call (.build _), (status, none) => if status = 0 then [] else emptyCleanUp
    | [], _, _ => []
    | _ :: pending, _, _ => pending

def nullConduct : Conduct (List Request) where
  watch := nullWatch
  calm pending := pending = []
  cell _ := True
  image _ := True
  enum _ := True

namespace NullConduct

open Program Request Conduct

variable {events : Transcript} {pending : List Request}

theorem admits_all (pending : List Request) (events : Transcript) :
    nullWatch.Admits pending events := by
  induction events generalizing pending with
  | nil => trivial
  | cons e events ih => exact ⟨trivial, ih _⟩

theorem next_nil {q : Request} (h : ∀ operation, q ≠ .call (.build operation)) (r : q.Reply) :
    nullWatch.next [] q r = [] := by
  unfold nullWatch
  dsimp only
  split
  · exact absurd rfl (h _)
  · rfl
  · contradiction

/-- Only a build that failed and left nothing leaves something to do. -/
theorem next_build (operation : Handle) (status : Int32) (left : Option Handle) :
    nullWatch.next [] (.call (.build operation)) (status, left) =
      if status ≠ 0 ∧ left = none then emptyCleanUp else [] := by
  cases left <;> by_cases hstatus : status = 0 <;> simp [nullWatch, hstatus]

theorem plain {q : Request} (hnull : ¬ q.PassesNull)
    (hbuild : ∀ operation, q ≠ .call (.build operation)) : nullConduct.Plain q := by
  rintro _ rfl
  exact ⟨hnull, fun r _ => next_nil hbuild r⟩

theorem plain_of_ordinary (q : Request) (h : q.Ordinary) : nullConduct.Plain q := by
  apply plain
  · cases q with
    | call c =>
      intro hnull
      rcases Call.passesNull_iff.1 hnull with rfl | rfl <;> exact h
    | _ => exact id
  · rintro operation rfl
    exact h

theorem plain_of_question (q : Request) (h : q.Question) : nullConduct.Plain q :=
  plain_of_ordinary q (ordinary_of_question q h)

theorem set_minds (object : Object) (name : String) (v : Value) :
    nullConduct.Minds (Property.set object name v) := by
  refine minds_of_asks (set_asks (fun q hq => ?_) (fun _ _ => plain_of_ordinary _ trivial) name v)
  apply plain
  · cases q with
    | call c =>
      intro hnull
      rcases Call.passesNull_iff.1 hnull with rfl | rfl <;> exact hq
    | _ => exact id
  · rintro operation rfl
    exact hq

/-- What follows the reply to a build does what is pending then. -/
theorem built_tries (nickname : String) (status : Int32) (left : Option Handle) :
    nullWatch.Tries (if status ≠ 0 ∧ left = none then emptyCleanUp else []) (do
      if status ≠ 0 then
        let message ← takeError
        native (.unrefOutputs left)
        native (.unref left)
        throw (.operation nickname message)
      match left with
      | some handle => return ⟨⟨handle⟩, nickname⟩
      | none => throw (.nullPointer .operation) : Attempt Operation)
      (fun _ pending => True ∧ pending = []) fun _ pending => pending = [] := by
  have hplain (call : Call) (h : (Request.call call).Ordinary) :
      nullConduct.Heeds (native call) := heeds_request (plain_of_ordinary _ h)
  by_cases hstatus : status = 0
  · rw [if_neg fun h => h.1 hstatus, if_neg fun h => h hstatus]
    cases left with
    | none => exact (rfl : ([] : List Request) = [])
    | some handle => exact ⟨trivial, rfl⟩
  · cases left with
    | none =>
      rw [if_pos ⟨hstatus, rfl⟩, if_pos hstatus]
      exact ⟨rfl, fun _ _ => ⟨rfl, fun _ _ => ⟨rfl, fun _ _ => ⟨rfl, fun _ _ => rfl⟩⟩⟩⟩
    | some handle =>
      rw [if_neg nofun, if_pos hstatus]
      have hfailed : nullConduct.Minds (do
          let message ← takeError
          native (.unrefOutputs (some handle))
          native (.unref (some handle))
          throw (.operation nickname message) : Attempt Operation) :=
        (heeds_of_asks (takeError_asks plain_of_question)).then fun _ _ =>
          (hplain (.unrefOutputs (some handle)) trivial).then fun _ _ =>
            (hplain (.unref (some handle)) trivial).then fun _ _ => gets_throw
      exact hfailed [] rfl

theorem build_minds (operation : Operation) : nullConduct.Minds operation.build := by
  refine (heeds_request (plain_of_question .table trivial)).then fun table _ => ?_
  cases table with
  | none =>
    exact (heeds_of_asks (objectRelease_asks (inquiry_of plain_of_question)
      (plain_of_ordinary _ trivial))).then fun _ _ => gets_throw
  | some table =>
    rintro _ rfl
    refine ⟨?_, ?_⟩
    · intro hnull
      rcases Call.passesNull_iff.1 hnull with h | h <;> cases h
    · rintro ⟨status, left⟩ -
      have hnext := next_build operation.object.handle status left
      exact hnext ▸ built_tries operation.nickname status left

theorem lawful : nullConduct.Lawful :=
  .of_ordinary (fun _ => trivial) (fun _ => trivial) plain_of_ordinary set_minds build_minds

/-! ## What runs show -/

/-- A step from a calm note leaves a calm one, or is a build that failed and left nothing. -/
theorem next_eq (e : Event) :
    nullWatch.next [] e.request e.reply = [] ∨
      e.FailsEmpty ∧ nullWatch.next [] e.request e.reply = emptyCleanUp := by
  obtain ⟨q, r⟩ := e
  by_cases hbuild : ∃ operation, q = .call (.build operation)
  · obtain ⟨operation, rfl⟩ := hbuild
    obtain ⟨status, left⟩ := r
    dsimp only
    rw [next_build]
    split
    · rename_i h
      obtain ⟨hstatus, rfl⟩ := h
      exact .inr ⟨⟨operation, status, hstatus, rfl⟩, rfl⟩
    · exact .inl rfl
  · exact .inl (next_nil (by simpa using hbuild) r)

/-- Whatever is still to be done was to be done before, or belongs to the clean-up after a build
that failed and left nothing. What is done of it was done since. -/
theorem pending_of_allows {before : List Request} (hallows : nullWatch.Allows before events)
    (hne : nullWatch.after before events ≠ []) :
    events.map Event.request ++ nullWatch.after before events = before ∨
      ∃ first build done, events = first ++ build :: done ∧ build.FailsEmpty ∧
        done.map Event.request ++ nullWatch.after before events = emptyCleanUp := by
  induction events generalizing before with
  | nil => exact .inl rfl
  | cons e events ih =>
    obtain ⟨hallowed, hrest⟩ := hallows
    rcases ih hrest hne with hpending | ⟨first, build, done, rfl, hbuild, hdone⟩
    · cases before with
      | cons q before =>
        obtain rfl : e.request = q := hallowed
        exact .inl (congrArg (e.request :: ·) hpending)
      | nil =>
        rcases next_eq e with hcalm | ⟨hbuild, hcleanUp⟩
        · exact absurd (List.append_eq_nil_iff.1 (hpending.trans hcalm)).2 hne
        · exact .inr ⟨[], e, events, rfl, hbuild, hpending.trans hcleanUp⟩
    · exact .inr ⟨e :: first, build, done, rfl, hbuild, hdone⟩

/-- What is to be done is done next. -/
theorem prefix_of_allows (hallows : nullWatch.Allows pending events)
    (hafter : nullWatch.after pending events = []) :
    pending <+: events.map Event.request := by
  induction pending generalizing events with
  | nil => exact List.nil_prefix
  | cons q pending ih =>
    cases events with
    | nil => cases hafter
    | cons e events =>
      obtain ⟨hallowed, hrest⟩ := hallows
      obtain rfl : e.request = q := hallowed
      exact (List.prefix_cons_inj _).2 (ih hrest hafter)

/-- From a calm start, what is to be done belongs to the clean-up after a build that failed and left
nothing, and the rest of that clean-up was done since. -/
theorem build_of_pending {q : Request} (hallows : nullWatch.Allows [] events)
    (hafter : nullWatch.after [] events = q :: pending) :
    ∃ first build done, events = first ++ build :: done ∧ build.FailsEmpty ∧
      done.map Event.request ++ q :: pending = emptyCleanUp := by
  have hpending := pending_of_allows hallows (by simp [hafter])
  rw [hafter] at hpending
  exact hpending.resolve_left fun hcalm => by simp at hcalm

theorem build_of_null {first rest : Transcript} {e : Event}
    (hallows : nullWatch.Allows [] (first ++ e :: rest)) (hnull : e.request.PassesNull) :
    ∃ before build done, first ++ [e] = before ++ build :: done ∧ build.FailsEmpty ∧
      done.map Event.request <+: emptyCleanUp := by
  obtain ⟨hfirst, hallowed, -⟩ := (Watch.allows_append _ _ _).1 hallows
  rcases hafter : nullWatch.after [] first with _ | ⟨q, pending⟩
  · rw [hafter] at hallowed
    exact absurd hnull hallowed
  · rw [hafter] at hallowed
    obtain rfl : e.request = q := hallowed
    obtain ⟨before, build, done, rfl, hbuild, hdone⟩ := build_of_pending hfirst hafter
    exact ⟨before, build, done ++ [e], by simp, hbuild, pending, by simpa using hdone⟩

theorem cleanUp_of_build {first rest : Transcript} {build : Event}
    (hallows : nullWatch.Allows [] (first ++ build :: rest))
    (hcalm : nullWatch.after [] (first ++ build :: rest) = []) (hbuild : build.FailsEmpty) :
    emptyCleanUp <+: rest.map Event.request := by
  obtain ⟨hfirst, hallowed, hrest⟩ := (Watch.allows_append _ _ _).1 hallows
  rw [Watch.after_append] at hcalm
  obtain ⟨operation, status, hstatus, rfl⟩ := hbuild
  rcases hafter : nullWatch.after [] first with _ | ⟨q, pending⟩
  · rw [hafter] at hrest hcalm
    have hdue : nullWatch.Allows emptyCleanUp rest := by simpa [next_build, hstatus] using hrest
    have hdone : nullWatch.after emptyCleanUp rest = [] := by
      simpa [Watch.after, next_build, hstatus] using hcalm
    exact prefix_of_allows hdue hdone
  · -- a build is no part of the clean-up, so none can be what is to be done
    rw [hafter] at hallowed
    obtain rfl : .call (.build operation) = q := hallowed
    obtain ⟨_, _, done, _, _, hdone⟩ := build_of_pending hfirst hafter
    have hmem : Request.call (.build operation) ∈ emptyCleanUp := by
      rw [← hdone]
      simp
    simp [emptyCleanUp] at hmem

end NullConduct

/-- Whatever a program and a foreign host do, and whatever the library answers: null goes where an
object or a blob is taken only in the clean-up after a build that failed and left nothing, and that
clean-up follows every such build. -/
theorem null_is_passed_after_an_empty_failed_build_only {past : Past} {w : World}
    (h : Session past w) :
    (∀ first e rest, past.trace = first ++ e :: rest → e.request.PassesNull →
      ∃ before build done, first ++ [e] = before ++ build :: done ∧ build.FailsEmpty ∧
        done.map Event.request <+: emptyCleanUp) ∧
    ∀ first build rest, past.trace = first ++ build :: rest → build.FailsEmpty →
      emptyCleanUp <+: rest.map Event.request := by
  obtain ⟨hallows, hcalm, -⟩ :
      nullWatch.Allows [] past.trace ∧ nullWatch.after [] past.trace = [] ∧ _ :=
    NullConduct.lawful.session (n := []) h.fair rfl (NullConduct.admits_all [] past.trace)
  constructor
  · intro first e rest hsplit hnull
    rw [hsplit] at hallows
    exact NullConduct.build_of_null hallows hnull
  · intro first build rest hsplit hbuild
    rw [hsplit] at hallows hcalm
    exact NullConduct.cleanUp_of_build hallows hcalm hbuild

/-! ## A build that fails and leaves nothing -/

/-- The operation "black" is made, its build fails, and no operation comes back. -/
def nothingLeft : Transcript :=
  let table : Event := ⟨.table, some ⟨⟨"libvips.so.42"⟩, none, []⟩⟩
  [⟨.log .debug "vips call black", ()⟩, table,
    ⟨.call (.operationNew (.cut [98, 108, 97, 99, 107])), some ⟨"op"⟩⟩, table,
    ⟨.call (.build ⟨"op"⟩), (-1, none)⟩, ⟨.call .errorBuffer, none⟩,
    ⟨.call (.act .errorClear), ()⟩, ⟨.call (.unrefOutputs none), ()⟩, ⟨.call (.unref none), ()⟩]

def nothingLeftPast : Past := [(.deed (.call "black" {}), nothingLeft)]

theorem nothingLeftPast_session : Session nothingLeftPast .empty := by
  have hcall : (Deed.call "black" {}).program.Runs nothingLeft [] :=
    .ask _ (.ask _ (.ask _ (.ask _ (.ask _ (.ask _ (.ask _ (.ask _ (.ask _ (.done _)))))))))
  exact .step .start (.deed (d := .call "black" {}) (.refl _) nofun hcall)

/-- Null can go where an object is taken. -/
theorem no_object_at_all_can_be_released :
    ¬ ∀ (past : Past) (w : World), Session past w → past.trace.Lasting true →
      ∀ e ∈ past.trace, ¬ e.request.PassesNull := by
  intro h
  have htable : nothingLeftPast.trace.Lasting true := by
    simp [nothingLeftPast, nothingLeft, Past.trace, Transcript.Lasting, Resource.tableSeen]
  have hnull : (Call.unref none).PassesNull := by decide
  refine h _ _ nothingLeftPast_session htable ⟨.call (.unref none), ()⟩ ?_ hnull
  simp [nothingLeftPast, nothingLeft, Past.trace]

theorem null_goes_into_the_clean_up_of_nothing_left :
    (∃ before build done, nothingLeft.take 8 = before ++ build :: done ∧ build.FailsEmpty ∧
      done.map Event.request <+: emptyCleanUp) ∧
    emptyCleanUp <+: (nothingLeft.drop 5).map Event.request := by
  have hnull : (Call.unrefOutputs none).PassesNull := by decide
  have hbuild : Event.FailsEmpty ⟨.call (.build ⟨"op"⟩), (-1, none)⟩ := ⟨⟨"op"⟩, -1, by decide, rfl⟩
  obtain ⟨hpasses, hfollows⟩ :=
    null_is_passed_after_an_empty_failed_build_only nothingLeftPast_session
  constructor
  · exact hpasses (nothingLeft.take 7) ⟨.call (.unrefOutputs none), ()⟩ (nothingLeft.drop 8) rfl
      hnull
  · exact hfollows (nothingLeft.take 4) _ (nothingLeft.drop 5) rfl hbuild

end ImageGateway
