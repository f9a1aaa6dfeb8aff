-- A text comes to the library whole or not at all. What the library gets is the whole
-- of a text that was given. A text with a zero byte is refused when it has its turn,
-- and then everything that was made before is given back.

import Mathlib.Data.List.Nodup
import ImageGateway.Proofs.Cells
import ImageGateway.Proofs.References
import ImageGateway.Proofs.Texts.Refusing
import ImageGateway.Proofs.Texts.Spelling

namespace ImageGateway

open Program

/-! ## The place of a zero byte -/

namespace Text.Utf8

variable {s : String}

theorem zero_at_firstZero (h : 0 ∈ encode s) : (encode s)[firstZero s]? = some 0 :=
  List.getElem?_idxOf h

theorem no_zero_before_firstZero (h : 0 ∈ encode s) : 0 ∉ (encode s).take (firstZero s) :=
  fun hmem => Nat.lt_irrefl _ ((List.mem_take_iff_idxOf_lt h).1 hmem)

end Text.Utf8

/-! ## What a refusal leaves -/

theorem Request.texts_of_givesBack {q : Request} (h : q.GivesBack) : q.texts = [] := by
  unfold GivesBack at h
  split at h <;> first | rfl | exact h.elim

/-- What a failed deed leaves with its owner: nothing, or what the outputs of a call hold. -/
inductive Deed.Leaves : Deed → List Holding → Prop where
  | nothing {deed : Deed} : Leaves deed []
  | outputs {nickname : String} {options : CallOptions} (outputs : List Output) :
    Leaves (.call nickname options) (outputs.flatMap Output.holdings)

/-- The books of a deed that refused a text. -/
structure Deed.GivesAllBack (deed : Deed) (events : Transcript) : Prop where
  references : ∃ made, deed.program.Runs events made ∧ deed.Leaves made ∧
    ∀ x : Resource, x.IsReference → x.acquiredIn events + x.worths deed.uses =
      x.releasedIn events + x.slottedIn events + x.worths made
  /-- The cells that were unset are those that were initialised. -/
  cells : events.Numbered → events.unsets.Perm events.numbers

/-- A deed with a text that has a zero byte fails for it. The message tells the place of the first
zero byte. No text is passed on any more. All that is left to do is to give things back, and all of
them are given back. -/
structure Deed.TurnsDown (deed : Deed) (s : String) (events rest : Transcript)
    (r : Except Failure (List Holding)) : Prop where
  failed : r = .error (.zeroByte s)
  place : ∃ n, (Failure.zeroByte s).message =
      "Invalid C string. nul byte found in provided data at position: " ++ toString n ∧
    (Text.Utf8.encode s)[n]? = some 0 ∧ 0 ∉ (Text.Utf8.encode s).take n
  givesBack : ∀ e ∈ rest, e.request.GivesBack ∧ e.request.texts = []
  books : deed.GivesAllBack events

section

variable {α : Type} {deed : Deed} {events : Transcript} {failure : Failure}

theorem found_failed {p : Attempt (List Holding)} (hrun : p.run.Runs events (.error failure)) :
    (Deed.found p).Runs events [] :=
  runs_bind_iff.2 ⟨events, [], .error failure, by simp, hrun, .done _⟩

theorem look_runs {p : Attempt α} {r : Except Failure (List Holding)}
    (hrun : p.nothing.run.Runs events r) :
    Program.Runs (do p.forget; return []) events ([] : List Holding) := by
  obtain ⟨answer, hanswer, -⟩ := runs_map_iff.1 hrun
  have hforget : p.forget.Runs events () :=
    runs_bind_iff.2 ⟨events, [], answer, by simp, hanswer, .done _⟩
  exact runs_bind_iff.2 ⟨events, [], (), by simp, hforget, .done _⟩

/-- A deed with texts that fails has made nothing, unless it is a call. -/
theorem deed_failed (htexts : deed.texts ≠ [])
    (hrun : deed.attempt.run.Runs events (.error failure)) :
    ∃ made, deed.program.Runs events made ∧ deed.Leaves made := by
  cases deed with
  | call nickname options =>
    obtain ⟨first, last, ⟨result, outputs⟩, rfl, hcall, hlast⟩ := runs_bind_iff.1 hrun
    obtain ⟨rfl, -⟩ := runs_done_iff.1 hlast
    exact ⟨_, runs_bind_iff.2 ⟨first, [], _, rfl, hcall, .done _⟩, .outputs outputs⟩
  | look query =>
    cases query <;> first
      | exact absurd rfl htexts
      | exact ⟨[], look_runs hrun, .nothing⟩
  | _ =>
    first
      | exact absurd rfl htexts
      | exact ⟨[], found_failed hrun, .nothing⟩

end

namespace Resource

variable {deed : Deed} {events : Transcript} {made : List Holding}

theorem worths_of_no_value {k : Nat} {things : List Holding} (h : ∀ v, .value v ∉ things) :
    (cell k).worths things = 0 := worths_of_ofCells (show (cell k).OfCells from trivial) h

/-- A deed that uses up no value and makes none, and is lent none, unsets each cell that it
initialises. -/
theorem cells_balance (huses : ∀ v, .value v ∉ deed.uses) (hmade : ∀ v, .value v ∉ made)
    (hlent : deed.lent? = none) (hrun : deed.program.Runs events made)
    (htable : events.Lasting true) (hnumbered : events.Numbered) :
    events.unsets.Perm events.numbers := by
  refine List.perm_iff_count.2 fun k => ?_
  have hused : (cell k).worths deed.uses = 0 := worths_of_no_value huses
  have hready : (cell k).Ready ⟨true, 0, 0⟩ deed := by
    refine ⟨Nat.le_of_eq hused, .inl rfl, nofun, fun v hv => absurd hv (huses v), ?_⟩
    intro v hv
    rw [hlent] at hv
    cases hv
  have hadmits : (cell k).watch.Admits ⟨true, 0, 0⟩ events := by
    refine admits_of_numbered htable hnumbered.types ?_
    rw [acquiredIn_cell]
    simpa [Standing.there] using List.nodup_iff_count_le_one.1 hnumbered.nodup k
  have hbalance := turns_of_runs (deed_turns deed hready) hused.symm hrun hadmits
  rw [hused, slottedIn_cell, worths_of_no_value hmade, releasedIn_cell, acquiredIn_cell] at hbalance
  exact hbalance.symm

end Resource

/-- An assignment with a name that has a zero byte only looks at the table. -/
theorem set_refused {object : Object} {name : String} {value : Value} {events : Transcript}
    {r : Except Failure Unit} (hrun : (Property.set object name value).run.Runs events r)
    (hzero : 0 ∈ Text.Utf8.encode name) : ∃ found, events = [⟨.table, found⟩] := by
  rcases runs_try_iff.1 hrun with ⟨failure, hfailed, -⟩ | ⟨first, second, _, rfl, hlook, hrest⟩
  · obtain ⟨_, rfl, -⟩ | ⟨rfl, -⟩ := requireTable_cases hfailed
    · exact ⟨_, rfl⟩
    · exact ⟨_, rfl⟩
  · obtain ⟨table, rfl, -⟩ | ⟨-, ⟨⟩⟩ := requireTable_cases hlook
    rcases runs_try_iff.1 hrest with ⟨_, htext, -⟩ | ⟨third, fourth, text, rfl, htext, -⟩
    · obtain ⟨rfl, -⟩ := nativeText_cases htext
      exact ⟨some table, rfl⟩
    · obtain ⟨-, ⟨-, ⟨⟩⟩ | ⟨_, hbytes, ⟨⟩⟩⟩ := nativeText_cases htext
      exact absurd (hbytes ▸ hzero) text.no_zero

theorem Deed.Leaves.no_value {deed : Deed} {made : List Holding} (h : deed.Leaves made)
    (v : Value) : .value v ∉ made := by
  cases h with
  | nothing => exact List.not_mem_nil
  | outputs outputs => exact Resource.value_not_mem_holdings outputs v

theorem deed_uses_no_value {deed : Deed} (htexts : deed.texts ≠ []) (v : Value) :
    .value v ∉ deed.uses := by
  cases deed with
  | call nickname options => exact Resource.value_not_mem_holdings options.held v
  | _ => first | exact absurd rfl htexts | exact List.not_mem_nil

/-- Of the deeds with texts only an assignment is lent a value. -/
theorem deed_lent {deed : Deed} (htexts : deed.texts ≠ []) :
    deed.lent? = none ∨ ∃ object name value, deed = .setProperty object name value := by
  cases deed with
  | setProperty object name value => exact .inr ⟨object, name, value, rfl⟩
  | _ => first | exact absurd rfl htexts | exact .inl rfl

/-- Whatever a deed made before it refused a text, it gave back. -/
theorem deed_givesAllBack {deed : Deed} {events : Transcript} {c : Conversion}
    (hc : c ∈ deed.conversions) (hzero : 0 ∈ Text.Utf8.encode c.text)
    (hrun : deed.attempt.run.Runs events (.error (.zeroByte c.text)))
    (htable : events.Lasting true) : deed.GivesAllBack events := by
  have htexts : deed.texts ≠ [] := List.ne_nil_of_mem (List.mem_map_of_mem hc)
  obtain ⟨made, hprogram, hleaves⟩ := deed_failed htexts hrun
  refine ⟨⟨made, hprogram, hleaves, fun x hx => Resource.deed_balance hx hprogram htable⟩, ?_⟩
  intro hnumbered
  -- An assignment is lent a cell, which may be any. But it comes to nothing but its name.
  rcases deed_lent htexts with hlent | ⟨object, name, value, rfl⟩
  · exact Resource.cells_balance (deed_uses_no_value htexts) hleaves.no_value hlent hprogram htable
      hnumbered
  · cases List.mem_singleton.1 hc
    obtain ⟨answer, hset, -⟩ := runs_map_iff.1 hrun
    obtain ⟨found, rfl⟩ := set_refused hset hzero
    exact .nil

/-- A call whose input has a name with a zero byte. -/
def spoiltCall : Deed := .call "invert" ⟨[("n\x00", .int 7)], []⟩

/-- The operation is made and the input is boxed before the name has its turn. -/
def untilTheName : Transcript :=
  let table : Event := ⟨.table, some ⟨⟨"libvips.so.42"⟩, none, []⟩⟩
  let invert : CText := ⟨[105, 110, 118, 101, 114, 116], by decide⟩
  [⟨.log .debug "vips call invert", ()⟩, table, ⟨.call (.operationNew invert), some ⟨"op"⟩⟩,
    table, ⟨.call (.cellInit .int), some 1⟩, ⟨.call (.cellSet ⟨some 1, .int⟩ (.int 7)), ()⟩, table]

/-- First the box is given back, and then the operation. -/
def fromTheName : Transcript :=
  let table : Event := ⟨.table, some ⟨⟨"libvips.so.42"⟩, none, []⟩⟩
  [table, ⟨.call (.cellUnset ⟨some 1, .int⟩), ()⟩, table, ⟨.call (.unref (some ⟨"op"⟩)), ()⟩]

end ImageGateway
