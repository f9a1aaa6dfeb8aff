-- The books of references: for every object and every blob, what was taken from
-- the library and what was given back differ by what is still held, given away
-- or left in image slots.

import ImageGateway.Proofs.Custody.Sessions

namespace ImageGateway.Resource

variable {x : Resource} {s : Standing} {events : Transcript}

/-- A reference to an object or to a blob. -/
def IsReference : Resource → Prop
  | .object _ | .blob _ => True
  | _ => False

theorem IsReference.not_ofCells (hx : x.IsReference) : ¬ x.OfCells := by
  cases x <;> first | exact id | exact hx.elim

theorem IsReference.ne_text (hx : x.IsReference) (text : CText) : x ≠ .text text := by
  rintro rfl
  exact hx

/-- A run that turns the one into the other, in numbers. -/
theorem turns_of_runs {p : Program (List Holding)} {used : Nat} {made : List Holding}
    (h : x.Turns s p used) (hcount : s.count = used) (hrun : p.Runs events made)
    (hadmits : x.watch.Admits s events) :
    x.acquiredIn events + used = x.releasedIn events + x.slottedIn events + x.worths made := by
  obtain ⟨hallows, hmade⟩ := h.of_runs hrun hadmits
  have hafter := count_after hallows
  have hmoves := hmade.moves.count
  omega

/-- One deed on a published table: what it took and used up is what it gave back, left in slots and
made. -/
theorem deed_balance (hx : x.IsReference) {deed : Deed} {made : List Holding}
    (hrun : deed.program.Runs events made) (htable : events.Lasting true) :
    x.acquiredIn events + x.worths deed.uses =
      x.releasedIn events + x.slottedIn events + x.worths made := by
  have hsound {things : List Holding} : x.SoundAll things :=
    fun _ _ => sound_of_not hx.not_ofCells _
  have hready : x.Ready ⟨true, x.worths deed.uses, 0⟩ deed := by
    refine ⟨Nat.le_refl _, .inl rfl, hx.ne_text, hsound, fun v _ => ⟨?_, ?_⟩⟩
    · exact sound_of_not hx.not_ofCells _
    · rw [inCell_of_not hx.not_ofCells]
      exact Nat.zero_le _
  exact turns_of_runs (deed_turns deed hready) rfl hrun (admits_of_lasting hx.not_ofCells htable)

end ImageGateway.Resource

namespace ImageGateway

open Resource

/-- After any steps of a program on a published table, whatever the library answered: for every
object and every blob, the references taken from the library and those handed in are the references
given back, those that the program holds, those given away, and those left in image slots. -/
theorem every_reference_is_accounted_for {past : Past} {w : World} (h : Session past w)
    (hprogram : ∀ step ∈ past, step.1.IsProgram) (htable : past.trace.Lasting true) {x : Resource}
    (hx : x.IsReference) :
    x.acquiredIn past.trace + x.worths w.received =
      x.releasedIn past.trace + x.worths w.held + x.worths w.given + x.slottedIn past.trace := by
  induction h with
  | start => rfl
  | @step past w w' act events _ hstep ih =>
    rw [Past.trace_snoc, Transcript.lasting_append] at htable
    have hpast := ih (fun step hs => hprogram step (List.mem_append_left _ hs)) htable.1
    have hact : act.IsProgram := hprogram (act, events) (by simp)
    simp only [Past.trace_snoc, acquiredIn_append, releasedIn_append, slottedIn_append]
    cases hstep with
    | @deed d rest made _ hheld _ hrun =>
      have hbalance := deed_balance hx hrun (by simpa using htable.2)
      rw [worths_perm hheld, worths_append] at hpast
      simp only [worths_append]
      omega
    | give hheld =>
      rw [worths_perm hheld] at hpast
      simp only [worths_cons, acquiredIn_nil, releasedIn_nil, slottedIn_nil] at hpast ⊢
      omega
    | receive =>
      simp only [worths_cons, acquiredIn_nil, releasedIn_nil, slottedIn_nil] at hpast ⊢
      omega
    | takeBack hgiven =>
      rw [worths_perm hgiven] at hpast
      simp only [worths_cons, acquiredIn_nil, releasedIn_nil, slottedIn_nil] at hpast ⊢
      omega
    | takeEmpty =>
      simpa [worth] using hpast
    | enter => exact hact.elim
    | hostInit => exact hact.elim
    | hostUnset => exact hact.elim
    | hostDrop => exact hact.elim

/-- A target is made, with its reference, and given away. -/
def targetGivenAway : Past :=
  [(.deed .memoryTarget, [⟨.table, some ⟨⟨"libvips.so.42"⟩, none, []⟩⟩,
      ⟨.call .targetToMemory, some ⟨"target"⟩⟩]),
    (.give (.object ⟨⟨"target"⟩⟩), [])]

theorem a_target_given_away_is_accounted_for :
    Session targetGivenAway ⟨[], [.object ⟨⟨"target"⟩⟩], [], []⟩ ∧
      (Resource.object ⟨"target"⟩).acquiredIn targetGivenAway.trace +
          (Resource.object ⟨"target"⟩).worths [] =
        (Resource.object ⟨"target"⟩).releasedIn targetGivenAway.trace +
          (Resource.object ⟨"target"⟩).worths [] +
          (Resource.object ⟨"target"⟩).worths [.object ⟨⟨"target"⟩⟩] +
          (Resource.object ⟨"target"⟩).slottedIn targetGivenAway.trace := by
  have hrun : Deed.memoryTarget.program.Runs [⟨.table, some ⟨⟨"libvips.so.42"⟩, none, []⟩⟩,
      ⟨.call .targetToMemory, some ⟨"target"⟩⟩] [.object ⟨⟨"target"⟩⟩] := .ask _ (.ask _ (.done _))
  have hheld : World.empty.held.Perm (Deed.memoryTarget.uses ++ []) := .refl []
  have hmade := Session.step .start (.deed hheld nofun hrun)
  have hgiven : Session targetGivenAway ⟨[], [.object ⟨⟨"target"⟩⟩], [], []⟩ :=
    .step hmade (.give (.refl _))
  refine ⟨hgiven, every_reference_is_accounted_for hgiven ?_ ?_ trivial⟩
  · intro step hstep
    rcases List.mem_cons.1 hstep with rfl | hstep
    · trivial
    · cases List.mem_singleton.1 hstep
      trivial
  · exact ⟨fun _ _ => rfl, nofun, trivial⟩

end ImageGateway
