-- The life of cells. Each initialised cell is unset once, or it has one owner:
-- a value, or the host. The law holds between any two steps of a session, and
-- inside a step no cell is passed on before its initialisation or after its end.

import ImageGateway.Proofs.Copies
import ImageGateway.Proofs.Custody.Sessions

namespace ImageGateway

/-- The number of the cell that a value owns. -/
def Holding.number? : Holding → Option Nat
  | .value v => v.cell.number
  | _ => none

namespace World

/-- The numbers of the cells that values of the program own. -/
def heldNumbers (w : World) : List Nat := w.held.filterMap Holding.number?

/-- The numbers of the cells that foreign owners own. -/
def foreignNumbers (w : World) : List Nat :=
  w.given.filterMap Holding.number? ++ w.own.filterMap Cell.number

/-- The numbers of all cells that have an owner. -/
def numbers (w : World) : List Nat := w.heldNumbers ++ w.foreignNumbers

end World

/-- The number of the cell that a call unsets. -/
def Event.unset? (e : Event) : Option Nat :=
  match e.request with
  | .call (.cellUnset c) => c.number
  | _ => none

/-- The numbers of the cells that are unset, oldest first. -/
def Transcript.unsets (events : Transcript) : List Nat := events.filterMap Event.unset?

namespace Resource

variable {x : Resource} {s : Standing}

/-! ## Counting by numbers -/

theorem inAny_cell (k : Nat) (number : Option Nat) :
    (cell k).inAny .cell number = number.toList.count k := by
  rcases number with _ | m
  · rfl
  · by_cases hm : k = m <;> simp [one, hm, eq_comm]

theorem worth_cell (k : Nat) (thing : Holding) :
    (cell k).worth thing = thing.number?.toList.count k := by
  cases thing with
  | value v => exact inAny_cell k v.cell.number
  | _ => rfl

theorem count_filterMap {α : Type} (f : α → Option Nat) (k : Nat) (items : List α) :
    (items.filterMap f).count k = (items.map fun a => (f a).toList.count k).sum := by
  induction items with
  | nil => rfl
  | cons a rest ih =>
    rcases ha : f a with _ | m <;> simp [ha, ih, List.count_cons, Nat.add_comm]

theorem worths_cell (k : Nat) (things : List Holding) :
    (cell k).worths things = (things.filterMap Holding.number?).count k := by
  rw [count_filterMap, worths]
  congr 1
  exact List.map_congr_left fun thing _ => worth_cell k thing

theorem returned_cell (k : Nat) (e : Event) :
    (cell k).returned e.request = e.unset?.toList.count k := by
  obtain ⟨q, r⟩ := e
  cases q with
  | call c =>
    cases c with
    | cellUnset c => exact inAny_cell k c.number
    | unref h => rcases h with _ | h <;> rfl
    | _ => rfl
  | _ => rfl

theorem releasedIn_cell (k : Nat) (events : Transcript) :
    (cell k).releasedIn events = events.unsets.count k := by
  rw [Transcript.unsets, count_filterMap, releasedIn]
  congr 1
  exact List.map_congr_left fun e _ => returned_cell k e

theorem slottedIn_cell (k : Nat) (events : Transcript) : (cell k).slottedIn events = 0 := by
  induction events with
  | nil => rfl
  | cons e events ih =>
    rw [slottedIn_cons, ih]
    unfold slotted
    split <;> rfl

theorem inCells_cell (k : Nat) (cells : List Cell) :
    (cells.map (cell k).inCell).sum = (cells.filterMap Cell.number).count k := by
  rw [count_filterMap]
  congr 1
  exact List.map_congr_left fun c _ => inAny_cell k c.number

theorem numbers_count (k : Nat) (w : World) :
    w.numbers.count k = (cell k).worths w.held +
      ((cell k).worths w.given + (w.own.map (cell k).inCell).sum) := by
  simp only [World.numbers, World.heldNumbers, World.foreignNumbers, List.count_append, worths_cell,
    inCells_cell]

/-! ## What a session keeps -/

/-- Between two steps a resource of cells is counted as often as it is owned. -/
structure Fits (x : Resource) (s : Standing) (w : World) : Prop where
  count : s.count = x.worths w.held + (x.worths w.given + (w.own.map x.inCell).sum)
  /-- Values are made on a published table only. -/
  loaded : x.worths w.held + x.worths w.given = 0 ∨ s.loaded = true
  held : x.SoundAll w.held
  given : x.SoundAll w.given
  own : ∀ c ∈ w.own, x.Sound c

theorem lent_after {events : Transcript} : (x.watch.after s events).lent = s.lent := by
  induction events generalizing s with
  | nil => rfl
  | cons e events ih => exact ih

theorem soundAll_perm {things more : List Holding} (h : things.Perm more) :
    x.SoundAll things ↔ x.SoundAll more := by
  simp [SoundAll, h.mem_iff]

theorem soundAll_cons {thing : Holding} {rest : List Holding} :
    x.SoundAll (thing :: rest) ↔ x.SoundAll [thing] ∧ x.SoundAll rest := by
  rw [← soundAll_append]
  rfl

theorem inCell_le_worths {v : Value} {things : List Holding} (h : .value v ∈ things) :
    x.inCell v.cell ≤ x.worths things := by
  obtain ⟨first, rest, rfl⟩ := List.append_of_mem h
  simp only [worths_append, worths_cons, worth]
  omega

theorem inCell_le_sum {c : Cell} {cells : List Cell} (h : c ∈ cells) :
    x.inCell c ≤ (cells.map x.inCell).sum := by
  obtain ⟨first, rest, rfl⟩ := List.append_of_mem h
  simp only [List.map_append, List.map_cons, List.sum_append, List.sum_cons]
  omega

/-- If a table was published wherever something was owned, then so it is with what was made. -/
theorem Made.loaded_or {t : Standing} {used before : Nat} {made : List Holding}
    (h : x.Made s t used made) (hx : x.OfCells) (hloaded : before = 0 ∨ s.loaded = true) :
    x.worths made + before = 0 ∨ t.loaded = true := by
  rcases h.loaded hx with hnone | ht
  · rcases hloaded with hbefore | hs
    · exact .inl (by omega)
    · exact .inr (h.moves.loaded hs)
  · exact .inr ht

section

variable {w : World} {events : Transcript}

theorem Fits.deed {d : Deed} {rest made : List Holding} (hx : x.OfCells) (h : x.Fits s w)
    (hperm : w.held.Perm (d.uses ++ rest)) (hlent : ∀ v, d.lent? = some v → .value v ∈ w.held)
    (hrun : d.program.Runs events made) (hadmits : x.watch.Admits s events) :
    x.watch.Allows s events ∧ x.Fits (x.watch.after s events) { w with held := made ++ rest } := by
  have hcount := h.count
  have hworths := x.worths_perm hperm
  rw [worths_append] at hworths
  obtain ⟨huses, hrest⟩ := soundAll_append.1 ((soundAll_perm hperm).1 h.held)
  have hready : x.Ready s d := by
    refine ⟨by omega, ?_, ?_, huses, fun v hv => ⟨h.held v (hlent v hv), ?_⟩⟩
    · exact h.loaded.symm.imp id fun hnone => ⟨hx, by omega⟩
    · rintro text rfl
      exact hx
    · have hle := x.inCell_le_worths (hlent v hv)
      unfold Standing.there
      omega
  obtain ⟨hallows, hmade⟩ := (deed_turns d hready).of_runs hrun hadmits
  have hmoves := hmade.moves.count
  refine ⟨hallows, ?_, ?_, soundAll_append.2 ⟨hmade.sound, hrest⟩, h.given, h.own⟩
  · simp only [worths_append]
    omega
  · have hleft : x.worths rest + x.worths w.given = 0 ∨ s.loaded = true :=
      h.loaded.imp (fun hnone => by omega) id
    simpa only [worths_append, Nat.add_assoc] using hmade.loaded_or hx hleft

theorem Fits.enter {entry : Export} {stored : List Holding} (hx : x.OfCells) (h : x.Fits s w)
    (hlent : ∀ c, entry.lent? = some c → .value ⟨c⟩ ∈ w.given ∨ c ∈ w.own)
    (hrun : entry.program.Runs events stored) (hadmits : x.watch.Admits s events) :
    x.watch.Allows s events ∧
      x.Fits (x.watch.after s events) { w with given := stored ++ w.given } := by
  have hcount := h.count
  have hthere : ∀ c, entry.lent? = some c → x.Sound c ∧ x.inCell c ≤ s.there := by
    intro c hc
    unfold Standing.there
    rcases hlent c hc with hmem | hmem
    · have hle : x.inCell c ≤ x.worths w.given := x.inCell_le_worths hmem
      exact ⟨h.given ⟨c⟩ hmem, by omega⟩
    · have hle := x.inCell_le_sum hmem
      exact ⟨h.own c hmem, by omega⟩
  obtain ⟨hallows, hmade⟩ := (export_turns entry (.inr hx) hthere).of_runs hrun hadmits
  have hmoves := hmade.moves.count
  refine ⟨hallows, ?_, ?_, h.held, soundAll_append.2 ⟨hmade.sound, h.given⟩, h.own⟩
  · simp only [worths_append]
    omega
  · simpa only [worths_append, Nat.add_left_comm] using hmade.loaded_or hx h.loaded

theorem Fits.hostInit {number : Nat} {type : TypeId} (h : x.Fits s w)
    (hadmits : x.watch.Admits s [⟨.call (.cellInit type), some number⟩]) :
    x.watch.Allows s [⟨.call (.cellInit type), some number⟩] ∧
      x.Fits (x.watch.after s [⟨.call (.cellInit type), some number⟩])
        { w with own := ⟨some number, type⟩ :: w.own } := by
  have hcount := h.count
  obtain ⟨hfull, hfresh⟩ := hadmits.1
  refine ⟨⟨⟨Nat.zero_le _, nofun⟩, trivial⟩, ?_, ?_, h.held, h.given, ?_⟩
  · simp only [Watch.after, watch, spent, gained, List.map_cons, List.sum_cons, inCell]
    omega
  · exact h.loaded.imp id fun hs => by simp [Watch.after, watch, hs]
  · intro c hc
    rcases List.mem_cons.1 hc with rfl | hc
    · exact ⟨hfull, fun k hk hnumber => (hfresh k hk hnumber).1⟩
    · exact h.own c hc

/-- The owner of a cell may unset it. -/
theorem allows_unset {c : Cell} (hsound : x.Sound c) (hcount : x.inCell c ≤ s.count) :
    x.watch.Allows s [⟨.call (.cellUnset c), ()⟩] := by
  refine ⟨⟨hcount, ?_⟩, trivial⟩
  simpa [Request.cells] using hsound.lends (Nat.le_trans hcount (Nat.le_add_right _ s.lent))

theorem Fits.hostUnset {c : Cell} {rest : List Cell} (h : x.Fits s w)
    (hperm : w.own.Perm (c :: rest)) :
    x.watch.Allows s [⟨.call (.cellUnset c), ()⟩] ∧
      x.Fits (x.watch.after s [⟨.call (.cellUnset c), ()⟩]) { w with own := rest } := by
  have hcount := h.count
  have hsum := (hperm.map x.inCell).sum_nat
  rw [List.map_cons, List.sum_cons] at hsum
  have hc : c ∈ w.own := hperm.mem_iff.2 (List.mem_cons_self ..)
  refine ⟨allows_unset (h.own c hc) (by omega), ?_, ?_, h.held, h.given, fun c' hc' => ?_⟩
  · simp only [Watch.after, watch, spent, gained]
    omega
  · exact h.loaded.imp id fun hs => by simp [Watch.after, watch, hs]
  · exact h.own c' (hperm.mem_iff.2 (List.mem_cons_of_mem _ hc'))

theorem Fits.hostDrop {v : Value} {rest : List Holding} (h : x.Fits s w)
    (hperm : w.given.Perm (.value v :: rest)) :
    x.watch.Allows s [⟨.call (.cellUnset v.cell), ()⟩] ∧
      x.Fits (x.watch.after s [⟨.call (.cellUnset v.cell), ()⟩]) { w with given := rest } := by
  have hcount := h.count
  have hworths := x.worths_perm hperm
  rw [worths_cons, worth] at hworths
  obtain ⟨hv, hrest⟩ := soundAll_cons.1 ((soundAll_perm hperm).1 h.given)
  have hsound := hv v (List.mem_singleton_self _)
  refine ⟨allows_unset hsound (by omega), ?_, ?_, h.held, hrest, h.own⟩
  · simp only [Watch.after, watch, spent, gained]
    omega
  · refine h.loaded.imp (fun hnone => ?_) fun hs => by simp [Watch.after, watch, hs]
    dsimp only
    omega

/-- What holds between two steps holds after the next one. -/
theorem Fits.step {w' : World} {act : Act} (hx : x.OfCells) (h : x.Fits s w)
    (hstep : act.Step w events w') (hadmits : x.watch.Admits s events)
    (hempty : act = .takeEmpty → x.Sound .empty) :
    x.watch.Allows s events ∧ x.Fits (x.watch.after s events) w' := by
  have hcount := h.count
  have hloaded := h.loaded
  cases hstep with
  | deed hperm hlent hrun => exact h.deed hx hperm hlent hrun hadmits
  | @give thing rest hperm =>
    have hworths := x.worths_perm hperm
    rw [worths_cons] at hworths
    obtain ⟨hthing, hrest⟩ := soundAll_cons.1 ((soundAll_perm hperm).1 h.held)
    refine ⟨trivial, ?_, ?_, hrest, soundAll_cons.2 ⟨hthing, h.given⟩, h.own⟩
    · simp only [worths_cons, Watch.after]
      omega
    · refine hloaded.imp (fun hnone => ?_) id
      simp only [worths_cons]
      omega
  | @receive thing hreference =>
    have hvalue : ∀ v, thing ≠ .value v := by
      rintro v rfl
      exact hreference
    have hworth := worth_of_ofCells hx hvalue
    refine ⟨trivial, ?_, ?_, soundAll_cons.2 ⟨soundAll_of_ne hvalue, h.held⟩, h.given, h.own⟩
    · simpa only [worths_cons, hworth, Nat.zero_add, Watch.after] using hcount
    · simpa only [worths_cons, hworth, Nat.zero_add, Watch.after] using hloaded
  | @takeBack v rest hperm =>
    have hworths := x.worths_perm hperm
    rw [worths_cons] at hworths
    obtain ⟨hv, hrest⟩ := soundAll_cons.1 ((soundAll_perm hperm).1 h.given)
    refine ⟨trivial, ?_, ?_, soundAll_cons.2 ⟨hv, h.held⟩, hrest, h.own⟩
    · simp only [worths_cons, Watch.after]
      omega
    · refine hloaded.imp (fun hnone => ?_) id
      simp only [worths_cons]
      omega
  | takeEmpty =>
    refine ⟨trivial, ?_, ?_, ?_, h.given, h.own⟩
    · simpa [worth, Watch.after] using hcount
    · simpa [worth, Watch.after] using hloaded
    · exact soundAll_cons.2 ⟨soundAll_value (hempty rfl), h.held⟩
  | enter hlent hrun => exact h.enter hx hlent hrun hadmits
  | hostInit number type => exact h.hostInit hadmits
  | hostUnset hperm => exact h.hostUnset hperm
  | hostDrop hperm => exact h.hostDrop hperm

end

/-- What holds between any two steps of a session, for a resource of cells. -/
theorem fits_of_session {seen : Bool} {past : Past} {w : World} (hx : x.OfCells)
    (h : Session past w) (hadmits : x.watch.Admits ⟨seen, 0, 0⟩ past.trace)
    (hempty : (∃ step ∈ past, step.1 = .takeEmpty) → x.Sound .empty) :
    x.watch.Allows ⟨seen, 0, 0⟩ past.trace ∧
      x.Fits (x.watch.after ⟨seen, 0, 0⟩ past.trace) w := by
  induction h with
  | start => exact ⟨trivial, rfl, .inl rfl, soundAll_nil, soundAll_nil, nofun⟩
  | @step past w w' act events _ hstep ih =>
    rw [Past.trace_snoc] at hadmits ⊢
    rw [Watch.allows_append, Watch.after_append]
    obtain ⟨hbefore, hadmits⟩ := (Watch.admits_append _ _ _).1 hadmits
    obtain ⟨hallows, hfits⟩ := ih hbefore fun ⟨earlier, hmem, hact⟩ =>
      hempty ⟨earlier, List.mem_append_left _ hmem, hact⟩
    obtain ⟨hnext, hfits⟩ := hfits.step hx hstep hadmits fun hact =>
      hempty ⟨(act, events), by simp, hact⟩
    exact ⟨⟨hallows, hnext⟩, hfits⟩

end Resource

open Resource

variable {past : Past} {w : World} {seen : Bool}

theorem Transcript.Numbered.of_append {first second : Transcript}
    (h : Numbered (first ++ second)) : Numbered first where
  types type number he := h.types type number (List.mem_append_left _ he)
  nodup := by
    have hnodup := h.nodup
    rw [numbers, List.filterMap_append] at hnodup
    exact (List.nodup_append.1 hnodup).1

/-- The watch of each cell has nothing against a session. -/
theorem Session.fits (h : Session past w) (htable : past.trace.Lasting seen)
    (hnumbered : past.trace.Numbered) (k : Nat) :
    (cell k).watch.Allows ⟨seen, 0, 0⟩ past.trace ∧
      (cell k).Fits ((cell k).watch.after ⟨seen, 0, 0⟩ past.trace) w := by
  refine fits_of_session trivial h (admits_of_numbered htable hnumbered.types ?_) fun _ => ?_
  · have hcount := List.nodup_iff_count.1 hnumbered.nodup k
    rw [acquiredIn_cell]
    simpa [Standing.there] using hcount
  · exact ⟨fun hx => (by cases hx), fun _ _ hnumber => by cases hnumber⟩

/-- The initialised cells are those that were unset and those that have an owner. -/
theorem Session.numbers_perm (h : Session past w) (htable : past.trace.Lasting seen)
    (hnumbered : past.trace.Numbered) :
    (past.trace.unsets ++ w.numbers).Perm past.trace.numbers := by
  refine List.perm_iff_count.2 fun k => ?_
  obtain ⟨hallows, hfits⟩ := h.fits htable hnumbered k
  have hafter := count_after hallows
  rw [releasedIn_cell, slottedIn_cell, acquiredIn_cell, hfits.count, ← numbers_count] at hafter
  rw [List.count_append]
  dsimp only at hafter
  omega

/-! ## Use -/

/-- A cell that is passed on was initialised before that, and is not unset yet. -/
theorem Session.live (h : Session past w) (htable : past.trace.Lasting seen)
    (hnumbered : past.trace.Numbered) {first rest : Transcript} {e : Event}
    (hsplit : past.trace = first ++ e :: rest) {c : Cell} (hc : c ∈ e.request.cells) {k : Nat}
    (hk : c.number = some k) : k ∈ first.numbers ∧ k ∉ first.unsets := by
  have hallows := (h.fits htable hnumbered k).1
  rw [hsplit] at hallows hnumbered
  obtain ⟨hfirst, ⟨-, hcells⟩, -⟩ := (Watch.allows_append _ _ _).1 hallows
  have hthere := (hcells c hc).2 k rfl hk
  have hafter := count_after hfirst
  have honce := List.nodup_iff_count.1 hnumbered.of_append.nodup k
  rw [releasedIn_cell, slottedIn_cell, acquiredIn_cell] at hafter
  rw [Standing.there, lent_after] at hthere
  dsimp only at hafter hthere
  exact ⟨List.count_pos_iff.1 (by omega), List.count_eq_zero.1 (by omega)⟩

/-- No empty cell is passed on, unless one was left empty by an initialisation or handed in. -/
theorem Session.full (h : Session past w) (htable : past.trace.Lasting seen)
    (hinits : past.trace.Initialising) (hnone : ∀ step ∈ past, step.1 ≠ .takeEmpty) {e : Event}
    (he : e ∈ past.trace) {c : Cell} (hc : c ∈ e.request.cells) : c.number.isSome := by
  have hempty : (∃ step ∈ past, step.1 = .takeEmpty) → noCell.Sound .empty :=
    fun ⟨taken, hmem, hact⟩ => (hnone taken hmem hact).elim
  have hadmits : noCell.watch.Admits ⟨seen, 0, 0⟩ past.trace := admits_of_initialising htable hinits
  have hallows := (fits_of_session (x := noCell) trivial h hadmits hempty).1
  obtain ⟨first, rest, hsplit⟩ := List.append_of_mem he
  rw [hsplit] at hallows
  obtain ⟨-, ⟨-, hcells⟩, -⟩ := (Watch.allows_append _ _ _).1 hallows
  exact (hcells c hc).1 rfl

/-! ## Steps -/

namespace Act

/-- The number of the cell that a step is there to unset. -/
def unset? : Act → Option Nat
  | deed (.drop (.value v)) => v.cell.number
  | hostUnset c => c.number
  | hostDrop v => v.cell.number
  | _ => none

/-- Whether the step is one of the host alone. -/
def OfHost : Act → Prop
  | hostInit _ _ | hostUnset _ | hostDrop _ => True
  | _ => False

/-- A deed uses up a cell only if it drops a value. -/
theorem worths_uses (k : Nat) (d : Deed) :
    (cell k).worths d.uses = (unset? (.deed d)).toList.count k := by
  cases d with
  | drop thing =>
    cases thing with
    | value v => exact inAny_cell k v.cell.number
    | _ => rfl
  | call nickname options =>
    exact worths_of_ofCells (x := cell k) trivial (value_not_mem_holdings _)
  | _ => rfl

/-- What owns a cell after a step owned it before, or the step made it. The step that is there to
unset a cell takes it from its owner and makes nothing. -/
theorem Step.count_numbers {w w' : World} {act : Act} {events : Transcript}
    (h : act.Step w events w') (k : Nat) :
    ∃ made, act.unset?.toList.count k + w'.numbers.count k = made + w.numbers.count k ∧
      (act.unset? = some k → made = 0) := by
  simp only [numbers_count]
  cases h with
  | @deed d rest made _ hperm _ hrun =>
    have hworths := (cell k).worths_perm hperm
    rw [worths_append, worths_uses] at hworths
    refine ⟨(cell k).worths made, by simp only [worths_append]; omega, fun hunset => ?_⟩
    cases d with
    | drop thing =>
      obtain ⟨_, _, _, rfl, _, hdone⟩ := Program.runs_bind_iff.1 hrun
      obtain ⟨-, rfl⟩ := Program.runs_done_iff.1 hdone
      rfl
    | _ => cases hunset
  | @give thing rest hperm =>
    have hworths := (cell k).worths_perm hperm
    rw [worths_cons] at hworths
    exact ⟨0, by simp [unset?]; omega, fun _ => rfl⟩
  | @receive thing hreference =>
    have hworth : (cell k).worth thing = 0 := by
      apply worth_of_ofCells (x := cell k) trivial
      rintro v rfl
      exact hreference
    exact ⟨0, by simp [unset?, hworth], fun _ => rfl⟩
  | @takeBack v rest hperm =>
    have hworths := (cell k).worths_perm hperm
    rw [worths_cons] at hworths
    exact ⟨0, by simp [unset?]; omega, fun _ => rfl⟩
  | takeEmpty => exact ⟨0, by simp [unset?, worth], fun _ => rfl⟩
  | @enter entry stored _ hlent hrun =>
    exact ⟨(cell k).worths stored, by simp [unset?]; omega, fun hunset => by cases hunset⟩
  | hostInit number type =>
    exact ⟨(cell k).inCell ⟨some number, type⟩, by simp [unset?]; omega,
      fun hunset => by cases hunset⟩
  | @hostUnset c rest hperm =>
    have hsum := (hperm.map (cell k).inCell).sum_nat
    rw [List.map_cons, List.sum_cons, inCell, inAny_cell] at hsum
    exact ⟨0, by simp only [unset?]; omega, fun _ => rfl⟩
  | @hostDrop v rest hperm =>
    have hworths := (cell k).worths_perm hperm
    rw [worths_cons, worth_cell, Holding.number?] at hworths
    exact ⟨0, by simp only [unset?]; omega, fun _ => rfl⟩

/-- A step that is not one of the host alone unsets a cell only if a value of the program owned
it. -/
theorem Step.held_of_unset {w w' : World} {act : Act} {events : Transcript}
    (h : act.Step w events w') (hact : ¬ act.OfHost) {k : Nat} (hk : act.unset? = some k) :
    k ∈ w.heldNumbers := by
  cases h with
  | @deed d rest made _ hperm _ _ =>
    have hworths := (cell k).worths_perm hperm
    rw [worths_append, worths_uses, hk, worths_cell] at hworths
    apply List.count_pos_iff.1
    simp only [Option.toList_some, List.count_singleton_self] at hworths
    unfold World.heldNumbers
    omega
  | hostInit => exact (hact trivial).elim
  | hostUnset => exact (hact trivial).elim
  | hostDrop => exact (hact trivial).elim
  | _ => cases hk

end Act

/-- What a step does to the cells. -/
structure StepOfCells (w : World) (act : Act) (events : Transcript) (w' : World) : Prop where
  step : act.Step w events w'
  /-- Whatever is initialised in the step is unset in it or has an owner after it, and so is what
  had an owner before. -/
  numbers : (events.unsets ++ w'.numbers).Perm (w.numbers ++ events.numbers)
  /-- A cell that had an owner is unset if the step drops its owner, and only then. -/
  unsets : ∀ k ∈ w.numbers, k ∈ events.unsets ↔ act.unset? = some k
  /-- A cell of a foreign owner is unset by the host alone. -/
  foreign : ¬ act.OfHost → ∀ k ∈ w.foreignNumbers, k ∉ events.unsets

theorem Session.stepOfCells {w' : World} {act : Act} {events : Transcript} (h : Session past w)
    (hstep : act.Step w events w') (htable : (past.trace ++ events).Lasting seen)
    (hnumbered : (past.trace ++ events).Numbered) : StepOfCells w act events w' := by
  have hbefore := h.numbers_perm (Transcript.lasting_append.1 htable).1 hnumbered.of_append
  rw [← Past.trace_snoc past act] at htable hnumbered
  have hafter := (Session.step h hstep).numbers_perm htable hnumbered
  have hcount (k : Nat) :
      past.trace.unsets.count k + w.numbers.count k = past.trace.numbers.count k ∧
      past.trace.unsets.count k + events.unsets.count k + w'.numbers.count k =
        past.trace.numbers.count k + events.numbers.count k ∧
      past.trace.numbers.count k + events.numbers.count k ≤ 1 := by
    have h1 := hbefore.count_eq k
    have h2 := hafter.count_eq k
    have h3 := List.nodup_iff_count.1 hnumbered.nodup k
    simp only [Past.trace_snoc, Transcript.unsets, Transcript.numbers, List.filterMap_append,
      List.count_append] at h1 h2 h3 ⊢
    omega
  have hunsets : ∀ k ∈ w.numbers, k ∈ events.unsets ↔ act.unset? = some k := by
    intro k hk
    have hpos := List.count_pos_iff.2 hk
    obtain ⟨hpast, hnow, hone⟩ := hcount k
    obtain ⟨made, hmade, hnone⟩ := hstep.count_numbers k
    constructor
    · intro hunset
      have hunset := List.count_pos_iff.2 hunset
      have hmem : k ∈ act.unset?.toList := List.count_pos_iff.1 (by omega)
      simpa using hmem
    · intro hact
      rw [hnone hact, hact] at hmade
      simp only [Option.toList_some, List.count_singleton_self] at hmade
      exact List.count_pos_iff.1 (by omega)
  refine ⟨hstep, ?_, hunsets, fun hact k hk hunset => ?_⟩
  · refine List.perm_iff_count.2 fun k => ?_
    obtain ⟨hpast, hnow, -⟩ := hcount k
    simp only [List.count_append]
    omega
  · have hmem : k ∈ w.numbers := List.mem_append_right _ hk
    have hheld := hstep.held_of_unset hact ((hunsets k hmem).1 hunset)
    obtain ⟨hpast, -, hone⟩ := hcount k
    have hheld := List.count_pos_iff.2 hheld
    have hforeign := List.count_pos_iff.2 hk
    simp only [World.numbers, List.count_append] at hpast
    omega

/-- Every step of a session was taken from a world that the steps before it led to. -/
theorem Session.step_of_split (h : Session past w) {before later : Past} {act : Act}
    {events : Transcript} (hsplit : past = before ++ (act, events) :: later) :
    ∃ w₁ w₂, Session before w₁ ∧ act.Step w₁ events w₂ := by
  induction h generalizing later with
  | start => simp at hsplit
  | @step past w w' act' events' hpast hstep ih =>
    rcases List.eq_nil_or_concat later with rfl | ⟨later, last, rfl⟩
    · obtain ⟨rfl, hlast⟩ := List.append_inj' hsplit rfl
      cases hlast
      exact ⟨w, w', hpast, hstep⟩
    · rw [List.concat_eq_append, ← List.cons_append, ← List.append_assoc] at hsplit
      obtain ⟨rfl, -⟩ := List.append_inj' hsplit rfl
      exact ih rfl

/-! ## The life of cells -/

/-- The life of all cells of a session. -/
structure LifeOfCells (past : Past) (w : World) : Prop where
  /-- The cells that were initialised are those that were unset and those that have an owner, a
  value of the program or someone foreign. -/
  owned : (past.trace.unsets ++ w.numbers).Perm past.trace.numbers
  /-- No cell is unset twice, none has two owners, and none that was unset has an owner. -/
  once : (past.trace.unsets ++ w.numbers).Nodup
  /-- Once all values are dropped, only the cells of foreign owners are left. -/
  dropped : w.heldNumbers = [] →
    (past.trace.unsets ++ w.foreignNumbers).Perm past.trace.numbers
  steps : ∀ (before later : Past) (act : Act) (events : Transcript),
    past = before ++ (act, events) :: later →
      ∃ w₁ w₂, Session before w₁ ∧ StepOfCells w₁ act events w₂
  /-- A cell is passed on after its initialisation and before its end only. -/
  live : ∀ (first rest : Transcript) (e : Event), past.trace = first ++ e :: rest →
    ∀ c ∈ e.request.cells, ∀ k, c.number = some k → k ∈ first.numbers ∧ k ∉ first.unsets
  /-- An empty cell is passed on only where the library or the program brought one in. -/
  full : past.trace.Initialising → (∀ step ∈ past, step.1 ≠ .takeEmpty) →
    ∀ e ∈ past.trace, ∀ c ∈ e.request.cells, c.number.isSome

/-- After any steps of a program and of a foreign host, whatever the library answered: every
initialised cell was unset once or has one owner, and no cell was passed on outside of its life.
Texts and arrays that were read are copies. -/
theorem every_cell_is_unset_once_or_has_one_owner (h : Session past w)
    (htable : past.trace.Lasting seen) (hnumbered : past.trace.Numbered) :
    LifeOfCells past w ∧
      ∀ {α : Type} {accessor : Accessor} {copy : accessor.Reply → α} {p : Attempt α},
        Copier accessor copy p → CopiesOut accessor copy p := by
  have howned := h.numbers_perm htable hnumbered
  refine ⟨⟨howned, howned.nodup_iff.2 hnumbered.nodup, ?_, ?_, ?_, ?_⟩, Copier.copiesOut⟩
  · intro hnone
    rwa [World.numbers, hnone, List.nil_append] at howned
  · intro before later act events hsplit
    obtain ⟨w₁, w₂, hbefore, hstep⟩ := h.step_of_split hsplit
    have htrace : past.trace = (before.trace ++ events) ++ later.trace := by
      rw [hsplit]
      simp [Past.trace]
    rw [htrace] at htable hnumbered
    exact ⟨w₁, w₂, hbefore, hbefore.stepOfCells hstep (Transcript.lasting_append.1 htable).1
      hnumbered.of_append⟩
  · exact fun first rest e hsplit c hc k hk => h.live htable hnumbered hsplit hc hk
  · exact fun hinits hnone e he c hc => h.full htable hinits hnone he hc

/-- A value of the program. -/
def boxedTruth : Value := ⟨⟨some 1, .boolean⟩⟩

/-- A value is made, given away, taken back and dropped. -/
def givenAndTakenBack : Past :=
  let table : Event := ⟨.table, some ⟨⟨"libvips.so.42"⟩, none, []⟩⟩
  [(.deed (.box (.bool true)), [table, ⟨.call (.cellInit .boolean), some 1⟩,
      ⟨.call (.cellSet boxedTruth.cell (.boolean 1)), ()⟩]),
    (.give (.value boxedTruth), []), (.takeBack boxedTruth, []),
    (.deed (.drop (.value boxedTruth)), [table, ⟨.call (.cellUnset boxedTruth.cell), ()⟩])]

theorem a_value_that_comes_back_is_unset_once : LifeOfCells givenAndTakenBack .empty := by
  have hbox : (Deed.box (.bool true)).program.Runs
      [⟨.table, some ⟨⟨"libvips.so.42"⟩, none, []⟩⟩, ⟨.call (.cellInit .boolean), some 1⟩,
        ⟨.call (.cellSet boxedTruth.cell (.boolean 1)), ()⟩] [.value boxedTruth] :=
    .ask _ (.ask _ (.ask _ (.done _)))
  have hdrop : (Deed.drop (.value boxedTruth)).program.Runs
      [⟨.table, some ⟨⟨"libvips.so.42"⟩, none, []⟩⟩, ⟨.call (.cellUnset boxedTruth.cell), ()⟩] [] :=
    .ask _ (.ask _ (.done _))
  have hnothing : World.empty.held.Perm ((Deed.box (.bool true)).uses ++ []) := .refl []
  have hmade : Session (givenAndTakenBack.take 1) ⟨[.value boxedTruth], [], [], []⟩ :=
    .step .start (.deed hnothing nofun hbox)
  have hgiven : Session (givenAndTakenBack.take 2) ⟨[], [.value boxedTruth], [], []⟩ :=
    .step hmade (.give (.refl _))
  have hback : Session (givenAndTakenBack.take 3) ⟨[.value boxedTruth], [], [], []⟩ :=
    .step hgiven (.takeBack (.refl _))
  have hheld : [Holding.value boxedTruth].Perm ((Deed.drop (.value boxedTruth)).uses ++ []) :=
    .refl _
  have hlent : ∀ v, (Deed.drop (.value boxedTruth)).lent? = some v →
      .value v ∈ [Holding.value boxedTruth] := nofun
  have hdropped : Session givenAndTakenBack .empty := .step hback (.deed hheld hlent hdrop)
  have htable : givenAndTakenBack.trace.Lasting true := by
    simp [givenAndTakenBack, Past.trace, Transcript.Lasting, tableSeen]
  have hnone : ∀ e ∈ givenAndTakenBack.trace, e.request ≠ .call (.cellInit .invalid) := by decide
  refine (every_cell_is_unset_once_or_has_one_owner hdropped htable ⟨?_, by decide⟩).1
  rintro type number he rfl
  exact hnone _ he rfl

end ImageGateway
