-- What a transcript hands out and takes back, in plain numbers, and how the
-- watch of a resource counts the same.

import Mathlib.Algebra.GroupWithZero.Nat
import ImageGateway.Proofs.Resource

namespace ImageGateway

namespace Resource

/-- How often a request gives the resource back to the library. The operation that goes into a
build is given back. -/
def returned (x : Resource) : Request → Nat
  | .call (.unref h) => x.inAny .object h
  | .call (.build h) => x.one (.object h)
  | .call (.areaUnref h) => x.one (.blob h)
  | .call (.cellUnset c) => x.inCell c
  | _ => 0

/-- How often a request leaves a reference in an image slot. -/
def slotted (x : Resource) : Request → Nat
  | .fillSlot _ _ h => x.one (.object h)
  | _ => 0

theorem spent_eq (x : Resource) (q : Request) : x.spent q = x.returned q + x.slotted q := by
  unfold spent returned slotted
  split <;> simp

/-- How often a transcript hands the resource out. -/
def acquiredIn (x : Resource) (events : Transcript) : Nat :=
  (events.map fun e => x.gained e.request e.reply).sum

/-- How often a transcript gives the resource back. -/
def releasedIn (x : Resource) (events : Transcript) : Nat :=
  (events.map fun e => x.returned e.request).sum

/-- How often a transcript leaves a reference in an image slot. -/
def slottedIn (x : Resource) (events : Transcript) : Nat :=
  (events.map fun e => x.slotted e.request).sum

variable (x : Resource) (e : Event) (events more : Transcript)

@[simp] theorem acquiredIn_nil : x.acquiredIn [] = 0 := rfl
@[simp] theorem releasedIn_nil : x.releasedIn [] = 0 := rfl
@[simp] theorem slottedIn_nil : x.slottedIn [] = 0 := rfl

@[simp] theorem acquiredIn_cons :
    x.acquiredIn (e :: events) = x.gained e.request e.reply + x.acquiredIn events := rfl
@[simp] theorem releasedIn_cons :
    x.releasedIn (e :: events) = x.returned e.request + x.releasedIn events := rfl
@[simp] theorem slottedIn_cons :
    x.slottedIn (e :: events) = x.slotted e.request + x.slottedIn events := rfl

@[simp] theorem acquiredIn_append :
    x.acquiredIn (events ++ more) = x.acquiredIn events + x.acquiredIn more := by
  simp [acquiredIn]

@[simp] theorem releasedIn_append :
    x.releasedIn (events ++ more) = x.releasedIn events + x.releasedIn more := by
  simp [releasedIn]

@[simp] theorem slottedIn_append :
    x.slottedIn (events ++ more) = x.slottedIn events + x.slottedIn more := by
  simp [slottedIn]

variable {x events more}

/-- As long as nothing is given up that is not held, the watch counts exactly. -/
theorem count_after {s : Standing} (h : x.watch.Allows s events) :
    (x.watch.after s events).count + x.releasedIn events + x.slottedIn events =
      s.count + x.acquiredIn events := by
  induction events generalizing s with
  | nil => rfl
  | cons e events ih =>
    obtain ⟨⟨hspent, -⟩, hrest⟩ := h
    have hcount := ih hrest
    rw [spent_eq] at hspent
    simp only [watch, Watch.after, spent_eq, releasedIn_cons, slottedIn_cons, acquiredIn_cons]
      at hcount ⊢
    omega

/-- What is given back was held, or was handed out before. -/
theorem released_le {s : Standing} (h : x.watch.Allows s events) :
    x.releasedIn events + x.slottedIn events ≤ s.count + x.acquiredIn events := by
  have := count_after h
  omega

end Resource

/-! ## What the outside world answers -/

/-- The number that an initialisation gives. -/
def Event.number? : Event → Option Nat
  | ⟨.call (.cellInit _), number⟩ => number
  | _ => none

namespace Transcript

/-- Once a table is published, every later look finds one. -/
def Lasting : Bool → Transcript → Prop
  | _, [] => True
  | seen, e :: events =>
    (e.request = .table → seen = true → Resource.tableSeen e.request e.reply = true) ∧
      Lasting (seen || Resource.tableSeen e.request e.reply) events

/-- The numbers of the cells that are initialised, oldest first. -/
def numbers (events : Transcript) : List Nat := events.filterMap Event.number?

/-- Cells are initialised under types only, and each of them gets a number of its own. -/
structure Numbered (events : Transcript) : Prop where
  types : ∀ type number, ⟨.call (.cellInit type), number⟩ ∈ events → type ≠ .invalid
  nodup : events.numbers.Nodup

/-- No initialisation leaves its cell empty. -/
def Initialising (events : Transcript) : Prop :=
  ∀ type number, ⟨.call (.cellInit type), number⟩ ∈ events → number.isSome

theorem lasting_append {seen : Bool} {events more : Transcript} :
    Lasting seen (events ++ more) ↔
      Lasting seen events ∧
        Lasting (seen || events.any fun e => Resource.tableSeen e.request e.reply) more := by
  induction events generalizing seen with
  | nil => simp [Lasting]
  | cons e events ih => simp [Lasting, ih, and_assoc, Bool.or_assoc]

end Transcript

namespace Resource

variable {x : Resource} {s : Standing} {events : Transcript}

/-- A table that stays is all that the watch of a reference or a text expects. -/
theorem admits_of_lasting (hx : ¬ x.OfCells) (h : events.Lasting s.loaded) :
    x.watch.Admits s events := by
  induction events generalizing s with
  | nil => trivial
  | cons e events ih =>
    refine ⟨?_, ih h.2⟩
    obtain ⟨q, r⟩ := e
    show Answers x s q r
    unfold Answers
    split
    · exact h.1 rfl
    · exact ⟨fun hk => (hx (hk ▸ trivial)).elim, fun k hk => (ne_cell_of_not hx k hk).elim⟩
    · trivial

/-- Cells are handed out by their initialisation only. -/
theorem gained_cell_of_ne {k : Nat} {q : Request} (hq : ∀ type, q ≠ .call (.cellInit type))
    (r : q.Reply) : (cell k).gained q r = 0 := by
  unfold gained
  split
  case h_9 type number => exact absurd rfl (hq type)
  all_goals first | rfl | exact one_of_ne (by simp) | exact inAny_of_ne (by simp) _

theorem number?_of_ne {e : Event} (he : ∀ type, e.request ≠ .call (.cellInit type)) :
    e.number? = none := by
  unfold Event.number?
  split
  · rename_i type number
    exact absurd rfl (he type)
  · rfl

/-- A cell is handed out where its number is given. -/
theorem gained_cell (k : Nat) (e : Event) :
    (cell k).gained e.request e.reply = e.number?.toList.count k := by
  by_cases he : ∃ type, e.request = .call (.cellInit type)
  · obtain ⟨q, r⟩ := e
    obtain ⟨type, rfl⟩ := he
    rcases r with _ | m
    · rfl
    · by_cases hm : k = m <;> simp [Event.number?, gained, one, hm, eq_comm]
  · rw [gained_cell_of_ne (by simpa using he), number?_of_ne (by simpa using he)]
    rfl

theorem acquiredIn_cell (k : Nat) (events : Transcript) :
    (cell k).acquiredIn events = events.numbers.count k := by
  induction events with
  | nil => rfl
  | cons e events ih =>
    rw [acquiredIn_cons, gained_cell, ih]
    rcases hnumber : e.number? with _ | m <;> simp [Transcript.numbers, hnumber, List.count_cons,
      Nat.add_comm]

/-- For a cell, its number must be a new one wherever it is given. -/
theorem admits_of_numbered {k : Nat} (h : events.Lasting s.loaded)
    (htypes : ∀ type number, ⟨.call (.cellInit type), number⟩ ∈ events → type ≠ .invalid)
    (hs : s.there + (cell k).acquiredIn events ≤ 1) : (cell k).watch.Admits s events := by
  induction events generalizing s with
  | nil => trivial
  | cons e events ih =>
    rw [acquiredIn_cons] at hs
    refine ⟨?_, ih h.2 (fun type number he => htypes type number (List.mem_cons_of_mem _ he)) ?_⟩
    · obtain ⟨q, r⟩ := e
      show Answers _ s q r
      unfold Answers
      split
      · exact h.1 rfl
      · rename_i type number
        refine ⟨nofun, ?_⟩
        rintro m ⟨⟩ rfl
        refine ⟨htypes type _ (List.mem_cons_self ..), ?_⟩
        simp only [gained, inAny_some, one_self] at hs
        omega
      · trivial
    · simp only [watch, Standing.there] at hs ⊢
      omega

/-- Where no cell is left empty, nobody gets an empty one. -/
theorem admits_of_initialising (h : events.Lasting s.loaded) (hinits : events.Initialising) :
    noCell.watch.Admits s events := by
  induction events generalizing s with
  | nil => trivial
  | cons e events ih =>
    refine ⟨?_, ih h.2 fun type number he => hinits type number (List.mem_cons_of_mem _ he)⟩
    obtain ⟨q, r⟩ := e
    show Answers _ s q r
    unfold Answers
    split
    · exact h.1 rfl
    · rename_i type number
      exact ⟨fun _ => hinits type number (List.mem_cons_self ..), nofun⟩
    · trivial

end Resource

end ImageGateway
