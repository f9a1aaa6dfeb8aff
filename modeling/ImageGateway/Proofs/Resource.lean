-- Things that have to be given back: references to objects and blobs, copies
-- of texts, and initialised cells. One watch for each such thing counts how
-- often it is held, from the native calls alone.

import ImageGateway.Proofs.Questions
import ImageGateway.Proofs.Watch

namespace ImageGateway

/-- Something that the library hands out and that has to be given back. -/
inductive Resource where
  /-- A reference to an object. -/
  | object (handle : Handle)
  /-- A reference to a blob. -/
  | blob (handle : Handle)
  /-- A copy of a text, which someone has to free. -/
  | text (text : CText)
  /-- An initialised cell. -/
  | cell (number : Nat)
  /-- What an empty cell holds. Nobody ever has it, so its watch lets no empty cell pass. -/
  | noCell
  deriving DecidableEq

namespace Resource

/-- Whether the watch of the resource looks at cells. -/
def OfCells : Resource → Prop
  | .cell _ | .noCell => True
  | _ => False

/-- How often `y` is the resource `x`: once or not at all. -/
def one (x y : Resource) : Nat := if x = y then 1 else 0

/-- How often something that may be missing is the resource. -/
def inAny {α : Type} (x : Resource) (f : α → Resource) (a : Option α) : Nat :=
  (a.map fun a => x.one (f a)).getD 0

/-- How often a cell is the resource. An empty cell is none. -/
def inCell (x : Resource) (c : Cell) : Nat := x.inAny .cell c.number

@[simp] theorem one_self (x : Resource) : x.one x = 1 := if_pos rfl

theorem one_of_ne {x y : Resource} (h : x ≠ y) : x.one y = 0 := if_neg h

@[simp] theorem inAny_none {α : Type} (x : Resource) (f : α → Resource) : x.inAny f none = 0 := rfl

@[simp] theorem inAny_some {α : Type} (x : Resource) (f : α → Resource) (a : α) :
    x.inAny f (some a) = x.one (f a) := rfl

theorem inAny_of_ne {α : Type} {x : Resource} {f : α → Resource} (h : ∀ a, x ≠ f a) (o : Option α) :
    x.inAny f o = 0 := by
  rcases o with _ | a
  · rfl
  · exact one_of_ne (h a)

@[simp] theorem inCell_empty (x : Resource) : x.inCell .empty = 0 := rfl

end Resource

/-- The cells that a request passes on. -/
def Request.cells : Request → List Cell
  | .call (.cellUnset c) | .call (.cellSet c _) | .call (.cellGet c _) => [c]
  | .call (.makeSlots c _) | .call (.slots c) => [c]
  | .call (.getProperty _ _ c) | .call (.setProperty _ _ c) => [c]
  | .fillSlot c _ _ => [c]
  | _ => []

namespace Resource

/-- How often a request gives the resource up. A reference that goes into an image slot belongs to
the cell from then on. -/
def spent (x : Resource) : Request → Nat
  | .call (.unref h) => x.inAny .object h
  | .call (.build h) | .fillSlot _ _ h => x.one (.object h)
  | .call (.areaUnref h) => x.one (.blob h)
  | .call (.cellUnset c) => x.inCell c
  | _ => 0

/-- How often a reply hands the resource out. -/
def gained (x : Resource) : (q : Request) → q.Reply → Nat
  | .call (.ref h), _ => x.one (.object h)
  | .call (.operationNew _), h | .call (.sourceFromBlob _), h | .call .targetToMemory, h =>
    x.inAny .object h
  | .call (.build _), (_, h) => x.inAny .object h
  | .call (.blobCopy _), h | .call (.cellGet _ .boxedCopy), h => x.inAny .blob h
  | .call (.cellGet _ .stringCopy), t => x.inAny .text t
  | .call (.cellInit _), number => x.inAny .cell number
  | _, _ => 0

end Resource

/-- What is known about a resource in the middle of a run. -/
structure Standing where
  /-- Whether a table was seen. -/
  loaded : Bool
  /-- How often the resource is held. -/
  count : Nat
  /-- How often someone else holds it, who only lends it. -/
  lent : Nat

/-- How often the resource is there at all. -/
def Standing.there (s : Standing) : Nat := s.count + s.lent

namespace Resource

/-- The cell was initialised and is not unset yet, as far as the watch of `x` can tell. -/
def Lends (x : Resource) (s : Standing) (c : Cell) : Prop :=
  (x = .noCell → c.number.isSome) ∧ ∀ k, x = .cell k → c.number = some k → 0 < s.there

/-- What the outside world may answer. A published table stays, and an initialisation gives a number
that no initialised cell has. -/
def Answers (x : Resource) (s : Standing) : (q : Request) → q.Reply → Prop
  | .table, t => s.loaded = true → t.isSome
  | .call (.cellInit type), number =>
    (x = .noCell → number.isSome) ∧
      ∀ k, x = .cell k → number = some k → type ≠ .invalid ∧ s.there = 0
  | _, _ => True

/-- Whether a table is there after the reply. -/
def tableSeen : (q : Request) → q.Reply → Bool
  | .table, t => t.isSome
  | .publish _, _ => true
  | _, _ => false

/-- The watch of a resource. Nothing is given up that is not held, and no cell is used that is not
initialised. -/
def watch (x : Resource) : Watch Standing where
  allows s q := x.spent q ≤ s.count ∧ ∀ c ∈ q.cells, x.Lends s c
  admits := x.Answers
  next s q r := ⟨s.loaded || tableSeen q r, s.count - x.spent q + x.gained q r, s.lent⟩

end Resource

/-- From the one standing to the other `used` was given up and `got` was handed out. -/
structure Standing.Moves (s t : Standing) (used got : Nat) : Prop where
  loaded : s.loaded = true → t.loaded = true
  count : t.count + used = s.count + got
  lent : t.lent = s.lent

namespace Standing.Moves

variable {s t u : Standing} {used got : Nat}

theorem refl (s : Standing) (n : Nat) : s.Moves s n n := ⟨id, Eq.refl _, Eq.refl _⟩

theorem trans {used' got' : Nat} (h : s.Moves t used got) (h' : t.Moves u used' got') :
    s.Moves u (used + used') (got + got') where
  loaded := h'.loaded ∘ h.loaded
  count := by
    have := h.count
    have := h'.count
    omega
  lent := h'.lent.trans h.lent

theorem le (h : s.Moves t 0 got) : got ≤ t.count := by
  have := h.count
  omega

theorem le_there (h : s.Moves t 0 got) : got ≤ t.there :=
  Nat.le_trans h.le (Nat.le_add_right _ _)

/-- The same difference, written in other numbers. -/
theorem same {used' got' : Nat} (h : s.Moves t used got) (heq : used' + got = used + got') :
    s.Moves t used' got' where
  loaded := h.loaded
  count := by
    have := h.count
    omega
  lent := h.lent

/-- What was handed out is given up again. -/
theorem back {n : Nat} (h : s.Moves t 0 n) (h' : t.Moves u n 0) : s.Moves u 0 0 :=
  (h.trans h').same (by omega)

/-- A table that is seen on the way moves nothing. -/
theorem of_seen (h : Standing.Moves { s with loaded := true } t used got) : s.Moves t used got where
  loaded := fun _ => h.loaded rfl
  count := h.count
  lent := h.lent

theorem eq (h : s.Moves t 0 0) (hs : s.loaded = true) : t = s := by
  obtain ⟨_, _, _⟩ := s
  obtain ⟨_, _, _⟩ := t
  have hloaded := h.loaded hs
  have hcount := h.count
  have hlent := h.lent
  simp_all

end Standing.Moves

namespace Resource

variable {α β : Type} {x : Resource} {s t : Standing}

theorem Lends.mono {c : Cell} (h : x.Lends s c) (hst : s.there ≤ t.there) : x.Lends t c := by
  refine ⟨h.1, fun k hk hnumber => ?_⟩
  exact Nat.lt_of_lt_of_le (h.2 k hk hnumber) hst

/-! ## Requests -/

/-- One request, and what it moves. -/
theorem ensures_request {q : Request} (hspent : x.spent q ≤ s.count)
    (hcells : ∀ c ∈ q.cells, x.Lends s c) :
    x.watch.Ensures s (Program.request q) fun r t =>
      x.Answers s q r ∧ s.Moves t (x.spent q) (x.gained q r) ∧
        (tableSeen q r = true → t.loaded) := by
  refine ⟨⟨hspent, hcells⟩, fun r hr => ⟨hr, ⟨?_, ?_, rfl⟩, ?_⟩⟩
  · intro h
    simp [watch, h]
  · simp only [watch]
    omega
  · intro h
    simp [watch, h]

/-- A request that hands nothing out and takes nothing back. -/
structure Still (q : Request) : Prop where
  spent : ∀ x : Resource, x.spent q = 0
  gained : ∀ (x : Resource) (r : q.Reply), x.gained q r = 0

theorem ensures_still {q : Request} (h : Still q) (hcells : ∀ c ∈ q.cells, x.Lends s c) :
    x.watch.Ensures s (Program.request q) fun r t => x.Answers s q r ∧ s.Moves t 0 0 := by
  apply (ensures_request (by simp [h.spent]) hcells).mono
  intro r t ht
  rw [h.spent, h.gained] at ht
  exact ⟨ht.1, ht.2.1⟩

/-- A request that no resource has to do with. -/
structure Idle (q : Request) : Prop extends Still q where
  cells : q.cells = []

/-- A program that asks only for such things moves nothing. -/
theorem ensures_idle {p : Program α} (h : p.Asks Idle) :
    x.watch.Ensures s p fun _ t => s.Moves t 0 0 := by
  induction p generalizing s with
  | done a => exact .refl s 0
  | ask q k ih =>
    obtain ⟨hq, hk⟩ := h
    have hfirst := ensures_still (x := x) (s := s) hq.toStill (by simp [hq.cells])
    apply hfirst.bind (f := k)
    intro r t hend
    obtain ⟨_, ht⟩ := hend
    apply (ih r (hk r)).mono
    intro a u hu
    exact ht.trans hu

theorem idle_of_question {q : Request} (h : q.Question) : Idle q := by
  unfold Request.Question at h
  split at h <;> first | exact ⟨⟨fun _ => rfl, fun _ _ => rfl⟩, rfl⟩ | exact h.elim

theorem idle_of_inquiry : ∀ q : Request, q.Inquiry → Idle q :=
  inquiry_of fun _ => idle_of_question

/-! ## The published table -/

theorem ensures_table {Q : Option Table → Standing → Prop}
    (hsome : ∀ table, Q (some table) { s with loaded := true })
    (hnone : s.loaded = false → Q none s) : x.watch.Ensures s table? Q := by
  refine ⟨⟨Nat.zero_le _, by simp [Request.cells]⟩, ?_⟩
  intro table hr
  cases table with
  | none =>
    have hs : s.loaded = false := by
      rcases h : s.loaded with _ | _
      · rfl
      · simpa using hr h
    obtain ⟨_, count, lent⟩ := s
    cases hs
    simpa [watch, tableSeen, spent, gained] using hnone rfl
  | some table => simpa [watch, tableSeen, spent, gained] using hsome table

/-- First a look at the table, then what comes of it. -/
theorem tries_table {ε : Type} {f : Option Table → ExceptT ε Program α}
    {ok : α → Standing → Prop} {failed : ε → Standing → Prop}
    (hsome : ∀ table, x.watch.Tries { s with loaded := true } (f (some table)) ok failed)
    (hnone : s.loaded = false → x.watch.Tries s (f none) ok failed) :
    x.watch.Tries s (liftM table? >>= f) ok failed :=
  Watch.tries_bind.2 (Watch.tries_lift.2 (ensures_table hsome hnone))

/-- With a table the attempt goes on, and knows that there is one. -/
theorem tries_requireTable {ok : Unit → Standing → Prop} {failed : Failure → Standing → Prop}
    (hok : ok () { s with loaded := true }) (hfailed : s.loaded = false → failed .notLoaded s) :
    x.watch.Tries s requireTable ok failed := tries_table (fun _ => hok) hfailed

/-- What needs a table to move anything. -/
theorem ensures_ifLoaded {p : Program Unit} {used got : Nat} (hs : s.loaded = true ∨ used = got)
    (h : x.watch.Ensures { s with loaded := true } p
      fun _ t => Standing.Moves { s with loaded := true } t used got) :
    x.watch.Ensures s (ifLoaded p) fun _ t => s.Moves t used got := by
  refine Watch.ensures_bind.2 (ensures_table (fun table => ?_) fun hloaded => ?_)
  · exact h.mono fun _ _ hu => hu.of_seen
  · rcases hs with hs | hs
    · rw [hs] at hloaded
      cases hloaded
    · exact hs ▸ .refl s used

/-! ## Cells -/

/-- An owned cell was initialised under a type, as far as the watch of `x` can tell. -/
def Sound (x : Resource) (c : Cell) : Prop :=
  (x = .noCell → c.number.isSome) ∧ ∀ k, x = .cell k → c.number = some k → c.type ≠ .invalid

theorem Sound.lends {c : Cell} (h : x.Sound c) (hc : x.inCell c ≤ s.there) : x.Lends s c := by
  refine ⟨h.1, ?_⟩
  rintro k rfl hnumber
  simpa [inCell, hnumber, Nat.succ_le_iff] using hc

theorem one_of_ofCells (hx : x.OfCells) {y : Resource} (hy : ¬ y.OfCells) : x.one y = 0 := by
  apply one_of_ne
  rintro rfl
  exact hy hx

theorem ne_cell_of_not (hx : ¬ x.OfCells) (k : Nat) : x ≠ .cell k := by
  rintro rfl
  exact hx trivial

theorem inCell_of_not (hx : ¬ x.OfCells) (c : Cell) : x.inCell c = 0 :=
  inAny_of_ne (ne_cell_of_not hx) c.number

theorem sound_of_not (hx : ¬ x.OfCells) (c : Cell) : x.Sound c := by
  refine ⟨?_, fun k hk => (ne_cell_of_not hx k hk).elim⟩
  rintro rfl
  exact (hx trivial).elim

/-! ## Attempts -/

/-- An attempt that gains what its answer owns, and its answer is good. If it fails, nothing is left
behind. -/
def Gives (x : Resource) (s : Standing) (p : Attempt α) (owned : α → Nat) (good : α → Prop) :
    Prop :=
  x.watch.Tries s p (fun a t => t.loaded = true ∧ good a ∧ s.Moves t 0 (owned a))
    fun _ t => s.Moves t 0 0

/-- An attempt that gains what its answer owns. -/
abbrev Yields (x : Resource) (s : Standing) (p : Attempt α) (owned : α → Nat) : Prop :=
  x.Gives s p owned fun _ => True

/-- An attempt that leaves everything as it was. -/
abbrev Keeps (x : Resource) (s : Standing) (p : Attempt α) : Prop := x.Yields s p fun _ => 0

/-- An attempt whose answer owns an initialised cell. -/
abbrev YieldsValue (x : Resource) (s : Standing) (p : Attempt Value) : Prop :=
  x.Gives s p (fun v => x.inCell v.cell) fun v => x.Sound v.cell

variable {owned : α → Nat} {good : α → Prop}

theorem ensures_idle_of_loaded {p : Program α} (hs : s.loaded = true) (h : p.Asks Idle) :
    x.watch.Ensures s p fun _ t => t = s := (ensures_idle h).mono fun _ _ ht => ht.eq hs

/-- On a published table, a request that only passes a cell on keeps the note. -/
theorem ensures_lent {q : Request} {c : Cell} (hs : s.loaded = true) (h : Still q)
    (hq : q.cells = [c]) (hc : x.Lends s c) :
    x.watch.Ensures s (Program.request q) fun _ t => t = s :=
  (ensures_still h (by simpa [hq] using hc)).mono fun _ _ ht => ht.2.eq hs

/-- An attempt that has nothing to do with resources moves nothing. -/
theorem tries_idle {p : Attempt α} (h : p.run.Asks Idle) :
    x.watch.Tries s p (fun _ t => s.Moves t 0 0) fun _ t => s.Moves t 0 0 := by
  apply Watch.Ensures.mono (ensures_idle h)
  intro answer t ht
  cases answer <;> exact ht

/-- First something idle, then an attempt that starts where that ended. -/
theorem tries_after_idle {p : Attempt β} {f : β → Attempt α} {ok : α → Standing → Prop}
    {failed : Failure → Standing → Prop} (hp : p.run.Asks Idle)
    (hfailed : ∀ failure t, s.Moves t 0 0 → failed failure t)
    (hf : ∀ b t, s.Moves t 0 0 → x.watch.Tries t (f b) ok failed) :
    x.watch.Tries s (p >>= f) ok failed :=
  Watch.tries_bind.2 ((tries_idle hp).mono hf hfailed)

theorem keeps_of_idle {p : Attempt α} (hs : s.loaded = true) (h : p.run.Asks Idle) :
    x.Keeps s p :=
  (tries_idle h).mono (fun _ _ ht => ⟨ht.loaded hs, trivial, ht⟩) fun _ _ ht => ht

theorem gives_pure {a : α} (hs : s.loaded = true) (hgood : good a) (howned : owned a = 0) :
    x.Gives s (pure a) owned good := ⟨hs, hgood, howned ▸ .refl s 0⟩

theorem gives_throw {failure : Failure} : x.Gives s (throw failure) owned good := .refl s 0

/-- First something idle, then the attempt. -/
theorem Gives.try {p : Attempt β} {f : β → Attempt α} (hs : s.loaded = true)
    (hp : p.run.Asks Idle) (hf : ∀ b, x.Gives s (f b) owned good) :
    x.Gives s (p >>= f) owned good := by
  refine Watch.tries_bind.2 (Watch.Ensures.mono (ensures_idle_of_loaded hs hp) ?_)
  intro answer t heq
  subst heq
  cases answer with
  | error failure => exact .refl t 0
  | ok b => exact hf b

/-- First an idle program, then the attempt. -/
theorem Gives.then {p : Program β} {f : β → Attempt α} (hs : s.loaded = true)
    (hp : p.Asks Idle) (hf : ∀ b, x.Gives s (f b) owned good) :
    x.Gives s (liftM p >>= f) owned good := Gives.try hs hp.lift hf

/-- First a text is made native, then the attempt. -/
theorem Gives.onText {name : String} {f : CText → Attempt α}
    (hf : ∀ text, CText.ofString? name = some text → x.Gives s (f text) owned good) :
    x.Gives s (nativeText name >>= f) owned good := by
  unfold nativeText
  split
  · rename_i text htext
    exact hf text htext
  · exact gives_throw

/-- First something idle, with a table or without, then the attempt. -/
theorem Gives.look {p : Attempt β} {f : β → Attempt α} (hp : p.run.Asks Idle)
    (hf : ∀ b t, x.Gives t (f b) owned good) : x.Gives s (p >>= f) owned good := by
  refine Watch.tries_bind.2 (Watch.Ensures.mono (ensures_idle hp) ?_)
  intro answer t ht
  cases answer with
  | error failure => exact ht
  | ok b =>
    refine Watch.Tries.mono (hf b t) ?_ ?_
    · intro a u hend
      obtain ⟨hu, hgood, hmoves⟩ := hend
      exact ⟨hu, hgood, by simpa using ht.trans hmoves⟩
    · intro failure u hmoves
      exact ht.trans hmoves

/-- An answer that is put into another form and owns the same. -/
theorem Gives.map {p : Attempt β} {f : β → α} {owned' : β → Nat} (hp : x.Yields s p owned')
    (hf : ∀ b, owned (f b) = owned' b) : x.Yields s (p >>= fun b => pure (f b)) owned := by
  apply Watch.Tries.bind hp
  intro b t hend
  obtain ⟨ht, -, hmoves⟩ := hend
  exact ⟨ht, trivial, hf b ▸ hmoves⟩

/-- First a look at the table, then the attempt on the published table. -/
theorem Gives.onTable {f : Unit → Attempt α}
    (hf : ∀ t : Standing, t.loaded = true → t.there = s.there → x.Gives t (f ()) owned good) :
    x.Gives s (requireTable >>= f) owned good := by
  refine Watch.tries_bind.2 (tries_requireTable ?_ fun _ => .refl s 0)
  refine Watch.Tries.mono (hf { s with loaded := true } rfl rfl) ?_ ?_
  · intro a t hend
    obtain ⟨ht, hgood, hmoves⟩ := hend
    exact ⟨ht, hgood, hmoves.of_seen⟩
  · intro failure t hmoves
    exact hmoves.of_seen

/-- An attempt on something that was gained before and is released after it. -/
theorem Gives.closedBy {p : Attempt α} {q : Program Unit} {t : Standing} {n : Nat}
    (hst : s.Moves t 0 n) (ht : t.loaded = true) (hp : x.Gives t p owned good)
    (hq : ∀ u : Standing, u.loaded = true → n ≤ u.count →
      x.watch.Ensures u q fun _ v => u.Moves v n 0) :
    x.watch.Tries t (p.closedBy q)
      (fun a u => u.loaded = true ∧ good a ∧ s.Moves u 0 (owned a)) fun _ u => s.Moves u 0 0 := by
  have hn : t.count = s.count + n := hst.count
  refine Watch.tries_closedBy.2 (hp.mono ?_ ?_)
  · intro a u hend
    obtain ⟨hu, hgood, hmoves⟩ := hend
    have hcount := hmoves.count
    apply (hq u hu (by omega)).mono
    intro _ v hv
    exact ⟨hv.loaded hu, hgood, ((hst.trans hmoves).trans hv).same (by omega)⟩
  · intro failure u hmoves
    have hu := hmoves.loaded ht
    have hcount := hmoves.count
    apply (hq u hu (by omega)).mono
    intro _ v hv
    exact ((hst.trans hmoves).trans hv).same (by omega)

end Resource

end ImageGateway
