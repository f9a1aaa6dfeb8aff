-- Values and records of a document. A reader takes exactly the values that mean
-- something of its type. A record is its defaults with those slots replaced for which
-- the document gives a value. The order of the members does not matter, nor do members
-- that no slot knows.

import ImageGateway.Json.Reader
import ImageGateway.Proofs.Documents.Trees
import Mathlib.Data.List.Forall2
import Mathlib.Data.List.Nodup

namespace ImageGateway.Json

/-! ## What a value means -/

inductive MeansText : Tree → String → Prop where
  | text (s : String) : MeansText (.text s) s

inductive MeansBoolean : Tree → Bool → Prop where
  | boolean (b : Bool) : MeansBoolean (.boolean b) b

/-- A whole number of 32 bits, without a fraction, an exponent or a minus before zero. -/
inductive MeansInt32 : Tree → Int32 → Prop where
  | whole {n : Numeral} {k : Int32} (h : n.value? = some k.toInt) : MeansInt32 (.number n) k

/-- A whole number from 0 up to the largest one of 64 bits, written as such. -/
inductive MeansUInt64 : Tree → UInt64 → Prop where
  | whole {n : Numeral} {k : UInt64} (h : n.value? = some (k.toNat : Int)) :
      MeansUInt64 (.number n) k

/-- Null means that nothing is said. -/
def MeansOptional {α : Type} (means : Tree → α → Prop) : Tree → Option α → Prop
  | .null, a? => a? = none
  | tree, a? => ∃ a, a? = some a ∧ means tree a

/-- The reader takes what means something, as what it means. -/
def ReadsAs {α : Type} (read : Node → Except Fault α) (means : Tree → α → Prop) : Prop :=
  ∀ node tree, Shows node tree → ∀ a, read node = .ok a ↔ means tree a

section

variable {α β : Type} {expected : String}

theorem bind_eq_ok_iff {x : Except Fault α} {f : α → Except Fault β} {b : β} :
    x >>= f = .ok b ↔ ∃ a, x = .ok a ∧ f a = .ok b := by
  cases x with
  | error fault => exact ⟨nofun, nofun⟩
  | ok a =>
    constructor
    · intro h
      exact ⟨a, rfl, h⟩
    · rintro ⟨_, ⟨⟩, h⟩
      exact h

theorem map_eq_ok_iff {x : Except Fault α} {f : α → β} {b : β} :
    x.map f = .ok b ↔ ∃ a, x = .ok a ∧ f a = b := by
  cases x with
  | error fault => exact ⟨nofun, nofun⟩
  | ok a => simp [Except.map]

@[simp] theorem refuse_ne_ok (node : Node) (a : α) : node.refuse expected ≠ .ok a := by
  intro h
  cases node with
  | number n =>
    obtain ⟨_, -, h⟩ := bind_eq_ok_iff.1 h
    obtain ⟨_, -, ⟨⟩⟩ := bind_eq_ok_iff.1 h
  | text s =>
    obtain ⟨_, -, h⟩ := bind_eq_ok_iff.1 h
    obtain ⟨_, -, ⟨⟩⟩ := bind_eq_ok_iff.1 h
  | _ => cases h

theorem readText_readsAs (expected : String) : ReadsAs (Node.readText expected) MeansText := by
  intro node tree h s
  cases h with
  | text content _ =>
    rw [Node.readText, content, Except.ok.injEq]
    constructor
    · rintro rfl
      exact .text _
    · rintro ⟨⟩
      rfl
  | _ =>
    simp only [Node.readText, refuse_ne_ok, false_iff]
    nofun

theorem readBoolean_readsAs : ReadsAs Node.readBoolean MeansBoolean := by
  intro node tree h b
  cases h with
  | boolean =>
    rw [Node.readBoolean, Except.ok.injEq]
    constructor
    · rintro rfl
      exact .boolean _
    · rintro ⟨⟩
      rfl
  | _ =>
    simp only [Node.readBoolean, refuse_ne_ok, false_iff]
    nofun

/-! ### Whole numbers -/

section

variable {convert : Number → Option α} {found : Literal Number} {n : Numeral} {a : α}

/-- A whole number is read if `convert` takes what stands there. -/
theorem readWhole_number_eq_ok_iff :
    (Node.number found).readWhole expected convert = .ok a ↔
      ∃ x, found.content = .ok x ∧ convert x = some a := by
  refine bind_eq_ok_iff.trans (exists_congr fun x => and_congr_right fun _ => ?_)
  cases hx : convert x with
  | some b => simp
  | none =>
    cases x with
    | floating x => simp
    | _ =>
      simp only [reduceCtorEq, iff_false]
      intro h
      obtain ⟨_, -, ⟨⟩⟩ := bind_eq_ok_iff.1 h

/-- A conversion that gives each number of its range its own value takes the numerals that are
written as that value. -/
theorem readWhole_eq_ok_iff {k : Int} (content : n.Reads found.content)
    (hrange : -2 ^ 63 ≤ k ∧ k < 2 ^ 64)
    (hnatural : ∀ m : UInt64, convert (.natural m) = some a ↔ (m.toNat : Int) = k)
    (hnegative : ∀ m : Int64, m.toInt < 0 → (convert (.negative m) = some a ↔ m.toInt = k))
    (hfloating : ∀ x, convert (.floating x) ≠ some a) :
    (Node.number found).readWhole expected convert = .ok a ↔ n.value? = some k := by
  rw [readWhole_number_eq_ok_iff]
  generalize found.content = r at content
  cases content with
  | natural whole => simp [whole, hnatural]
  | negative whole below => simp [whole, hnegative _ below]
  | other floats beyond =>
    constructor
    · rintro ⟨x, hx, hconvert⟩
      obtain ⟨d, rfl⟩ := floats x hx
      exact absurd hconvert (hfloating d)
    · intro hk
      have hbeyond := beyond k hk
      omega

end

theorem readInt32_readsAs : ReadsAs Node.readInt32 MeansInt32 := by
  intro node tree h k
  have hmax : Int32.maxValue.toInt = 2 ^ 31 - 1 := by decide
  have hmin : Int32.minValue.toInt = -2 ^ 31 := by decide
  have hlow := Int32.le_toInt k
  have hhigh := Int32.toInt_lt k
  cases h with
  | @number n _ _ content _ =>
    have hmeans : MeansInt32 (.number n) k ↔ n.value? = some k.toInt :=
      ⟨fun ⟨h⟩ => h, .whole⟩
    rw [hmeans]
    refine readWhole_eq_ok_iff content (by omega) (fun m => ?_) (fun m hm => ?_) (fun _ => nofun)
    · unfold Number.toInt32?
      dsimp only
      split
      · rw [Option.some.injEq, ← Int32.toInt_inj, Int32.toInt_ofNat_of_lt (by omega)]
      · simp only [reduceCtorEq, false_iff]
        omega
    · unfold Number.toInt32?
      dsimp only
      split
      · rw [Option.some.injEq, ← Int32.toInt_inj, Int32.toInt_ofInt_of_le (by omega) (by omega)]
      · simp only [reduceCtorEq, false_iff]
        omega
  | _ =>
    simp only [Node.readInt32, Node.readWhole, refuse_ne_ok, false_iff]
    nofun

theorem readUInt64_readsAs : ReadsAs Node.readUInt64 MeansUInt64 := by
  intro node tree h k
  have hrange := k.toNat_lt
  cases h with
  | @number n _ _ content _ =>
    have hmeans : MeansUInt64 (.number n) k ↔ n.value? = some (k.toNat : Int) :=
      ⟨fun ⟨h⟩ => h, .whole⟩
    rw [hmeans]
    refine readWhole_eq_ok_iff content (by omega) (fun m => ?_) (fun m hm => ?_) (fun _ => nofun)
    · rw [Number.toUInt64?, Option.some.injEq, ← UInt64.toNat_inj, Int.ofNat_inj]
    · simp only [Number.toUInt64?, reduceCtorEq, false_iff]
      omega
  | _ =>
    simp only [Node.readUInt64, Node.readWhole, refuse_ne_ok, false_iff]
    nofun

/-! ### Other readers -/

theorem ReadsAs.map {read : Node → Except Fault α} {means : Tree → α → Prop}
    (h : ReadsAs read means) (f : α → β) :
    ReadsAs (fun node => (read node).map f) fun tree b => ∃ a, means tree a ∧ f a = b := by
  intro node tree hshows b
  exact map_eq_ok_iff.trans (exists_congr fun a => and_congr_left fun _ => h node tree hshows a)

theorem ReadsAs.optional {read : Node → Except Fault α} {means : Tree → α → Prop}
    (h : ReadsAs read means) : ReadsAs (Node.readOptional read) (MeansOptional means) := by
  intro node tree hshows a?
  have hsome := (h.map some) node tree hshows a?
  cases hshows with
  | null =>
    simp only [Node.readOptional, MeansOptional, Except.ok.injEq]
    exact eq_comm
  | _ =>
    simp only [Node.readOptional, MeansOptional]
    rw [hsome]
    exact exists_congr fun a => by rw [and_comm, eq_comm]

end

/-! ## Slots -/

/-- A part of a record that a document can give: the key, what its values mean, and how the part is
looked up and replaced. -/
structure Slot (ρ : Type) where
  key : String
  Value : Type
  means : Tree → Value → Prop
  get : ρ → Value
  set : ρ → Value → ρ

variable {ρ : Type}

/-- What is given for the slot stands in the record, and the default where nothing is given. -/
structure Slot.Told (slot : Slot ρ) (given : Tree → Prop) (default record : ρ) : Prop where
  said : ∀ tree, given tree → slot.means tree (slot.get record)
  kept : (∀ tree, ¬ given tree) → slot.get record = slot.get default

/-- The members of which a slot knows the key. -/
def known (slots : List (Slot ρ)) (members : List (String × Tree)) : List (String × Tree) :=
  members.filter fun member => slots.any (·.key == member.1)

/-- No known key stands there twice. -/
def Unrepeated (slots : List (Slot ρ)) (members : List (String × Tree)) : Prop :=
  ((known slots members).map (·.1)).Nodup

/-- The record is the default with those slots replaced whose keys are among the members. -/
def Overrides (slots : List (Slot ρ)) (default : ρ) (members : List (String × Tree))
    (record : ρ) : Prop :=
  ∀ slot ∈ slots, slot.Told (fun tree => (slot.key, tree) ∈ members) default record

/-- Every known member means something. -/
def Typed (slots : List (Slot ρ)) (members : List (String × Tree)) : Prop :=
  ∀ slot ∈ slots, ∀ tree, (slot.key, tree) ∈ members → ∃ a, slot.means tree a

/-- The items as members, under the keys of the slots in order. -/
def keyed (slots : List (Slot ρ)) (items : List Tree) : List (String × Tree) :=
  List.zipWith (fun slot item => (slot.key, item)) slots items

/-- A record is an object, or a list of its first slots in order. -/
def MeansRecord (slots : List (Slot ρ)) (default : ρ) : Tree → ρ → Prop
  | .object members, record => Unrepeated slots members ∧ Overrides slots default members record
  | .list items, record =>
    items.length ≤ slots.length ∧ Overrides slots default (keyed slots items) record
  | _, _ => False

/-- The slots have keys of their own, do not touch each other, and make up the record. -/
structure Lawful (slots : List (Slot ρ)) : Prop where
  nodup : (slots.map (·.key)).Nodup
  get_set : ∀ slot ∈ slots, ∀ record a, slot.get (slot.set record a) = a
  get_set_of_ne : ∀ slot ∈ slots, ∀ other ∈ slots, other.key ≠ slot.key → ∀ record a,
    other.get (slot.set record a) = other.get record
  ext : ∀ record record', (∀ slot ∈ slots, slot.get record = slot.get record') → record = record'

section

variable {slots : List (Slot ρ)} {slot : Slot ρ} {default record : ρ}
  {members : List (String × Tree)} {value : Tree} {name : String}

theorem Lawful.eq_of_key {other : Slot ρ} (h : Lawful slots) (hslot : slot ∈ slots)
    (hother : other ∈ slots) (hkey : other.key = slot.key) : other = slot :=
  List.inj_on_of_nodup_map h.nodup hother hslot hkey

theorem overrides_nil_iff (h : Lawful slots) :
    Overrides slots default [] record ↔ record = default := by
  constructor
  · intro hover
    exact h.ext _ _ fun slot hslot => (hover slot hslot).kept (by simp)
  · rintro rfl slot _
    exact ⟨by simp, fun _ => rfl⟩

theorem unrepeated_cons_of_unknown (hname : ∀ slot ∈ slots, slot.key ≠ name) :
    Unrepeated slots ((name, value) :: members) ↔ Unrepeated slots members := by
  unfold Unrepeated known
  rw [List.filter_cons_of_neg (by simpa using hname)]

theorem unrepeated_cons_iff (hslot : slot ∈ slots) :
    Unrepeated slots ((slot.key, value) :: members) ↔
      slot.key ∉ members.map (·.1) ∧ Unrepeated slots members := by
  have hknown : (slots.any fun other => other.key == slot.key) = true :=
    List.any_eq_true.2 ⟨slot, hslot, beq_self_eq_true _⟩
  have hcons : known slots ((slot.key, value) :: members) =
      (slot.key, value) :: known slots members := List.filter_cons_of_pos hknown
  have hkey : slot.key ∈ (known slots members).map (·.1) ↔ slot.key ∈ members.map (·.1) := by
    constructor
    · intro hmem
      obtain ⟨member, hmember, heq⟩ := List.mem_map.1 hmem
      exact List.mem_map.2 ⟨member, (List.mem_filter.1 hmember).1, heq⟩
    · intro hmem
      obtain ⟨member, hmember, heq⟩ := List.mem_map.1 hmem
      exact List.mem_map.2 ⟨member, List.mem_filter.2 ⟨hmember, by rwa [heq]⟩, heq⟩
  rw [Unrepeated, hcons, ← hkey, List.map_cons, List.nodup_cons]
  rfl

/-- Only what is given counts, and the default in this slot. -/
theorem Slot.told_congr {given given' : Tree → Prop} {default' : ρ}
    (hgiven : ∀ tree, given tree ↔ given' tree) (hdefault : slot.get default = slot.get default') :
    slot.Told given default record ↔ slot.Told given' default' record := by
  obtain rfl : given = given' := funext fun tree => propext (hgiven tree)
  constructor
  · rintro ⟨said, kept⟩
    exact ⟨said, fun h => (kept h).trans hdefault⟩
  · rintro ⟨said, kept⟩
    exact ⟨said, fun h => (kept h).trans hdefault.symm⟩

/-- A member that no slot knows changes nothing. -/
theorem overrides_cons_of_unknown (hname : ∀ slot ∈ slots, slot.key ≠ name) :
    Overrides slots default ((name, value) :: members) record ↔
      Overrides slots default members record :=
  forall₂_congr fun slot hslot => Slot.told_congr (by simp [hname slot hslot]) rfl

/-- A member that a slot knows is put into the record, if its key does not come again. -/
theorem overrides_cons_iff (h : Lawful slots) (hslot : slot ∈ slots)
    (hkey : slot.key ∉ members.map (·.1)) :
    Overrides slots default ((slot.key, value) :: members) record ↔
      ∃ a, slot.means value a ∧ Overrides slots (slot.set default a) members record := by
  have hnot : ∀ tree, (slot.key, tree) ∉ members := fun tree hmem =>
    hkey (List.mem_map.2 ⟨_, hmem, rfl⟩)
  have hother {other : Slot ρ} (hother : other ∈ slots) (hne : other.key ≠ slot.key)
      (a : slot.Value) : other.Told (fun tree => (other.key, tree) ∈ (slot.key, value) :: members)
        default record ↔
      other.Told (fun tree => (other.key, tree) ∈ members) (slot.set default a) record :=
    Slot.told_congr (by simp [hne]) (h.get_set_of_ne slot hslot other hother hne default a).symm
  constructor
  · intro hover
    refine ⟨slot.get record, (hover slot hslot).said value List.mem_cons_self, ?_⟩
    intro other hmem
    by_cases hsame : other.key = slot.key
    · obtain rfl := h.eq_of_key hslot hmem hsame
      exact ⟨fun tree htree => absurd htree (hnot tree),
        fun _ => (h.get_set other hslot default _).symm⟩
    · exact (hother hmem hsame _).1 (hover other hmem)
  · rintro ⟨a, hmeans, hover⟩ other hmem
    by_cases hsame : other.key = slot.key
    · obtain rfl := h.eq_of_key hslot hmem hsame
      have hget : other.get record = a :=
        ((hover other hmem).kept hnot).trans (h.get_set other hslot default a)
      constructor
      · intro tree htree
        rcases List.mem_cons.1 htree with heq | htree
        · cases heq
          rwa [hget]
        · exact absurd htree (hnot tree)
      · intro hnone
        exact absurd List.mem_cons_self (hnone value)
    · exact (hother hmem hsame a).2 (hover other hmem)

end

/-! ## Reading a record -/

/-- The field reads what the slot means, and puts it into the slot. -/
structure Field.Fills (field : Field ρ) (slot : Slot ρ) : Prop where
  key : field.key = slot.key
  reads : ∀ {node : Node} {tree : Tree}, Shows node tree → ∀ change,
    field.read node = .ok change ↔
      ∃ a, slot.means tree a ∧ (fun record => slot.set record a) = change

theorem Field.of_fills {α : Type} {key : String} {read : Node → Except Fault α}
    {means : Tree → α → Prop} {get : ρ → α} {set : ρ → α → ρ} (h : ReadsAs read means) :
    (Field.of key read set).Fills ⟨key, α, means, get, set⟩ :=
  ⟨rfl, fun hshows change => h.map (fun a record => set record a) _ _ hshows change⟩

section

variable {fields : List (Field ρ)} {slots : List (Slot ρ)}

/-- What the fields find under a key is the field of the slot with that key. -/
theorem find_cases (h : List.Forall₂ Field.Fills fields slots) (name : String) :
    fields.find? (·.key == name) = none ∧ (∀ slot ∈ slots, slot.key ≠ name) ∨
      ∃ field, fields.find? (·.key == name) = some field ∧
        ∃ slot ∈ slots, slot.key = name ∧ field.Fills slot := by
  induction h with
  | nil => exact .inl ⟨rfl, nofun⟩
  | @cons field slot fields slots hfills _ ih =>
    by_cases hkey : field.key = name
    · refine .inr ⟨field, List.find?_cons_of_pos (beq_iff_eq.2 hkey), slot, List.mem_cons_self, ?_,
        hfills⟩
      exact hfills.key.symm.trans hkey
    · rw [List.find?_cons_of_neg (by simpa using hkey)]
      obtain ⟨hnone, hkeys⟩ | ⟨found, hsome, other, hother, hfound⟩ := ih
      · refine .inl ⟨hnone, List.forall_mem_cons.2 ⟨?_, hkeys⟩⟩
        exact fun h => hkey (hfills.key.trans h)
      · exact .inr ⟨found, hsome, other, List.mem_cons_of_mem _ hother, hfound⟩

theorem readMembers_cons {key : Key} {name : String} (named : key.text.content = .ok name)
    (node : Node) (nodes : List (Key × Node)) (tail : ObjectEnd) (seen : List String)
    (record : ρ) :
    readMembers fields ((key, node) :: nodes) tail seen record =
      (match fields.find? (·.key == name) with
      | some field =>
        if seen.contains name then .error ⟨.repeatedKey name, key.noticed⟩
        else field.read node >>= fun change =>
          readMembers fields nodes tail (name :: seen) (change record)
      | none => node.pass >>= fun _ => readMembers fields nodes tail seen record) := by
  rw [readMembers, named]
  rfl

/-- No known key that was seen before comes again. -/
def Unseen (slots : List (Slot ρ)) (seen : List String) (members : List (String × Tree)) : Prop :=
  ∀ slot ∈ slots, slot.key ∈ seen → slot.key ∉ members.map (·.1)

theorem unseen_nil (slots : List (Slot ρ)) (members : List (String × Tree)) :
    Unseen slots [] members := fun _ _ => nofun

theorem unseen_cons_of_unknown {seen : List String} {members : List (String × Tree)} {value : Tree}
    {name : String} (hname : ∀ slot ∈ slots, slot.key ≠ name) :
    Unseen slots seen ((name, value) :: members) ↔ Unseen slots seen members :=
  forall₂_congr fun slot hslot => by simp [hname slot hslot]

/-- A key that was not seen counts as seen from its member on. -/
theorem unseen_cons_iff {slot : Slot ρ} {seen : List String} {members : List (String × Tree)}
    {value : Tree} (hslot : slot ∈ slots) (hseen : slot.key ∉ seen) :
    Unseen slots (slot.key :: seen) members ↔
      slot.key ∉ members.map (·.1) ∧ Unseen slots seen ((slot.key, value) :: members) := by
  constructor
  · intro h
    refine ⟨h slot hslot List.mem_cons_self, fun other hother hmem hcons => ?_⟩
    rcases List.mem_cons.1 hcons with hsame | hmore
    · rw [hsame] at hmem
      exact hseen hmem
    · exact h other hother (List.mem_cons_of_mem _ hmem) hmore
  · rintro ⟨hkey, h⟩ other hother hmem
    rcases List.mem_cons.1 hmem with hsame | hmem
    · rwa [hsame]
    · exact fun hmore => h other hother hmem (List.mem_cons_of_mem _ hmore)

/-- An object is read as its record exactly if no known key comes twice, where the keys in `seen`
came before. The induction is on the members: a key that is read goes to those seen, and its value
goes into the record, which is the default for what follows. -/
theorem readMembers_eq_ok_iff (hfills : List.Forall₂ Field.Fills fields slots)
    (hlawful : Lawful slots) {nodes : List (Key × Node)} {members : List (String × Tree)}
    (hshows : ShowsMembers nodes members) (stop : Nat) (seen : List String) (default record : ρ) :
    readMembers fields nodes (.closed stop) seen default = .ok record ↔
      Unseen slots seen members ∧ Unrepeated slots members ∧
        Overrides slots default members record := by
  induction nodes generalizing members seen default with
  | nil =>
    cases hshows
    rw [overrides_nil_iff hlawful]
    simp [readMembers, ObjectEnd.whileReading, Except.map, Unseen, Unrepeated, known, eq_comm]
  | cons entry nodes ih =>
    cases hshows with
    | @cons key name _ node value _ members named passed h rest =>
      rw [readMembers_cons named]
      obtain ⟨hfind, hname⟩ | ⟨field, hfind, slot, hslot, rfl, hfield⟩ := find_cases hfills name
      · obtain ⟨_, hpass⟩ := pass_of_shows h
        rw [unseen_cons_of_unknown hname, unrepeated_cons_of_unknown hname,
          overrides_cons_of_unknown hname, ← ih rest seen default, hfind, hpass]
        rfl
      · rw [hfind, unrepeated_cons_iff hslot]
        dsimp only
        by_cases hseen : slot.key ∈ seen
        · rw [if_pos (List.contains_iff_mem.2 hseen)]
          simp only [reduceCtorEq, false_iff]
          rintro ⟨hunseen, -⟩
          exact hunseen slot hslot hseen (by simp)
        · rw [if_neg (by simpa using hseen), bind_eq_ok_iff]
          constructor
          · rintro ⟨change, hchange, hread⟩
            obtain ⟨a, hmeans, rfl⟩ := (hfield.reads h change).1 hchange
            obtain ⟨hnot, hunrepeated, hover⟩ := (ih rest _ _).1 hread
            obtain ⟨hkey, hunseen⟩ := (unseen_cons_iff hslot hseen).1 hnot
            exact ⟨hunseen, ⟨hkey, hunrepeated⟩,
              (overrides_cons_iff hlawful hslot hkey).2 ⟨a, hmeans, hover⟩⟩
          · rintro ⟨hunseen, ⟨hkey, hunrepeated⟩, hover⟩
            obtain ⟨a, hmeans, hover⟩ := (overrides_cons_iff hlawful hslot hkey).1 hover
            exact ⟨_, (hfield.reads h _).2 ⟨a, hmeans, rfl⟩,
              (ih rest _ _).2 ⟨(unseen_cons_iff hslot hseen).2 ⟨hkey, hunseen⟩, hunrepeated, hover⟩⟩

/-- The keys of the items are those of the first slots. -/
theorem keys_keyed (slots : List (Slot ρ)) (items : List Tree) :
    (keyed slots items).map (·.1) = (slots.map (·.key)).take items.length := by
  induction slots generalizing items with
  | nil => simp [keyed]
  | cons slot slots ih =>
    cases items with
    | nil => rfl
    | cons item items => exact congrArg (slot.key :: ·) (ih items)

theorem not_mem_keyed {slot : Slot ρ} (h : ((slot :: slots).map (·.key)).Nodup)
    (items : List Tree) : slot.key ∉ (keyed slots items).map (·.1) := by
  rw [keys_keyed]
  exact fun hmem => (List.nodup_cons.1 h).1 (List.mem_of_mem_take hmem)

/-- A list is read into the slots in order. The induction is on the slots that are left. -/
theorem readItems_eq_ok_iff {left : List (Slot ρ)} (hfills : List.Forall₂ Field.Fills fields left)
    (hlawful : Lawful slots) (hleft : left.Sublist slots) {nodes : List (Nat × Node)}
    {items : List Tree} (hshows : ShowsItems nodes items) (stop : Nat) (default record : ρ) :
    readItems fields nodes (.closed stop) default = .ok record ↔
      items.length ≤ left.length ∧ Overrides slots default (keyed left items) record := by
  induction hfills generalizing nodes items default with
  | nil =>
    cases hshows with
    | nil =>
      rw [keyed, List.zipWith_nil_left, overrides_nil_iff hlawful]
      simp [readItems, ListEnd.afterLast, Except.map, eq_comm]
    | cons => simp [readItems]
  | @cons field slot fields left hfield _ ih =>
    have hslot : slot ∈ slots := hleft.subset List.mem_cons_self
    have hnodup := hlawful.nodup.sublist (hleft.map (·.key))
    cases hshows with
    | nil =>
      rw [keyed, List.zipWith_nil_right, overrides_nil_iff hlawful]
      simp [readItems, ListEnd.whileReading, Except.map, eq_comm]
    | @cons _ node item nodes items h rest =>
      have hkeyed : keyed (slot :: left) (item :: items) =
          (slot.key, item) :: keyed left items := rfl
      have hmore := ih ((List.sublist_cons_self _ _).trans hleft) rest
      rw [hkeyed, overrides_cons_iff hlawful hslot (not_mem_keyed hnodup items), readItems,
        bind_eq_ok_iff, List.length_cons, List.length_cons, Nat.add_le_add_iff_right]
      constructor
      · rintro ⟨change, hchange, hread⟩
        obtain ⟨a, hmeans, rfl⟩ := (hfield.reads h change).1 hchange
        obtain ⟨hlength, hover⟩ := (hmore _).1 hread
        exact ⟨hlength, a, hmeans, hover⟩
      · rintro ⟨hlength, a, hmeans, hover⟩
        exact ⟨_, (hfield.reads h _).2 ⟨a, hmeans, rfl⟩, (hmore _).2 ⟨hlength, hover⟩⟩

theorem readRecord_readsAs (expected : String) (default : ρ)
    (hfills : List.Forall₂ Field.Fills fields slots) (hlawful : Lawful slots) :
    ReadsAs (readRecord expected fields default) (MeansRecord slots default) := by
  intro node tree hshows record
  cases hshows with
  | @object _ stop _ members h =>
    rw [MeansRecord, readRecord, readMembers_eq_ok_iff hfills hlawful h]
    exact and_iff_right (unseen_nil slots members)
  | list h =>
    rw [MeansRecord, readRecord, readItems_eq_ok_iff hfills hlawful (List.Sublist.refl _) h]
  | _ =>
    simp only [readRecord, refuse_ne_ok, false_iff]
    nofun

end

/-- Where a document spells a value, it is read as what that value means. -/
theorem readDocument_eq_ok_iff {α : Type} {read : Node → Except Fault α} {means : Tree → α → Prop}
    (h : ReadsAs read means) {document : String} {tree : Tree}
    (hspells : SpellsDocument (Text.Utf8.encode document) tree) (a : α) :
    readDocument read document = .ok a ↔ means tree a := by
  obtain ⟨node, hparse, hshows⟩ := parse_of_spellsDocument hspells
  rw [← h node tree hshows a]
  unfold readDocument
  dsimp only
  rw [hparse]
  cases read node with
  | error fault => exact ⟨nofun, nofun⟩
  | ok b =>
    show Except.ok b = .ok a ↔ _
    rw [Except.ok.injEq, Except.ok.injEq]

/-! ## Which objects are records -/

section

variable {slots : List (Slot ρ)} {default : ρ} {members members' : List (String × Tree)}

/-- Where no known key is repeated, there is a record exactly if every known member means
something. -/
theorem exists_overrides_iff (h : Lawful slots) (hunrepeated : Unrepeated slots members) :
    (∃ record, Overrides slots default members record) ↔ Typed slots members := by
  constructor
  · rintro ⟨record, hover⟩ slot hslot tree htree
    exact ⟨_, (hover slot hslot).said tree htree⟩
  · intro htyped
    induction members generalizing default with
    | nil => exact ⟨default, (overrides_nil_iff h).2 rfl⟩
    | cons member members ih =>
      obtain ⟨name, value⟩ := member
      have hrest : Typed slots members := fun slot hslot tree htree =>
        htyped slot hslot tree (List.mem_cons_of_mem _ htree)
      by_cases hname : ∀ slot ∈ slots, slot.key ≠ name
      · obtain ⟨record, hover⟩ := ih ((unrepeated_cons_of_unknown hname).1 hunrepeated) hrest
        exact ⟨record, (overrides_cons_of_unknown hname).2 hover⟩
      · simp only [not_forall, not_not] at hname
        obtain ⟨slot, hslot, rfl⟩ := hname
        obtain ⟨hkey, hunrepeated⟩ := (unrepeated_cons_iff hslot).1 hunrepeated
        obtain ⟨a, hmeans⟩ := htyped slot hslot value List.mem_cons_self
        obtain ⟨record, hover⟩ := ih hunrepeated hrest
        exact ⟨record, (overrides_cons_iff h hslot hkey).2 ⟨a, hmeans, hover⟩⟩

/-- An object is a record exactly if it has no known key twice and its known members mean
something. -/
theorem exists_means_object_iff (h : Lawful slots) :
    (∃ record, MeansRecord slots default (.object members) record) ↔
      Unrepeated slots members ∧ Typed slots members := by
  constructor
  · rintro ⟨record, hunrepeated, hover⟩
    exact ⟨hunrepeated, (exists_overrides_iff h hunrepeated).1 ⟨record, hover⟩⟩
  · rintro ⟨hunrepeated, htyped⟩
    obtain ⟨record, hover⟩ := (exists_overrides_iff h hunrepeated).2 htyped
    exact ⟨record, hunrepeated, hover⟩

/-- The members that the slots know are the same in some order, with values that are alike. Of the
others there may be any. -/
def Rearranged (slots : List (Slot ρ)) (alike : String → Tree → Tree → Prop)
    (members members' : List (String × Tree)) : Prop :=
  ∃ between, (known slots members).Perm between ∧
    List.Forall₂ (fun member member' => member.1 = member'.1 ∧ alike member.1 member.2 member'.2)
      between (known slots members')

/-- Each element of the first list has one in the second that goes with it. -/
theorem exists_of_forall₂ {α β : Type} {R : α → β → Prop} {as : List α} {bs : List β}
    (h : List.Forall₂ R as bs) {a : α} (ha : a ∈ as) : ∃ b ∈ bs, R a b := by
  induction h with
  | nil => cases ha
  | cons hab _ ih =>
    rcases List.mem_cons.1 ha with rfl | ha
    · exact ⟨_, List.mem_cons_self, hab⟩
    · obtain ⟨b, hb, hab⟩ := ih ha
      exact ⟨b, List.mem_cons_of_mem _ hb, hab⟩

theorem mem_known_iff {slot : Slot ρ} {tree : Tree} (hslot : slot ∈ slots) :
    (slot.key, tree) ∈ known slots members ↔ (slot.key, tree) ∈ members := by
  have hknown : (slots.any fun other => other.key == slot.key) = true :=
    List.any_eq_true.2 ⟨slot, hslot, beq_self_eq_true _⟩
  rw [known, List.mem_filter]
  exact and_iff_left hknown

section

variable {alike : String → Tree → Tree → Prop} (h : Rearranged slots alike members members')
include h

theorem Rearranged.unrepeated_iff : Unrepeated slots members ↔ Unrepeated slots members' := by
  obtain ⟨between, hperm, hforall⟩ := h
  have hkeys : between.map (·.1) = (known slots members').map (·.1) := by
    rw [← List.forall₂_eq_eq_eq, List.forall₂_map_left_iff, List.forall₂_map_right_iff]
    exact hforall.imp fun _ _ h => h.1
  unfold Unrepeated
  rw [(hperm.map _).nodup_iff, hkeys]

theorem Rearranged.forward {slot : Slot ρ} {tree : Tree} (hslot : slot ∈ slots)
    (htree : (slot.key, tree) ∈ members) :
    ∃ tree', (slot.key, tree') ∈ members' ∧ alike slot.key tree tree' := by
  obtain ⟨between, hperm, hforall⟩ := h
  have hbetween := hperm.mem_iff.1 ((mem_known_iff hslot).2 htree)
  obtain ⟨⟨_, tree'⟩, hmember, rfl, hsame⟩ := exists_of_forall₂ hforall hbetween
  exact ⟨tree', (mem_known_iff hslot).1 hmember, hsame⟩

theorem Rearranged.backward {slot : Slot ρ} {tree' : Tree} (hslot : slot ∈ slots)
    (htree : (slot.key, tree') ∈ members') :
    ∃ tree, (slot.key, tree) ∈ members ∧ alike slot.key tree tree' := by
  obtain ⟨between, hperm, hforall⟩ := h
  have hflipped : List.Forall₂ (fun member' member : String × Tree =>
      member.1 = member'.1 ∧ alike member.1 member.2 member'.2) (known slots members') between :=
    hforall.flip
  obtain ⟨⟨_, tree⟩, hmember, rfl, hsame⟩ :=
    exists_of_forall₂ hflipped ((mem_known_iff hslot).2 htree)
  exact ⟨tree, (mem_known_iff hslot).1 (hperm.mem_iff.2 hmember), hsame⟩

/-- Values that are alike mean the same, so the record is the same. -/
theorem Rearranged.overrides_iff {record : ρ} (halike : ∀ slot ∈ slots, ∀ tree tree',
      alike slot.key tree tree' → ∀ a, slot.means tree a ↔ slot.means tree' a) :
    Overrides slots default members record ↔ Overrides slots default members' record := by
  refine forall₂_congr fun slot hslot => ⟨fun hold => ?_, fun hold => ?_⟩
  · constructor
    · intro tree' htree'
      obtain ⟨tree, htree, hsame⟩ := h.backward hslot htree'
      exact (halike slot hslot _ _ hsame _).1 (hold.said tree htree)
    · intro hnone
      refine hold.kept fun tree htree => ?_
      obtain ⟨tree', htree', -⟩ := h.forward hslot htree
      exact hnone tree' htree'
  · constructor
    · intro tree htree
      obtain ⟨tree', htree', hsame⟩ := h.forward hslot htree
      exact (halike slot hslot _ _ hsame _).2 (hold.said tree' htree')
    · intro hnone
      refine hold.kept fun tree' htree' => ?_
      obtain ⟨tree, htree, -⟩ := h.backward hslot htree'
      exact hnone tree htree

end

/-- Two objects with the same known members in some order are the same record. -/
theorem Rearranged.means_iff {record : ρ} (h : Rearranged slots (fun _ => Eq) members members') :
    MeansRecord slots default (.object members) record ↔
      MeansRecord slots default (.object members') record := by
  refine and_congr h.unrepeated_iff (h.overrides_iff ?_)
  rintro _ _ _ _ rfl _
  rfl

end

end ImageGateway.Json
