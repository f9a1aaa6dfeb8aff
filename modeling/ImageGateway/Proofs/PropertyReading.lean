-- What is said when a property is read. A value is only made, and the property only
-- taken into it, after the object was asked for the argument and the library was
-- asked whether the type that it just named can be turned into the wanted one. A
-- reader takes the property into a container of its own type and gives the container
-- back, whatever came of the look into it.

import ImageGateway.Proofs.Assignment
import ImageGateway.Proofs.Keeping.Properties
import ImageGateway.Proofs.Speech
import ImageGateway.Proofs.ValueReading

namespace ImageGateway

open Program Transcript
open SpokenWatch (shownName pendingMessage)

/-! ## Taking a property -/

/-- The object has no argument of the name: what is said, and the failure. The message comes from
the error buffer. -/
inductive Unfound (object : Handle) (text : CText) : Failure → Transcript → Prop where
  | intro {found : Lookup} {asked : Transcript} {described : String} {buffer : Option CText}
      (missing : found.type? = none) (inquiries : ∀ e ∈ asked, e.request.Inquiry) :
      Unfound object text (.unknownArgument text.lossy described (pendingMessage buffer))
        (⟨.call (.getArgument object text), found⟩ :: asked ++
          [⟨.call .errorBuffer, buffer⟩, ⟨.call (.act .errorClear), ()⟩])

/-- How a property is taken into a new value of the wanted type: what is said, and what comes of
it. -/
inductive Taken (object : Handle) (text : CText) (wanted : TypeId) :
    Except Failure Value → Transcript → Prop where
  | unfound {f : Failure} {said : Transcript} (unfound : Unfound object text f said) :
      Taken object text wanted (.error f) said
  /-- The type of the property cannot be turned into the wanted one. The failure names both. -/
  | mismatch {found : Lookup} {own : TypeId} {wantedName ownName : Option CText}
      (has : found.type? = some own) :
      Taken object text wanted (.error (.typeMismatch (shownName wantedName) (shownName ownName)))
        [⟨.call (.getArgument object text), found⟩, ⟨.call (.transformable own wanted), 0⟩,
          ⟨.call (.typeName wanted), wantedName⟩, ⟨.call (.typeName own), ownName⟩]
  | taken {found : Lookup} {own : TypeId} {answer : Int32} {number? : Option Nat}
      (has : found.type? = some own) (fits : answer ≠ 0) :
      Taken object text wanted (.ok ⟨Cell.made number? wanted⟩)
        [⟨.call (.getArgument object text), found⟩, ⟨.call (.transformable own wanted), answer⟩,
          ⟨.call (.cellInit wanted), number?⟩,
          ⟨.call (.getProperty object text (Cell.made number? wanted)), ()⟩]

/-- A request that makes a value or puts a property into one. -/
def Request.Fetches : Request → Prop
  | .call (.cellInit _) | .call (.getProperty _ _ _) => True
  | _ => False

/-- The object has the argument, and the library can turn its type into the wanted one. -/
def Transcript.Offers (object : Handle) (text : CText) (wanted : TypeId) (events : Transcript) :
    Prop :=
  ∃ found own answer, ⟨.call (.getArgument object text), found⟩ ∈ events ∧
    found.type? = some own ∧ ⟨.call (.transformable own wanted), answer⟩ ∈ events ∧ answer ≠ 0

theorem Transcript.offers_spoken {object : Handle} {text : CText} {wanted : TypeId}
    {events : Transcript} :
    events.spoken.Offers object text wanted ↔ events.Offers object text wanted := by
  simp [Offers, mem_spoken]

namespace Request

/-- A request that makes no container and gives none back. -/
def Containerless : Request → Prop
  | .call (.cellInit _) | .call (.cellUnset _) => False
  | _ => True

theorem not_fetches_of_question (q : Request) (h : q.Question) : ¬ q.Fetches := by
  unfold Fetches
  split
  · exact fun _ => h
  · exact fun _ => h
  · exact id

theorem containerless_of_question (q : Request) (h : q.Question) : q.Containerless := by
  unfold Containerless
  split
  · exact h
  · exact h
  · trivial

theorem containerless_of_looking (q : Request) (h : q.Looking) : q.Containerless := by
  unfold Containerless
  split
  · exact h
  · exact h
  · trivial

end Request

namespace Unfound

variable {object : Handle} {text : CText} {wanted : TypeId} {f : Failure} {said : Transcript}

theorem not_offers (h : Unfound object text f said) : ¬ said.Offers object text wanted := by
  cases h with
  | intro missing inquiries =>
    rintro ⟨found, own, -, hfound, hown, -⟩
    have hnone : found.type? = none := by
      rcases List.mem_append.1 hfound with h | h
      · rcases List.mem_cons.1 h with h | h
        · cases h
          exact missing
        · exact (inquiries _ h).elim
      · simp at h
    exact nomatch hown.symm.trans hnone

theorem requests (h : Unfound object text f said) :
    ∀ e ∈ said, e.request.Question ∨ e.request = .call (.getArgument object text) := by
  cases h with
  | intro missing inquiries =>
    intro e he
    rcases List.mem_append.1 he with h | h
    · rcases List.mem_cons.1 h with rfl | h
      · exact .inr rfl
      · exact .inl (e.request.question_of_inquiry (inquiries e h))
    · left
      rcases List.mem_cons.1 h with rfl | h
      · trivial
      · rw [List.mem_singleton.1 h]
        trivial

end Unfound

namespace Taken

variable {object : Handle} {text : CText} {wanted : TypeId} {r : Except Failure Value}
  {said : Transcript}

/-- A property is read exactly if the object has it and its type can be turned into the wanted
one. -/
theorem isOk_iff (h : Taken object text wanted r said) :
    r.isOk = true ↔ said.Offers object text wanted := by
  cases h with
  | unfound unfound =>
    exact ⟨fun h => Bool.noConfusion h, fun h => absurd h unfound.not_offers⟩
  | mismatch has => simp [Transcript.Offers, Except.isOk, Except.toBool]
  | taken has fits =>
    refine ⟨fun _ => ⟨_, _, _, List.mem_cons_self .., has, ?_, fits⟩, fun _ => rfl⟩
    exact List.mem_cons_of_mem _ (List.mem_cons_self ..)

/-- Who refuses has made no value and has taken no property. -/
theorem not_fetches {f : Failure} (h : Taken object text wanted (.error f) said) :
    ∀ e ∈ said, ¬ e.request.Fetches := by
  cases h with
  | unfound unfound =>
    intro e he hfetches
    rcases unfound.requests e he with h | h
    · exact e.request.not_fetches_of_question h hfetches
    · rw [h] at hfetches
      exact hfetches
  | mismatch has => simp [Request.Fetches]

end Taken

/-- What the first of two lookups finds out about a property: its type, and whether that is an
enum. -/
inductive Declared (object : Handle) (text : CText) (own ancestor : TypeId) :
    Transcript → Prop where
  | intro {found : Lookup} {ownName : Option CText} (has : found.type? = some own) :
      Declared object text own ancestor
        [⟨.call (.getArgument object text), found⟩, ⟨.call (.typeName own), ownName⟩,
          ⟨.call (.fundamental own), ancestor⟩]

/-- How a property is taken into a value of the type that it is declared with. Whether that is
possible is up to the second lookup. -/
inductive TakenAsDeclared (object : Handle) (text : CText) :
    Except Failure Value → Transcript → Prop where
  | unfound {f : Failure} {said : Transcript} (unfound : Unfound object text f said) :
      TakenAsDeclared object text (.error f) said
  | declared {own ancestor : TypeId} {r : Except Failure Value} {asked taking : Transcript}
      (declared : Declared object text own ancestor asked)
      (taken : Taken object text own r taking) :
      TakenAsDeclared object text r (asked ++ taking)

/-! ## Readers -/

/-- Which type a reader has for its container, and what is said to find it out. -/
inductive Settles (object : Handle) (text : CText) : Getter → TypeId → Transcript → Prop where
  | bool : Settles object text .bool .boolean []
  | uint64 : Settles object text .uint64 .uint64 []
  | double : Settles object text .double .double []
  | text : Settles object text .text .string []
  | ints {type : TypeId} : Settles object text .ints type [⟨.call (.registered .intArray), type⟩]
  | doubles {type : TypeId} :
      Settles object text .doubles type [⟨.call (.registered .doubleArray), type⟩]
  | blob {type : TypeId} : Settles object text .blob type [⟨.call (.registered .blob), type⟩]
  | image {type : TypeId} : Settles object text .image type [⟨.call (.registered .image), type⟩]
  /-- A property of an enum is read under its own type. -/
  | enumeration {own : TypeId} {asked : Transcript}
      (declared : Declared object text own .enumeration asked) :
      Settles object text .int own asked
  | int {own ancestor : TypeId} {asked : Transcript}
      (declared : Declared object text own ancestor asked) (other : ancestor ≠ .enumeration) :
      Settles object text .int .int asked
  /-- An object is read from the value of the property. -/
  | object {own ancestor : TypeId} {asked : Transcript}
      (declared : Declared object text own ancestor asked) :
      Settles object text .object own asked

/-- How a reader reads a property: what is said, and what comes of it. -/
inductive Got (object : Handle) (text : CText) (getter : Getter) :
    Except Failure getter.Answer → Transcript → Prop where
  /-- The first of two lookups finds nothing. -/
  | unsettled {f : Failure} {said : Transcript} (unfound : Unfound object text f said) :
      Got object text getter (.error f) said
  | refused {wanted : TypeId} {f : Failure} {settling taking : Transcript}
      (settles : Settles object text getter wanted settling)
      (refused : Taken object text wanted (.error f) taking) :
      Got object text getter (.error f) (settling ++ taking)
  /-- The container is looked into, the answer is what the accessor told, and then the container is
  given back. -/
  | read {wanted : TypeId} {v : Value} {r : Except Failure getter.Answer}
      {settling taking looks : Transcript} (settles : Settles object text getter wanted settling)
      (taken : Taken object text wanted (.ok v) taking)
      (read : (getter.read v).run.Speaks looks r) (told : ReadOut v.cell getter r looks) :
      Got object text getter r (settling ++ taking ++ (looks ++ released v.cell))

/-! ## Containers -/

/-- The container that an initialisation makes. A cell without a type is none. -/
def Event.container? : Event → Option Cell
  | ⟨.call (.cellInit type), number?⟩ =>
    if (Cell.made number? type).type = .invalid then none else some (Cell.made number? type)
  | _ => none

theorem Event.container?_cellInit {type : TypeId} {number? : Option Nat} :
    Event.container? ⟨.call (.cellInit type), number?⟩ =
      if (Cell.made number? type).type = .invalid then none else some (Cell.made number? type) :=
  rfl

/-- The container that is given back. -/
def Event.returned? : Event → Option Cell
  | ⟨.call (.cellUnset c), _⟩ => some c
  | _ => none

namespace Transcript

/-- The containers that are made, oldest first. -/
def containers (events : Transcript) : List Cell := events.filterMap Event.container?

/-- The containers that are given back, oldest first. -/
def returned (events : Transcript) : List Cell := events.filterMap Event.returned?

theorem containers_cons (e : Event) (events : Transcript) :
    containers (e :: events) = e.container?.toList ++ containers events := by
  unfold containers
  cases h : e.container? with
  | none => rw [List.filterMap_cons_none h]; rfl
  | some c => rw [List.filterMap_cons_some h]; rfl

@[simp] theorem containers_append (first second : Transcript) :
    containers (first ++ second) = containers first ++ containers second := List.filterMap_append

@[simp] theorem returned_append (first second : Transcript) :
    returned (first ++ second) = returned first ++ returned second := List.filterMap_append

@[simp] theorem containers_spoken (events : Transcript) :
    events.spoken.containers = events.containers := filterMap_spoken (fun _ => rfl) events

@[simp] theorem returned_spoken (events : Transcript) :
    events.spoken.returned = events.returned := filterMap_spoken (fun _ => rfl) events

theorem untouched_of_containerless {events : Transcript}
    (h : ∀ e ∈ events, e.request.Containerless) :
    events.containers = [] ∧ events.returned = [] := by
  constructor
  · refine List.filterMap_eq_nil_iff.2 fun e he => ?_
    have hrequest := h e he
    unfold Event.container?
    split
    · exact hrequest.elim
    · rfl
  · refine List.filterMap_eq_nil_iff.2 fun e he => ?_
    have hrequest := h e he
    unfold Event.returned?
    split
    · exact hrequest.elim
    · rfl

/-- A released container is given back. -/
theorem released_containers (c : Cell) :
    (released c).containers = [] ∧
      (released c).returned = if c.type = .invalid then [] else [c] := by
  unfold released
  split
  · exact ⟨rfl, rfl⟩
  · exact ⟨rfl, rfl⟩

end Transcript

/-! ## The parts of a reading -/

namespace Property

variable {object : Object} {text : CText} {said : Transcript}

theorem lookup_speaks {r : Except Failure FoundArgument}
    (h : (lookup object text).run.Speaks said r) :
    (∃ f, Unfound object.handle text f said ∧ r = .error f) ∨
      ∃ found spec, found.type? = some spec.type ∧
        said = [⟨.call (.getArgument object.handle text), found⟩] ∧
        r = .ok ⟨spec, found.flags⟩ := by
  obtain ⟨found, rest, rfl, hrest⟩ := speaks_call h
  have hunfound (hnone : found.type? = none)
      (h : (lookup.unknown object text).run.Speaks rest r) :
      ∃ f, Unfound object.handle text f (⟨.call (.getArgument object.handle text), found⟩ :: rest) ∧
        r = .error f := by
    obtain ⟨asked, taking, described, rfl, hdescribe, htaking⟩ := speaks_then h
    obtain ⟨taken, last, message, rfl, htake, hlast⟩ := speaks_then htaking
    obtain ⟨buffer, rfl, rfl⟩ := speaks_takeError htake
    obtain ⟨rfl, rfl⟩ := speaks_done_iff.1 hlast
    have hinquiries : ∀ e ∈ asked, e.request.Inquiry :=
      speaks_asked (describe_asks (fun _ h => h) object) hdescribe
    exact ⟨_, by simpa using Unfound.intro hnone hinquiries, rfl⟩
  rcases hspec : found.spec with _ | spec
  · rw [hspec] at hrest
    exact .inl (hunfound (by simp [Lookup.type?, hspec]) hrest)
  · rw [hspec] at hrest
    dsimp only at hrest
    by_cases hstatus : found.status = 0
    · rw [if_pos hstatus] at hrest
      obtain ⟨rfl, rfl⟩ := speaks_done_iff.1 hrest
      exact .inr ⟨found, spec, by simp [Lookup.type?, hspec, hstatus], rfl, rfl⟩
    · rw [if_neg hstatus] at hrest
      exact .inl (hunfound (by simp [Lookup.type?, hstatus]) hrest)

theorem checkTransformable_speaks {source target : TypeId} {r : Except Failure Unit}
    (h : (checkTransformable source target).run.Speaks said r) :
    (∃ answer : Int32, answer ≠ 0 ∧ said = [⟨.call (.transformable source target), answer⟩] ∧
      r = .ok ()) ∨
    ∃ targetName sourceName, said = [⟨.call (.transformable source target), 0⟩,
        ⟨.call (.typeName target), targetName⟩, ⟨.call (.typeName source), sourceName⟩] ∧
      r = .error (.typeMismatch (shownName targetName) (shownName sourceName)) := by
  obtain ⟨answer, rest, rfl, hrest⟩ := speaks_call h
  by_cases hanswer : answer = 0
  · subst hanswer
    obtain ⟨targetName, sourceName, rfl, rfl⟩ := speaks_mismatch hrest
    exact .inr ⟨targetName, sourceName, rfl, rfl⟩
  · rw [if_neg (by simpa using hanswer)] at hrest
    obtain ⟨rfl, rfl⟩ := speaks_done_iff.1 hrest
    exact .inl ⟨answer, hanswer, rfl, rfl⟩

end Property

namespace Value

variable {said : Transcript}

theorem make_speaks {type : TypeId} {v : Value} (h : (make type).Speaks said v) :
    ∃ number?, said = [⟨.call (.cellInit type), number?⟩] ∧ v = ⟨Cell.made number? type⟩ := by
  obtain ⟨first, rest, number?, rfl, hinit, hrest⟩ := speaks_bind_iff.1 h
  rw [speaks_request (q := .call (.cellInit type)) (by simp) hinit]
  cases number? with
  | none =>
    obtain ⟨rfl, rfl⟩ := speaks_done_iff.1 hrest
    exact ⟨none, rfl, rfl⟩
  | some number =>
    obtain ⟨rfl, rfl⟩ := speaks_done_iff.1 hrest
    exact ⟨some number, rfl, rfl⟩

theorem new_speaks {type : TypeId} {r : Except Failure Value}
    (h : (new type).run.Speaks said r) :
    ∃ number?, said = [⟨.call (.cellInit type), number?⟩] ∧ r = .ok ⟨Cell.made number? type⟩ := by
  obtain ⟨v, rfl, hmake⟩ := speaks_lift (speaks_requireTable h)
  obtain ⟨number?, rfl, rfl⟩ := make_speaks hmake
  exact ⟨number?, rfl, rfl⟩

theorem release_speaks {v : Value} (h : v.release.Speaks said ()) : said = released v.cell := by
  unfold release at h
  unfold released
  split
  · rw [if_pos ‹_›] at h
    exact (speaks_done_iff.1 h).1
  · rw [if_neg ‹_›] at h
    exact speaks_request (q := .call (.cellUnset v.cell)) (by simp) (speaks_ifLoaded h)

end Value

/-! ## A reading -/

namespace Property

variable {object : Object} {name : String} {text : CText} {said : Transcript}

theorem get_speaks {wanted : TypeId} {r : Except Failure Value}
    (hname : CText.ofString? name = some text) (h : (get object name wanted).run.Speaks said r) :
    Taken object.handle text wanted r said := by
  have h := speaks_nativeText hname (speaks_requireTable h)
  obtain ⟨_, hlookup, rfl⟩ | ⟨looking, rest, found, rfl, hlookup, hrest⟩ := speaks_try h
  · obtain ⟨_, hunfound, ⟨⟩⟩ | ⟨_, _, -, -, ⟨⟩⟩ := lookup_speaks hlookup
    exact .unfound hunfound
  obtain ⟨_, -, ⟨⟩⟩ | ⟨lookup, spec, has, rfl, ⟨⟩⟩ := lookup_speaks hlookup
  obtain ⟨_, hcheck, rfl⟩ | ⟨checking, rest, _, rfl, hcheck, hnew⟩ := speaks_try hrest
  · obtain ⟨_, -, -, ⟨⟩⟩ | ⟨wantedName, ownName, rfl, ⟨⟩⟩ := checkTransformable_speaks hcheck
    exact .mismatch has
  obtain ⟨answer, fits, rfl, -⟩ | ⟨_, _, -, ⟨⟩⟩ := checkTransformable_speaks hcheck
  obtain ⟨_, hinit, -⟩ | ⟨making, last, v, rfl, hinit, hlast⟩ := speaks_try hnew
  · obtain ⟨_, -, ⟨⟩⟩ := Value.new_speaks hinit
  obtain ⟨number?, rfl, ⟨⟩⟩ := Value.new_speaks hinit
  obtain ⟨_, none, rfl, hnone⟩ := speaks_call hlast
  obtain ⟨rfl, rfl⟩ := speaks_done_iff.1 hnone
  exact .taken has fits

theorem argument_speaks {r : Except Failure ArgumentInfo}
    (hname : CText.ofString? name = some text) (h : (argument object name).run.Speaks said r) :
    (∃ f, Unfound object.handle text f said ∧ r = .error f) ∨
      ∃ own ancestor info, Declared object.handle text own ancestor said ∧ r = .ok info ∧
        info.type = own ∧ (info.isEnum = true ↔ ancestor = .enumeration) := by
  have h := speaks_nativeText hname (speaks_requireTable h)
  obtain ⟨_, hlookup, rfl⟩ | ⟨looking, rest, found, rfl, hlookup, hrest⟩ := speaks_try h
  · obtain ⟨_, hunfound, ⟨⟩⟩ | ⟨_, _, -, -, ⟨⟩⟩ := lookup_speaks hlookup
    exact .inl ⟨_, hunfound, rfl⟩
  obtain ⟨_, -, ⟨⟩⟩ | ⟨lookup, spec, has, rfl, ⟨⟩⟩ := lookup_speaks hlookup
  obtain ⟨ownName, rest, rfl, hnamed⟩ := speaks_named hrest
  obtain ⟨asking, last, isEnum, rfl, hasking, hlast⟩ := speaks_then hnamed
  obtain ⟨rfl, rfl⟩ := speaks_done_iff.1 hlast
  obtain ⟨first, none, ancestor, rfl, hancestor, hnone⟩ := speaks_bind_iff.1 hasking
  obtain ⟨rfl, rfl⟩ := speaks_done_iff.1 hnone
  rw [speaks_request (q := .call (.fundamental spec.type)) (by simp) hancestor]
  exact .inr ⟨spec.type, ancestor, _, .intro has, rfl, rfl, by simp⟩

theorem getValue_speaks {r : Except Failure Value} (hname : CText.ofString? name = some text)
    (h : (getValue object name).run.Speaks said r) : TakenAsDeclared object.handle text r said := by
  obtain ⟨_, hargument, rfl⟩ | ⟨asked, taking, info, rfl, hargument, hget⟩ := speaks_try h
  · obtain ⟨_, hunfound, ⟨⟩⟩ | ⟨_, _, _, -, ⟨⟩, -⟩ := argument_speaks hname hargument
    exact .unfound hunfound
  · obtain ⟨_, -, ⟨⟩⟩ | ⟨own, ancestor, _, declared, ⟨⟩, rfl, -⟩ := argument_speaks hname hargument
    exact .declared declared (get_speaks hname hget)

/-- What comes after the type of the container is settled. -/
theorem got_of_getWith {getter : Getter} {wanted : TypeId} {settling taking : Transcript}
    {r : Except Failure getter.Answer} (hname : CText.ofString? name = some text)
    (settles : Settles object.handle text getter wanted settling)
    (h : (getWith object name wanted fun v => getter.read v).run.Speaks taking r) :
    Got object.handle text getter r (settling ++ taking) := by
  obtain ⟨_, hget, rfl⟩ | ⟨first, rest, v, rfl, hget, hlend⟩ := speaks_try h
  · exact .refused settles (get_speaks hname hget)
  · obtain ⟨looks, closing, rfl, hread, hrelease⟩ := speaks_closedBy hlend
    rw [Value.release_speaks hrelease, ← List.append_assoc]
    exact .read settles (get_speaks hname hget) hread (Getter.read_speaks hread)

theorem got_of_getRegistered {getter : Getter} {which : Registered}
    {r : Except Failure getter.Answer} (hname : CText.ofString? name = some text)
    (settles : ∀ type, Settles object.handle text getter type [⟨.call (.registered which), type⟩])
    (h : (getRegistered object name which fun v => getter.read v).run.Speaks said r) :
    Got object.handle text getter r said := by
  obtain ⟨type, rest, rfl, hrest⟩ := speaks_call (speaks_requireTable h)
  exact got_of_getWith hname (settles type) hrest

end Property

theorem Getter.readProperty_speaks {object : Object} {name : String} {text : CText}
    {said : Transcript} {getter : Getter} {r : Except Failure getter.Answer}
    (hname : CText.ofString? name = some text)
    (h : (getter.readProperty object name).run.Speaks said r) :
    Got object.handle text getter r said := by
  cases getter with
  | bool => exact Property.got_of_getWith hname .bool h
  | uint64 => exact Property.got_of_getWith hname .uint64 h
  | double => exact Property.got_of_getWith hname .double h
  | text => exact Property.got_of_getWith hname .text h
  | ints => exact Property.got_of_getRegistered hname (fun _ => .ints) h
  | doubles => exact Property.got_of_getRegistered hname (fun _ => .doubles) h
  | blob => exact Property.got_of_getRegistered hname (fun _ => .blob) h
  | image => exact Property.got_of_getRegistered hname (fun _ => .image) h
  | int =>
    obtain ⟨_, hargument, rfl⟩ | ⟨asked, taking, info, rfl, hargument, hget⟩ := speaks_try h
    · obtain ⟨_, hunfound, ⟨⟩⟩ | ⟨_, _, _, -, ⟨⟩, -⟩ := Property.argument_speaks hname hargument
      exact .unsettled hunfound
    · obtain ⟨_, -, ⟨⟩⟩ | ⟨own, ancestor, _, declared, ⟨⟩, rfl, hisEnum⟩ :=
        Property.argument_speaks hname hargument
      by_cases henum : info.isEnum = true
      · rw [if_pos henum] at hget
        rw [hisEnum.1 henum] at declared
        exact Property.got_of_getWith hname (.enumeration declared) hget
      · rw [if_neg henum] at hget
        exact Property.got_of_getWith hname (.int declared (mt hisEnum.2 henum)) hget
  | object =>
    obtain ⟨_, hvalue, rfl⟩ | ⟨taking, rest, v, rfl, hvalue, hlend⟩ := speaks_try h
    · cases Property.getValue_speaks hname hvalue with
      | unfound hunfound => exact .unsettled hunfound
      | declared declared taken => exact .refused (.object declared) taken
    · obtain ⟨looks, closing, rfl, hread, hrelease⟩ := speaks_closedBy hlend
      rw [Value.release_speaks hrelease]
      cases Property.getValue_speaks hname hvalue with
      | declared declared taken =>
        exact .read (.object declared) taken hread (Getter.read_speaks hread)

/-! ## The containers of a reading -/

theorem Getter.read_looks (getter : Getter) (v : Value) :
    (getter.read v).run.Asks Request.Looking := by
  cases getter with
  | bool => exact getBool_looks v
  | int => exact getInt_looks v
  | uint64 => exact getUInt64_looks v
  | double => exact getDouble_looks v
  | text => exact getString_looks v
  | ints => exact getInts_looks v
  | doubles => exact getDoubles_looks v
  | blob => exact getBlob_looks v
  | object => exact getObject_looks v
  | image => exact getImage_looks v

section

variable {object : Handle} {text : CText} {getter : Getter} {wanted : TypeId} {f : Failure}
  {said : Transcript}

theorem Unfound.untouched (h : Unfound object text f said) :
    said.containers = [] ∧ said.returned = [] := by
  refine untouched_of_containerless fun e he => ?_
  rcases h.requests e he with h | h
  · exact e.request.containerless_of_question h
  · rw [h]
    trivial

theorem Taken.untouched (h : Taken object text wanted (.error f) said) :
    said.containers = [] ∧ said.returned = [] := by
  cases h with
  | unfound unfound => exact unfound.untouched
  | mismatch has => exact ⟨rfl, rfl⟩

/-- A value has one container, if it has any. -/
theorem Taken.containers {v : Value} (h : Taken object text wanted (.ok v) said) :
    said.containers = (if v.cell.type = .invalid then [] else [v.cell]) ∧ said.returned = [] := by
  cases h with
  | @taken found own answer number? has fits =>
    refine ⟨?_, rfl⟩
    rw [containers_cons, containers_cons, containers_cons, Event.container?_cellInit]
    by_cases htype : (Cell.made number? wanted).type = .invalid
    · rw [if_pos htype, if_pos htype]
      rfl
    · rw [if_neg htype, if_neg htype]
      rfl

theorem Settles.untouched (h : Settles object text getter wanted said) :
    said.containers = [] ∧ said.returned = [] := by
  cases h with
  | enumeration declared | int declared | object declared =>
    cases declared
    exact ⟨rfl, rfl⟩
  | _ => exact ⟨rfl, rfl⟩

/-- A reader gives back what it makes, and that is one container at most. -/
theorem Got.returned {r : Except Failure getter.Answer} (h : Got object text getter r said) :
    said.returned = said.containers ∧ said.containers.length ≤ 1 := by
  cases h with
  | unsettled unfound => simp [unfound.untouched]
  | refused settles refused => simp [settles.untouched, refused.untouched]
  | @read wanted v r settling taking looks settles taken read _ =>
    have hlooks : looks.containers = [] ∧ looks.returned = [] :=
      untouched_of_containerless fun e he =>
        e.request.containerless_of_looking (speaks_asked (getter.read_looks v) read e he)
    by_cases htype : v.cell.type = .invalid <;>
      simp [settles.untouched, taken.containers, hlooks, released_containers, htype]

end

/-- Whatever the library answers, no value is made and no property is taken unless the object has
the argument and the library can turn the type that it names at that moment into the wanted one. A
reader has a container of its own type, and gives it back once, whatever came of the look into
it. -/
theorem a_reading_takes_nothing_that_does_not_fit {object : Object} {name : String} {text : CText}
    (hname : CText.ofString? name = some text) :
    (∀ wanted events r, (Property.get object name wanted).run.Runs events r →
      events.Lasting true →
        Taken object.handle text wanted r events.spoken ∧
          (r.isOk = true ↔ events.Offers object.handle text wanted) ∧
          (r.isOk = false → ∀ e ∈ events, ¬ e.request.Fetches)) ∧
    (∀ events r, (Property.getValue object name).run.Runs events r → events.Lasting true →
      TakenAsDeclared object.handle text r events.spoken) ∧
    (∀ (getter : Getter) events r, (getter.readProperty object name).run.Runs events r →
      events.Lasting true →
        Got object.handle text getter r events.spoken ∧
          events.returned = events.containers ∧ events.containers.length ≤ 1) ∧
    ∀ buffer events r, (Property.getDoublesInto object name buffer).run.Runs events r →
      events.Lasting true →
        ∃ answer, Got object.handle text .doubles answer events.spoken ∧
          r = answer.map (fun xs => (min xs.length buffer.length, Property.overwrite buffer xs)) ∧
          events.returned = events.containers ∧ events.containers.length ≤ 1 := by
  have hreads (getter : Getter) (events : Transcript) (r : Except Failure getter.Answer)
      (hrun : (getter.readProperty object name).run.Runs events r) (htable : events.Lasting true) :
      Got object.handle text getter r events.spoken ∧
        events.returned = events.containers ∧ events.containers.length ≤ 1 := by
    have hgot := getter.readProperty_speaks hname (speaks_of_runs hrun htable)
    exact ⟨hgot, by simpa using hgot.returned⟩
  refine ⟨fun wanted events r hrun htable => ?_, fun events r hrun htable => ?_, hreads,
    fun buffer events r hrun htable => ?_⟩
  · have htaken := Property.get_speaks hname (speaks_of_runs hrun htable)
    refine ⟨htaken, htaken.isOk_iff.trans offers_spoken, fun hfailed e he hfetches => ?_⟩
    cases r with
    | ok v => cases hfailed
    | error f =>
      have hspoken : e ∈ events.spoken := mem_spoken.2 ⟨he, fun htable => by
        rw [htable] at hfetches
        exact hfetches⟩
      exact htaken.not_fetches e hspoken hfetches
  · exact Property.getValue_speaks hname (speaks_of_runs hrun htable)
  · obtain ⟨answer, hdoubles, rfl⟩ := runs_map_iff.1 hrun
    obtain ⟨hgot, hreturned⟩ := hreads .doubles events answer hdoubles htable
    exact ⟨answer, hgot, rfl, hreturned⟩

/-- The first lookup finds an enum, and the second a text, which no enum can be made of. -/
def changedBetween : Transcript :=
  let table : Event := ⟨.table, some ⟨⟨"libvips.so.42"⟩, none, []⟩⟩
  [table, ⟨.call (.getArgument ⟨"op"⟩ (.cut [101])), ⟨0, some ⟨none, ⟨3000⟩⟩, some 19⟩⟩,
    table, ⟨.call (.typeName ⟨3000⟩), none⟩, ⟨.call (.fundamental ⟨3000⟩), .enumeration⟩,
    table, ⟨.call (.getArgument ⟨"op"⟩ (.cut [101])), ⟨0, some ⟨none, .string⟩, some 19⟩⟩,
    ⟨.call (.transformable .string ⟨3000⟩), 0⟩, table, ⟨.call (.typeName ⟨3000⟩), none⟩,
    table, ⟨.call (.typeName .string), some (.cut [120])⟩]

/-- The type that the second lookup finds decides. -/
theorem a_number_is_refused_after_the_second_lookup :
    Got ⟨"op"⟩ (.cut [101]) .int (.error (.typeMismatch "invalid" "x")) changedBetween.spoken ∧
      changedBetween.containers = [] := by
  have hrun : (Property.getInt ⟨⟨"op"⟩⟩ "e").run.Runs changedBetween
      (.error (.typeMismatch "invalid" "x")) :=
    .ask _ (.ask _ (.ask _ (.ask _ (.ask _ (.ask _ (.ask _ (.ask _ (.ask _ (.ask _ (.ask _
      (.ask _ (.done _))))))))))))
  have htable : changedBetween.Lasting true := by
    simp [changedBetween, Transcript.Lasting, Resource.tableSeen]
  have hname : CText.ofString? "e" = some (.cut [101]) := rfl
  obtain ⟨-, -, hreads, -⟩ :=
    @a_reading_takes_nothing_that_does_not_fit ⟨⟨"op"⟩⟩ "e" (.cut [101]) hname
  exact ⟨(hreads .int changedBetween _ hrun htable).1, rfl⟩

end ImageGateway
