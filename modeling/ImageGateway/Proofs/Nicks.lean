-- Nicks of enums: what the library is asked to look up is what it has just read
-- out of a value that holds text, and that may be no text at all.

import ImageGateway.Proofs.Conduct.Sessions

namespace ImageGateway

/-- The watch that remembers the text of a string cell for one moment, and lets nothing but that be
looked up as a nick. -/
def nickWatch : Watch (Option (Option CText)) where
  allows last
    | .call (.enumFromNick _ _ nick) => last = some nick
    | _ => True
  admits _ _ _ := True
  next _
    | .call (.cellGet c .string), text => if c.type = .string then some text else none
    | _, _ => none

def nickConduct : Conduct (Option (Option CText)) where
  watch := nickWatch
  calm _ := True
  cell _ := True
  image _ := True
  enum _ := True

namespace NickConduct

open Program Request Conduct

theorem admits_all (last : Option (Option CText)) (events : Transcript) :
    nickWatch.Admits last events := by
  induction events generalizing last with
  | nil => trivial
  | cons e events ih => exact ⟨trivial, ih _⟩

/-- What is remembered was read last. -/
theorem eq_of_after {events : Transcript} {nick : Option CText}
    (h : nickWatch.after none events = some nick) :
    ∃ before c, events = before ++ [⟨.call (.cellGet c .string), nick⟩] ∧ c.type = .string := by
  rcases List.eq_nil_or_concat events with rfl | ⟨before, ⟨q, r⟩, rfl⟩
  · cases h
  · rw [List.concat_eq_append, Watch.after_append] at h
    dsimp only [Watch.after, nickWatch] at h
    split at h
    · split at h
      · cases h
        exact ⟨before, _, List.concat_eq_append .., ‹_›⟩
      · cases h
    · cases h

theorem plain {q : Request} (h : ∀ domain type nick, q ≠ .call (.enumFromNick domain type nick)) :
    nickConduct.Plain q := by
  refine fun last _ => ⟨?_, fun _ _ => trivial⟩
  show nickWatch.allows last q
  unfold nickWatch
  dsimp only
  split
  · exact absurd rfl (h _ _ _)
  · trivial

theorem plain_of_ordinary (q : Request) (h : q.Ordinary) : nickConduct.Plain q := by
  apply plain
  rintro domain type nick rfl
  exact h

theorem plain_of_question (q : Request) (h : q.Question) : nickConduct.Plain q :=
  plain_of_ordinary q (ordinary_of_question q h)

theorem plain_of_inquiry : ∀ q : Request, q.Inquiry → nickConduct.Plain q :=
  inquiry_of plain_of_question

/-- The nick is looked up as soon as it is read. -/
theorem numberOfNick_minds (object : Object) (name : String) (type : TypeId) {v : Value}
    (hstring : v.type = .string) :
    nickConduct.Minds (Property.numberOfNick object name type v) := by
  have hrest (number : Int32) : nickConduct.Minds (do
      if number < 0 then
        let held ← v.getString
        let message ← takeError
        throw (.unknownNick name (held.getD "") message)
      return number : Attempt Int32) := by
    split
    · have hlook := (getString_looks v).mono ordinary_of_looking
      exact (minds_of_asks (hlook.mono plain_of_ordinary)).try fun held _ =>
        (heeds_of_asks (takeError_asks plain_of_question)).then fun _ _ => gets_throw
    · exact gets_pure trivial
  exact (heeds_of_asks (typeId_asks plain_of_inquiry object)).then fun own _ =>
    (heeds_request (q := .call (.nicknameFind own)) (plain_of_question _ trivial)).then
      fun domain _ last _ =>
        ⟨trivial, fun nick _ => ⟨if_pos hstring, fun number _ => hrest number _ trivial⟩⟩

theorem set_minds (object : Object) (name : String) (v : Value) :
    nickConduct.Minds (Property.set object name v) := by
  have hordinary {α : Type} {p : Attempt α} (h : p.run.Asks Ordinary) : nickConduct.Minds p :=
    minds_of_asks (h.mono plain_of_ordinary)
  have hassign (text : CText) (w : Value) :
      nickConduct.Minds (native (.setProperty object.handle text w.cell) : Attempt Unit) :=
    minds_native (plain_of_ordinary _ trivial)
  have hmake (type : TypeId) (n : Int32) : nickConduct.Minds (Value.ofEnum type n) :=
    hordinary ((tableThenFilled_boxes type _).mono ordinary_of_boxing)
  have hsubstitute (type : TypeId) :
      nickConduct.Minds (Property.substitute object name type v) := by
    refine (heeds_of_asks (isEnumType_asks plain_of_inquiry type)).then fun isEnum _ => ?_
    split
    · have hstring : v.type = .string := by simp_all
      exact (numberOfNick_minds object name type hstring).try fun number _ =>
        (hmake type number).try fun _ _ => gets_pure trivial
    · split
      · exact (hordinary ((getInt_looks v).mono ordinary_of_looking)).try fun number _ =>
          (hmake type number).try fun _ _ => gets_pure trivial
      · exact (minds_of_asks (checkTransformable_asks plain_of_inquiry _ _)).try fun _ _ =>
          gets_pure trivial
  refine (minds_of_asks (requireTable_asks plain_of_inquiry)).try fun _ _ =>
    (minds_of_asks (nativeText_asks name)).try fun text _ =>
      (minds_of_asks (lookup_asks plain_of_question object text (plain_of_ordinary _ trivial))).try
        fun found _ => (hsubstitute found.spec.type).try fun other _ => ?_
  cases other with
  | none => exact hassign text v
  | some other =>
    exact (hassign text other).closedBy
      (heeds_of_asks (valueRelease_asks plain_of_inquiry (plain_of_ordinary _ trivial)))

theorem lawful : nickConduct.Lawful :=
  .of_ordinary (fun _ => trivial) (fun _ => trivial) plain_of_ordinary set_minds
    fun operation => minds_of_asks (build_asks plain_of_question operation (plain nofun) fun _ =>
      ⟨plain nofun, plain nofun⟩)

end NickConduct

/-- Whatever a program and a foreign host do, and whatever the library answers: a nick is looked up
right after it was read out of a value that holds text, just as it was read. So the library gets no
nick at all exactly where the value held no text. -/
theorem a_nick_is_what_the_value_held {past : Past} {w : World} (h : Session past w)
    {first rest : Transcript} {e : Event} (hsplit : past.trace = first ++ e :: rest)
    {domain : Option CText} {type : TypeId} {nick : Option CText}
    (he : e.request = .call (.enumFromNick domain type nick)) :
    ∃ before c, first = before ++ [⟨.call (.cellGet c .string), nick⟩] ∧ c.type = .string := by
  have hallows := (NickConduct.lawful.session (n := none) h.fair trivial
    (NickConduct.admits_all none past.trace)).1
  rw [hsplit] at hallows
  have hnick := ((Watch.allows_append _ _ _).1 hallows).2.1
  rw [he] at hnick
  exact NickConduct.eq_of_after hnick

/-! ## A value without text -/

/-- A new value that holds text, and none yet. -/
def textless : Value := ⟨⟨some 1, .string⟩⟩

/-- The property is that of an enum, and the value holds no text: the library is asked for the
number of no nick at all. -/
def textlessAssigned : Transcript :=
  let table : Event := ⟨.table, some ⟨⟨"libvips.so.42"⟩, none, []⟩⟩
  let op : CText := .cut [111, 112]
  [table, ⟨.call (.getArgument ⟨"o"⟩ (.cut [101])), ⟨0, some ⟨none, ⟨3000⟩⟩, some 19⟩⟩,
    ⟨.call (.fundamental ⟨3000⟩), .enumeration⟩, ⟨.instanceType ⟨"o"⟩, ⟨80⟩⟩,
    ⟨.call (.nicknameFind ⟨80⟩), some op⟩, ⟨.call (.cellGet textless.cell .string), none⟩,
    ⟨.call (.enumFromNick (some op) ⟨3000⟩ none), -1⟩,
    table, ⟨.call (.isA .string .string), 1⟩, ⟨.call (.cellGet textless.cell .string), none⟩,
    ⟨.call .errorBuffer, none⟩, ⟨.call (.act .errorClear), ()⟩]

/-- An object is handed in, a value is made, and a property of the object is set to it. -/
def textlessPast : Past :=
  [(.receive (.object ⟨⟨"o"⟩⟩), []),
    (.deed (.newValue .string),
      [⟨.table, some ⟨⟨"libvips.so.42"⟩, none, []⟩⟩, ⟨.call (.cellInit .string), some 1⟩]),
    (.deed (.setProperty ⟨⟨"o"⟩⟩ "e" textless), textlessAssigned)]

theorem textlessPast_session :
    Session textlessPast ⟨[.value textless, .object ⟨⟨"o"⟩⟩], [], [.object ⟨⟨"o"⟩⟩], []⟩ := by
  have hmake : (Deed.newValue .string).program.Runs
      [⟨.table, some ⟨⟨"libvips.so.42"⟩, none, []⟩⟩, ⟨.call (.cellInit .string), some 1⟩]
      [.value textless] := .ask _ (.ask _ (.done _))
  have hset : (Deed.setProperty ⟨⟨"o"⟩⟩ "e" textless).program.Runs textlessAssigned [] :=
    .ask _ (.ask _ (.ask _ (.ask _ (.ask _ (.ask _ (.ask _ (.ask _ (.ask _ (.ask _ (.ask _ (.ask _
      (.done _))))))))))))
  have hreceived : Session (textlessPast.take 1) ⟨[.object ⟨⟨"o"⟩⟩], [], [.object ⟨⟨"o"⟩⟩], []⟩ :=
    .step .start (.receive trivial)
  have hmade : Session (textlessPast.take 2)
      ⟨[.value textless, .object ⟨⟨"o"⟩⟩], [], [.object ⟨⟨"o"⟩⟩], []⟩ :=
    .step hreceived (.deed (d := .newValue .string) (.refl _) nofun hmake)
  refine .step hmade (.deed (d := .setProperty ⟨⟨"o"⟩⟩ "e" textless) (.refl _) ?_ hset)
  intro v hv
  obtain rfl := Option.some.inj hv
  exact List.mem_cons_self ..

/-- The library can be asked for the number of no nick at all. -/
theorem no_nick_at_all_can_be_looked_up :
    ¬ ∀ (past : Past) (w : World), Session past w → past.trace.Lasting true →
      ∀ e ∈ past.trace, ∀ domain type, e.request ≠ .call (.enumFromNick domain type none) := by
  intro h
  have htable : textlessPast.trace.Lasting true := by
    simp [textlessPast, textlessAssigned, Past.trace, Transcript.Lasting, Resource.tableSeen]
  refine h _ _ textlessPast_session htable
    ⟨.call (.enumFromNick (some (.cut [111, 112])) ⟨3000⟩ none), -1⟩ ?_ _ _ rfl
  simp [textlessPast, textlessAssigned, Past.trace]

theorem the_nick_of_a_value_without_text_is_none :
    ∃ before c, textlessPast.trace.take 8 =
        before ++ [⟨.call (.cellGet c .string), (none : Option CText)⟩] ∧ c.type = .string :=
  have hsplit : textlessPast.trace = textlessPast.trace.take 8 ++
      ⟨.call (.enumFromNick (some (.cut [111, 112])) ⟨3000⟩ none), -1⟩ ::
        textlessPast.trace.drop 9 := rfl
  a_nick_is_what_the_value_held textlessPast_session hsplit rfl

end ImageGateway
