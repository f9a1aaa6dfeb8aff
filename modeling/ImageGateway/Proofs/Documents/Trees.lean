-- From the bytes of a document to its tree. Where the bytes spell a value, the parser
-- finds that value and stops behind it. No fault is left in what it finds, so whoever
-- does not want a part of it passes over that part.

import ImageGateway.Json.Node
import ImageGateway.Proofs.Documents.Numbers
import ImageGateway.Proofs.Documents.Strings

namespace ImageGateway.Json

/-! ## The tree that a node shows -/

mutual

/-- The node is what the parser makes of the value. -/
inductive Shows : Node → Tree → Prop where
  | null {stop : Nat} : Shows (.null stop) .null
  | boolean {b : Bool} {stop : Nat} : Shows (.boolean b stop) (.boolean b)
  | number {n : Numeral} {found : Literal Number} {stop : Nat} (content : n.Reads found.content)
      (passed : found.stop = .ok stop) : Shows (.number found) (.number n)
  | text {s : String} {found : Literal String} {stop : Nat} (content : found.content = .ok s)
      (passed : found.stop = .ok stop) : Shows (.text found) (.text s)
  | list {start stop : Nat} {nodes : List (Nat × Node)} {items : List Tree}
      (h : ShowsItems nodes items) : Shows (.list start nodes (.closed stop)) (.list items)
  | object {start stop : Nat} {nodes : List (Key × Node)} {members : List (String × Tree)}
      (h : ShowsMembers nodes members) :
      Shows (.object start nodes (.closed stop)) (.object members)

inductive ShowsItems : List (Nat × Node) → List Tree → Prop where
  | nil : ShowsItems [] []
  | cons {start : Nat} {node : Node} {item : Tree} {nodes : List (Nat × Node)} {items : List Tree}
      (h : Shows node item) (rest : ShowsItems nodes items) :
      ShowsItems ((start, node) :: nodes) (item :: items)

inductive ShowsMembers : List (Key × Node) → List (String × Tree) → Prop where
  | nil : ShowsMembers [] []
  | cons {key : Key} {name : String} {stop : Nat} {node : Node} {value : Tree}
      {nodes : List (Key × Node)} {members : List (String × Tree)}
      (named : key.text.content = .ok name) (passed : key.text.stop = .ok stop)
      (h : Shows node value) (rest : ShowsMembers nodes members) :
      ShowsMembers ((key, node) :: nodes) ((name, value) :: members)

end

mutual

/-- What shows a value can be passed over. -/
theorem pass_of_shows : ∀ {node : Node} {tree : Tree}, Shows node tree →
    ∃ stop, node.pass = .ok stop
  | _, _, .null => ⟨_, rfl⟩
  | _, _, .boolean => ⟨_, rfl⟩
  | _, _, .number _ passed => ⟨_, passed⟩
  | _, _, .text _ passed => ⟨_, passed⟩
  | _, _, .list h => passItems_of_shows h
  | _, _, .object h => passMembers_of_shows h

theorem passItems_of_shows : ∀ {nodes : List (Nat × Node)} {items : List Tree} {stop : Nat},
    ShowsItems nodes items → ∃ stop', passItems nodes (.closed stop) = .ok stop'
  | _, _, _, .nil => ⟨_, rfl⟩
  | _, _, _, .cons h rest => by
    obtain ⟨_, hpass⟩ := pass_of_shows h
    obtain ⟨stop', hrest⟩ := passItems_of_shows rest
    exact ⟨stop', by rw [passItems, hpass]; exact hrest⟩

theorem passMembers_of_shows : ∀ {nodes : List (Key × Node)} {members : List (String × Tree)}
    {stop : Nat}, ShowsMembers nodes members → ∃ stop', passMembers nodes (.closed stop) = .ok stop'
  | _, _, _, .nil => ⟨_, rfl⟩
  | _, _, _, .cons _ passed h rest => by
    obtain ⟨_, hpass⟩ := pass_of_shows h
    obtain ⟨stop', hrest⟩ := passMembers_of_shows rest
    exact ⟨stop', by rw [passMembers, passed]; dsimp only; rw [hpass]; exact hrest⟩

end

/-! ## Signs and the white space between them -/

variable {bytes blank rest : List UInt8}

/-- The white space ends where something else follows. -/
theorem skipSpace_blank {b : UInt8} (h : Blank blank) (hb : isSpace b = false) (o : Nat)
    (rest : List UInt8) :
    Cursor.skipSpace ⟨o, blank ++ b :: rest⟩ = ⟨o + blank.length, b :: rest⟩ := by
  unfold Cursor.skipSpace
  dsimp only
  rw [takeWhile_append h (by rintro _ ⟨⟩; exact hb), Cursor.skip_append]

/-- A byte with which a value or a member can begin. -/
def Starts (b : UInt8) : Prop := isSpace b = false ∧ b ≠ 93

theorem isSpace_iff {b : UInt8} : isSpace b = true ↔ b = 32 ∨ b = 10 ∨ b = 9 ∨ b = 13 := by
  simp [isSpace, or_assoc]

theorem starts_of_isDigit {b : UInt8} (h : isDigit b = true) : Starts b := by
  refine ⟨Bool.eq_false_iff.2 fun hspace => ?_, ne_of_isDigit h rfl⟩
  rcases isSpace_iff.1 hspace with rfl | rfl | rfl | rfl <;> cases h

/-- What can follow a value: white space, or a sign that separates or ends. -/
def Follows (rest : List UInt8) : Prop :=
  ∀ b ∈ rest.head?, isSpace b = true ∨ b = 44 ∨ b = 93 ∨ b = 125

theorem follows_cons {b : UInt8} (h : isSpace b = true ∨ b = 44 ∨ b = 93 ∨ b = 125) :
    Follows (b :: rest) := by
  rintro _ ⟨⟩
  exact h

theorem follows_blank (h : Blank blank) (hrest : Follows rest) : Follows (blank ++ rest) := by
  cases blank with
  | nil => exact hrest
  | cons b blank => exact follows_cons (.inl (h b List.mem_cons_self))

theorem Follows.endsNumber (h : Follows rest) : EndsNumber rest := by
  intro b hb
  rcases h b hb with hspace | rfl | rfl | rfl
  · rcases isSpace_iff.1 hspace with rfl | rfl | rfl | rfl <;> decide
  all_goals decide

theorem Numeral.starts (n : Numeral) :
    ∃ b r, n.bytes = b :: r ∧ (b = 45 ∨ isDigit b = true) := by
  obtain ⟨d, ds, hcons, hfirst⟩ := n.whole.exists_cons
  unfold bytes
  cases n.minus with
  | true => exact ⟨45, _, rfl, .inl rfl⟩
  | false => exact ⟨d, ds ++ n.tail, by rw [hcons]; rfl, .inr hfirst⟩

theorem spells_starts {tree : Tree} (h : Spells bytes tree) :
    ∃ b r, bytes = b :: r ∧ Starts b := by
  cases h with
  | number n =>
    obtain ⟨b, r, hcons, rfl | hfirst⟩ := n.starts
    · exact ⟨45, r, hcons, rfl, by decide⟩
    · exact ⟨b, r, hcons, starts_of_isDigit hfirst⟩
  | _ => exact ⟨_, _, rfl, rfl, by decide⟩

theorem items_starts {items : List Tree} (h : SpellsItems bytes items) :
    ∃ b r, bytes = b :: r ∧ Starts b := by
  cases h with
  | last h _ =>
    obtain ⟨b, r, rfl, hstarts⟩ := spells_starts h
    exact ⟨b, _, rfl, hstarts⟩
  | more h _ _ _ =>
    obtain ⟨b, r, rfl, hstarts⟩ := spells_starts h
    exact ⟨b, _, rfl, hstarts⟩

theorem members_starts {members : List (String × Tree)} (h : SpellsMembers bytes members) :
    ∃ r, bytes = 34 :: r := by
  cases h with
  | last h _ =>
    cases h with
    | mk => exact ⟨_, rfl⟩
  | more h _ _ _ =>
    cases h with
    | mk => exact ⟨_, rfl⟩

/-! ## The steps of the parser -/

variable {fuel : Nat} {o : Nat}

theorem literal_eq {α : Type} {read : Cursor → Except Fault (α × Cursor)}
    {pass : Cursor → Except Fault Cursor} {c after : Cursor} (h : pass c = .ok after) :
    literal c read pass = (⟨(read c).map (·.1), .ok after.offset⟩, some after) := by
  unfold literal
  rw [h]
  rfl

theorem parseValue_number (n : Numeral) (hrest : Follows rest) :
    ∃ node stop, parseValue (fuel + 1) ⟨o, n.bytes ++ rest⟩ = (node, some ⟨stop, rest⟩) ∧
      Shows node (.number n) := by
  obtain ⟨stop, hpass⟩ := n.passNumber_bytes o hrest.endsNumber
  obtain ⟨b, r, hcons, hfirst⟩ := n.starts
  have hread := n.readNumber_reads o hrest.endsNumber
  have hword {word : UInt8} (hword : word ≠ 45) (hdigit : isDigit word = false) : b ≠ word := by
    rcases hfirst with rfl | hfirst
    · exact hword.symm
    · exact ne_of_isDigit hfirst hdigit
  refine ⟨.number ⟨_, .ok stop⟩, stop, ?_, .number hread rfl⟩
  rw [parseValue.eq_def]
  rw [hcons, List.cons_append] at hpass ⊢
  dsimp only
  rw [if_neg (by simpa using hword (by decide) rfl), if_neg (by simpa using hword (by decide) rfl),
    if_neg (by simpa using hword (by decide) rfl), if_pos (by simpa using hfirst),
    literal_eq hpass]
  rfl

theorem parseValue_text {s : String} (h : SpellsText bytes s.toList) :
    ∃ node stop, parseValue (fuel + 1) ⟨o, 34 :: (bytes ++ 34 :: rest)⟩ =
      (node, some ⟨stop, rest⟩) ∧ Shows node (.text s) := by
  obtain ⟨stop, hpass⟩ := passText_spelled h (o + 1) rest
  obtain ⟨_, hread⟩ := readText_spelled h (o + 1) rest
  have hcontent := congrArg (·.map Prod.fst) hread
  refine ⟨.text ⟨_, .ok stop⟩, stop, ?_, .text hcontent rfl⟩
  rw [parseValue.eq_def]
  dsimp only
  rw [Cursor.skip_cons, literal_eq hpass]
  rfl

/-- The last item and the bracket behind it. -/
theorem parseItem_last {node : Node} {stop : Nat}
    (h : parseValue fuel ⟨o, bytes ++ (blank ++ 93 :: rest)⟩ =
      (node, some ⟨stop, blank ++ 93 :: rest⟩)) (hblank : Blank blank) :
    parseItem (fuel + 1) ⟨o, bytes ++ (blank ++ 93 :: rest)⟩ =
      ([(o, node)], .closed (stop + blank.length + 1), some ⟨stop + blank.length + 1, rest⟩) := by
  rw [parseItem.eq_def]
  dsimp only
  rw [h]
  dsimp only
  rw [skipSpace_blank hblank rfl]
  rfl

/-- An item, the comma behind it, and the items that follow. -/
theorem parseItem_more {node : Node} {stop : Nat} {blank₁ blank₂ others : List UInt8}
    (h : parseValue fuel ⟨o, bytes ++ (blank₁ ++ 44 :: (blank₂ ++ others))⟩ =
      (node, some ⟨stop, blank₁ ++ 44 :: (blank₂ ++ others)⟩)) (hafter : Blank blank₁)
    (hbefore : Blank blank₂) (hstarts : ∃ b r, others = b :: r ∧ Starts b) :
    parseItem (fuel + 1) ⟨o, bytes ++ (blank₁ ++ 44 :: (blank₂ ++ others))⟩ =
      (let (items, tail, after) :=
        parseItem fuel ⟨stop + blank₁.length + 1 + blank₂.length, others⟩
      ((o, node) :: items, tail, after)) := by
  obtain ⟨b, r, rfl, hspace, hbracket⟩ := hstarts
  rw [parseItem.eq_def]
  dsimp only
  rw [h]
  dsimp only
  rw [skipSpace_blank hafter rfl]
  dsimp only
  rw [Cursor.skip_cons, skipSpace_blank hbefore hspace]
  dsimp only
  rw [if_neg (by decide), if_pos (by decide), if_neg (by simpa using hbracket)]

theorem parseValue_bracket (rest : List UInt8) :
    parseValue (fuel + 1) ⟨o, 91 :: rest⟩ =
      (let (items, tail, after) := parseItems fuel (Cursor.skipSpace ⟨o + 1, rest⟩)
      (.list o items tail, after)) := by
  rw [parseValue.eq_def]
  rfl

/-- A list with items. -/
theorem parseValue_list {nodes : List (Nat × Node)} {tail : ListEnd} {after : Option Cursor}
    (h : parseItem fuel ⟨o + 1 + blank.length, rest⟩ = (nodes, tail, after))
    (hblank : Blank blank) (hstarts : ∃ b r, rest = b :: r ∧ Starts b) :
    parseValue (fuel + 2) ⟨o, 91 :: (blank ++ rest)⟩ = (.list o nodes tail, after) := by
  obtain ⟨b, r, rfl, hspace, hbracket⟩ := hstarts
  rw [parseValue_bracket, skipSpace_blank hblank hspace, parseItems.eq_def]
  dsimp only
  rw [if_neg (by simpa using hbracket), h]

theorem parseValue_noItems (hblank : Blank blank) :
    parseValue (fuel + 2) ⟨o, 91 :: (blank ++ 93 :: rest)⟩ =
      (.list o [] (.closed (o + 1 + blank.length + 1)),
        some ⟨o + 1 + blank.length + 1, rest⟩) := by
  rw [parseValue_bracket, skipSpace_blank hblank rfl, parseItems.eq_def]
  rfl

theorem parseValue_brace (rest : List UInt8) :
    parseValue (fuel + 1) ⟨o, 123 :: rest⟩ =
      (let (members, tail, after) := parseMembers fuel (Cursor.skipSpace ⟨o + 1, rest⟩)
      (.object o members tail, after)) := by
  rw [parseValue.eq_def]
  rfl

/-- An object with members. -/
theorem parseValue_object {nodes : List (Key × Node)} {tail : ObjectEnd} {after : Option Cursor}
    (h : parseMember fuel ⟨o + 1 + blank.length, rest⟩ = (nodes, tail, after))
    (hblank : Blank blank) (hstarts : ∃ r, rest = 34 :: r) :
    parseValue (fuel + 2) ⟨o, 123 :: (blank ++ rest)⟩ = (.object o nodes tail, after) := by
  obtain ⟨r, rfl⟩ := hstarts
  rw [parseValue_brace, skipSpace_blank hblank rfl, parseMembers.eq_def]
  dsimp only
  rw [if_neg (by decide), if_pos (by decide), h]

theorem parseValue_noMembers (hblank : Blank blank) :
    parseValue (fuel + 2) ⟨o, 123 :: (blank ++ 125 :: rest)⟩ =
      (.object o [] (.closed (o + 1 + blank.length + 1)),
        some ⟨o + 1 + blank.length + 1, rest⟩) := by
  rw [parseValue_brace, skipSpace_blank hblank rfl, parseMembers.eq_def]
  rfl

/-- The parser finds this value in front of what follows. -/
def Finds (fuel : Nat) (bytes : List UInt8) (tree : Tree) (rest : List UInt8) : Prop :=
  ∀ o, ∃ node stop, parseValue fuel ⟨o, bytes ++ rest⟩ = (node, some ⟨stop, rest⟩) ∧
    Shows node tree

/-- A key with the colon and the value behind it. What follows them decides how it goes on. -/
theorem parseMember_value {name blank₁ blank₂ : List UInt8} {key : String} {value : Tree}
    (named : SpellsText name key.toList) (before : Blank blank₁) (after : Blank blank₂)
    (hstarts : ∃ b r, bytes = b :: r ∧ Starts b) (hvalue : Finds fuel bytes value rest) :
    ∃ found node stop, found.text.content = .ok key ∧ (∃ s, found.text.stop = .ok s) ∧
      Shows node value ∧
      parseMember (fuel + 1)
          ⟨o, 34 :: (name ++ 34 :: (blank₁ ++ 58 :: (blank₂ ++ (bytes ++ rest))))⟩ =
        (let e := Cursor.skipSpace ⟨stop, rest⟩
        match e.rest with
        | [] => ([(found, node)], .cut e.offset, none)
        | b :: _ =>
          if b == 125 then ([(found, node)], .closed (e.offset + 1), some (e.skip 1))
          else if b == 44 then
            let g := (e.skip 1).skipSpace
            match g.rest with
            | [] => ([(found, node)], .cutAfterComma g.offset, none)
            | b :: _ =>
              if b == 34 then
                let (members, tail, after) := parseMember fuel g
                ((found, node) :: members, tail, after)
              else if b == 125 then ([(found, node)], .closedAfterComma g.offset, none)
              else ([(found, node)], .unkeyed g.offset, none)
          else ([(found, node)], .unseparated e.offset, none)) := by
  obtain ⟨stop, hpass⟩ :=
    passText_spelled named (o + 1) (blank₁ ++ 58 :: (blank₂ ++ (bytes ++ rest)))
  obtain ⟨_, hread⟩ := readText_spelled named (o + 1) (blank₁ ++ 58 :: (blank₂ ++ (bytes ++ rest)))
  obtain ⟨node, stop', hparse, hshows⟩ := hvalue (stop + blank₁.length + 1 + blank₂.length)
  have hcontent := congrArg (·.map Prod.fst) hread
  refine ⟨⟨⟨_, .ok stop⟩, stop + blank₁.length⟩, node, stop', hcontent, ⟨stop, rfl⟩, hshows, ?_⟩
  obtain ⟨b, r, rfl, hspace, -⟩ := hstarts
  rw [parseMember.eq_def]
  dsimp only
  rw [Cursor.skip_cons, literal_eq hpass]
  dsimp only
  rw [skipSpace_blank before rfl]
  dsimp only
  rw [if_neg (by decide), Cursor.skip_cons, List.cons_append, skipSpace_blank after hspace]
  rw [List.cons_append] at hparse
  rw [hparse]
  rfl

/-- The last member and the brace behind it. -/
theorem parseMember_last {name blank₁ blank₂ : List UInt8} {key : String} {value : Tree}
    (named : SpellsText name key.toList) (before : Blank blank₁) (after : Blank blank₂)
    (hstarts : ∃ b r, bytes = b :: r ∧ Starts b)
    (hvalue : Finds fuel bytes value (blank ++ 125 :: rest)) (hblank : Blank blank) :
    ∃ found node stop, found.text.content = .ok key ∧ (∃ s, found.text.stop = .ok s) ∧
      Shows node value ∧
      parseMember (fuel + 1) ⟨o, 34 :: (name ++ 34 :: (blank₁ ++ 58 ::
          (blank₂ ++ (bytes ++ (blank ++ 125 :: rest)))))⟩ =
        ([(found, node)], .closed stop, some ⟨stop, rest⟩) := by
  obtain ⟨found, node, stop, hnamed, hpassed, hshows, hmember⟩ :=
    parseMember_value named before after hstarts hvalue
  refine ⟨found, node, stop + blank.length + 1, hnamed, hpassed, hshows, ?_⟩
  rw [hmember]
  dsimp only
  rw [skipSpace_blank hblank rfl]
  rfl

/-- A member, the comma behind it, and the members that follow. -/
theorem parseMember_more {name blank₁ blank₂ blank' others : List UInt8} {key : String}
    {value : Tree} (named : SpellsText name key.toList) (before : Blank blank₁)
    (after : Blank blank₂) (hstarts : ∃ b r, bytes = b :: r ∧ Starts b)
    (hvalue : Finds fuel bytes value (blank ++ 44 :: (blank' ++ others))) (hblank : Blank blank)
    (hahead : Blank blank') (hothers : ∃ r, others = 34 :: r) :
    ∃ found node stop, found.text.content = .ok key ∧ (∃ s, found.text.stop = .ok s) ∧
      Shows node value ∧
      parseMember (fuel + 1) ⟨o, 34 :: (name ++ 34 :: (blank₁ ++ 58 ::
          (blank₂ ++ (bytes ++ (blank ++ 44 :: (blank' ++ others))))))⟩ =
        (let (members, tail, after) := parseMember fuel ⟨stop, others⟩
        ((found, node) :: members, tail, after)) := by
  obtain ⟨found, node, stop, hnamed, hpassed, hshows, hmember⟩ :=
    parseMember_value named before after hstarts hvalue
  obtain ⟨r, rfl⟩ := hothers
  refine ⟨found, node, stop + blank.length + 1 + blank'.length, hnamed, hpassed, hshows, ?_⟩
  rw [hmember]
  dsimp only
  rw [skipSpace_blank hblank rfl]
  dsimp only
  rw [Cursor.skip_cons, skipSpace_blank hahead rfl]
  rfl

mutual

/-- Where a value is spelled, the parser finds it. Each value, each item and each member takes at
most three steps of it for each of their bytes. -/
theorem finds_of_spells : ∀ {bytes : List UInt8} {tree : Tree}, Spells bytes tree →
    ∀ {fuel : Nat} {rest : List UInt8}, 3 * bytes.length ≤ fuel → Follows rest →
      Finds fuel bytes tree rest
  | _, _, .null, fuel, rest, hfuel, _, o => by
    obtain ⟨fuel, rfl⟩ : ∃ k, fuel = k + 1 := ⟨fuel - 1, by simp at hfuel; omega⟩
    exact ⟨.null (o + 4), o + 4, by rw [parseValue.eq_def]; rfl, .null⟩
  | _, _, .yes, fuel, rest, hfuel, _, o => by
    obtain ⟨fuel, rfl⟩ : ∃ k, fuel = k + 1 := ⟨fuel - 1, by simp at hfuel; omega⟩
    exact ⟨.boolean true (o + 4), o + 4, by rw [parseValue.eq_def]; rfl, .boolean⟩
  | _, _, .no, fuel, rest, hfuel, _, o => by
    obtain ⟨fuel, rfl⟩ : ∃ k, fuel = k + 1 := ⟨fuel - 1, by simp at hfuel; omega⟩
    exact ⟨.boolean false (o + 5), o + 5, by rw [parseValue.eq_def]; rfl, .boolean⟩
  | _, _, .number n, fuel, rest, hfuel, hrest, o => by
    obtain ⟨b, r, hcons, -⟩ := n.starts
    obtain ⟨fuel, rfl⟩ : ∃ k, fuel = k + 1 := ⟨fuel - 1, by simp [hcons] at hfuel; omega⟩
    exact parseValue_number n hrest
  | _, _, .text h, fuel, rest, hfuel, _, o => by
    obtain ⟨fuel, rfl⟩ : ∃ k, fuel = k + 1 := ⟨fuel - 1, by simp at hfuel; omega⟩
    simpa using parseValue_text h
  | _, _, .noItems h, fuel, rest, hfuel, _, o => by
    obtain ⟨fuel, rfl⟩ : ∃ k, fuel = k + 2 := ⟨fuel - 2, by simp at hfuel; omega⟩
    exact ⟨_, _, by simpa using parseValue_noItems h, .list .nil⟩
  | _, _, @Spells.list blank bytes _ before h, fuel, rest, hfuel, _, o => by
    simp only [List.length_cons, List.length_append] at hfuel
    obtain ⟨fuel, rfl⟩ : ∃ k, fuel = k + 2 := ⟨fuel - 2, by omega⟩
    have hitems : 3 * bytes.length + 1 ≤ fuel := by omega
    obtain ⟨b, r, hcons, hstarts⟩ := items_starts h
    obtain ⟨nodes, stop, stop', hparse, hshows⟩ :=
      parseItem_of_spells h hitems rest (o + 1 + blank.length)
    refine ⟨.list o nodes (.closed stop), stop', ?_, .list hshows⟩
    rw [List.cons_append, List.append_assoc]
    exact parseValue_list hparse before ⟨b, r ++ rest, by rw [hcons]; rfl, hstarts⟩
  | _, _, .noMembers h, fuel, rest, hfuel, _, o => by
    obtain ⟨fuel, rfl⟩ : ∃ k, fuel = k + 2 := ⟨fuel - 2, by simp at hfuel; omega⟩
    exact ⟨_, _, by simpa using parseValue_noMembers h, .object .nil⟩
  | _, _, @Spells.object blank bytes _ before h, fuel, rest, hfuel, _, o => by
    simp only [List.length_cons, List.length_append] at hfuel
    obtain ⟨fuel, rfl⟩ : ∃ k, fuel = k + 2 := ⟨fuel - 2, by omega⟩
    have hmembers : 3 * bytes.length + 1 ≤ fuel := by omega
    obtain ⟨r, hcons⟩ := members_starts h
    obtain ⟨nodes, stop, stop', hparse, hshows⟩ :=
      parseMember_of_spells h hmembers rest (o + 1 + blank.length)
    refine ⟨.object o nodes (.closed stop), stop', ?_, .object hshows⟩
    rw [List.cons_append, List.append_assoc]
    exact parseValue_object hparse before ⟨r ++ rest, by rw [hcons]; rfl⟩

theorem parseItem_of_spells : ∀ {bytes : List UInt8} {items : List Tree}, SpellsItems bytes items →
    ∀ {fuel : Nat}, 3 * bytes.length + 1 ≤ fuel → ∀ (rest : List UInt8) (o : Nat),
      ∃ nodes stop stop', parseItem fuel ⟨o, bytes ++ rest⟩ =
        (nodes, .closed stop, some ⟨stop', rest⟩) ∧ ShowsItems nodes items
  | _, _, @SpellsItems.last bytes blank _ h after, fuel, hfuel, rest, o => by
    simp only [List.length_cons, List.length_append, List.length_nil] at hfuel
    obtain ⟨fuel, rfl⟩ : ∃ k, fuel = k + 1 := ⟨fuel - 1, by omega⟩
    have hvalue : 3 * bytes.length ≤ fuel := by omega
    have hfollows : Follows (blank ++ 93 :: rest) := follows_blank after (follows_cons (by decide))
    obtain ⟨node, stop, hparse, hshows⟩ := finds_of_spells h hvalue hfollows o
    simp only [List.append_assoc, List.cons_append, List.nil_append]
    exact ⟨_, _, _, parseItem_last hparse after, .cons hshows .nil⟩
  | _, _, @SpellsItems.more bytes blank₁ blank₂ others _ _ h after before hothers,
      fuel, hfuel, rest, o => by
    simp only [List.length_cons, List.length_append] at hfuel
    obtain ⟨fuel, rfl⟩ : ∃ k, fuel = k + 1 := ⟨fuel - 1, by omega⟩
    have hvalue : 3 * bytes.length ≤ fuel := by omega
    have hitems : 3 * others.length + 1 ≤ fuel := by omega
    have hfollows : Follows (blank₁ ++ 44 :: (blank₂ ++ (others ++ rest))) :=
      follows_blank after (follows_cons (by decide))
    obtain ⟨b, r, hcons, hstarts⟩ := items_starts hothers
    obtain ⟨node, stop, hparse, hshows⟩ := finds_of_spells h hvalue hfollows o
    have hmore := parseItem_more hparse after before ⟨b, r ++ rest, by rw [hcons]; rfl, hstarts⟩
    obtain ⟨nodes, last, stop', hrest, hshown⟩ :=
      parseItem_of_spells hothers hitems rest (stop + blank₁.length + 1 + blank₂.length)
    rw [hrest] at hmore
    simp only [List.append_assoc, List.cons_append]
    exact ⟨_, _, _, hmore, .cons hshows hshown⟩

theorem parseMember_of_spells : ∀ {bytes : List UInt8} {members : List (String × Tree)},
    SpellsMembers bytes members → ∀ {fuel : Nat}, 3 * bytes.length + 1 ≤ fuel →
      ∀ (rest : List UInt8) (o : Nat), ∃ nodes stop stop', parseMember fuel ⟨o, bytes ++ rest⟩ =
        (nodes, .closed stop, some ⟨stop', rest⟩) ∧ ShowsMembers nodes members
  | _, _, @SpellsMembers.last _ blank _ (@SpellsMember.mk name blank₁ blank₂ bytes _ _ named before
      behind h) after, fuel, hfuel, rest, o => by
    simp only [List.length_cons, List.length_append, List.length_nil] at hfuel
    obtain ⟨fuel, rfl⟩ : ∃ k, fuel = k + 1 := ⟨fuel - 1, by omega⟩
    have hvalue : 3 * bytes.length ≤ fuel := by omega
    have hfollows : Follows (blank ++ 125 :: rest) := follows_blank after (follows_cons (by decide))
    obtain ⟨key, node, stop, hnamed, ⟨_, hpassed⟩, hshows, hparse⟩ :=
      parseMember_last named before behind (spells_starts h)
        (finds_of_spells h hvalue hfollows) after
    simp only [List.append_assoc, List.cons_append, List.nil_append]
    exact ⟨_, _, _, hparse, .cons hnamed hpassed hshows .nil⟩
  | _, _, @SpellsMembers.more _ blank blank' others _ _ (@SpellsMember.mk name blank₁ blank₂ bytes
      _ _ named before behind h) after ahead hothers, fuel, hfuel, rest, o => by
    simp only [List.length_cons, List.length_append] at hfuel
    obtain ⟨fuel, rfl⟩ : ∃ k, fuel = k + 1 := ⟨fuel - 1, by omega⟩
    have hvalue : 3 * bytes.length ≤ fuel := by omega
    have hmembers : 3 * others.length + 1 ≤ fuel := by omega
    have hfollows : Follows (blank ++ 44 :: (blank' ++ (others ++ rest))) :=
      follows_blank after (follows_cons (by decide))
    obtain ⟨r, hcons⟩ := members_starts hothers
    obtain ⟨key, node, stop, hnamed, ⟨_, hpassed⟩, hshows, hparse⟩ :=
      parseMember_more named before behind (spells_starts h)
        (finds_of_spells h hvalue hfollows) after ahead ⟨r ++ rest, by rw [hcons]; rfl⟩
    obtain ⟨nodes, last, stop', hrest, hshown⟩ := parseMember_of_spells hothers hmembers rest stop
    rw [hrest] at hparse
    simp only [List.append_assoc, List.cons_append]
    exact ⟨_, _, _, hparse, .cons hnamed hpassed hshows hshown⟩

end

/-- The parser makes of a document the tree that it spells, with nothing behind it. -/
theorem parse_of_spellsDocument {document : List UInt8} {tree : Tree}
    (h : SpellsDocument document tree) :
    ∃ node, Document.parse document = ⟨node, none⟩ ∧ Shows node tree := by
  obtain @⟨blank₁, bytes, blank₂, _, before, h, after⟩ := h
  have hfuel : 3 * bytes.length ≤ 3 * (blank₁ ++ (bytes ++ blank₂)).length + 3 := by
    simp only [List.length_append]
    omega
  have hfollows : Follows blank₂ := by
    simpa using follows_blank after (show Follows [] from nofun)
  have htake : blank₂.takeWhile isSpace = blank₂ := by
    simpa using takeWhile_append after (show ∀ b ∈ ([] : List UInt8).head?, _ from nofun)
  obtain ⟨b, r, hcons, hspace, -⟩ := spells_starts h
  obtain ⟨node, stop, hparse, hshows⟩ := finds_of_spells h hfuel hfollows (0 + blank₁.length)
  refine ⟨node, ?_, hshows⟩
  rw [hcons, List.cons_append] at hparse ⊢
  unfold Document.parse
  rw [skipSpace_blank before hspace, hparse]
  simp [Cursor.skipSpace, Cursor.skip, htake]

end ImageGateway.Json
