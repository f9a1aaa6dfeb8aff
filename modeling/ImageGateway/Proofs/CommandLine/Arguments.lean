-- What the command line can ask for. The options in front, each with its number in
-- decimals, and then the paths behind a double dash: so every pair of paths and
-- every choice of options is what some arguments ask for.

import ImageGateway.CommandLine.Arguments
import ImageGateway.Proofs.StartUp.Numerals
import ImageGateway.Proofs.Utf8

namespace ImageGateway.CommandLine

/-- The words for an option, if it has a value. -/
def optionWords (name : String) (value : Option Int32) : List String :=
  value.toList.flatMap fun n => [name, toString n.toInt]

/-- The words for the arguments. -/
def Arguments.words (arguments : Arguments) : List String :=
  optionWords "--max-tiles" arguments.tiles.maxTiles
    ++ optionWords "--tile-width" arguments.tiles.tileWidth
    ++ optionWords "--tile-height" arguments.tiles.tileHeight
    ++ ["--", arguments.input, arguments.output]

theorem readInt32_toString (n : Int32) : Text.readInt32 (toString n.toInt) = .ok n :=
  Text.readInt32_eq_ok_iff.2 (Text.decimal_toString n.toInt)

/-- An option that has no value yet takes the one that follows it. -/
theorem readFrom_option {option : TileOption} (h : option ∈ tileOptions) {p : Progress}
    (hpaths : p.onlyPaths = false) (hhelp : p.help = false) (hnone : option.get p.tiles = none)
    (value : Option Int32) (rest : List String) :
    readFrom (optionWords option.name value ++ rest) p =
      readFrom rest { p with tiles := value.elim p.tiles (option.set p.tiles) } := by
  have hname : option.name ≠ "--help" ∧ option.name ≠ "help" ∧ option.name ≠ "--" ∧
      option.name.toList.head? = some '-' ∧
      tileOptions.find? (·.name = option.name) = some option := by
    simp only [tileOptions, List.mem_cons, List.not_mem_nil, or_false] at h
    rcases h with rfl | rfl | rfl <;> exact ⟨by decide, by decide, by decide, by decide, rfl⟩
  obtain ⟨hname, hword, hdash, hhead, hfind⟩ := hname
  cases value with
  | none => rfl
  | some n =>
    show readFrom (option.name :: toString n.toInt :: rest) p = _
    have hread : readOption option (toString n.toInt) p.tiles = .ok (option.set p.tiles n) := by
      unfold readOption
      rw [hnone, readInt32_toString]
    rw [readFrom, if_neg (by simp [hpaths]), if_neg (by simp [hname, hword]), if_neg hdash,
      if_neg (not_not_intro hhead), if_neg (by simp [hhelp]), hfind]
    dsimp only
    rw [hread]
    rfl

/-- What follows a double dash are paths. -/
theorem readFrom_paths {p : Progress} (hpaths : p.onlyPaths = false) (hinput : p.input = none)
    (houtput : p.output = none) (input output : String) :
    readFrom ["--", input, output] p =
      .ok { p with input := some input, output := some output, onlyPaths := true } := by
  simp [readFrom, takePath, hpaths, hinput, houtput, bind, Except.bind]

/-- Whatever the paths and the options, their words ask for them. -/
theorem parse_words (arguments : Arguments) :
    Arguments.parse (arguments.words.map Text.Utf8.encode) = .ok arguments := by
  have hdecode (words : List String) :
      decodeAll (words.map Text.Utf8.encode) = .ok words := by
    induction words with
    | nil => rfl
    | cons word rest ih =>
      rw [List.map_cons, decodeAll, Text.Utf8.decode_encode]
      dsimp only
      rw [ih]
      rfl
  have hread : readFrom arguments.words { } =
      .ok ⟨some arguments.input, some arguments.output, arguments.tiles, false, true⟩ := by
    obtain ⟨input, output, maxTiles, tileHeight, tileWidth⟩ := arguments
    unfold Arguments.words
    simp only [List.append_assoc]
    rw [readFrom_option (.head _) rfl rfl rfl,
      readFrom_option (.tail _ (.head _)) rfl rfl (by cases maxTiles <;> rfl),
      readFrom_option (.tail _ (.tail _ (.head _))) rfl rfl
        (by cases maxTiles <;> cases tileWidth <;> rfl),
      readFrom_paths rfl rfl rfl]
    cases maxTiles <;> cases tileWidth <;> cases tileHeight <;> rfl
  show (do
    let texts ← decodeAll _
    let progress ← readFrom texts { }
    progress.finish) = _
  rw [hdecode]
  show (readFrom arguments.words { } >>= Progress.finish) = _
  rw [hread]
  rfl

end ImageGateway.CommandLine
