-- Where the texts that are given for a deed are made ready for the library. Each of
-- them has its turn, and before that the deed may have boxed a value, made an
-- operation, or loaded the library.

import ImageGateway.Proofs.Messages.Deeds

namespace ImageGateway

/-- What a text is for. -/
inductive TextUse where
  /-- Names a property. -/
  | name
  /-- Names a kind of operation. -/
  | nickname
  /-- Goes into a value. -/
  | content
  | filename
  /-- Names the program. -/
  | program
  /-- Says where a message comes from. -/
  | domain
  | message
  deriving DecidableEq

/-- A text that is made ready for the library, and what is done before that. -/
structure Conversion where
  before : Attempt Unit
  use : TextUse
  text : String

namespace Conversion

/-- Nothing is done before. -/
def first (use : TextUse) (text : String) : Conversion := ⟨return, use, text⟩

/-- The same text after something else. -/
def after {α : Type} (p : Attempt α) (c : Conversion) : Conversion where
  before := do
    let _ ← p
    c.before
  use := c.use
  text := c.text

/-- The table is looked at before. -/
def onTable (use : TextUse) (text : String) : Conversion := (first use text).after requireTable

def given (c : Conversion) : TextUse × String := (c.use, c.text)

/-- The text has its turn right after these events. -/
def Turn (c : Conversion) (events : Transcript) : Prop := c.before.run.Runs events (.ok ())

end Conversion

/-! ## Arguments and properties -/

/-- Only a text is made ready when an argument is boxed. -/
def Argument.conversions : Argument → List Conversion
  | text s => [.first .content s]
  | _ => []

/-- The type of a property that is registered is asked for before the property is looked up. -/
def Registered.conversion (which : Registered) (name : String) : Conversion :=
  ((Conversion.onTable .name name).after (native (.registered which) : Attempt TypeId)).after
    requireTable

def Reading.conversion (name : String) : Reading → Conversion
  | ints => Registered.intArray.conversion name
  | doubles => Registered.doubleArray.conversion name
  | blob => Registered.blob.conversion name
  | image => Registered.image.conversion name
  | bool | int | uint64 | double | text => .onTable .name name

/-- What the place of an output is read as. -/
def Output.reading : Output → Reading
  | bool _ => .bool
  | int _ => .int
  | double _ => .double
  | doubles _ | buffer _ => .doubles
  | ints _ => .ints
  | text _ => .text
  | blob _ => .blob
  | image _ => .image

/-! ## Operations -/

namespace Operation

/-- The argument is boxed first, and then the name of the input has its turn. -/
def inputConversions (name : String) (argument : Argument) : List Conversion :=
  argument.conversions ++ [(Conversion.onTable .name name).after argument.toValue]

/-- The inputs of the operation have their turns after the inputs before them are set. -/
def setConversions : Attempt Operation → List (String × Argument) → List Conversion
  | _, [] => []
  | operation, (name, argument) :: rest =>
    (inputConversions name argument).map (·.after operation) ++
      setConversions (do
        let made ← operation
        made.set name argument
        return made) rest

/-- The outputs of the operation have their turns after the outputs before them are read. -/
def readConversions : Attempt Operation → List (String × Output) → List Conversion
  | _, [] => []
  | operation, (name, output) :: rest =>
    (output.reading.conversion name).after operation ::
      readConversions (do
        let built ← operation
        let _ ← output.read built.object name
        return built) rest

/-- A call tells what it does in the log and makes its operation. -/
def making (nickname : String) : Attempt Operation := do
  logLine .debug ("vips call " ++ nickname)
  new nickname

/-- The same up to the built operation. -/
def building (nickname : String) (inputs : List (String × Argument)) : Attempt Operation := do
  logLine .debug ("vips call " ++ nickname)
  prepare nickname inputs

def callConversions (nickname : String) (options : CallOptions) : List Conversion :=
  (Conversion.onTable .nickname nickname).after
      (logLine .debug ("vips call " ++ nickname) : Attempt Unit) ::
    (setConversions (making nickname) options.inputs ++
      readConversions (building nickname options.inputs) options.outputs)

end Operation

/-! ## Deeds -/

/-- The conversions of a deed, in order. -/
def Deed.conversions : Deed → List Conversion
  | newOperation nickname => [.onTable .nickname nickname]
  | setInput _ name argument => Operation.inputConversions name argument
  | call nickname options => Operation.callConversions nickname options
  | box argument => argument.conversions
  | readProperty _ name reading => [reading.conversion name]
  | readDoublesInto _ name _ => [Registered.doubleArray.conversion name]
  | getAs _ name _ | getDeclared _ name | setProperty _ name _ => [.onTable .name name]
  | look (.argument _ name) => [.onTable .name name]
  | look (.error domain message) | look (.errorSystem _ domain message) =>
    [.onTable .domain domain,
      ((Conversion.first .message message).after (nativeText domain)).after requireTable]
  | look (.findCodec _ filename) => [.onTable .filename filename]
  | look (.start config) => [(Conversion.first .program config.programName).after
      (Control.load config.library)]
  | _ => []

/-- The texts that are given with an argument. -/
def Argument.texts (argument : Argument) : List (TextUse × String) :=
  argument.conversions.map Conversion.given

/-- The texts that are given for a deed. -/
def Deed.texts (deed : Deed) : List (TextUse × String) := deed.conversions.map Conversion.given

namespace Operation

variable {operation : Attempt Operation} {nickname name : String} {argument : Argument}

theorem inputConversions_given : (inputConversions name argument).map Conversion.given =
    argument.texts ++ [(.name, name)] := List.map_append

theorem setConversions_given (inputs : List (String × Argument)) :
    (setConversions operation inputs).map Conversion.given =
      inputs.flatMap fun input => input.2.texts ++ [(.name, input.1)] := by
  induction inputs generalizing operation with
  | nil => rfl
  | cons input rest ih =>
    rw [setConversions, List.map_append, ih, List.map_map, List.flatMap_cons]
    congr 1
    exact inputConversions_given

theorem readConversions_given (outputs : List (String × Output)) :
    (readConversions operation outputs).map Conversion.given =
      outputs.map fun output => (.name, output.1) := by
  have hreading (name : String) (reading : Reading) :
      (reading.conversion name).given = (.name, name) := by
    cases reading <;> rfl
  induction outputs generalizing operation with
  | nil => rfl
  | cons output rest ih =>
    rw [readConversions, List.map_cons, ih, List.map_cons]
    congr 1
    exact hreading output.1 output.2.reading

end Operation

namespace Deed

/-- A call is given its nickname, the names and the texts of its inputs, and the names of its
outputs. -/
theorem texts_call (nickname : String) (options : CallOptions) :
    (call nickname options).texts = (.nickname, nickname) ::
      ((options.inputs.flatMap fun input => input.2.texts ++ [(.name, input.1)]) ++
        options.outputs.map fun output => (.name, output.1)) := by
  rw [texts, conversions, Operation.callConversions, List.map_cons, List.map_append,
    Operation.setConversions_given, Operation.readConversions_given]
  rfl

variable {nickname : String} {options : CallOptions}

theorem nickname_mem_texts : (.nickname, nickname) ∈ (call nickname options).texts := by
  rw [texts_call]
  exact List.mem_cons_self ..

theorem input_mem_texts {input : String × Argument} (h : input ∈ options.inputs) :
    input.2.texts ++ [(.name, input.1)] ⊆ (call nickname options).texts := by
  intro t ht
  rw [texts_call]
  exact List.mem_cons_of_mem _ (List.mem_append_left _ (List.mem_flatMap.2 ⟨input, h, ht⟩))

theorem output_mem_texts {output : String × Output} (h : output ∈ options.outputs) :
    (.name, output.1) ∈ (call nickname options).texts := by
  rw [texts_call]
  exact List.mem_cons_of_mem _ (List.mem_append_right _ (List.mem_map.2 ⟨output, h, rfl⟩))

end Deed

end ImageGateway
