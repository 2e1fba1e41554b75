/-
  Options as JSON text: an object with the fields `max_range_cells` and
  `recalculate_on_edit`, or an array of their values. What is missing keeps its default,
  and other fields are passed over.
-/
import Worksheet.Json.Reading
import Worksheet.Sheet.Basic

namespace Worksheet.OptionsText

open Json (Fault fail failAt afterBlanks)

/-- The options read so far. -/
structure Given where
  maxRangeCells : Option Nat := none
  recalculateOnEdit : Option Bool := none

/-- The options, with defaults for those not given. -/
def Given.options (g : Given) : Options :=
  let defaults : Options := {}
  ⟨g.maxRangeCells.getD defaults.maxRangeCells,
    g.recalculateOnEdit.getD defaults.recalculateOnEdit⟩

/-! ## Objects -/

/-- Where a field is found to be there twice: after its key, or after the end of the object
    if that follows. -/
def afterRepeated (cs : List Char) : List Char :=
  match afterBlanks cs with
  | '\x7d' :: rest => rest
  | rest => rest

/-- The colon after a key. -/
def afterColon (cs : List Char) : Except Fault (List Char) :=
  match afterBlanks cs with
  | [] => fail .endInObject []
  | ':' :: rest => .ok rest
  | rest => failAt .wantedColon rest

/-- The value of a field. -/
def field (g : Given) (key : String) (cs : List Char) : Except Fault (Given × List Char) := do
  if key = "max_range_cells" then
    if g.maxRangeCells.isSome then fail (.duplicateField key) (afterRepeated cs)
    else
      let (n, rest) ← Json.natural (← afterColon cs)
      return ({ g with maxRangeCells := some n }, rest)
  else if key = "recalculate_on_edit" then
    if g.recalculateOnEdit.isSome then fail (.duplicateField key) (afterRepeated cs)
    else
      let (b, rest) ← Json.boolean (← afterColon cs)
      return ({ g with recalculateOnEdit := some b }, rest)
  else
    let cs ← afterColon cs
    return (g, ← Json.pass (cs.length + 1) .value cs)

/-- The fields of an object, from after its opening brace or after a field. The bound is at
    least the length of the text. -/
def fields : (bound : Nat) → (first : Bool) → Given → List Char →
    Except Fault (Given × List Char)
  | 0, _, _, cs => fail .endInObject cs
  | bound + 1, first, g, cs => do
    let key ← match first, afterBlanks cs with
      | _, [] => fail .endInObject []
      | _, '\x7d' :: rest => return (g, rest)
      | true, '"' :: rest => pure rest
      | true, rest => failAt .keyNotText rest
      | false, ',' :: rest =>
        match afterBlanks rest with
        | [] => fail .endInValue []
        | '"' :: rest => pure rest
        | '\x7d' :: rest => failAt .commaAtEnd ('\x7d' :: rest)
        | rest => failAt .keyNotText rest
      | false, rest => failAt .wantedObjectEnd rest
    let (name, rest) ← Json.textRest false key
    let (g, rest) ← field g (String.ofList name) rest
    fields bound false g rest

/-! ## Arrays -/

/-- Goes on to the next item of an array, if there is one. -/
def toItem (first : Bool) (cs : List Char) : Except Fault (Option (List Char)) :=
  match first, afterBlanks cs with
  | _, [] => fail .endInList []
  | _, ']' :: _ => .ok none
  | true, rest => .ok (some rest)
  | false, ',' :: rest =>
    match afterBlanks rest with
    | [] => fail .endInValue []
    | ']' :: rest => failAt .commaAtEnd (']' :: rest)
    | rest => .ok (some rest)
  | false, rest => failAt .wantedListEnd rest

/-- The end of an array that has no more items to be read. -/
def afterItems (cs : List Char) : Except Fault (List Char) :=
  match afterBlanks cs with
  | [] => fail .endInList []
  | ']' :: rest => .ok rest
  | ',' :: rest =>
    match afterBlanks rest with
    | ']' :: rest => failAt .commaAtEnd (']' :: rest)
    | rest => failAt .surplus rest
  | rest => failAt .surplus rest

/-- The items of an array: the two options in order, as far as they go. -/
def items (cs : List Char) : Except Fault (Given × List Char) := do
  let some cs1 ← toItem true cs | return ({}, ← afterItems cs)
  let (n, cs2) ← Json.natural cs1
  let some cs3 ← toItem false cs2 | return (⟨some n, none⟩, ← afterItems cs2)
  let (b, cs4) ← Json.boolean cs3
  return (⟨some n, some b⟩, ← afterItems cs4)

/-! ## Options -/

/-- Options at the front of a text. -/
def given (cs : List Char) : Except Fault (Given × List Char) :=
  match afterBlanks cs with
  | '\x7b' :: rest => fields (rest.length + 1) true {} rest
  | '[' :: rest => items rest
  | rest => Json.refuse "struct CalculationOptions" rest

/-- Reads options; the text must hold nothing else. -/
def read (cs : List Char) : Except Fault Options := do
  let (g, rest) ← given cs
  match afterBlanks rest with
  | [] => return g.options
  | rest => failAt .surplus rest

end Worksheet.OptionsText
