import Disassembly.Text.Basic
import Disassembly.Text.Digit

/-!
# Words of a command line

A word of a command line is an operand or an option. An option may be written by a start of its name
that no other option shares, and its value may follow an equals sign in the same word. Behind a dash
and one letter further letters may follow in the same word.

A word is an operand if it does not start with a dash, if it is a dash, or if it cannot be an option
because it is a negative number or holds a space.
-/

set_option autoImplicit false

namespace Disassembly.CommandLine

open Text

/-- What an option sets. -/
inductive Setting where
  | help
  | directory
  | logLevel
  | jsonLogs
  | format
  | htmlAddress
  | cssAddress
  deriving DecidableEq

/-- How an option is written, what it sets, and whether a value belongs to it. -/
structure OptionForm where
  name : Text
  setting : Setting
  takesValue : Bool
  deriving DecidableEq

/-- What a word is. -/
inductive Word where
  | operand
  | option (form : OptionForm) (value : Option Text)
  /-- It has the look of an option, but stands for none. -/
  | unknown
  /-- It has the look of an option, and stands for several. -/
  | ambiguous
  deriving DecidableEq

/-- Two dashes: behind them all words are operands. -/
def operandMark : Text := ['-', '-']

/-- Whether a text is a negative number, with a decimal point or without. A line feed at the end
does not count. -/
def isNegativeNumber : Text → Bool
  | '-' :: r =>
    let t := if r.getLast? = some '\n' then r.dropLast else r
    let digitsOnly (u : Text) : Bool := !u.isEmpty && u.all isDecimal
    digitsOnly t ||
      match cut? ['.'] t with
      | some (whole, fraction) => whole.all isDecimal && digitsOnly fraction
      | none => false
  | _ => false

namespace Word

/-- The name of an option, and the value behind the equals sign in the same word. -/
def nameAndValue (t : Text) : Text × Option Text :=
  match cut? ['='] t with
  | some (name, value) => (name, some value)
  | none => (t, none)

/-- The value behind an option of one letter in the same word. Letters that are options themselves
do not count, and what follows them is a value only behind a dash or an equals sign. -/
def joinedValue? (forms : List OptionForm) (more : Text) : Option Text :=
  let rest := more.dropWhile fun c => forms.any (·.name == ['-', c])
  if rest.head? = some '-' ∨ rest.head? = some '=' then some rest else none

/-- The options that a word may stand for whose name is not written in full, or not alone. -/
def abbreviated (forms : List OptionForm) (t : Text) : List (OptionForm × Option Text) :=
  if operandMark.isPrefixOf t then
    let (name, value) := nameAndValue t
    (forms.filter fun f => name.isPrefixOf f.name).map fun f => (f, value)
  else (forms.filter fun f => f.name == t.take 2).map fun f => (f, joinedValue? forms (t.drop 2))

/-- What a word is where the given options may stand. -/
def ofText (forms : List OptionForm) (t : Text) : Word :=
  if t.head? ≠ some '-' then .operand
  else
    let (name, value) := nameAndValue t
    match forms.find? (·.name == t), forms.find? (·.name == name) with
    | some form, _ => .option form none
    | none, some form => .option form value
    | none, none =>
      if t.length = 1 then .operand
      else
        match abbreviated forms t with
        | [(form, v)] => .option form v
        | [] => if isNegativeNumber t || t.contains ' ' then .operand else .unknown
        | _ => .ambiguous

end Word

end Disassembly.CommandLine
