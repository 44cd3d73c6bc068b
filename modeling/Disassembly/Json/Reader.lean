import Disassembly.Datum.Basic
import Disassembly.Json.Token

/-!
# Reading JSON

The value that a JSON text denotes. The tokens are read one by one; what surrounds the place of
reading is kept as a stack of lists and records that are still open. How many of these may be open
at once depends on the room that is left to the reader. Of two fields with one name the later one
counts.
-/

set_option autoImplicit false

namespace Disassembly.Json

/-- Why a text is no JSON value. -/
inductive ReadError where
  | malformed
  /-- An integer has more digits than a numeral may have. -/
  | overlongNumeral (digits : Nat)
  /-- A list or a record stands inside too many others. -/
  | tooDeep (isRecord : Bool)
  deriving DecidableEq

namespace ReadError

/-- Whether the fault is one of the text, and not of the room that is needed to read it. -/
def isFault : ReadError → Bool
  | .tooDeep _ => false
  | _ => true

/-- What is said of an error; nothing of a text that is no JSON at all. -/
def message? : ReadError → Option Text
  | .malformed => none
  | .overlongNumeral digits => some (Numeral.tooLongMessage digits)
  | .tooDeep isRecord =>
    some ("maximum recursion depth exceeded while decoding a JSON ".toList ++
      (if isRecord then "object".toList else "array".toList) ++ " from a unicode string".toList)

end ReadError

/-- A list or a record that is still open: what it holds so far, and the name of the field whose
value is being read. -/
inductive Frame where
  | list (items : List (Datum RawText))
  | record (fields : List (RawText × Datum RawText)) (name : RawText)

/-- What the next token has to bring. -/
inductive Goal where
  | value
  /-- A value or the end of the list that was just opened. -/
  | firstItem
  | name (fields : List (RawText × Datum RawText))
  /-- A name or the end of the record that was just opened. -/
  | firstName
  | colon (fields : List (RawText × Datum RawText)) (name : RawText)
  /-- What may follow a value that is complete. -/
  | after (d : Datum RawText)

/-- The goal behind a token that has to start a value inside the given number of lists and records,
with room for some of them. -/
def Goal.ofValueToken (room depth : Nat) : Token → Except ReadError Goal
  | .openList => if depth < room then .ok .firstItem else .error (.tooDeep false)
  | .openRecord => if depth < room then .ok .firstName else .error (.tooDeep true)
  | .null => .ok (.after .null)
  | .bool b => .ok (.after (.bool b))
  | .int n => .ok (.after (.int n))
  | .real written => .ok (.after (.real written))
  | .text t => .ok (.after (.text t))
  | .overlong digits => .error (.overlongNumeral digits)
  | _ => .error .malformed

/-- One token read. -/
def readToken (room : Nat) (open_ : List Frame) (goal : Goal) (token : Token) :
    Except ReadError (List Frame × Goal) :=
  match goal, token with
  | .firstItem, .closeList =>
    match open_ with
    | .list items :: outer => .ok (outer, .after (.list items))
    | _ => .error .malformed
  | .firstName, .closeRecord => .ok (open_, .after (.record []))
  | .firstName, .text name => .ok (open_, .colon [] name)
  | .name fields, .text name => .ok (open_, .colon fields name)
  | .colon fields name, .colon => .ok (.record fields name :: open_, .value)
  | .after d, .comma =>
    match open_ with
    | .list items :: outer => .ok (.list (items ++ [d]) :: outer, .value)
    | .record fields name :: outer => .ok (outer, .name (Datum.setField fields name d))
    | [] => .error .malformed
  | .after d, .closeList =>
    match open_ with
    | .list items :: outer => .ok (outer, .after (.list (items ++ [d])))
    | _ => .error .malformed
  | .after d, .closeRecord =>
    match open_ with
    | .record fields name :: outer => .ok (outer, .after (.record (Datum.setField fields name d)))
    | _ => .error .malformed
  | .value, token | .firstItem, token => do
    match token, ← Goal.ofValueToken room open_.length token with
    | .openList, next => return (.list [] :: open_, next)
    | _, next => return (open_, next)
  | _, _ => .error .malformed

/-- All tokens read. -/
def readTokens (room : Nat) :
    List Frame → Goal → List Token → Except ReadError (Datum RawText)
  | [], .after d, [] => .ok d
  | _, _, [] => .error .malformed
  | open_, goal, token :: rest => do
    let next ← readToken room open_ goal token
    readTokens room next.1 next.2 rest

/-- The value that a text denotes, read with room for so many lists and records inside each
other. -/
def read (room : Nat) (t : Text) : Except ReadError (Datum RawText) :=
  readTokens room [] .value (Token.ofText t)

end Disassembly.Json
