import Disassembly.Text.Basic

/-!
# Type arguments

Compiled code knows no type arguments, so they are erased from a signature: every bracket pair
`<…>` goes, with all that stands between. The names `<init>` and `<clinit>` of the two special
methods are written with the same brackets and stay.

Erasure works from the inside. One round deletes every bracket pair that holds no further bracket,
and rounds follow until nothing is left to delete. Each round that deletes anything takes an opening
bracket away, so there are at most as many rounds as opening brackets.
-/

set_option autoImplicit false

namespace Disassembly.Signature

open Text

/-- The name of the method that sets up an object. -/
def initName : Text := "<init>".toList

/-- The name of the method that sets up a class. -/
def clinitName : Text := "<clinit>".toList

/-- What stands for `<init>` while brackets are erased. -/
def initShield : Text := "\x00init\x00".toList

/-- What stands for `<clinit>` while brackets are erased. -/
def clinitShield : Text := "\x00clinit\x00".toList

/-- The text with the names of the special methods written without brackets. -/
def shield (t : Text) : Text :=
  replace clinitName clinitShield (replace initName initShield t)

/-- The text with the brackets of the special methods put back. -/
def unshield (t : Text) : Text :=
  replace clinitShield clinitName (replace initShield initName t)

/-- A character other than the two brackets. -/
def isPlain (c : Char) : Bool :=
  c != '<' && c != '>'

/-- A bracket pair that holds no further bracket. -/
def innermostPair : Pattern := fun _ t =>
  match t with
  | '<' :: r =>
    match r.dropWhile isPlain with
    | '>' :: _ => some ⟨(r.takeWhile isPlain).length + 1, []⟩
    | _ => none
  | _ => none

/-- The text without the bracket pairs that hold no further bracket. -/
def eraseInnermost (t : Text) : Text :=
  substitute innermostPair t

/-- At most the given number of rounds of erasure, ended by the first that changes nothing. -/
def eraseRounds : (rounds : Nat) → Text → Text
  | 0, t => t
  | n + 1, t =>
    let u := eraseInnermost t
    if u = t then t else eraseRounds n u

/-- The text without bracket pairs. -/
def erasePairs (t : Text) : Text :=
  eraseRounds (t.count '<') t

/-- The text without type arguments. -/
def eraseGenerics (t : Text) : Text :=
  unshield (erasePairs (shield t))

end Disassembly.Signature
