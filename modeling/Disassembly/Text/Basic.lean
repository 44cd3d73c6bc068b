/-!
# Texts

A text is the list of its characters. Every rule of this library about the layout of a text is a
function on that list, so that it can be computed and reasoned about by recursion.

- `dropWhileEnd` drops a run of characters from the end.
- `cut?` splits a text around the first place where a given mark stands.
- `substitute` goes through a text from left to right: where a pattern matches, the characters that
  it matches are replaced, and the search goes on behind them.
- `replace` is the substitution of one fixed text by another.
-/

set_option autoImplicit false

namespace Disassembly

/-- A text is the list of its characters. -/
abbrev Text := List Char

namespace Text

/-- The text without the longest run of characters at its end that satisfy `p`. -/
def dropWhileEnd (p : Char → Bool) (t : Text) : Text :=
  (t.reverse.dropWhile p).reverse

/-- The longest run of characters at the end of the text that satisfy `p`. -/
def takeWhileEnd (p : Char → Bool) (t : Text) : Text :=
  (t.reverse.takeWhile p).reverse

/-- The parts before and after the first place where `mark` stands in the text. -/
def cut? (mark : Text) : Text → Option (Text × Text)
  | [] => if mark = [] then some ([], []) else none
  | c :: r =>
    if mark.isPrefixOf (c :: r) then some ([], (c :: r).drop mark.length)
    else (cut? mark r).map fun parts => (c :: parts.1, parts.2)

/-- The lines of a text in one, each followed by a line feed. -/
def unlines (lines : List Text) : Text :=
  lines.flatMap fun l => l ++ ['\n']

/-! ## Substitution -/

/-- One place where a pattern matches: how many characters it covers besides the first, and what
is written for them. -/
structure Match where
  more : Nat
  written : Text

/-- A pattern sees the character before a place, if there is one, and the text from there on. -/
abbrev Pattern := Option Char → Text → Option Match

/-- Substitution in the text that follows `before`, of whose characters the first `covered` belong
to the last match. -/
def substituteFrom (p : Pattern) : (before : Option Char) → (covered : Nat) → Text → Text
  | _, _, [] => []
  | _, k + 1, c :: r => substituteFrom p (some c) k r
  | before, 0, c :: r =>
    match p before (c :: r) with
    | none => c :: substituteFrom p (some c) 0 r
    | some m => m.written ++ substituteFrom p (some c) m.more r

/-- The text with every match of the pattern replaced, from left to right; what is written for a
match is not searched again. -/
def substitute (p : Pattern) (t : Text) : Text :=
  substituteFrom p none 0 t

/-- The pattern that matches a fixed text, which is not empty. -/
def Pattern.fixed (old new : Text) : Pattern := fun _ t =>
  if old.isPrefixOf t then some ⟨old.length - 1, new⟩ else none

/-- The text with `new` in every place of `old`, from left to right without overlap. -/
def replace (old new : Text) (t : Text) : Text :=
  substitute (Pattern.fixed old new) t

end Text

end Disassembly
