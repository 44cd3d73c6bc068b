import Disassembly.Yaml.Character
import Disassembly.Yaml.Error
import Disassembly.Text.Hex

/-!
# Reading scalars

A place in a YAML text, with its line and column, and the reading of the scalars that start there:
quoted ones, plain ones and block scalars. A scalar may run over several lines, whose breaks are
then folded into spaces or kept, as its style says.

Every loop here takes at least one character a round, so it is given as many rounds as there are
characters left.
-/

set_option autoImplicit false

namespace Disassembly.Yaml

open Text

/-- A place in a text. -/
structure Cursor where
  rest : Text
  index : Nat
  line : Nat
  column : Nat

namespace Cursor

/-- The place at the start of a text. -/
def start (t : Text) : Cursor := ⟨t, 0, 0, 0⟩

/-- The character at the place, if it is not the end of the text. -/
def peek (c : Cursor) : Option Char := c.rest.head?

/-- The character a number of characters further on. -/
def peekAt (c : Cursor) (n : Nat) : Option Char := c.rest[n]?

/-- The place behind the next character. A byte order mark takes no column. -/
def next (c : Cursor) : Cursor :=
  match c.rest with
  | [] => c
  | ch :: r =>
    if isBreak ch then ⟨r, c.index + 1, c.line + 1, 0⟩
    else ⟨r, c.index + 1, c.line, if ch = Char.ofNat 0xFEFF then c.column else c.column + 1⟩

/-- The place a number of characters further on. -/
def advance (c : Cursor) : (n : Nat) → Cursor
  | 0 => c
  | n + 1 => c.next.advance n

/-- The longest run of characters of one sort, and the place behind it. -/
def take (c : Cursor) (p : Char → Bool) : Text × Cursor :=
  let run := c.rest.takeWhile p
  (run, c.advance run.length)

/-- The place behind the longest run of characters of one sort. -/
def skip (c : Cursor) (p : Char → Bool) : Cursor :=
  (c.take p).2

/-- Whether a line ends at the place. -/
def atBreak (c : Cursor) : Bool := c.peek.any isBreak

/-- Whether a word ends at the place. -/
def atWordEnd (c : Cursor) : Bool := endsWord c.rest

/-- What the line break at the place is read as, and the place behind it. -/
def takeBreak (c : Cursor) : Char × Cursor :=
  let ch := c.peek.getD '\n'
  (if ch = Char.ofNat 0x2028 ∨ ch = Char.ofNat 0x2029 then ch else '\n', c.next)

/-- Whether a line that opens or closes a document starts at the place. -/
def atDocumentMark (c : Cursor) : Bool :=
  ("---".toList.isPrefixOf c.rest || "...".toList.isPrefixOf c.rest) && endsWord (c.rest.drop 3)

/-- The break of a line and the breaks of the empty lines behind it, as they count in folded text: a
single one is a space, and of several the first does not count. -/
def foldBreaks (first : Char) (others : Text) : Text :=
  if first ≠ '\n' then first :: others
  else if others.isEmpty then [' ']
  else others

/-! ## Quoted scalars -/

/-- The breaks of empty lines inside a quoted scalar. -/
def quotedBreaks : (rounds : Nat) → Cursor → Except ReadError (Text × Cursor)
  | 0, c => .ok ([], c)
  | n + 1, c => do
    if c.atDocumentMark then throw .malformed
    let d := c.skip isSpaceOrTab
    if d.atBreak then
      let (b, e) := d.takeBreak
      let (others, f) ← quotedBreaks n e
      return (b :: others, f)
    else return ([], d)

/-- The character that an escape by a single letter stands for. -/
def escapedChar? : Char → Option Char
  | '0' => some (Char.ofNat 0)
  | 'a' => some (Char.ofNat 0x7)
  | 'b' => some (Char.ofNat 0x8)
  | 't' => some '\t'
  | '\t' => some '\t'
  | 'n' => some '\n'
  | 'v' => some (Char.ofNat 0xB)
  | 'f' => some (Char.ofNat 0xC)
  | 'r' => some '\r'
  | 'e' => some (Char.ofNat 0x1B)
  | ' ' => some ' '
  | '"' => some '"'
  | '\\' => some '\\'
  | '/' => some '/'
  | 'N' => some (Char.ofNat 0x85)
  | '_' => some (Char.ofNat 0xA0)
  | 'L' => some (Char.ofNat 0x2028)
  | 'P' => some (Char.ofNat 0x2029)
  | _ => none

/-- The number of hexadecimal digits behind an escape by number. -/
def escapeWidth? : Char → Option Nat
  | 'x' => some 2
  | 'u' => some 4
  | 'U' => some 8
  | _ => none

/-- The code point with the given number. -/
def codePoint (n : Nat) : Except ReadError CodePoint :=
  if 0x10FFFF < n then .error (.noCharacter n) else .ok (.ofNat n)

/-- The number that the hexadecimal digits of an escape stand for. -/
def escapeCode (width : Nat) (t : Text) : Except ReadError Nat :=
  let digits := t.take width
  match readHex? digits with
  | none => .error .malformed
  | some code => if digits.length = width then .ok code else .error .unterminated

/-- What the escape stands for whose backslash is at the place, and the place behind it. -/
def takeEscape (rounds : Nat) (c : Cursor) : Except ReadError (RawText × Cursor) :=
  let d := c.next
  match d.peek with
  | none => .error .unterminated
  | some ch =>
    match escapedChar? ch, escapeWidth? ch with
    | some e, _ => .ok ([.char e], d.next)
    | none, some width => do
      let code ← escapeCode width d.next.rest
      return ([← codePoint code], d.next.advance width)
    | none, none =>
      if isBreak ch then do
        let (breaks, e) ← quotedBreaks rounds d.takeBreak.2
        return (.ofText breaks, e)
      else .error .malformed

/-- The rest of a quoted scalar, up to the closing mark. -/
def takeQuoted (double : Bool) : (rounds : Nat) → Cursor → Except ReadError (RawText × Cursor)
  | 0, _ => .error .unterminated
  | n + 1, c =>
    match c.peek with
    | none => .error .unterminated
    | some ch =>
      if ch = (if double then '"' else '\'') then
        if !double && c.peekAt 1 = some '\'' then do
          let (t, d) ← takeQuoted double n (c.advance 2)
          return (.char '\'' :: t, d)
        else .ok ([], c.next)
      else if isSpaceOrTab ch || isBreak ch then do
        let (blanks, d) := c.take isSpaceOrTab
        if d.peek.isNone then throw .unterminated
        if d.atBreak then
          let (b, e) := d.takeBreak
          let (others, f) ← quotedBreaks (n + 1) e
          let (t, g) ← takeQuoted double n f
          return (.ofText (foldBreaks b others) ++ t, g)
        else
          let (t, e) ← takeQuoted double n d
          return (.ofText blanks ++ t, e)
      else if double && ch = '\\' then do
        let (e, d) ← takeEscape (n + 1) c
        let (t, f) ← takeQuoted double n d
        return (e ++ t, f)
      else do
        let (t, d) ← takeQuoted double n c.next
        return (.char ch :: t, d)

/-- The value of the quoted scalar at the place. -/
def quoted (double : Bool) (c : Cursor) : Except ReadError (RawText × Cursor) :=
  takeQuoted double (c.rest.length + 1) c.next

/-! ## Plain scalars -/

/-- A character that ends a plain scalar inside brackets. -/
def isFlowIndicator (c : Char) : Bool :=
  [',', '?', '[', ']', openBrace, closeBrace].contains c

/-- The longest piece of a plain scalar at the start of a text. -/
def plainPiece (inFlow : Bool) : Text → Text
  | [] => []
  | c :: r =>
    if isSeparator c then []
    else if c = ':' ∧ (endsWord r ∨ (inFlow ∧
        r.head?.any fun d => [',', '[', ']', openBrace, closeBrace].contains d)) then []
    else if inFlow ∧ isFlowIndicator c then []
    else c :: plainPiece inFlow r

/-- The breaks of empty lines inside a plain scalar; none at all if a document mark ends it. -/
def plainBreaks : (rounds : Nat) → Cursor → Option Text × Cursor
  | 0, c => (some [], c)
  | n + 1, c =>
    let d := c.skip (· == ' ')
    if d.atBreak then
      let (b, e) := d.takeBreak
      if e.atDocumentMark then (none, e)
      else
        let (others, f) := plainBreaks n e
        (others.map (b :: ·), f)
    else (some [], d)

/-- What stands between two pieces of a plain scalar: spaces, or line breaks. Nothing if the scalar
ends here. The last component says whether a line ended. -/
def plainGap (c : Cursor) : Text × Cursor × Bool :=
  let (blanks, d) := c.take (· == ' ')
  if d.atBreak then
    let (b, e) := d.takeBreak
    if e.atDocumentMark then ([], e, true)
    else
      let (others, f) := plainBreaks e.rest.length e
      ((others.map (foldBreaks b)).getD [], f, true)
  else (blanks, d, false)

/-- A plain scalar: its value, the place behind it, and whether it ended with a line. -/
structure PlainReading where
  value : Text
  cursor : Cursor
  lineEnded : Bool

/-- The pieces of a plain scalar. Outside brackets a line continues the scalar only if it is
indented enough. -/
def takePlain (inFlow : Bool) (indent : Int) : (rounds : Nat) → Cursor → PlainReading
  | 0, c => ⟨[], c, false⟩
  | n + 1, c =>
    let piece := plainPiece inFlow c.rest
    let (gap, d, lineEnded) := plainGap (c.advance piece.length)
    if gap.isEmpty || d.peek == some '#' || (!inFlow && (d.column : Int) < indent)
        || (plainPiece inFlow d.rest).isEmpty then
      ⟨piece, d, lineEnded⟩
    else
      let more := takePlain inFlow indent n d
      ⟨piece ++ gap ++ more.value, more.cursor, more.lineEnded⟩

/-- The plain scalar at the place. -/
def plain (inFlow : Bool) (indent : Int) (c : Cursor) : PlainReading :=
  takePlain inFlow indent (c.rest.length + 1) c

/-! ## Block scalars -/

/-- Which line breaks at the end of a block scalar count. -/
inductive Chomping where
  | strip
  | clip
  | keep
  deriving DecidableEq

/-- The header of a block scalar: what is done with the last line breaks, and by how many columns
its lines are indented, if that is said. -/
structure BlockHeader where
  chomping : Chomping
  increment : Option Nat

/-- The sign in the header of a block scalar. -/
def takeChomping (c : Cursor) : Option Chomping × Cursor :=
  match c.peek with
  | some '+' => (some .keep, c.next)
  | some '-' => (some .strip, c.next)
  | _ => (none, c)

/-- The digit in the header of a block scalar, which must not be zero. -/
def takeIncrement (c : Cursor) : Except ReadError (Option Nat × Cursor) :=
  match c.peek with
  | some ch =>
    if ch = '0' then .error .malformed
    else if ch.isDigit then .ok (some (ch.toNat - '0'.toNat), c.next)
    else .ok (none, c)
  | none => .ok (none, c)

/-- The header of a block scalar, with the comment and the line break behind it. -/
def takeHeader (c : Cursor) : Except ReadError (BlockHeader × Cursor) := do
  let (before, d) := c.takeChomping
  let (increment, e) ← d.takeIncrement
  let (behind, f) := if before.isNone && increment.isSome then e.takeChomping else (none, e)
  if f.peek.any fun ch => !(isBreak ch || ch == ' ') then throw .malformed
  let g := f.skip (· == ' ')
  let h := if g.peek = some '#' then g.skip (!isBreak ·) else g
  if h.peek.any (!isBreak ·) then throw .malformed
  return (⟨(before <|> behind).getD .clip, increment⟩, h.next)

/-- The breaks of the empty lines before the first line of a block scalar, the greatest column that
spaces reach there, and the place behind them. -/
def blockIndentation : (rounds : Nat) → (greatest : Nat) → Cursor → Text × Nat × Cursor
  | 0, greatest, c => ([], greatest, c)
  | n + 1, greatest, c =>
    if c.peek = some ' ' then blockIndentation n (max greatest c.next.column) c.next
    else if c.atBreak then
      let (b, d) := c.takeBreak
      let (others, g, e) := blockIndentation n greatest d
      (b :: others, g, e)
    else ([], greatest, c)

/-- The place behind the spaces before the given column. -/
def skipIndent (indent : Nat) (c : Cursor) : Cursor :=
  c.advance (((c.rest.takeWhile (· == ' ')).length).min (indent - c.column))

/-- The breaks of empty lines inside a block scalar. -/
def blockBreaks (indent : Nat) : (rounds : Nat) → Cursor → Text × Cursor
  | 0, c => ([], c.skipIndent indent)
  | n + 1, c =>
    let d := c.skipIndent indent
    if d.atBreak then
      let (b, e) := d.takeBreak
      let (others, f) := blockBreaks indent n e
      (b :: others, f)
    else ([], d)

/-- Whether a line of a block scalar continues at the place. -/
def atBlockLine (indent : Nat) (c : Cursor) : Bool :=
  c.column == indent && c.peek.isSome

/-- The lines of a block scalar, of which the first starts at the place; `breaks` are those of the
empty lines before it. -/
def takeBlockLines (folded : Bool) (chomping : Chomping) (indent : Nat) :
    (rounds : Nat) → (breaks : Text) → Cursor → Text × Cursor
  | 0, _, c => ([], c)
  | n + 1, breaks, c =>
    let startsPlainly := !c.peek.any isSpaceOrTab
    let (content, d) := c.take (!isBreak ·)
    let lineBreak := if d.atBreak then [d.takeBreak.1] else []
    let (others, e) := blockBreaks indent d.rest.length (if d.atBreak then d.next else d)
    if atBlockLine indent e then
      let joint :=
        if folded && lineBreak == ['\n'] && startsPlainly && !e.peek.any isSpaceOrTab then
          (if others.isEmpty then [' '] else [])
        else lineBreak
      let (more, f) := takeBlockLines folded chomping indent n others e
      (breaks ++ content ++ joint ++ more, f)
    else
      let ending :=
        match chomping with
        | .strip => []
        | .clip => lineBreak
        | .keep => lineBreak ++ others
      (breaks ++ content ++ ending, e)

/-- The value of the block scalar whose mark is at the place, inside a block that is indented as
given. -/
def block (folded : Bool) (indent : Int) (c : Cursor) : Except ReadError (Text × Cursor) := do
  let (header, d) ← c.next.takeHeader
  let least := (indent + 1).toNat.max 1
  let rounds := d.rest.length
  let (breaks, column, e) :=
    match header.increment with
    | none =>
      let (breaks, greatest, e) := blockIndentation rounds 0 d
      (breaks, least.max greatest, e)
    | some n =>
      let (breaks, e) := blockBreaks (least + n - 1) rounds d
      (breaks, least + n - 1, e)
  if atBlockLine column e then
    return takeBlockLines folded header.chomping column (rounds + 1) breaks e
  else return (if header.chomping = .keep then breaks else [], e)

end Cursor

end Disassembly.Yaml
