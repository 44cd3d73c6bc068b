import Disassembly.Yaml.Cursor
import Disassembly.Yaml.Source

/-!
# YAML tokens

The words of a YAML text. Besides the marks and scalars that stand in the text there are tokens that
the indentation implies: the start and the end of a block.

The key of a mapping is not marked as such: that a node was a key shows only when the colon behind
it is read. So the place of every node that may turn out to be a key is kept, and the tokens of the
key are put in there afterwards. Such a node has to lie on one line of at most `maxKeyLength`
characters.

A text may break off where no token can be read, and then a token says why. The tokens before it are
only those that are settled: no key can be put in before them any more.
-/

set_option autoImplicit false

namespace Disassembly.Yaml

open Text

/-- The tag of a node as the text shows it. -/
inductive WrittenTag where
  /-- A tag in full. -/
  | verbatim (tag : Text)
  /-- A tag whose handle stands for its start. -/
  | short (handle rest : Text)
  deriving DecidableEq

/-- A word of a YAML text. -/
inductive Token where
  | version (major minor : Nat)
  | tagHandle (handle tag : Text)
  /-- A directive without a meaning here. -/
  | otherDirective
  | documentStart
  | documentEnd
  | blockSequenceStart
  | blockMappingStart
  | blockEnd
  | flowSequenceStart
  | flowSequenceEnd
  | flowMappingStart
  | flowMappingEnd
  | blockEntry
  | flowEntry
  | key
  | value
  | alias (name : Text)
  | anchor (name : Text)
  | tag (t : WrittenTag)
  | scalar (value : RawText) (plain : Bool)
  /-- What follows is no token. -/
  | broken (e : ReadError)
  deriving DecidableEq

/-- The place of a node that may turn out to be a key: the number of tokens before it, where it
starts, and whether a key is the only thing that it can be. -/
structure KeyPlace where
  tokens : Nat
  index : Nat
  line : Nat
  column : Nat
  required : Bool

/-- The greatest number of characters of a key that is not marked. -/
def maxKeyLength : Nat := 1024

/-- The state of cutting a text into tokens. -/
structure Lexer where
  cursor : Cursor
  /-- The tokens so far, the last one first. -/
  tokens : List Token
  /-- The number of brackets that are open. -/
  flowLevel : Nat
  /-- The column of the innermost block, which is below zero outside all blocks. -/
  indent : Int
  /-- The columns of the blocks around it, from the inside. -/
  outerIndents : List Int
  /-- Whether a key may start here without a mark. -/
  allowsKey : Bool
  /-- The nodes that may turn out to be keys, by the number of brackets around them. -/
  keyPlaces : List (Nat × KeyPlace)

namespace Lexer

/-- The state at the start of a text. -/
def start (t : Text) : Lexer :=
  ⟨Cursor.start t, [], 0, -1, [], true, []⟩

/-- One more token. -/
def push (l : Lexer) (t : Token) : Lexer :=
  { l with tokens := t :: l.tokens }

/-- One more token, which takes up the given number of characters. -/
def pushOver (l : Lexer) (t : Token) (length : Nat) : Lexer :=
  { l with tokens := t :: l.tokens, cursor := l.cursor.advance length }

/-- Whether the place is inside brackets. -/
def inFlow (l : Lexer) : Bool :=
  l.flowLevel != 0

/-! ## Keys without a mark -/

/-- The node at the present number of brackets is no longer a possible key. -/
def dropKeyPlace (l : Lexer) : Except ReadError Lexer :=
  match l.keyPlaces.lookup l.flowLevel with
  | none => .ok l
  | some k =>
    if k.required then .error .malformed
    else .ok { l with keyPlaces := l.keyPlaces.filter (·.1 != l.flowLevel) }

/-- The node that starts here may turn out to be a key. -/
def noteKeyPlace (l : Lexer) : Except ReadError Lexer :=
  if l.allowsKey then do
    let d ← l.dropKeyPlace
    let c := l.cursor
    let place : KeyPlace :=
      ⟨l.tokens.length, c.index, c.line, c.column, !l.inFlow && l.indent == (c.column : Int)⟩
    return { d with keyPlaces := (l.flowLevel, place) :: d.keyPlaces }
  else .ok l

/-- Whether a node began on another line, or too far back to be a key. -/
def isStale (l : Lexer) (k : KeyPlace) : Bool :=
  k.line != l.cursor.line || maxKeyLength < l.cursor.index - k.index

/-- Nodes that began on another line, or too far back, are no longer possible keys. -/
def dropStaleKeyPlaces (l : Lexer) : Except ReadError Lexer :=
  if l.keyPlaces.any fun p => l.isStale p.2 && p.2.required then .error .malformed
  else .ok { l with keyPlaces := l.keyPlaces.filter fun p => !l.isStale p.2 }

/-- The tokens with further ones put in behind the given number of them. -/
def insertTokens (l : Lexer) (position : Nat) (reversed : List Token) : Lexer :=
  let later := l.tokens.length - position
  { l with tokens := l.tokens.take later ++ reversed ++ l.tokens.drop later }

/-! ## Indentation -/

/-- The blocks that are indented more than the given column end. -/
def closeBlocks (column : Int) : (outer : List Int) → (l : Lexer) → Lexer
  | [], l => l
  | i :: rest, l =>
    if column < l.indent then
      closeBlocks column rest { l.push .blockEnd with indent := i, outerIndents := rest }
    else l

/-- The blocks that do not reach the given column end, outside brackets. -/
def unwind (l : Lexer) (column : Int) : Lexer :=
  if l.inFlow then l else closeBlocks column l.outerIndents l

/-- A block starts in the given column, if that is further in than the innermost one. -/
def openBlock (l : Lexer) (column : Nat) : Option Lexer :=
  if l.indent < (column : Int) then
    some { l with indent := column, outerIndents := l.indent :: l.outerIndents }
  else none

/-- A block starts at the place, if that is further in than the innermost one. -/
def openBlockHere (l : Lexer) (t : Token) : Lexer :=
  match l.openBlock l.cursor.column with
  | some opened => opened.push t
  | none => l

/-! ## What separates tokens -/

/-- The place of the next token behind spaces, comments and line breaks, and whether a line ended on
the way. -/
def skipBlanks (comment : Bool) : Text → (c : Cursor) → (ended : Bool) → Cursor × Bool
  | [], c, ended => (c, ended)
  | ch :: r, c, ended =>
    if isBreak ch then skipBlanks false r c.next true
    else if comment then skipBlanks true r c.next ended
    else if ch = ' ' then skipBlanks false r c.next ended
    else if ch = '#' then skipBlanks true r c.next ended
    else (c, ended)

/-- The state at the next token. A byte order mark at the start of the text does not count. -/
def toNextToken (l : Lexer) : Lexer :=
  let c := if l.cursor.index = 0 ∧ l.cursor.peek = some (Char.ofNat 0xFEFF) then l.cursor.next
    else l.cursor
  let (d, ended) := skipBlanks false c.rest c false
  { l with cursor := d, allowsKey := l.allowsKey || (ended && !l.inFlow) }

/-! ## Anchors, aliases and tags -/

/-- A name behind its mark, which must be followed by one of certain characters. -/
def takeName (c : Cursor) : Except ReadError (Text × Cursor) :=
  let (name, d) := c.next.take isNameChar
  let ends := d.atWordEnd ||
    d.peek.any fun ch => ['?', ':', ',', ']', closeBrace, '%', '@', graveAccent].contains ch
  if name.isEmpty || !ends then .error .malformed else .ok (name, d)

/-- A character of a tag. -/
def isTagChar (c : Char) : Bool :=
  c.isAlphanum || "-;/?:@&=+$,_.!~*'()[]".toList.contains c

/-- The bytes that are written with percent signs at the start of a text. -/
def escapedBytes : Text → List UInt8
  | '%' :: a :: b :: r =>
    match readHex? [a, b] with
    | some n => n.toUInt8 :: escapedBytes r
    | none => []
  | _ => []

/-- The rest of a tag, with characters in place of escapes, at most the given number of runs. -/
def takeTagRest : (rounds : Nat) → Cursor → Except ReadError (Text × Cursor)
  | 0, c => .ok ([], c)
  | n + 1, c => do
    let (run, d) := c.take isTagChar
    if d.peek = some '%' then
      let bytes := escapedBytes d.rest
      match (String.fromUTF8? bytes.toByteArray) with
      | none => throw .malformed
      | some s =>
        if bytes.isEmpty then throw .malformed
        let (more, e) ← takeTagRest n (d.advance (3 * bytes.length))
        return (run ++ s.toList ++ more, e)
    else return (run, d)

/-- The rest of a tag, which must not be empty. -/
def takeTagText (c : Cursor) : Except ReadError (Text × Cursor) := do
  let (t, d) ← takeTagRest c.rest.length c
  if t.isEmpty then throw .malformed
  return (t, d)

/-- The handle of a tag: two exclamation marks, or a name between them. -/
def takeHandle (c : Cursor) : Except ReadError (Text × Cursor) :=
  let (name, d) := c.next.take isNameChar
  if d.peek = some '!' then .ok ('!' :: name ++ ['!'], d.next)
  else if name.isEmpty ∧ d.peek = some ' ' then .ok (['!'], d)
  else .error .malformed

/-- The tag at the place. -/
def takeTag (c : Cursor) : Except ReadError (WrittenTag × Cursor) := do
  let (tag, d) ←
    if c.peekAt 1 = some '<' then do
      let (t, d) ← takeTagText (c.advance 2)
      if d.peek ≠ some '>' then throw .malformed
      pure (WrittenTag.verbatim t, d.next)
    else if c.next.atWordEnd then pure (WrittenTag.verbatim ['!'], c.next)
    else
      let word := c.next.rest.takeWhile fun ch => !(isBreak ch || ch == ' ')
      if word.contains '!' then do
        let (handle, d) ← takeHandle c
        let (t, e) ← takeTagText d
        pure (WrittenTag.short handle t, e)
      else do
        let (t, d) ← takeTagText c.next
        pure (WrittenTag.short ['!'] t, d)
  if d.peek.any fun ch => !(isBreak ch || ch == ' ') then throw .malformed
  return (tag, d)

/-! ## Directives -/

/-- The end of the line of a directive, with a comment or without. -/
def takeLineEnd (c : Cursor) : Except ReadError Cursor :=
  let d := c.skip (· == ' ')
  let e := if d.peek = some '#' then d.skip (!isBreak ·) else d
  if e.peek.any (!isBreak ·) then .error .malformed else .ok e.next

/-- Whether a space, a line break or the end of the text follows. -/
def atSpaceOrEnd (c : Cursor) : Bool :=
  c.peek.all fun ch => isBreak ch || ch == ' '

/-- A number in a directive. -/
def takeNumber (c : Cursor) : Except ReadError (Nat × Cursor) :=
  let (digits, d) := c.take Char.isDigit
  if digits.isEmpty then .error .malformed else .ok (Nat.ofDigitChars 10 digits 0, d)

/-- The directive at the place. -/
def takeDirective (c : Cursor) : Except ReadError (Token × Cursor) := do
  let (name, d) := c.next.take isNameChar
  if name.isEmpty || !atSpaceOrEnd d then throw .malformed
  if name = "YAML".toList then
    let (major, e) ← takeNumber (d.skip (· == ' '))
    if e.peek ≠ some '.' then throw .malformed
    let (minor, f) ← takeNumber e.next
    if !atSpaceOrEnd f then throw .malformed
    return (.version major minor, ← takeLineEnd f)
  else if name = "TAG".toList then
    let (handle, e) ← takeHandle (d.skip (· == ' '))
    if e.peek ≠ some ' ' then throw .malformed
    let (t, f) ← takeTagText (e.skip (· == ' '))
    if !atSpaceOrEnd f then throw .malformed
    return (.tagHandle handle t, ← takeLineEnd f)
  else return (.otherDirective, ← takeLineEnd (d.skip (!isBreak ·)))

/-! ## One token -/

/-- A scalar, or another node of one word, was read. -/
def node (l : Lexer) (t : Token) (c : Cursor) (allowsKey : Bool) : Lexer :=
  { l.push t with cursor := c, allowsKey := allowsKey }

/-- A mark between documents, or a directive, ends all blocks. -/
def endDocument (l : Lexer) : Except ReadError Lexer := do
  let d ← (l.unwind (-1)).dropKeyPlace
  return { d with allowsKey := false }

/-- A bracket opens. -/
def openFlow (l : Lexer) (t : Token) : Except ReadError Lexer := do
  let d ← l.noteKeyPlace
  return { d.pushOver t 1 with flowLevel := d.flowLevel + 1, allowsKey := true }

/-- A bracket closes. -/
def closeFlow (l : Lexer) (t : Token) : Except ReadError Lexer := do
  let d ← l.dropKeyPlace
  if d.flowLevel = 0 then throw .malformed
  return { d.pushOver t 1 with flowLevel := d.flowLevel - 1, allowsKey := false }

/-- A dash in front of an item of a block sequence. Inside brackets it is out of place, which shows
when the tokens are read. -/
def takeBlockEntry (l : Lexer) : Except ReadError Lexer := do
  if !l.inFlow && !l.allowsKey then throw .malformed
  let opened := if l.inFlow then l else l.openBlockHere .blockSequenceStart
  let d ← { opened with allowsKey := true }.dropKeyPlace
  return d.pushOver .blockEntry 1

/-- A question mark in front of a key. -/
def takeKey (l : Lexer) : Except ReadError Lexer := do
  if !l.inFlow && !l.allowsKey then throw .malformed
  let opened := if l.inFlow then l else l.openBlockHere .blockMappingStart
  let d ← { opened with allowsKey := !l.inFlow }.dropKeyPlace
  return d.pushOver .key 1

/-- A colon in front of a value. The node before it was a key, if it may be one. -/
def takeValue (l : Lexer) : Except ReadError Lexer :=
  match l.keyPlaces.lookup l.flowLevel with
  | some k =>
    let d := { l with keyPlaces := l.keyPlaces.filter (·.1 != l.flowLevel), allowsKey := false }
    let marked :=
      match if l.inFlow then none else d.openBlock k.column with
      | some opened => opened.insertTokens k.tokens [.key, .blockMappingStart]
      | none => d.insertTokens k.tokens [.key]
    .ok (marked.pushOver .value 1)
  | none => do
    if !l.inFlow && !l.allowsKey then throw .malformed
    let opened := if l.inFlow then l else l.openBlockHere .blockMappingStart
    let d ← { opened with allowsKey := !l.inFlow }.dropKeyPlace
    return d.pushOver .value 1

/-- Whether a plain scalar starts at the place. -/
def startsPlain (l : Lexer) (ch : Char) : Bool :=
  if ch = '-' then !l.cursor.next.atWordEnd
  else if ch = '?' ∨ ch = ':' then !l.inFlow && !l.cursor.next.atWordEnd
  else !isSeparator ch && !indicators.contains ch

/-- The token at the place, whose first character is given. -/
def takeToken (l : Lexer) (ch : Char) : Except ReadError Lexer := do
  let c := l.cursor
  let wordEnds := c.next.atWordEnd
  if ch = '%' ∧ c.column = 0 then
    let d ← l.endDocument
    let (t, e) ← takeDirective c
    return { d.push t with cursor := e }
  else if c.column = 0 && c.atDocumentMark then
    let d ← l.endDocument
    return d.pushOver (if ch = '-' then .documentStart else .documentEnd) 3
  else if ch = '[' then l.openFlow .flowSequenceStart
  else if ch = openBrace then l.openFlow .flowMappingStart
  else if ch = ']' then l.closeFlow .flowSequenceEnd
  else if ch = closeBrace then l.closeFlow .flowMappingEnd
  else if ch = ',' then
    let d ← { l with allowsKey := true }.dropKeyPlace
    return d.pushOver .flowEntry 1
  else if ch = '-' && wordEnds then l.takeBlockEntry
  else if ch = '?' && (l.inFlow || wordEnds) then l.takeKey
  else if ch = ':' && (l.inFlow || wordEnds) then l.takeValue
  else if ch = '*' then
    let (name, d) ← takeName c
    return (← l.noteKeyPlace).node (.alias name) d false
  else if ch = '&' then
    let (name, d) ← takeName c
    return (← l.noteKeyPlace).node (.anchor name) d false
  else if ch = '!' then
    let noted ← l.noteKeyPlace
    let (t, d) ← takeTag c
    return noted.node (.tag t) d false
  else if (ch = '|' ∨ ch = '>') ∧ !l.inFlow then
    let d ← l.dropKeyPlace
    let (t, e) ← c.block (ch = '>') l.indent
    return d.node (.scalar (.ofText t) false) e true
  else if ch = '\'' ∨ ch = '"' then
    let noted ← l.noteKeyPlace
    let (t, d) ← c.quoted (ch = '"')
    return noted.node (.scalar t false) d false
  else if l.startsPlain ch then
    let noted ← l.noteKeyPlace
    let reading := c.plain l.inFlow (l.indent + 1)
    return noted.node (.scalar (.ofText reading.value) true) reading.cursor reading.lineEnded
  else throw .malformed

/-- The state at the next token, before it is read: blocks that have ended are closed. -/
def prepare (l : Lexer) : Except ReadError Lexer := do
  let d ← l.toNextToken.dropStaleKeyPlaces
  return d.unwind d.cursor.column

/-- The state at the end of the text. -/
def finish (l : Lexer) : Except ReadError Lexer :=
  (l.unwind (-1)).dropKeyPlace

/-! ## All tokens -/

/-- What comes of reading on: one more token and perhaps more to come, or the end of the text. -/
inductive Progress where
  | more (l : Lexer)
  | last (l : Lexer)

/-- The state, unless the text breaks off here because of an error behind it. -/
def unlessStopped (l : Lexer) (stop : Option ReadError) : Except ReadError Lexer :=
  match stop with
  | some e => if l.cursor.rest.isEmpty then .error e else .ok l
  | none => .ok l

/-- The error behind the text in place of the one that the text breaks off. -/
def blame (stop : Option ReadError) (e : ReadError) : ReadError :=
  if e = .unterminated then stop.getD e else e

/-- One more token is read. A token that reaches the end of a text with an error behind it might go
on, so it is not read. -/
def progress (stop : Option ReadError) (l : Lexer) : Except ReadError Progress := do
  let _ ← l.toNextToken.unlessStopped stop
  let ready ← l.prepare
  match ready.cursor.peek with
  | none => return .last (← ready.finish)
  | some ch =>
    let next ← (ready.takeToken ch).mapError (blame stop)
    return .more (← next.unlessStopped stop)

/-- The tokens before the first node that may still turn out to be a key. -/
def settled (l : Lexer) : List Token :=
  let pending := (l.keyPlaces.filter fun p => !l.isStale p.2).map fun p => p.2.tokens
  l.tokens.reverse.take (pending.min?.getD l.tokens.length)

end Lexer

namespace Token

/-- The tokens so far and at most the given number of further ones. -/
def run (stop : Option ReadError) : (rounds : Nat) → Lexer → List Token
  | 0, l => l.tokens.reverse
  | n + 1, l =>
    match l.progress stop with
    | .error e => l.settled ++ [.broken e]
    | .ok (.last done) => done.tokens.reverse
    | .ok (.more next) => run stop n next

/-- Whether a token starts a collection. -/
def opens : Token → Bool
  | .blockSequenceStart | .blockMappingStart | .flowSequenceStart | .flowMappingStart => true
  | _ => false

/-- Whether a token ends a collection. -/
def closes : Token → Bool
  | .blockEnd | .flowSequenceEnd | .flowMappingEnd => true
  | _ => false

/-- The tokens up to the place where more collections are open than the room admits. -/
def limitNesting : (room : Nat) → List Token → List Token
  | _, [] => []
  | room, t :: rest =>
    if t.opens then
      match room with
      | 0 => [.broken .tooDeep]
      | n + 1 => t :: limitNesting n rest
    else t :: limitNesting (if t.closes then room + 1 else room) rest

/-- The tokens of a text, with room for so many collections inside each other. Every token takes at
least one character. If the text cannot be cut into tokens, the last one says why. -/
def ofSource (room : Nat) (s : Source) : List Token :=
  limitNesting room (run s.stop (s.text.length + 1) (Lexer.start s.text))

end Token

end Disassembly.Yaml
