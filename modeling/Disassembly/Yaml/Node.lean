import Disassembly.Datum.Basic
import Disassembly.Yaml.ScalarFault
import Disassembly.Yaml.Token

/-!
# YAML nodes

The tree of nodes that the tokens of a YAML text describe. `Node.ofTokens?` builds it and fails
where the tokens are out of order; `Node.fault?` finds the first thing in a tree that has no
meaning, and `Node.texts?` are the entries of a mapping of texts to texts.

An alias stands for the node with the anchor of that name, which comes before it. A mapping takes in
the entries of the mappings that it merges as it is built, so a finished tree has no merges.
-/

set_option autoImplicit false

namespace Disassembly.Yaml

open Text

/-- A node of a YAML text. -/
inductive Node where
  | scalar (kind : Kind) (value : RawText)
  | sequence (items : List Node)
  | mapping (entries : List (Node × Node))
  /-- A mapping that merges something other than mappings. -/
  | badMerge
  /-- An alias of a sequence or a mapping in which the alias itself stands. -/
  | enclosing (isMapping : Bool)

namespace Node

/-- The node of a value that is missing. -/
def empty : Node := .scalar .null []

/-! ## Merging -/

/-- The entries of a mapping. A mapping that merges itself gets nothing new. -/
def ownEntries? : Node → Option (List (Node × Node))
  | .mapping entries => some entries
  | .enclosing true => some []
  | _ => none

/-- The entries that a mapping takes in from the node behind a merge mark. Of several mappings the
first comes last, so that its entries count. -/
def mergedEntries? : Node → Option (List (Node × Node))
  | .sequence items => (items.reverse.mapM ownEntries?).map List.flatten
  | n => n.ownEntries?

/-- Whether a node is a merge mark. -/
def isMergeMark : Node → Bool
  | .scalar .merge _ => true
  | _ => false

/-- Whether a node is the mark of a default value. -/
def isDefaultMark : Node → Bool
  | .scalar .default _ => true
  | _ => false

/-- The mapping with the given entries, behind those that it merges. -/
def ofEntries (entries : List (Node × Node)) : Node :=
  let merges := entries.filter (isMergeMark ·.1)
  let own := entries.filter (!isMergeMark ·.1)
  match merges.mapM (mergedEntries? ·.2) with
  | none => .badMerge
  | some taken => .mapping (taken.flatten ++ own)

/-! ## Tags -/

/-- The start of the tags of the standard types. -/
def standardTag : Text := "tag:yaml.org,2002:".toList

/-- The handles of tags that need no directive. -/
def standardHandles : List (Text × Text) :=
  [(['!'], ['!']), (['!', '!'], standardTag)]

/-- The kinds of scalars with a standard tag. -/
def taggedKinds : List (Text × Kind) :=
  [("str", .text), ("null", .null), ("bool", .bool), ("int", .int), ("float", .float),
    ("timestamp", .timestamp), ("merge", .merge), ("value", .default)].map fun p =>
      (standardTag ++ p.1.toList, p.2)

/-- The tag that leaves the meaning of a node to its form. -/
def plainTag : Text := ['!']

/-- The kind of a scalar by its form. -/
def kindByForm (value : RawText) : Kind :=
  (value.text?.map Scalar.kind).getD .text

/-- The kind of a scalar with the given tag. -/
def kindOf (tag : Option Text) (value : RawText) (plain : Bool) : Kind :=
  match tag with
  | none => if plain then kindByForm value else .text
  | some t => if t = plainTag then kindByForm value else (taggedKinds.lookup t).getD .unknown

/-- A collection with a tag. Only the tag of its own sort fits. -/
def withTag (tag : Option Text) (own : String) (n : Node) : Node :=
  if tag.all fun t => t = plainTag || t = standardTag ++ own.toList then n
  else .scalar .unknown []

mutual

/-- What a node says where a scalar is needed: in place of a mapping stands what it has under the
mark of a default value. -/
def scalarValue? : Node → Option RawText
  | .scalar _ t => some t
  | .mapping entries => defaultValue? entries
  | _ => none

/-- What stands under the first mark of a default value. -/
def defaultValue? : List (Node × Node) → Option RawText
  | [] => none
  | (k, v) :: rest => if k.isDefaultMark then v.scalarValue? else defaultValue? rest

end

/-- The mapping with the given tag and entries. With the tag of a scalar it stands for one. -/
def ofTaggedEntries (tag : Option Text) (entries : List (Node × Node)) : Node :=
  match tag.bind (taggedKinds.lookup ·) with
  | none => withTag tag "map" (ofEntries entries)
  | some k => (defaultValue? entries).elim (.scalar .unknown []) (.scalar k)

/-! ## Building the tree -/

/-- What is left of the tokens, and the nodes with anchors so far. -/
structure Remaining where
  tokens : List Token
  anchors : List (Text × Node)

/-- A step in the building of the tree. -/
abbrev Build := StateT Remaining (Except ReadError)

namespace Build

/-- The next token. -/
def peek : Build (Option Token) := do
  return (← get).tokens.head?

/-- The next token is done with. -/
def skip : Build Unit :=
  modify fun s => { s with tokens := s.tokens.drop 1 }

/-- The next token is out of place, or it is none. -/
def fail {α : Type} : Build α := do
  match ← peek with
  | some (.broken e) => throw e
  | _ => throw .malformed

/-- The next token, which must be the given one, is done with. -/
def expect (t : Token) : Build Unit := do
  if (← peek) = some t then skip else fail

/-- A node gets an anchor, whose name must be new. -/
def declare (anchor : Option Text) (n : Node) : Build Unit :=
  match anchor with
  | none => return
  | some name => do
    let s ← get
    if s.anchors.any (·.1 == name) then throw .malformed
    set { s with anchors := (name, n) :: s.anchors }

/-- The node of an anchor is complete. -/
def complete (anchor : Option Text) (n : Node) : Build Node := do
  match anchor with
  | none => return n
  | some name =>
    modify fun s => { s with anchors := Datum.setField s.anchors name n }
    return n

/-- The anchor at the place, if there is one. -/
def takeAnchor : Build (Option Text) := do
  match ← peek with
  | some (.anchor name) =>
    skip
    return some name
  | _ => return none

/-- The full form of the tag at the place, if there is one. -/
def takeTag (handles : List (Text × Text)) : Build (Option Text) := do
  match ← peek with
  | some (.tag t) =>
    skip
    match t with
    | .verbatim tag => return some tag
    | .short handle rest =>
      match handles.lookup handle with
      | none => throw .malformed
      | some start => return some (start ++ rest)
  | _ => return none

/-- An anchor and a tag in either order, both of which may be missing. -/
def takeProperties (handles : List (Text × Text)) : Build (Option Text × Option Text) := do
  match ← takeAnchor with
  | some anchor => return (some anchor, ← takeTag handles)
  | none =>
    let tag ← takeTag handles
    return (← takeAnchor, tag)

/-- The node of an alias. -/
def resolve (name : Text) : Build Node := do
  match (← get).anchors.lookup name with
  | some n => return n
  | none => throw .malformed

/-- A node that has just been read, with its anchor. -/
def finish (anchor : Option Text) (n : Node) : Build Node := do
  declare anchor n
  return n

end Build

open Build in
mutual

/-- The node at the place. Blocks are read only where they may stand, and a sequence without
indentation only as the key or the value of a block mapping. -/
def build (handles : List (Text × Text)) (inBlock inMapping : Bool) : (rounds : Nat) → Build Node
  | 0 => fail
  | n + 1 => do
    if let some (.alias name) ← peek then
      skip
      return ← resolve name
    let (anchor, tag) ← takeProperties handles
    match ← peek with
    | some (.scalar value plain) =>
      skip
      finish anchor (.scalar (kindOf tag value plain) value)
    | some .flowSequenceStart =>
      skip
      declare anchor (.enclosing false)
      let items ← buildFlowItems handles true n
      complete anchor (withTag tag "seq" (.sequence items))
    | some .flowMappingStart =>
      skip
      declare anchor (.enclosing true)
      let entries ← buildFlowEntries handles true n
      complete anchor (ofTaggedEntries tag entries)
    | next =>
      if next = some .blockEntry ∧ inMapping then
        declare anchor (.enclosing false)
        let items ← buildPlainItems handles n
        complete anchor (withTag tag "seq" (.sequence items))
      else if next = some .blockSequenceStart ∧ inBlock then
        skip
        declare anchor (.enclosing false)
        let items ← buildBlockItems handles n
        complete anchor (withTag tag "seq" (.sequence items))
      else if next = some .blockMappingStart ∧ inBlock then
        skip
        declare anchor (.enclosing true)
        let entries ← buildBlockEntries handles n
        complete anchor (ofTaggedEntries tag entries)
      else
        match next with
        | some (.broken e) => throw e
        | _ =>
          if anchor.isNone && tag.isNone then fail
          else finish anchor (.scalar (kindOf tag [] tag.isNone) [])

/-- The node at the place, which is missing if one of the given tokens comes next. -/
def buildUnless (handles : List (Text × Text)) (ends : List Token) (inBlock inMapping : Bool) :
    (rounds : Nat) → Build Node
  | 0 => fail
  | n + 1 => do
    if (← peek).any ends.contains then return empty
    else build handles inBlock inMapping n

/-- The items of a block sequence. -/
def buildBlockItems (handles : List (Text × Text)) : (rounds : Nat) → Build (List Node)
  | 0 => fail
  | n + 1 => do
    if (← peek) = some .blockEntry then
      skip
      let item ← buildUnless handles [.blockEntry, .blockEnd] true false n
      return item :: (← buildBlockItems handles n)
    else
      expect .blockEnd
      return []

/-- The items of a sequence that is not indented more than the mapping around it. -/
def buildPlainItems (handles : List (Text × Text)) : (rounds : Nat) → Build (List Node)
  | 0 => fail
  | n + 1 => do
    if (← peek) = some .blockEntry then
      skip
      let item ← buildUnless handles [.blockEntry, .key, .value, .blockEnd] true false n
      return item :: (← buildPlainItems handles n)
    else return []

/-- The entries of a block mapping. -/
def buildBlockEntries (handles : List (Text × Text)) : (rounds : Nat) → Build (List (Node × Node))
  | 0 => fail
  | n + 1 => do
    if (← peek) = some .key then
      skip
      let entry ← buildEntry handles [.key, .value, .blockEnd] true n
      return entry :: (← buildBlockEntries handles n)
    else
      expect .blockEnd
      return []

/-- A key whose mark has been read, and the value that may follow it. -/
def buildEntry (handles : List (Text × Text)) (ends : List Token) (inBlock : Bool) :
    (rounds : Nat) → Build (Node × Node)
  | 0 => fail
  | n + 1 => do
    let key ← buildUnless handles ends inBlock inBlock n
    if (← peek) = some .value then
      skip
      return (key, ← buildUnless handles (ends.filter fun t => inBlock || t != .value) inBlock inBlock n)
    else return (key, empty)

/-- The items of a sequence in brackets. A key mark starts a mapping of one entry. -/
def buildFlowItems (handles : List (Text × Text)) (first : Bool) : (rounds : Nat) → Build (List Node)
  | 0 => fail
  | n + 1 => do
    if (← peek) = some .flowSequenceEnd then
      skip
      return []
    unless first do expect .flowEntry
    if (← peek) = some .key then
      skip
      let entry ← buildEntry handles [.value, .flowEntry, .flowSequenceEnd] false n
      return ofEntries [entry] :: (← buildFlowItems handles false n)
    else if (← peek) = some .flowSequenceEnd then
      skip
      return []
    else
      let item ← build handles false false n
      return item :: (← buildFlowItems handles false n)

/-- The entries of a mapping in braces. A node without a key mark is a key without a value. -/
def buildFlowEntries (handles : List (Text × Text)) (first : Bool) :
    (rounds : Nat) → Build (List (Node × Node))
  | 0 => fail
  | n + 1 => do
    if (← peek) = some .flowMappingEnd then
      skip
      return []
    unless first do expect .flowEntry
    if (← peek) = some .key then
      skip
      let entry ← buildEntry handles [.value, .flowEntry, .flowMappingEnd] false n
      return entry :: (← buildFlowEntries handles false n)
    else if (← peek) = some .flowMappingEnd then
      skip
      return []
    else
      let key ← build handles false false n
      return (key, empty) :: (← buildFlowEntries handles false n)

end

/-! ## Documents -/

/-- The directives at the start of a document: whether the version was given, and the handles of
tags. -/
def takeDirectives (version : Bool) (handles : List (Text × Text)) :
    List Token → Except ReadError (List (Text × Text) × List Token)
  | .version major _ :: rest =>
    if version || major != 1 then .error .malformed else takeDirectives true handles rest
  | .tagHandle handle tag :: rest =>
    if handles.any (·.1 == handle) then .error .malformed
    else takeDirectives version ((handle, tag) :: handles) rest
  | .otherDirective :: rest => takeDirectives version handles rest
  | tokens => .ok (handles, tokens)

/-- Whether a token stands outside the content of documents. -/
def isOutside : Token → Bool
  | .version _ _ | .tagHandle _ _ | .otherDirective | .documentStart | .documentEnd => true
  | _ => false

/-- The content of a document. -/
def buildContent (handles : List (Text × Text)) (tokens : List Token) :
    Except ReadError (Node × List Token) := do
  let (n, s) ← (build (handles ++ standardHandles) true false (3 * tokens.length + 3)).run ⟨tokens, []⟩
  return (n, s.tokens)

/-- The content of a document with a mark at its start. -/
def buildExplicit (tokens : List Token) : Except ReadError (Node × List Token) := do
  let (handles, rest) ← takeDirectives false [] tokens
  match rest with
  | .documentStart :: content =>
    if content.head?.all isOutside then return (empty, content)
    else buildContent handles content
  | .broken e :: _ => throw e
  | _ => throw .malformed

/-- The tree that tokens describe: nothing for an empty text. There may be one document only. -/
def ofTokens? (tokens : List Token) : Except ReadError Node := do
  let first := tokens.head?
  if first.isNone then return empty
  let (n, rest) ←
    if first.any fun t => isOutside t && t != .documentEnd then buildExplicit tokens
    else buildContent [] tokens
  match rest.dropWhile (· == .documentEnd) with
  | [] => return n
  | .broken e :: _ => throw e
  | _ => throw .malformed

/-! ## What has no meaning -/

/-- Two lists of levels put together level by level. -/
def joinLevels {α : Type} : List (List α) → List (List α) → List (List α)
  | a :: as, b :: bs => (a ++ b) :: joinLevels as bs
  | [], bs => bs
  | as, [] => as

/-- Whether a node may not be a key, because it is a collection. -/
def isCollection : Node → Bool
  | .scalar _ _ => false
  | _ => true

mutual

/-- The faults of a tree, by their depth. -/
def faults : Node → List (List ReadError)
  | .scalar k t => [(Scalar.fault? k t).toList]
  | .sequence items => [] :: itemFaults items
  | .mapping entries => [] :: entryFaults entries
  | .badMerge => [[], [.malformed]]
  | .enclosing _ => []

/-- The faults of items, by their depth. -/
def itemFaults : List Node → List (List ReadError)
  | [] => []
  | n :: rest => joinLevels (faults n) (itemFaults rest)

/-- The faults of entries, by their depth. The mark of a default value is none as a key. -/
def entryFaults : List (Node × Node) → List (List ReadError)
  | [] => []
  | (k, v) :: rest =>
    let keyFaults :=
      if k.isCollection then [[.malformed]] else if k.isDefaultMark then [] else faults k
    joinLevels keyFaults (joinLevels (faults v) (entryFaults rest))

end

/-- What has no meaning in a tree: of several faults the one that is least deep, and of those the
first. -/
def fault? (n : Node) : Option ReadError :=
  n.faults.flatten.head?

/-! ## Texts -/

/-- The value of a text. -/
def text? : Node → Option RawText
  | .scalar .text t => some t
  | _ => none

/-- The text that a key is: the mark of a default value is one there. -/
def keyText? : Node → Option RawText
  | .scalar .default t => some t
  | n => n.text?

/-- The nodes that a mapping has under texts, if all its keys are texts. Of two nodes with one key
the later one counts, whatever the first one is. -/
def fields? : Node → Option (List (RawText × Node))
  | .mapping entries => do
    let named ← entries.mapM fun e => e.1.keyText?.map (·, e.2)
    return named.foldl (fun all p => Datum.setField all p.1 p.2) []
  | _ => none

/-- The texts that a mapping has under texts, if it has nothing else. -/
def texts? (n : Node) : Option (List (RawText × RawText)) := do
  (← n.fields?).mapM fun field => field.2.text?.map (field.1, ·)

/-- The tree of a text, if all in it has a meaning. -/
def read (room : Nat) (s : Source) : Except ReadError Node := do
  let n ← ofTokens? (Token.ofSource room s)
  match n.fault? with
  | none => return n
  | some e => throw e

end Node

end Disassembly.Yaml
