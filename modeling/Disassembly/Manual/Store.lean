import Disassembly.Datum.Basic
import Disassembly.Html.CharacterReference
import Disassembly.Manual.Family
import Disassembly.Manual.Section
import Disassembly.Opcode

/-!
# Stores of descriptions

A store holds sections of the manual under their titles. Loading a document adds its sections; a
section replaces the one that was stored under the same title. A document in which the title of any
section cannot be read adds nothing. Beside the sections the store keeps
the families among the titles, those with the longer literal parts first.

`Store.lookup` finds the section for a mnemonic: the one with that very title, else the one of the
first family that covers the mnemonic.
-/

set_option autoImplicit false

namespace Disassembly.Manual

/-- Sections under their titles, in the order in which the titles arrived, and the families among
the titles. -/
structure Store where
  sections : List (Text × Text)
  families : List Family

/-- What happens while a document is loaded. -/
inductive LoadEvent where
  /-- The document is empty. -/
  | emptyDocument
  /-- No section of the document has a title. -/
  | noSections
  /-- A family title has nothing before its bracket and would cover every mnemonic. -/
  | familyWithoutStem (title : Text)
  /-- A mnemonic may belong to both families. -/
  | overlap (title other : Text)
  | loaded (count total families : Nat)
  deriving DecidableEq

/-- The outcome of loading a document: the number of sections that were added, the store, and what
happened. -/
structure Loading where
  count : Nat
  store : Store
  events : List LoadEvent

namespace Store

/-- The store without sections. -/
def empty : Store := ⟨[], []⟩

/-- The sections of a document under their titles, in their order, if all titles can be read. -/
def titledSections (document : Text) : Except Html.OverlongReference (List (Text × Text)) :=
  (titled document).mapM fun entry => (Html.unescape entry.1).map (·, entry.2)

/-- The families among titles, in their order. -/
def familiesOf (titles : List Text) : List Family :=
  titles.filterMap Family.ofTitle?

/-- The store to which sections have been added under their titles. -/
def addSections (s : Store) (added : List (Text × Text)) : Loading :=
  if added.isEmpty then ⟨0, s, [.noSections]⟩
  else
    let sections := added.foldl (fun all entry => Datum.setField all entry.1 entry.2) s.sections
    let families := familiesOf (sections.map Prod.fst)
    let bare := families.filter (·.stem.isEmpty)
    let ordered := Family.longestFirst (families.filter (!·.stem.isEmpty))
    ⟨added.length, ⟨sections, ordered⟩,
      bare.map (.familyWithoutStem ·.title) ++
        (Family.overlaps ordered).map (fun pair => .overlap pair.1.title pair.2.title) ++
        [.loaded added.length sections.length ordered.length]⟩

/-- The store in which a document has been loaded. -/
def load (s : Store) (document : Text) : Except Html.OverlongReference Loading :=
  if document.isEmpty then .ok ⟨0, s, [.emptyDocument]⟩
  else (titledSections document).map s.addSections

/-- The section that is stored under a title. -/
def get? (s : Store) (title : Text) : Option Text :=
  s.sections.lookup title

/-- The section that describes a mnemonic. -/
def lookup (s : Store) (mnemonic : Text) : Option Text :=
  match s.get? mnemonic with
  | some description => some description
  | none => (s.families.find? (·.covers mnemonic)).bind fun family => s.get? family.title

/-- The number of sections. -/
def size (s : Store) : Nat :=
  s.sections.length

/-- Whether any section is stored. -/
def isLoaded (s : Store) : Bool :=
  !s.sections.isEmpty

/-- Whether a section is stored under the title. -/
def contains (s : Store) (title : Text) : Bool :=
  s.sections.any (·.1 == title)

end Store

end Disassembly.Manual
