import Disassembly.Text.Basic

/-!
# Sections of the manual

The chapter of the manual that describes the instructions is one document. The description of an
instruction starts with a fixed opening tag, the section marker, and reaches to the next marker or
to the end. The title of a section stands in the opening tag itself.
-/

set_option autoImplicit false

namespace Disassembly.Manual

open Text

/-- The opening tag of a section, as far as it is the same in all of them. -/
def marker : Text := "<div class=\"section-execution\"".toList

/-- What stands between the section marker and the title. -/
def titleOpening : Text := " title=\"".toList

/-- What stands behind the title. -/
def titleClosing : Text := "\"".toList

/-- The part of a text between the first place of one mark and the next place of another. -/
def between? (opening closing : Text) (t : Text) : Option Text :=
  (cut? opening t).bind fun outer => (cut? closing outer.2).map Prod.fst

/-- The parts into which the places of a mark divide a text, each from its mark on; `k` characters
of the current part belong to its mark. -/
def splitAtMark (mark : Text) : (k : Nat) → Text → Text × List Text
  | _, [] => ([], [])
  | k + 1, c :: r =>
    let parts := splitAtMark mark k r
    (c :: parts.1, parts.2)
  | 0, c :: r =>
    if mark.isPrefixOf (c :: r) then
      let parts := splitAtMark mark (mark.length - 1) r
      ([], (c :: parts.1) :: parts.2)
    else
      let parts := splitAtMark mark 0 r
      (c :: parts.1, parts.2)

/-- The sections of a document: from each marker up to the next one, or to the end. -/
def sections (document : Text) : List Text :=
  (splitAtMark marker 0 document).2

/-- The title of a section as the document shows it. -/
def rawTitle? (sect : Text) : Option Text :=
  between? (marker ++ titleOpening) titleClosing sect

/-- The sections of a document that have a title, each behind its title as the document shows it. -/
def titled (document : Text) : List (Text × Text) :=
  (sections document).filterMap fun s => (rawTitle? s).map (·, s)

end Disassembly.Manual
