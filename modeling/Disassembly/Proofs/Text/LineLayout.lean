import Disassembly.Proofs.Text.Line
import Mathlib.Tactic

/-!
# Lines with their endings

A `LineLayout` is a text as it is laid out in lines: complete lines, each with the ending that it
has, and the piece behind the last ending. The lines of the text are the complete ones, and the last
piece if there is anything in it; each line feed ends one of them, and nothing else does. Every text
has exactly one layout (`lines_layout`), so no other reading of its endings is left: a carriage
return without a line feed behind it, a form feed or a line separator is part of a line.
-/

set_option autoImplicit false

namespace Disassembly.Text

/-! ## Layouts -/

/-- What ends a line. -/
inductive LineEnding where
  | feed
  | returnFeed
  deriving DecidableEq

/-- The characters of an ending. -/
def LineEnding.text : LineEnding → Text
  | feed => ['\n']
  | returnFeed => ['\r', '\n']

/-- A complete line. A carriage return in front of a line feed belongs to the ending, so a line that
ends with a line feed alone has none at its end. -/
structure EndedLine where
  line : Text
  ending : LineEnding
  noFeed : '\n' ∉ line
  noReturn : ending = .feed → line.getLast? ≠ some '\r'

/-- The characters of a complete line, its ending included. -/
def EndedLine.text (l : EndedLine) : Text :=
  l.line ++ l.ending.text

/-- Complete lines and the piece behind the last of them. -/
structure LineLayout where
  ended : List EndedLine
  last : Text
  noFeed : '\n' ∉ last

namespace LineLayout

/-- The text that is laid out. -/
def text (d : LineLayout) : Text :=
  d.ended.flatMap EndedLine.text ++ d.last

/-- The lines of the layout: a last piece without characters is none. -/
def lines (d : LineLayout) : List Text :=
  d.ended.map EndedLine.line ++ if d.last = [] then [] else [d.last]

/-- The layout with one more complete line in front. -/
def cons (l : EndedLine) (d : LineLayout) : LineLayout :=
  ⟨l :: d.ended, d.last, d.noFeed⟩

theorem text_cons (l : EndedLine) (d : LineLayout) : (d.cons l).text = l.text ++ d.text := by
  simp [text, cons]

end LineLayout

/-! ## The lines of a layout -/

/-- A complete line is a piece of its own. -/
theorem linePieces_endedLine (l : EndedLine) (rest : Text) :
    linePieces (l.text ++ rest) = l.line :: linePieces rest := by
  obtain ⟨line, ending, hfeed, hreturn⟩ := l
  cases ending with
  | feed =>
    have h := linePieces_append_lineFeed ⟨hfeed, hreturn rfl⟩ rest
    simpa [EndedLine.text, LineEnding.text] using h
  | returnFeed =>
    have h := linePieces_append_return hfeed rest
    simpa [EndedLine.text, LineEnding.text] using h

theorem linePieces_text (d : LineLayout) :
    linePieces d.text = d.ended.map EndedLine.line ++ [d.last] := by
  obtain ⟨ended, last, hlast⟩ := d
  induction ended with
  | nil => exact linePieces_eq_singleton hlast
  | cons l ended ih =>
    have hcons := LineLayout.text_cons l ⟨ended, last, hlast⟩
    rw [LineLayout.cons] at hcons
    rw [hcons, linePieces_endedLine, ih]
    simp

/-- The lines of a text are those of its layout. -/
theorem lines_text (d : LineLayout) : lines d.text = d.lines := by
  rw [lines, linePieces_text]
  by_cases hlast : d.last = []
  · simp [LineLayout.lines, hlast]
  · simp [LineLayout.lines, hlast]

/-- A complete line has one line feed. -/
theorem EndedLine.count_text (l : EndedLine) : l.text.count '\n' = 1 := by
  have hline : l.line.count '\n' = 0 := List.count_eq_zero.2 l.noFeed
  rw [EndedLine.text, List.count_append, hline]
  cases l.ending <;> rfl

/-- Each line feed of a text ends a line. -/
theorem LineLayout.length_ended (d : LineLayout) : d.ended.length = d.text.count '\n' := by
  obtain ⟨ended, last, hlast⟩ := d
  induction ended with
  | nil => exact (List.count_eq_zero.2 hlast).symm
  | cons l ended ih =>
    have hcons := text_cons l ⟨ended, last, hlast⟩
    rw [cons] at hcons
    rw [hcons, List.count_append, l.count_text, ← ih, List.length_cons, Nat.add_comm]

/-! ## Every text has one layout -/

/-- A piece in front of a line feed is a complete line, whose ending takes a carriage return from
the end of the piece. -/
theorem EndedLine.exists_text_eq {piece : Text} (h : '\n' ∉ piece) :
    ∃ l : EndedLine, l.text = piece ++ ['\n'] := by
  by_cases hlast : piece.getLast? = some '\r'
  · have hfeed : '\n' ∉ piece.dropLast := fun hmem => h (List.dropLast_subset piece hmem)
    refine ⟨⟨piece.dropLast, .returnFeed, hfeed, nofun⟩, ?_⟩
    conv_rhs => rw [← List.dropLast_append_getLast? '\r' hlast]
    simp [text, LineEnding.text]
  · exact ⟨⟨piece, .feed, h, fun _ => hlast⟩, rfl⟩

namespace LineLayout

theorem exists_text_eq (t : Text) : ∃ d : LineLayout, d.text = t := by
  -- the first line feed ends the first line, and the text behind it is shorter
  induction hn : t.length using Nat.strong_induction_on generalizing t with
  | h n ih =>
    by_cases hmem : '\n' ∈ t
    · obtain ⟨piece, rest, rfl, hpiece⟩ := List.eq_append_cons_of_mem hmem
      have hlt : rest.length < n := by
        rw [← hn, List.length_append, List.length_cons]
        omega
      obtain ⟨d, hd⟩ := ih rest.length hlt rest rfl
      obtain ⟨l, hl⟩ := EndedLine.exists_text_eq hpiece
      refine ⟨d.cons l, ?_⟩
      rw [text_cons, hd, hl]
      simp
    · exact ⟨⟨[], t, hmem⟩, rfl⟩

/-- Complete lines with the same characters in front of their endings have the same ending, if the
texts go on alike. -/
theorem eq_of_line_eq {l l' : EndedLine} {rest rest' : Text} (hline : l.line = l'.line)
    (h : l.text ++ rest = l'.text ++ rest') : l = l' ∧ rest = rest' := by
  obtain ⟨line, ending, hfeed, hreturn⟩ := l
  obtain ⟨line', ending', hfeed', hreturn'⟩ := l'
  obtain rfl : line = line' := hline
  rw [EndedLine.text, EndedLine.text, List.append_assoc, List.append_assoc] at h
  have hending := List.append_cancel_left h
  cases ending with
  | feed =>
    cases ending' with
    | feed => exact ⟨rfl, (List.cons.inj hending).2⟩
    | returnFeed => exact absurd (List.cons.inj hending).1 (by decide)
  | returnFeed =>
    cases ending' with
    | feed => exact absurd (List.cons.inj hending).1 (by decide)
    | returnFeed => exact ⟨rfl, (List.cons.inj (List.cons.inj hending).2).2⟩

theorem text_injective : Function.Injective text := by
  rintro ⟨ended, last, hlast⟩ ⟨ended', last', hlast'⟩ h
  -- the texts have the same pieces, so the lines agree one by one
  have hpieces := congrArg linePieces h
  rw [linePieces_text, linePieces_text] at hpieces
  obtain ⟨hlines, hlasts⟩ := List.append_inj' hpieces rfl
  obtain rfl : last = last' := (List.cons.inj hlasts).1
  induction ended generalizing ended' with
  | nil =>
    obtain rfl : ended' = [] := List.map_eq_nil_iff.1 hlines.symm
    rfl
  | cons l ended ih =>
    obtain ⟨l', rest, rfl, hline, hrest⟩ := List.map_eq_cons_iff.1 hlines.symm
    have htexts : l.text ++ text ⟨ended, last, hlast⟩ = l'.text ++ text ⟨rest, last, hlast'⟩ := by
      rw [← text_cons, ← text_cons]
      exact h
    obtain ⟨rfl, htail⟩ := eq_of_line_eq hline.symm htexts
    have hended := ih rest htail (by rw [← linePieces_text, ← linePieces_text, htail]) hrest.symm
    simpa using hended

end LineLayout

/-- A text is laid out in lines in exactly one way, and its lines are those of this layout. -/
theorem lines_layout : (∀ d : LineLayout, lines d.text = d.lines ∧
      d.ended.length = d.text.count '\n') ∧ ∀ t : Text, ∃! d : LineLayout, d.text = t := by
  refine ⟨fun d => ⟨lines_text d, d.length_ended⟩, fun t => ?_⟩
  obtain ⟨d, hd⟩ := LineLayout.exists_text_eq t
  exact ⟨d, hd, fun d' hd' => LineLayout.text_injective (hd'.trans hd.symm)⟩

example : lines "a\r\r\n\r\nb\rc\x0cd\u2028".toList =
    ["a\r".toList, [], "b\rc\x0cd\u2028".toList] := by decide

end Disassembly.Text
