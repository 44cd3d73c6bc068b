import Disassembly.Proofs.Instruction.Matching
import Mathlib.Tactic

/-!
# The grammar of a line

`Instruction.Answers` says what a line of a listing means without saying how it is read: a line is
divided into offset, mnemonic, operands and comment, where every run is as long as possible and at
most one blank character is dropped behind the mnemonic and behind the operands
(`LineParts.Divides`), and the answer depends on the parts alone. Every line has exactly one answer,
and reading the line finds it; the division is also the first matching that a search with second
choices finds (`Instruction.ofLine_eq_iff`).
-/

set_option autoImplicit false

namespace Disassembly

open Text

/-! ## The parts of a line -/

/-- A text that starts with a run of a class which is not continued. -/
structure LongestRun (p : Char → Bool) (t run rest : Text) : Prop where
  append : run ++ rest = t
  chars : ∀ c ∈ run, p c = true
  stop : ∀ c ∈ rest.head?, p c = false

/-- One blank character at the start of a text is dropped, if there is one. -/
inductive DropsBlank : Text → Text → Prop where
  | blank {c : Char} {r : Text} (hblank : isBlank c = true) : DropsBlank (c :: r) r
  | other {t : Text} (hother : ∀ c ∈ t.head?, isBlank c = false) : DropsBlank t t

/-- The comment at the start of a text: what stands between two slashes and the end of the line. -/
inductive HasComment : Text → Option Text → Prop where
  | present {r c rest : Text} (hline : LongestRun (· != '\n') r c rest) :
    HasComment ('/' :: '/' :: r) (some c)
  | absent {t : Text} (hslashes : ¬['/', '/'] <+: t) : HasComment t none

/-- A line starts like an instruction: behind blank characters stand digits, a colon, a blank
character and the first character of a mnemonic. -/
def StartsLikeInstruction (line : Text) : Prop :=
  ∃ (margin offset rest : Text) (gap c : Char),
    LongestRun isBlank line margin (offset ++ ':' :: gap :: c :: rest) ∧
      offset ≠ [] ∧ (∀ d ∈ offset, d.isDigit = true) ∧ isBlank gap = true ∧ isMnemonicChar c = true

/-- A line that starts like an instruction is divided into its parts. -/
inductive LineParts.Divides (line : Text) : LineParts → Prop where
  | intro {margin offset body mnemonic beforeOperands front operands behindOperands tail : Text}
    {gap : Char} {comment : Option Text}
    (hline : LongestRun isBlank line margin (offset ++ ':' :: gap :: body))
    (hoffset : offset ≠ []) (hdigits : ∀ c ∈ offset, c.isDigit = true)
    (hgap : isBlank gap = true)
    (hmnemonic : LongestRun isMnemonicChar body mnemonic beforeOperands) (hname : mnemonic ≠ [])
    (hbefore : DropsBlank beforeOperands front)
    (hoperands : LongestRun isOperandChar front operands behindOperands)
    (hafter : DropsBlank behindOperands tail)
    (hcomment : HasComment tail comment) : Divides line ⟨offset, mnemonic, operands, comment⟩

/-! ## The meaning of the parts -/

/-- There is nothing but blank characters in a text. -/
def Blank (t : Text) : Prop :=
  ∀ c ∈ t, isBlank c = true

/-- The operands that the operand part of a line shows; none if there is nothing between two commas
or beside one. -/
inductive ShowsOperands (t : Text) : Option (List Operand) → Prop where
  | blank (hblank : Blank t) : ShowsOperands t (some [])
  | missing {piece : Text} (hshown : ¬Blank t) (hpiece : piece ∈ (trim t).splitOn ',')
    (hblank : Blank piece) : ShowsOperands t none
  | pieces (hshown : ¬Blank t) (hpieces : ∀ piece ∈ (trim t).splitOn ',', ¬Blank piece) :
    ShowsOperands t (some (((trim t).splitOn ',').map fun piece => Operand.ofToken (trim piece)))

/-- What the comment part of a line says: nothing if it is missing or blank. -/
inductive ShowsComment : Option Text → Option Text → Prop where
  | missing : ShowsComment none none
  | blank {c : Text} (hblank : Blank c) : ShowsComment (some c) none
  | text {c : Text} (hshown : ¬Blank c) : ShowsComment (some c) (some (trim c))

/-- What a line of a listing means. -/
inductive Instruction.Answers (line : Text) : LineReading → Prop where
  | unparseable (hstart : ¬StartsLikeInstruction line) : Answers line (.skipped .unparseable)
  | unknownMnemonic {parts : LineParts} (hparts : parts.Divides line)
    (hunknown : ∀ o : Opcode, o.mnemonic ≠ parts.mnemonic) :
    Answers line (.skipped .unknownMnemonic)
  | emptyOperand {parts : LineParts} {o : Opcode} (hparts : parts.Divides line)
    (hknown : o.mnemonic = parts.mnemonic) (hoperands : ShowsOperands parts.operands none) :
    Answers line (.skipped .emptyOperand)
  | decoded {parts : LineParts} {o : Opcode} {operands : List Operand} {comment : Option Text}
    (hparts : parts.Divides line) (hknown : o.mnemonic = parts.mnemonic)
    (hoperands : ShowsOperands parts.operands (some operands))
    (hcomment : ShowsComment parts.comment comment)
    (hoffset : parts.offset.length ≤ Numeral.maxDigits) :
    Answers line (.decoded ⟨offsetValue parts.offset, o, operands, comment⟩)
  | overlongOffset {parts : LineParts} {o : Opcode} {operands : List Operand}
    (hparts : parts.Divides line) (hknown : o.mnemonic = parts.mnemonic)
    (hoperands : ShowsOperands parts.operands (some operands))
    (hoffset : Numeral.maxDigits < parts.offset.length) :
    Answers line (.overlongOffset parts.offset.length)

/-! ## Finding the parts -/

theorem longestRun_iff {p : Char → Bool} {t run rest : Text} :
    LongestRun p t run rest ↔ run = t.takeWhile p ∧ rest = t.dropWhile p := by
  constructor
  · rintro ⟨rfl, hchars, hstop⟩
    exact ⟨(takeWhile_run hchars hstop).symm, (dropWhile_run hchars hstop).symm⟩
  · rintro ⟨rfl, rfl⟩
    exact ⟨List.takeWhile_append_dropWhile, fun c hc => List.mem_takeWhile_imp hc,
      head?_dropWhile t⟩

theorem dropsBlank_iff {t u : Text} : DropsBlank t u ↔ u = LineParts.skipBlank t := by
  constructor
  · rintro (hblank | hother)
    · rw [LineParts.skipBlank, if_pos hblank]
    · cases t with
      | nil => rfl
      | cons c r => simp [LineParts.skipBlank, hother c rfl]
  · rintro rfl
    cases t with
    | nil => exact .other (by simp)
    | cons c r =>
      by_cases hc : isBlank c = true
      · rw [LineParts.skipBlank, if_pos hc]
        exact .blank hc
      · rw [LineParts.skipBlank, if_neg hc]
        exact .other (by simpa using hc)

theorem hasComment_iff {t : Text} {comment : Option Text} :
    HasComment t comment ↔ comment = LineParts.commentAt? t := by
  constructor
  · rintro (hline | hslashes)
    · rw [LineParts.commentAt?, (longestRun_iff.1 hline).1]
    · rw [LineParts.commentAt?.eq_def]
      split
      next r => exact absurd (List.prefix_append ['/', '/'] r) hslashes
      next => rfl
  · rintro rfl
    rw [LineParts.commentAt?.eq_def]
    split
    next r => exact .present (longestRun_iff.2 ⟨rfl, rfl⟩)
    next hnone =>
      refine .absent fun h => ?_
      obtain ⟨r, rfl⟩ := h
      exact hnone r rfl

theorem head?_colon (t : Text) : ∀ c ∈ (':' :: t).head?, c.isDigit = false := by
  rintro c ⟨⟩
  decide

/-- A line is divided in the way in which it is read. -/
theorem LineParts.divides_iff {line : Text} {parts : LineParts} :
    parts.Divides line ↔ ofLine? line = some parts := by
  constructor
  · rintro ⟨hline, hoffset, hdigits, hgap, hmnemonic, hname, hbefore, hoperands, hafter, hcomment⟩
    -- from left to right, every part is the one that is read
    obtain ⟨rfl, rfl⟩ := longestRun_iff.1 hmnemonic
    obtain rfl := dropsBlank_iff.1 hbefore
    obtain ⟨rfl, rfl⟩ := longestRun_iff.1 hoperands
    obtain rfl := dropsBlank_iff.1 hafter
    obtain rfl := hasComment_iff.1 hcomment
    rw [ofLine?, trimLeft, ← (longestRun_iff.1 hline).2]
    simp only [takeWhile_run hdigits (head?_colon _), dropWhile_run hdigits (head?_colon _), hgap,
      List.isEmpty_eq_false_iff.2 hoffset, Bool.not_true, Bool.or_self, Bool.false_eq_true,
      if_false, afterOffset?, List.isEmpty_eq_false_iff.2 hname]
  · intro h
    rw [ofLine?] at h
    split at h
    next gap body hrest =>
      split at h
      next => cases h
      next hstart =>
        rw [Bool.or_eq_true, not_or, List.isEmpty_iff, Bool.not_eq_true', Bool.not_eq_false]
          at hstart
        rw [afterOffset?] at h
        split at h
        next => cases h
        next hname =>
          obtain rfl := Option.some.inj h
          have hsplit : (trimLeft line).takeWhile Char.isDigit ++ ':' :: gap :: body =
              trimLeft line := by
            rw [← hrest, List.takeWhile_append_dropWhile]
          exact .intro (longestRun_iff.2 ⟨rfl, hsplit⟩) hstart.1
            (fun c hc => List.mem_takeWhile_imp hc) hstart.2 (longestRun_iff.2 ⟨rfl, rfl⟩)
            (by simpa using hname) (dropsBlank_iff.2 rfl) (longestRun_iff.2 ⟨rfl, rfl⟩)
            (dropsBlank_iff.2 rfl) (hasComment_iff.2 rfl)
    next => cases h

/-- The lines that are divided into parts are those that start like an instruction. -/
theorem startsLikeInstruction_iff {line : Text} :
    StartsLikeInstruction line ↔ ∃ parts : LineParts, parts.Divides line := by
  constructor
  · rintro ⟨margin, offset, rest, gap, c, hline, hoffset, hdigits, hgap, hc⟩
    have hname : (c :: rest).takeWhile isMnemonicChar ≠ [] := by
      rw [List.takeWhile_cons_of_pos hc]
      exact List.cons_ne_nil _ _
    exact ⟨_, .intro hline hoffset hdigits hgap (longestRun_iff.2 ⟨rfl, rfl⟩) hname
      (dropsBlank_iff.2 rfl) (longestRun_iff.2 ⟨rfl, rfl⟩) (dropsBlank_iff.2 rfl)
      (hasComment_iff.2 rfl)⟩
  · rintro ⟨parts, hline, hoffset, hdigits, hgap, hmnemonic, hname, -, -, -, -⟩
    obtain ⟨c, r, rfl⟩ := List.exists_cons_of_ne_nil hname
    have hbody := hmnemonic.append
    rw [List.cons_append] at hbody
    exact ⟨_, _, _, _, c, hbody ▸ hline, hoffset, hdigits, hgap,
      hmnemonic.chars c List.mem_cons_self⟩

/-! ## Reading the parts -/

theorem showsOperands_iff {parts : LineParts} {operands : Option (List Operand)} :
    ShowsOperands parts.operands operands ↔ parts.operands? = operands := by
  have hany : ((trim parts.operands).splitOn ',').any (fun piece => (trim piece).isEmpty) = true ↔
      ∃ piece ∈ (trim parts.operands).splitOn ',', Blank piece := by
    simp only [List.any_eq_true, List.isEmpty_iff, trim_eq_nil_iff, Blank]
  have hread : ¬Blank parts.operands → parts.operands? =
      if ((trim parts.operands).splitOn ',').any (fun piece => (trim piece).isEmpty) then none
      else some (((trim parts.operands).splitOn ',').map fun piece =>
        Operand.ofToken (trim piece)) := by
    intro hshown
    have hne : (trim parts.operands).isEmpty = false :=
      List.isEmpty_eq_false_iff.2 fun h => hshown (trim_eq_nil_iff.1 h)
    simp only [LineParts.operands?, hne, Bool.false_eq_true, if_false, List.any_map, List.map_map]
    rfl
  constructor
  · rintro (hblank | ⟨hshown, hpiece, hblank⟩ | ⟨hshown, hpieces⟩)
    · simp only [LineParts.operands?, trim_eq_nil_iff.2 hblank, List.isEmpty_nil, if_true]
    · rw [hread hshown, if_pos (hany.2 ⟨_, hpiece, hblank⟩)]
    · rw [hread hshown, if_neg fun h => ?_]
      obtain ⟨piece, hpiece, hblank⟩ := hany.1 h
      exact hpieces piece hpiece hblank
  · rintro rfl
    by_cases hblank : Blank parts.operands
    · simp only [LineParts.operands?, trim_eq_nil_iff.2 hblank, List.isEmpty_nil, if_true]
      exact .blank hblank
    · rw [hread hblank]
      split
      next h =>
        obtain ⟨piece, hpiece, hempty⟩ := hany.1 h
        exact .missing hblank hpiece hempty
      next h => exact .pieces hblank fun piece hpiece hempty => h (hany.2 ⟨piece, hpiece, hempty⟩)

theorem showsComment_iff {parts : LineParts} {comment : Option Text} :
    ShowsComment parts.comment comment ↔ parts.comment? = comment := by
  have hempty : ∀ c : Text, (trim c).isEmpty = true ↔ Blank c := fun c => by
    rw [List.isEmpty_iff, trim_eq_nil_iff, Blank]
  rw [LineParts.comment?]
  constructor
  · intro h
    cases hcomment : parts.comment with
    | none =>
      rw [hcomment] at h
      cases h
      rfl
    | some c =>
      rw [hcomment] at h
      cases h with
      | blank hblank => exact if_pos ((hempty c).2 hblank)
      | text hshown => exact if_neg fun h => hshown ((hempty c).1 h)
  · rintro rfl
    cases hcomment : parts.comment with
    | none => exact .missing
    | some c =>
      rw [Option.bind_some]
      split
      next hblank => exact .blank ((hempty c).1 hblank)
      next hshown => exact .text fun h => hshown ((hempty c).2 h)

theorem Opcode.ofMnemonic?_eq_none_iff {m : Text} :
    ofMnemonic? m = none ↔ ∀ o : Opcode, o.mnemonic ≠ m := by
  constructor
  · rintro h o rfl
    rw [ofMnemonic?_mnemonic] at h
    cases h
  · intro h
    cases hfound : ofMnemonic? m with
    | none => rfl
    | some o => exact absurd (mnemonic_of_ofMnemonic? hfound) (h o)

/-- What a line means is what is read from it. -/
theorem Instruction.answers_ofLine (line : Text) : Answers line (ofLine line) := by
  rw [ofLine]
  -- each way through the reading ends at one of the answers
  cases hparts : LineParts.ofLine? line with
  | none =>
    refine .unparseable fun hstart => ?_
    obtain ⟨parts, h⟩ := startsLikeInstruction_iff.1 hstart
    rw [LineParts.divides_iff.1 h] at hparts
    cases hparts
  | some parts =>
    have hdivides := LineParts.divides_iff.2 hparts
    cases hopcode : Opcode.ofMnemonic? parts.mnemonic with
    | none =>
      simp only [hopcode]
      exact .unknownMnemonic hdivides (Opcode.ofMnemonic?_eq_none_iff.1 hopcode)
    | some o =>
      have hknown := Opcode.mnemonic_of_ofMnemonic? hopcode
      cases hoperands : parts.operands? with
      | none =>
        simp only [hopcode, hoperands]
        exact .emptyOperand hdivides hknown (showsOperands_iff.2 hoperands)
      | some operands =>
        have hshows := showsOperands_iff.2 hoperands
        simp only [hopcode, hoperands]
        split
        next hlength => exact .decoded hdivides hknown hshows (showsComment_iff.2 rfl) hlength
        next hlength => exact .overlongOffset hdivides hknown hshows (Nat.lt_of_not_le hlength)

/-- A line has no other meaning. -/
theorem Instruction.ofLine_of_answers {line : Text} {reading : LineReading}
    (h : Answers line reading) : ofLine line = reading := by
  cases h with
  | unparseable hstart =>
    have hnone : LineParts.ofLine? line = none := by
      rw [Option.eq_none_iff_forall_ne_some]
      exact fun parts hparts =>
        hstart (startsLikeInstruction_iff.2 ⟨parts, LineParts.divides_iff.2 hparts⟩)
    rw [ofLine, hnone]
  | unknownMnemonic hparts hunknown =>
    simp only [ofLine, LineParts.divides_iff.1 hparts, Opcode.ofMnemonic?_eq_none_iff.2 hunknown]
  | emptyOperand hparts hknown hoperands =>
    simp only [ofLine, LineParts.divides_iff.1 hparts, ← hknown, Opcode.ofMnemonic?_mnemonic,
      showsOperands_iff.1 hoperands]
  | decoded hparts hknown hoperands hcomment hoffset =>
    simp only [ofLine, LineParts.divides_iff.1 hparts, ← hknown, Opcode.ofMnemonic?_mnemonic,
      showsOperands_iff.1 hoperands, showsComment_iff.1 hcomment, hoffset, if_true]
  | overlongOffset hparts hknown hoperands hoffset =>
    simp only [ofLine, LineParts.divides_iff.1 hparts, ← hknown, Opcode.ofMnemonic?_mnemonic,
      showsOperands_iff.1 hoperands, Nat.not_le.2 hoffset, if_false]

/-- Every line has exactly one answer, the one that reading it gives; and it is divided in the way
that a search with second choices finds first. -/
theorem Instruction.ofLine_eq_iff (line : Text) :
    (∀ parts, (LineParts.matchings (trimLeft line)).head? = some parts ↔
        LineParts.Divides line parts) ∧
      ∀ reading, ofLine line = reading ↔ Answers line reading := by
  refine ⟨fun parts => ?_, fun reading => ⟨?_, ofLine_of_answers⟩⟩
  · rw [LineParts.head?_matchings, LineParts.divides_iff]
  · rintro rfl
    exact answers_ofLine line

end Disassembly
