import Disassembly.Yaml.Token
import Disassembly.Proofs.Yaml.Cursor
import Mathlib.Tactic

/-!
# Tokens of texts that break off

Every token takes at least one character (`Lexer.precedes_takeToken`), so a text is cut into tokens
up to its end or up to an error (`Lexer.yields_progress`). Where an error stands behind the text,
the tokens always end by saying why (`Token.endsBroken_ofSource`).
-/

set_option autoImplicit false

namespace Disassembly.Yaml

namespace Lexer

open Cursor

variable {l : Lexer} {c : Cursor}

/-! ## Anchors, aliases and tags -/

theorem precedes_takeName (c : Cursor) : Yields (takeName c) fun r => c.next.Precedes r.2 := by
  rw [takeName]
  simp only
  split
  next => exact .error _ _
  next => exact .ok (precedes_take c.next isNameChar)

theorem precedes_takeTagRest (n : Nat) (c : Cursor) :
    Yields (takeTagRest n c) fun r => c.Precedes r.2 := by
  induction n generalizing c with
  | zero => exact .ok (.refl c)
  | succ n ih =>
    have htake := precedes_take c isTagChar
    rw [takeTagRest]
    simp only
    split
    next =>
      split
      next => exact .error _ _
      next =>
        refine .checked fun _ => ?_
        refine (ih _).bind fun r hr => .ok ?_
        exact htake.trans ((precedes_advance _ _).trans hr)
    next => exact .ok htake

theorem precedes_takeTagText (c : Cursor) : Yields (takeTagText c) fun r => c.Precedes r.2 := by
  rw [takeTagText]
  exact (precedes_takeTagRest _ c).bind fun r hr => .checked fun _ => .ok hr

theorem precedes_takeHandle (c : Cursor) : Yields (takeHandle c) fun r => c.next.Precedes r.2 := by
  have htake := precedes_take c.next isNameChar
  rw [takeHandle]
  simp only
  split
  next => exact .ok (htake.trans (precedes_next _))
  next =>
    split
    next => exact .ok htake
    next => exact .error _ _

theorem precedes_takeTag (c : Cursor) : Yields (takeTag c) fun r => c.next.Precedes r.2 := by
  rw [takeTag]
  split
  next =>
    refine (precedes_takeTagText _).bind fun r hr => .checked fun _ => ?_
    refine .checked fun _ => .ok ?_
    exact (precedes_advance c.next 1).trans (hr.trans (precedes_next _))
  next =>
    split
    next => exact .checked fun _ => .ok (.refl c.next)
    next =>
      simp only
      split
      next =>
        refine (precedes_takeHandle c).bind fun r hr => ?_
        exact (precedes_takeTagText _).bind fun s hs => .checked fun _ => .ok (hr.trans hs)
      next => exact (precedes_takeTagText _).bind fun s hs => .checked fun _ => .ok hs

/-! ## Directives -/

theorem precedes_takeLineEnd (c : Cursor) : Yields (takeLineEnd c) fun d => c.Precedes d := by
  have hskip := precedes_skip c (· == ' ')
  have hcomment : c.Precedes
      (if (c.skip (· == ' ')).peek = some '#' then (c.skip (· == ' ')).skip (!isBreak ·)
        else c.skip (· == ' ')) := by
    split
    next => exact hskip.trans (precedes_skip _ _)
    next => exact hskip
  rw [takeLineEnd]
  generalize (if (c.skip (· == ' ')).peek = some '#' then (c.skip (· == ' ')).skip (!isBreak ·)
    else c.skip (· == ' ')) = d at hcomment ⊢
  split
  next => exact .error _ _
  next => exact .ok (hcomment.trans (precedes_next d))

theorem precedes_takeNumber (c : Cursor) : Yields (takeNumber c) fun r => c.Precedes r.2 := by
  rw [takeNumber]
  simp only
  split
  next => exact .error _ _
  next => exact .ok (precedes_take c _)

theorem precedes_takeDirective (c : Cursor) :
    Yields (takeDirective c) fun r => c.next.Precedes r.2 := by
  have hname := precedes_take c.next isNameChar
  have hblanks := hname.trans (precedes_skip _ (· == ' '))
  rw [takeDirective]
  refine .checked fun _ => ?_
  split
  next =>
    refine (precedes_takeNumber _).bind fun r hr => .checked fun _ => ?_
    refine (precedes_takeNumber _).bind fun s hs => .checked fun _ => ?_
    refine (precedes_takeLineEnd _).bind fun d hd => .ok ?_
    exact hblanks.trans (hr.trans ((precedes_next _).trans (hs.trans hd)))
  next =>
    split
    next =>
      refine (precedes_takeHandle _).bind fun r hr => .checked fun _ => ?_
      refine (precedes_takeTagText _).bind fun s hs => .checked fun _ => ?_
      refine (precedes_takeLineEnd _).bind fun d hd => .ok ?_
      have hhandle := hblanks.trans ((precedes_next _).trans hr)
      exact hhandle.trans ((precedes_skip _ _).trans (hs.trans hd))
    next =>
      refine (precedes_takeLineEnd _).bind fun d hd => .ok ?_
      exact hname.trans ((precedes_skip _ _).trans hd)

/-! ## What leaves the place as it is -/

theorem cursor_dropKeyPlace (l : Lexer) : Yields l.dropKeyPlace fun d => d.cursor = l.cursor := by
  rw [dropKeyPlace]
  split
  next => exact .ok rfl
  next =>
    split
    next => exact .error _ _
    next => exact .ok rfl

theorem cursor_noteKeyPlace (l : Lexer) : Yields l.noteKeyPlace fun d => d.cursor = l.cursor := by
  rw [noteKeyPlace]
  split
  next => exact (cursor_dropKeyPlace l).bind fun d hd => .ok hd
  next => exact .ok rfl

theorem cursor_dropStaleKeyPlaces (l : Lexer) :
    Yields l.dropStaleKeyPlaces fun d => d.cursor = l.cursor := by
  rw [dropStaleKeyPlaces]
  split
  next => exact .error _ _
  next => exact .ok rfl

theorem cursor_closeBlocks (column : Int) (outer : List Int) (l : Lexer) :
    (closeBlocks column outer l).cursor = l.cursor := by
  induction outer generalizing l with
  | nil => rfl
  | cons i rest ih =>
    rw [closeBlocks]
    split
    next => exact ih _
    next => rfl

theorem cursor_unwind (l : Lexer) (column : Int) : (l.unwind column).cursor = l.cursor := by
  rw [unwind]
  split
  next => rfl
  next => exact cursor_closeBlocks column l.outerIndents l

theorem cursor_openBlock {opened : Lexer} {column : Nat} (h : l.openBlock column = some opened) :
    opened.cursor = l.cursor := by
  rw [openBlock] at h
  split at h
  next =>
    cases h
    rfl
  next => cases h

theorem cursor_openBlockHere (l : Lexer) (t : Token) :
    (l.openBlockHere t).cursor = l.cursor := by
  rw [openBlockHere]
  cases hopened : l.openBlock l.cursor.column with
  | none => rfl
  | some opened =>
    have hcursor := cursor_openBlock hopened
    exact hcursor

theorem cursor_endDocument (l : Lexer) : Yields l.endDocument fun d => d.cursor = l.cursor := by
  rw [endDocument]
  refine (cursor_dropKeyPlace _).bind fun d hd => .ok ?_
  exact hd.trans (cursor_unwind l (-1))

/-! ## One token -/

theorem cursor_openFlow (l : Lexer) (t : Token) :
    Yields (l.openFlow t) fun d => d.cursor = l.cursor.next := by
  rw [openFlow]
  exact (cursor_noteKeyPlace l).bind fun d hd => .ok (congrArg Cursor.next hd)

theorem cursor_closeFlow (l : Lexer) (t : Token) :
    Yields (l.closeFlow t) fun d => d.cursor = l.cursor.next := by
  rw [closeFlow]
  refine (cursor_dropKeyPlace l).bind fun d hd => .checked fun _ => .ok ?_
  exact congrArg Cursor.next hd

theorem cursor_openUnlessFlow (l : Lexer) (t : Token) :
    (if l.inFlow then l else l.openBlockHere t).cursor = l.cursor := by
  split
  next => rfl
  next => exact cursor_openBlockHere l t

theorem cursor_takeBlockEntry (l : Lexer) :
    Yields l.takeBlockEntry fun d => d.cursor = l.cursor.next := by
  rw [takeBlockEntry]
  refine .checked fun _ => (cursor_dropKeyPlace _).bind fun d hd => .ok ?_
  exact congrArg Cursor.next (hd.trans (cursor_openUnlessFlow l _))

theorem cursor_takeKey (l : Lexer) : Yields l.takeKey fun d => d.cursor = l.cursor.next := by
  rw [takeKey]
  refine .checked fun _ => (cursor_dropKeyPlace _).bind fun d hd => .ok ?_
  exact congrArg Cursor.next (hd.trans (cursor_openUnlessFlow l _))

theorem cursor_takeValue (l : Lexer) : Yields l.takeValue fun d => d.cursor = l.cursor.next := by
  rw [takeValue]
  split
  next k _ =>
    let d : Lexer := { l with
      keyPlaces := l.keyPlaces.filter (·.1 != l.flowLevel), allowsKey := false }
    have hopened : ∀ opened, (if l.inFlow then none else d.openBlock k.column) = some opened →
        opened.cursor = l.cursor := by
      intro opened h
      split at h
      next => cases h
      next => exact cursor_openBlock (l := d) h
    refine .ok (congrArg Cursor.next ?_)
    split
    next opened h => exact hopened opened h
    next => rfl
  next =>
    refine .checked fun _ => (cursor_dropKeyPlace _).bind fun d hd => .ok ?_
    exact congrArg Cursor.next (hd.trans (cursor_openUnlessFlow l _))

/-- Where a plain scalar starts, its first piece has a character. -/
theorem plainPiece_ne_nil {ch : Char} (hpeek : l.cursor.peek = some ch)
    (hstarts : l.startsPlain ch = true) : plainPiece l.inFlow l.cursor.rest ≠ [] := by
  obtain ⟨r, hr⟩ := List.head?_eq_some_iff.1 hpeek
  have hends : l.cursor.next.atWordEnd = endsWord r := by
    rw [atWordEnd, rest_next, hr, List.tail_cons]
  have hpiece : isSeparator ch = false ∧ (ch = ':' → l.inFlow = false ∧ endsWord r = false) ∧
      (l.inFlow = true → isFlowIndicator ch = false) := by
    rw [startsPlain, hends] at hstarts
    split at hstarts
    next hdash =>
      rw [hdash]
      exact ⟨by decide, fun hcolon => absurd hcolon (by decide), fun _ => by decide⟩
    next =>
      split at hstarts
      next hmark =>
        rw [Bool.and_eq_true, Bool.not_eq_true', Bool.not_eq_true'] at hstarts
        refine ⟨?_, fun _ => hstarts, fun hflow => ?_⟩
        · rcases hmark with rfl | rfl <;> decide
        · rw [hstarts.1] at hflow
          cases hflow
      next hmark =>
        rw [Bool.and_eq_true, Bool.not_eq_true', Bool.not_eq_true'] at hstarts
        rw [not_or] at hmark
        refine ⟨hstarts.1, fun hcolon => absurd hcolon hmark.2, fun _ => ?_⟩
        have hindicator := hstarts.2
        -- but for the question mark, what ends a scalar in brackets cannot start one anywhere
        simp only [indicators, List.contains_cons, Bool.or_eq_false_iff] at hindicator
        simp only [isFlowIndicator, List.contains_cons, hindicator, beq_eq_false_iff_ne.2 hmark.1,
          Bool.or_false]
  rw [hr, plainPiece, if_neg, if_neg, if_neg]
  · exact List.cons_ne_nil _ _
  · rintro ⟨hflow, hindicator⟩
    rw [hpiece.2.2 hflow] at hindicator
    cases hindicator
  · rintro ⟨hcolon, hword | ⟨hflow, -⟩⟩
    · rw [(hpiece.2.1 hcolon).2] at hword
      cases hword
    · rw [(hpiece.2.1 hcolon).1] at hflow
      cases hflow
  · rw [hpiece.1]
    exact Bool.false_ne_true

/-- A token takes at least one character. -/
theorem precedes_takeToken {ch : Char} (hpeek : l.cursor.peek = some ch) :
    Yields (l.takeToken ch) fun d => l.cursor.next.Precedes d.cursor := by
  have hone : ∀ {x : Except ReadError Lexer}, Yields x (fun d => d.cursor = l.cursor.next) →
      Yields x fun d => l.cursor.next.Precedes d.cursor := by
    intro x hx d hd
    rw [hx d hd]
    exact .refl _
  rw [takeToken]
  refine .ite (fun _ => ?directive) fun _ => .ite (fun _ => ?documentMark) fun _ => ?_
  case directive =>
    refine (cursor_endDocument l).bind fun d _ => ?_
    exact (precedes_takeDirective l.cursor).bind fun r hr => .ok hr
  case documentMark =>
    refine (cursor_endDocument l).bind fun d hd => .ok ?_
    rw [pushOver, hd]
    exact next_precedes_advance l.cursor (by decide)
  refine .ite (fun _ => hone (cursor_openFlow l _)) fun _ =>
    .ite (fun _ => hone (cursor_openFlow l _)) fun _ =>
    .ite (fun _ => hone (cursor_closeFlow l _)) fun _ =>
    .ite (fun _ => hone (cursor_closeFlow l _)) fun _ =>
    .ite (fun _ => ?flowEntry) fun _ =>
    .ite (fun _ => hone (cursor_takeBlockEntry l)) fun _ =>
    .ite (fun _ => hone (cursor_takeKey l)) fun _ =>
    .ite (fun _ => hone (cursor_takeValue l)) fun _ => ?_
  case flowEntry =>
    refine hone ((cursor_dropKeyPlace _).bind fun d hd => .ok ?_)
    exact congrArg Cursor.next hd
  refine .ite (fun _ => ?aliasName) fun _ => .ite (fun _ => ?anchor) fun _ =>
    .ite (fun _ => ?tag) fun _ => .ite (fun _ => ?block) fun _ =>
    .ite (fun _ => ?quoted) fun _ => .ite (fun hstarts => ?plain) fun _ => .error _ _
  case aliasName =>
    refine (precedes_takeName l.cursor).bind fun r hr => ?_
    exact (cursor_noteKeyPlace l).bind fun d _ => .ok hr
  case anchor =>
    refine (precedes_takeName l.cursor).bind fun r hr => ?_
    exact (cursor_noteKeyPlace l).bind fun d _ => .ok hr
  case tag =>
    refine (cursor_noteKeyPlace l).bind fun d _ => ?_
    exact (precedes_takeTag l.cursor).bind fun r hr => .ok hr
  case block =>
    refine (cursor_dropKeyPlace l).bind fun d _ => ?_
    exact (precedes_block _ l.indent l.cursor).bind fun r hr => .ok hr
  case quoted =>
    refine (cursor_noteKeyPlace l).bind fun d _ => ?_
    exact (precedes_quoted _ l.cursor).bind fun r hr => .ok hr
  case plain =>
    refine (cursor_noteKeyPlace l).bind fun d _ => .ok ?_
    exact precedes_plain (l.indent + 1) (plainPiece_ne_nil hpeek hstarts)

/-! ## All tokens -/

theorem precedes_skipBlanks (comment : Bool) (t : Text) (c : Cursor) (ended : Bool) :
    c.Precedes (skipBlanks comment t c ended).1 := by
  induction t generalizing comment c ended with
  | nil => exact .refl c
  | cons ch r ih =>
    have hnext := precedes_next c
    rw [skipBlanks]
    split
    next => exact hnext.trans (ih _ _ _)
    next =>
      split
      next => exact hnext.trans (ih _ _ _)
      next =>
        split
        next => exact hnext.trans (ih _ _ _)
        next =>
          split
          next => exact hnext.trans (ih _ _ _)
          next => exact .refl c

theorem precedes_toNextToken (l : Lexer) : l.cursor.Precedes l.toNextToken.cursor := by
  rw [toNextToken]
  have hmark : l.cursor.Precedes
      (if l.cursor.index = 0 ∧ l.cursor.peek = some (Char.ofNat 0xFEFF) then l.cursor.next
        else l.cursor) := by
    split
    next => exact precedes_next l.cursor
    next => exact .refl l.cursor
  exact hmark.trans (precedes_skipBlanks _ _ _ _)

theorem cursor_prepare (l : Lexer) :
    Yields l.prepare fun d => d.cursor = l.toNextToken.cursor := by
  rw [prepare]
  refine (cursor_dropStaleKeyPlaces _).bind fun d hd => .ok ?_
  exact (cursor_unwind d _).trans hd

theorem yields_unlessStopped (l : Lexer) (stop : Option ReadError) :
    Yields (l.unlessStopped stop) fun d => d = l ∧ (stop ≠ none → l.cursor.rest ≠ []) := by
  cases stop with
  | none => exact .ok ⟨rfl, fun h => absurd rfl h⟩
  | some e =>
    rw [unlessStopped]
    refine .ite (fun _ => .error _ _) fun hrest => .ok ⟨rfl, fun _ => ?_⟩
    rwa [List.isEmpty_iff] at hrest

/-- Less is left of the text after one more token, and the end of a text is reached only if there is
no error behind it. -/
theorem yields_progress (stop : Option ReadError) (l : Lexer) :
    Yields (l.progress stop) fun p =>
      (∃ next, p = .more next ∧ next.cursor.rest.length < l.cursor.rest.length) ∨
        stop = none ∧ ∃ done, p = .last done := by
  rw [progress]
  refine (yields_unlessStopped l.toNextToken stop).bind fun _ hstop => ?_
  refine (cursor_prepare l).bind fun ready hready => ?_
  cases hpeek : ready.cursor.peek with
  | none =>
    -- nothing is left behind the blanks, which an error behind the text would have shown
    have hrest : l.toNextToken.cursor.rest = [] := by
      rw [← hready]
      exact List.head?_eq_none_iff.1 hpeek
    have hnone : stop = none := by
      by_contra hsome
      exact hstop.2 hsome hrest
    exact (Yields.trivial ready.finish).bind fun done _ => .ok (Or.inr ⟨hnone, done, rfl⟩)
  | some ch =>
    refine ((precedes_takeToken hpeek).mapError (blame stop)).bind fun taken htaken => ?_
    refine (yields_unlessStopped taken stop).bind fun d hd => .ok (Or.inl ⟨d, rfl, ?_⟩)
    have hblanks := (precedes_toNextToken l).length_le
    have hone := length_next_lt hpeek
    have htoken := htaken.length_le
    rw [hd.1]
    rw [← hready] at hblanks
    omega

end Lexer

namespace Token

/-- The last token says why there are no more. -/
inductive EndsBroken : List Token → Prop
  | last (e : ReadError) : EndsBroken [.broken e]
  | cons (t : Token) {rest : List Token} : EndsBroken rest → EndsBroken (t :: rest)

theorem EndsBroken.append (ts : List Token) (e : ReadError) : EndsBroken (ts ++ [.broken e]) := by
  induction ts with
  | nil => exact .last e
  | cons t rest ih => exact .cons t ih

/-- The rounds are enough to reach the error behind the text. -/
theorem endsBroken_run (e : ReadError) {n : Nat} {l : Lexer} (h : l.cursor.rest.length < n) :
    EndsBroken (run (some e) n l) := by
  induction n generalizing l with
  | zero => exact absurd h (Nat.not_lt_zero _)
  | succ n ih =>
    rw [run]
    cases hprogress : l.progress (some e) with
    | error err => exact .append _ err
    | ok p =>
      rcases Lexer.yields_progress (some e) l p hprogress with ⟨next, rfl, hless⟩ | ⟨hnone, -⟩
      · exact ih (by omega)
      · cases hnone

theorem endsBroken_limitNesting {room : Nat} {ts : List Token} (h : EndsBroken ts) :
    EndsBroken (limitNesting room ts) := by
  -- the tokens are either kept up to the last one, or cut by one that is broken itself
  induction h generalizing room with
  | last e => exact .last e
  | cons t _ ih =>
    rw [limitNesting.eq_def]
    simp only
    split
    next =>
      cases room with
      | zero => exact .last .tooDeep
      | succ n => exact .cons t ih
    next => exact .cons t ih

/-- Where an error stands behind the text, the last token is broken. -/
theorem endsBroken_ofSource (room : Nat) {s : Source} (h : s.stop ≠ none) :
    EndsBroken (ofSource room s) := by
  obtain ⟨e, he⟩ := Option.ne_none_iff_exists'.1 h
  rw [ofSource, he]
  exact endsBroken_limitNesting (endsBroken_run e (Nat.lt_succ_self _))

end Token

end Disassembly.Yaml
