import Disassembly.Platform.Standard
import Disassembly.Proofs.Yaml.Token
import Mathlib.Tactic

/-!
# Trees of texts that break off

No step in the building of a tree passes over a token that is none (`Build.Keeps`). So where the
last token is one, there is no tree (`Node.yields_ofTokens?`), and a text with an error behind it is
not read, however much of it is in order (`Node.exists_read_eq_error`). That is what is relied on of
a library (`lawful_standard`).
-/

set_option autoImplicit false

namespace Disassembly.Yaml

namespace Node

open Token

namespace Build

variable {α β : Type} {b : Build α} {f : α → Build β}

/-! ## Steps that pass over no broken token -/

/-- A step that leaves tokens of which the last is broken, if the tokens before it are such and
start with the given one. -/
def KeepsAt (next : Option Token) (b : Build α) : Prop :=
  ∀ s : Remaining, s.tokens.head? = next → EndsBroken s.tokens →
    Yields (b.run s) fun r => EndsBroken r.2.tokens

/-- A step that leaves tokens of which the last is broken, if the tokens before it are such. -/
def Keeps (b : Build α) : Prop :=
  ∀ next, KeepsAt next b

theorem keeps_of_tokens_eq (h : ∀ s, Yields (b.run s) fun r => r.2.tokens = s.tokens) :
    Keeps b := by
  intro next s _ hs r hr
  rw [h s r hr]
  exact hs

/-- A step that depends on what is left, and leaves the tokens as they are. -/
theorem keeps_get {g : Remaining → Build β}
    (h : ∀ s, Yields ((g s).run s) fun r => r.2.tokens = s.tokens) : Keeps (get >>= g) :=
  keeps_of_tokens_eq h

theorem keeps_pure (a : α) : Keeps (pure a : Build α) :=
  keeps_of_tokens_eq fun _ => .ok rfl

theorem keeps_throw (e : ReadError) : Keeps (throw e : Build α) :=
  fun _ _ _ _ => .error _ _

theorem Keeps.bind (hb : Keeps b) (hf : ∀ a, Keeps (f a)) : Keeps (b >>= f) := by
  intro next s hnext hs
  exact (hb next s hnext hs).bind fun r hr => hf r.1 _ r.2 rfl hr

/-- A step that depends on the next token. -/
theorem keeps_peek {g : Option Token → Build β} (h : ∀ next, KeepsAt next (g next)) :
    Keeps (peek >>= g) := by
  intro next s _ hs
  exact h s.tokens.head? s rfl hs

/-- A token that is not broken may be passed over. -/
theorem keepsAt_skip {t : Token} (ht : ∀ e, t ≠ .broken e) (hb : Keeps b) :
    KeepsAt (some t) (skip >>= fun _ => b) := by
  rintro ⟨tokens, anchors⟩ hnext hs
  cases hs with
  | last e => exact absurd (Option.some.inj hnext).symm (ht e)
  | cons _ hrest => exact hb _ ⟨_, anchors⟩ rfl hrest

theorem keeps_fail : Keeps (fail : Build α) := by
  refine keeps_peek fun next => ?_
  split
  next => exact keeps_throw _ _
  next => exact keeps_throw _ _

theorem keeps_expect {t : Token} (ht : ∀ e, t ≠ .broken e) : Keeps (expect t) := by
  refine keeps_peek fun next => ?_
  split
  next hnext =>
    rw [hnext]
    exact keepsAt_skip ht (keeps_pure ())
  next => exact keeps_fail next

theorem keeps_declare (anchor : Option Text) (n : Node) : Keeps (declare anchor n) := by
  cases anchor with
  | none => exact keeps_pure ()
  | some name =>
    refine keeps_get fun s => ?_
    split
    next => exact .error _ _
    next => exact .ok rfl

theorem keeps_complete (anchor : Option Text) (n : Node) : Keeps (complete anchor n) := by
  cases anchor with
  | none => exact keeps_pure n
  | some name => exact keeps_of_tokens_eq fun s => .ok rfl

theorem keeps_finish (anchor : Option Text) (n : Node) : Keeps (finish anchor n) :=
  (keeps_declare anchor n).bind fun _ => keeps_pure n

theorem keeps_resolve (name : Text) : Keeps (resolve name) := by
  refine keeps_get fun s => ?_
  split
  next => exact .ok rfl
  next => exact .error _ _

theorem keeps_takeAnchor : Keeps takeAnchor := by
  refine keeps_peek fun next => ?_
  split
  next => exact keepsAt_skip nofun (keeps_pure _)
  next => exact keeps_pure _ _

theorem keeps_takeTag (handles : List (Text × Text)) : Keeps (takeTag handles) := by
  refine keeps_peek fun next => ?_
  split
  next t =>
    refine keepsAt_skip nofun ?_
    split
    next => exact keeps_pure _
    next =>
      split
      next => exact keeps_throw _
      next => exact keeps_pure _
  next => exact keeps_pure _ _

theorem keeps_takeProperties (handles : List (Text × Text)) : Keeps (takeProperties handles) := by
  refine keeps_takeAnchor.bind fun anchor => ?_
  split
  next => exact (keeps_takeTag handles).bind fun _ => keeps_pure _
  next =>
    exact (keeps_takeTag handles).bind fun _ => keeps_takeAnchor.bind fun _ => keeps_pure _

end Build

open Build

/-! ## The building of a tree -/

/-- No step in the building of a tree passes over a broken token, with the given number of
rounds. -/
structure BuildKeeps (handles : List (Text × Text)) (n : Nat) : Prop where
  build : ∀ inBlock inMapping, Keeps (build handles inBlock inMapping n)
  buildUnless : ∀ ends inBlock inMapping, Keeps (buildUnless handles ends inBlock inMapping n)
  buildBlockItems : Keeps (buildBlockItems handles n)
  buildPlainItems : Keeps (buildPlainItems handles n)
  buildBlockEntries : Keeps (buildBlockEntries handles n)
  buildEntry : ∀ ends inBlock, Keeps (buildEntry handles ends inBlock n)
  buildFlowItems : ∀ first, Keeps (buildFlowItems handles first n)
  buildFlowEntries : ∀ first, Keeps (buildFlowEntries handles first n)

variable {handles : List (Text × Text)} {n : Nat}

/-- Each step reads on with one round less, so what the functions do with fewer rounds decides. -/
theorem keeps_build_succ (ih : BuildKeeps handles n) (inBlock inMapping : Bool) :
    Keeps (build handles inBlock inMapping (n + 1)) := by
  rw [build]
  refine keeps_peek fun next => ?_
  split
  next => exact keepsAt_skip nofun (keeps_resolve _)
  next =>
    refine ((keeps_takeProperties handles).bind fun properties => keeps_peek fun next => ?_) _
    split
    next => exact keepsAt_skip nofun (keeps_finish _ _)
    next =>
      refine keepsAt_skip nofun ((keeps_declare _ _).bind fun _ => ?_)
      exact (ih.buildFlowItems true).bind fun _ => keeps_complete _ _
    next =>
      refine keepsAt_skip nofun ((keeps_declare _ _).bind fun _ => ?_)
      exact (ih.buildFlowEntries true).bind fun _ => keeps_complete _ _
    next =>
      split
      next =>
        refine ((keeps_declare _ _).bind fun _ => ?_) _
        exact ih.buildPlainItems.bind fun _ => keeps_complete _ _
      next =>
        split
        next h =>
          rw [h.1]
          refine keepsAt_skip nofun ((keeps_declare _ _).bind fun _ => ?_)
          exact ih.buildBlockItems.bind fun _ => keeps_complete _ _
        next =>
          split
          next h =>
            rw [h.1]
            refine keepsAt_skip nofun ((keeps_declare _ _).bind fun _ => ?_)
            exact ih.buildBlockEntries.bind fun _ => keeps_complete _ _
          next =>
            split
            next => exact keeps_throw _ _
            next =>
              split
              next => exact keeps_fail _
              next => exact keeps_finish _ _ _

theorem keeps_buildUnless_succ (ih : BuildKeeps handles n) (ends : List Token)
    (inBlock inMapping : Bool) : Keeps (buildUnless handles ends inBlock inMapping (n + 1)) := by
  rw [buildUnless]
  refine keeps_peek fun next => ?_
  split
  next => exact keeps_pure _ _
  next => exact ih.build _ _ _

theorem keeps_buildBlockItems_succ (ih : BuildKeeps handles n) :
    Keeps (buildBlockItems handles (n + 1)) := by
  rw [buildBlockItems]
  refine keeps_peek fun next => ?_
  split
  next h =>
    rw [h]
    refine keepsAt_skip nofun ((ih.buildUnless _ _ _).bind fun _ => ?_)
    exact ih.buildBlockItems.bind fun _ => keeps_pure _
  next => exact ((keeps_expect (t := .blockEnd) nofun).bind fun _ => keeps_pure _) _

theorem keeps_buildPlainItems_succ (ih : BuildKeeps handles n) :
    Keeps (buildPlainItems handles (n + 1)) := by
  rw [buildPlainItems]
  refine keeps_peek fun next => ?_
  split
  next h =>
    rw [h]
    refine keepsAt_skip nofun ((ih.buildUnless _ _ _).bind fun _ => ?_)
    exact ih.buildPlainItems.bind fun _ => keeps_pure _
  next => exact keeps_pure _ _

theorem keeps_buildBlockEntries_succ (ih : BuildKeeps handles n) :
    Keeps (buildBlockEntries handles (n + 1)) := by
  rw [buildBlockEntries]
  refine keeps_peek fun next => ?_
  split
  next h =>
    rw [h]
    refine keepsAt_skip nofun ((ih.buildEntry _ _).bind fun _ => ?_)
    exact ih.buildBlockEntries.bind fun _ => keeps_pure _
  next => exact ((keeps_expect (t := .blockEnd) nofun).bind fun _ => keeps_pure _) _

theorem keeps_buildEntry_succ (ih : BuildKeeps handles n) (ends : List Token) (inBlock : Bool) :
    Keeps (buildEntry handles ends inBlock (n + 1)) := by
  rw [buildEntry]
  refine (ih.buildUnless _ _ _).bind fun _ => keeps_peek fun next => ?_
  split
  next h =>
    rw [h]
    exact keepsAt_skip nofun ((ih.buildUnless _ _ _).bind fun _ => keeps_pure _)
  next => exact keeps_pure _ _

/-- What stands in brackets: the closing one, or behind a comma, which the first place does not
need, an entry with a key mark, the closing bracket, or an item without one. -/
theorem keeps_brackets {α : Type} {close : Token} {entry item : Build (List α)} (first : Bool)
    (hclose : ∀ e, close ≠ .broken e) (hentry : Keeps entry) (hitem : Keeps item) :
    Keeps (peek >>= fun next =>
      if next = some close then skip >>= fun _ => pure []
      else
        let rest := peek >>= fun next =>
          if next = some .key then skip >>= fun _ => entry
          else peek >>= fun next =>
            if next = some close then skip >>= fun _ => pure [] else item
        if first = true then rest else expect .flowEntry >>= fun _ => rest) := by
  have hend : ∀ {next : Option Token}, next = some close →
      KeepsAt next (skip >>= fun _ => (pure [] : Build (List α))) := by
    rintro _ rfl
    exact keepsAt_skip hclose (keeps_pure [])
  have hrest : Keeps (peek >>= fun next =>
      if next = some .key then skip >>= fun _ => entry
      else peek >>= fun next =>
        if next = some close then skip >>= fun _ => pure [] else item) := by
    refine keeps_peek fun next => ?_
    split
    next h =>
      rw [h]
      exact keepsAt_skip nofun hentry
    next =>
      refine keeps_peek (fun next => ?_) _
      split
      next h => exact hend h
      next => exact hitem next
  refine keeps_peek fun next => ?_
  split
  next h => exact hend h
  next =>
    simp only
    split
    next => exact hrest next
    next => exact ((keeps_expect (t := .flowEntry) nofun).bind fun _ => hrest) next

theorem keeps_buildFlowItems_succ (ih : BuildKeeps handles n) (first : Bool) :
    Keeps (buildFlowItems handles first (n + 1)) := by
  have hmore := ih.buildFlowItems false
  rw [buildFlowItems]
  refine keeps_brackets first nofun ?_ ?_
  · exact (ih.buildEntry _ _).bind fun _ => hmore.bind fun _ => keeps_pure _
  · exact (ih.build _ _).bind fun _ => hmore.bind fun _ => keeps_pure _

theorem keeps_buildFlowEntries_succ (ih : BuildKeeps handles n) (first : Bool) :
    Keeps (buildFlowEntries handles first (n + 1)) := by
  have hmore := ih.buildFlowEntries false
  rw [buildFlowEntries]
  refine keeps_brackets first nofun ?_ ?_
  · exact (ih.buildEntry _ _).bind fun _ => hmore.bind fun _ => keeps_pure _
  · exact (ih.build _ _).bind fun _ => hmore.bind fun _ => keeps_pure _

theorem buildKeeps (handles : List (Text × Text)) (n : Nat) : BuildKeeps handles n := by
  induction n with
  | zero =>
    refine ⟨fun _ _ => ?_, fun _ _ _ => ?_, ?_, ?_, ?_, fun _ _ => ?_, fun _ => ?_, fun _ => ?_⟩
    · exact keeps_fail
    · exact keeps_fail
    · exact keeps_fail
    · exact keeps_fail
    · exact keeps_fail
    · exact keeps_fail
    · exact keeps_fail
    · exact keeps_fail
  | succ n ih =>
    exact ⟨keeps_build_succ ih, keeps_buildUnless_succ ih, keeps_buildBlockItems_succ ih,
      keeps_buildPlainItems_succ ih, keeps_buildBlockEntries_succ ih, keeps_buildEntry_succ ih,
      keeps_buildFlowItems_succ ih, keeps_buildFlowEntries_succ ih⟩

/-! ## Documents -/

theorem yields_buildContent {tokens : List Token} (h : EndsBroken tokens) :
    Yields (buildContent handles tokens) fun r => EndsBroken r.2 := by
  rw [buildContent]
  exact ((buildKeeps _ _).build true false _ ⟨tokens, []⟩ rfl h).bind fun r hr => .ok hr

theorem yields_takeDirectives {version : Bool} {tokens : List Token} (h : EndsBroken tokens) :
    Yields (takeDirectives version handles tokens) fun r => EndsBroken r.2 := by
  induction h generalizing version handles with
  | last e => exact .ok (.last e)
  | cons t hrest ih =>
    rw [takeDirectives.eq_def]
    split
    next heq =>
      cases heq
      exact .ite (fun _ => .error _ _) fun _ => ih
    next heq =>
      cases heq
      exact .ite (fun _ => .error _ _) fun _ => ih
    next heq =>
      cases heq
      exact ih
    next => exact .ok (.cons t hrest)

theorem yields_buildExplicit {tokens : List Token} (h : EndsBroken tokens) :
    Yields (buildExplicit tokens) fun r => EndsBroken r.2 := by
  rw [buildExplicit]
  refine (yields_takeDirectives h).bind ?_
  rintro ⟨_, rest⟩ hr
  cases hr with
  | last e => exact .error _ _
  | cons t hrest =>
    simp only
    split
    next heq =>
      cases heq
      exact .ite (fun _ => .ok hrest) fun _ => yields_buildContent hrest
    next => exact .error _ _
    next => exact .error _ _

theorem endsBroken_dropWhile {tokens : List Token} (h : EndsBroken tokens) :
    EndsBroken (tokens.dropWhile (· == .documentEnd)) := by
  induction h with
  | last e => exact .last e
  | cons t hrest ih =>
    rw [List.dropWhile_cons]
    split
    next => exact ih
    next => exact .cons t hrest

/-- Tokens of which the last is broken describe no tree. -/
theorem yields_ofTokens? {tokens : List Token} (h : EndsBroken tokens) :
    Yields (ofTokens? tokens) fun _ => False := by
  have hne : ¬tokens.head?.isNone = true := by
    cases h <;> exact Bool.false_ne_true
  rw [ofTokens?]
  simp only [if_neg hne]
  refine .ite (fun _ => (yields_buildExplicit h).bind ?_) fun _ => (yields_buildContent h).bind ?_
  -- whatever the document was, the tokens behind it do not come to an end
  all_goals
    intro r hr
    have hrest := endsBroken_dropWhile hr
    split
    next hnil =>
      rw [hnil] at hrest
      cases hrest
    next => exact .error _ _
    next => exact .error _ _

/-- A text with an error behind it is not read. -/
theorem exists_read_eq_error (room : Nat) {s : Source} (h : s.stop ≠ none) :
    ∃ e, read room s = .error e := by
  have hnone : Yields (read room s) fun _ => False := by
    rw [read]
    exact (yields_ofTokens? (endsBroken_ofSource room h)).bind fun _ hfalse => hfalse.elim
  cases hread : read room s with
  | error e => exact ⟨e, rfl⟩
  | ok n => exact (hnone n hread).elim

end Node

/-- A text that is incomplete has an error behind it. -/
theorem Source.stop_ofText (t : Text) : (ofText t false).stop ≠ none := by
  have hstop : ∀ (t : Text) (e : ReadError), (ofReadable t (some e)).stop ≠ none := by
    intro t e
    rw [ofReadable]
    split
    next => exact Option.some_ne_none _
    next => exact Option.some_ne_none _
  exact hstop _ _

/-- The library of the executable reads a file to its end. -/
theorem lawful_standard (room : Nat) : (standard room).Lawful := by
  refine ⟨fun t ht => ?_⟩
  obtain ⟨e, he⟩ := Node.exists_read_eq_error room (Source.stop_ofText t.text)
  have hread : (standard room).read t = readStrings room t := rfl
  refine ⟨e.failure, ?_⟩
  rw [hread, readStrings, ht, he]
  rfl

end Disassembly.Yaml
