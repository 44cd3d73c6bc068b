import Disassembly.Proofs.Signature.Spacing
import Disassembly.Signature.Basic
import Mathlib.Tactic

/-!
# Package names in canonical texts

Dropping the package names of a signature rewrites the dotted names in it and nothing else
(`runMap_dropQualifiers`), while spacing is about the characters between them. So it does not matter
which comes first: the canonical text without package names is that with package names, rewritten
(`canonical_simple`). As names are never rewritten to nothing, a text shows a declaration with its
package names if and only if it does without them (`isSome_ofText?`).
-/

set_option autoImplicit false

namespace Disassembly.Signature

open Text

/-! ## The characters of dotted names -/

theorem not_isDottedNameChar_of_isBlank {c : Char} (h : isBlank c = true) :
    isDottedNameChar c = false := by
  have hdot : c ≠ '.' := ne_of_class h (by decide)
  have hdollar : c ≠ '$' := ne_of_class h (by decide)
  simp [isDottedNameChar, not_isWord_of_isBlank h, hdot, hdollar]

theorem not_isDottedNameChar_of_isPunctuation {c : Char} (h : isPunctuation c = true) :
    isDottedNameChar c = false := by
  rcases isPunctuation_iff.1 h with rfl | rfl | rfl <;> decide

theorem not_isDottedNameChar_of_isBracket {c : Char} (h : isBracket c = true) :
    isDottedNameChar c = false := by
  rcases (by simpa [isBracket] using h : c = '[' ∨ c = ']') with rfl | rfl <;> decide

theorem isOutsideParentheses_of_isDottedNameChar {c : Char} (h : isDottedNameChar c = true) :
    isOutsideParentheses c = true := by
  have hopen : c ≠ '(' := ne_of_class h (by decide)
  have hclose : c ≠ ')' := ne_of_class h (by decide)
  simp [isOutsideParentheses, hopen, hclose]

theorem isNameChar_of_isDottedNameChar {c : Char} (h : isDottedNameChar c = true) :
    isNameChar c = true := by
  rw [isNameChar, h]
  rfl

/-! ## Qualified names -/

theorem leadingIdentifiers_takeWhile (t : Text) :
    leadingIdentifiers (t.takeWhile isDottedNameChar) = leadingIdentifiers t := by
  rw [leadingIdentifiers, leadingIdentifiers, takeWhile_takeWhile_of_imp fun c hc => hc]

/-- The leading identifiers and the dots between them stand at the start of the text. -/
theorem intercalate_leadingIdentifiers (t : Text) :
    ['.'].intercalate (leadingIdentifiers t) <+: t.takeWhile isDottedNameChar := by
  have hleading : leadingIdentifiers t <+: (t.takeWhile isDottedNameChar).splitOn '.' :=
    List.takeWhile_prefix _
  have h : ['.'].intercalate (leadingIdentifiers t) <+: _ := intercalate_isPrefix hleading
  rwa [List.intercalate_splitOn] at h

/-- What a qualified name is replaced by: one of its identifiers. -/
theorem qualifiedName_eq_some {before : Option Char} {t : Text} {m : Match}
    (h : qualifiedName before t = some m) :
    2 ≤ (leadingIdentifiers t).length ∧ m.written ∈ leadingIdentifiers t ∧
      m.more = (['.'].intercalate (leadingIdentifiers t)).length - 1 := by
  rw [qualifiedName] at h
  split at h
  next hcond =>
    obtain rfl := Option.some.inj h
    have hlength : 2 ≤ (leadingIdentifiers t).length := by
      simpa using (Bool.and_eq_true_iff.1 hcond).2
    have hne : leadingIdentifiers t ≠ [] := by
      rintro hnil
      rw [hnil] at hlength
      exact absurd hlength (by decide)
    refine ⟨hlength, ?_, rfl⟩
    simp only [List.getLastD_eq_getLast?, List.getLast?_eq_some_getLast hne, Option.getD_some]
    exact List.getLast_mem hne
  next => cases h

theorem mem_leadingIdentifiers {t identifier : Text} (h : identifier ∈ leadingIdentifiers t) :
    identifier ≠ [] ∧ ∀ c ∈ identifier, isDottedNameChar c = true := by
  have hstart : identifier.head?.any isIdentifierStart = true :=
    List.mem_takeWhile_imp (p := fun s : Text => s.head?.any isIdentifierStart) h
  have hpiece := (List.takeWhile_prefix _).subset h
  refine ⟨?_, fun c hc => ?_⟩
  · rintro rfl
    exact Bool.false_ne_true hstart
  · exact List.mem_takeWhile_imp (mem_of_mem_splitOn hpiece hc).1

theorem within_qualifiedName : qualifiedName.Within isDottedNameChar := by
  refine ⟨fun before t => ?_, fun before t m hm => ?_, fun c t hc => ?_⟩
  · cases t with
    | nil => rfl
    | cons c r =>
      by_cases hc : isDottedNameChar c = true
      · have hhead : ((c :: r).takeWhile isDottedNameChar).head? = (c :: r).head? := by
          rw [List.takeWhile_cons_of_pos hc]
          rfl
        rw [qualifiedName, qualifiedName, hhead, leadingIdentifiers_takeWhile]
      · have hnone : leadingIdentifiers (c :: r) = [] := by
          rw [leadingIdentifiers, List.takeWhile_cons_of_neg hc]
          rfl
        rw [qualifiedName, qualifiedName, leadingIdentifiers_takeWhile, hnone]
        simp
  · obtain ⟨hlength, -, hmore⟩ := qualifiedName_eq_some hm
    have hle := (intercalate_leadingIdentifiers t).length_le
    have hpos : 0 < (['.'].intercalate (leadingIdentifiers t)).length := by
      match hids : leadingIdentifiers t with
      | [] | [_] => simp [hids] at hlength
      | first :: second :: rest =>
        rw [List.intercalate_cons_cons, List.length_append, List.length_append,
          List.length_singleton]
        omega
    omega
  · have hword : isWord c = false := by
      simp only [isDottedNameChar, Bool.or_eq_false_iff] at hc
      exact hc.1.1
    -- a character outside dotted names is no word character, like the start of the text
    have hboundary : boundary (some c) t.head? = boundary none t.head? := by
      simp [boundary, hword]
    rw [qualifiedName, qualifiedName, hboundary]

/-- Dropping package names rewrites the dotted names and nothing else. -/
theorem runMap_dropQualifiers : RunMap isDottedNameChar dropQualifiers where
  nil := rfl
  append_cons x _ y hc := within_qualifiedName.substitute_append_cons hc x y
  run x hne hx := by
    refine ⟨substitute_ne_nil hne fun last u m hm => ?_, fun c hc => ?_⟩
    · exact (mem_leadingIdentifiers (qualifiedName_eq_some hm).2.1).1
    · rcases mem_substitute hc with hc | ⟨last, u, m, -, hm, hc⟩
      · exact hx c hc
      · exact (mem_leadingIdentifiers (qualifiedName_eq_some hm).2.1).2 c hc

/-! ## Spacing and package names -/

/-- Spacing and dropping package names can be exchanged. -/
theorem respace_dropQualifiers (t : Text) :
    respace (dropQualifiers t) = dropQualifiers (respace t) := by
  have hf := runMap_dropQualifiers
  -- the spacing is about characters that stand in no dotted name
  have hpunctuation : spacedPunctuation.Within (!isDottedNameChar ·) := by
    apply within_spacedPunctuation.mono
    intro c hc
    rcases Bool.or_eq_true_iff.1 hc with hc | hc
    · rw [not_isDottedNameChar_of_isBlank hc, Bool.not_false]
    · rw [not_isDottedNameChar_of_isPunctuation hc, Bool.not_false]
  have hbrackets : spacedBrackets.Within (!isDottedNameChar ·) := by
    apply within_spacedBrackets.mono
    intro c hc
    rcases Bool.or_eq_true_iff.1 hc with hc | hc
    · rw [not_isDottedNameChar_of_isBlank hc, Bool.not_false]
    · rw [not_isDottedNameChar_of_isBracket hc, Bool.not_false]
  have hcomma : (Pattern.fixed [','] [',', ' ']).Within (!isDottedNameChar ·) :=
    within_fixed _ (by decide) (by decide)
  rw [respace, respace, hf.collapse_comm fun c => not_isDottedNameChar_of_isBlank,
    RunMap.substitute_comm forward_spacedPunctuation ?_ hf hpunctuation,
    RunMap.substitute_comm forward_spacedBrackets ?_ hf hbrackets, replace, replace,
    RunMap.substitute_comm (forward_fixed _ _) ?_ hf hcomma]
  · intro before u m hm
    rw [written_fixed hm]
    decide
  · intro before u m hm
    obtain ⟨r, s, -, -, rfl⟩ := spacedBrackets_eq_some_iff.1 hm
    refine ⟨List.cons_ne_nil _ _, fun d hd => not_isDottedNameChar_of_isBracket ?_⟩
    simpa [isBracket] using hd
  · intro before u m hm
    obtain ⟨c, r, -, hc, rfl⟩ := spacedPunctuation_eq_some hm
    refine ⟨List.cons_ne_nil _ _, fun d hd => ?_⟩
    rw [List.mem_singleton.1 hd]
    exact not_isDottedNameChar_of_isPunctuation hc

/-- The canonical text without package names is rewritten from that with package names. -/
theorem canonical_simple (s : Text) :
    canonical .simple s = dropQualifiers (canonical .qualified s) :=
  respace_dropQualifiers (erase s)

/-! ## Texts that show a declaration -/

theorem shape_isSome_of_alike {t u : Text} (h : Alike isDottedNameChar t u)
    (ht : (Shape.ofText? t).isSome = true) : (Shape.ofText? u).isSome = true := by
  have hout : ∀ c, isDottedNameChar c = true → isOutsideParentheses c = true :=
    fun c => isOutsideParentheses_of_isDottedNameChar
  have hname : ∀ c, isDottedNameChar c = true → isNameChar c = true :=
    fun c => isNameChar_of_isDottedNameChar
  -- the shape is read from the end, where the texts are alike too
  have hreverse := h.reverse
  rw [Shape.ofText?] at ht ⊢
  cases hbody : t.reverse with
  | nil => simp [hbody] at ht
  | cons c body =>
    rw [hbody] at ht hreverse
    by_cases hc : c = ')'
    · subst hc
      obtain ⟨body', hbody', halike⟩ := hreverse.exists_cons (by decide)
      have hdrop := halike.dropWhile hout
      simp only at ht
      cases hfront : body.dropWhile isOutsideParentheses with
      | nil => simp [hfront] at ht
      | cons d front =>
        rw [hfront] at ht hdrop
        by_cases hd : d = '('
        · subst hd
          obtain ⟨front', hfront', hfronts⟩ := hdrop.exists_cons (by decide)
          have hne : front.takeWhile isNameChar ≠ [] := by
            intro hnil
            simp [hnil] at ht
          have hne' := hfronts.takeWhile_ne_nil hname hne
          simp [hbody', hfront', hne']
        · simp [hd] at ht
    · simp [hc] at ht

/-- A text shows a declaration with its package names if and only if it does without them. -/
theorem isSome_ofText? (s : Text) :
    (ofText? s).isSome = (Shape.ofText? (canonical .simple s)).isSome := by
  -- the text and its image differ in dotted names only
  have halike := runMap_dropQualifiers.alike (canonical .qualified s)
  rw [← canonical_simple] at halike
  rw [ofText?, ofCanonical?, Option.isSome_map, Bool.eq_iff_iff]
  exact ⟨shape_isSome_of_alike halike, shape_isSome_of_alike halike.symm⟩

end Disassembly.Signature
