import Disassembly.Proofs.Text.Replacement
import Disassembly.Signature.Canonical
import Mathlib.Tactic

/-!
# Erasing nested brackets

`Erases t u` says that the brackets of `t` are balanced and that `u` is what stands outside them.
One round of erasure keeps what stands outside and, if there is any bracket pair, takes one away
(`Erases.eraseInnermost`), so the rounds end with the text outside the brackets
(`Erases.erasePairs_eq`). The names of the special methods get through if no bracket pair of the
rest is written like them (`Generic.eraseGenerics_init`, `Generic.eraseGenerics_clinit`).
-/

set_option autoImplicit false

namespace Disassembly.Signature

open Text

/-! ## Balanced brackets -/

/-- The brackets of the first text are balanced, and the second text stands outside them. -/
inductive Erases : Text → Text → Prop where
  | nil : Erases [] []
  | plain {c : Char} {t u : Text} (hc : isPlain c = true) (h : Erases t u) :
      Erases (c :: t) (c :: u)
  | pair {inner v t u : Text} (hinner : Erases inner v) (h : Erases t u) :
      Erases ('<' :: inner ++ '>' :: t) u

/-- The brackets of the text are balanced. -/
def Balanced (t : Text) : Prop :=
  ∃ u, Erases t u

theorem isPlain_iff {c : Char} : isPlain c = true ↔ c ≠ '<' ∧ c ≠ '>' := by
  simp [isPlain]

namespace Erases

theorem append {t u t' u' : Text} (h : Erases t u) (h' : Erases t' u') :
    Erases (t ++ t') (u ++ u') := by
  induction h with
  | nil => exact h'
  | plain hc _ ih => exact .plain hc ih
  | @pair inner v t u hinner _ _ ih =>
    rw [List.append_assoc]
    exact .pair hinner ih

theorem of_plain {t : Text} (h : ∀ c ∈ t, isPlain c = true) : Erases t t := by
  induction t with
  | nil => exact .nil
  | cons c t ih =>
    exact .plain (h c List.mem_cons_self) (ih fun d hd => h d (List.mem_cons_of_mem c hd))

/-- In front of the first bracket stand plain characters, and the first bracket is an opening
one. -/
theorem dropWhile_isPlain {t u : Text} (h : Erases t u) :
    (∀ c ∈ t, isPlain c = true) ∨ ∃ r, t.dropWhile isPlain = '<' :: r := by
  induction h with
  | nil => exact Or.inl fun c hc => absurd hc List.not_mem_nil
  | plain hc _ ih =>
    rw [List.dropWhile_cons_of_pos hc]
    -- a plain character changes nothing about what stands behind it
    refine ih.imp_left fun hall d hd => ?_
    rcases List.mem_cons.1 hd with rfl | hd
    · exact hc
    · exact hall d hd
  | pair _ _ _ _ => exact Or.inr ⟨_, rfl⟩

end Erases

/-! ## One round of erasure -/

theorem forward_innermostPair : innermostPair.Forward :=
  fun _ _ => rfl

theorem eraseInnermost_cons_of_ne {c : Char} (hc : c ≠ '<') (rest : Text) :
    eraseInnermost (c :: rest) = c :: eraseInnermost rest := by
  apply forward_innermostPair.substitute_cons_none
  simp only [innermostPair]
  split
  next h => exact absurd (List.cons.inj h).1 hc
  next => rfl

/-- A pair that holds no bracket is erased. -/
theorem eraseInnermost_pair {inner : Text} (h : ∀ c ∈ inner, isPlain c = true) (rest : Text) :
    eraseInnermost ('<' :: inner ++ '>' :: rest) = eraseInnermost rest := by
  have hrest : ∀ c ∈ ('>' :: rest).head?, isPlain c = false := by
    rintro c ⟨⟩
    rfl
  have hsome : innermostPair none ('<' :: (inner ++ '>' :: rest)) =
      some ⟨inner.length + 1, []⟩ := by
    simp only [innermostPair, dropWhile_run h hrest, takeWhile_run h hrest]
  have hdrop : (inner ++ '>' :: rest).drop (inner.length + 1) = rest := by simp
  rw [eraseInnermost, List.cons_append, forward_innermostPair.substitute_cons_some hsome, hdrop]
  rfl

/-- An opening bracket is kept if the next bracket is another opening one. -/
theorem eraseInnermost_open {inner r : Text} (h : inner.dropWhile isPlain = '<' :: r)
    (rest : Text) :
    eraseInnermost ('<' :: (inner ++ rest)) = '<' :: eraseInnermost (inner ++ rest) := by
  have hdrop : (inner ++ rest).dropWhile isPlain = '<' :: (r ++ rest) := by
    rw [List.dropWhile_append, h]
    rfl
  apply forward_innermostPair.substitute_cons_none
  simp [innermostPair, hdrop]

/-- One round keeps what stands outside the brackets. It takes an opening bracket away, or there is
none, and it does not reach beyond the text. -/
theorem Erases.eraseInnermost {t u : Text} (h : Erases t u) :
    ∃ t', Erases t' u ∧
      (∀ rest, Signature.eraseInnermost (t ++ rest) = t' ++ Signature.eraseInnermost rest) ∧
      (t' = t ∧ '<' ∉ t ∨ t'.count '<' < t.count '<') := by
  induction h with
  | nil => exact ⟨[], .nil, fun _ => rfl, Or.inl ⟨rfl, List.not_mem_nil⟩⟩
  | @plain c t u hc _ ih =>
    obtain ⟨t', herases, hround, hcount⟩ := ih
    have hne : c ≠ '<' := (isPlain_iff.1 hc).1
    refine ⟨c :: t', .plain hc herases, fun rest => ?_, ?_⟩
    · rw [List.cons_append, eraseInnermost_cons_of_ne hne, hround]
      rfl
    · rw [List.count_cons_of_ne hne, List.count_cons_of_ne hne]
      rcases hcount with ⟨rfl, hnone⟩ | hlt
      · exact Or.inl ⟨rfl, fun hmem => (List.mem_cons.1 hmem).elim (hne ∘ Eq.symm) hnone⟩
      · exact Or.inr hlt
  | @pair inner v t u hinner _ ihinner ih =>
    obtain ⟨inner', hinner', hinnerRound, hinnerCount⟩ := ihinner
    obtain ⟨t', herases, hround, hcount⟩ := ih
    -- the part behind the pair does not get more brackets
    have hle : t'.count '<' ≤ t.count '<' := by
      rcases hcount with ⟨rfl, -⟩ | hlt
      · exact Nat.le_refl _
      · exact Nat.le_of_lt hlt
    rcases hinner.dropWhile_isPlain with hplain | ⟨r, hopen⟩
    · -- the pair holds no bracket and goes
      refine ⟨t', herases, fun rest => ?_, Or.inr ?_⟩
      · rw [List.append_assoc, List.cons_append, List.cons_append, ← List.cons_append,
          eraseInnermost_pair hplain, hround]
      · rw [List.count_append, List.count_cons_self, List.count_cons_of_ne (by decide)]
        omega
    · -- the pair stays, and a round is made of what it holds
      refine ⟨'<' :: inner' ++ '>' :: t', .pair hinner' herases, fun rest => ?_, Or.inr ?_⟩
      · rw [List.append_assoc, List.cons_append, eraseInnermost_open hopen, hinnerRound,
          List.cons_append, eraseInnermost_cons_of_ne (by decide), hround]
        simp
      · have hmem : '<' ∈ inner :=
          (List.dropWhile_suffix isPlain).subset (hopen ▸ List.mem_cons_self)
        rcases hinnerCount with ⟨-, hnone⟩ | hlt
        · exact absurd hmem hnone
        · simp only [List.count_append, List.count_cons_self, List.cons_append,
            List.count_cons_of_ne (show ('>' : Char) ≠ '<' by decide)]
          omega

/-! ## One round in a longer text -/

/-- A text is plain, or it has a first bracket. -/
theorem plain_or_bracket (x : Text) : (∀ c ∈ x, isPlain c = true) ∨
    ∃ inner b s, x = inner ++ b :: s ∧ (∀ c ∈ inner, isPlain c = true) ∧ (b = '<' ∨ b = '>') := by
  cases hdrop : x.dropWhile isPlain with
  | nil => exact Or.inl (List.dropWhile_eq_nil_iff.1 hdrop)
  | cons b s =>
    have hb : isPlain b = false := head?_dropWhile x b (by rw [hdrop]; rfl)
    refine Or.inr ⟨x.takeWhile isPlain, b, s, ?_, fun c hc => List.mem_takeWhile_imp hc, ?_⟩
    · rw [← hdrop, List.takeWhile_append_dropWhile]
    · rw [Bool.eq_false_iff, Ne, isPlain_iff] at hb
      by_contra h
      rw [not_or] at h
      exact hb h

/-- Induction on a text by the bracket that follows an opening one: there is none, it opens a pair
too, or it closes the pair. -/
@[elab_as_elim]
theorem bracketInduction {motive : Text → Prop} (t : Text) (nil : motive [])
    (other : ∀ c r, c ≠ '<' → motive r → motive (c :: r))
    (last : ∀ r, (∀ c ∈ r, isPlain c = true) → motive r → motive ('<' :: r))
    (nested : ∀ inner s, (∀ c ∈ inner, isPlain c = true) → motive (inner ++ '<' :: s) →
      motive ('<' :: (inner ++ '<' :: s)))
    (pair : ∀ inner s, (∀ c ∈ inner, isPlain c = true) → motive s →
      motive ('<' :: inner ++ '>' :: s)) : motive t := by
  induction hn : t.length using Nat.strong_induction_on generalizing t with
  | h n ih =>
    cases t with
    | nil => exact nil
    | cons c r =>
      have hrest : motive r := ih r.length (by simp [← hn]) r rfl
      by_cases hopen : c = '<'
      · subst hopen
        rcases plain_or_bracket r with hplain | ⟨inner, b, s, rfl, hplain, rfl | rfl⟩
        · exact last r hplain hrest
        · exact nested inner s hplain hrest
        · have hlt : s.length < n := by
            rw [← hn]
            simp
            omega
          exact pair inner s hplain (ih s.length hlt s rfl)
      · exact other c r hopen hrest

/-- An opening bracket is left if the next bracket is not a closing one. -/
theorem eraseInnermost_open_of_head {r : Text} (h : (r.dropWhile isPlain).head? ≠ some '>') :
    eraseInnermost ('<' :: r) = '<' :: eraseInnermost r := by
  apply forward_innermostPair.substitute_cons_none
  simp only [innermostPair]
  split
  next s heq => exact absurd (by rw [heq]; rfl) h
  next => rfl

theorem dropWhile_isPlain_append {x : Text} (hx : ∀ c ∈ x, isPlain c = true) (y : Text) :
    (x ++ y).dropWhile isPlain = y.dropWhile isPlain :=
  List.dropWhile_append_of_pos hx

/-- Plain characters are left in front of what follows them. -/
theorem eraseInnermost_plain_append {x : Text} (hx : ∀ c ∈ x, isPlain c = true) (y : Text) :
    eraseInnermost (x ++ y) = x ++ eraseInnermost y := by
  induction x with
  | nil => rfl
  | cons c x ih =>
    rw [List.cons_append, eraseInnermost_cons_of_ne (isPlain_iff.1 (hx c List.mem_cons_self)).1,
      ih fun e he => hx e (List.mem_cons_of_mem c he)]
    rfl

/-- A pair does not reach over an opening bracket, so a text falls in two in front of one. -/
theorem eraseInnermost_append {y : Text} (hy : (y.dropWhile isPlain).head? = some '<') (x : Text) :
    eraseInnermost (x ++ y) = eraseInnermost x ++ eraseInnermost y := by
  induction x using bracketInduction with
  | nil => rfl
  | other c r hc ih =>
    rw [List.cons_append, eraseInnermost_cons_of_ne hc, eraseInnermost_cons_of_ne hc, ih]
    rfl
  | last r hplain ih =>
    -- the next bracket is the opening one of the second part, if it has one
    have hleft : (r.dropWhile isPlain).head? ≠ some '>' := by
      rw [List.dropWhile_eq_nil_iff.2 hplain]
      exact nofun
    have hwhole : ((r ++ y).dropWhile isPlain).head? ≠ some '>' := by
      rw [dropWhile_isPlain_append hplain, hy]
      decide
    rw [List.cons_append, eraseInnermost_open_of_head hwhole, eraseInnermost_open_of_head hleft, ih]
    rfl
  | nested inner s hplain ih =>
    have hdrop : (inner ++ '<' :: s).dropWhile isPlain = '<' :: s :=
      dropWhile_isPlain_append hplain _
    have hleft := eraseInnermost_open hdrop []
    rw [List.append_nil] at hleft
    rw [List.cons_append, eraseInnermost_open hdrop, ih, hleft]
    rfl
  | pair inner s hplain ih =>
    have hassoc : '<' :: inner ++ '>' :: s ++ y = '<' :: inner ++ '>' :: (s ++ y) := by simp
    rw [hassoc, eraseInnermost_pair hplain, eraseInnermost_pair hplain, ih]

/-! ## All rounds -/

/-- A round that changes nothing does not end the rounds too early. -/
theorem eraseRounds_succ (n : Nat) (t : Text) :
    eraseRounds (n + 1) t = eraseRounds n (eraseInnermost t) := by
  rw [eraseRounds]
  split
  next h =>
    rw [h]
    cases n with
    | zero => rfl
    | succ n => rw [eraseRounds, if_pos h]
  next => rfl

theorem Erases.eraseRounds_eq {t u : Text} (h : Erases t u) {n : Nat} (hn : t.count '<' ≤ n) :
    eraseRounds n t = u := by
  have hdone : ∀ {t u}, Erases t u → '<' ∉ t → t = u := by
    intro t u h hnone
    induction h with
    | nil => rfl
    | @plain c t u _ _ ih => rw [ih fun hmem => hnone (List.mem_cons_of_mem c hmem)]
    | pair _ _ _ _ => exact absurd List.mem_cons_self hnone
  -- each round that changes the text takes an opening bracket away, so there are enough rounds
  induction n generalizing t with
  | zero =>
    rw [eraseRounds]
    exact hdone h (List.count_eq_zero.1 (Nat.le_zero.1 hn))
  | succ n ih =>
    obtain ⟨t', herases, hround, hcount⟩ := h.eraseInnermost
    have hnext : Signature.eraseInnermost t = t' := by
      have hnil := hround []
      rwa [List.append_nil, show Signature.eraseInnermost [] = [] from rfl, List.append_nil] at hnil
    simp only [eraseRounds, hnext]
    rcases hcount with ⟨rfl, hnone⟩ | hlt
    · rw [if_pos rfl]
      exact hdone h hnone
    · rw [if_neg fun heq => by rw [heq] at hlt; exact Nat.lt_irrefl _ hlt]
      exact ih herases (by omega)

/-- All rounds together leave what stands outside the brackets. -/
theorem Erases.erasePairs_eq {t u : Text} (h : Erases t u) : erasePairs t = u :=
  h.eraseRounds_eq (Nat.le_refl _)

/-! ## Names of special methods -/

theorem rewrites_initName : Rewrites initName initShield initName initShield :=
  rewrites_old (by decide)

/-- The name of the class initializer ends like that of the constructor but does not hold it. -/
theorem rewrites_initName_clinitName : Rewrites initName initShield clinitName clinitName :=
  rewrites_self_of_last "<init".toList rfl (by decide) rfl (by decide)

theorem rewrites_clinitName : Rewrites clinitName clinitShield clinitName clinitShield :=
  rewrites_old (by decide)

theorem rewrites_clinitName_initShield : Rewrites clinitName clinitShield initShield initShield :=
  rewrites_self_of_head rfl (by decide)

theorem rewrites_initShield : Rewrites initShield initName initShield initName :=
  rewrites_old (by decide)

/-- The shield of a class initializer, up to its last character, is no part of the shield of a
constructor. -/
theorem rewrites_initShield_front : Rewrites initShield initName ('\x00' :: "clinit".toList)
    ('\x00' :: "clinit".toList) := by
  refine .cons (fun rest hstart => ?_) (rewrites_self_of_head rfl (by decide))
  have hletters : "init\x00".toList <+: "clinit".toList ++ rest :=
    (List.cons_prefix_cons.1 hstart).2
  exact absurd (List.cons_prefix_cons.1 hletters).1 (by decide)

theorem rewrites_clinitShield : Rewrites clinitShield clinitName clinitShield clinitName :=
  rewrites_old (by decide)

theorem rewrites_clinitShield_initName : Rewrites clinitShield clinitName initName initName :=
  rewrites_self_of_head rfl (by decide)

/-- The second text is what the first one leaves when type arguments are erased, also beside the
name of a special method. -/
structure Generic (t u : Text) : Prop where
  erases : Erases t u
  init : Rewrites initName initShield t t
  clinit : Rewrites clinitName clinitShield t t
  noShield : '\x00' ∉ u

namespace Generic

theorem nil : Generic [] [] :=
  ⟨.nil, .nil, .nil, List.not_mem_nil⟩

theorem append {t u t' u' : Text} (h : Generic t u) (h' : Generic t' u') :
    Generic (t ++ t') (u ++ u') := by
  refine ⟨h.erases.append h'.erases, h.init.append h'.init, h.clinit.append h'.clinit, ?_⟩
  rw [List.mem_append, not_or]
  exact ⟨h.noShield, h'.noShield⟩

/-- A text without brackets stays. -/
theorem of_plain {t : Text} (h : ∀ c ∈ t, isPlain c = true) (hshield : '\x00' ∉ t) :
    Generic t t := by
  have hopen : '<' ∉ t := fun hmem => absurd (h '<' hmem) (by decide)
  exact ⟨.of_plain h, rewrites_self_of_head rfl hopen, rewrites_self_of_head rfl hopen, hshield⟩

/-- A bracket pair goes, if nothing in it is written like the name of a special method. -/
theorem of_pair {inner : Text} (h : Balanced inner)
    (hinit : ¬initName <:+: '<' :: inner ++ ['>'])
    (hclinit : ¬clinitName <:+: '<' :: inner ++ ['>']) : Generic ('<' :: inner ++ ['>']) [] := by
  obtain ⟨v, h⟩ := h
  have hlast : ('<' :: inner ++ ['>']).getLast? = some '>' := List.getLast?_concat
  refine ⟨.pair h .nil, ?_, ?_, List.not_mem_nil⟩
  · exact rewrites_self_of_last "<init".toList rfl (by decide) hlast hinit
  · exact rewrites_self_of_last "<clinit".toList rfl (by decide) hlast hclinit

theorem rewrites_shield {t u : Text} (h : Generic t u) {shielded name : Text}
    (hhead : shielded.head? = some '\x00') : Rewrites shielded name u u :=
  rewrites_self_of_head hhead h.noShield

theorem eraseGenerics_eq {t u : Text} (h : Generic t u) : eraseGenerics t = u := by
  have hshield : shield t = t := by
    rw [shield, h.init.replace_eq, h.clinit.replace_eq]
  rw [eraseGenerics, hshield, h.erases.erasePairs_eq, unshield, (h.rewrites_shield rfl).replace_eq,
    (h.rewrites_shield rfl).replace_eq]

theorem eraseGenerics_init {t u t' u' : Text} (h : Generic t u) (h' : Generic t' u') :
    eraseGenerics (t ++ initName ++ t') = u ++ initName ++ u' := by
  have hshield : shield (t ++ initName ++ t') = t ++ initShield ++ t' := by
    rw [shield, ((h.init.append rewrites_initName).append h'.init).replace_eq,
      ((h.clinit.append rewrites_clinitName_initShield).append h'.clinit).replace_eq]
  have herases : Erases (t ++ initShield ++ t') (u ++ initShield ++ u') :=
    (h.erases.append (.of_plain (by decide))).append h'.erases
  rw [eraseGenerics, hshield, herases.erasePairs_eq, unshield,
    (((h.rewrites_shield rfl).append rewrites_initShield).append
      (h'.rewrites_shield rfl)).replace_eq,
    (((h.rewrites_shield rfl).append rewrites_clinitShield_initName).append
      (h'.rewrites_shield rfl)).replace_eq]

theorem eraseGenerics_clinit {t u t' u' : Text} (h : Generic t u) (h' : Generic t' u') :
    eraseGenerics (t ++ clinitName ++ t') = u ++ clinitName ++ u' := by
  have hshield : shield (t ++ clinitName ++ t') = t ++ clinitShield ++ t' := by
    rw [shield, ((h.init.append rewrites_initName_clinitName).append h'.init).replace_eq,
      ((h.clinit.append rewrites_clinitName).append h'.clinit).replace_eq]
  have herases : Erases (t ++ clinitShield ++ t') (u ++ clinitShield ++ u') :=
    (h.erases.append (.of_plain (by decide))).append h'.erases
  have hkept : replace initShield initName (u ++ clinitShield ++ u') = u ++ clinitShield ++ u' := by
    -- the last character of the shield could only start a place that ends in another such character
    have hrest : ¬initShield <:+: '\x00' :: u' := by
      intro hinside
      have hcount := hinside.sublist.count_le '\x00'
      rw [List.count_cons_self, List.count_eq_zero.2 h'.noShield] at hcount
      exact absurd hcount (by decide)
    have hsplit : u ++ clinitShield ++ u' =
        u ++ ('\x00' :: "clinit".toList) ++ '\x00' :: u' := by
      have hshielded : clinitShield = '\x00' :: "clinit".toList ++ ['\x00'] := by decide
      rw [hshielded]
      simp only [List.append_assoc, List.cons_append, List.nil_append]
    rw [hsplit, ((h.rewrites_shield rfl).append rewrites_initShield_front) _, replace_eq_self hrest]
  rw [eraseGenerics, hshield, herases.erasePairs_eq, unshield, hkept,
    (((h.rewrites_shield rfl).append rewrites_clinitShield).append
      (h'.rewrites_shield rfl)).replace_eq]

end Generic

end Disassembly.Signature
