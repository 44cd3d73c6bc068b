import Disassembly.Proofs.Declaration.Canonical
import Mathlib.Tactic

/-!
# Two texts that differ in one stretch

Two ways to write a part of a signature give two texts that differ in one stretch (`DifferIn`).
Every pass on the way to the canonical text either carries the stretch along, whatever stands around
it, or takes it away together with what is around it and so makes the two texts equal. The lemmas of
this module say so of each pass, with what the pass needs to know of the two stretches. In the end
the spacing is settled, and the texts are equal if the stretches are spaced alike
(`DifferIn.respace_eq`).
-/

set_option autoImplicit false

namespace Disassembly.Declaration

open Text Signature

/-- The texts are equal, or the second one has `z'` in a place where the first one has `z`. -/
inductive DifferIn (z z' : Text) : Text → Text → Prop where
  | same (t : Text) : DifferIn z z' t t
  | apart (x y : Text) : DifferIn z z' (x ++ (z ++ y)) (x ++ (z' ++ y))

namespace DifferIn

variable {z z' t t' : Text}

theorem append_left (x : Text) (h : DifferIn z z' t t') : DifferIn z z' (x ++ t) (x ++ t') := by
  cases h with
  | same t => exact .same _
  | apart u y =>
    have h : DifferIn z z' (x ++ u ++ (z ++ y)) (x ++ u ++ (z' ++ y)) := .apart (x ++ u) y
    rwa [List.append_assoc, List.append_assoc] at h

theorem cons (c : Char) (h : DifferIn z z' t t') : DifferIn z z' (c :: t) (c :: t') :=
  h.append_left [c]

/-- A pass is followed through the two texts by what it does around the stretches. -/
theorem map {f : Text → Text} {u u' : Text} (h : DifferIn z z' t t')
    (hf : ∀ x y, DifferIn u u' (f (x ++ (z ++ y))) (f (x ++ (z' ++ y)))) :
    DifferIn u u' (f t) (f t') := by
  cases h with
  | same t => exact .same _
  | apart x y => exact hf x y

/-- What stretches have in common at their start belongs to their surroundings. -/
theorem of_append {x : Text} (h : DifferIn (x ++ z) (x ++ z') t t') : DifferIn z z' t t' := by
  cases h with
  | same t => exact .same t
  | apart u y =>
    have hassoc : ∀ v : Text, u ++ (x ++ v ++ y) = u ++ (x ++ (v ++ y)) := by simp
    rw [hassoc, hassoc]
    exact (DifferIn.apart x y).append_left u

end DifferIn

/-! ## Blank characters around the text -/

theorem trimLeft_append_cons {c : Char} (hc : isBlank c = false) (x y : Text) :
    trimLeft (x ++ c :: y) = trimLeft x ++ c :: y := by
  rw [trimLeft, trimLeft, List.dropWhile_append]
  split
  next h => rw [List.isEmpty_iff.1 h, List.dropWhile_cons_of_neg (by simp [hc])]; rfl
  next => rfl

/-- Trimming reaches to the first and last characters that are not blank. -/
theorem trim_append_cons {c d : Char} (hc : isBlank c = false) (hd : isBlank d = false)
    (x z y : Text) :
    trim (x ++ (c :: (z ++ [d]) ++ y)) = trimLeft x ++ (c :: (z ++ [d]) ++ trimRight y) := by
  have hassoc : ∀ u v : Text, u ++ (c :: (z ++ [d]) ++ v) = u ++ c :: z ++ d :: v := by simp
  have hleft : trimLeft (x ++ c :: z ++ d :: y) = trimLeft x ++ c :: z ++ d :: y := by
    rw [List.append_assoc, List.cons_append, trimLeft_append_cons hc, List.append_assoc,
      List.cons_append]
  rw [hassoc, hassoc, trim, hleft, trimRight, dropWhileEnd_append_cons hd]
  rfl

/-! ## Annotations -/

/-- A stretch in which no annotation begins or ends. -/
structure Unannotated (z : Text) : Prop where
  nonempty : z ≠ []
  head : ∀ c ∈ z.head?, isBlank c = false ∧ c ≠ '('
  quiet : ∀ c ∈ z, c ≠ '@' ∧ c ≠ ')'

theorem dropWhile_isBlank_append {z : Text} (hz : Unannotated z) (x y : Text) :
    (x ++ (z ++ y)).dropWhile isBlank = x.dropWhile isBlank ++ (z ++ y) := by
  obtain ⟨c, r, rfl⟩ := List.exists_cons_of_ne_nil hz.nonempty
  exact trimLeft_append_cons (hz.head c rfl).1 x (r ++ y)

theorem getLast?_of_suffix {u v : Text} (h : u <:+ v) {c : Char} (hc : c ∈ u.getLast?) :
    c ∈ v.getLast? := by
  obtain ⟨w, rfl⟩ := h
  rw [List.getLast?_append, Option.mem_def.1 hc]
  rfl

/-- The name of an annotation ends in front of a character that is in no name, if the text does not
end in it. -/
theorem exists_dropWhile_name {x : Text}
    (hx : ∀ c ∈ ('@' :: x).getLast?, isDottedNameChar c = false ∧ c ≠ '@') :
    ∃ c r, x.dropWhile isDottedNameChar = c :: r ∧ isDottedNameChar c = false := by
  cases hrest : x.dropWhile isDottedNameChar with
  | cons c r => exact ⟨c, r, rfl, head?_dropWhile x c (by rw [hrest]; rfl)⟩
  | nil =>
    have hdotted := List.dropWhile_eq_nil_iff.1 hrest
    obtain ⟨c, hc⟩ := Option.ne_none_iff_exists'.1
      (mt List.getLast?_eq_none_iff.1 (List.cons_ne_nil '@' x))
    obtain ⟨hno, hat⟩ := hx c hc
    rcases List.mem_cons.1 (List.mem_of_getLast? hc) with rfl | hmem
    · exact absurd rfl hat
    · rw [hdotted c hmem] at hno
      cases hno

/-- What is left behind the name of an annotation: its arguments may end in front of the stretch, or
they may go on behind it. -/
theorem differIn_behind_name {z z' : Text} (hz : Unannotated z) (hz' : Unannotated z')
    {r y : Text} (hr : r ≠ []) (hrest : ∀ u, u <:+ r →
      DifferIn z z' (dropAnnotations (u ++ (z ++ y))) (dropAnnotations (u ++ (z' ++ y)))) :
    DifferIn z z' (dropAnnotations (behindArguments (r ++ (z ++ y))))
      (dropAnnotations (behindArguments (r ++ (z' ++ y)))) := by
  have hblank : ∀ u, u <:+ r → DifferIn z z'
      (dropAnnotations ((u ++ (z ++ y)).dropWhile isBlank))
      (dropAnnotations ((u ++ (z' ++ y)).dropWhile isBlank)) := by
    intro u hu
    rw [dropWhile_isBlank_append hz, dropWhile_isBlank_append hz']
    exact hrest _ ((List.dropWhile_suffix isBlank).trans hu)
  have hnone : argumentLength (r ++ (z ++ y)) = 0 → argumentLength (r ++ (z' ++ y)) = 0 →
      DifferIn z z' (dropAnnotations (behindArguments (r ++ (z ++ y))))
        (dropAnnotations (behindArguments (r ++ (z' ++ y)))) := by
    intro h h'
    rw [behindArguments, behindArguments, h, h', List.drop_zero, List.drop_zero]
    exact hblank r (List.suffix_refl r)
  obtain ⟨c, r, rfl⟩ := List.exists_cons_of_ne_nil hr
  by_cases hopen : c = '('
  · subst hopen
    by_cases hclose : ')' ∈ r
    · -- the arguments end in front of the stretch
      obtain ⟨u, v, rfl, hu⟩ := List.eq_append_cons_of_mem hclose
      have hassoc : ∀ s : Text, '(' :: (u ++ ')' :: v) ++ s = '(' :: (u ++ ')' :: (v ++ s)) := by
        simp
      rw [hassoc, hassoc, behindArguments, behindArguments, drop_argumentLength hu,
        drop_argumentLength hu]
      exact hblank v ⟨'(' :: (u ++ [')']), by simp⟩
    · by_cases hbehind : ')' ∈ y
      · -- the arguments end behind the stretch, which goes with them
        obtain ⟨u, v, rfl, hu⟩ := List.eq_append_cons_of_mem hbehind
        have hdrop : ∀ s, Unannotated s → (('(' :: r ++ (s ++ (u ++ ')' :: v))).drop
            (argumentLength ('(' :: r ++ (s ++ (u ++ ')' :: v))))) = v := by
          intro s hs
          have hinside : ')' ∉ r ++ (s ++ u) := by
            rw [List.mem_append, List.mem_append, not_or, not_or]
            exact ⟨hclose, fun h => (hs.quiet _ h).2 rfl, hu⟩
          have hassoc : '(' :: r ++ (s ++ (u ++ ')' :: v)) =
              '(' :: (r ++ (s ++ u) ++ ')' :: v) := by simp
          rw [hassoc, drop_argumentLength hinside]
        rw [behindArguments, behindArguments, hdrop z hz, hdrop z' hz']
        exact .same _
      · -- the parenthesis is not closed, so it opens no arguments
        have hnowhere : ∀ s, Unannotated s → ')' ∉ '(' :: r ++ (s ++ y) := by
          intro s hs h
          rcases List.mem_append.1 h with h | h
          · exact (List.mem_cons.1 h).elim (by decide) hclose
          · exact (List.mem_append.1 h).elim (fun h => (hs.quiet _ h).2 rfl) hbehind
        exact hnone (argumentLength_of_notMem (hnowhere z hz))
          (argumentLength_of_notMem (hnowhere z' hz'))
  · have hhead : ∀ s : Text, (c :: r ++ s).head? ≠ some '(' := fun s h =>
      hopen (Option.some.inj h)
    exact hnone (argumentLength_of_head (hhead _)) (argumentLength_of_head (hhead _))

/-- Behind a text that cannot go on as the name of an annotation, a stretch is left as it is, or it
belongs to the arguments of an annotation and goes with them. -/
theorem differIn_dropAnnotations {z z' : Text} (hz : Unannotated z) (hz' : Unannotated z')
    (x y : Text) (hx : ∀ c ∈ x.getLast?, isDottedNameChar c = false ∧ c ≠ '@') :
    DifferIn z z' (dropAnnotations (x ++ (z ++ y))) (dropAnnotations (x ++ (z' ++ y))) := by
  -- an annotation goes with several characters at once, so the induction is on the length
  induction hlength : x.length using Nat.strong_induction_on generalizing x with
  | _ n ih =>
    have hrest : ∀ u, u <:+ x → u.length < x.length →
        DifferIn z z' (dropAnnotations (u ++ (z ++ y))) (dropAnnotations (u ++ (z' ++ y))) :=
      fun u hu hlt => ih u.length (hlength ▸ hlt) u
        (fun c hc => hx c (getLast?_of_suffix hu hc)) rfl
    cases x with
    | nil =>
      rw [List.nil_append, List.nil_append, dropAnnotations_append fun h => (hz.quiet _ h).1 rfl,
        dropAnnotations_append fun h => (hz'.quiet _ h).1 rfl]
      exact .apart [] _
    | cons e x =>
      have hnext := hrest x (List.suffix_cons e x) (Nat.lt_succ_self _)
      by_cases hat : e = '@'
      · subst hat
        obtain ⟨c, r, hdrop, hc⟩ := exists_dropWhile_name hx
        have hsplit : ∀ s, x ++ s = x.takeWhile isDottedNameChar ++ (c :: r ++ s) := by
          intro s
          rw [← List.append_assoc, ← hdrop, List.takeWhile_append_dropWhile]
        have hhead : ∀ s : Text, ∀ d ∈ (c :: r ++ s).head?, isDottedNameChar d = false := by
          rintro s d ⟨⟩
          exact hc
        have hsuffix : c :: r <:+ x := hdrop ▸ List.dropWhile_suffix _
        by_cases hname : x.takeWhile isDottedNameChar = []
        · -- behind the `@` stands no name
          have hkept : ∀ s,
              dropAnnotations ('@' :: (x ++ s)) = '@' :: dropAnnotations (x ++ s) := by
            refine fun s => forward_annotation.substitute_cons_none (annotation_eq_none fun _ => ?_)
            rw [hsplit, hname]
            exact hhead s
          rw [List.cons_append, List.cons_append, hkept, hkept]
          exact hnext.cons '@'
        · have hat : ∀ s, dropAnnotations ('@' :: (x ++ s)) = dropAnnotations
              (behindArguments (c :: r ++ s)) := by
            intro s
            rw [hsplit]
            exact dropAnnotations_at hname (fun d hd => List.mem_takeWhile_imp hd) (hhead s)
          rw [List.cons_append, List.cons_append, hat, hat]
          refine differIn_behind_name hz hz' (List.cons_ne_nil c r) fun u hu => ?_
          have hu' : u <:+ x := hu.trans hsuffix
          exact hrest u (hu'.trans (List.suffix_cons '@' x)) (Nat.lt_succ_of_le hu'.length_le)
      · rw [List.cons_append, List.cons_append, dropAnnotations_cons_of_ne hat,
          dropAnnotations_cons_of_ne hat]
        exact hnext.cons e

/-! ## Thrown types -/

/-- Whether a clause of thrown types starts is told by what stands in front of a character that
cannot go on the word. -/
theorem startsThrows_append {x z : Text} (hx : ∃ c ∈ x, isBlank c = false)
    (hz : ∀ c ∈ z.head?, isWord c = false) : startsThrows (x ++ z) = startsThrows x := by
  have hne : (x.dropWhile isBlank).isEmpty = false := by
    obtain ⟨c, hc, hblank⟩ := hx
    rw [List.isEmpty_eq_false_iff, Ne, List.dropWhile_eq_nil_iff]
    intro hall
    rw [hall c hc] at hblank
    cases hblank
  have htrim : trimLeft (x ++ z) = trimLeft x ++ z := by
    rw [trimLeft, List.dropWhile_append, hne]
    rfl
  simp only [startsThrows, htrim]
  generalize trimLeft x = u
  by_cases hstart : "throws".toList <+: u
  · obtain ⟨v, rfl⟩ := hstart
    have hdrop : ("throws".toList ++ v ++ z).drop 6 = v ++ z := by rw [List.append_assoc]; rfl
    have hhead : (v ++ z).head?.any isWord = v.head?.any isWord := by
      cases v with
      | nil =>
        cases z with
        | nil => rfl
        | cons c r => simpa using hz c rfl
      | cons c v => rfl
    rw [hdrop, hhead, List.isPrefixOf_iff_prefix.2 (List.prefix_append _ v),
      List.isPrefixOf_iff_prefix.2 ((List.prefix_append _ v).trans (List.prefix_append _ z))]
    rfl
  · have hnot : ¬"throws".toList <+: u ++ z := by
      intro h
      rcases List.prefix_or_prefix_of_prefix h (List.prefix_append u z) with h' | ⟨more, hmore⟩
      · exact hstart h'
      · -- the word would go on with a character that is in no word
        rw [← hmore] at h
        have hz' := (List.prefix_append_right_inj u).1 h
        cases more with
        | nil => exact hstart (by rw [← hmore, List.append_nil])
        | cons c s =>
          obtain ⟨r, rfl⟩ := hz'
          have hc : c ∈ "throws".toList := hmore ▸ List.mem_append_right u List.mem_cons_self
          have hword : ∀ d ∈ "throws".toList, isWord d = true := by decide
          have hno := hz c rfl
          rw [hword c hc] at hno
          cases hno
    rw [Bool.eq_false_iff.2 fun h => hstart (List.isPrefixOf_iff_prefix.1 h),
      Bool.eq_false_iff.2 fun h => hnot (List.isPrefixOf_iff_prefix.1 h)]
    rfl

/-! ## Type arguments -/

/-- If there is no bracket between an opening one and the stretch, the pair is closed behind the
stretch, or it is not closed. -/
theorem differIn_eraseInnermost_open {z z' x y : Text} (hz : ∀ c ∈ z, isPlain c = true)
    (hz' : ∀ c ∈ z', isPlain c = true) (hx : ∀ c ∈ x, isPlain c = true)
    (h : DifferIn z z' (eraseInnermost (x ++ (z ++ y))) (eraseInnermost (x ++ (z' ++ y)))) :
    DifferIn z z' (eraseInnermost ('<' :: x ++ (z ++ y)))
      (eraseInnermost ('<' :: x ++ (z' ++ y))) := by
  by_cases hclose : (y.dropWhile isPlain).head? = some '>'
  · obtain ⟨s, hs⟩ := List.head?_eq_some_iff.1 hclose
    have hy : y = y.takeWhile isPlain ++ '>' :: s := by
      rw [← hs, List.takeWhile_append_dropWhile]
    have hpair : ∀ {u}, (∀ c ∈ u, isPlain c = true) →
        eraseInnermost ('<' :: x ++ (u ++ y)) = eraseInnermost s := by
      intro u hu
      have hinner : ∀ c ∈ x ++ (u ++ y.takeWhile isPlain), isPlain c = true :=
        List.forall_mem_append.2 ⟨hx, List.forall_mem_append.2
          ⟨hu, fun c hc => List.mem_takeWhile_imp hc⟩⟩
      have hassoc : '<' :: x ++ (u ++ (y.takeWhile isPlain ++ '>' :: s)) =
          '<' :: (x ++ (u ++ y.takeWhile isPlain)) ++ '>' :: s := by simp
      conv_lhs => rw [hy, hassoc]
      exact eraseInnermost_pair hinner s
    rw [hpair hz, hpair hz']
    exact .same _
  · have hopen : ∀ {u}, (∀ c ∈ u, isPlain c = true) →
        eraseInnermost ('<' :: x ++ (u ++ y)) = '<' :: eraseInnermost (x ++ (u ++ y)) := by
      intro u hu
      rw [List.cons_append]
      refine eraseInnermost_open_of_head ?_
      rwa [dropWhile_isPlain_append hx, dropWhile_isPlain_append hu]
    rw [hopen hz, hopen hz']
    exact h.cons '<'

/-- A stretch without brackets is left as it is, or it stands in a pair and goes with it. -/
theorem differIn_eraseInnermost {z z' t t' : Text} (hz : ∀ c ∈ z, isPlain c = true)
    (hz' : ∀ c ∈ z', isPlain c = true) (h : DifferIn z z' t t') :
    DifferIn z z' (eraseInnermost t) (eraseInnermost t') := by
  refine h.map fun x y => ?_
  induction x using bracketInduction with
  | nil =>
    rw [List.nil_append, List.nil_append, eraseInnermost_plain_append hz,
      eraseInnermost_plain_append hz']
    exact .apart [] _
  | other c r hc ih =>
    rw [List.cons_append, List.cons_append, eraseInnermost_cons_of_ne hc,
      eraseInnermost_cons_of_ne hc]
    exact ih.cons c
  | last r hplain ih => exact differIn_eraseInnermost_open hz hz' hplain ih
  | nested inner s hplain ih =>
    have hdrop : (inner ++ '<' :: s).dropWhile isPlain = '<' :: s :=
      dropWhile_isPlain_append hplain _
    rw [List.cons_append, List.cons_append, eraseInnermost_open hdrop, eraseInnermost_open hdrop]
    exact ih.cons '<'
  | pair inner s hplain ih =>
    have hassoc : ∀ u, '<' :: inner ++ '>' :: s ++ u = '<' :: inner ++ '>' :: (s ++ u) := by simp
    rw [hassoc, hassoc, eraseInnermost_pair hplain, eraseInnermost_pair hplain]
    exact ih

/-! ## Stretches between two names -/

theorem exists_open_of_erases {w : Text} (h : Erases w []) (hne : w ≠ []) : ∃ r, w = '<' :: r := by
  cases h with
  | nil => exact absurd rfl hne
  | pair _ _ => exact ⟨_, rfl⟩

/-- A character of a name between dots. -/
def isPartChar (c : Char) : Bool :=
  isWord c || c == '$'

/-- A character of what makes an array, or of the gap behind it. -/
def isDimensionChar (c : Char) : Bool :=
  isBlank c || isBracket c || c == '.'

theorem isDottedNameChar_of_isPartChar {c : Char} (h : isPartChar c = true) :
    isDottedNameChar c = true := by
  rcases (by simpa [isPartChar] using h : isWord c = true ∨ c = '$') with h | rfl
  · simp [isDottedNameChar, h]
  · decide

theorem isSolid_of_isPartChar {c : Char} (h : isPartChar c = true) : isSolid c = true := by
  have hdotted := isDottedNameChar_of_isPartChar h
  have hnot : ∀ {p : Char → Bool}, (∀ {c}, p c = true → isDottedNameChar c = false) →
      p c = false := by
    intro p hp
    rw [Bool.eq_false_iff]
    intro hpc
    rw [hp hpc] at hdotted
    cases hdotted
  exact isSolid_iff.2 ⟨hnot not_isDottedNameChar_of_isBlank,
    hnot not_isDottedNameChar_of_isPunctuation, hnot not_isDottedNameChar_of_isBracket⟩

theorem not_isBlank_of_isPartChar {c : Char} (h : isPartChar c = true) : isBlank c = false :=
  (isSolid_iff.1 (isSolid_of_isPartChar h)).1

/-- A character of dimensions stands in no word. -/
theorem not_isWord_of_isDimensionChar {c : Char} (h : isDimensionChar c = true) :
    isWord c = false := by
  rcases (by simpa [isDimensionChar, isBracket, or_assoc] using h :
    isBlank c = true ∨ c = '[' ∨ c = ']' ∨ c = '.') with h | rfl | rfl | rfl
  · exact not_isWord_of_isBlank h
  · decide
  · decide
  · decide

/-- The last character of a name, type arguments, the dimensions of an array, and the first
character of the next name. -/
def stretch (c d : Char) (w p : Text) : Text :=
  c :: (w ++ (p ++ [d]))

/-- What stands between the two names apart from type arguments. -/
structure IsDimension (p : Text) : Prop where
  nonempty : p ≠ []
  chars : ∀ c ∈ p, isDimensionChar c = true

theorem IsDimension.notMem {p : Text} (h : IsDimension p) {c : Char}
    (hc : isDimensionChar c = false) : c ∉ p :=
  fun hmem => Bool.false_ne_true (hc.symm.trans (h.chars c hmem))

section Stretch

variable {c d : Char} (hc : isPartChar c = true) (hd : isPartChar d = true) {p p' : Text}
  (hp : IsDimension p) (hp' : IsDimension p')

include hc hd in
theorem notMem_stretch {w p : Text} (hp : IsDimension p) {e : Char} (he : isPartChar e = false)
    (he' : isDimensionChar e = false) (hw : e ∉ w) : e ∉ stretch c d w p := by
  rw [stretch, List.mem_cons, List.mem_append, List.mem_append, List.mem_singleton]
  rintro (rfl | h | h | rfl)
  · exact Bool.false_ne_true (he.symm.trans hc)
  · exact hw h
  · exact hp.notMem he' h
  · exact Bool.false_ne_true (he.symm.trans hd)

include hc hd hp hp' in
/-- A stretch is left as it is, or it belongs to thrown types and goes with them. -/
theorem differIn_dropThrows {w t t' : Text} (hw : ')' ∉ w)
    (h : DifferIn (stretch c d w p) (stretch c d w p') t t') :
    DifferIn (stretch c d w p) (stretch c d w p') (dropThrows t) (dropThrows t') := by
  have hclose : ∀ {p}, IsDimension p → ')' ∉ stretch c d w p := fun hp =>
    notMem_stretch hc hd hp (by decide) (by decide) hw
  -- a clause of thrown types may start in front of the stretch and reach to its first name
  have hstarts : ∀ {p}, IsDimension p → ∀ x y,
      startsThrows (x ++ (stretch c d w p ++ y)) = startsThrows (x ++ c :: w) := by
    intro p hp x y
    have hassoc : x ++ (stretch c d w p ++ y) = (x ++ c :: w) ++ (p ++ d :: y) := by
      simp [stretch]
    obtain ⟨e, r, rfl⟩ := List.exists_cons_of_ne_nil hp.nonempty
    rw [hassoc, startsThrows_append ⟨c, by simp, not_isBlank_of_isPartChar hc⟩]
    rintro f ⟨⟩
    exact not_isWord_of_isDimensionChar (hp.chars e List.mem_cons_self)
  refine h.map fun x y => ?_
  induction x with
  | nil =>
    rw [List.nil_append, List.nil_append, dropThrows_append (hclose hp),
      dropThrows_append (hclose hp')]
    exact .apart [] _
  | cons e x ih =>
    simp only [List.cons_append, dropThrows, hstarts hp, hstarts hp']
    split
    · exact .same _
    · exact ih.cons e

include hd in
/-- A stretch does not stand at the end of the text where semicolons and spaces are cut off. -/
theorem differIn_dropEnd {w t t' : Text} (h : DifferIn (stretch c d w p) (stretch c d w p') t t') :
    DifferIn (stretch c d w p) (stretch c d w p') (dropEnd t) (dropEnd t') := by
  have hend : (d == ';' || d == ' ' || d == '\t') = false := by
    have hsemicolon : d ≠ ';' := ne_of_class hd (by decide)
    have hspace : d ≠ ' ' := ne_of_class hd (by decide)
    have htab : d ≠ '\t' := ne_of_class hd (by decide)
    simp [hsemicolon, hspace, htab]
  have hkept : ∀ x y p, dropEnd (x ++ (stretch c d w p ++ y)) =
      x ++ (stretch c d w p ++ dropEnd y) := by
    intro x y p
    have hassoc : ∀ y, x ++ (stretch c d w p ++ y) = (x ++ c :: (w ++ p)) ++ d :: y := by
      simp [stretch]
    rw [hassoc, hassoc, dropEnd, dropWhileEnd_append_cons hend]
    rfl
  refine h.map fun x y => ?_
  rw [hkept, hkept]
  exact .apart x _

include hc hd hp hp' in
/-- A fixed text whose first and last characters stand in no name, and which goes on with no
character of a dimension and no opening bracket, is replaced in front of the stretch and behind
it. -/
theorem differIn_replace {old new w t t' : Text} {a b : Char} (hold : old.head? = some a)
    (ha : isPartChar a = false) (ha' : isDimensionChar a = false)
    (hlast : old.getLast? = some b) (hb : isPartChar b = false)
    (htail : ∀ e ∈ old.tail, isDimensionChar e = false ∧ e ≠ '<') (hw : Erases w [])
    (hkept : Rewrites old new w w) (h : DifferIn (stretch c d w p) (stretch c d w p') t t') :
    DifferIn (stretch c d w p) (stretch c d w p') (replace old new t) (replace old new t') := by
  have hne : old ≠ [] := by
    rintro rfl
    cases hold
  -- no place of the fixed text reaches from outside into the stretch
  have hstretch : ∀ {p}, IsDimension p → ∀ x y, replace old new (x ++ (stretch c d w p ++ y)) =
      replace old new x ++ (stretch c d w p ++ replace old new y) := by
    intro p hp x y
    have hassoc : ∀ x y, x ++ (stretch c d w p ++ y) = x ++ c :: (w ++ (p ++ ([d] ++ y))) := by
      simp [stretch]
    have hhead : old.head? ≠ some c := by
      rw [hold]
      exact fun hac => Bool.false_ne_true ((Option.some.inj hac ▸ ha).symm.trans hc)
    have hend : old.getLast? ≠ some c := by
      rw [hlast]
      exact fun hbc => Bool.false_ne_true ((Option.some.inj hbc ▸ hb).symm.trans hc)
    have hbehind : ∀ e ∈ (w ++ (p ++ ([d] ++ y))).head?, e ∉ old.tail := by
      refine head?_append (fun e he hmem => ?_) ?_
      · obtain ⟨r, rfl⟩ := exists_open_of_erases hw (by rintro rfl; cases he)
        exact (htail e hmem).2 (Option.some.inj he).symm
      · obtain ⟨e, r, rfl⟩ := List.exists_cons_of_ne_nil hp.nonempty
        rintro f ⟨⟩ hmem
        exact Bool.false_ne_true ((htail e hmem).1.symm.trans (hp.chars e List.mem_cons_self))
    have hdimension : Rewrites old new p p := rewrites_self_of_head hold (hp.notMem ha')
    have hname : Rewrites old new [d] [d] := by
      refine rewrites_self_of_head hold fun hmem => ?_
      exact Bool.false_ne_true ((List.mem_singleton.1 hmem ▸ ha).symm.trans hd)
    rw [hassoc, hassoc, replace_append_cons hne hhead hend hbehind, hkept, hdimension, hname]
  refine h.map fun x y => ?_
  rw [hstretch hp, hstretch hp']
  exact .apart _ _

include hc hd in
theorem isPlain_of_mem_stretch {p : Text} (hp : IsDimension p) :
    ∀ e ∈ stretch c d [] p, isPlain e = true := by
  intro e he
  rw [isPlain_iff]
  constructor
  · rintro rfl
    exact notMem_stretch hc hd hp (by decide) (by decide) List.not_mem_nil he
  · rintro rfl
    exact notMem_stretch hc hd hp (by decide) (by decide) List.not_mem_nil he

include hc hd in
/-- In a round of erasure type arguments in a stretch stand apart from what is around it. -/
theorem eraseInnermost_stretch {w w' p : Text} (hw : Erases w []) (hne : w ≠ [])
    (hp : IsDimension p)
    (hround : ∀ rest, eraseInnermost (w ++ rest) = w' ++ eraseInnermost rest) (x y : Text) :
    eraseInnermost (x ++ (stretch c d w p ++ y)) =
      eraseInnermost x ++ (stretch c d w' p ++ eraseInnermost y) := by
  have hplain := isPlain_of_mem_stretch hc hd hp
  have hcplain : isPlain c = true := hplain c List.mem_cons_self
  have hbehind : ∀ e ∈ p ++ [d], isPlain e = true := fun e he =>
    hplain e (List.mem_cons_of_mem c he)
  have hassoc : stretch c d w p ++ y = c :: (w ++ (p ++ [d] ++ y)) := by simp [stretch]
  have hopen : ((stretch c d w p ++ y).dropWhile isPlain).head? = some '<' := by
    obtain ⟨r, rfl⟩ := exists_open_of_erases hw hne
    rw [hassoc, List.dropWhile_cons_of_pos hcplain]
    rfl
  rw [eraseInnermost_append hopen, hassoc, eraseInnermost_cons_of_ne (isPlain_iff.1 hcplain).1,
    hround, eraseInnermost_plain_append hbehind]
  simp [stretch]

include hc hd hp hp' in
/-- One round of erasure makes the type arguments in a stretch shorter, or there are none left. -/
theorem exists_differIn_eraseInnermost {w : Text} (hw : Erases w []) : ∃ w', Erases w' [] ∧
    (w' = [] ∨ w'.count '<' < w.count '<') ∧ ∀ {t t'},
      DifferIn (stretch c d w p) (stretch c d w p') t t' →
        DifferIn (stretch c d w' p) (stretch c d w' p') (eraseInnermost t) (eraseInnermost t') := by
  by_cases hne : w = []
  · subst hne
    exact ⟨[], .nil, Or.inl rfl, fun h => differIn_eraseInnermost
      (isPlain_of_mem_stretch hc hd hp) (isPlain_of_mem_stretch hc hd hp') h⟩
  · obtain ⟨w', herases, hround, hcount⟩ := hw.eraseInnermost
    refine ⟨w', herases, Or.inr ?_, ?_⟩
    · rcases hcount with ⟨-, hnone⟩ | hlt
      · obtain ⟨r, rfl⟩ := exists_open_of_erases hw hne
        exact absurd List.mem_cons_self hnone
      · exact hlt
    · refine fun h => h.map fun x y => ?_
      rw [eraseInnermost_stretch hc hd hw hne hp hround,
        eraseInnermost_stretch hc hd hw hne hp' hround]
      exact .apart _ _

include hc hd hp hp' in
/-- A stretch loses its type arguments when all pairs are erased, or it stands in a pair and goes
with it. -/
theorem differIn_eraseRounds {n : Nat} {w t t' : Text} (hw : Erases w []) (hn : w.count '<' ≤ n)
    (h : DifferIn (stretch c d w p) (stretch c d w p') t t') :
    DifferIn (stretch c d [] p) (stretch c d [] p') (eraseRounds n t) (eraseRounds n t') := by
  -- every round takes a bracket from the type arguments, so `n` rounds are enough for them
  induction n generalizing w t t' with
  | zero =>
    obtain rfl : w = [] := by
      by_contra hne
      obtain ⟨r, rfl⟩ := exists_open_of_erases hw hne
      rw [List.count_cons_self] at hn
      omega
    exact h
  | succ n ih =>
    obtain ⟨w', herases, hcount, hround⟩ := exists_differIn_eraseInnermost hc hd hp hp' hw
    rw [eraseRounds_succ, eraseRounds_succ]
    refine ih herases ?_ (hround h)
    rcases hcount with rfl | hlt
    · exact Nat.zero_le n
    · omega

include hc hd hp hp' in
theorem differIn_erasePairs {w t t' : Text} (hw : Erases w [])
    (h : DifferIn (stretch c d w p) (stretch c d w p') t t') :
    DifferIn (stretch c d [] p) (stretch c d [] p') (erasePairs t) (erasePairs t') := by
  have hcount : ∀ {p}, IsDimension p → (stretch c d w p).count '<' = w.count '<' := by
    intro p hp
    have hcne : c ≠ '<' := ne_of_class hc (by decide)
    have hdne : d ≠ '<' := ne_of_class hd (by decide)
    have hdimension : p.count '<' = 0 := List.count_eq_zero.2 (hp.notMem (by decide))
    rw [stretch, List.count_cons_of_ne hcne, List.count_append, List.count_append, hdimension,
      List.count_singleton, if_neg (by simpa using hdne), Nat.add_zero]
  cases h with
  | same t => exact .same _
  | apart x y =>
    -- the number of rounds is the number of opening brackets, the same for both texts
    have hsame : (x ++ (stretch c d w p' ++ y)).count '<' =
        (x ++ (stretch c d w p ++ y)).count '<' := by
      simp only [List.count_append, hcount hp, hcount hp']
    rw [erasePairs, erasePairs, hsame]
    refine differIn_eraseRounds hc hd hp hp' hw ?_ (.apart x y)
    simp only [List.count_append, hcount hp]
    omega

include hc hd hp hp' in
/-- A stretch loses its type arguments beside the names of special methods, or it stands in a pair
and goes with it. -/
theorem differIn_eraseGenerics {w t t' : Text} (hw : Generic w [])
    (h : DifferIn (stretch c d w p) (stretch c d w p') t t') :
    DifferIn (stretch c d [] p) (stretch c d [] p') (eraseGenerics t) (eraseGenerics t') := by
  have hshield : DifferIn (stretch c d w p) (stretch c d w p') (shield t) (shield t') := by
    refine differIn_replace hc hd hp hp' (a := '<') rfl (by decide) (by decide) rfl
      (by decide) (by decide) hw.erases hw.clinit ?_
    exact differIn_replace hc hd hp hp' (a := '<') rfl (by decide) (by decide) rfl
      (by decide) (by decide) hw.erases hw.init h
  have hpairs := differIn_erasePairs hc hd hp hp' hw.erases hshield
  refine differIn_replace hc hd hp hp' (a := '\x00') rfl (by decide) (by decide) rfl
    (by decide) (by decide) .nil .nil ?_
  exact differIn_replace hc hd hp hp' (a := '\x00') rfl (by decide) (by decide) rfl
    (by decide) (by decide) .nil .nil hpairs

/-! ## Dots and spacing -/

include hc hd in
/-- Dots are replaced inside the stretch. -/
theorem differIn_replaceDots {q q' t t' : Text}
    (hq : Rewrites ['.', '.', '.'] ['[', ']'] p q) (hq' : Rewrites ['.', '.', '.'] ['[', ']'] p' q')
    (h : DifferIn (stretch c d [] p) (stretch c d [] p') t t') :
    DifferIn (stretch c d [] q) (stretch c d [] q') (replace ['.', '.', '.'] ['[', ']'] t)
      (replace ['.', '.', '.'] ['[', ']'] t') := by
  have hcdot : c ≠ '.' := ne_of_class hc (by decide)
  have hddot : d ≠ '.' := ne_of_class hd (by decide)
  have hwithin : (Pattern.fixed ['.', '.', '.'] ['[', ']']).Within (· == '.') :=
    within_fixed _ (by decide) (by decide)
  have hreplaced : ∀ {p q}, Rewrites ['.', '.', '.'] ['[', ']'] p q → ∀ x y,
      replace ['.', '.', '.'] ['[', ']'] (x ++ (stretch c d [] p ++ y)) =
        replace ['.', '.', '.'] ['[', ']'] x ++
          (stretch c d [] q ++ replace ['.', '.', '.'] ['[', ']'] y) := by
    intro p q hpq x y
    have hname : Rewrites ['.', '.', '.'] ['[', ']'] [d] [d] :=
      rewrites_self_of_head rfl fun hmem => hddot (List.mem_singleton.1 hmem).symm
    have hassoc : x ++ (stretch c d [] p ++ y) = x ++ c :: (p ++ ([d] ++ y)) := by
      simp [stretch]
    rw [hassoc, replace, hwithin.substitute_append_cons (by simpa using hcdot), ← replace,
      ← replace, hpq, hname]
    simp [stretch]
  refine h.map fun x y => ?_
  rw [hreplaced hq, hreplaced hq']
  exact .apart _ _

end Stretch

/-- Texts that differ in stretches which are spaced alike get the same spacing. -/
theorem DifferIn.respace_eq {c d : Char} (hc : isPartChar c = true) {q q' t t' : Text}
    (hspaced : ∀ y, respaceAfter (q ++ d :: y) = respaceAfter (q' ++ d :: y))
    (h : DifferIn (stretch c d [] q) (stretch c d [] q') t t') : respace t = respace t' := by
  rcases h with t | ⟨x, y⟩
  · rfl
  · obtain ⟨u, hu⟩ := exists_respace_append_cons (isSolid_of_isPartChar hc) x
    have hassoc : ∀ q, x ++ (stretch c d [] q ++ y) = x ++ c :: (q ++ d :: y) := by
      simp [stretch]
    rw [hassoc, hassoc, hu, hu, hspaced]

end Disassembly.Declaration
