import Disassembly.Proofs.Manual.History
import Disassembly.Proofs.Text.Place
import Mathlib.Data.List.TakeWhile
import Mathlib.Tactic

/-!
# Loading a document in parts

A document may be cut in front of any section marker and loaded in two parts: if both can be loaded,
the store and the number of added sections are those of the whole document (`load_append`). A marker
does not overlap itself, so the sections of the whole are those of the parts (`sections_append`),
and adding sections in two turns gives the index of families that adding them in one turn gives
(`addSections_append`).

An attempt to load the whole fails as soon as one part has a title that cannot be read. What the
readable part holds is then not stored, although loading the parts would have stored it
(`contains_next_parts`).
-/

set_option autoImplicit false

namespace Disassembly

/-- A reference to a number with too many digits makes a text unreadable. -/
theorem Html.unescape_decimal {digits : Text} (hdigits : ∀ c ∈ digits, c.isDigit = true)
    (hlength : Numeral.maxDigits < digits.length) :
    unescape ('&' :: '#' :: digits) = .error ⟨digits.length⟩ := by
  have hrun : decimalDigits ('&' :: '#' :: digits) = digits :=
    List.takeWhile_eq_self_iff.2 hdigits
  have hlong : overlongReference? ('&' :: '#' :: digits) = some ⟨digits.length⟩ := by
    simp only [overlongReference?, hrun, hlength, if_true]
  rw [unescape, hlong]

namespace Manual

open Text

/-! ## Sections -/

section Mark

variable {a : Char} {m : Text} (hborder : a ∉ m)
include hborder

/-- A mark whose first character stands nowhere else in it does not overlap another such mark. -/
theorem mark_isPrefix_of_append {x y : Text} (hx : x ≠ []) (hy : a :: m <+: y)
    (h : a :: m <+: x ++ y) : a :: m <+: x := by
  rcases List.prefix_or_prefix_of_prefix h (List.prefix_append x y) with h' | h'
  · exact h'
  · obtain ⟨more, hmore⟩ := h'
    obtain ⟨c, r, rfl⟩ := List.exists_cons_of_ne_nil hx
    obtain ⟨rfl, hm⟩ := List.cons.inj hmore
    cases more with
    | nil =>
      rw [← hmore, List.append_nil]
    | cons d s =>
      -- what the first text lacks of the mark starts the second one, and so starts like the mark
      have hrest : d :: s <+: y := by
        rw [← hmore] at h
        exact (List.prefix_append_right_inj _).1 h
      obtain ⟨t, rfl⟩ := hy
      obtain ⟨rfl, -⟩ := List.cons_prefix_cons.1 hrest
      exact absurd (hm ▸ List.mem_append_right r List.mem_cons_self) hborder

/-- A text that starts with a mark, put behind another one, starts a part of its own. -/
theorem splitAtMark_append {y : Text} (hy : a :: m <+: y) (x : Text) :
    ∀ k ≤ x.length, splitAtMark (a :: m) k (x ++ y) =
      ((splitAtMark (a :: m) k x).1,
        (splitAtMark (a :: m) k x).2 ++ (splitAtMark (a :: m) 0 y).2) := by
  induction x with
  | nil =>
    intro k hk
    obtain rfl := Nat.le_zero.1 hk
    obtain ⟨t, rfl⟩ := hy
    have hstart : (a :: m).isPrefixOf (a :: (m ++ t)) = true :=
      List.isPrefixOf_iff_prefix.2 (List.prefix_append (a :: m) t)
    simp only [List.nil_append, List.cons_append, splitAtMark, hstart, if_true]
  | cons c r ih =>
    intro k hk
    cases k with
    | succ k => simp only [List.cons_append, splitAtMark, ih k (Nat.le_of_succ_le_succ hk)]
    | zero =>
      have hstart : (a :: m).isPrefixOf (c :: (r ++ y)) = (a :: m).isPrefixOf (c :: r) := by
        rw [Bool.eq_iff_iff, List.isPrefixOf_iff_prefix, List.isPrefixOf_iff_prefix]
        exact ⟨mark_isPrefix_of_append hborder (List.cons_ne_nil c r) hy,
          fun h => h.trans (List.prefix_append (c :: r) y)⟩
      simp only [List.cons_append, splitAtMark, hstart]
      by_cases h : (a :: m).isPrefixOf (c :: r) = true
      · have hlength : (a :: m).length - 1 ≤ r.length :=
          Nat.le_of_succ_le_succ (List.isPrefixOf_iff_prefix.1 h).length_le
        simp only [h, if_true, ih _ hlength, List.cons_append]
      · simp only [h, Bool.false_eq_true, if_false, ih 0 (Nat.zero_le _)]

omit hborder in
/-- No part starts in a text without the first character of the mark. -/
theorem splitAtMark_of_notMem {t : Text} (k : Nat) (h : a ∉ t) :
    splitAtMark (a :: m) k t = (t, []) := by
  induction t generalizing k with
  | nil => cases k <;> rfl
  | cons c r ih =>
    have hr : a ∉ r := fun hmem => h (List.mem_cons_of_mem c hmem)
    cases k with
    | succ k => simp only [splitAtMark, ih k hr]
    | zero =>
      have hstart : (a :: m).isPrefixOf (c :: r) = false := by
        rw [Bool.eq_false_iff, Ne, List.isPrefixOf_iff_prefix, List.cons_prefix_cons]
        exact fun hc => h (hc.1 ▸ List.mem_cons_self)
      simp only [splitAtMark, hstart, Bool.false_eq_true, if_false, ih 0 hr]

end Mark

/-- In front of a section marker a document falls into two parts with sections of their own. -/
theorem sections_append {d₁ d₂ : Text} (h : d₂ = [] ∨ marker <+: d₂) :
    sections (d₁ ++ d₂) = sections d₁ ++ sections d₂ := by
  rcases h with rfl | h
  · rw [List.append_nil]
    exact (List.append_nil _).symm
  · have hborder : '<' ∉ marker.tail := by decide
    exact congrArg Prod.snd (splitAtMark_append hborder h d₁ 0 (Nat.zero_le _))

/-- A document with a section marker at its start and no further one is a section. -/
theorem sections_marker_append {rest : Text} (h : '<' ∉ rest) :
    sections (marker ++ rest) = [marker ++ rest] := by
  have hborder : '<' ∉ marker.tail := by decide
  have hstart : marker.isPrefixOf ('<' :: (marker.tail ++ rest)) = true :=
    List.isPrefixOf_iff_prefix.2 (List.prefix_append marker rest)
  have hrest := splitAtMark_of_notMem (m := marker.tail) (marker.length - 1)
    (by simp [hborder, h] : '<' ∉ marker.tail ++ rest)
  have hsplit : splitAtMark marker 0 ('<' :: (marker.tail ++ rest)) =
      ([], ['<' :: (marker.tail ++ rest)]) := by
    rw [splitAtMark, if_pos hstart]
    exact congrArg (fun parts : Text × List Text => ([], ('<' :: parts.1) :: parts.2)) hrest
  exact congrArg Prod.snd hsplit

theorem titled_append {d₁ d₂ : Text} (h : d₂ = [] ∨ marker <+: d₂) :
    titled (d₁ ++ d₂) = titled d₁ ++ titled d₂ := by
  rw [titled, sections_append h, List.filterMap_append]
  rfl

namespace Store

/-- The titles of a document can be read if those of both parts can. -/
theorem titledSections_append {d₁ d₂ : Text} (h : d₂ = [] ∨ marker <+: d₂) :
    titledSections (d₁ ++ d₂) = do
      let first ← titledSections d₁
      let second ← titledSections d₂
      return first ++ second := by
  rw [titledSections, titled_append h, List.mapM_append]
  rfl

/-! ## Adding sections in two turns -/

theorem addSections_nil (s : Store) : s.addSections [] = ⟨0, s, [.noSections]⟩ := rfl

theorem addSections_of_ne_nil (s : Store) {added : List (Text × Text)} (h : added ≠ []) :
    (s.addSections added).count = added.length ∧
      (s.addSections added).store =
        ⟨added.foldl (fun all entry => Datum.setField all entry.1 entry.2) s.sections,
          orderedFamilies ((added.foldl (fun all entry => Datum.setField all entry.1 entry.2)
            s.sections).map Prod.fst)⟩ := by
  have hempty : added.isEmpty = false := by simpa using h
  rw [addSections, hempty]
  exact ⟨rfl, rfl⟩

/-- Sections that are added in two turns are counted, stored and indexed as in one turn. -/
theorem addSections_append (s : Store) (first second : List (Text × Text)) :
    (s.addSections (first ++ second)).count =
        (s.addSections first).count + ((s.addSections first).store.addSections second).count ∧
      (s.addSections (first ++ second)).store =
        ((s.addSections first).store.addSections second).store := by
  by_cases hfirst : first = []
  · subst hfirst
    rw [addSections_nil, List.nil_append, Nat.zero_add]
    exact ⟨rfl, rfl⟩
  · by_cases hsecond : second = []
    · subst hsecond
      rw [addSections_nil, List.append_nil]
      exact ⟨rfl, rfl⟩
    · obtain ⟨hcount, hstore⟩ := s.addSections_of_ne_nil hfirst
      obtain ⟨hcount', hstore'⟩ := (s.addSections first).store.addSections_of_ne_nil hsecond
      obtain ⟨hwhole, hwhole'⟩ := s.addSections_of_ne_nil
        (fun hnil => hfirst (List.append_eq_nil_iff.1 hnil).1 : first ++ second ≠ [])
      -- the index is made from the titles that are there in the end
      refine ⟨?_, ?_⟩
      · rw [hwhole, hcount, hcount', List.length_append]
      · rw [hwhole', hstore', hstore, List.foldl_append]

/-! ## Loading in two parts -/

/-- Apart from its notices, an empty document is one without sections. -/
theorem load_eq (s : Store) (document : Text) :
    (s.load document).map (fun l => (l.count, l.store)) = do
      let added ← titledSections document
      return ((s.addSections added).count, (s.addSections added).store) := by
  cases document with
  | nil => rfl
  | cons c r =>
    rw [load, if_neg (by simp)]
    cases titledSections (c :: r) <;> rfl

/-- A document that is cut in front of a section marker can be loaded in two parts: both ways fail
if a title of either part cannot be read, and otherwise add the same number of sections and give the
same store, its index of families included. -/
theorem load_append (s : Store) {d₁ d₂ : Text} (h : d₂ = [] ∨ marker <+: d₂) :
    (s.load (d₁ ++ d₂)).map (fun l => (l.count, l.store)) = do
      let first ← s.load d₁
      let second ← first.store.load d₂
      return (first.count + second.count, second.store) := by
  have hparts : (do
      let first ← s.load d₁
      let second ← first.store.load d₂
      return (first.count + second.count, second.store) : Except Html.OverlongReference _) = do
        let first ← (s.load d₁).map fun l => (l.count, l.store)
        let second ← (first.2.load d₂).map fun l => (l.count, l.store)
        return (first.1 + second.1, second.2) := by
    cases s.load d₁ with
    | error e => rfl
    | ok l =>
      cases hsecond : l.store.load d₂ <;> simp [bind, Except.bind, Except.map, hsecond]
  rw [hparts, load_eq, load_eq, titledSections_append h]
  cases titledSections d₁ with
  | error e => rfl
  | ok first =>
    simp only [bind, Except.bind, pure, Except.pure, load_eq]
    cases titledSections d₂ with
    | error e => rfl
    | ok second =>
      obtain ⟨hcount, hstore⟩ := s.addSections_append first second
      simp only [hcount, hstore]

/-! ## A part that cannot be loaded -/

theorem load_of_error (s : Store) {document : Text} {e : Html.OverlongReference}
    (h : titledSections document = .error e) : s.load document = .error e := by
  cases document with
  | nil => cases h
  | cons c r =>
    rw [load, if_neg (by simp), h]
    rfl

/-- If no title of a later part can be stored, loading the parts stores the earlier one, and loading
the whole stores nothing. -/
theorem next_append_of_error (s : Store) {d₁ d₂ : Text} {e : Html.OverlongReference}
    (h : marker <+: d₂) (hsecond : titledSections d₂ = .error e) :
    (s.next d₁).next d₂ = s.next d₁ ∧ s.next (d₁ ++ d₂) = s := by
  have hfails : ∀ {d : Text} {e : Html.OverlongReference}, titledSections d = .error e →
      ∀ t : Store, t.next d = t := by
    intro d e hd t
    rw [next, t.load_of_error hd]
  -- the whole fails at the first title that cannot be read, in whichever part that is
  have hwhole : ∃ e', titledSections (d₁ ++ d₂) = .error e' := by
    rw [titledSections_append (Or.inr h)]
    cases titledSections d₁ with
    | error e' => exact ⟨e', rfl⟩
    | ok first =>
      rw [hsecond]
      exact ⟨e, rfl⟩
  obtain ⟨e', he'⟩ := hwhole
  exact ⟨hfails hsecond _, hfails he' s⟩

/-- The opening tag of a section with the given title. -/
def openingTag (title : Text) : Text :=
  marker ++ titleOpening ++ title ++ titleClosing

/-- An opening tag is a section with its title. -/
theorem titled_openingTag {title : Text} (hmark : '<' ∉ title) (hclose : '"' ∉ title) :
    titled (openingTag title) = [(title, openingTag title)] := by
  have hrest : '<' ∉ titleOpening ++ (title ++ titleClosing) := by
    rw [List.mem_append, List.mem_append, not_or, not_or]
    exact ⟨by decide, hmark, by decide⟩
  have hsections : Manual.sections (openingTag title) = [openingTag title] := by
    rw [openingTag, List.append_assoc, List.append_assoc, sections_marker_append hrest]
  have htitle : rawTitle? (openingTag title) = some title := by
    rw [rawTitle?, between?, openingTag, List.append_assoc, cut?_append_self, Option.bind_some,
      show titleClosing = ['"'] from rfl, cut?_singleton_eq_some_iff.2 ⟨rfl, hclose⟩,
      Option.map_some]
  rw [titled, hsections, List.filterMap_cons, htitle]
  rfl

theorem titledSections_openingTag {title : Text} (hmark : '<' ∉ title) (hclose : '"' ∉ title) :
    titledSections (openingTag title) =
      (Html.unescape title).map fun t => [(t, openingTag title)] := by
  rw [titledSections, titled_openingTag hmark hclose, List.mapM_cons]
  cases Html.unescape title <;> rfl

theorem load_append_family : marker <+: openingTag "if<cond>".toList ∧
    (empty.load (openingTag "nop".toList ++ openingTag "if<cond>".toList)).map
        (fun l => (l.count, l.store)) = do
      let first ← empty.load (openingTag "nop".toList)
      let second ← first.store.load (openingTag "if<cond>".toList)
      return (first.count + second.count, second.store) :=
  ⟨by decide, empty.load_append (Or.inr (by decide))⟩

/-- A title that cannot be read: a reference to a number with too many digits. -/
def overlongTitle : Text :=
  '&' :: '#' :: List.replicate (Numeral.maxDigits + 1) '1'

/-- The section of a readable title is stored by loading it in front of one that cannot be read,
but not by loading both as one document. -/
theorem contains_next_parts :
    marker <+: openingTag overlongTitle ∧
      ((empty.next (openingTag "nop".toList)).next (openingTag overlongTitle)).contains
        "nop".toList = true ∧
      (empty.next (openingTag "nop".toList ++ openingTag overlongTitle)).contains
        "nop".toList = false := by
  have hmark : marker <+: openingTag overlongTitle := by
    rw [openingTag, List.append_assoc, List.append_assoc]
    exact List.prefix_append _ _
  have hdigits : ∀ c ∈ List.replicate (Numeral.maxDigits + 1) '1', c = '1' := fun c hc =>
    (List.mem_replicate.1 hc).2
  have hunread : Html.unescape overlongTitle = .error ⟨Numeral.maxDigits + 1⟩ := by
    have hlength : (List.replicate (Numeral.maxDigits + 1) '1').length = Numeral.maxDigits + 1 :=
      List.length_replicate
    rw [overlongTitle, Html.unescape_decimal (fun c hc => hdigits c hc ▸ rfl)
      (hlength.symm ▸ Nat.lt_succ_self _), hlength]
  have hnotMem : ∀ c, c ≠ '&' → c ≠ '#' → c ≠ '1' → c ∉ overlongTitle := by
    intro c hand hhash hone hc
    rcases List.mem_cons.1 hc with h | hc
    · exact hand h
    · rcases List.mem_cons.1 hc with h | hc
      · exact hhash h
      · exact hone (hdigits c hc)
  have htitles : titledSections (openingTag overlongTitle) = .error ⟨Numeral.maxDigits + 1⟩ := by
    rw [titledSections_openingTag (hnotMem _ (by decide) (by decide) (by decide))
      (hnotMem _ (by decide) (by decide) (by decide)), hunread]
    rfl
  obtain ⟨hparts, hwhole⟩ := empty.next_append_of_error hmark htitles
  rw [hparts, hwhole]
  exact ⟨hmark, by decide +kernel, rfl⟩

end Store

end Manual

end Disassembly
