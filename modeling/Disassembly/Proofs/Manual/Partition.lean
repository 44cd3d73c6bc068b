import Disassembly.Proofs.Manual.Additivity
import Mathlib.Data.List.TakeDrop
import Mathlib.Tactic

/-!
# The sections of a document

The places of the section marker divide a document: what stands in front of the first one belongs to
no section, and the sections put together are the rest of the document
(`front_append_flatten_sections`). A section starts with the marker and has it nowhere else
(`marked_of_mem_sections`). This rests on the first character of the marker, which stands nowhere
else in it, so that no place of it overlaps another.

`IsSection` says by positions what a section is. The sections of a document with their positions are
exactly the stretches that it describes (`mem_placedSections_iff`).
-/

set_option autoImplicit false

namespace Disassembly.Manual

open Text

/-- The first character of the mark stands nowhere else in it. -/
def Borderless (mark : Text) : Prop :=
  ∃ a m, mark = a :: m ∧ a ∉ m

/-- The text starts with the mark and has it nowhere else. -/
def Marked (mark t : Text) : Prop :=
  mark <+: t ∧ ∀ i, 0 < i → ¬ mark <+: t.drop i

section Mark

variable {mark : Text}

/-- Parts that start with a mark, put together, do so too. -/
theorem flatten_start {parts : List Text} (h : ∀ p ∈ parts, Marked mark p) :
    parts.flatten = [] ∨ mark <+: parts.flatten := by
  cases parts with
  | nil => exact Or.inl rfl
  | cons p rest =>
    exact Or.inr ((h p List.mem_cons_self).1.trans (List.prefix_append p rest.flatten))

variable (hborder : Borderless mark)
include hborder

theorem Borderless.length_pos : 0 < mark.length := by
  obtain ⟨a, m, rfl, -⟩ := hborder
  exact Nat.succ_pos m.length

theorem Borderless.not_isPrefix_nil : ¬ mark <+: [] := by
  obtain ⟨a, m, rfl, -⟩ := hborder
  simp

theorem Borderless.lt_length {t : Text} {i : Nat} (h : mark <+: t.drop i) : i < t.length := by
  by_contra hlt
  rw [List.drop_eq_nil_of_le (Nat.le_of_not_lt hlt)] at h
  exact hborder.not_isPrefix_nil h

/-- What follows a text does not complete a mark in it, if it starts with a mark of its own. -/
theorem isPrefix_drop_append {x y : Text} (hy : y = [] ∨ mark <+: y) {i : Nat}
    (hi : i < x.length) (h : mark <+: (x ++ y).drop i) : mark <+: x.drop i := by
  obtain ⟨a, m, rfl, ha⟩ := hborder
  rw [List.drop_append_of_le_length hi.le] at h
  rcases hy with rfl | hy
  · rwa [List.append_nil] at h
  · have hne : x.drop i ≠ [] := fun hnil => Nat.not_le_of_lt hi (List.drop_eq_nil_iff.1 hnil)
    exact mark_isPrefix_of_append ha hne hy h

/-- A mark does not start inside another one. -/
theorem not_isPrefix_drop_of_lt {t : Text} (h : mark <+: t) {i : Nat} (hpos : 0 < i)
    (hi : i < mark.length) : ¬ mark <+: t.drop i := by
  obtain ⟨a, m, rfl, ha⟩ := hborder
  intro hc
  obtain ⟨t', rfl⟩ := h
  obtain ⟨i, rfl⟩ := Nat.exists_eq_succ_of_ne_zero hpos.ne'
  have hlt : i < m.length := Nat.lt_of_succ_lt_succ hi
  rw [List.cons_append, List.drop_succ_cons, List.drop_append_of_le_length hlt.le,
    List.drop_eq_getElem_cons hlt, List.cons_append, List.cons_prefix_cons] at hc
  exact ha (hc.1 ▸ List.getElem_mem hlt)

/-- The parts of a text are the text; the mark stands at the start of each part and nowhere else,
apart from the first `k` characters. -/
theorem splitAtMark_spec (t : Text) : ∀ k ≤ t.length,
    (splitAtMark mark k t).1 ++ (splitAtMark mark k t).2.flatten = t ∧
      (∀ i, k ≤ i → ¬ mark <+: (splitAtMark mark k t).1.drop i) ∧
      ∀ p ∈ (splitAtMark mark k t).2, Marked mark p := by
  -- the first `k` characters are what is left of a mark, in which no other one is looked for
  induction t with
  | nil =>
    intro k hk
    obtain rfl := Nat.le_zero.1 hk
    refine ⟨rfl, fun i _ => ?_, fun p hp => absurd hp List.not_mem_nil⟩
    rw [splitAtMark, List.drop_nil]
    exact hborder.not_isPrefix_nil
  | cons c r ih =>
    intro k hk
    cases k with
    | succ k =>
      obtain ⟨htext, hfront, hparts⟩ := ih k (Nat.le_of_succ_le_succ hk)
      refine ⟨congrArg (c :: ·) htext, fun i hi => ?_, hparts⟩
      obtain ⟨i, rfl⟩ := Nat.exists_eq_add_of_le' (k.succ_pos.trans_le hi)
      exact hfront i (Nat.le_of_succ_le_succ hi)
    | zero =>
      rw [splitAtMark]
      by_cases hstart : mark <+: c :: r
      · rw [if_pos (List.isPrefixOf_iff_prefix.2 hstart)]
        obtain ⟨htext, hfront, hparts⟩ := ih (mark.length - 1) (by
          have := hstart.length_le
          rw [List.length_cons] at this
          omega)
        refine ⟨congrArg (c :: ·) htext, fun i _ => ?_, ?_⟩
        · rw [List.drop_nil]
          exact hborder.not_isPrefix_nil
        · intro p hp
          rcases List.mem_cons.1 hp with rfl | hp
          · -- the mark at the start of the part does not reach into the next one
            have hmark : mark <+: c :: (splitAtMark mark (mark.length - 1) r).1 := by
              have hwhole : mark <+: (c :: (splitAtMark mark (mark.length - 1) r).1) ++
                  (splitAtMark mark (mark.length - 1) r).2.flatten := by
                rwa [List.cons_append, htext]
              exact isPrefix_drop_append (i := 0) hborder (flatten_start hparts)
                (Nat.succ_pos _) hwhole
            refine ⟨hmark, fun i hpos => ?_⟩
            by_cases hi : i < mark.length
            · exact not_isPrefix_drop_of_lt hborder hmark hpos hi
            · obtain ⟨i, rfl⟩ := Nat.exists_eq_succ_of_ne_zero hpos.ne'
              exact hfront i (by omega)
          · exact hparts p hp
      · rw [if_neg fun h => hstart (List.isPrefixOf_iff_prefix.1 h)]
        obtain ⟨htext, hfront, hparts⟩ := ih 0 (Nat.zero_le _)
        refine ⟨congrArg (c :: ·) htext, fun i _ => ?_, hparts⟩
        cases i with
        | zero =>
          intro h
          refine hstart (h.trans ?_)
          rw [← congrArg (c :: ·) htext]
          exact List.prefix_append _ _
        | succ i => exact hfront i (Nat.zero_le i)

end Mark

/-! ## Parts and their positions -/

/-- The parts of a text with their positions, where the first part stands at position `n`. -/
def placed (n : Nat) : List Text → List (Nat × Text)
  | [] => []
  | p :: rest => (n, p) :: placed (n + p.length) rest

theorem map_snd_placed (n : Nat) (parts : List Text) : (placed n parts).map Prod.snd = parts := by
  induction parts generalizing n with
  | nil => rfl
  | cons p rest ih => rw [placed, List.map_cons, ih]

theorem mem_placed_iff {n i : Nat} {parts : List Text} {x : Text} :
    (i, x) ∈ placed n parts ↔
      ∃ before after, parts = before ++ x :: after ∧ i = n + before.flatten.length := by
  induction parts generalizing n with
  | nil =>
    refine ⟨fun h => absurd h List.not_mem_nil, ?_⟩
    rintro ⟨before, after, h, -⟩
    simp at h
  | cons p rest ih =>
    rw [placed, List.mem_cons, ih]
    constructor
    · rintro (h | ⟨before, after, rfl, rfl⟩)
      · obtain ⟨rfl, rfl⟩ := Prod.mk.inj h
        exact ⟨[], rest, rfl, rfl⟩
      · exact ⟨p :: before, after, rfl, by simp [Nat.add_assoc]⟩
    · rintro ⟨before, after, h, rfl⟩
      cases before with
      | nil =>
        obtain ⟨rfl, rfl⟩ := List.cons.inj h
        exact Or.inl rfl
      | cons q before =>
        obtain ⟨rfl, rfl⟩ := List.cons.inj h
        exact Or.inr ⟨before, after, rfl, by simp [Nat.add_assoc]⟩

/-- The positions of parts that are not empty increase. -/
theorem pairwise_placed {parts : List Text} (h : ∀ p ∈ parts, p ≠ []) (n : Nat) :
    (placed n parts).Pairwise fun p q => p.1 < q.1 := by
  induction parts generalizing n with
  | nil => exact List.Pairwise.nil
  | cons p rest ih =>
    refine List.Pairwise.cons ?_ (ih (fun q hq => h q (List.mem_cons_of_mem p hq)) _)
    rintro ⟨i, x⟩ hmem
    obtain ⟨before, after, -, rfl⟩ := mem_placed_iff.1 hmem
    have hpos : 0 < p.length := List.length_pos_of_ne_nil (h p List.mem_cons_self)
    dsimp only
    omega

/-- Every place of a mark in marked parts is the start of one of them. -/
theorem exists_mem_placed {mark : Text} (hborder : Borderless mark) {parts : List Text}
    (h : ∀ p ∈ parts, Marked mark p) (n : Nat) {i : Nat} (hi : mark <+: parts.flatten.drop i) :
    ∃ x, (n + i, x) ∈ placed n parts := by
  induction parts generalizing n i with
  | nil =>
    rw [List.flatten_nil, List.drop_nil] at hi
    exact absurd hi hborder.not_isPrefix_nil
  | cons p rest ih =>
    have hrest : ∀ q ∈ rest, Marked mark q := fun q hq => h q (List.mem_cons_of_mem p hq)
    rw [List.flatten_cons] at hi
    by_cases hlt : i < p.length
    · have hp := isPrefix_drop_append hborder (flatten_start hrest) hlt hi
      obtain rfl : i = 0 := by
        by_contra hpos
        exact (h p List.mem_cons_self).2 i (Nat.pos_of_ne_zero hpos) hp
      exact ⟨p, List.mem_cons_self⟩
    · obtain ⟨i, rfl⟩ := Nat.exists_eq_add_of_le (Nat.le_of_not_lt hlt)
      rw [List.drop_length_add_append] at hi
      obtain ⟨x, hx⟩ := ih hrest (n + p.length) hi
      exact ⟨x, List.mem_cons_of_mem _ (by rwa [← Nat.add_assoc])⟩

/-! ## Sections by their positions -/

theorem marker_borderless : Borderless marker := ⟨'<', marker.tail, rfl, by decide⟩

/-- The stretch from `start` to `stop` is a section of the document: from one place of the marker to
the next one, or to the end. -/
structure IsSection (document : Text) (start stop : Nat) : Prop where
  marked : marker <+: document.drop start
  lt : start < stop
  next : stop = document.length ∨ marker <+: document.drop stop
  first : ∀ i, start < i → i < stop → ¬ marker <+: document.drop i

theorem IsSection.le_length {document : Text} {start stop : Nat}
    (h : IsSection document start stop) : stop ≤ document.length := by
  rcases h.next with h | h
  · exact h.le
  · exact (marker_borderless.lt_length h).le

/-- A section has one end. -/
theorem IsSection.stop_unique {document : Text} {start stop stop' : Nat}
    (h : IsSection document start stop) (h' : IsSection document start stop') : stop = stop' := by
  have hle : ∀ {j j' : Nat}, IsSection document start j → IsSection document start j' → j ≤ j' := by
    intro j j' hj hj'
    by_contra hlt
    rcases hj'.next with hend | hmark
    · exact hlt (hend ▸ hj.le_length)
    · exact hj.first j' hj'.lt (Nat.lt_of_not_le hlt) hmark
  exact Nat.le_antisymm (hle h h') (hle h' h)

/-- What stands in front of the first section. -/
def front (document : Text) : Text :=
  (splitAtMark marker 0 document).1

/-- A document is what stands in front of the first section, and the sections. -/
theorem front_append_flatten_sections (document : Text) :
    front document ++ (sections document).flatten = document :=
  (splitAtMark_spec marker_borderless document 0 (Nat.zero_le _)).1

theorem not_isPrefix_drop_front (document : Text) (i : Nat) :
    ¬ marker <+: (front document).drop i :=
  (splitAtMark_spec marker_borderless document 0 (Nat.zero_le _)).2.1 i (Nat.zero_le i)

/-- A section starts with the marker and has it nowhere else. -/
theorem marked_of_mem_sections {document x : Text} (h : x ∈ sections document) : Marked marker x :=
  (splitAtMark_spec marker_borderless document 0 (Nat.zero_le _)).2.2 x h

/-- The sections of a document with their positions. -/
def placedSections (document : Text) : List (Nat × Text) :=
  placed (front document).length (sections document)

theorem map_snd_placedSections (document : Text) :
    (placedSections document).map Prod.snd = sections document :=
  map_snd_placed _ _

theorem marked_of_mem_placedSections {document x : Text} {i : Nat}
    (h : (i, x) ∈ placedSections document) : Marked marker x :=
  marked_of_mem_sections (map_snd_placedSections document ▸ List.mem_map_of_mem h)

/-- The positions of the sections increase. -/
theorem pairwise_placedSections (document : Text) :
    (placedSections document).Pairwise fun p q => p.1 < q.1 :=
  pairwise_placed (fun _ hp hnil =>
    marker_borderless.not_isPrefix_nil (hnil ▸ (marked_of_mem_sections hp).1)) _

/-- A marked part is a section wherever marked parts follow it. -/
theorem isSection_append (y : Text) {x : Text} {after : List Text}
    (h : ∀ p ∈ x :: after, Marked marker p) :
    IsSection (y ++ (x ++ after.flatten)) y.length (y.length + x.length) := by
  have hx : Marked marker x := h x List.mem_cons_self
  have hafter := flatten_start fun p hp => h p (List.mem_cons_of_mem x hp)
  have hdrop : ∀ k, (y ++ (x ++ after.flatten)).drop (y.length + k) =
      (x ++ after.flatten).drop k := fun k => List.drop_length_add_append ..
  refine ⟨?_, ?_, ?_, ?_⟩
  · rw [List.drop_left]
    exact hx.1.trans (List.prefix_append _ _)
  · have hpos := hx.1.length_le
    have hmarker := marker_borderless.length_pos
    omega
  · rw [hdrop, List.drop_left]
    refine hafter.imp_left fun hnil => ?_
    rw [hnil, List.append_nil, List.length_append]
  · intro j hj hjstop hmark
    obtain ⟨k, rfl⟩ := Nat.exists_eq_add_of_lt hj
    rw [Nat.add_assoc, hdrop] at hmark
    exact hx.2 (k + 1) k.succ_pos
      (isPrefix_drop_append marker_borderless hafter (by omega) hmark)

/-- A section reaches from its position to the next place of the marker. -/
theorem isSection_of_mem_placedSections {document x : Text} {i : Nat}
    (h : (i, x) ∈ placedSections document) :
    document.drop i = x ++ document.drop (i + x.length) ∧
      IsSection document i (i + x.length) := by
  obtain ⟨before, after, hparts, rfl⟩ := mem_placed_iff.1 h
  have hmarked : ∀ p ∈ x :: after, Marked marker p := fun p hp =>
    marked_of_mem_sections (hparts ▸ List.mem_append_right before hp)
  have hdocument : document = (front document ++ before.flatten) ++ (x ++ after.flatten) := by
    conv_lhs => rw [← front_append_flatten_sections document, hparts]
    simp only [List.flatten_append, List.flatten_cons, List.append_assoc]
  have hsection := isSection_append (front document ++ before.flatten) hmarked
  have hstart : document.drop (front document ++ before.flatten).length = x ++ after.flatten :=
    (congrArg (List.drop _) hdocument).trans List.drop_left
  rw [← hdocument] at hsection
  rw [← List.length_append]
  refine ⟨?_, hsection⟩
  rw [← List.drop_drop, hstart, List.drop_left]

/-- Every place of the marker is that of a section. -/
theorem exists_mem_placedSections {document : Text} {i : Nat} (h : marker <+: document.drop i) :
    ∃ x, (i, x) ∈ placedSections document := by
  -- the front holds no marker, so the place lies in one of the sections
  have hge : (front document).length ≤ i := by
    by_contra hlt
    refine not_isPrefix_drop_front document i
      (isPrefix_drop_append (y := (sections document).flatten) marker_borderless
        (flatten_start fun p hp => marked_of_mem_sections hp) (Nat.lt_of_not_le hlt) ?_)
    rwa [front_append_flatten_sections]
  obtain ⟨k, rfl⟩ := Nat.exists_eq_add_of_le hge
  have hmark : marker <+: (sections document).flatten.drop k := by
    have hdrop : ((front document) ++ (sections document).flatten).drop
        ((front document).length + k) = (sections document).flatten.drop k :=
      List.drop_length_add_append ..
    rwa [← hdrop, front_append_flatten_sections]
  exact exists_mem_placed marker_borderless (fun p hp => marked_of_mem_sections hp)
    (front document).length hmark

/-- The sections with their positions are the stretches between the places of the marker. -/
theorem mem_placedSections_iff {document x : Text} {i : Nat} :
    (i, x) ∈ placedSections document ↔
      ∃ stop, IsSection document i stop ∧ x = (document.drop i).take (stop - i) := by
  constructor
  · intro h
    obtain ⟨htext, hsection⟩ := isSection_of_mem_placedSections h
    refine ⟨i + x.length, hsection, ?_⟩
    rw [Nat.add_sub_cancel_left, htext, List.take_left]
  · rintro ⟨stop, hsection, rfl⟩
    obtain ⟨x, hx⟩ := exists_mem_placedSections hsection.marked
    obtain ⟨htext, hsection'⟩ := isSection_of_mem_placedSections hx
    rw [hsection.stop_unique hsection', Nat.add_sub_cancel_left, htext, List.take_left]
    exact hx

end Disassembly.Manual
