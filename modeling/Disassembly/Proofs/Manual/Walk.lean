import Disassembly.Proofs.Manual.Partition
import Mathlib.Data.List.Sort
import Mathlib.Tactic

/-!
# Walking from marker to marker

The sections of a document can be found by a walk along its markers (`Walk`). It starts at the first
place of the marker; the search for the next one goes on behind the marker that was found last, and
a section reaches from one place that was found to the next one.

The walk comes to an end in every document, and what it collects are the sections. Put together they
are the document from the first place of the marker on, each of them has the marker at its start and
nowhere else, and there are as many of them as places of the marker (`sections_partition`). No place
is passed over although the walk does not look inside a marker, because markers do not overlap.
-/

set_option autoImplicit false

namespace Disassembly.Manual

open Text

/-! ## The places of the marker -/

theorem mem_places_marker_iff {document : Text} {i : Nat} :
    i ∈ places marker document ↔ marker <+: document.drop i := by
  rw [mem_places_iff, and_iff_right_of_imp]
  exact fun h => (marker_borderless.lt_length h).le

/-- The places of the marker are the positions of the sections. -/
theorem map_fst_placedSections (document : Text) :
    (placedSections document).map Prod.fst = places marker document := by
  have hsections : ((placedSections document).map Prod.fst).Pairwise (· < ·) :=
    List.pairwise_map.2 (pairwise_placedSections document)
  refine hsections.eq_of_mem_iff (pairwise_places marker document) fun {i} => ?_
  rw [mem_places_marker_iff, List.mem_map]
  constructor
  · rintro ⟨⟨j, x⟩, hmem, rfl⟩
    exact (isSection_of_mem_placedSections hmem).2.marked
  · intro h
    obtain ⟨x, hx⟩ := exists_mem_placedSections h
    exact ⟨(i, x), hx, rfl⟩

/-- The first place of the marker is where the first section starts. -/
theorem head?_places (document : Text) :
    (places marker document).head? =
      (sections document).head?.map fun _ => (front document).length := by
  rw [← map_fst_placedSections, placedSections]
  cases sections document <;> rfl

theorem drop_front (document : Text) :
    document.drop (front document).length = (sections document).flatten :=
  (congrArg (List.drop _) (front_append_flatten_sections document).symm).trans List.drop_left

theorem Marked.places_eq {t : Text} (h : Marked marker t) : places marker t = [0] := by
  refine (pairwise_places marker t).eq_of_mem_iff (List.pairwise_singleton _ 0) fun {i} => ?_
  rw [mem_places_marker_iff, List.mem_singleton]
  constructor
  · intro hi
    by_contra hpos
    exact h.2 i (Nat.pos_of_ne_zero hpos) hi
  · rintro rfl
    exact h.1

/-! ## The walk -/

/-- The walk through a document from the marker at a given position, or without any marker, and the
sections that it collects. -/
inductive Walk (document : Text) : Option Nat → List Text → Prop where
  /-- No marker was found. -/
  | done : Walk document none []
  /-- No marker follows: the section reaches to the end. -/
  | last {start : Nat} (hnext : placeFrom? marker document (start + marker.length) = none) :
    Walk document (some start) [document.drop start]
  /-- Another marker follows: the section reaches to it, and the walk goes on there. -/
  | next {start stop : Nat} {rest : List Text}
    (hnext : placeFrom? marker document (start + marker.length) = some stop)
    (hrest : Walk document (some stop) rest) :
    Walk document (some start) ((document.drop start).take (stop - start) :: rest)

/-- A walk collects one list of sections. -/
theorem Walk.unique {document : Text} {start : Option Nat} {parts others : List Text}
    (h : Walk document start parts) (h' : Walk document start others) : others = parts := by
  induction h generalizing others with
  | done =>
    cases h'
    rfl
  | last hnext =>
    cases h' with
    | last => rfl
    | next hnext' => cases hnext.symm.trans hnext'
  | next hnext _ ih =>
    cases h' with
    | last hnext' => cases hnext.symm.trans hnext'
    | next hnext' hrest' =>
      obtain rfl := Option.some.inj (hnext.symm.trans hnext')
      rw [ih hrest']

/-- Behind the marker of a section, the search finds the end of the section, unless that is the end
of the document. -/
theorem IsSection.placeFrom?_eq {document : Text} {start stop : Nat}
    (h : IsSection document start stop) :
    placeFrom? marker document (start + marker.length) =
      if stop < document.length then some stop else none := by
  -- markers do not overlap, so the end of the section is not in front of the search
  have hskip : ∀ j, start < j → marker <+: document.drop j → start + marker.length ≤ j := by
    intro j hj hmark
    by_contra hlt
    obtain ⟨k, rfl⟩ := Nat.exists_eq_add_of_lt hj
    rw [Nat.add_assoc, ← List.drop_drop] at hmark
    exact not_isPrefix_drop_of_lt marker_borderless h.marked k.succ_pos (by omega) hmark
  have hbetween : ∀ j, start + marker.length ≤ j → j < stop → ¬ marker <+: document.drop j := by
    intro j hj hstop
    have hpos := marker_borderless.length_pos
    exact h.first j (by omega) hstop
  by_cases hstop : stop < document.length
  · have hmark := h.next.resolve_left hstop.ne
    rw [if_pos hstop, placeFrom?_eq_some_iff]
    exact ⟨⟨mem_places_marker_iff.2 hmark, hskip stop h.lt hmark⟩, hbetween⟩
  · rw [if_neg hstop, placeFrom?_eq_none_iff]
    intro i hi
    rw [mem_places_marker_iff] at hi
    have hlength := marker_borderless.lt_length hi
    by_contra hstart
    exact hbetween i (Nat.le_of_not_lt hstart) (by omega) hi

/-- From the first of several marked parts that end a document, the walk collects these parts. -/
theorem walk_of_marked (y : Text) {x : Text} {rest : List Text}
    (h : ∀ p ∈ x :: rest, Marked marker p) :
    Walk (y ++ (x ++ rest.flatten)) (some y.length) (x :: rest) := by
  induction rest generalizing y x with
  | nil =>
    have hsection := isSection_append y h
    have hend : ¬ y.length + x.length < (y ++ (x ++ [].flatten)).length := by simp
    have hwalk := Walk.last (hsection.placeFrom?_eq.trans (if_neg hend))
    rw [List.drop_left] at hwalk
    rwa [List.flatten_nil, List.append_nil] at hwalk ⊢
  | cons z rest ih =>
    have hsection := isSection_append y h
    have hlt : y.length + x.length < (y ++ (x ++ (z :: rest).flatten)).length := by
      have hz := (h z (by simp)).1.length_le
      have hpos := marker_borderless.length_pos
      simp only [List.length_append, List.flatten_cons]
      omega
    have hrest := ih (y ++ x) fun p hp => h p (List.mem_cons_of_mem x hp)
    rw [List.append_assoc, List.length_append] at hrest
    have hwalk := Walk.next (hsection.placeFrom?_eq.trans (if_pos hlt)) hrest
    rwa [List.drop_left, Nat.add_sub_cancel_left, List.take_left] at hwalk

/-- The walk through a document comes to its end and collects the sections. -/
theorem walk_sections (document : Text) :
    Walk document (placeFrom? marker document 0) (sections document) := by
  rw [placeFrom?_zero, head?_places]
  cases hsections : sections document with
  | nil => exact .done
  | cons x rest =>
    have hmarked : ∀ p ∈ x :: rest, Marked marker p := fun p hp =>
      marked_of_mem_sections (hsections ▸ hp)
    have hwalk := walk_of_marked (front document) hmarked
    rwa [← List.flatten_cons, ← hsections, front_append_flatten_sections, hsections] at hwalk

/-- The walk from marker to marker ends in every document, and what it collects are the sections.
They are a partition of the document from the first place of the marker on: put together they are
that part of it, or nothing if there is no such place; each of them has the marker at its start and
nowhere else, and there is one for each place of the marker. -/
theorem sections_partition (document : Text) :
    (∀ parts, Walk document (placeFrom? marker document 0) parts ↔ parts = sections document) ∧
      (sections document).flatten = (placeFrom? marker document 0).elim [] document.drop ∧
      (∀ s ∈ sections document, places marker s = [0]) ∧
      (sections document).length = (places marker document).length := by
  refine ⟨fun parts => ⟨fun h => (walk_sections document).unique h, ?_⟩, ?_, ?_, ?_⟩
  · rintro rfl
    exact walk_sections document
  · rw [placeFrom?_zero, head?_places]
    cases hsections : sections document with
    | nil => rfl
    | cons x rest =>
      have hdrop := drop_front document
      rw [hsections] at hdrop
      exact hdrop.symm
  · exact fun s hs => (marked_of_mem_sections hs).places_eq
  · rw [← map_fst_placedSections, ← map_snd_placedSections, List.length_map, List.length_map]

/-- A marker that is only half written belongs to the section in front of it. -/
theorem sections_partition_halfMarker :
    marker ++ "nop<div class".toList ∈
        sections ("<p>".toList ++ marker ++ "nop<div class".toList ++ marker) ∧
      places marker (marker ++ "nop<div class".toList) = [0] := by
  have hmem : marker ++ "nop<div class".toList ∈
      sections ("<p>".toList ++ marker ++ "nop<div class".toList ++ marker) := by
    decide +kernel
  exact ⟨hmem, (sections_partition _).2.2.1 _ hmem⟩

end Disassembly.Manual
