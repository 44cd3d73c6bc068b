import Disassembly.Proofs.Manual.Partition
import Disassembly.Proofs.Outcome

/-!
# The sections that loading stores

A place of the section marker counts if a title follows at once and its closing quotation mark
stands before the next place of the marker (`TitledSection.In`). Loading a document adds the
sections at the places that count, in the order of the document, each under its own title with the
character references replaced, and nothing else (`load_titles`). So a section without a title, or
with one that is not closed, takes neither a title nor text from another one.

Whether a title can be read is a matter of the character references in it. If one of the titles that
count cannot be read, loading fails and stores nothing.
-/

set_option autoImplicit false

namespace Disassembly.Manual

open Text

/-! ## Titled sections -/

/-- A section of a document: the position of its marker, its title as the document shows it, and its
text. -/
structure TitledSection where
  start : Nat
  title : Text
  text : Text

/-- The place of the marker counts: the opening tag with the title stands there and ends before the
section does. -/
structure TitledSection.In (x : TitledSection) (document : Text) : Prop where
  unquoted : '"' ∉ x.title
  opened : Store.openingTag x.title <+: document.drop x.start
  closed : ∃ stop, IsSection document x.start stop ∧
    x.start + (Store.openingTag x.title).length ≤ stop ∧
    x.text = (document.drop x.start).take (stop - x.start)

theorem titleClosing_eq : titleClosing = ['"'] := rfl

/-- The title of a section is found right behind its marker, or not at all. -/
theorem rawTitle?_eq_some_iff {x title : Text} (h : Marked marker x) :
    rawTitle? x = some title ↔ '"' ∉ title ∧ Store.openingTag title <+: x := by
  rw [rawTitle?, between?, Option.bind_eq_some_iff, Store.openingTag, titleClosing_eq]
  constructor
  · rintro ⟨⟨before, rest⟩, houter, hinner⟩
    obtain ⟨htext, -⟩ := cut?_eq_some_iff.1 houter
    obtain ⟨⟨title', behind⟩, hcut, rfl⟩ := Option.map_eq_some_iff.1 hinner
    obtain ⟨hrest, hquote⟩ := cut?_singleton_eq_some_iff.1 hcut
    -- the search for the opening stops at the only place of the marker
    obtain rfl : before = [] := by
      by_contra hne
      refine h.2 before.length (List.length_pos_of_ne_nil hne) ?_
      rw [htext, List.drop_left, List.append_assoc]
      exact List.prefix_append _ _
    dsimp only at hrest
    refine ⟨hquote, behind, ?_⟩
    rw [htext, hrest]
    simp only [List.nil_append, List.append_assoc, List.singleton_append]
  · rintro ⟨hquote, behind, rfl⟩
    refine ⟨([], title ++ '"' :: behind), ?_, ?_⟩
    · have hcut := cut?_append_self (marker ++ titleOpening) (title ++ '"' :: behind)
      rwa [List.append_assoc (marker ++ titleOpening ++ title), List.append_assoc,
        List.singleton_append]
    · exact Option.map_eq_some_iff.2
        ⟨(title, behind), cut?_singleton_eq_some_iff.2 ⟨rfl, hquote⟩, rfl⟩

/-- The titled sections of a document, in their order. -/
def titledPlaces (document : Text) : List TitledSection :=
  (placedSections document).filterMap fun p => (rawTitle? p.2).map (⟨p.1, ·, p.2⟩)

theorem mem_titledPlaces_iff {x : TitledSection} {document : Text} :
    x ∈ titledPlaces document ↔ x.In document := by
  rw [titledPlaces, List.mem_filterMap]
  constructor
  · rintro ⟨⟨i, text⟩, hmem, htitle⟩
    obtain ⟨title, hraw, rfl⟩ := Option.map_eq_some_iff.1 htitle
    obtain ⟨hquote, hopened⟩ :=
      (rawTitle?_eq_some_iff (marked_of_mem_placedSections hmem)).1 hraw
    obtain ⟨htext, hsection⟩ := isSection_of_mem_placedSections hmem
    refine ⟨hquote, ?_, i + text.length, hsection, ?_, ?_⟩
    · rw [htext]
      exact hopened.trans (List.prefix_append _ _)
    · exact Nat.add_le_add_left hopened.length_le i
    · rw [Nat.add_sub_cancel_left, htext, List.take_left]
  · rintro ⟨hquote, hopened, stop, hsection, hstop, htext⟩
    have hmem : (x.start, x.text) ∈ placedSections document :=
      mem_placedSections_iff.2 ⟨stop, hsection, htext⟩
    have hprefix : Store.openingTag x.title <+: x.text := by
      rw [htext, List.prefix_take_iff]
      exact ⟨hopened, by omega⟩
    have htitle :=
      (rawTitle?_eq_some_iff (marked_of_mem_placedSections hmem)).2 ⟨hquote, hprefix⟩
    exact ⟨_, hmem, Option.map_eq_some_iff.2 ⟨x.title, htitle, rfl⟩⟩

theorem pairwise_titledPlaces (document : Text) :
    (titledPlaces document).Pairwise fun x y => x.start < y.start := by
  refine List.Pairwise.filterMap _ ?_ (pairwise_placedSections document)
  intro p q hlt x hx y hy
  obtain ⟨-, -, rfl⟩ := Option.map_eq_some_iff.1 hx
  obtain ⟨-, -, rfl⟩ := Option.map_eq_some_iff.1 hy
  exact hlt

/-- What is loaded from a document are its titled sections. -/
theorem titled_eq_map (document : Text) :
    titled document = (titledPlaces document).map fun x => (x.title, x.text) := by
  rw [titled, ← map_snd_placedSections, List.filterMap_map, titledPlaces, List.map_filterMap]
  refine List.filterMap_congr fun p _ => ?_
  rw [Function.comp_apply, Option.map_map]
  rfl

/-! ## Loading -/

/-- What is stored for a titled section: its text, under the title with the character references
replaced. -/
def TitledSection.entry (x : TitledSection) : Except Html.OverlongReference (Text × Text) :=
  (Html.unescape x.title).map (·, x.text)

namespace Store

theorem titledSections_eq_mapM (document : Text) :
    titledSections document = (titledPlaces document).mapM TitledSection.entry := by
  rw [titledSections, titled_eq_map, List.mapM_map]
  rfl

theorem get?_addSections (s : Store) (added : List (Text × Text)) (title : Text) :
    (s.addSections added).store.get? title = (latest? added title).or (s.get? title) := by
  by_cases hnil : added = []
  · subst hnil
    rw [addSections_nil]
    rfl
  · rw [(s.addSections_of_ne_nil hnil).2, get?, lookup_foldl_setField]
    rfl

theorem count_addSections (s : Store) (added : List (Text × Text)) :
    (s.addSections added).count = added.length := by
  by_cases hnil : added = []
  · subst hnil
    rw [addSections_nil]
    rfl
  · exact (s.addSections_of_ne_nil hnil).1

theorem load_of_ok (s : Store) {document : Text} {added : List (Text × Text)}
    (h : titledSections document = .ok added) :
    ∃ loading, s.load document = .ok loading ∧ loading.count = (s.addSections added).count ∧
      loading.store = (s.addSections added).store := by
  cases document with
  | nil =>
    obtain rfl := Except.ok.inj h
    exact ⟨_, rfl, rfl, rfl⟩
  | cons c r =>
    rw [load, if_neg (by simp), h]
    exact ⟨_, rfl, rfl, rfl⟩

/-- Loading a document adds the sections at those places of the marker that count, in the order of
the document, and nothing else; without such a place the store stays as it is. It fails if and only
if the title of one of these sections cannot be read. -/
theorem load_titles (s : Store) (document : Text) :
    ∃ found : List TitledSection,
      found.Pairwise (fun x y => x.start < y.start) ∧ (∀ x, x ∈ found ↔ x.In document) ∧
        (∀ e, found.mapM TitledSection.entry = .error e → s.load document = .error e) ∧
        ∀ added, found.mapM TitledSection.entry = .ok added →
          ∃ loading, s.load document = .ok loading ∧ loading.count = found.length ∧
            (found = [] → loading.store = s) ∧
            ∀ title, loading.store.get? title = (latest? added title).or (s.get? title) := by
  refine ⟨titledPlaces document, pairwise_titledPlaces document,
    fun x => mem_titledPlaces_iff, fun e hentries => ?_, fun added hentries => ?_⟩
  · exact s.load_of_error (titledSections_eq_mapM document ▸ hentries)
  · obtain ⟨loading, hload, hcount, hstore⟩ :=
      s.load_of_ok (titledSections_eq_mapM document ▸ hentries)
    have hlength : added.length = (titledPlaces document).length :=
      Yields.length_mapM _ _ added hentries
    refine ⟨loading, hload, by rw [hcount, count_addSections, hlength], fun hnone => ?_,
      fun title => by rw [hstore, get?_addSections]⟩
    obtain rfl : added = [] := List.eq_nil_of_length_eq_zero (by rw [hlength, hnone]; rfl)
    rw [hstore, addSections_nil]

/-- A section without a title does not take that of the next one. -/
example : (titledPlaces (marker ++ ">".toList ++ openingTag "nop".toList)).map (·.title) =
    ["nop".toList] := by
  decide +kernel

end Store

end Disassembly.Manual
