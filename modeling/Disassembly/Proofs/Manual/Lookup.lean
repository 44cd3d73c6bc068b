import Disassembly.Proofs.Manual.History
import Mathlib.Tactic

/-!
# Looking up a mnemonic

What a store describes a mnemonic by, told from the history of the store alone: the section under
the mnemonic itself, else the section under the title of the family with the longest literal part
that the mnemonic goes on behind, where of several titles with the same literal part the one that
was added first counts. `lookup_eq_iff` says that this is what every store finds that loaded any
documents, and that the title of every family of such a store has a section.

The families of a store are an index beside its sections, sorted by the length of the literal part.
The first hit in the index is the right one because the sort is stable
(`find?_longestFirst`) and the index lists the titles in the order in which the history names them.
-/

set_option autoImplicit false

namespace Disassembly.Manual

/-! ## The first hit in a stable order -/

theorem pair_sublist_of_pairwise {α : Type} {R : α → α → Prop} {l : List α} (h : l.Pairwise R)
    (hasymm : ∀ a b, R a b → ¬R b a) {a b : α} (ha : a ∈ l) (hb : b ∈ l) (hab : R a b) :
    [a, b].Sublist l := by
  obtain ⟨before, behind, rfl⟩ := List.append_of_mem ha
  rw [List.pairwise_append, List.pairwise_cons] at h
  obtain ⟨-, -, hcross⟩ := h
  rcases List.mem_append.1 hb with hb | hb
  · exact absurd (hcross b hb a List.mem_cons_self) (hasymm a b hab)
  · rcases List.mem_cons.1 hb with rfl | hb
    · exact absurd hab (hasymm b b hab)
    · exact List.sublist_append_of_sublist_right
        ((List.singleton_sublist.2 hb).cons_cons a)

theorem mem_left_of_pair_sublist {α : Type} {before behind : List α} {a b : α}
    (hnodup : (before ++ b :: behind).Nodup) (h : [a, b].Sublist (before ++ b :: behind)) :
    a ∈ before := by
  obtain ⟨front, back, hsplit, ha, hb⟩ := List.cons_sublist_iff.1 h
  rw [List.singleton_sublist] at hb
  rw [hsplit] at hnodup
  have hfront : b ∉ front := fun hc => (List.nodup_append.1 hnodup).2.2 b hc b hb rfl
  -- the element behind the pair stands at one place only, so the front ends before it
  rcases List.append_eq_append_iff.1 hsplit with ⟨extra, rfl, hextra⟩ | ⟨extra, rfl, -⟩
  · cases extra with
    | nil => simpa using ha
    | cons c r =>
      obtain ⟨rfl, -⟩ := List.cons.inj hextra
      exact absurd (List.mem_append_right before List.mem_cons_self) hfront
  · exact List.mem_append_left extra ha

namespace Family

theorem covers_iff_starts {f : Family} {mnemonic : Text} :
    f.covers mnemonic = true ↔ f.stem.length < mnemonic.length ∧ f.stem <+: mnemonic := by
  rw [covers, Bool.and_eq_true, decide_eq_true_eq, List.isPrefixOf_iff_prefix]

/-- The first hit among the families with the longer literal parts first has the longest literal
part of all hits, and no hit of that length stood before it. -/
theorem find?_longestFirst {families : List Family} {p : Family → Bool} {f : Family}
    (hnodup : families.Nodup) (h : (longestFirst families).find? p = some f) :
    ∀ g ∈ families, p g = true → g.stem.length ≤ f.stem.length ∧
      (g.stem.length = f.stem.length → ¬[g, f].Sublist families) := by
  intro g hg hpg
  have htrans : ∀ a b c : Family, decide (b.stem.length ≤ a.stem.length) = true →
      decide (c.stem.length ≤ b.stem.length) = true →
      decide (c.stem.length ≤ a.stem.length) = true := by
    simp only [decide_eq_true_eq]
    omega
  have htotal : ∀ a b : Family, (decide (b.stem.length ≤ a.stem.length) ||
      decide (a.stem.length ≤ b.stem.length)) = true := by
    simp only [Bool.or_eq_true, decide_eq_true_eq]
    omega
  have hsorted := List.pairwise_mergeSort htrans htotal families
  have hperm := List.mergeSort_perm families fun a b => decide (b.stem.length ≤ a.stem.length)
  obtain ⟨-, before, behind, hsplit, hbefore⟩ := List.find?_eq_some_iff_append.1 h
  have hnot : g ∉ before := fun hc => by simpa [hpg] using hbefore g hc
  rw [longestFirst] at hsplit
  have hmem : g ∈ before ++ f :: behind := hsplit ▸ hperm.mem_iff.2 hg
  have hle : g.stem.length ≤ f.stem.length := by
    rcases List.mem_append.1 hmem with hc | hc
    · exact absurd hc hnot
    · rcases List.mem_cons.1 hc with rfl | hc
      · exact Nat.le_refl _
      · rw [hsplit, List.pairwise_append, List.pairwise_cons] at hsorted
        simpa using hsorted.2.1.1 g hc
  refine ⟨hle, fun heq hsub => hnot ?_⟩
  -- the sort is stable, so the earlier family stays before the hit and would have been found
  have hpair := List.pair_sublist_mergeSort htrans htotal (by simp [heq]) hsub
  rw [hsplit] at hpair
  exact mem_left_of_pair_sublist (hsplit ▸ hperm.nodup_iff.2 hnodup) hpair

end Family

namespace Store

/-! ## What a history describes a mnemonic by -/

/-- The part of a title before its first bracket. -/
def literalPart (title : Text) : Text :=
  title.takeWhile (· != '<')

/-- A title stands for a family to which the mnemonic belongs: the mnemonic starts with the literal
part of the title, which is not empty, and goes on behind it. -/
structure Covers (title mnemonic : Text) : Prop where
  bracket : '<' ∈ title
  nonempty : literalPart title ≠ []
  starts : literalPart title <+: mnemonic
  proper : literalPart title ≠ mnemonic

/-- Of the titles that cover a mnemonic, the one with the longest literal part; of several with the
same literal part, the one that is named first. -/
structure IsChosen (titles : List Text) (mnemonic title : Text) : Prop where
  stored : title ∈ titles
  covers : Covers title mnemonic
  longest : ∀ other ∈ titles, Covers other mnemonic →
    (literalPart other).length ≤ (literalPart title).length
  first : ∀ other ∈ titles, Covers other mnemonic → literalPart other = literalPart title →
    titles.idxOf title ≤ titles.idxOf other

/-- What a history describes a mnemonic by. -/
inductive Describes (entries : List (Text × Text)) (mnemonic : Text) : Option Text → Prop where
  /-- The section that was added last under the mnemonic itself. -/
  | exact {text : Text} (h : latest? entries mnemonic = some text) :
      Describes entries mnemonic (some text)
  /-- The section that was added last under the title of the chosen family. -/
  | family {title text : Text} (hmnemonic : mnemonic ∉ entries.map Prod.fst)
      (htitle : IsChosen (entries.map Prod.fst) mnemonic title)
      (h : latest? entries title = some text) : Describes entries mnemonic (some text)
  /-- Neither a title nor a family fits. -/
  | nothing (hmnemonic : mnemonic ∉ entries.map Prod.fst)
      (h : ∀ title ∈ entries.map Prod.fst, ¬Covers title mnemonic) : Describes entries mnemonic none

theorem latest?_isSome_iff (entries : List (Text × Text)) (title : Text) :
    (latest? entries title).isSome = true ↔ title ∈ entries.map Prod.fst := by
  rw [latest?, List.lookup_isSome_iff]
  simp only [List.mem_reverse, List.mem_map, beq_iff_eq]
  exact exists_congr fun entry => and_congr_right fun _ => eq_comm

theorem IsChosen.unique {titles : List Text} {mnemonic a b : Text} (ha : IsChosen titles mnemonic a)
    (hb : IsChosen titles mnemonic b) : a = b := by
  have hlength : (literalPart a).length = (literalPart b).length :=
    Nat.le_antisymm (hb.longest a ha.stored ha.covers) (ha.longest b hb.stored hb.covers)
  -- two starts of the mnemonic of the same length are the same
  have hpart : literalPart a = literalPart b :=
    (List.prefix_of_prefix_length_le ha.covers.starts hb.covers.starts hlength.le).eq_of_length
      hlength
  have hindex : titles.idxOf a = titles.idxOf b :=
    Nat.le_antisymm (ha.first b hb.stored hb.covers hpart.symm)
      (hb.first a ha.stored ha.covers hpart)
  exact (List.idxOf_inj ha.stored).1 hindex

/-- A history describes a mnemonic in one way only. -/
theorem Describes.unique {entries : List (Text × Text)} {mnemonic : Text} {a b : Option Text}
    (ha : Describes entries mnemonic a) (hb : Describes entries mnemonic b) : a = b := by
  have hmem : ∀ {text}, latest? entries mnemonic = some text → mnemonic ∈ entries.map Prod.fst :=
    fun h => (latest?_isSome_iff entries mnemonic).1 (by rw [h]; rfl)
  cases ha with
  | exact ha =>
    cases hb with
    | exact hb => rw [← ha, ← hb]
    | family hm _ _ => exact absurd (hmem ha) hm
    | nothing hm _ => exact absurd (hmem ha) hm
  | family hm ht ha =>
    cases hb with
    | exact hb => exact absurd (hmem hb) hm
    | family _ hu hb => rw [← ha, ← hb, ht.unique hu]
    | nothing _ hnone => exact absurd ht.covers (hnone _ ht.stored)
  | nothing hm hnone =>
    cases hb with
    | exact hb => exact absurd (hmem hb) hm
    | family _ ht _ => exact absurd ht.covers (hnone _ ht.stored)
    | nothing _ _ => rfl

/-! ## The families of a store -/

/-- The families among titles that have a literal part, in the order of the titles. -/
def titledFamilies (titles : List Text) : List Family :=
  (familiesOf titles).filter (!·.stem.isEmpty)

theorem orderedFamilies_eq (titles : List Text) :
    orderedFamilies titles = Family.longestFirst (titledFamilies titles) := rfl

theorem mem_titledFamilies (titles : List Text) (f : Family) :
    f ∈ titledFamilies titles ↔
      f.title ∈ titles ∧ '<' ∈ f.title ∧ f.stem = literalPart f.title ∧ f.stem ≠ [] := by
  rw [titledFamilies, List.mem_filter, familiesOf, List.mem_filterMap]
  constructor
  · rintro ⟨⟨title, htitle, hfamily⟩, hstem⟩
    rw [Family.ofTitle?] at hfamily
    split at hfamily
    next hbracket =>
      obtain rfl := Option.some.inj hfamily
      exact ⟨htitle, hbracket, rfl, by simpa using hstem⟩
    next => cases hfamily
  · rintro ⟨htitle, hbracket, hstem, hne⟩
    refine ⟨⟨f.title, htitle, ?_⟩, by simpa using hne⟩
    rw [Family.ofTitle?, if_pos hbracket, ← literalPart, ← hstem]

/-- Sorting drops no family and adds none. -/
theorem mem_orderedFamilies_iff {titles : List Text} {f : Family} :
    f ∈ orderedFamilies titles ↔ f ∈ titledFamilies titles := by
  rw [orderedFamilies_eq]
  exact (List.mergeSort_perm _ _).mem_iff

/-- The families among titles keep the order of the titles. -/
theorem pairwise_familiesOf {titles : List Text} {R : Text → Text → Prop}
    (h : titles.Pairwise R) : (familiesOf titles).Pairwise fun f g => R f.title g.title := by
  have htitle : ∀ title f, Family.ofTitle? title = some f → f.title = title := by
    intro title f hf
    rw [Family.ofTitle?] at hf
    split at hf
    next =>
      obtain rfl := Option.some.inj hf
      rfl
    next => cases hf
  refine List.Pairwise.filterMap _ (fun a b hab f hf g hg => ?_) h
  rw [htitle a f hf, htitle b g hg]
  exact hab

theorem covers_iff {f : Family} (hbracket : '<' ∈ f.title) (hstem : f.stem = literalPart f.title)
    (hne : f.stem ≠ []) (mnemonic : Text) : f.covers mnemonic = true ↔ Covers f.title mnemonic := by
  rw [Family.covers_iff_starts, hstem]
  constructor
  · rintro ⟨hlt, hstarts⟩
    exact ⟨hbracket, hstem ▸ hne, hstarts, fun hc => by simp [hc] at hlt⟩
  · intro h
    refine ⟨Nat.lt_of_le_of_ne h.starts.length_le fun hc => h.proper ?_, h.starts⟩
    exact h.starts.eq_of_length hc

section History

variable (entries : List (Text × Text))

/-- Before they are sorted, the families stand in the order in which the history names them. -/
theorem pairwise_titledFamilies :
    (titledFamilies ((storedSections entries).map Prod.fst)).Pairwise fun f g =>
      (entries.map Prod.fst).idxOf f.title < (entries.map Prod.fst).idxOf g.title :=
  (pairwise_familiesOf (pairwise_storedSections entries)).filter _

theorem nodup_titledFamilies :
    (titledFamilies ((storedSections entries).map Prod.fst)).Nodup := by
  refine (pairwise_titledFamilies entries).imp ?_
  rintro a b hlt rfl
  exact Nat.lt_irrefl _ hlt

variable {entries} {mnemonic : Text}

/-- A title that covers a mnemonic has a family that covers it. -/
theorem exists_family_of_covers {title : Text} (htitle : title ∈ entries.map Prod.fst)
    (h : Covers title mnemonic) :
    ∃ g : Family, g.title = title ∧ g.stem = literalPart title ∧ g.covers mnemonic = true ∧
      g ∈ titledFamilies ((storedSections entries).map Prod.fst) := by
  refine ⟨⟨literalPart title, title⟩, rfl, rfl, ?_, ?_⟩
  · exact (covers_iff h.bracket rfl h.nonempty mnemonic).2 h
  · exact (mem_titledFamilies _ _).2
      ⟨(mem_map_fst_storedSections entries title).2 htitle, h.bracket, rfl, h.nonempty⟩

/-- The first family in the index that covers a mnemonic is the one of the chosen title. -/
theorem isChosen_of_find?_families {f : Family}
    (h : (ofHistory entries).families.find? (·.covers mnemonic) = some f) :
    IsChosen (entries.map Prod.fst) mnemonic f.title := by
  have hf := mem_orderedFamilies_iff.1 (List.mem_of_find?_eq_some h)
  obtain ⟨htitle, hbracket, hstem, hne⟩ := (mem_titledFamilies _ _).1 hf
  have hfound : f.covers mnemonic = true := by simpa using List.find?_some h
  have hbest := Family.find?_longestFirst (nodup_titledFamilies entries) h
  refine ⟨(mem_map_fst_storedSections entries f.title).1 htitle,
    (covers_iff hbracket hstem hne mnemonic).1 hfound, ?_, ?_⟩
  · intro other hother hcovers
    obtain ⟨g, -, hgstem, hgcovers, hg⟩ := exists_family_of_covers hother hcovers
    have hle := (hbest g hg hgcovers).1
    rwa [hgstem, hstem] at hle
  · intro other hother hcovers hsame
    obtain ⟨g, rfl, hgstem, hgcovers, hg⟩ := exists_family_of_covers hother hcovers
    have hlength : g.stem.length = f.stem.length := by rw [hgstem, hstem, hsame]
    by_contra hlt
    refine (hbest g hg hgcovers).2 hlength ?_
    exact pair_sublist_of_pairwise (pairwise_titledFamilies entries)
      (fun a b hab hba => Nat.lt_asymm hab hba) hg hf (Nat.not_le.1 hlt)

end History

/-- A store with a given history finds what the history describes a mnemonic by. -/
theorem describes_lookup_ofHistory (entries : List (Text × Text)) (mnemonic : Text) :
    Describes entries mnemonic ((ofHistory entries).lookup mnemonic) := by
  have hget : ∀ title, (ofHistory entries).get? title = latest? entries title :=
    lookup_storedSections entries
  rw [lookup, hget]
  -- the section under the mnemonic itself comes first
  cases hexact : latest? entries mnemonic with
  | some text => exact .exact hexact
  | none =>
    have hmnemonic : mnemonic ∉ entries.map Prod.fst := by
      rw [← latest?_isSome_iff, hexact]
      exact Bool.false_ne_true
    cases hfind : (ofHistory entries).families.find? (·.covers mnemonic) with
    | none =>
      refine .nothing hmnemonic fun title htitle hcovers => ?_
      obtain ⟨g, -, -, hgcovers, hg⟩ := exists_family_of_covers htitle hcovers
      exact List.find?_eq_none.1 hfind g (mem_orderedFamilies_iff.2 hg) hgcovers
    | some f =>
      have hchosen := isChosen_of_find?_families hfind
      -- the title of the family is a title of the history, so it has a section
      have hsome := (latest?_isSome_iff entries f.title).2 hchosen.stored
      obtain ⟨text, htext⟩ := Option.isSome_iff_exists.1 hsome
      rw [Option.bind_some, hget, htext]
      exact .family hmnemonic hchosen htext

/-! ## Every store that loaded documents -/

/-- After any documents were loaded, the title of every family has a section, so that a look-up
never asks for a section that is not there; and what is found for a mnemonic is what the history
describes it by. -/
theorem lookup_eq_iff (documents : List Text) (mnemonic : Text) :
    (∀ f ∈ (loadAll documents).families, (loadAll documents).contains f.title = true) ∧
      ∀ found, (loadAll documents).lookup mnemonic = found ↔
        Describes (history documents) mnemonic found := by
  rw [loadAll_eq]
  refine ⟨fun f hf => ?_, fun found => ⟨?_, fun h => ?_⟩⟩
  · have htitled := (mem_titledFamilies _ f).1 (mem_orderedFamilies_iff.1 hf)
    obtain ⟨entry, hentry, htitle⟩ := List.mem_map.1 htitled.1
    rw [contains, List.any_eq_true]
    exact ⟨entry, hentry, beq_iff_eq.2 htitle⟩
  · rintro rfl
    exact describes_lookup_ofHistory _ mnemonic
  · exact (describes_lookup_ofHistory _ mnemonic).unique h

end Store

end Disassembly.Manual
