import Disassembly.Proofs.Manual.Lookup
import Disassembly.Proofs.Manual.Titles
import Mathlib.Data.List.Sym
import Mathlib.Tactic

/-!
# Overlapping families

Loading a document reports pairs of families whose literal parts are each other's starts. These are
the families between which a mnemonic can be ambiguous: literal parts are comparable if and only if
some mnemonic goes on behind both (`Family.overlap_iff`). The pairs are taken from the sorted index,
where of two families either one may come first, so what is reported is an unordered pair of titles.

- `Family.mem_titlePairs_overlaps_iff` and `Family.nodup_titlePairs_overlaps` say for families with
  different titles that every ambiguous pair is found, once, and no other.
- `Store.load_overlaps` says that a load reports the ambiguities of the store that it leaves behind,
  with the sections of earlier loads among them, and that the last load that stored anything
  reported those of the present store.
-/

set_option autoImplicit false

namespace Disassembly.Manual

/-! ## Pairs of families -/

namespace Family

theorem overlap_iff_starts {a b : Family} :
    a.overlap b = true ↔ b.stem <+: a.stem ∨ a.stem <+: b.stem := by
  rw [overlap, Bool.or_eq_true, List.isPrefixOf_iff_prefix, List.isPrefixOf_iff_prefix]

theorem overlap_comm (a b : Family) : a.overlap b = b.overlap a :=
  Bool.or_comm _ _

/-- If the literal part of one family starts that of another, what goes on behind the longer one
belongs to both. -/
theorem exists_covers_of_starts {a b : Family} (h : a.stem <+: b.stem) :
    ∃ mnemonic, a.covers mnemonic = true ∧ b.covers mnemonic = true := by
  have hlonger : b.stem.length < (b.stem ++ ['x']).length := by
    rw [List.length_append]
    exact Nat.lt_succ_self _
  refine ⟨b.stem ++ ['x'], covers_iff_starts.2 ⟨?_, ?_⟩, covers_iff_starts.2 ⟨hlonger, ?_⟩⟩
  · exact lt_of_le_of_lt h.length_le hlonger
  · exact h.trans (List.prefix_append _ _)
  · exact List.prefix_append _ _

/-- Two families overlap if and only if some mnemonic belongs to both. -/
theorem overlap_iff {a b : Family} : a.overlap b = true ↔
    ∃ mnemonic, a.covers mnemonic = true ∧ b.covers mnemonic = true := by
  rw [overlap_iff_starts]
  constructor
  · rintro (h | h)
    · obtain ⟨mnemonic, hb, ha⟩ := exists_covers_of_starts h
      exact ⟨mnemonic, ha, hb⟩
    · exact exists_covers_of_starts h
  · rintro ⟨mnemonic, ha, hb⟩
    -- the starts of one mnemonic are comparable
    exact List.prefix_or_prefix_of_prefix (covers_iff_starts.1 hb).2 (covers_iff_starts.1 ha).2

/-- The titles of two families, in no order. -/
def titlePair (p : Family × Family) : Sym2 Text :=
  s(p.1.title, p.2.title)

/-- A pair that is found consists of two of the families, the first of which stands before the
second. -/
theorem rel_of_mem_overlaps {families : List Family} {R : Family → Family → Prop}
    (hR : families.Pairwise R) {a b : Family} (h : (a, b) ∈ overlaps families) :
    a ∈ families ∧ b ∈ families ∧ R a b ∧ a.overlap b = true := by
  induction families with
  | nil => cases h
  | cons f rest ih =>
    rw [List.pairwise_cons] at hR
    rw [overlaps, List.mem_append] at h
    rcases h with h | h
    · obtain ⟨g, hg, hpair⟩ := List.mem_map.1 h
      obtain ⟨rfl, rfl⟩ := Prod.mk.inj hpair
      obtain ⟨hmem, hoverlap⟩ := List.mem_filter.1 hg
      exact ⟨List.mem_cons_self, List.mem_cons_of_mem _ hmem, hR.1 _ hmem, hoverlap⟩
    · obtain ⟨ha, hb, hrel, hoverlap⟩ := ih hR.2 h
      exact ⟨List.mem_cons_of_mem _ ha, List.mem_cons_of_mem _ hb, hrel, hoverlap⟩

/-- Two of the families that overlap are found, in one order or the other. -/
theorem mem_overlaps_or {families : List Family} {a b : Family} (ha : a ∈ families)
    (hb : b ∈ families) (hne : a ≠ b) (hoverlap : a.overlap b = true) :
    (a, b) ∈ overlaps families ∨ (b, a) ∈ overlaps families := by
  have hhead : ∀ {f g : Family} {rest : List Family}, g ∈ rest → f.overlap g = true →
      (f, g) ∈ overlaps (f :: rest) := fun hg hfg =>
    List.mem_append_left _ (List.mem_map_of_mem (List.mem_filter.2 ⟨hg, hfg⟩))
  induction families with
  | nil => cases ha
  | cons f rest ih =>
    rcases List.mem_cons.1 ha with rfl | harest
    · rcases List.mem_cons.1 hb with rfl | hbrest
      · exact absurd rfl hne
      · exact .inl (hhead hbrest hoverlap)
    · rcases List.mem_cons.1 hb with rfl | hbrest
      · exact .inr (hhead harest (overlap_comm a b ▸ hoverlap))
      · exact (ih harest hbrest).imp (List.mem_append_right _) (List.mem_append_right _)

/-- The pairs that are found are some of all unordered pairs of the titles. -/
theorem titlePairs_overlaps_sublist (families : List Family) :
    ((overlaps families).map titlePair).Sublist (families.map title).sym2 := by
  induction families with
  | nil => exact List.Sublist.slnil
  | cons f rest ih =>
    have hhead : ((rest.filter (overlap f ·)).map fun g => s(f.title, g.title)).Sublist
        ((f :: rest).map fun g => s(f.title, g.title)) :=
      (List.filter_sublist.trans (List.sublist_cons_self f rest)).map _
    rw [overlaps, List.map_append, List.map_map, List.map_cons, List.sym2, ← List.map_cons,
      List.map_map]
    exact hhead.append ih

/-- Families with different titles are not found twice. -/
theorem nodup_titlePairs_overlaps {families : List Family} (h : (families.map title).Nodup) :
    ((overlaps families).map titlePair).Nodup :=
  h.sym2.sublist (titlePairs_overlaps_sublist families)

/-- Of families with different titles, those pairs are found for which some mnemonic belongs to
both. -/
theorem mem_titlePairs_overlaps_iff {families : List Family} (h : (families.map title).Nodup)
    {a b : Family} (ha : a ∈ families) (hb : b ∈ families) :
    s(a.title, b.title) ∈ (overlaps families).map titlePair ↔
      a.title ≠ b.title ∧ ∃ mnemonic, a.covers mnemonic = true ∧ b.covers mnemonic = true := by
  rw [← overlap_iff]
  constructor
  · intro hmem
    obtain ⟨⟨c, d⟩, hfound, hpair⟩ := List.mem_map.1 hmem
    obtain ⟨hc, hd, hne, hoverlap⟩ := rel_of_mem_overlaps (List.pairwise_map.1 h) hfound
    have htitle := List.inj_on_of_nodup_map h
    -- the pair may have been found in the other order
    rcases Sym2.eq_iff.1 hpair with ⟨hca, hdb⟩ | ⟨hcb, hda⟩
    · obtain rfl := htitle hc ha hca
      obtain rfl := htitle hd hb hdb
      exact ⟨hne, hoverlap⟩
    · obtain rfl := htitle hc hb hcb
      obtain rfl := htitle hd ha hda
      exact ⟨hne.symm, overlap_comm c d ▸ hoverlap⟩
  · rintro ⟨hne, hoverlap⟩
    rcases mem_overlaps_or ha hb (fun hab => hne (congrArg title hab)) hoverlap with hfound | hfound
    · exact List.mem_map.2 ⟨(a, b), hfound, rfl⟩
    · exact List.mem_map.2 ⟨(b, a), hfound, Sym2.eq_swap⟩

end Family

/-! ## What loading reports -/

/-- The pair of titles that a notice reports as overlapping. -/
def LoadEvent.overlap? : LoadEvent → Option (Sym2 Text)
  | .overlap title other => some s(title, other)
  | _ => none

/-- The pairs of titles that loading reports as overlapping, in the order of the notices. -/
def Loading.overlaps (l : Loading) : List (Sym2 Text) :=
  l.events.filterMap LoadEvent.overlap?

namespace Store

/-- Two stored titles stand for different families, and some mnemonic belongs to both. -/
structure Ambiguous (s : Store) (a b : Text) : Prop where
  ne : a ≠ b
  left : s.contains a = true
  right : s.contains b = true
  covered : ∃ mnemonic, Covers a mnemonic ∧ Covers b mnemonic

/-- Adding sections reports the overlaps of the new index, and no other notice is about a pair. -/
theorem overlaps_addSections (s : Store) {added : List (Text × Text)} (h : added ≠ []) :
    (s.addSections added).overlaps =
      (Family.overlaps (s.addSections added).store.families).map Family.titlePair := by
  have hbare : ∀ families : List Family,
      (families.map fun f => LoadEvent.familyWithoutStem f.title).filterMap LoadEvent.overlap? =
        [] := by
    intro families
    rw [List.filterMap_map]
    exact List.filterMap_eq_nil_iff.2 fun f _ => rfl
  have hpairs : ∀ pairs : List (Family × Family),
      (pairs.map fun p => LoadEvent.overlap p.1.title p.2.title).filterMap LoadEvent.overlap? =
        pairs.map Family.titlePair := by
    intro pairs
    rw [List.filterMap_map]
    exact congrFun List.filterMap_eq_map _
  have hempty : added.isEmpty = false := by simpa using h
  rw [addSections, hempty]
  simp only [Loading.overlaps, Bool.false_eq_true, if_false, List.filterMap_append, hbare, hpairs,
    List.nil_append]
  exact List.append_nil _

theorem contains_iff (s : Store) (title : Text) :
    s.contains title = true ↔ title ∈ s.sections.map Prod.fst :=
  any_fst_iff s.sections title

section History

variable (entries : List (Text × Text))

/-- The titles of the families of a store are different. -/
theorem nodup_map_title_families : ((ofHistory entries).families.map Family.title).Nodup := by
  have hperm : (ofHistory entries).families.Perm
      (titledFamilies ((storedSections entries).map Prod.fst)) :=
    List.mergeSort_perm _ _
  rw [(hperm.map Family.title).nodup_iff]
  refine List.pairwise_map.2 ((pairwise_titledFamilies entries).imp fun hlt heq => ?_)
  rw [heq] at hlt
  exact Nat.lt_irrefl _ hlt

/-- The families of a store have their literal parts from their titles, which are stored. -/
theorem mem_families_iff (f : Family) : f ∈ (ofHistory entries).families ↔
    (ofHistory entries).contains f.title = true ∧ '<' ∈ f.title ∧
      f.stem = literalPart f.title ∧ f.stem ≠ [] := by
  rw [contains_iff]
  exact mem_orderedFamilies_iff.trans (mem_titledFamilies _ f)

/-- The overlaps in the index of a store are its ambiguities. -/
theorem mem_titlePairs_families_iff (a b : Text) :
    s(a, b) ∈ (Family.overlaps (ofHistory entries).families).map Family.titlePair ↔
      (ofHistory entries).Ambiguous a b := by
  have hnodup := nodup_map_title_families entries
  constructor
  · intro hmem
    have hpair := (Family.titlePairs_overlaps_sublist _).subset hmem
    obtain ⟨ha, hb⟩ := List.mk_mem_sym2_iff.1 hpair
    obtain ⟨f, hf, rfl⟩ := List.mem_map.1 ha
    obtain ⟨g, hg, rfl⟩ := List.mem_map.1 hb
    obtain ⟨hne, mnemonic, hcoversf, hcoversg⟩ :=
      (Family.mem_titlePairs_overlaps_iff hnodup hf hg).1 hmem
    obtain ⟨hstoref, hbracketf, hstemf, hnef⟩ := (mem_families_iff entries f).1 hf
    obtain ⟨hstoreg, hbracketg, hstemg, hneg⟩ := (mem_families_iff entries g).1 hg
    exact ⟨hne, hstoref, hstoreg, mnemonic, (covers_iff hbracketf hstemf hnef mnemonic).1 hcoversf,
      (covers_iff hbracketg hstemg hneg mnemonic).1 hcoversg⟩
  · rintro ⟨hne, hstorea, hstoreb, mnemonic, ha, hb⟩
    have hf := (mem_families_iff entries ⟨literalPart a, a⟩).2 ⟨hstorea, ha.bracket, rfl, ha.nonempty⟩
    have hg := (mem_families_iff entries ⟨literalPart b, b⟩).2 ⟨hstoreb, hb.bracket, rfl, hb.nonempty⟩
    exact (Family.mem_titlePairs_overlaps_iff hnodup hf hg).2 ⟨hne, mnemonic,
      (covers_iff ha.bracket rfl ha.nonempty mnemonic).2 ha,
      (covers_iff hb.bracket rfl hb.nonempty mnemonic).2 hb⟩

end History

/-! ## The load that built a store -/

/-- Loading stores nothing and leaves the store as it is, or it adds some sections. -/
theorem load_cases (s : Store) {document : Text} {l : Loading} (h : s.load document = .ok l) :
    (l.count = 0 ∧ l.store = s) ∨ (0 < l.count ∧ ∃ added, added ≠ [] ∧ l = s.addSections added) := by
  rw [load] at h
  split at h
  · obtain rfl := Except.ok.inj h
    exact .inl ⟨rfl, rfl⟩
  · cases htitled : titledSections document with
    | error e => simp [htitled, Except.map] at h
    | ok added =>
      rw [htitled] at h
      obtain rfl := Except.ok.inj h
      by_cases hnil : added = []
      · subst hnil
        exact .inl ⟨rfl, rfl⟩
      · refine .inr ⟨?_, added, hnil, rfl⟩
        rw [count_addSections]
        exact List.length_pos_of_ne_nil hnil

theorem loadAll_append_singleton (documents : List Text) (document : Text) :
    loadAll (documents ++ [document]) = (loadAll documents).next document := by
  rw [loadAll, List.foldl_append]
  rfl

theorem store_of_load {documents : List Text} {document : Text} {l : Loading}
    (h : (loadAll documents).load document = .ok l) :
    l.store = loadAll (documents ++ [document]) := by
  rw [loadAll_append_singleton, next, h]

/-- A load that stores sections reports every ambiguity of the store that it leaves, once. -/
theorem overlaps_of_load {documents : List Text} {document : Text} {l : Loading}
    (h : (loadAll documents).load document = .ok l) (hcount : 0 < l.count) :
    l.overlaps.Nodup ∧ ∀ a b, s(a, b) ∈ l.overlaps ↔ l.store.Ambiguous a b := by
  rcases load_cases _ h with ⟨hzero, -⟩ | ⟨-, added, hne, hl⟩
  · omega
  · have hoverlaps : l.overlaps = (Family.overlaps l.store.families).map Family.titlePair := by
      rw [hl, overlaps_addSections _ hne]
    rw [hoverlaps, store_of_load h, loadAll_eq]
    exact ⟨Family.nodup_titlePairs_overlaps (nodup_map_title_families _),
      mem_titlePairs_families_iff _⟩

/-- The load that built a store: the last one that stored any sections. -/
inductive Built : List Text → Loading → Prop where
  | stored {documents : List Text} {document : Text} {l : Loading}
      (h : (loadAll documents).load document = .ok l) (hcount : 0 < l.count) :
      Built (documents ++ [document]) l
  | skipped {documents : List Text} {document : Text} {l : Loading} (h : Built documents l)
      (hnone : ∀ other, (loadAll documents).load document = .ok other → other.count = 0) :
      Built (documents ++ [document]) l

/-- A load that stores nothing leaves the store as it is. -/
theorem next_eq_self {s : Store} {document : Text}
    (h : ∀ l, s.load document = .ok l → l.count = 0) : s.next document = s := by
  rw [next]
  cases hload : s.load document with
  | error e => rfl
  | ok l =>
    rcases s.load_cases hload with ⟨-, hstore⟩ | ⟨hpos, -⟩
    · exact hstore
    · exact absurd (h l hload) hpos.ne'

theorem Built.store_eq {documents : List Text} {l : Loading} (h : Built documents l) :
    l.store = loadAll documents := by
  induction h with
  | stored h _ => exact store_of_load h
  | skipped _ hnone ih => rw [ih, loadAll_append_singleton, next_eq_self hnone]

theorem Built.overlaps_iff {documents : List Text} {l : Loading} (h : Built documents l)
    (a b : Text) : s(a, b) ∈ l.overlaps ↔ l.store.Ambiguous a b := by
  induction h with
  | stored h hcount => exact (overlaps_of_load h hcount).2 a b
  | skipped _ _ ih => exact ih

/-- A store with sections was built by some load. -/
theorem exists_built {documents : List Text} (h : (loadAll documents).sections ≠ []) :
    ∃ l, Built documents l := by
  induction documents using List.reverseRecOn with
  | nil => exact absurd rfl h
  | append_singleton rest document ih =>
    by_cases hstored : ∃ l, (loadAll rest).load document = .ok l ∧ 0 < l.count
    · obtain ⟨l, hload, hcount⟩ := hstored
      exact ⟨l, .stored hload hcount⟩
    · have hnone : ∀ l, (loadAll rest).load document = .ok l → l.count = 0 := fun l hload =>
        Nat.eq_zero_of_not_pos fun hpos => hstored ⟨l, hload, hpos⟩
      rw [loadAll_append_singleton, next_eq_self hnone] at h
      obtain ⟨l, hl⟩ := ih h
      exact ⟨l, .skipped hl hnone⟩

/-- After any documents were loaded, a load that stores sections reports exactly the ambiguities of
the store that it leaves, each of them once. So if a mnemonic belongs to two families of a store,
the load that built the store reported the two. -/
theorem load_overlaps (documents : List Text) :
    (∀ document l, (loadAll documents).load document = .ok l → 0 < l.count →
        l.overlaps.Nodup ∧ ∀ a b, s(a, b) ∈ l.overlaps ↔ l.store.Ambiguous a b) ∧
      ∀ f ∈ (loadAll documents).families, ∀ g ∈ (loadAll documents).families, f ≠ g →
        ∀ mnemonic, f.covers mnemonic = true → g.covers mnemonic = true →
          (∃ l, Built documents l) ∧ ∀ l, Built documents l →
            l.store = loadAll documents ∧ s(f.title, g.title) ∈ l.overlaps := by
  refine ⟨fun document l => overlaps_of_load, fun f hf g hg hne mnemonic hcoversf hcoversg => ?_⟩
  have hambiguous : (loadAll documents).Ambiguous f.title g.title := by
    rw [loadAll_eq] at hf hg ⊢
    have hnodup := nodup_map_title_families (history documents)
    have htitle : f.title ≠ g.title := fun heq => hne (List.inj_on_of_nodup_map hnodup hf hg heq)
    exact (mem_titlePairs_families_iff _ _ _).1
      ((Family.mem_titlePairs_overlaps_iff hnodup hf hg).2 ⟨htitle, mnemonic, hcoversf, hcoversg⟩)
  have hsections : (loadAll documents).sections ≠ [] := by
    intro hnil
    have hstored := (contains_iff _ _).1 hambiguous.left
    rw [hnil] at hstored
    cases hstored
  refine ⟨exists_built hsections, fun l hl => ⟨hl.store_eq, (hl.overlaps_iff _ _).2 ?_⟩⟩
  rw [hl.store_eq]
  exact hambiguous

/-- The branches on a comparison of two integers are branches on a condition too. The second of two
documents reports it, since the first one has stored the shorter title. -/
theorem load_overlaps_branches :
    (∃ l, (loadAll [openingTag "if<cond>".toList]).load (openingTag "if_icmp<cond>".toList) = .ok l ∧
        0 < l.count ∧ s("if<cond>".toList, "if_icmp<cond>".toList) ∈ l.overlaps) ∧
      ∃ l, Built [openingTag "if<cond>".toList, openingTag "if_icmp<cond>".toList] l ∧
        s("if_icmp<cond>".toList, "if<cond>".toList) ∈ l.overlaps := by
  have hshort : (loadAll [openingTag "if<cond>".toList, openingTag "if_icmp<cond>".toList]).contains
      "if<cond>".toList = true := by
    decide +kernel
  have hlong : (loadAll [openingTag "if<cond>".toList, openingTag "if_icmp<cond>".toList]).contains
      "if_icmp<cond>".toList = true := by
    decide +kernel
  refine ⟨?_, ?_⟩
  · have htitled : titledSections (openingTag "if_icmp<cond>".toList) =
        .ok [("if_icmp<cond>".toList, openingTag "if_icmp<cond>".toList)] := rfl
    obtain ⟨l, hload, hcount, -⟩ := (loadAll [openingTag "if<cond>".toList]).load_of_ok htitled
    have hpos : 0 < l.count := by
      rw [hcount, count_addSections]
      exact Nat.zero_lt_one
    refine ⟨l, hload, hpos, (((load_overlaps _).1 _ l hload hpos).2 _ _).2 ?_⟩
    rw [store_of_load hload]
    exact ⟨by decide, hshort, hlong, "if_icmpeq".toList,
      ⟨by decide, by decide, by decide, by decide⟩, ⟨by decide, by decide, by decide, by decide⟩⟩
  · rw [loadAll_eq] at hshort hlong
    have hf := (mem_families_iff _ ⟨"if_icmp".toList, "if_icmp<cond>".toList⟩).2
      ⟨hlong, by decide, rfl, by decide⟩
    have hg := (mem_families_iff _ ⟨"if".toList, "if<cond>".toList⟩).2
      ⟨hshort, by decide, rfl, by decide⟩
    rw [← loadAll_eq] at hf hg
    obtain ⟨⟨l, hl⟩, hreported⟩ := (load_overlaps _).2 _ hf _ hg (by decide) "if_icmpeq".toList
      (by decide) (by decide)
    exact ⟨l, hl, (hreported l hl).2⟩

end Store

end Disassembly.Manual
