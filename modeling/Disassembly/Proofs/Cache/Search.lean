import Disassembly.Cache
import Disassembly.Proofs.Signature.Choice
import Mathlib.Data.List.Nodup
import Mathlib.Tactic

/-!
# Searching a cache

A signature that is a key of the cache is found at once, without a match. That is only a shorter way
to the same entry: `Cache.find` finds what `Selects` says, the entry of the best match among all
signatures of the cache (`exists_find_selects`). What is found depends on the texts under the
signatures alone, not on the order in which the entries arrived (`find_congr`, `get?_perm`).
-/

set_option autoImplicit false

namespace Disassembly

namespace Signature

/-- A search depends on the set of the candidates only. -/
theorem search_congr {target : Text} {xs ys : List Text} (h : ∀ c, c ∈ xs ↔ c ∈ ys) :
    search target xs = search target ys := by
  have hgraded : ∀ g, g ∈ xs.filterMap (standing? target) ↔
      g ∈ ys.filterMap (standing? target) := by
    intro g
    simp only [List.mem_filterMap, h]
  rw [search, search, graded_eq, graded_eq]
  by_cases hverbatim : target ∈ xs
  · rw [if_pos hverbatim, if_pos ((h target).1 hverbatim)]
  · rw [if_neg hverbatim, if_neg fun hmem => hverbatim ((h target).2 hmem)]
    simp only [bind, Except.bind, best_congr hgraded]

end Signature

namespace Cache

open Signature

variable {c other : Cache} {signature : Text}

/-- The entry of the best match among the signatures of a cache: a signature with the text that is
stored under it, or none if no signature matches. -/
inductive Selects (c : Cache) (signature : Text) : Option Entry → Prop
  | found {key listing : Text} (hmatch : bestMatch signature c.signatures = .ok (some key))
      (htext : c.get? key = some listing) : Selects c signature (some ⟨key, listing⟩)
  | missed (hmatch : bestMatch signature c.signatures = .ok none) : Selects c signature none

/-- There is at most one such entry. -/
theorem Selects.unique {e f : Option Entry} (he : c.Selects signature e)
    (hf : c.Selects signature f) : e = f := by
  cases he with
  | found hmatch htext =>
    cases hf with
    | found hmatch' htext' =>
      obtain rfl := Option.some.inj (Except.ok.inj (hmatch.symm.trans hmatch'))
      rw [Option.some.inj (htext.symm.trans htext')]
    | missed hmatch' => cases hmatch.symm.trans hmatch'
  | missed hmatch =>
    cases hf with
    | found hmatch' _ => cases hmatch.symm.trans hmatch'
    | missed _ => rfl

/-- The signatures of a cache are those under which a text is stored. -/
theorem mem_signatures_iff {key : Text} :
    key ∈ c.signatures ↔ ∃ listing, c.get? key = some listing := by
  rw [← Option.isSome_iff_exists, get?, List.lookup_isSome_iff, signatures, List.mem_map]
  simp only [beq_iff_eq, @eq_comm Text key]

/-- A key of the cache is its own best match. -/
theorem selects_of_get? {listing : Text} (h : c.get? signature = some listing) :
    c.Selects signature (some ⟨signature, listing⟩) := by
  refine .found ?_ h
  rw [bestMatch_eq_choice, choice_of_mem (mem_signatures_iff.2 ⟨listing, h⟩)]

/-- A search comes to an end, and it finds the entry of the best match. -/
theorem exists_find_selects (c : Cache) (signature : Text) :
    ∃ found, c.find signature = .ok found ∧ c.Selects signature found.entry := by
  rw [find]
  cases hget : c.get? signature with
  | some listing => exact ⟨_, rfl, selects_of_get? hget⟩
  | none =>
    obtain ⟨m, hm⟩ := exists_search signature c.signatures
    have hbest : bestMatch signature c.signatures = .ok (m.candidate? signature) := by
      rw [bestMatch, hm]
      rfl
    refine ⟨⟨some m, _⟩, by rw [hm]; rfl, ?_⟩
    cases hkey : m.candidate? signature with
    | none =>
      rw [hkey] at hbest
      exact .missed hbest
    | some key =>
      rw [hkey] at hbest
      -- what is matched is one of the signatures, so there is a text under it
      have hchoice : choice signature c.signatures = some key :=
        Except.ok.inj (bestMatch_eq_choice.symm.trans hbest)
      obtain ⟨listing, hlisting⟩ := mem_signatures_iff.1 (mem_of_choice hchoice)
      rw [Option.bind_some, hlisting]
      exact .found hbest hlisting

/-- A search comes to an end, whatever the signature is. -/
theorem exists_find (c : Cache) (signature : Text) : ∃ found, c.find signature = .ok found := by
  obtain ⟨found, hfound, -⟩ := c.exists_find_selects signature
  exact ⟨found, hfound⟩

/-! ## The order of the entries -/

/-- Two caches with the same texts under the same signatures answer every search alike. -/
theorem find_congr (h : ∀ key, other.get? key = c.get? key) (signature : Text) :
    other.find signature = c.find signature := by
  have hkeys : ∀ key, key ∈ other.signatures ↔ key ∈ c.signatures := by
    intro key
    rw [mem_signatures_iff, mem_signatures_iff, h]
  rw [find, find, h, search_congr hkeys]
  simp only [h]

/-- Where no signature stands twice, every entry is found under its signature. -/
theorem get?_eq_some_iff (hnodup : c.signatures.Nodup) {key listing : Text} :
    c.get? key = some listing ↔ (key, listing) ∈ c.entries := by
  rw [get?, List.lookup_eq_some_iff]
  constructor
  · rintro ⟨before, behind, hsplit, -⟩
    rw [hsplit]
    exact List.mem_append_right before List.mem_cons_self
  · intro h
    obtain ⟨before, behind, hsplit⟩ := List.append_of_mem h
    refine ⟨before, behind, hsplit, fun entry hentry => ?_⟩
    rw [signatures, hsplit, List.map_append, List.nodup_append] at hnodup
    exact bne_iff_ne.2 (hnodup.2.2 entry.1 (List.mem_map_of_mem hentry) key
      List.mem_cons_self).symm

/-- The order in which the entries arrived does not count. -/
theorem get?_perm (hnodup : c.signatures.Nodup) (h : other.entries.Perm c.entries) (key : Text) :
    other.get? key = c.get? key := by
  have hother : other.signatures.Nodup := (h.map Prod.fst).nodup_iff.2 hnodup
  apply Option.ext
  intro listing
  rw [get?_eq_some_iff hother, get?_eq_some_iff hnodup, h.mem_iff]

end Cache

end Disassembly
