import Disassembly.Manual.Store
import Mathlib.Data.List.Induction
import Mathlib.Tactic

/-!
# The history of a store

A store that starts empty and loads one document after the other is determined by its history: the
titled sections that were added, in their order. Under each title it holds the last section that
the history has for it (`lookup_storedSections`), its titles stand in the order in which the history
names them first (`pairwise_storedSections`), and its families are those of its titles
(`loadAll_eq`). A document with a title that cannot be read, or without titled sections, adds
nothing to the history and leaves the store as it is.
-/

set_option autoImplicit false

namespace Disassembly.Manual

namespace Store

/-! ## Loading several documents -/

/-- The store after an attempt to load a document. -/
def next (s : Store) (document : Text) : Store :=
  match s.load document with
  | .ok loading => loading.store
  | .error _ => s

/-- The store that has loaded the documents one after the other. -/
def loadAll (documents : List Text) : Store :=
  documents.foldl next empty

/-- The sections that loading a document adds, each with its title. -/
def added (document : Text) : List (Text × Text) :=
  match titledSections document with
  | .ok entries => entries
  | .error _ => []

/-- All sections that were ever added, each with its title. -/
def history (documents : List Text) : List (Text × Text) :=
  documents.flatMap added

/-- The section that was added last under a title. -/
def latest? (entries : List (Text × Text)) (title : Text) : Option Text :=
  entries.reverse.lookup title

/-- The sections that a store holds after some were added to an empty one. -/
def storedSections (entries : List (Text × Text)) : List (Text × Text) :=
  entries.foldl (fun all entry => Datum.setField all entry.1 entry.2) []

/-- The families among titles that have a literal part, those with the longer literal parts
first. -/
def orderedFamilies (titles : List Text) : List Family :=
  Family.longestFirst ((familiesOf titles).filter (!·.stem.isEmpty))

/-- The store with a given history. -/
def ofHistory (entries : List (Text × Text)) : Store :=
  ⟨storedSections entries, orderedFamilies ((storedSections entries).map Prod.fst)⟩

theorem titledSections_nil : titledSections [] = .ok [] := rfl

/-- Loading a document adds its sections to the history. -/
theorem next_ofHistory (entries : List (Text × Text)) (document : Text) :
    (ofHistory entries).next document = ofHistory (entries ++ added document) := by
  cases document with
  | nil => rw [added, titledSections_nil, List.append_nil]; rfl
  | cons c r =>
    rw [next, load, if_neg (by simp), added]
    cases htitled : titledSections (c :: r) with
    | error e => simp [Except.map]
    | ok found =>
      -- a document without sections leaves the store as it is, and so the index too
      cases found with
      | nil => simp [Except.map, addSections]
      | cons entry rest =>
        simp only [Except.map, addSections, List.isEmpty_cons, Bool.false_eq_true, if_false,
          ofHistory, storedSections, List.foldl_append, orderedFamilies]

/-- A store is determined by its history. -/
theorem loadAll_eq (documents : List Text) : loadAll documents = ofHistory (history documents) := by
  induction documents using List.reverseRecOn with
  | nil =>
    have hfamilies : orderedFamilies [] = [] := List.mergeSort_nil
    rw [history, List.flatMap_nil, ofHistory, storedSections, List.foldl_nil, List.map_nil,
      hfamilies]
    rfl
  | append_singleton rest document ih =>
    rw [loadAll, List.foldl_append, List.foldl_cons, List.foldl_nil, ← loadAll, ih, next_ofHistory,
      history, history, List.flatMap_append, List.flatMap_singleton]

/-! ## Sections under their titles -/

theorem lookup_cons_of_ne {title : Text} {entry : Text × Text} (h : title ≠ entry.1)
    (rest : List (Text × Text)) : (entry :: rest).lookup title = rest.lookup title := by
  rw [List.lookup_cons, beq_eq_false_iff_ne.2 h]

theorem lookup_map_replace (fields : List (Text × Text)) (name value title : Text) :
    (fields.map fun field => if field.1 = name then (name, value) else field).lookup title =
      if title = name then (fields.lookup name).map fun _ => value else fields.lookup title := by
  induction fields with
  | nil => simp
  | cons field rest ih =>
    obtain ⟨key, text⟩ := field
    rw [List.map_cons]
    by_cases hkey : key = name
    · subst hkey
      by_cases htitle : title = key
      · subst htitle
        rw [if_pos rfl, if_pos rfl, List.lookup_cons_self, List.lookup_cons_self]
        rfl
      · rw [if_pos rfl, if_neg htitle, lookup_cons_of_ne htitle, lookup_cons_of_ne htitle, ih,
          if_neg htitle]
    · by_cases htitle : title = name
      · subst htitle
        rw [if_neg hkey, if_pos rfl, lookup_cons_of_ne (Ne.symm hkey),
          lookup_cons_of_ne (Ne.symm hkey), ih, if_pos rfl]
      · rw [if_neg hkey, if_neg htitle, List.lookup_cons, List.lookup_cons, ih, if_neg htitle]

/-- A new section is found under its title, and the other sections stay where they are. -/
theorem lookup_setField (fields : List (Text × Text)) (name value title : Text) :
    (Datum.setField fields name value).lookup title =
      if title = name then some value else fields.lookup title := by
  by_cases hany : fields.any (·.1 == name) = true
  · have hsome : (fields.lookup name).isSome = true := by
      obtain ⟨field, hfield, hname⟩ := List.any_eq_true.1 hany
      rw [List.lookup_isSome_iff]
      exact ⟨field, hfield, by simpa using (by simpa using hname : field.1 = name).symm⟩
    obtain ⟨old, hold⟩ := Option.isSome_iff_exists.1 hsome
    rw [Datum.setField, if_pos hany]
    simp only [beq_iff_eq]
    rw [lookup_map_replace, hold]
    rfl
  · rw [Datum.setField, if_neg hany, List.lookup_append]
    by_cases htitle : title = name
    · subst htitle
      have hnone : fields.lookup title = none := by
        rw [List.lookup_eq_none_iff]
        intro field hfield
        simp only [List.any_eq_true, not_exists, not_and] at hany
        simpa using fun h => hany field hfield (by simpa using h.symm)
      simp [hnone]
    · rw [lookup_cons_of_ne htitle, if_neg htitle, List.lookup_nil, Option.or_none]

theorem any_fst_iff (fields : List (Text × Text)) (name : Text) :
    fields.any (·.1 == name) = true ↔ name ∈ fields.map Prod.fst := by
  simp only [List.any_eq_true, List.mem_map, beq_iff_eq]

/-- A title that is stored again keeps its place, and a new one comes last. -/
theorem map_fst_setField (fields : List (Text × Text)) (name value : Text) :
    (Datum.setField fields name value).map Prod.fst =
      if name ∈ fields.map Prod.fst then fields.map Prod.fst
      else fields.map Prod.fst ++ [name] := by
  have hany := any_fst_iff fields name
  by_cases h : name ∈ fields.map Prod.fst
  · rw [Datum.setField, if_pos (hany.2 h), if_pos h, List.map_map]
    apply List.map_congr_left
    intro field _
    by_cases hname : field.1 = name <;> simp [hname]
  · rw [Datum.setField, if_neg fun hc => h (hany.1 hc), if_neg h, List.map_append]
    rfl

/-- Sections that are added replace those under the same title, the last one wins, and the others
stay. -/
theorem lookup_foldl_setField (added sections : List (Text × Text)) (title : Text) :
    (added.foldl (fun all entry => Datum.setField all entry.1 entry.2) sections).lookup title =
      (latest? added title).or (sections.lookup title) := by
  induction added using List.reverseRecOn with
  | nil => rfl
  | append_singleton rest entry ih =>
    rw [List.foldl_append, List.foldl_cons, List.foldl_nil, lookup_setField, ih, latest?, latest?,
      List.reverse_append, List.reverse_singleton, List.singleton_append]
    by_cases htitle : title = entry.1
    · rw [if_pos htitle, htitle, List.lookup_cons_self]
      rfl
    · rw [if_neg htitle, lookup_cons_of_ne htitle]

/-- The section under a title is the one that was added last under it. -/
theorem lookup_storedSections (entries : List (Text × Text)) (title : Text) :
    (storedSections entries).lookup title = latest? entries title := by
  rw [storedSections, lookup_foldl_setField, List.lookup_nil, Option.or_none]

theorem map_fst_storedSections_append (entries : List (Text × Text)) (entry : Text × Text) :
    (storedSections (entries ++ [entry])).map Prod.fst =
      if entry.1 ∈ (storedSections entries).map Prod.fst then (storedSections entries).map Prod.fst
      else (storedSections entries).map Prod.fst ++ [entry.1] := by
  rw [storedSections, List.foldl_append, List.foldl_cons, List.foldl_nil, map_fst_setField,
    ← storedSections]

theorem mem_map_fst_storedSections (entries : List (Text × Text)) (title : Text) :
    title ∈ (storedSections entries).map Prod.fst ↔ title ∈ entries.map Prod.fst := by
  induction entries using List.reverseRecOn with
  | nil => rfl
  | append_singleton rest entry ih =>
    rw [map_fst_storedSections_append, List.map_append, List.mem_append]
    by_cases h : entry.1 ∈ (storedSections rest).map Prod.fst
    · rw [if_pos h, ih, List.map_singleton, List.mem_singleton]
      refine ⟨Or.inl, fun hmem => hmem.elim id ?_⟩
      rintro rfl
      exact ih.1 h
    · rw [if_neg h, List.mem_append, ih, List.map_singleton]

/-- The titles of a store stand in the order in which the history names them first. -/
theorem pairwise_storedSections (entries : List (Text × Text)) :
    ((storedSections entries).map Prod.fst).Pairwise fun a b =>
      (entries.map Prod.fst).idxOf a < (entries.map Prod.fst).idxOf b := by
  induction entries using List.reverseRecOn with
  | nil => simp [storedSections]
  | append_singleton rest entry ih =>
    -- a title keeps its first place in the history when the history grows
    have hkeep : ∀ a ∈ (storedSections rest).map Prod.fst,
        ((rest ++ [entry]).map Prod.fst).idxOf a = (rest.map Prod.fst).idxOf a := by
      intro a ha
      rw [List.map_append]
      exact List.idxOf_append_of_mem ((mem_map_fst_storedSections rest a).1 ha)
    have hrest : ((storedSections rest).map Prod.fst).Pairwise fun a b =>
        ((rest ++ [entry]).map Prod.fst).idxOf a < ((rest ++ [entry]).map Prod.fst).idxOf b := by
      refine List.Pairwise.imp_of_mem (fun ha hb hlt => ?_) ih
      rw [hkeep _ ha, hkeep _ hb]
      exact hlt
    rw [map_fst_storedSections_append]
    by_cases h : entry.1 ∈ (storedSections rest).map Prod.fst
    · rw [if_pos h]
      exact hrest
    · rw [if_neg h, List.pairwise_append]
      refine ⟨hrest, List.pairwise_singleton _ _, fun a ha b hb => ?_⟩
      obtain rfl := List.mem_singleton.1 hb
      -- a new title is named behind all others
      have hnew : entry.1 ∉ rest.map Prod.fst :=
        fun hc => h ((mem_map_fst_storedSections rest entry.1).2 hc)
      have hlt := List.idxOf_lt_length_of_mem ((mem_map_fst_storedSections rest a).1 ha)
      rw [hkeep a ha, List.map_append, List.idxOf_append_of_notMem hnew]
      omega

end Store

end Disassembly.Manual
