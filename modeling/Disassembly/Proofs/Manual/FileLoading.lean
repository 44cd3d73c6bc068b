import Disassembly.Proofs.Manual.Additivity
import Disassembly.Proofs.Manual.LocalCopy
import Disassembly.Proofs.Manual.Titles
import Mathlib.Tactic

/-!
# Loading from files that are no texts

A store is filled from a file that is named by its path, or from the local copy of the manual. Where
the file system has no file to give, that is reported and the store is left as it is. Nothing else
is guarded against: a file whose bytes are no text makes loading fail, and so does a document with a
title that cannot be read (`Hazard`). A path may be refused before the file system is asked, for a
null character in it; and whether the local copy is there is asked in a way that fails for a path
that is too long.

`loadInto_unreadable` says that these are all the failures that there are, and that the store keeps
what it has whether or not an attempt to load something that cannot be read fails.
-/

set_option autoImplicit false

namespace Disassembly.Manual

open Disk

variable {s : Store} {d : Disk} {path : Text} {c : LocalCopy}

/-- What is in the file makes loading it fail. -/
inductive Hazard (d : Disk) (path : Text) : Prop
  /-- The bytes of the file are no text. -/
  | undecodable {bytes : ByteArray} (hread : d.readBytes path = .ok bytes)
      (hbytes : decode? bytes = none) : Hazard d path
  /-- A title of the document in the file refers to a character by a number that is too long. -/
  | overlongReference {document : Text} {e : Html.OverlongReference}
      (hread : d.readText path = .ok document)
      (htitles : Store.titledSections document = .error e) : Hazard d path

/-- Nothing comes of loading: the store is as it was, and the count is zero if there is one. -/
structure FileLoading.AddsNothing (f : FileLoading) (s : Store) : Prop where
  store : f.store = s
  count : ∀ n, f.result = .ok n → n = 0

theorem FileLoading.AddsNothing.of_count (s : Store) (notices : List Notice) :
    (FileLoading.mk (.ok 0) s notices).AddsNothing s :=
  ⟨rfl, fun _ h => (Except.ok.inj h).symm⟩

theorem FileLoading.AddsNothing.of_error (e : LoadError) (s : Store) (notices : List Notice) :
    (FileLoading.mk (.error e) s notices).AddsNothing s :=
  ⟨rfl, nofun⟩

/-! ## Hazards -/

theorem hazard_iff_of_readText {document : Text} (hread : d.readText path = .ok document) :
    Hazard d path ↔ ∃ e, Store.titledSections document = .error e := by
  constructor
  · intro h
    cases h with
    | undecodable hbytes hnone =>
      rw [readText_eq_undecodable_iff.2 ⟨_, hbytes, hnone⟩] at hread
      cases hread
    | overlongReference hsame htitles =>
      rw [hread] at hsame
      rw [Except.ok.inj hsame]
      exact ⟨_, htitles⟩
  · rintro ⟨e, he⟩
    exact .overlongReference hread he

theorem hazard_iff_of_error {e : ReadError} (hread : d.readText path = .error e) :
    Hazard d path ↔ e = .undecodable := by
  constructor
  · intro h
    cases h with
    | undecodable hbytes hnone =>
      rw [readText_eq_undecodable_iff.2 ⟨_, hbytes, hnone⟩] at hread
      exact (Except.error.inj hread).symm
    | overlongReference hok htitles =>
      rw [hread] at hok
      cases hok
  · rintro rfl
    obtain ⟨bytes, hbytes, hnone⟩ := readText_eq_undecodable_iff.1 hread
    exact .undecodable hbytes hnone

theorem nullCharacter_notMem_of_find {entry : Entry} (h : d.find path = .ok entry) :
    Char.ofNat 0 ∉ path := by
  obtain ⟨l, hl, -⟩ := find_eq_ok_iff.1 h
  exact (locate_eq_ok_iff.1 hl).1

/-! ## Files -/

namespace Store

/-- Loading a document fails for its titles only, and then adds nothing. -/
theorem loadDocument_cases (s : Store) (document : Text) :
    (∃ n, (s.loadDocument document).result = .ok n) ∧ (∃ added, titledSections document = .ok added) ∨
      (s.loadDocument document).AddsNothing s ∧ (∃ e, (s.loadDocument document).result = .error e) ∧
        ∃ e, titledSections document = .error e := by
  cases htitles : titledSections document with
  | error e =>
    right
    rw [loadDocument, load_of_error s htitles]
    exact ⟨.of_error _ _ _, ⟨_, rfl⟩, ⟨e, rfl⟩⟩
  | ok added =>
    left
    obtain ⟨loading, hload, -⟩ := s.load_of_ok htitles
    rw [loadDocument, hload]
    exact ⟨⟨_, rfl⟩, ⟨added, rfl⟩⟩

/-- Loading from a file fails for the path as a text, and for what is in the file. -/
theorem exists_loadFile_iff : (∃ n, (s.loadFile d path).result = .ok n) ↔
    Char.ofNat 0 ∉ path ∧ ¬Hazard d path := by
  cases hread : d.readText path with
  | ok document =>
    have hnull : Char.ofNat 0 ∉ path := by
      intro hmem
      rw [readText, (readBytes_eq_nullCharacter_iff (d := d)).2 hmem] at hread
      cases hread
    -- the file is read, so only its titles can fail
    rw [hazard_iff_of_readText hread, loadFile, hread]
    rcases s.loadDocument_cases document with ⟨hok, added, hadded⟩ | ⟨-, ⟨e, he⟩, htitles⟩
    · refine iff_of_true hok ⟨hnull, ?_⟩
      rintro ⟨e, he⟩
      rw [hadded] at he
      cases he
    · refine iff_of_false ?_ fun h => h.2 htitles
      rintro ⟨n, hn⟩
      rw [he] at hn
      cases hn
  | error e =>
    -- what the file system answers for is reported, and nothing else
    rw [hazard_iff_of_error hread, ← not_or, ← isSystem_eq_false_iff hread, loadFile, hread]
    simp only
    split
    next hsystem => exact iff_of_true ⟨0, rfl⟩ (by simp [hsystem])
    next hsystem => exact iff_of_false (by rintro ⟨n, ⟨⟩⟩) (by simpa using hsystem)

/-- Nothing is added from a file that cannot be read, nor if loading it fails. -/
theorem loadFile_addsNothing
    (h : (∀ t, d.readText path ≠ .ok t) ∨ ∃ e, (s.loadFile d path).result = .error e) :
    (s.loadFile d path).AddsNothing s := by
  cases hread : d.readText path with
  | ok document =>
    rw [loadFile, hread] at h ⊢
    rcases h with h | ⟨e, he⟩
    · exact absurd rfl (h document)
    · rcases s.loadDocument_cases document with ⟨⟨n, hn⟩, -⟩ | ⟨hnothing, -⟩
      · simp only [hn] at he
        cases he
      · exact hnothing
  | error e =>
    rw [loadFile, hread]
    simp only
    split
    · exact .of_count _ _
    · exact .of_error _ _ _

end Store

/-! ## The local copy -/

namespace LocalCopy

/-- Where something stands at the place of the chapter, it is loaded like any file; elsewhere nothing
is added. -/
theorem loadInto_cases (c : LocalCopy) (d : Disk) (s : Store) :
    (∃ entry, d.find c.htmlPath.print = .ok entry) ∧
        c.loadInto d s = s.loadFile d c.htmlPath.print ∨
      (∃ e, d.find c.htmlPath.print = .error e) ∧ (c.loadInto d s).AddsNothing s ∧
        ((∃ n, (c.loadInto d s).result = .ok n) ↔ d.find c.htmlPath.print ≠ .error .nameTooLong) := by
  cases hfind : d.find c.htmlPath.print with
  | ok entry =>
    left
    refine ⟨⟨entry, rfl⟩, ?_⟩
    simp only [loadInto, present, checkContains, hfind]
  | error e =>
    right
    refine ⟨⟨e, rfl⟩, ?_⟩
    by_cases hlong : e = .nameTooLong
    · subst hlong
      simp only [loadInto, present, checkContains, hfind]
      exact ⟨.of_error _ _ _, iff_of_false (by rintro ⟨n, ⟨⟩⟩) fun h => h rfl⟩
    · -- any other answer of the file system counts as the absence of the copy
      have hpresent : c.present d = .ok false := by
        rw [present, checkContains, hfind]
        cases e with
        | nameTooLong => exact absurd rfl hlong
        | _ => rfl
      simp only [loadInto, hpresent]
      refine ⟨.of_count _ _, iff_of_true ⟨0, rfl⟩ ?_⟩
      intro h
      exact hlong (Except.error.inj h)

theorem not_hazard_of_find {e : AccessError} (h : d.find path = .error e) : ¬Hazard d path := by
  have hbytes : d.readBytes path = .error e := by
    rw [readBytes, h]
    rfl
  have hread : d.readText path = .error (.access e) :=
    readText_eq_error_iff.2 (Or.inl ⟨e, hbytes, rfl⟩)
  rw [hazard_iff_of_error hread]
  intro heq
  cases heq

/-- Filling a store from the local copy fails for the length of the path, and for what is in the
file. -/
theorem exists_loadInto_iff : (∃ n, (c.loadInto d s).result = .ok n) ↔
    d.find c.htmlPath.print ≠ .error .nameTooLong ∧ ¬Hazard d c.htmlPath.print := by
  rcases c.loadInto_cases d s with ⟨⟨entry, hfind⟩, heq⟩ | ⟨⟨e, hfind⟩, -, hiff⟩
  · have hshort : d.find c.htmlPath.print ≠ .error .nameTooLong := by
      rw [hfind]
      nofun
    rw [heq, Store.exists_loadFile_iff]
    exact ⟨fun h => ⟨hshort, h.2⟩, fun h => ⟨nullCharacter_notMem_of_find hfind, h.2⟩⟩
  · rw [hiff]
    exact ⟨fun h => ⟨h, not_hazard_of_find hfind⟩, fun h => h.1⟩

theorem loadInto_addsNothing (h : (∀ t, d.readText c.htmlPath.print ≠ .ok t) ∨
    ∃ e, (c.loadInto d s).result = .error e) : (c.loadInto d s).AddsNothing s := by
  rcases c.loadInto_cases d s with ⟨-, heq⟩ | ⟨-, hnothing, -⟩
  · rw [heq] at h ⊢
    exact Store.loadFile_addsNothing h
  · exact hnothing

/-- Loading from a file gives a count unless the path has a null character, or what is in the file is
no text or has a title that cannot be read; and filling a store from the local copy gives one unless
the path is too long, or for the same contents of the file. From a file that cannot be read as a
text nothing is added: the count is zero, if there is one, and the store is as it was in any case. It
is so too whenever loading fails. -/
theorem loadInto_unreadable (s : Store) (d : Disk) (path : Text) (c : LocalCopy) :
    ((∃ n, (s.loadFile d path).result = .ok n) ↔ Char.ofNat 0 ∉ path ∧ ¬Hazard d path) ∧
      ((∃ n, (c.loadInto d s).result = .ok n) ↔
        d.find c.htmlPath.print ≠ .error .nameTooLong ∧ ¬Hazard d c.htmlPath.print) ∧
      ((∀ t, d.readText path ≠ .ok t) ∨ (∃ e, (s.loadFile d path).result = .error e) →
        (s.loadFile d path).AddsNothing s) ∧
      ((∀ t, d.readText c.htmlPath.print ≠ .ok t) ∨ (∃ e, (c.loadInto d s).result = .error e) →
        (c.loadInto d s).AddsNothing s) :=
  ⟨Store.exists_loadFile_iff, exists_loadInto_iff, Store.loadFile_addsNothing, loadInto_addsNothing⟩

/-- A disk with a directory in the place of the chapter. -/
def directoryDisk : Disk :=
  (Disk.empty []).install ["manual".toList, "local".toList, "JVMS.html".toList] .directory

theorem loadInto_unreadable_directory :
    (∀ t, directoryDisk.readText nopCopy.htmlPath.print ≠ .ok t) ∧
      (∃ n, ((Store.loadAll [nopSection]).loadFile directoryDisk nopCopy.htmlPath.print).result =
        .ok n) ∧
      ((Store.loadAll [nopSection]).loadFile directoryDisk nopCopy.htmlPath.print).AddsNothing
        (Store.loadAll [nopSection]) ∧
      (nopCopy.loadInto directoryDisk (Store.loadAll [nopSection])).AddsNothing
        (Store.loadAll [nopSection]) := by
  have herror : directoryDisk.readText nopCopy.htmlPath.print = .error (.access .isDirectory) := rfl
  have hread : ∀ t, directoryDisk.readText nopCopy.htmlPath.print ≠ .ok t := by
    intro t h
    rw [herror] at h
    cases h
  have hhazard : ¬Hazard directoryDisk nopCopy.htmlPath.print := by
    rw [hazard_iff_of_error herror]
    intro h
    cases h
  obtain ⟨hfile, -, hfileNothing, hcopyNothing⟩ := loadInto_unreadable (Store.loadAll [nopSection])
    directoryDisk nopCopy.htmlPath.print nopCopy
  exact ⟨hread, hfile.2 ⟨by decide, hhazard⟩, hfileNothing (Or.inl hread),
    hcopyNothing (Or.inl hread)⟩

/-- A disk with a file in the place of the chapter whose only byte is no text. -/
def oneByteDisk : Disk :=
  (Disk.empty []).install ["manual".toList, "local".toList, "JVMS.html".toList] (.file ⟨#[0xFF]⟩)

/-- A file that is no text makes both ways of loading fail. -/
theorem loadFile_oneByte :
    oneByteDisk.readText nopCopy.htmlPath.print = .error .undecodable ∧
      ¬(∃ n, (Store.empty.loadFile oneByteDisk nopCopy.htmlPath.print).result = .ok n) ∧
      ¬∃ n, (nopCopy.loadInto oneByteDisk Store.empty).result = .ok n := by
  have hread : oneByteDisk.readText nopCopy.htmlPath.print = .error .undecodable := rfl
  have hhazard : Hazard oneByteDisk nopCopy.htmlPath.print := (hazard_iff_of_error hread).2 rfl
  refine ⟨hread, ?_, ?_⟩
  · rw [Store.exists_loadFile_iff]
    exact fun h => h.2 hhazard
  · rw [exists_loadInto_iff]
    exact fun h => h.2 hhazard

end LocalCopy

end Disassembly.Manual
