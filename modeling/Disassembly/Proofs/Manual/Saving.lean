import Disassembly.Proofs.Manual.Renewal
import Mathlib.Tactic

/-!
# Saving that fails

The documents are saved by five operations, one after the other: the directory is made, the file of
the chapter is opened and filled, the file of the style sheet is opened and filled. Each of them can
fail, and nothing that was done before is undone (`save_eq_iff`). A file that was opened has lost
what it held, and one that could not be filled holds the beginning of its document. So the two files
are as they were if saving stops before the chapter is opened, but not if it stops later.
`fetchFrom_of_stopsAt` says what is left in every case, at every location of the disk.
-/

set_option autoImplicit false

namespace Disassembly.Manual.LocalCopy

open Disk

variable {c : LocalCopy} {d e : Disk} {html css : Text} {err : AccessError}

/-! ## Five operations -/

/-- The operations by which the documents are saved. -/
inductive SaveStep where
  | directory
  | openHtml
  | fillHtml
  | openCss
  | fillCss
  deriving DecidableEq

/-- Saving stops at one of the operations with an error, and leaves a disk behind. -/
inductive StopsAt (c : LocalCopy) (d : Disk) (html css : Text) :
    SaveStep → AccessError → Disk → Prop
  | directory {err : AccessError} {e : Disk} (h : c.makeDirectory d = ⟨e, some err⟩) :
      StopsAt c d html css .directory err e
  | openHtml {err : AccessError} {made : Disk} (hmade : c.makeDirectory d = ⟨made, none⟩)
      (h : made.openFile c.htmlPath.print = .error err) :
      StopsAt c d html css .openHtml err made
  | fillHtml {err : AccessError} {l : Location} {made opened e : Disk}
      (hmade : c.makeDirectory d = ⟨made, none⟩)
      (hopen : made.openFile c.htmlPath.print = .ok (l, opened))
      (h : opened.fill l (encode html) = ⟨e, some err⟩) :
      StopsAt c d html css .fillHtml err e
  | openCss {err : AccessError} {made withHtml : Disk}
      (hmade : c.makeDirectory d = ⟨made, none⟩)
      (hhtml : made.write c.htmlPath.print html = ⟨withHtml, none⟩)
      (h : withHtml.openFile c.cssPath.print = .error err) :
      StopsAt c d html css .openCss err withHtml
  | fillCss {err : AccessError} {l : Location} {made withHtml opened e : Disk}
      (hmade : c.makeDirectory d = ⟨made, none⟩)
      (hhtml : made.write c.htmlPath.print html = ⟨withHtml, none⟩)
      (hopen : withHtml.openFile c.cssPath.print = .ok (l, opened))
      (h : opened.fill l (encode css) = ⟨e, some err⟩) :
      StopsAt c d html css .fillCss err e

/-- Saving fails if and only if it stops at one of the operations. -/
theorem save_eq_iff :
    c.save d html css = ⟨e, some err⟩ ↔ ∃ step, c.StopsAt d html css step err e := by
  -- a change ends with an error if its first part does or, behind that, its second part
  simp only [save, writeBoth, andThen_eq_iff, write_eq_iff]
  constructor
  · rintro (hmake | ⟨made, hmade, (⟨hopen, rfl⟩ | ⟨l, opened, hopen, hfill⟩) |
      ⟨withHtml, hhtml, ⟨hopen, rfl⟩ | ⟨l, opened, hopen, hfill⟩⟩⟩)
    · exact ⟨.directory, .directory hmake⟩
    · exact ⟨.openHtml, .openHtml hmade hopen⟩
    · exact ⟨.fillHtml, .fillHtml hmade hopen hfill⟩
    · exact ⟨.openCss, .openCss hmade hhtml hopen⟩
    · exact ⟨.fillCss, .fillCss hmade hhtml hopen hfill⟩
  · rintro ⟨step, hstops⟩
    cases hstops with
    | directory h => exact Or.inl h
    | openHtml hmade h => exact Or.inr ⟨_, hmade, Or.inl (Or.inl ⟨h, rfl⟩)⟩
    | fillHtml hmade hopen h => exact Or.inr ⟨_, hmade, Or.inl (Or.inr ⟨_, _, hopen, h⟩)⟩
    | openCss hmade hhtml h => exact Or.inr ⟨_, hmade, Or.inr ⟨_, hhtml, Or.inl ⟨h, rfl⟩⟩⟩
    | fillCss hmade hhtml hopen h =>
      exact Or.inr ⟨_, hmade, Or.inr ⟨_, hhtml, Or.inr ⟨_, _, hopen, h⟩⟩⟩

/-! ## What is left -/

/-- What stands at a location is as it was, but for a directory where nothing was before. -/
def Undisturbed (d e : Disk) (l : Location) : Prop :=
  e.entry? l = d.entry? l ∨ d.entry? l = none ∧ e.entry? l = some .directory

/-- A file holds the beginning of a text, and perhaps no more. -/
def HoldsStart (e : Disk) (path t : Text) : Prop :=
  ∃ n, e.readBytes path = .ok ((encode t).extract 0 n)

/-- What is left when saving stops at an operation. -/
def Leaves (c : LocalCopy) (d : Disk) (html css : Text) (e : Disk) : SaveStep → Prop
  | .directory | .openHtml =>
    Grows d e ∧ (d.isDirectory c.directory.print = true → e = d)
  | .fillHtml =>
    HoldsStart e c.htmlPath.print html ∧
      ∀ l, e.locate c.htmlPath.print ≠ .ok l → Undisturbed d e l
  | .openCss =>
    e.readBytes c.htmlPath.print = .ok (encode html) ∧
      ∀ l, e.locate c.htmlPath.print ≠ .ok l → Undisturbed d e l
  | .fillCss =>
    e.readBytes c.htmlPath.print = .ok (encode html) ∧ HoldsStart e c.cssPath.print css ∧
      ∀ l, e.locate c.htmlPath.print ≠ .ok l → e.locate c.cssPath.print ≠ .ok l →
        Undisturbed d e l

/-- Where one file is written after directories were made, all other files are as they were. -/
theorem undisturbed_of_puts {made : Disk} {path : Text} {bytes : ByteArray} (hgrows : Grows d made)
    (hputs : Puts made path bytes e) {l : Location} (hl : e.locate path ≠ .ok l) :
    Undisturbed d e l := by
  rw [Undisturbed, hputs.entry?_eq hl]
  exact hgrows.entry l

theorem grows_of_makeDirectory {made : Disk} {error? : Option AccessError}
    (h : c.makeDirectory d = ⟨made, error?⟩) : Grows d made := by
  have hgrows := grows_makeDirectories d c.directory.root c.directory.names.reverse
  rwa [← makeDirectory, h] at hgrows

theorem eq_of_makeDirectory {made : Disk} {error? : Option AccessError} (hc : c.directory.Normal)
    (h : c.makeDirectory d = ⟨made, error?⟩) (hdirectory : d.isDirectory c.directory.print = true) :
    made = d := by
  rw [makeDirectory_of_isDirectory hc hdirectory] at h
  cases h
  rfl

/-- What is left is told by the operation at which saving stops. -/
theorem StopsAt.leaves (hc : c.directory.Normal) {step : SaveStep}
    (h : c.StopsAt d html css step err e) : c.Leaves d html css e step := by
  cases h with
  | directory h => exact ⟨grows_of_makeDirectory h, eq_of_makeDirectory hc h⟩
  | openHtml hmade h => exact ⟨grows_of_makeDirectory hmade, eq_of_makeDirectory hc hmade⟩
  | fillHtml hmade hopen h =>
    obtain ⟨n, hputs⟩ := puts_of_fill_error hopen h
    exact ⟨⟨n, hputs.readBytes⟩,
      fun l hl => undisturbed_of_puts (grows_of_makeDirectory hmade) hputs hl⟩
  | openCss hmade hhtml h =>
    have hputs := puts_of_write hhtml
    exact ⟨hputs.readBytes, fun l hl => undisturbed_of_puts (grows_of_makeDirectory hmade) hputs hl⟩
  | fillCss hmade hhtml hopen h =>
    have hchapter := puts_of_write hhtml
    obtain ⟨n, hsheet⟩ := puts_of_fill_error hopen h
    refine ⟨hsheet.readBytes_of_ne (fun l hl hl' => ?_) hchapter.readBytes, ⟨n, hsheet.readBytes⟩,
      fun l hl hl' => ?_⟩
    · exact locate_cssPath_ne hc hl' hl
    · -- the chapter was the only other file that was written
      rw [Undisturbed, hsheet.entry?_eq hl']
      exact undisturbed_of_puts (grows_of_makeDirectory hmade) hchapter
        fun hbefore => hl (hsheet.locate hbefore)

/-- The style sheet is as it was, unless its file was opened. -/
theorem Leaves.undisturbed_css (hc : c.directory.Normal) {step : SaveStep}
    (h : c.Leaves d html css e step) (hstep : step ≠ .fillCss) {l : Location}
    (hl : e.locate c.cssPath.print = .ok l) : Undisturbed d e l := by
  -- the chapter may be another one, but it is not where the style sheet is
  have hne : e.locate c.htmlPath.print ≠ .ok l := fun hhtml => locate_cssPath_ne hc hhtml hl
  cases step with
  | directory => exact h.1.entry l
  | openHtml => exact h.1.entry l
  | fillHtml => exact h.2 l hne
  | openCss => exact h.2 l hne
  | fillCss => exact absurd rfl hstep

/-! ## A call -/

/-- A call that obtains both documents and fails to save them for the file system returns false. -/
theorem fetchFrom_of_save {atHtml atCss : Web} (hhtml : atHtml.Gives c.htmlAddress html)
    (hcss : atCss.Gives c.cssAddress css) (hsave : c.save d html css = ⟨e, some err⟩)
    (hsystem : err.isSystem = true) :
    (c.fetchFrom atHtml atCss d).result = .ok false ∧ (c.fetchFrom atHtml atCss d).disk = e := by
  have hchapter := (fetchText_eq_ok_iff hhtml.1).2 hhtml
  have hsheet := (fetchText_eq_ok_iff hcss.1).2 hcss
  have hempty : ¬(html.isEmpty || css.isEmpty) = true := by
    rw [isEmpty_or_isEmpty_iff, not_or]
    exact ⟨hhtml.1, hcss.1⟩
  simp only [fetchFrom, hchapter, hsheet, if_neg hempty, hsave, if_pos hsystem]
  exact ⟨trivial, trivial⟩

/-- A call that obtains both documents but cannot save them returns false. If the directory cannot
be made or the chapter cannot be opened, no file is changed, and nothing at all if the directory was
there. If the chapter cannot be filled, it holds the beginning of the new one, and all other files
are as they were. If the style sheet cannot be opened, the chapter is the new one, and all other
files, the style sheet among them, are as they were. If the style sheet cannot be filled, it holds
the beginning of the new one beside the new chapter, and all other files are as they were. -/
theorem fetchFrom_of_stopsAt (hc : c.directory.Normal) {atHtml atCss : Web} {step : SaveStep}
    (hhtml : atHtml.Gives c.htmlAddress html) (hcss : atCss.Gives c.cssAddress css)
    (hstops : c.StopsAt d html css step err e) (hsystem : err.isSystem = true) :
    (c.fetchFrom atHtml atCss d).result = .ok false ∧ (c.fetchFrom atHtml atCss d).disk = e ∧
      c.Leaves d html css e step ∧
      (step ≠ .fillCss → ∀ l, e.locate c.cssPath.print = .ok l → Undisturbed d e l) := by
  obtain ⟨hresult, hdisk⟩ := fetchFrom_of_save hhtml hcss (save_eq_iff.2 ⟨step, hstops⟩) hsystem
  have hleaves := hstops.leaves hc
  exact ⟨hresult, hdisk, hleaves, fun hstep l hl => hleaves.undisturbed_css hc hstep hl⟩

/-! ## A style sheet that cannot be written -/

/-- The chapter that is there before. -/
def oldSection : Text :=
  "<div class=\"section-execution\" title=\"pop\">".toList

/-- A disk with that chapter in its place, and with a directory in the place of the style sheet. -/
def blockedDisk : Disk :=
  ((Disk.empty []).install ["manual".toList, "local".toList, "JVMS.html".toList]
    (.file (encode oldSection))).install ["manual".toList, "local".toList, "JVMS.css".toList] .directory

/-- What is left of that disk. -/
def leftDisk : Disk :=
  (nopCopy.save blockedDisk nopSection nopSection).disk

theorem stopsAt_blockedDisk :
    nopCopy.StopsAt blockedDisk nopSection nopSection .openCss .isDirectory leftDisk :=
  .openCss rfl rfl rfl

theorem gives_nopWeb (address : Text) : nopWeb.Gives address nopSection :=
  ⟨by decide, 200, rfl, rfl⟩

theorem fetchFrom_of_stopsAt_blockedDisk :
    nopCopy.directory.Normal ∧ nopWeb.Gives nopCopy.htmlAddress nopSection ∧
      nopWeb.Gives nopCopy.cssAddress nopSection ∧
      nopCopy.StopsAt blockedDisk nopSection nopSection .openCss .isDirectory leftDisk ∧
      (nopCopy.fetchFrom nopWeb nopWeb blockedDisk).result = .ok false ∧
      leftDisk.readBytes nopCopy.htmlPath.print = .ok (encode nopSection) ∧
      Undisturbed blockedDisk leftDisk ["manual".toList, "local".toList, "JVMS.css".toList] := by
  have hnormal : nopCopy.directory.Normal := Path.normal_ofText _
  have hhtml := gives_nopWeb nopCopy.htmlAddress
  have hcss := gives_nopWeb nopCopy.cssAddress
  obtain ⟨hresult, -, hleaves, hsheet⟩ :=
    fetchFrom_of_stopsAt hnormal hhtml hcss stopsAt_blockedDisk rfl
  exact ⟨hnormal, hhtml, hcss, stopsAt_blockedDisk, hresult, hleaves.1, hsheet nofun _ rfl⟩

/-- A failed call can leave another chapter behind. -/
theorem fetchFrom_blockedDisk :
    (nopCopy.fetchFrom nopWeb nopWeb blockedDisk).result = .ok false ∧
      (nopCopy.fetchFrom nopWeb nopWeb blockedDisk).disk.readBytes nopCopy.htmlPath.print ≠
        blockedDisk.readBytes nopCopy.htmlPath.print := by
  obtain ⟨hresult, hdisk⟩ := fetchFrom_of_save (gives_nopWeb nopCopy.htmlAddress)
    (gives_nopWeb nopCopy.cssAddress) (save_eq_iff.2 ⟨.openCss, stopsAt_blockedDisk⟩) rfl
  refine ⟨hresult, ?_⟩
  have hnew := (stopsAt_blockedDisk.leaves (Path.normal_ofText _)).1
  have hold : blockedDisk.readBytes nopCopy.htmlPath.print = .ok (encode oldSection) := rfl
  rw [hdisk, hnew, hold]
  intro heq
  -- the bytes would be those of two chapters
  have hdecoded : decode? (encode nopSection) = decode? (encode oldSection) := by
    rw [Except.ok.inj heq]
  rw [decode?_encode, decode?_encode] at hdecoded
  exact absurd hdecoded (by decide)

/-! ## Media that break off -/

/-- A disk with that chapter in its place, on a medium that takes ten bytes of a file. -/
def narrowDisk : Disk :=
  { (Disk.empty []).install ["manual".toList, "local".toList, "JVMS.html".toList]
      (.file (encode oldSection)) with
    medium := ⟨fun _ => true, fun _ bytes => if 10 < bytes.size then some 10 else none⟩ }

/-- A failed call can leave a chapter behind that is neither the old one nor the new one. -/
example : (nopCopy.fetchFrom nopWeb nopWeb narrowDisk).result = .ok false ∧
    (nopCopy.fetchFrom nopWeb nopWeb narrowDisk).disk.readBytes nopCopy.htmlPath.print =
      .ok ((encode nopSection).extract 0 10) :=
  ⟨rfl, rfl⟩

/-! ## Directories in the place of a chapter -/

/-- A local copy in a directory whose path leads through the name of the chapter, and back. -/
def roundaboutCopy : LocalCopy :=
  ⟨.ofText "a/JVMS.html/..".toList, "chapter".toList, "style".toList, 10⟩

/-- A failed call can leave a directory in the place of a chapter that was not there. -/
theorem fetchFrom_roundaboutCopy :
    (roundaboutCopy.fetchFrom nopWeb nopWeb (Disk.empty [])).result = .ok false ∧
      (Disk.empty []).contains roundaboutCopy.htmlPath.print = false ∧
      (roundaboutCopy.fetchFrom nopWeb nopWeb (Disk.empty [])).disk.isDirectory
        roundaboutCopy.htmlPath.print = true :=
  ⟨rfl, rfl, rfl⟩

end Disassembly.Manual.LocalCopy
