import Disassembly.Manual.LocalCopy
import Disassembly.Proofs.Disk.Change
import Disassembly.Proofs.Text.Break
import Mathlib.Tactic

/-!
# The local copy as it was fetched

A call that fetches the manual either obtains both documents and saves them, or leaves the disk
alone (`fetchFrom_cases`). Documents that are saved are in the two files of the local copy
(`holds_of_save`), so the store is then filled with the chapter that the web gave, but for its line
breaks (`loadInto_fetchFrom`).
-/

set_option autoImplicit false

namespace Disassembly

/-- The web gives a document that is not empty. -/
def Web.Gives (w : Web) (address body : Text) : Prop :=
  body ≠ [] ∧ ∃ status, w address = .response status body ∧ isRefusal status = false

namespace Manual

open Text Disk

theorem LocalCopy.fetchText_eq_ok_iff {w : Web} {address body : Text} (hne : body ≠ []) :
    (fetchText w address).1 = .ok body ↔ w.Gives address body := by
  rw [fetchText, Web.fetch, Web.Gives]
  cases w address with
  | response status t =>
    by_cases hrefusal : Web.isRefusal status = true
    · simp [hrefusal, hne.symm]
    · simp [hrefusal, hne]
  | failure => simp [hne.symm]
  | breakdown b => simp

namespace LocalCopy

variable {c : LocalCopy} {d e : Disk} {html css : Text}

/-! ## Saving -/

/-- The directory is there, but one of the documents cannot be written into it. -/
def WriteFails (c : LocalCopy) (d : Disk) (html css : Text) : Prop :=
  (c.makeDirectory d).error? = none ∧
    (c.writeBoth (c.makeDirectory d).disk html css).error? ≠ none

/-- The two files of the local copy hold the given documents. -/
structure Holds (c : LocalCopy) (d : Disk) (html css : Text) : Prop where
  html : d.readBytes c.htmlPath.print = .ok (encode html)
  css : d.readBytes c.cssPath.print = .ok (encode css)

theorem isName_html : IsName "JVMS.html".toList :=
  ⟨by decide, by decide⟩

theorem isName_css : IsName "JVMS.css".toList :=
  ⟨by decide, by decide⟩

/-- The two files are at different locations. -/
theorem locate_cssPath_ne (hc : c.directory.Normal) {l : Location}
    (h : d.locate c.htmlPath.print = .ok l) : d.locate c.cssPath.print ≠ .ok l := by
  intro h'
  obtain ⟨k, hk, -, hstep⟩ := exists_locate_of_child hc isName_html h
  obtain ⟨k', hk', -, hstep'⟩ := exists_locate_of_child hc isName_css h'
  rw [hk, Except.ok.injEq] at hk'
  have hhtml := stepTo_eq_ok (by decide) (by decide) isName_html hstep
  have hcss := stepTo_eq_ok (by decide) (by decide) isName_css hstep'
  -- both are in the directory, but under different names
  rw [hhtml, hk', List.append_cancel_left_eq] at hcss
  exact absurd hcss (by decide)

theorem holds_of_writeBoth (hc : c.directory.Normal) (h : c.writeBoth d html css = ⟨e, none⟩) :
    c.Holds e html css := by
  obtain ⟨withHtml, hhtml, hcss⟩ := andThen_eq_ok_iff.1 h
  have hchapter := puts_of_write hhtml
  have hsheet := puts_of_write hcss
  refine ⟨hsheet.readBytes_of_ne (fun l hl hl' => ?_) hchapter.readBytes, hsheet.readBytes⟩
  exact locate_cssPath_ne hc hl' hl

/-- Saving stops without a file being touched, or both documents are written. -/
theorem save_cases (c : LocalCopy) (d : Disk) (html css : Text) :
    (c.makeDirectory d).error? ≠ none ∧ c.save d html css = c.makeDirectory d ∨
      (c.makeDirectory d).error? = none ∧
        c.save d html css = c.writeBoth (c.makeDirectory d).disk html css := by
  by_cases hmake : (c.makeDirectory d).error? = none
  · exact Or.inr ⟨hmake, andThen_of_eq_none hmake _⟩
  · exact Or.inl ⟨hmake, andThen_of_ne_none hmake _⟩

theorem holds_of_save (hc : c.directory.Normal) (h : (c.save d html css).error? = none) :
    c.Holds (c.save d html css).disk html css := by
  rcases save_cases c d html css with ⟨hmake, hsave⟩ | ⟨-, hsave⟩
  · rw [hsave] at h
    exact absurd h hmake
  · rw [hsave] at h ⊢
    exact holds_of_writeBoth hc (Change.eq_of_eq_none h)

/-! ## Fetching -/

/-- A call goes on to save the documents unless one of them is empty. -/
theorem isEmpty_or_isEmpty_iff {html css : Text} :
    (html.isEmpty || css.isEmpty) = true ↔ html = [] ∨ css = [] := by
  rw [Bool.or_eq_true, List.isEmpty_iff, List.isEmpty_iff]

/-- A call that obtains both documents saves them, and its result is whether that came to an end
without an error. Any other call leaves the disk alone. -/
theorem fetchFrom_cases (c : LocalCopy) (atHtml atCss : Web) (d : Disk) :
    (c.fetchFrom atHtml atCss d).result ≠ .ok true ∧ (c.fetchFrom atHtml atCss d).disk = d ∨
      ∃ html css, atHtml.Gives c.htmlAddress html ∧ atCss.Gives c.cssAddress css ∧
        (c.fetchFrom atHtml atCss d).disk = (c.save d html css).disk ∧
        ((c.fetchFrom atHtml atCss d).result = .ok true ↔ (c.save d html css).error? = none) := by
  cases hhtml : (fetchText atHtml c.htmlAddress).1 with
  | error b =>
    left
    simp only [fetchFrom, hhtml]
    exact ⟨nofun, trivial⟩
  | ok html =>
    cases hcss : (fetchText atCss c.cssAddress).1 with
    | error b =>
      left
      simp only [fetchFrom, hhtml, hcss]
      exact ⟨nofun, trivial⟩
    | ok css =>
      -- a request that failed gives an empty document too
      by_cases hempty : (html.isEmpty || css.isEmpty) = true
      · left
        simp only [fetchFrom, hhtml, hcss, if_pos hempty]
        exact ⟨nofun, trivial⟩
      · right
        have hne := hempty
        rw [isEmpty_or_isEmpty_iff, not_or] at hne
        refine ⟨html, css, (fetchText_eq_ok_iff hne.1).1 hhtml,
          (fetchText_eq_ok_iff hne.2).1 hcss, ?_⟩
        simp only [fetchFrom, hhtml, hcss, if_neg hempty]
        cases (c.save d html css).error? with
        | none => exact ⟨rfl, iff_of_true rfl rfl⟩
        | some err =>
          simp only
          split
          next => exact ⟨rfl, iff_of_false nofun nofun⟩
          next => exact ⟨rfl, iff_of_false nofun nofun⟩

/-- After a call that returns true, the files hold what the web gave. -/
theorem exists_holds_of_fetchFrom (hc : c.directory.Normal) {atHtml atCss : Web}
    (h : (c.fetchFrom atHtml atCss d).result = .ok true) :
    ∃ html css, atHtml.Gives c.htmlAddress html ∧ atCss.Gives c.cssAddress css ∧
      c.Holds (c.fetchFrom atHtml atCss d).disk html css := by
  rcases fetchFrom_cases c atHtml atCss d with ⟨hfailed, -⟩ | ⟨html, css, hhtml, hcss, hdisk, hiff⟩
  · exact absurd h hfailed
  · rw [hdisk]
    exact ⟨html, css, hhtml, hcss, holds_of_save hc (hiff.1 h)⟩

/-! ## Filling a store -/

/-- The store is filled with the chapter in the local copy. -/
theorem loadInto_of_holds (h : c.Holds d html css) (s : Store) :
    c.loadInto d s = s.loadDocument (unifyBreaks html) := by
  have hfind := readBytes_eq_ok_iff.1 h.html
  have hpresent : c.present d = .ok true := by rw [present, checkContains, hfind]
  rw [loadInto, hpresent]
  simp only
  rw [Store.loadFile, readText_of_readBytes h.html]

/-- What was fetched is what the store is filled with. After a call that returns true, filling a
store from the local copy comes to the same as loading the chapter that the web gave, with a line
feed for every carriage return and line feed and for every other carriage return: the same number of
sections and the same store, or the same failure. -/
theorem loadInto_fetchFrom (hc : c.directory.Normal) {atHtml atCss : Web}
    (h : (c.fetchFrom atHtml atCss d).result = .ok true) (s : Store) :
    ∃ html, atHtml.Gives c.htmlAddress html ∧
      (∀ loading, s.load (replace ['\r'] ['\n'] (replace ['\r', '\n'] ['\n'] html)) = .ok loading →
        (c.loadInto (c.fetchFrom atHtml atCss d).disk s).result = .ok loading.count ∧
          (c.loadInto (c.fetchFrom atHtml atCss d).disk s).store = loading.store) ∧
      ∀ err, s.load (replace ['\r'] ['\n'] (replace ['\r', '\n'] ['\n'] html)) = .error err →
        (c.loadInto (c.fetchFrom atHtml atCss d).disk s).result = .error (.overlongReference err) ∧
          (c.loadInto (c.fetchFrom atHtml atCss d).disk s).store = s := by
  obtain ⟨html, css, hhtml, -, hholds⟩ := exists_holds_of_fetchFrom hc h
  rw [loadInto_of_holds hholds, unifyBreaks_eq_replace, Store.loadDocument]
  refine ⟨html, hhtml, fun loading hloading => ?_, fun err herr => ?_⟩
  · rw [hloading]
    exact ⟨rfl, rfl⟩
  · rw [herr]
    exact ⟨rfl, rfl⟩

/-- A section of the manual with a carriage return in it. -/
def nopSection : Text :=
  "<div class=\"section-execution\" title=\"nop\">\r\n</div>".toList

/-- A web that answers every address with that section. -/
def nopWeb : Web :=
  fun _ => .response 200 nopSection

/-- A local copy in a directory of the working directory. -/
def nopCopy : LocalCopy :=
  ⟨.ofText "manual/local".toList, "chapter".toList, "style".toList, 10⟩

theorem loadInto_fetchFrom_nopCopy :
    nopCopy.directory.Normal ∧
      (nopCopy.fetchFrom nopWeb nopWeb (Disk.empty [])).result = .ok true ∧
      (nopCopy.loadInto (nopCopy.fetchFrom nopWeb nopWeb (Disk.empty [])).disk
        Store.empty).result = .ok 1 := by
  have hnormal : nopCopy.directory.Normal := Path.normal_ofText _
  have hfetched : (nopCopy.fetchFrom nopWeb nopWeb (Disk.empty [])).result = .ok true := rfl
  refine ⟨hnormal, hfetched, ?_⟩
  obtain ⟨html, ⟨-, status, hreply, -⟩, hloaded, -⟩ :=
    loadInto_fetchFrom hnormal hfetched Store.empty
  have hhtml : nopSection = html := (Reply.response.inj hreply).2
  rw [← hhtml] at hloaded
  exact (hloaded _ rfl).1

end LocalCopy

end Manual

end Disassembly
