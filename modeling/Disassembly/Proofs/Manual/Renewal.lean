import Disassembly.Proofs.Manual.LocalCopy
import Mathlib.Tactic

/-!
# Renewing the local copy

The manual may be fetched any number of times, while the web and the disk change. As long as no file
fails to be written, every call renews both files of the local copy or keeps them
(`renews_or_spares`), so the two files always come from one call, the last one that returned true
(`stages_renewal`).
-/

set_option autoImplicit false

namespace Disassembly.Manual.LocalCopy

open Disk

variable {c : LocalCopy} {d e f : Disk}

/-! ## Disks that keep the local copy -/

/-- The local copy is the same on both disks: the directory is there or not, and each name in it
leads to the same file. No file outside is changed, and directories are added only where the
directory cannot be made. -/
structure Keeps (c : LocalCopy) (d e : Disk) : Prop where
  grows : Grows d e
  isDirectory : e.isDirectory c.directory.print = d.isDirectory c.directory.print
  find : ∀ name, IsName name →
    (e.find (c.directory.child name).print).toOption =
      (d.find (c.directory.child name).print).toOption
  eq : (c.makeDirectory d).error? = none → e = d

namespace Keeps

theorem refl (c : LocalCopy) (d : Disk) : c.Keeps d d :=
  ⟨.refl d, rfl, fun _ _ => rfl, fun _ => rfl⟩

theorem trans (h : c.Keeps d e) (h' : c.Keeps e f) : c.Keeps d f where
  grows := h.grows.trans h'.grows
  isDirectory := h'.isDirectory.trans h.isDirectory
  find := fun name hname => (h'.find name hname).trans (h.find name hname)
  eq := by
    intro hmake
    obtain rfl := h.eq hmake
    exact h'.eq hmake

/-- The files hold what they held. -/
theorem holds (h : c.Keeps d e) {html css : Text} (hholds : c.Holds d html css) :
    c.Holds e html css := by
  have hread : ∀ name bytes, d.readBytes (c.directory.child name).print = .ok bytes →
      e.readBytes (c.directory.child name).print = .ok bytes := by
    intro name bytes hbytes
    obtain ⟨l, hl, hfile⟩ := find_eq_ok_iff.1 (readBytes_eq_ok_iff.1 hbytes)
    exact readBytes_eq_ok_iff.2
      (find_eq_ok_iff.2 ⟨l, h.grows.locate hl, h.grows.entry_eq hfile⟩)
  exact ⟨hread _ _ hholds.html, hread _ _ hholds.css⟩

end Keeps

theorem reverse_reverse_names (c : LocalCopy) :
    (⟨c.directory.root, c.directory.names.reverse.reverse⟩ : Path) = c.directory := by
  rw [List.reverse_reverse]

theorem makeDirectory_of_isDirectory (hc : c.directory.Normal)
    (h : d.isDirectory c.directory.print = true) : c.makeDirectory d = ⟨d, none⟩ := by
  rw [← reverse_reverse_names c] at hc h
  exact makeDirectories_of_isDirectory hc h

theorem makeDirectory_eq_none_iff (hc : c.directory.Normal) :
    (c.makeDirectory d).error? = none ↔
      (c.makeDirectory d).disk.isDirectory c.directory.print = true := by
  rw [← reverse_reverse_names c] at hc
  have hiff := makeDirectories_eq_none_iff (d := d) hc
  rwa [reverse_reverse_names] at hiff

/-- Where the directory is not there, nothing is in it. -/
theorem find_child_eq_none (hc : c.directory.Normal)
    (h : d.isDirectory c.directory.print = false) {name : Text} (hname : IsName name) :
    (d.find (c.directory.child name).print).toOption = none := by
  cases hfind : d.find (c.directory.child name).print with
  | error err => rfl
  | ok entry =>
    obtain ⟨l, hl, -⟩ := find_eq_ok_iff.1 hfind
    rw [isDirectory_of_child hc hname hl] at h
    cases h

/-- The directory is not there before it could not be made, nor afterwards. -/
theorem keeps_of_makeDirectory (hc : c.directory.Normal)
    (h : (c.makeDirectory d).error? ≠ none) : c.Keeps d (c.makeDirectory d).disk := by
  have hbefore : d.isDirectory c.directory.print = false := by
    rw [Bool.eq_false_iff]
    intro hdirectory
    rw [makeDirectory_of_isDirectory hc hdirectory] at h
    exact h rfl
  have hafter : (c.makeDirectory d).disk.isDirectory c.directory.print = false := by
    rw [Bool.eq_false_iff]
    intro hdirectory
    exact h ((makeDirectory_eq_none_iff hc).2 hdirectory)
  refine ⟨grows_makeDirectories _ _ _, hafter.trans hbefore.symm, fun name hname => ?_,
    fun hmake => absurd hmake h⟩
  rw [find_child_eq_none hc hafter hname, find_child_eq_none hc hbefore hname]

/-! ## One call -/

/-- A call to fetch the manual: the web when the chapter is requested, and when the style sheet
is. -/
structure Call where
  atHtml : Web
  atCss : Web

/-- A call, and the disk that it finds. -/
structure Stage where
  disk : Disk
  call : Call

/-- What a call comes to. -/
def answer (c : LocalCopy) (s : Stage) : Fetching :=
  c.fetchFrom s.call.atHtml s.call.atCss s.disk

/-- The web gives both documents in a call, and neither is empty. -/
structure Obtains (c : LocalCopy) (call : Call) (html css : Text) : Prop where
  html : call.atHtml.Gives c.htmlAddress html
  css : call.atCss.Gives c.cssAddress css

/-- No file fails to be written in a call. -/
def Writes (c : LocalCopy) (s : Stage) : Prop :=
  ∀ html css, c.Obtains s.call html css → ¬ c.WriteFails s.disk html css

/-- A call returns true, and the files hold the documents that it obtained. -/
def Renews (c : LocalCopy) (s : Stage) : Prop :=
  (c.answer s).result = .ok true ∧
    ∃ html css, c.Obtains s.call html css ∧ c.Holds (c.answer s).disk html css

/-- A call does not return true, and the local copy is as it was. -/
def Spares (c : LocalCopy) (s : Stage) : Prop :=
  (c.answer s).result ≠ .ok true ∧ c.Keeps s.disk (c.answer s).disk

theorem renews_or_spares (hc : c.directory.Normal) {s : Stage} (hwrites : c.Writes s) :
    c.Renews s ∨ c.Spares s := by
  rcases fetchFrom_cases c s.call.atHtml s.call.atCss s.disk with
    ⟨hresult, hdisk⟩ | ⟨html, css, hhtml, hcss, hdisk, hiff⟩
  · refine Or.inr ⟨hresult, ?_⟩
    rw [answer, hdisk]
    exact .refl c s.disk
  · have hobtains : c.Obtains s.call html css := ⟨hhtml, hcss⟩
    rcases save_cases c s.disk html css with ⟨hmake, hsave⟩ | ⟨hmake, hsave⟩
    · -- the directory could not be made, and no document was written
      rw [hsave] at hdisk hiff
      refine Or.inr ⟨fun hresult => hmake (hiff.1 hresult), ?_⟩
      rw [answer, hdisk]
      exact keeps_of_makeDirectory hc hmake
    · have hwritten : (c.save s.disk html css).error? = none := by
        by_contra hfailed
        rw [hsave] at hfailed
        exact hwrites html css hobtains ⟨hmake, hfailed⟩
      refine Or.inl ⟨hiff.2 hwritten, html, css, hobtains, ?_⟩
      rw [answer, hdisk]
      exact holds_of_save hc hwritten

/-! ## Any number of calls -/

/-- The calls, each with the disk that it finds. -/
def stages (c : LocalCopy) (d : Disk) : List Call → List Stage
  | [] => []
  | call :: rest => ⟨d, call⟩ :: c.stages (c.answer ⟨d, call⟩).disk rest

/-- The disk after the calls. -/
def diskAfter (c : LocalCopy) (d : Disk) : List Call → Disk
  | [] => d
  | call :: rest => c.diskAfter (c.answer ⟨d, call⟩).disk rest

/-- The files hold the documents of the last call that returned true, or there is no such call and
the local copy is as it was at the start. -/
def Current (c : LocalCopy) (d : Disk) (calls : List Call) : Prop :=
  (∃ earlier s later, c.stages d calls = earlier ++ s :: later ∧
      (c.answer s).result = .ok true ∧ (∀ t ∈ later, (c.answer t).result ≠ .ok true) ∧
      ∃ html css, c.Obtains s.call html css ∧ c.Holds (c.diskAfter d calls) html css) ∨
    (∀ s ∈ c.stages d calls, (c.answer s).result ≠ .ok true) ∧ c.Keeps d (c.diskAfter d calls)

theorem current_nil (c : LocalCopy) (d : Disk) : c.Current d [] :=
  Or.inr ⟨fun _ hs => absurd hs List.not_mem_nil, .refl c d⟩

theorem current_cons {call : Call} {rest : List Call}
    (hfirst : c.Renews ⟨d, call⟩ ∨ c.Spares ⟨d, call⟩)
    (hrest : c.Current (c.answer ⟨d, call⟩).disk rest) : c.Current d (call :: rest) := by
  rcases hrest with ⟨earlier, s, later, hstages, hlast⟩ | ⟨hnone, hkeeps⟩
  · -- a later call returned true, whatever the first one did
    left
    refine ⟨⟨d, call⟩ :: earlier, s, later, ?_, hlast⟩
    rw [stages, hstages, List.cons_append]
  · -- no later call did, so all that the first one left is still there
    rcases hfirst with ⟨hresult, html, css, hobtains, hholds⟩ | ⟨hresult, hspared⟩
    · left
      exact ⟨[], ⟨d, call⟩, c.stages (c.answer ⟨d, call⟩).disk rest, rfl, hresult, hnone,
        html, css, hobtains, hkeeps.holds hholds⟩
    · right
      exact ⟨List.forall_mem_cons.2 ⟨hresult, hnone⟩, hspared.trans hkeeps⟩

/-- The local copy is always a matching pair. If no file fails to be written, every call returns
true and the files then hold the two documents that it obtained, or it does not and the local copy
is as it was; and after all calls, the files hold the documents of the last call that returned
true, or what they held at the start. -/
theorem stages_renewal (hc : c.directory.Normal) {calls : List Call}
    (hwrites : ∀ s ∈ c.stages d calls, c.Writes s) :
    (∀ s ∈ c.stages d calls, c.Renews s ∨ c.Spares s) ∧ c.Current d calls := by
  induction calls generalizing d with
  | nil => exact ⟨fun _ hs => absurd hs List.not_mem_nil, current_nil c d⟩
  | cons call rest ih =>
    obtain ⟨hfirst, hrest⟩ := List.forall_mem_cons.1 hwrites
    obtain ⟨hstages, hcurrent⟩ := ih hrest
    have hone := renews_or_spares hc hfirst
    exact ⟨List.forall_mem_cons.2 ⟨hone, hstages⟩, current_cons hone hcurrent⟩

/-- A call in which both documents are given, and one in which the style sheet is refused. -/
def nopCalls : List Call :=
  [⟨nopWeb, nopWeb⟩, ⟨nopWeb, fun _ => .response 404 nopSection⟩]

theorem stages_renewal_nopCalls :
    nopCopy.directory.Normal ∧
      (∀ s ∈ nopCopy.stages (Disk.empty []) nopCalls, nopCopy.Writes s) ∧
      nopCopy.Holds (nopCopy.diskAfter (Disk.empty []) nopCalls) nopSection nopSection := by
  have hnormal : nopCopy.directory.Normal := Path.normal_ofText _
  have hgives : ∀ {address body : Text}, nopWeb.Gives address body → nopSection = body := by
    rintro address body ⟨-, status, hreply, -⟩
    exact (Reply.response.inj hreply).2
  have hrefused : ∀ {html css : Text},
      ¬ nopCopy.Obtains ⟨nopWeb, fun _ => .response 404 nopSection⟩ html css := by
    rintro html css ⟨-, -, status, hreply, hstatus⟩
    rw [← (Reply.response.inj hreply).1] at hstatus
    exact absurd hstatus (by decide)
  have hwrites : ∀ s ∈ nopCopy.stages (Disk.empty []) nopCalls, nopCopy.Writes s := by
    refine List.forall_mem_cons.2 ⟨?_, List.forall_mem_cons.2 ⟨?_, List.forall_mem_nil _⟩⟩
    · rintro html css ⟨hhtml, hcss⟩ ⟨-, hfails⟩
      rw [← hgives hhtml, ← hgives hcss] at hfails
      exact hfails rfl
    · intro html css hobtains
      exact absurd hobtains hrefused
  refine ⟨hnormal, hwrites, ?_⟩
  obtain ⟨-, ⟨earlier, s, later, hstages, -, -, html, css, hobtains, hholds⟩ | ⟨hnone, -⟩⟩ :=
    stages_renewal hnormal hwrites
  · have hmem : s ∈ nopCopy.stages (Disk.empty []) nopCalls := by
      rw [hstages]
      exact List.mem_append_right _ List.mem_cons_self
    rcases List.mem_cons.1 hmem with rfl | hmem
    · rwa [← hgives hobtains.html, ← hgives hobtains.css] at hholds
    · obtain rfl := List.mem_singleton.1 hmem
      exact absurd hobtains hrefused
  · exact absurd rfl (hnone _ List.mem_cons_self)

end Disassembly.Manual.LocalCopy
