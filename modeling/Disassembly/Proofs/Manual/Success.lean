import Disassembly.Proofs.Manual.LocalCopy
import Mathlib.Tactic

/-!
# Answers that are used

A server reports success by a status from 200 to 299. What is taken for a document, though, is the
body of every answer whose status is no refusal, so the rule that only successful answers are used
fails for the statuses between and beyond the two classes. Such an answer is `Stray` if it has a
body. `fetchText_eq_document_iff` says that these are the only exceptions, and
`fetchFrom_unsuccessful` that without them a call that does not meet success twice returns false and
leaves the disk alone.
-/

set_option autoImplicit false

namespace Disassembly

namespace Web

/-- Whether a status says that the request succeeded. -/
def isSuccess (status : Int) : Bool :=
  200 ≤ status && status < 300

theorem isRefusal_of_isSuccess {status : Int} (h : isSuccess status = true) :
    isRefusal status = false := by
  rw [isSuccess, Bool.and_eq_true, decide_eq_true_iff, decide_eq_true_iff] at h
  rw [isRefusal, Bool.and_eq_false_iff, decide_eq_false_iff_not, decide_eq_false_iff_not]
  omega

end Web

namespace Reply

/-- The server answers and reports success. -/
def Succeeds (r : Reply) : Prop :=
  ∃ status body, r = .response status body ∧ Web.isSuccess status = true

/-- Nothing but the request itself fails. -/
def IsExpected (r : Reply) : Prop :=
  ∀ b, r ≠ .breakdown b

/-- The document that a request gives if only successful answers are used; it is empty otherwise. -/
def document : Reply → Text
  | .response status body => if Web.isSuccess status then body else []
  | .failure | .breakdown _ => []

/-- The server reports neither success nor refusal, and still sends something: a request that is
going on, a document that is elsewhere, a status that has no meaning. -/
inductive Stray : Reply → Prop
  | response {status : Int} {body : Text} (hsuccess : Web.isSuccess status = false)
      (hrefusal : Web.isRefusal status = false) (hbody : body ≠ []) : Stray (.response status body)

theorem stray_response_iff {status : Int} {body : Text} : Stray (.response status body) ↔
    Web.isSuccess status = false ∧ Web.isRefusal status = false ∧ body ≠ [] := by
  constructor
  · rintro ⟨hsuccess, hrefusal, hbody⟩
    exact ⟨hsuccess, hrefusal, hbody⟩
  · rintro ⟨hsuccess, hrefusal, hbody⟩
    exact .response hsuccess hrefusal hbody

theorem not_stray_failure : ¬Stray .failure := by
  intro h
  cases h

theorem document_eq_nil {r : Reply} (h : ¬r.Succeeds) : r.document = [] := by
  cases r with
  | response status body =>
    by_cases hsuccess : Web.isSuccess status = true
    · exact absurd ⟨status, body, rfl, hsuccess⟩ h
    · exact if_neg hsuccess
  | failure => rfl
  | breakdown b => rfl

end Reply

namespace Manual.LocalCopy

variable {w atHtml atCss : Web} {address : Text} {c : LocalCopy} {d : Disk}

/-! ## One request -/

/-- An answer without refusal gives its body, whatever else its status says. -/
theorem fetchText_of_response {status : Int} {body : Text}
    (h : w address = .response status body) :
    (fetchText w address).1 = .ok (if Web.isRefusal status then [] else body) := by
  rw [fetchText, Web.fetch, h]
  cases hrefusal : Web.isRefusal status with
  | true => simp [hrefusal]
  | false => simp [hrefusal]

theorem fetchText_of_failure (h : w address = .failure) : (fetchText w address).1 = .ok [] := by
  rw [fetchText, Web.fetch, h]

/-- Only successful answers are used, but for stray ones. -/
theorem fetchText_eq_document_iff (h : (w address).IsExpected) :
    (fetchText w address).1 = .ok (w address).document ↔ ¬(w address).Stray := by
  cases hreply : w address with
  | response status body =>
    rw [fetchText_of_response hreply, Reply.stray_response_iff, Except.ok.injEq, Reply.document]
    cases hsuccess : Web.isSuccess status with
    | true =>
      rw [Web.isRefusal_of_isSuccess hsuccess]
      simp
    | false =>
      cases Web.isRefusal status with
      | true => simp
      | false => simp
  | failure =>
    rw [fetchText_of_failure hreply]
    exact iff_of_true rfl Reply.not_stray_failure
  | breakdown b => exact absurd hreply (h b)

theorem exists_fetchText_eq_ok (h : (w address).IsExpected) :
    ∃ t, (fetchText w address).1 = .ok t := by
  cases hreply : w address with
  | response status body => exact ⟨_, fetchText_of_response hreply⟩
  | failure => exact ⟨_, fetchText_of_failure hreply⟩
  | breakdown b => exact absurd hreply (h b)

theorem fetchText_eq_nil (h : (w address).IsExpected)
    (hunused : ¬((w address).Succeeds ∨ (w address).Stray)) : (fetchText w address).1 = .ok [] := by
  rw [not_or] at hunused
  rw [(fetchText_eq_document_iff h).2 hunused.2, Reply.document_eq_nil hunused.1]

/-! ## Both requests -/

/-- Without one of the documents the call returns false, and the disk is as it was. -/
theorem fetchFrom_of_empty {html css : Text} (hhtml : (fetchText atHtml c.htmlAddress).1 = .ok html)
    (hcss : (fetchText atCss c.cssAddress).1 = .ok css) (h : html = [] ∨ css = []) :
    (c.fetchFrom atHtml atCss d).result = .ok false ∧ (c.fetchFrom atHtml atCss d).disk = d := by
  have hempty := isEmpty_or_isEmpty_iff.2 h
  simp only [fetchFrom, hhtml, hcss, if_pos hempty]
  exact ⟨trivial, trivial⟩

/-- Only successful answers are used, but for stray ones. A request gives the body of a successful
answer, and nothing for any other answer and for a request that fails, if and only if the answer is
not stray. So a call returns false and leaves the disk as it is unless both answers are successful
or stray. -/
theorem fetchFrom_unsuccessful (c : LocalCopy) (d : Disk) :
    (∀ (w : Web) (address : Text), (w address).IsExpected →
        ((fetchText w address).1 = .ok (w address).document ↔ ¬(w address).Stray)) ∧
      ∀ atHtml atCss : Web,
        (atHtml c.htmlAddress).IsExpected → (atCss c.cssAddress).IsExpected →
        ¬(((atHtml c.htmlAddress).Succeeds ∨ (atHtml c.htmlAddress).Stray) ∧
          ((atCss c.cssAddress).Succeeds ∨ (atCss c.cssAddress).Stray)) →
        (c.fetchFrom atHtml atCss d).result = .ok false ∧
          (c.fetchFrom atHtml atCss d).disk = d := by
  refine ⟨fun w address => fetchText_eq_document_iff, ?_⟩
  intro atHtml atCss hhtml hcss hunused
  obtain ⟨html, hchapter⟩ := exists_fetchText_eq_ok hhtml
  obtain ⟨css, hsheet⟩ := exists_fetchText_eq_ok hcss
  apply fetchFrom_of_empty hchapter hsheet
  -- the chapter may be there, but then the style sheet is not
  by_cases hused : (atHtml c.htmlAddress).Succeeds ∨ (atHtml c.htmlAddress).Stray
  · right
    rw [fetchText_eq_nil hcss fun h => hunused ⟨hused, h⟩] at hsheet
    exact (Except.ok.inj hsheet).symm
  · left
    rw [fetchText_eq_nil hhtml hused] at hchapter
    exact (Except.ok.inj hchapter).symm

/-- A web in which the style sheet is not found, although there is a page that says so. -/
def missingSheet : Web :=
  fun address => if address = "style".toList then .response 404 "not found".toList
    else .response 200 nopSection

theorem fetchFrom_unsuccessful_missingSheet :
    (fetchText missingSheet "style".toList).1 = .ok [] ∧
      (nopCopy.fetchFrom missingSheet missingSheet (Disk.empty [])).result = .ok false ∧
      (nopCopy.fetchFrom missingSheet missingSheet (Disk.empty [])).disk = Disk.empty [] := by
  have hchapter : (missingSheet nopCopy.htmlAddress).IsExpected := nofun
  have hsheet : (missingSheet nopCopy.cssAddress).IsExpected := nofun
  have hstray : ¬(missingSheet "style".toList).Stray := by
    intro h
    obtain ⟨-, hrefusal, -⟩ := Reply.stray_response_iff.1 h
    cases hrefusal
  have hsucceeds : ¬(missingSheet "style".toList).Succeeds := by
    rintro ⟨status, body, hreply, hsuccess⟩
    obtain ⟨rfl, -⟩ := Reply.response.inj hreply
    cases hsuccess
  obtain ⟨htext, hcall⟩ := fetchFrom_unsuccessful nopCopy (Disk.empty [])
  refine ⟨(htext missingSheet "style".toList hsheet).2 hstray, ?_⟩
  exact hcall missingSheet missingSheet hchapter hsheet fun h => h.2.elim hsucceeds hstray

/-- A web in which every document is in one of several other places. -/
def elsewhere : Web :=
  fun _ => .response 300 "choose".toList

/-- The page that says so is taken for the document, and saved. -/
theorem fetchFrom_elsewhere :
    Web.isSuccess 300 = false ∧ elsewhere "chapter".toList = .response 300 "choose".toList ∧
      (fetchText elsewhere "chapter".toList).1 ≠ .ok [] ∧
      (nopCopy.fetchFrom elsewhere elsewhere (Disk.empty [])).result ≠ .ok false := by
  have htext : (fetchText elsewhere "chapter".toList).1 = .ok "choose".toList := rfl
  have hresult : (nopCopy.fetchFrom elsewhere elsewhere (Disk.empty [])).result = .ok true := rfl
  refine ⟨rfl, rfl, ?_, ?_⟩
  · rw [htext]
    intro h
    cases h
  · rw [hresult]
    intro h
    cases h

end Manual.LocalCopy

end Disassembly
