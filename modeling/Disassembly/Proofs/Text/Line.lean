import Disassembly.Text.Line
import Mathlib.Tactic

/-!
# Joining lines

Lines that are joined by line feeds are found again by splitting the text at its breaks, if none of
them is empty, holds a line feed or ends in a carriage return (`lines_intercalate`). The last
condition is needed because a carriage return in front of a line feed belongs to the break.

A text that ends with a line feed has its lines in front of those of any text behind it
(`lines_append`).
-/

set_option autoImplicit false

namespace Disassembly.Text

/-- A line that keeps its characters in front of a line feed. -/
def Unbroken (l : Text) : Prop :=
  '\n' ∉ l ∧ l.getLast? ≠ some '\r'

theorem linePieces_cons {c : Char} {r : Text} (hc : c ≠ '\n')
    (hr : c = '\r' → r.head? ≠ some '\n') :
    linePieces (c :: r) = (linePieces r).modifyHead (c :: ·) := by
  rw [linePieces]
  · exact hc
  · rintro s rfl rfl
    exact hr rfl rfl

theorem linePieces_eq_singleton {l : Text} (h : '\n' ∉ l) : linePieces l = [l] := by
  induction l with
  | nil => rfl
  | cons c r ih =>
    have hr : '\n' ∉ r := fun hm => h (List.mem_cons_of_mem c hm)
    have hhead : r.head? ≠ some '\n' := fun hh => hr (List.mem_of_head? hh)
    rw [linePieces_cons (fun hc => h (hc ▸ List.mem_cons_self)) (fun _ => hhead), ih hr]
    rfl

/-- The piece before a line feed is a line of its own. -/
theorem linePieces_append_lineFeed {l : Text} (h : Unbroken l) (rest : Text) :
    linePieces (l ++ '\n' :: rest) = l :: linePieces rest := by
  obtain ⟨hfeed, hlast⟩ := h
  induction l with
  | nil => rfl
  | cons c r ih =>
    have hr : '\n' ∉ r := fun hm => hfeed (List.mem_cons_of_mem c hm)
    have hc : c ≠ '\n' := fun hc => hfeed (hc ▸ List.mem_cons_self)
    cases r with
    | nil =>
      -- the last character of the line stands in front of the break, and it is no carriage return
      have hreturn : c = '\r' → ('\n' :: rest).head? ≠ some '\n' :=
        fun hc => absurd (congrArg some hc) hlast
      change linePieces (c :: '\n' :: rest) = [c] :: linePieces rest
      rw [linePieces_cons hc hreturn]
      rfl
    | cons d r =>
      have hd : d ≠ '\n' := fun hd => hr (hd ▸ List.mem_cons_self)
      have hlast' : (d :: r).getLast? ≠ some '\r' := by
        rwa [List.getLast?_cons_cons] at hlast
      have hhead : (d :: r ++ '\n' :: rest).head? ≠ some '\n' :=
        fun hh => hd (Option.some.inj hh)
      rw [List.cons_append, linePieces_cons hc fun _ => hhead, ih hr hlast']
      rfl

theorem linePieces_intercalate {ls : List Text} (hne : ls ≠ []) (h : ∀ l ∈ ls, Unbroken l) :
    linePieces (['\n'].intercalate ls) = ls := by
  induction ls with
  | nil => exact absurd rfl hne
  | cons l rest ih =>
    have hl : Unbroken l := h l List.mem_cons_self
    cases rest with
    | nil =>
      rw [List.intercalate_singleton]
      exact linePieces_eq_singleton hl.1
    | cons m rest =>
      have htail := ih (List.cons_ne_nil m rest) fun k hk => h k (List.mem_cons_of_mem l hk)
      rw [List.intercalate_cons_cons, List.append_assoc, List.singleton_append,
        linePieces_append_lineFeed hl, htail]

/-- Joined lines are found again. -/
theorem lines_intercalate {ls : List Text} (h : ∀ l ∈ ls, Unbroken l) (hne : [] ∉ ls) :
    lines (['\n'].intercalate ls) = ls := by
  cases ls with
  | nil => rfl
  | cons l rest =>
    have hpieces := linePieces_intercalate (List.cons_ne_nil l rest) h
    -- no line is empty, so there is no empty piece behind a last break to be left out
    have hlast : (l :: rest).getLast? ≠ some [] := fun hl => hne (List.mem_of_getLast? hl)
    rw [lines, hpieces]
    exact if_neg hlast

/-! ## One line -/

/-- The line as it is read in front of a line feed: a carriage return at its end belongs to the
break. -/
def withoutReturn (l : Text) : Text :=
  if l.getLast? = some '\r' then l.dropLast else l

/-- The piece before a carriage return and a line feed is a line of its own. -/
theorem linePieces_append_return {l : Text} (h : '\n' ∉ l) (rest : Text) :
    linePieces (l ++ '\r' :: '\n' :: rest) = l :: linePieces rest := by
  induction l with
  | nil => rfl
  | cons c r ih =>
    rw [List.mem_cons, not_or] at h
    have hhead : (r ++ '\r' :: '\n' :: rest).head? ≠ some '\n' := by
      cases r with
      | nil => simp
      | cons d r => exact fun hd => h.2 (List.mem_of_head? hd)
    rw [List.cons_append, linePieces_cons (Ne.symm h.1) fun _ => hhead, ih h.2]
    rfl

theorem eq_withoutReturn (l : Text) : withoutReturn l = l ∨ withoutReturn l ++ ['\r'] = l := by
  rw [withoutReturn]
  split
  next h => exact Or.inr (List.dropLast_append_getLast? '\r' h)
  next => exact Or.inl rfl

/-- A text with a single line feed, at its end, has one line. -/
theorem lines_append_lineFeed {l : Text} (h : '\n' ∉ l) :
    lines (l ++ ['\n']) = [withoutReturn l] := by
  have hpieces : linePieces (l ++ ['\n']) = [withoutReturn l, []] := by
    by_cases hlast : l.getLast? = some '\r'
    · have hsplit := List.dropLast_append_getLast? '\r' hlast
      rw [withoutReturn, if_pos hlast]
      conv_lhs => rw [← hsplit, List.append_assoc]
      exact linePieces_append_return (fun hmem => h (List.dropLast_subset l hmem)) []
    · rw [withoutReturn, if_neg hlast]
      exact linePieces_append_lineFeed ⟨h, hlast⟩ []
  rw [lines, hpieces]
  rfl

theorem lines_eq_singleton {l : Text} (h : '\n' ∉ l) (hne : l ≠ []) : lines l = [l] := by
  rw [lines, linePieces_eq_singleton h, List.getLast?_singleton, if_neg]
  exact fun hl => hne (Option.some.inj hl)

/-! ## Texts behind each other -/

theorem linePieces_ne_nil (t : Text) : linePieces t ≠ [] := by
  induction t using linePieces.induct with
  | case1 => exact List.cons_ne_nil _ _
  | case2 r ih => exact List.cons_ne_nil _ _
  | case3 r ih => exact List.cons_ne_nil _ _
  | case4 c r hfeed hbreak ih =>
    rw [linePieces]
    · obtain ⟨first, others, hpieces⟩ := List.exists_cons_of_ne_nil ih
      rw [hpieces]
      exact List.cons_ne_nil _ _
    · exact hfeed
    · exact hbreak

/-- The pieces of a text that ends with a line feed are complete lines and an empty piece, in place
of which come the pieces of what follows. -/
theorem exists_linePieces_append {a : Text} (h : a.getLast? = some '\n') :
    ∃ ls, ls ≠ [] ∧ linePieces a = ls ++ [[]] ∧ ∀ b, linePieces (a ++ b) = ls ++ linePieces b := by
  -- the rest behind a break is empty, or it ends with a line feed itself
  have hbreak : ∀ {r : Text}, (r ≠ [] → r.getLast? = some '\n') →
      (r.getLast? = some '\n' → ∃ ls, ls ≠ [] ∧ linePieces r = ls ++ [[]] ∧
        ∀ b, linePieces (r ++ b) = ls ++ linePieces b) →
      ∃ ls, ls ≠ [] ∧ [] :: linePieces r = ls ++ [[]] ∧
        ∀ b, [] :: linePieces (r ++ b) = ls ++ linePieces b := by
    intro r hr ih
    by_cases hnil : r = []
    · subst hnil
      exact ⟨[[]], List.cons_ne_nil _ _, rfl, fun b => rfl⟩
    · obtain ⟨ls, -, hls, happend⟩ := ih (hr hnil)
      refine ⟨[] :: ls, List.cons_ne_nil _ _, by rw [hls]; rfl, fun b => ?_⟩
      rw [happend]
      rfl
  induction a using linePieces.induct with
  | case1 => cases h
  | case2 r ih =>
    refine hbreak (fun hne => ?_) ih
    rwa [List.getLast?_cons_of_ne_nil hne] at h
  | case3 r ih =>
    refine hbreak (fun hne => ?_) ih
    rwa [List.getLast?_cons_cons, List.getLast?_cons_of_ne_nil hne] at h
  | case4 c r hfeed hreturn ih =>
    have hne : r ≠ [] := by
      rintro rfl
      exact hfeed (Option.some.inj h)
    rw [List.getLast?_cons_of_ne_nil hne] at h
    obtain ⟨ls, hls, hpieces, happend⟩ := ih h
    obtain ⟨first, others, rfl⟩ := List.exists_cons_of_ne_nil hls
    -- the character joins the first line, whatever follows the text
    have hhead : ∀ b, c = '\r' → (r ++ b).head? ≠ some '\n' := by
      rintro b rfl hh
      rw [List.head?_append_of_ne_nil _ hne] at hh
      obtain ⟨d, s, rfl⟩ := List.exists_cons_of_ne_nil hne
      obtain rfl := Option.some.inj hh
      exact hreturn s rfl rfl
    refine ⟨(c :: first) :: others, List.cons_ne_nil _ _, ?_, fun b => ?_⟩
    · have hself := hhead []
      rw [List.append_nil] at hself
      rw [linePieces_cons hfeed hself, hpieces]
      rfl
    · rw [List.cons_append, linePieces_cons hfeed (hhead b), happend]
      rfl

/-- The lines of a text that ends with a line feed stand in front of those of what follows. -/
theorem lines_append {a : Text} (h : a = [] ∨ a.getLast? = some '\n') (b : Text) :
    lines (a ++ b) = lines a ++ lines b := by
  rcases h with rfl | h
  · rfl
  · obtain ⟨ls, -, hpieces, happend⟩ := exists_linePieces_append h
    have hlines : lines a = ls := by
      rw [lines, hpieces]
      simp
    rw [hlines, lines, lines, happend, List.getLast?_append_of_ne_nil _ (linePieces_ne_nil b)]
    split
    · rw [List.dropLast_append_of_ne_nil (linePieces_ne_nil b)]
    · rfl

/-! ## Lines with a break behind each -/

theorem unlines_ends (ls : List Text) :
    unlines ls = [] ∨ (unlines ls).getLast? = some '\n' := by
  induction ls with
  | nil => exact Or.inl rfl
  | cons l rest ih =>
    right
    rw [unlines, List.flatMap_cons, ← unlines]
    rcases ih with h | h
    · rw [h]
      simp
    · rw [List.getLast?_append, h]
      rfl

theorem length_lines_unlines {ls : List Text} (h : ∀ l ∈ ls, '\n' ∉ l) :
    (lines (unlines ls)).length = ls.length := by
  induction ls with
  | nil => rfl
  | cons l rest ih =>
    rw [List.forall_mem_cons] at h
    rw [unlines, List.flatMap_cons, ← unlines, lines_append (Or.inr (by simp)),
      lines_append_lineFeed h.1, List.length_append, ih h.2, List.length_singleton,
      List.length_cons, Nat.add_comm]

end Disassembly.Text
