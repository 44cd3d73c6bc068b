import Disassembly.Proofs.Text.Replacement
import Disassembly.Text.Line
import Mathlib.Tactic

/-!
# Line breaks as replacements

Reading a text file replaces every carriage return with a line feed behind it by a line feed, and
after that every carriage return that is left (`unifyBreaks_eq_replace`).
-/

set_option autoImplicit false

namespace Disassembly.Text

/-- A carriage return, once those before line feeds are gone. -/
theorem replace_return (r : Text) :
    replace ['\r'] ['\n'] ('\r' :: r) = '\n' :: replace ['\r'] ['\n'] r :=
  rewrites_old (List.cons_ne_nil _ _) r

theorem replace_return_cons {c : Char} (hc : c ≠ '\r') (r : Text) :
    replace ['\r'] ['\n'] (c :: r) = c :: replace ['\r'] ['\n'] r :=
  replace_cons fun h => hc (List.cons_prefix_cons.1 h).1.symm

theorem unifyBreaks_eq_replace (t : Text) :
    unifyBreaks t = replace ['\r'] ['\n'] (replace ['\r', '\n'] ['\n'] t) := by
  fun_induction unifyBreaks t with
  | case1 => rfl
  | case2 r ih =>
    have hpair : replace ['\r', '\n'] ['\n'] ('\r' :: '\n' :: r) =
        '\n' :: replace ['\r', '\n'] ['\n'] r :=
      rewrites_old (List.cons_ne_nil _ _) r
    rw [hpair, replace_return_cons (by decide), ih]
  | case3 r hr ih =>
    -- no line feed follows, so this carriage return is left for the second replacement
    have hlone : ¬['\r', '\n'] <+: '\r' :: r := by
      rintro ⟨rest, hrest⟩
      exact hr rest (List.cons.inj hrest).2.symm
    rw [replace_cons hlone, replace_return, ih]
  | case4 c r hpair hc ih =>
    have hkept : ¬['\r', '\n'] <+: c :: r := fun h => hc (List.cons_prefix_cons.1 h).1.symm
    rw [replace_cons hkept, replace_return_cons hc, ih]

end Disassembly.Text
