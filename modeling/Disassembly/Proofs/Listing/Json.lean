import Disassembly.Proofs.Json.Layout
import Disassembly.Render

/-!
# The JSON form of a listing

Different listings have different JSON forms (`render_json_eq_iff`). The fields of an instruction
and of a skipped line hold all that there is to it: the sort of an operand stands beside its value,
an absent comment is null and not the empty text, and the number of the opcode says which it is.
From the fields up to the text nothing is lost, since the layout determines the value.
-/

set_option autoImplicit false

namespace Disassembly

open Json

/-! ## Structured values -/

theorem Datum.ofText?_injective {σ : Type} :
    Function.Injective (Datum.ofText? : Option σ → Datum σ) := by
  intro t u h
  cases t with
  | none =>
    cases u with
    | none => rfl
    | some u => cases h
  | some t =>
    cases u with
    | none => cases h
    | some u => exact congrArg some (Datum.text.inj h)

/-- The sort of an operand and what it says are all there is to it. -/
theorem Operand.eq_of_kindName_of_value {o p : Operand} (hkind : o.kindName = p.kindName)
    (hvalue : o.value = p.value) : o = p := by
  have hnames : "constant".toList ≠ "string".toList := by decide
  cases o with
  | constant reference =>
    cases p with
    | constant reference' => exact congrArg _ (Datum.text.inj hvalue)
    | numeric n => cases hvalue
    | symbol name => exact absurd hkind hnames
  | numeric n =>
    cases p with
    | numeric m => exact congrArg _ (Datum.int.inj hvalue)
    | constant reference => cases hvalue
    | symbol name => cases hvalue
  | symbol name =>
    cases p with
    | symbol name' => exact congrArg _ (Datum.text.inj hvalue)
    | constant reference => exact absurd hkind.symm hnames
    | numeric n => cases hvalue

theorem Operand.toDatum_injective : Function.Injective Operand.toDatum := by
  intro o p h
  simp only [Operand.toDatum, Datum.record.injEq, List.cons.injEq, Prod.mk.injEq,
    Datum.text.injEq, true_and, and_true] at h
  exact Operand.eq_of_kindName_of_value h.1 h.2

theorem Instruction.toDatum_injective : Function.Injective Instruction.toDatum := by
  intro i j h
  simp only [Instruction.toDatum, Datum.record.injEq, List.cons.injEq, Prod.mk.injEq,
    Datum.int.injEq, Datum.list.injEq, Int.natCast_inj, true_and, and_true] at h
  obtain ⟨hoffset, -, hcode, hoperands, hcomment⟩ := h
  -- the mnemonic is not needed, for the number stands beside it
  have hopcode : i.opcode = j.opcode := congrArg Opcode.mk (Fin.ext hcode)
  have hoperands := List.map_injective_iff.2 Operand.toDatum_injective hoperands
  have hcomment := Datum.ofText?_injective hcomment
  cases i
  cases j
  rw [Instruction.mk.injEq]
  exact ⟨hoffset, hopcode, hoperands, hcomment⟩

theorem SkipReason.print_injective : Function.Injective SkipReason.print := by
  intro a b h
  cases a <;> cases b <;> first | rfl | exact absurd h (by decide)

theorem SkippedLine.toDatum_injective : Function.Injective SkippedLine.toDatum := by
  intro a b h
  simp only [SkippedLine.toDatum, Datum.record.injEq, List.cons.injEq, Prod.mk.injEq,
    Datum.int.injEq, Datum.text.injEq, Int.natCast_inj, true_and, and_true] at h
  obtain ⟨hnumber, hline, hreason⟩ := h
  have hreason := SkipReason.print_injective hreason
  cases a
  cases b
  rw [SkippedLine.mk.injEq]
  exact ⟨hnumber, hline, hreason⟩

/-! ## All numbers are integers -/

theorem Datum.exact_record_cons {name : Text} {d : Datum Text} {fields : List (Text × Datum Text)}
    (hd : d.Exact) (hfields : (Datum.record fields).Exact) :
    (Datum.record ((name, d) :: fields)).Exact := by
  cases hfields with
  | record h => exact .record (List.forall_mem_cons.2 ⟨hd, h⟩)

theorem Datum.exact_record_nil : (Datum.record []).Exact :=
  .record (by simp)

theorem Datum.exact_map {α : Type} {f : α → Datum Text} (h : ∀ a, (f a).Exact) (items : List α) :
    (Datum.list (items.map f)).Exact :=
  .list (List.forall_mem_map.2 fun a _ => h a)

theorem Operand.exact_toDatum (o : Operand) : o.toDatum.Exact := by
  have hvalue : o.value.Exact := by
    cases o with
    | constant reference => exact .text reference
    | numeric n => exact .int n
    | symbol name => exact .text name
  exact Datum.exact_record_cons (.text _) (Datum.exact_record_cons hvalue Datum.exact_record_nil)

theorem Instruction.exact_toDatum (i : Instruction) : i.toDatum.Exact := by
  have hcomment : (Datum.ofText? i.comment).Exact := by
    cases i.comment with
    | none => exact .null
    | some c => exact .text c
  refine Datum.exact_record_cons (.int _) ?_
  refine Datum.exact_record_cons (.text _) ?_
  refine Datum.exact_record_cons (.int _) ?_
  refine Datum.exact_record_cons (Datum.exact_map Operand.exact_toDatum _) ?_
  exact Datum.exact_record_cons hcomment Datum.exact_record_nil

theorem SkippedLine.exact_toDatum (s : SkippedLine) : s.toDatum.Exact := by
  refine Datum.exact_record_cons (.int _) ?_
  refine Datum.exact_record_cons (.text _) ?_
  exact Datum.exact_record_cons (.text _) Datum.exact_record_nil

namespace Listing

theorem fields_injective : Function.Injective fields := by
  intro l m h
  simp only [fields, List.cons.injEq, Prod.mk.injEq, Datum.list.injEq, true_and, and_true] at h
  obtain ⟨hinstructions, hskipped⟩ := h
  have hinstructions := List.map_injective_iff.2 Instruction.toDatum_injective hinstructions
  have hskipped := List.map_injective_iff.2 SkippedLine.toDatum_injective hskipped
  cases l
  cases m
  rw [mk.injEq]
  exact ⟨hinstructions, hskipped⟩

theorem exact_fields (l : Listing) : (Datum.record l.fields).Exact := by
  refine Datum.exact_record_cons (Datum.exact_map Instruction.exact_toDatum _) ?_
  exact Datum.exact_record_cons (Datum.exact_map SkippedLine.exact_toDatum _)
    Datum.exact_record_nil

/-- The JSON form loses nothing: listings that have it in common are the same, with the sort of
each operand, the difference between no comment and an empty one, and the numbers of the skipped
lines. -/
theorem render_json_eq_iff {y : Yaml.Library} {l m : Listing} :
    l.render y .json = m.render y .json ↔ l = m := by
  constructor
  · intro h
    have hfields : Datum.record l.fields = .record m.fields :=
      pretty_inj l.exact_fields m.exact_fields h
    exact fields_injective (Datum.record.inj hfields)
  · rintro rfl
    rfl

end Listing

end Disassembly
