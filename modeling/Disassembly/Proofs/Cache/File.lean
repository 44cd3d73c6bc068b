import Disassembly.Cache.File
import Disassembly.Proofs.Disk.Path
import Disassembly.Proofs.Outcome
import Mathlib.Tactic

/-!
# Files that are no caches

A file that cannot be read as a text is no cache, whichever format it has by its name
(`Cache.exists_load_eq_error`): a JSON file is decoded as a whole, and a library for YAML reads a
file to its end.
-/

set_option autoImplicit false

namespace Disassembly

namespace Disk

theorem complete_decodeBlocks {bytes : ByteArray} (h : decode? bytes = none) :
    (decodeBlocks bytes).complete = false := by
  rw [decodeBlocks, h]

end Disk

namespace Cache

/-- The failures that are no fault of the file: what it holds is nested too deep, or something goes
wrong in the library for YAML. A file with strings that are no texts is no fault either. -/
theorem isFault_eq_false_iff {e : FileError} : e.isFault = false ↔
    (∃ isRecord, e = .json (.tooDeep isRecord)) ∨ (∃ err, e = .yaml err ∧ err.isFault = false) ∨
      e = .rawTexts := by
  cases e with
  | json err => cases err <;> simp [FileError.isFault, Json.ReadError.isFault]
  | yaml err => simp [FileError.isFault]
  | _ => simp [FileError.isFault]

/-- A file that cannot be read as a text is no cache. -/
theorem exists_load_eq_error {p : Platform} (hp : p.yaml.Lawful) {d : Disk} {path : Text}
    {e : Disk.ReadError} (h : d.readText path = .error e) : ∃ err, load p d path = .error err := by
  have hnone : Yields (load p d path) fun _ => False := by
    rw [load]
    refine .checked fun _ => ?_
    rcases Disk.readText_eq_error_iff.1 h with ⟨err, hbytes, -⟩ | ⟨bytes, hbytes, hdecode, -⟩
    · rw [hbytes]
      exact .error _ _
    · -- the bytes are there, but no text: the formats find that out at different times
      rw [hbytes]
      refine .ite (fun _ => ?yaml) fun _ => ?json
      case yaml =>
        obtain ⟨err, herr⟩ := hp.read_incomplete _ (Disk.complete_decodeBlocks hdecode)
        rw [herr]
        exact .error _ _
      case json =>
        rw [Disk.decodeText, hdecode]
        exact .error _ _
  cases hload : load p d path with
  | error err => exact ⟨err, rfl⟩
  | ok c => exact (hnone c hload).elim

end Cache

end Disassembly
