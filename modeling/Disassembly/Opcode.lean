import Disassembly.Numeral
import Disassembly.Text.Quoted

/-!
# Opcodes

The instruction set of the Java virtual machine. An opcode is its number, and the numbers in use
have no gap, so an opcode is one of `count` numbers. The mnemonic is the name under which a
disassembly listing shows it.

- `ofMnemonic?` finds the opcode of a mnemonic and `ofCode?` that of a number.
- `ofMnemonic?_mnemonic` says that an opcode is found under its mnemonic.
- `mnemonic_of_ofMnemonic?` says that only the opcode of that name is found.
-/

set_option autoImplicit false

namespace Disassembly

/-- The number of opcodes. -/
def Opcode.count : Nat := 202

/-- An opcode, given by its number. -/
structure Opcode where
  code : Fin Opcode.count
  deriving DecidableEq

namespace Opcode

/-- The mnemonics in the order of the opcodes. -/
def mnemonics : List String :=
  ["nop", "aconst_null", "iconst_m1", "iconst_0", "iconst_1", "iconst_2", "iconst_3", "iconst_4",
   "iconst_5", "lconst_0", "lconst_1", "fconst_0", "fconst_1", "fconst_2", "dconst_0", "dconst_1",
   "bipush", "sipush", "ldc", "ldc_w", "ldc2_w", "iload", "lload", "fload", "dload", "aload",
   "iload_0", "iload_1", "iload_2", "iload_3", "lload_0", "lload_1", "lload_2", "lload_3",
   "fload_0", "fload_1", "fload_2", "fload_3", "dload_0", "dload_1", "dload_2", "dload_3",
   "aload_0", "aload_1", "aload_2", "aload_3", "iaload", "laload", "faload", "daload", "aaload",
   "baload", "caload", "saload", "istore", "lstore", "fstore", "dstore", "astore", "istore_0",
   "istore_1", "istore_2", "istore_3", "lstore_0", "lstore_1", "lstore_2", "lstore_3", "fstore_0",
   "fstore_1", "fstore_2", "fstore_3", "dstore_0", "dstore_1", "dstore_2", "dstore_3", "astore_0",
   "astore_1", "astore_2", "astore_3", "iastore", "lastore", "fastore", "dastore", "aastore",
   "bastore", "castore", "sastore", "pop", "pop2", "dup", "dup_x1", "dup_x2", "dup2", "dup2_x1",
   "dup2_x2", "swap", "iadd", "ladd", "fadd", "dadd", "isub", "lsub", "fsub", "dsub", "imul",
   "lmul", "fmul", "dmul", "idiv", "ldiv", "fdiv", "ddiv", "irem", "lrem", "frem", "drem", "ineg",
   "lneg", "fneg", "dneg", "ishl", "lshl", "ishr", "lshr", "iushr", "lushr", "iand", "land",
   "ior", "lor", "ixor", "lxor", "iinc", "i2l", "i2f", "i2d", "l2i", "l2f", "l2d", "f2i", "f2l",
   "f2d", "d2i", "d2l", "d2f", "i2b", "i2c", "i2s", "lcmp", "fcmpl", "fcmpg", "dcmpl", "dcmpg",
   "ifeq", "ifne", "iflt", "ifge", "ifgt", "ifle", "if_icmpeq", "if_icmpne", "if_icmplt",
   "if_icmpge", "if_icmpgt", "if_icmple", "if_acmpeq", "if_acmpne", "goto", "jsr", "ret",
   "tableswitch", "lookupswitch", "ireturn", "lreturn", "freturn", "dreturn", "areturn", "return",
   "getstatic", "putstatic", "getfield", "putfield", "invokevirtual", "invokespecial",
   "invokestatic", "invokeinterface", "invokedynamic", "new", "newarray", "anewarray",
   "arraylength", "athrow", "checkcast", "instanceof", "monitorenter", "monitorexit", "wide",
   "multianewarray", "ifnull", "ifnonnull", "goto_w", "jsr_w"]

theorem length_mnemonics : mnemonics.length = count := by rfl

/-- The name of the opcode in a listing. -/
def mnemonic (o : Opcode) : Text :=
  (mnemonics.get (o.code.cast length_mnemonics.symm)).toList

/-- The name of the opcode as a constant. -/
def constantName (o : Opcode) : Text :=
  o.mnemonic.map Char.toUpper

/-- All opcodes in their order. -/
def all : List Opcode :=
  (List.finRange count).map Opcode.mk

/-- The opcode with the given mnemonic. -/
def ofMnemonic? (m : Text) : Option Opcode :=
  all.find? fun o => o.mnemonic == m

/-- The opcode with the given number. -/
def ofCode? (n : Int) : Option Opcode :=
  if h : 0 ≤ n ∧ n.toNat < count then some ⟨n.toNat, h.2⟩ else none

/-- Why a look-up in the table of opcodes fails. -/
inductive LookupError where
  | unknownMnemonic (m : Text)
  | unknownCode (n : Int)

/-- What is said of a failed look-up. -/
def LookupError.message : LookupError → Text
  | .unknownMnemonic m => "Unknown mnemonic: ".toList ++ Text.quoted m
  | .unknownCode n => Numeral.print n ++ " is not a valid Opcode".toList

/-- The opcode with the given mnemonic, or the reason why there is none. -/
def ofMnemonic (m : Text) : Except LookupError Opcode :=
  (ofMnemonic? m).elim (.error (.unknownMnemonic m)) .ok

/-- The opcode with the given number, or the reason why there is none. -/
def ofCode (n : Int) : Except LookupError Opcode :=
  (ofCode? n).elim (.error (.unknownCode n)) .ok

/-! ## Opcodes and their mnemonics -/

theorem mem_all (o : Opcode) : o ∈ all :=
  List.mem_map.2 ⟨o.code, List.mem_finRange o.code, rfl⟩

/-- The characters of a mnemonic as the digits of one number. -/
def spellingNumber (s : String) : Nat :=
  s.toList.foldl (fun n c => 128 * n + c.toNat) 0

theorem spellingNumbers_nodup : (mnemonics.map spellingNumber).Nodup := by decide +kernel

theorem mnemonics_nodup : mnemonics.Nodup :=
  List.Pairwise.of_map spellingNumber (fun _ _ hne heq => hne (congrArg spellingNumber heq))
    spellingNumbers_nodup

theorem code_lt_length (o : Opcode) : o.code.val < mnemonics.length :=
  Nat.lt_of_lt_of_eq o.code.isLt length_mnemonics.symm

/-- Different opcodes have different mnemonics. -/
theorem mnemonic_injective {o p : Opcode} (h : o.mnemonic = p.mnemonic) : o = p := by
  have hget : mnemonics[o.code.val]? = mnemonics[p.code.val]? := by
    have hget := String.toList_inj.1 h
    simp only [List.get_eq_getElem, Fin.val_cast] at hget
    rw [List.getElem?_eq_getElem o.code_lt_length, List.getElem?_eq_getElem p.code_lt_length, hget]
  have hval := (List.getElem?_inj o.code_lt_length mnemonics_nodup).1 hget
  cases o with
  | mk a =>
    cases p with
    | mk b => exact congrArg Opcode.mk (Fin.ext hval)

/-- Only the opcode of that name is found. -/
theorem mnemonic_of_ofMnemonic? {m : Text} {o : Opcode} (h : ofMnemonic? m = some o) :
    o.mnemonic = m := by
  have := List.find?_some h
  simpa using this

/-- An opcode is found under its mnemonic. -/
theorem ofMnemonic?_mnemonic (o : Opcode) : ofMnemonic? o.mnemonic = some o := by
  cases h : ofMnemonic? o.mnemonic with
  | none =>
    have := List.find?_eq_none.1 h o (mem_all o)
    simp at this
  | some p => exact congrArg some (mnemonic_injective (mnemonic_of_ofMnemonic? h))

end Opcode

end Disassembly
