import Disassembly.CommandLine.Word
import Disassembly.Manual.LocalCopy
import Disassembly.Render

/-!
# Arguments of the command line

What a command line asks for. It has the form

    [--jvms-dir DIR] [--log-level LEVEL] [--json-logs] COMMAND

where the command is one of

    parse FILE [--format FORMAT]
    describe MNEMONIC ...
    fetch-jvms [--html-url URL] [--css-url URL]
    lookup CACHE SIGNATURE [--format FORMAT]

and the options of a command may stand anywhere behind its name. Of an option that is given twice
the last value counts. `Arguments.read` refuses a line of any other form.

The words are read from left to right, and the first fault counts, but for two rules. A word that may
stand for several options is a fault before all others; for this the words behind the command are
held against the options before it too. A word too many is a fault behind all others, so that help
can still be asked for.
-/

set_option autoImplicit false

namespace Disassembly.CommandLine

/-- Why nothing is done. -/
inductive Refusal where
  /-- The line has not the right form. -/
  | usage
  /-- The line asks for help. -/
  | help
  deriving DecidableEq

/-! ## Options -/

/-- The form of an option by its name. -/
def optionForm (name : String) (setting : Setting) (takesValue : Bool) : OptionForm :=
  ⟨name.toList, setting, takesValue⟩

/-- The ways to ask for help. -/
def helpForms : List OptionForm :=
  [optionForm "-h" .help false, optionForm "--help" .help false]

/-- The options before the command. -/
def globalForms : List OptionForm :=
  helpForms ++
    [optionForm "--jvms-dir" .directory true, optionForm "--log-level" .logLevel true,
     optionForm "--json-logs" .jsonLogs false]

/-- The options of a command that prints a listing. -/
def listingForms : List OptionForm :=
  helpForms ++ [optionForm "--format" .format true]

/-- The options of the command that fetches the manual. -/
def fetchForms : List OptionForm :=
  helpForms ++ [optionForm "--html-url" .htmlAddress true, optionForm "--css-url" .cssAddress true]

/-- The levels that can be chosen. -/
def levelChoices : List Text :=
  ["DEBUG", "INFO", "WARNING", "ERROR", "CRITICAL"].map String.toList

/-- The forms of a listing that can be chosen. -/
def formatChoices : List Text :=
  ["text", "json", "yaml"].map String.toList

/-- Whether a value can be given to an option. -/
def Setting.allows : Setting → Text → Bool
  | .logLevel, value => levelChoices.contains value
  | .format, value => formatChoices.contains value
  | _, _ => true

/-! ## Reading words -/

/-- A word that counts as an operand. -/
structure OperandWord where
  word : Text
  /-- Whether the word is one more mark, which gives no value to an operand that takes one word. -/
  isSpent : Bool
  deriving DecidableEq

/-- The value that the word gives to an operand that takes one word. -/
def OperandWord.value? (w : OperandWord) : Option Text :=
  if w.isSpent then none else some w.word

/-- Words that have been read: the settings in their order, the operands, and whether all words were
understood. -/
structure Reading where
  settings : List (Setting × Text)
  operands : List OperandWord
  isUnderstood : Bool

namespace Reading

/-- The value of a setting, which is the last one given. -/
def get? (r : Reading) (s : Setting) : Option Text :=
  r.settings.reverse.lookup s

/-- One more setting in front. -/
def addSetting (r : Reading) (s : Setting) (value : Text) : Reading :=
  { r with settings := (s, value) :: r.settings }

/-- One more operand in front. -/
def addOperand (r : Reading) (t : Text) : Reading :=
  { r with operands := ⟨t, false⟩ :: r.operands }

/-- One more word in front, which was not understood. -/
def addUnknown (r : Reading) : Reading :=
  { r with isUnderstood := false }

end Reading

/-- The value of an option and whether it is the next word. A value that can be given to the option
stands in the same word, or in the next one, which must be an operand. -/
def readValue (forms : List OptionForm) (form : OptionForm) (value next : Option Text) :
    Except Refusal (Text × Bool) :=
  if form.takesValue then
    match value, next with
    | some v, _ => if form.setting.allows v then .ok (v, false) else .error .usage
    | none, some v =>
      if v ≠ operandMark ∧ Word.ofText forms v = .operand ∧ form.setting.allows v then .ok (v, true)
      else .error .usage
    | none, none => .error .usage
  else if value.isSome then .error .usage
  else if form.setting = .help then .error .help
  else .ok ([], false)

/-- The words behind the mark that makes operands of all of them. The mark belongs to the operand
before it, or else to the one behind it, and one of these must be there. Any further mark is an
operand too; it gives a value only if the first mark belongs to it. -/
def readMarked (afterOperand : Bool) : List Text → Reading
  | [] => ⟨[], [], afterOperand⟩
  | first :: rest =>
    ⟨[], ⟨first, afterOperand && first == operandMark⟩ :: rest.map fun t => ⟨t, t == operandMark⟩,
      true⟩

/-- Which words are read. -/
inductive Extent where
  /-- The words before the first operand; those from there on count as operands, whatever they
  are. -/
  | leading
  /-- All words. -/
  | all
  deriving DecidableEq

/-- The words of a command line or of a command; `afterOperand` says whether the word before them
was an operand. -/
def readWords (forms : List OptionForm) (extent : Extent) :
    (afterOperand : Bool) → List Text → Except Refusal Reading
  | _, [] => .ok ⟨[], [], true⟩
  | afterOperand, word :: rest =>
    if word = operandMark then
      match extent with
      | .leading => .error .usage
      | .all => .ok (readMarked afterOperand rest)
    else
      match Word.ofText forms word with
      | .ambiguous => .error .usage
      | .unknown => return (← readWords forms extent false rest).addUnknown
      | .operand =>
        match extent with
        | .leading => .ok ⟨[], (word :: rest).map (⟨·, false⟩), true⟩
        | .all => return (← readWords forms extent true rest).addOperand word
      | .option form value => do
        let (v, usesNext) ← readValue forms form value rest.head?
        match usesNext, rest with
        | true, _ :: rest => return (← readWords forms extent false rest).addSetting form.setting v
        | _, rest => return (← readWords forms extent false rest).addSetting form.setting v

/-- Whether a word before the mark may stand for several options. -/
def anyAmbiguous (forms : List OptionForm) (words : List Text) : Bool :=
  (words.takeWhile (· != operandMark)).any fun word => Word.ofText forms word = .ambiguous

/-- The words of a command line or of a command, if none of them is ambiguous. -/
def readLine (forms : List OptionForm) (extent : Extent) (words : List Text) :
    Except Refusal Reading :=
  if anyAmbiguous forms words then .error .usage else readWords forms extent false words

/-! ## Arguments -/

/-- What holds for all runs unless the command line says otherwise. -/
structure Defaults where
  directory : Text
  logLevel : Text
  htmlAddress : Text
  cssAddress : Text

/-- The defaults that the variables of the environment set. -/
def Defaults.ofEnvironment (environment : Text → Option Text) : Defaults where
  directory := (environment "JVMS_DIR".toList).getD ['.']
  logLevel := (environment "LOG_LEVEL".toList).getD "WARNING".toList
  htmlAddress := (environment "JVMS_HTML_URL".toList).getD Manual.LocalCopy.defaultHtmlAddress
  cssAddress := (environment "JVMS_CSS_URL".toList).getD Manual.LocalCopy.defaultCssAddress

/-- What is to be done. -/
inductive Command where
  | parse (file : Text) (format : Format)
  | describe (mnemonics : List Text)
  | fetch (htmlAddress cssAddress : Text)
  /-- The signature has no value if its word is spent. -/
  | lookup (cacheFile : Text) (signature : Option Text) (format : Format)
  deriving DecidableEq

/-- What a command line asks for. -/
structure Arguments where
  directory : Text
  logLevel : Text
  jsonLogs : Bool
  command : Command
  deriving DecidableEq

namespace Reading

/-- The form in which a listing is to be printed. -/
def format (r : Reading) : Format :=
  ((r.get? .format).map Format.ofName).getD .text

/-- The operands, if all words were understood. -/
def allOperands (r : Reading) : Except Refusal (List OperandWord) :=
  if r.isUnderstood then .ok r.operands else .error .usage

end Reading

namespace Command

/-- The options that may stand behind the name of a command. -/
def forms? (name : Text) : Option (List OptionForm) :=
  [("parse".toList, listingForms), ("describe".toList, helpForms), ("fetch-jvms".toList, fetchForms),
    ("lookup".toList, listingForms)].lookup name

/-- The command with the given name for which words have been read. -/
def ofReading (defaults : Defaults) (name : Text) (r : Reading) : Except Refusal Command := do
  let operands ← r.allOperands
  if name = "describe".toList then
    if operands.isEmpty then throw .usage
    return .describe (operands.map (·.word))
  else
    match operands with
    | [] =>
      if name = "fetch-jvms".toList then
        return .fetch ((r.get? .htmlAddress).getD defaults.htmlAddress)
          ((r.get? .cssAddress).getD defaults.cssAddress)
      else throw .usage
    | [file] => if name = "parse".toList then return .parse file.word r.format else throw .usage
    | [cacheFile, signature] =>
      if name = "lookup".toList then return .lookup cacheFile.word signature.value? r.format
      else throw .usage
    | _ => throw .usage

/-- The command with the given name and the words behind it. -/
def read (defaults : Defaults) (name : Text) (words : List Text) : Except Refusal Command := do
  match forms? name with
  | none => throw .usage
  | some forms => ofReading defaults name (← readLine forms .all words)

end Command

/-- What a command line asks for. -/
def Arguments.read (defaults : Defaults) (words : List Text) : Except Refusal Arguments := do
  let r ← readLine globalForms .leading words
  match r.operands with
  | [] => throw .usage
  | name :: rest =>
    let command ← Command.read defaults name.word (rest.map (·.word))
    if !r.isUnderstood then throw .usage
    return {
      directory := (r.get? .directory).getD defaults.directory
      logLevel := (r.get? .logLevel).getD defaults.logLevel
      jsonLogs := (r.get? .jsonLogs).isSome
      command }

/-- How the command line is used. -/
def usage : Text :=
  Text.unlines (
    ["usage: [--jvms-dir DIR] [--log-level LEVEL] [--json-logs] COMMAND",
     "commands:",
     "  parse FILE [--format FORMAT]              FILE may be - for the standard input",
     "  describe MNEMONIC ...",
     "  fetch-jvms [--html-url URL] [--css-url URL]",
     "  lookup CACHE SIGNATURE [--format FORMAT]",
     "levels: DEBUG, INFO, WARNING, ERROR, CRITICAL",
     "formats: text, json, yaml"].map String.toList)

end Disassembly.CommandLine
