import Disassembly.Cache
import Disassembly.Datum.Basic
import Disassembly.Manual.Store

/-!
# Notices

What the operations of this library report beside their results. A notice has a severity, the name
of the part that it comes from, a fixed wording and fields of its own.
-/

set_option autoImplicit false

namespace Disassembly

/-- How grave a notice is. -/
inductive Severity where
  | debug
  | info
  | warning
  | error
  deriving DecidableEq

namespace Severity

/-- The rank of a severity on the scale of thresholds. -/
def rank : Severity → Nat
  | .debug => 10
  | .info => 20
  | .warning => 30
  | .error => 40

/-- The name of a severity. -/
def print : Severity → Text
  | .debug => "debug".toList
  | .info => "info".toList
  | .warning => "warning".toList
  | .error => "error".toList

end Severity

/-- A report of what happened. -/
inductive Notice where
  | lineSkipped (s : SkippedLine)
  | signatureMatched (target : Text) (winner : Signature.Graded)
  | signatureUnmatched (target : Text) (candidates : Nat)
  | memberNotFound (target : Text)
  | manualLoading (e : Manual.LoadEvent)
  | manualUnreadable (path : Text)
  | requestFailed (address : Text)
  | downloadIncomplete (html css : Nat)
  | saveFailed (path : Text)
  | manualSaved (path : Text) (size : Nat)
  | noLocalManual (path : Text)
  | loggingConfigured (level : Text)
  | listingUnreadable (path : Text)
  | manualNotLoaded (directory : Text)
  | cacheUnreadable (path : Text)

namespace Notice

/-- How grave the notice is. -/
def severity : Notice → Severity
  | .lineSkipped _ => .warning
  | .signatureMatched _ _ => .debug
  | .signatureUnmatched _ _ => .debug
  | .memberNotFound _ => .debug
  | .manualLoading (.loaded _ _ _) => .info
  | .manualLoading _ => .warning
  | .manualUnreadable _ => .error
  | .requestFailed _ => .error
  | .downloadIncomplete _ _ => .warning
  | .saveFailed _ => .error
  | .manualSaved _ _ => .info
  | .noLocalManual _ => .info
  | .loggingConfigured _ => .debug
  | .listingUnreadable _ => .error
  | .manualNotLoaded _ => .error
  | .cacheUnreadable _ => .error

/-- The name of the part that the notice comes from. -/
def source : Notice → Text
  | .lineSkipped _ => "jvm_bytecode.analysis.instruction_parser".toList
  | .signatureMatched _ _ | .signatureUnmatched _ _ =>
    "jvm_bytecode.analysis.signature_matcher".toList
  | .memberNotFound _ => "jvm_bytecode.analysis.bytecode_lookup".toList
  | .manualLoading _ | .manualUnreadable _ => "jvm_bytecode.docs.description_store".toList
  | .requestFailed _ | .downloadIncomplete _ _ | .saveFailed _ | .manualSaved _ _
  | .noLocalManual _ => "jvm_bytecode.docs.jvms_client".toList
  | .loggingConfigured _ => "jvm_bytecode.utils.logging_config".toList
  | .listingUnreadable _ | .manualNotLoaded _ | .cacheUnreadable _ => "jvm_bytecode.cli".toList

/-- The wording of the notice. -/
def wording : Notice → Text
  | .lineSkipped _ => "Could not parse bytecode line".toList
  | .signatureMatched _ _ => "Matched signature".toList
  | .signatureUnmatched _ _ => "No signature match found".toList
  | .memberNotFound _ => "Bytecode not available for member".toList
  | .manualLoading .emptyDocument => "Empty JVMS document, nothing to load".toList
  | .manualLoading .noSections => "No opcode descriptions found in JVMS document".toList
  | .manualLoading (.familyWithoutStem _) =>
    "Ignoring opcode family description without a literal prefix".toList
  | .manualLoading (.overlap _ _) => "Overlapping opcode family descriptions".toList
  | .manualLoading (.loaded _ _ _) => "Loaded opcode descriptions".toList
  | .manualUnreadable _ => "Could not read JVMS document".toList
  | .requestFailed _ => "JVMS request failed".toList
  | .downloadIncomplete _ _ => "JVMS download incomplete, keeping existing copy".toList
  | .saveFailed _ => "Failed to save JVMS document".toList
  | .manualSaved _ _ => "Saved JVMS document".toList
  | .noLocalManual _ => "No local JVMS document".toList
  | .loggingConfigured _ => "Logging configured".toList
  | .listingUnreadable _ => "Could not read bytecode file".toList
  | .manualNotLoaded _ => "JVMS document not loaded, run fetch-jvms first".toList
  | .cacheUnreadable _ => "Could not load bytecode cache".toList

/-- A field that holds a text. -/
def textField (name : String) (t : Text) : Text × Datum Text :=
  (name.toList, .text t)

/-- A field that holds a count. -/
def countField (name : String) (n : Nat) : Text × Datum Text :=
  (name.toList, .int n)

/-- The fields of the notice. -/
def fields : Notice → List (Text × Datum Text)
  | .lineSkipped s =>
    [textField "line" s.line, countField "line_number" s.number, textField "reason" s.reason.print]
  | .signatureMatched target winner =>
    [textField "signature" target, textField "match" winner.candidate,
      countField "score" winner.grade]
  | .signatureUnmatched target n => [textField "signature" target, countField "candidates" n]
  | .memberNotFound target => [textField "signature" target]
  | .manualLoading .emptyDocument => []
  | .manualLoading .noSections => []
  | .manualLoading (.familyWithoutStem title) => [textField "family" title]
  | .manualLoading (.overlap title other) => [textField "family" title, textField "other" other]
  | .manualLoading (.loaded n total families) =>
    [countField "sections" n, countField "total" total, countField "families" families]
  | .manualUnreadable path => [textField "path" path]
  | .requestFailed address => [textField "url" address]
  | .downloadIncomplete html css => [countField "html" html, countField "css" css]
  | .saveFailed path => [textField "path" path]
  | .manualSaved path size => [textField "path" path, countField "size" size]
  | .noLocalManual path => [textField "path" path]
  | .loggingConfigured level => [textField "log_level" level]
  | .listingUnreadable path => [textField "path" path]
  | .manualNotLoaded directory => [textField "jvms_dir" directory]
  | .cacheUnreadable path => [textField "path" path]

end Notice

/-- What a match of signatures reports. -/
def Signature.MatchResult.notices (target : Text) (candidates : List Text) :
    Signature.MatchResult → List Notice
  | .verbatim => []
  | .graded winner => [.signatureMatched target winner]
  | .unmatched => [.signatureUnmatched target candidates.length]

/-- What the search for the entry of a method reports. -/
def Cache.Found.notices (c : Cache) (target : Text) (f : Cache.Found) : List Notice :=
  match f.matching with
  | none => []
  | some m =>
    m.notices target c.signatures ++ (if f.entry.isNone then [.memberNotFound target] else [])

/-- What reading a listing reports. -/
def Listing.notices (l : Listing) : List Notice :=
  l.skipped.map .lineSkipped

end Disassembly
