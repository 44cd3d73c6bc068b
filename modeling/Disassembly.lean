import Disassembly.Numeral
import Disassembly.Text.Line
import Disassembly.Text.Quoted
import Disassembly.Text.Word
import Disassembly.Instruction.Basic
import Disassembly.Instruction.Line
import Disassembly.Listing
import Disassembly.Signature.Basic
import Disassembly.Signature.Match
import Disassembly.Cache
import Disassembly.Datum.Basic
import Disassembly.Html.CharacterReference
import Disassembly.Manual.Family
import Disassembly.Manual.Section
import Disassembly.Manual.Store
import Disassembly.Json.Writer
import Disassembly.Render
import Disassembly.Disk.Basic
import Disassembly.Notice
import Disassembly.Web
import Disassembly.Manual.LocalCopy
import Disassembly.Json.Reader
import Disassembly.Yaml.Cursor
import Disassembly.Yaml.Node
import Disassembly.Platform.Standard
import Disassembly.Cache.File
import Disassembly.CommandLine.Arguments
import Disassembly.CommandLine.Logging
import Disassembly.CommandLine.Program
import Disassembly.Main
import Disassembly.Proofs.Text.Run
import Disassembly.Proofs.Text.Line
import Disassembly.Proofs.Text.Character
import Disassembly.Proofs.Text.Split
import Disassembly.Proofs.Text.Place
import Disassembly.Proofs.Text.Substitution
import Disassembly.Proofs.Text.Replacement
import Disassembly.Proofs.Text.RunMap
import Disassembly.Proofs.Numeral
import Disassembly.Proofs.Instruction.Operand
import Disassembly.Proofs.Instruction.Layout
import Disassembly.Proofs.Instruction.Line
import Disassembly.Proofs.Instruction.Matching
import Disassembly.Proofs.Instruction.Grammar
import Disassembly.Proofs.Listing.RoundTrip
import Disassembly.Proofs.Manual.History
import Disassembly.Proofs.Manual.Lookup
import Disassembly.Proofs.Manual.Additivity
import Disassembly.Proofs.Signature.Spacing
import Disassembly.Proofs.Signature.Qualifiers
import Disassembly.Proofs.Signature.TypeName
import Disassembly.Proofs.Signature.Score
import Disassembly.Proofs.Signature.Match
import Disassembly.Proofs.Signature.Erasure
import Disassembly.Proofs.Signature.Layout
import Disassembly.Proofs.Declaration.Syntax
import Disassembly.Proofs.Declaration.Reduction
import Disassembly.Proofs.Declaration.Annotation
import Disassembly.Proofs.Declaration.Canonical
import Disassembly.Proofs.Declaration.Reading
import Disassembly.Proofs.Declaration.Stretch
import Disassembly.Proofs.Declaration.Dimension
import Disassembly.Proofs.Declaration.Rendering
import Disassembly.Proofs.Declaration.Tolerance
import Disassembly.Proofs.Signature.Choice
import Disassembly.Proofs.Listing.Locality
import Disassembly.Proofs.Signature.Symmetry
import Disassembly.Proofs.Instruction.Margin
import Disassembly.Proofs.Listing.Insertion
import Disassembly.Proofs.Signature.Tiers
import Disassembly.Proofs.Disk.Path
import Disassembly.Proofs.Disk.Change
import Disassembly.Proofs.Text.Break
import Disassembly.Proofs.Manual.LocalCopy
import Disassembly.Proofs.Manual.Renewal
import Disassembly.Proofs.Manual.Titles
import Disassembly.Proofs.Yaml.Cursor
import Disassembly.Proofs.Yaml.Token
import Disassembly.Proofs.Yaml.Node
import Disassembly.Proofs.Cache.File
import Disassembly.Proofs.Cache.Search
import Disassembly.Proofs.CommandLine.Guard
import Disassembly.Proofs.CommandLine.Lookup
import Disassembly.Proofs.Signature.Overload
import Disassembly.Proofs.Signature.Respelling
import Disassembly.Proofs.Manual.Overlap
import Disassembly.Proofs.Manual.Success
import Disassembly.Proofs.Manual.Saving
import Disassembly.Proofs.Manual.FileLoading
import Disassembly.Proofs.Json.Quoting
import Disassembly.Proofs.Json.Layout
import Disassembly.Proofs.Listing.Json
import Disassembly.Proofs.Text.LineLayout
import Disassembly.Proofs.Signature.Naming
import Disassembly.Proofs.Signature.Bracketing
import Disassembly.Proofs.Signature.Shield
import Disassembly.Proofs.Manual.Walk
import Disassembly.Proofs.Manual.Enclosure
import Disassembly.Proofs.Numeral.Denotation
import Disassembly.Proofs.Instruction.Token
