import Disassembly.Disk.Basic
import Disassembly.Notice
import Disassembly.Web

/-!
# The local copy of the manual

The chapter of the manual and its style sheet are fetched from the web and kept in a directory, and
a store of descriptions is filled from there.

Nothing is written unless both documents were fetched and neither is empty. The documents are then
written one after the other; where that fails, what was written before stays, and a document whose
writing broke off is cut short.
-/

set_option autoImplicit false

namespace Disassembly.Manual

/-- Why a store cannot be filled. -/
inductive LoadError where
  | unreadable (e : Disk.ReadError)
  | overlongReference (e : Html.OverlongReference)
  deriving DecidableEq

/-- What filling a store from a file comes to. -/
structure FileLoading where
  result : Except LoadError Nat
  store : Store
  notices : List Notice

/-- The store in which a document has been loaded, with the notices of that. A document with a title
that cannot be read leaves the store as it is. -/
def Store.loadDocument (s : Store) (document : Text) : FileLoading :=
  match s.load document with
  | .error e => ⟨.error (.overlongReference e), s, []⟩
  | .ok loading => ⟨.ok loading.count, loading.store, loading.events.map .manualLoading⟩

/-- The store in which the document in a file has been loaded. A file that the file system does not
give leaves the store as it is; a file that is no text is an error. -/
def Store.loadFile (s : Store) (d : Disk) (path : Text) : FileLoading :=
  match d.readText path with
  | .ok document => s.loadDocument document
  | .error e =>
    if e.isSystem then ⟨.ok 0, s, [.manualUnreadable path]⟩ else ⟨.error (.unreadable e), s, []⟩

/-- Where the manual is kept, where it is fetched from, and how many seconds a server has to
answer. -/
structure LocalCopy where
  directory : Disk.Path
  htmlAddress : Text
  cssAddress : Text
  timeout : Int

/-- A request to the web, with the seconds that the server has to answer. -/
structure Request where
  address : Text
  timeout : Int
  deriving DecidableEq

/-- Why the local copy cannot be renewed, apart from failures that are only reported. -/
inductive FetchError where
  | breakdown (b : Breakdown)
  | access (e : Disk.AccessError)
  deriving DecidableEq

/-- What fetching the manual comes to. -/
structure Fetching where
  result : Except FetchError Bool
  disk : Disk
  requests : List Request
  notices : List Notice

namespace LocalCopy

/-- Where the chapter is fetched from unless another address is given. -/
def defaultHtmlAddress : Text :=
  "http://docs.oracle.com/javase/specs/jvms/se7/html/jvms-6.html".toList

/-- Where the style sheet is fetched from unless another address is given. -/
def defaultCssAddress : Text :=
  "http://docs.oracle.com/javase/specs/javaspec.css".toList

/-- The seconds that a server has to answer unless another number is given. -/
def defaultTimeout : Int := 10

/-- The path of the chapter. -/
def htmlPath (c : LocalCopy) : Disk.Path :=
  c.directory.child "JVMS.html".toList

/-- The path of the style sheet. -/
def cssPath (c : LocalCopy) : Disk.Path :=
  c.directory.child "JVMS.css".toList

/-- The request for a document. -/
def request (c : LocalCopy) (address : Text) : Request :=
  ⟨address, c.timeout⟩

/-- The text of the document at an address, which is empty if the request failed, and the notice of
a failure. -/
def fetchText (w : Web) (address : Text) : Except Breakdown Text × List Notice :=
  match w.fetch address with
  | .error b => (.error b, [])
  | .ok none => (.ok [], [.requestFailed address])
  | .ok (some body) => (.ok body, [])

/-- What making the directory comes to, and all directories above it. -/
def makeDirectory (c : LocalCopy) (d : Disk) : Disk.Change :=
  d.makeDirectories c.directory.root c.directory.names.reverse

/-- What writing both documents into the directory comes to. -/
def writeBoth (c : LocalCopy) (d : Disk) (html css : Text) : Disk.Change :=
  (d.write c.htmlPath.print html).andThen fun e => e.write c.cssPath.print css

/-- What saving both documents comes to. -/
def save (c : LocalCopy) (d : Disk) (html css : Text) : Disk.Change :=
  (c.makeDirectory d).andThen fun e => c.writeBoth e html css

/-- Both documents fetched and written, each from the web as it is when the document is requested.
The result is whether both were. -/
def fetchFrom (c : LocalCopy) (atHtml atCss : Web) (d : Disk) : Fetching :=
  let first := fetchText atHtml c.htmlAddress
  match first.1 with
  | .error b => ⟨.error (.breakdown b), d, [c.request c.htmlAddress], first.2⟩
  | .ok html =>
    let second := fetchText atCss c.cssAddress
    let requests := [c.request c.htmlAddress, c.request c.cssAddress]
    let notices := first.2 ++ second.2
    match second.1 with
    | .error b => ⟨.error (.breakdown b), d, requests, notices⟩
    | .ok css =>
      if html.isEmpty || css.isEmpty then
        ⟨.ok false, d, requests, notices ++ [.downloadIncomplete html.length css.length]⟩
      else
        let change := c.save d html css
        match change.error? with
        | none =>
          ⟨.ok true, change.disk, requests,
            notices ++ [.manualSaved c.htmlPath.print html.length]⟩
        | some e =>
          if e.isSystem then
            ⟨.ok false, change.disk, requests, notices ++ [.saveFailed c.directory.print]⟩
          else ⟨.error (.access e), change.disk, requests, notices⟩

/-- Both documents fetched and written while the web stays as it is. -/
def fetch (c : LocalCopy) (w : Web) (d : Disk) : Fetching :=
  c.fetchFrom w w d

/-- Whether the chapter is there. -/
def present (c : LocalCopy) (d : Disk) : Except Disk.AccessError Bool :=
  d.checkContains c.htmlPath.print

/-- The identifier of the style sheet, if it is there. -/
def cssUri? (c : LocalCopy) (d : Disk) : Except Disk.AccessError (Option Text) := do
  if ← d.checkContains c.cssPath.print then
    return some (Disk.fileUri (← d.locate c.cssPath.print))
  else return none

/-- The store in which the local chapter has been loaded, if it is there. -/
def loadInto (c : LocalCopy) (d : Disk) (s : Store) : FileLoading :=
  match c.present d with
  | .error e => ⟨.error (.unreadable (.access e)), s, []⟩
  | .ok false => ⟨.ok 0, s, [.noLocalManual c.htmlPath.print]⟩
  | .ok true => s.loadFile d c.htmlPath.print

end LocalCopy

end Disassembly.Manual
