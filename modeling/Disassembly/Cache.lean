import Disassembly.Listing
import Disassembly.Signature.Match

/-!
# Caches of listings

A cache holds the listings of the methods of a class, each under the signature with which the class
declares its method. `Cache.find` looks a method up by a signature that need not be written the same
way: a signature that is a key of the cache is found at once, any other by the best match.
-/

set_option autoImplicit false

namespace Disassembly

/-- Texts of listings under signatures, each signature once, in the order of their arrival. -/
structure Cache where
  entries : List (Text × Text)

namespace Cache

/-- The signatures under which listings are stored. -/
def signatures (c : Cache) : List Text :=
  c.entries.map Prod.fst

/-- The text stored under exactly the given signature. -/
def get? (c : Cache) (signature : Text) : Option Text :=
  c.entries.lookup signature

/-- An entry of a cache that was found for a method. -/
structure Entry where
  signature : Text
  listing : Text
  deriving DecidableEq

/-- The outcome of a search: the match of signatures, where one was needed, and the entry. -/
structure Found where
  matching : Option Signature.MatchResult
  entry : Option Entry

/-- The search for the entry of a method. -/
def find (c : Cache) (signature : Text) : Except MalformedType Found :=
  match c.get? signature with
  | some listing => .ok ⟨none, some ⟨signature, listing⟩⟩
  | none => do
    let matching ← Signature.search signature c.signatures
    let entry := (matching.candidate? signature).bind fun key =>
      (c.get? key).map fun listing => ⟨key, listing⟩
    return ⟨some matching, entry⟩

/-- The text of a method's listing. -/
def listingText? (c : Cache) (signature : Text) : Except MalformedType (Option Text) :=
  return (← c.find signature).entry.map Entry.listing

/-- Why the listing of a method cannot be read. -/
inductive ReadError where
  | malformedType (e : MalformedType)
  | overlongOffset (e : OverlongOffset)

/-- The listing of a method, which is empty if there is no entry for it. -/
def listing (c : Cache) (signature : Text) : Except ReadError Listing :=
  match c.listingText? signature with
  | .error e => .error (.malformedType e)
  | .ok none => .ok .empty
  | .ok (some t) => (Listing.read t).mapError .overlongOffset

end Cache

end Disassembly
