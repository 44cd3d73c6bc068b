import Disassembly.Text.Basic

/-!
# The web

What comes back when a document is requested from a server: a response with a status and a body, or
a failure. Failures of the request itself are expected; any other breakdown is not.
-/

set_option autoImplicit false

namespace Disassembly

/-- A breakdown on the way to a server that is no failure of the request. -/
inductive Breakdown where
  | badValue
  | system
  | missingKey
  deriving DecidableEq

/-- What comes back from a request. -/
inductive Reply where
  | response (status : Int) (body : Text)
  | failure
  | breakdown (b : Breakdown)
  deriving DecidableEq

/-- The web answers every address. -/
abbrev Web := Text → Reply

namespace Web

/-- Whether a status says that the request was refused. -/
def isRefusal (status : Int) : Bool :=
  400 ≤ status && status < 600

/-- The web without servers. -/
def none : Web := fun _ => .failure

/-- The body of the document at an address: nothing if the request failed or was refused. -/
def fetch (w : Web) (address : Text) : Except Breakdown (Option Text) :=
  match w address with
  | .response status body => .ok (if isRefusal status then .none else some body)
  | .failure => .ok .none
  | .breakdown b => .error b

end Web

end Disassembly
