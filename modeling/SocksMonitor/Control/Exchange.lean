import SocksMonitor.Agent.Records
import SocksMonitor.Text.Split

/-!
# Requests and responses

The messages of the HTTP control plane, without their transport. A response has a JSON record or a
plain text as its content; the answer to a HEAD request announces its content and leaves it out.
-/

namespace SocksMonitor.Control

/-! ## Requests -/

structure Request where
  method : String
  /-- The request target: a path, or a whole URL. -/
  target : String
  body : Bytes := []

/-- The part of a target in front of its query and fragment. -/
def beforeQuery (cs : List Char) : List Char := cs.takeWhile fun c => c != '?' && c != '#'

/-- What follows a scheme and `://`, if a text begins with them. -/
def afterScheme? : List Char → Option (List Char)
  | ':' :: '/' :: '/' :: rest => some rest
  | c :: rest => if c = '/' then none else afterScheme? rest
  | [] => none

/-- The path that a target leads to: no query, no fragment, and of a URL neither scheme nor host. It
is taken as it is written, without decoding or normalising. -/
def targetPath (target : String) : String :=
  let path := beforeQuery target.toList
  match afterScheme? path with
  | some rest => String.ofList (rest.dropWhile (· != '/'))
  | none => String.ofList path

def Request.path (r : Request) : String := targetPath r.target

/-! ## Responses -/

inductive Status where
  | ok
  | badRequest
  | notFound
  | methodNotAllowed
  | contentTooLarge
  | notImplemented
  | badGateway
deriving Repr, DecidableEq

namespace Status

def code : Status → Nat
  | ok => 200
  | badRequest => 400
  | notFound => 404
  | methodNotAllowed => 405
  | contentTooLarge => 413
  | notImplemented => 501
  | badGateway => 502

def isFailure (s : Status) : Bool := 400 ≤ s.code

theorem isFailure_iff {s : Status} : s.isFailure = true ↔ s ≠ .ok := by
  cases s <;> decide

end Status

inductive Content where
  | record (value : Json)
  | text (text : String)

namespace Content

def mediaType : Content → String
  | record _ => "application/json"
  | text _ => "text/plain; charset=utf-8"

def bytes : Content → Bytes
  | record value => value.print
  | text s => Text.utf8 s

end Content

structure Response where
  status : Status
  content : Content
  /-- The methods that the route takes, if the request had another. -/
  allow : Option String := none
  /-- Whether the content is only announced. -/
  headOnly : Bool := false

namespace Response

/-- The body as it is sent. -/
def body (r : Response) : Bytes := if r.headOnly then [] else r.content.bytes

def success (value : Json) : Response := { status := .ok, content := .record value }

/-- A failure with its text, at a time. -/
def failure (status : Status) (now : Time.Timestamp) (text : String) : Response :=
  { status, content := .record (Agent.ErrorReport.toJson ⟨text, now⟩) }

end Response

end SocksMonitor.Control
