import TaintGrep.Text.Basic
import TaintGrep.Text.Utf8

/-!
A saved HTTP response: its address, a number, a content type and the raw body. A content type is worth
grepping by how it begins; parameters, ASCII case and surrounding blanks do not count.
-/

namespace TaintGrep.ContentType

open TaintGrep.Text

def mediaType (s : String) : String :=
  asciiLower (trim (String.ofList (s.toList.takeWhile (· ≠ ';'))))

def textual : List String :=
  ["text/", "application/xhtml+xml", "application/xml", "application/javascript",
   "application/x-javascript", "application/json"]

def isTextual (s : String) : Bool :=
  textual.any fun t => t.toList.isPrefixOf (mediaType s).toList

end TaintGrep.ContentType

namespace TaintGrep

open TaintGrep.Text

structure Response where
  url : String
  id : Nat
  contentType : Option String
  body : List UInt8
  deriving DecidableEq, Repr

structure DecodeError where
  url : String
  fault : Utf8.Fault
  deriving DecidableEq, Repr

def DecodeError.message (e : DecodeError) : String :=
  "Response body of '" ++ e.url ++ "' is not valid UTF-8: " ++ e.fault.message

namespace Response

def html (url : String) (id : Nat) (body : String) : Response :=
  ⟨url, id, some "text/html; charset=utf-8", Utf8.encode body⟩

def isTextual (r : Response) : Bool :=
  r.contentType.any ContentType.isTextual

def text (r : Response) : Except DecodeError String :=
  match Utf8.decode r.body with
  | .ok cs => .ok (String.ofList cs)
  | .error fault => .error ⟨r.url, fault⟩

/-- The text of the page, if the response is worth grepping and can be decoded. -/
def shown? (r : Response) : Option String :=
  if r.isTextual then r.text.toOption else none

theorem shown?_eq_some_iff {r : Response} {body : String} :
    r.shown? = some body ↔ r.isTextual = true ∧ r.text = .ok body := by
  rw [shown?]
  cases r.isTextual <;> cases r.text <;> simp [Except.toOption]

end Response

end TaintGrep
