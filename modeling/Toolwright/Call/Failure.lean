import Toolwright.Call.Redaction
import Toolwright.Call.Url

/-!
# Failures of requests

A request can fail before it is sent, because of its URL, or be answered with a status that means
failure. Either way the caller is told in a message without secrets.
-/

namespace Toolwright

/-- A failure of a request. -/
inductive RequestFailure where
  /-- No request can be made; the URL is known if it could be read. -/
  | unbuildable (url : Option Url)
  /-- The answer has a status from 400 to 599. -/
  | status (code : Nat) (url : Url)
  deriving Repr, Inhabited

namespace RequestFailure

/-- What a status that means failure is called. -/
def reasons : List (Nat × String) :=
  [(400, "Bad Request"), (401, "Unauthorized"), (402, "Payment Required"), (403, "Forbidden"),
    (404, "Not Found"), (405, "Method Not Allowed"), (406, "Not Acceptable"),
    (407, "Proxy Authentication Required"), (408, "Request Timeout"), (409, "Conflict"),
    (410, "Gone"), (411, "Length Required"), (412, "Precondition Failed"),
    (413, "Payload Too Large"), (414, "URI Too Long"), (415, "Unsupported Media Type"),
    (416, "Range Not Satisfiable"), (417, "Expectation Failed"), (418, "I'm a teapot"),
    (421, "Misdirected Request"), (422, "Unprocessable Entity"), (423, "Locked"),
    (424, "Failed Dependency"), (425, "Too Early"), (426, "Upgrade Required"),
    (428, "Precondition Required"), (429, "Too Many Requests"),
    (431, "Request Header Fields Too Large"), (451, "Unavailable For Legal Reasons"),
    (500, "Internal Server Error"), (501, "Not Implemented"), (502, "Bad Gateway"),
    (503, "Service Unavailable"), (504, "Gateway Timeout"), (505, "HTTP Version Not Supported"),
    (506, "Variant Also Negotiates"), (507, "Insufficient Storage"), (508, "Loop Detected"),
    (510, "Not Extended"), (511, "Network Authentication Required")]

/-- The name of a status. -/
def reason (code : Nat) : String :=
  (reasons.lookup code).getD "<unknown status code>"

/-- The failure of a request for a URL that is not sent: a URL needs a host. -/
def ofUrl? (text : String) : Option RequestFailure :=
  match Url.read? text with
  | none => some (.unbuildable none)
  | some url => if url.hasHost then none else some (.unbuildable (some url))

/-- The failure that a status means. -/
def ofStatus? (code : Nat) (url : Url) : Option RequestFailure :=
  if 400 ≤ code && code < 600 then some (.status code url) else none

/-- What is said about a failure before secrets are taken out. -/
def description : RequestFailure → String
  | unbuildable none => "Request failed: builder error"
  | unbuildable (some url) => "Request failed: builder error for url (" ++ url.text ++ ")"
  | status code url =>
    "HTTP status " ++ (if code < 500 then "client" else "server") ++ " error (" ++
      toString code ++ " " ++ reason code ++ ") for url (" ++ url.text ++ ")"

/-- What a caller is told about a failure. -/
def message (failure : RequestFailure) : String :=
  Redaction.sanitizeMessage failure.description

end RequestFailure

end Toolwright
