import Conveyance.Storage.Url
import Conveyance.Text.Numeral

/-!
# Storage/Http — requests to a remote store and its replies

What is sent to a remote store and what comes back.  A reply's `status` counts as success in the two
hundreds; **its words are the registered ones, or a note that there are none**.  A reply that only
announces another one answers nothing.
-/

namespace Conveyance

/-- Why no reply came back. -/
inductive HttpFault where
  /-- The request could not be put together; an address that cannot be sent is named. -/
  | unbuilt (url : Option Url.Address)
  /-- The request was sent to an address and nothing came back. -/
  | unanswered (url : Url.Address)
  deriving DecidableEq, Repr

/-- The fault in words. -/
def HttpFault.message (f : HttpFault) : Text :=
  let at? : Option Url.Address → Text
    | some url => " for url (".toList ++ url.text ++ [')']
    | none => []
  match f with
  | .unbuilt url => "builder error".toList ++ at? url
  | .unanswered url => "error sending request".toList ++ at? (some url)

/-- What is sent to a remote store. -/
structure HttpRequest where
  method : String
  url : Url.Address
  headers : List (String × Text)
  body : List UInt8
  deriving DecidableEq, Repr

/-- The text can be the value of a header: it holds no controls but tabs. -/
def HttpRequest.isHeaderValue (t : Text) : Bool :=
  t.all fun c => c == '\t' || (32 ≤ c.toNat && c.toNat != 127)

/-- **A request put together**, unless its values are no values of headers or its address cannot be
sent. -/
def HttpRequest.build (method : String) (url? : Option Url.Address) (headers : List (String × Text))
    (body : List UInt8) : Except HttpFault HttpRequest :=
  match url? with
  | none => .error (.unbuilt none)
  | some url =>
    if !headers.all (HttpRequest.isHeaderValue ·.2) then .error (.unbuilt none)
    else if !url.isSendable then .error (.unbuilt (some url))
    else .ok { method, url, headers, body }

/-- What comes back. -/
structure HttpReply where
  status : Nat
  body : Text
  deriving DecidableEq, Repr

namespace HttpReply

/-- The registered words for a status. -/
def reasons : List (Nat × String) :=
  [(100, "Continue"), (101, "Switching Protocols"), (102, "Processing"), (200, "OK"),
    (201, "Created"), (202, "Accepted"), (203, "Non Authoritative Information"),
    (204, "No Content"), (205, "Reset Content"), (206, "Partial Content"), (207, "Multi-Status"),
    (208, "Already Reported"), (226, "IM Used"), (300, "Multiple Choices"),
    (301, "Moved Permanently"), (302, "Found"), (303, "See Other"), (304, "Not Modified"),
    (305, "Use Proxy"), (307, "Temporary Redirect"), (308, "Permanent Redirect"),
    (400, "Bad Request"), (401, "Unauthorized"), (402, "Payment Required"), (403, "Forbidden"),
    (404, "Not Found"), (405, "Method Not Allowed"), (406, "Not Acceptable"),
    (407, "Proxy Authentication Required"), (408, "Request Timeout"), (409, "Conflict"),
    (410, "Gone"), (411, "Length Required"), (412, "Precondition Failed"),
    (413, "Payload Too Large"), (414, "URI Too Long"), (415, "Unsupported Media Type"),
    (416, "Range Not Satisfiable"), (417, "Expectation Failed"), (418, "I'm a teapot"),
    (421, "Misdirected Request"), (422, "Unprocessable Entity"), (423, "Locked"),
    (424, "Failed Dependency"), (425, "Too Early"), (426, "Upgrade Required"),
    (428, "Precondition Required"), (429, "Too Many Requests"),
    (431, "Request Header Fields Too Large"), (451, "Unavailable For Legal Reasons"),
    (500, "Internal Server Error"), (501, "Not Implemented"), (502, "Bad Gateway"),
    (503, "Service Unavailable"), (504, "Gateway Timeout"), (505, "HTTP Version Not Supported"),
    (506, "Variant Also Negotiates"), (507, "Insufficient Storage"), (508, "Loop Detected"),
    (510, "Not Extended"), (511, "Network Authentication Required")]

/-- The reply reports success. -/
def isSuccess (r : HttpReply) : Bool := 200 ≤ r.status && r.status < 300

/-- A status in digits and words. -/
def statusText (r : HttpReply) : Text :=
  Text.ofNat r.status ++ ' ' ::
    (match reasons.find? (·.1 = r.status) with
      | some (_, words) => words.toList
      | none => "<unknown status code>".toList)

/-- The statuses whose replies have no text. -/
def textless : List Nat := [101, 204, 304]

/-- The text of a reply. -/
def text (r : HttpReply) : Text := if textless.contains r.status then [] else r.body

/-- **The reply is an answer**: its status has three digits and does not only announce another reply. -/
def isAnswer (r : HttpReply) : Bool := r.status = 101 || (200 ≤ r.status && r.status < 1000)

end HttpReply

/-- **What a request comes to**, given what came back. -/
def HttpRequest.outcome (r : HttpRequest) : Option HttpReply → Except HttpFault HttpReply
  | some reply => if reply.isAnswer then .ok reply else .error (.unanswered r.url)
  | none => .error (.unanswered r.url)

end Conveyance
