/-
# HTTP messages

Requests for documents and the responses to them, as far as this library makes
and reads them.

Key definitions: `Status.reason?`, `Status.text`, `Request`, `Response`.
-/
import Halyard.Text.Url

namespace Halyard.Http

open Text

namespace Status

/-- The status codes with the reasons that they stand for. -/
def reasons : List (Nat × String) :=
  [(100, "Continue"), (101, "Switching Protocols"), (102, "Processing"), (200, "OK"),
    (201, "Created"), (202, "Accepted"), (203, "Non Authoritative Information"),
    (204, "No Content"), (205, "Reset Content"), (206, "Partial Content"), (207, "Multi-Status"),
    (208, "Already Reported"), (226, "IM Used"), (300, "Multiple Choices"),
    (301, "Moved Permanently"), (302, "Found"), (303, "See Other"), (304, "Not Modified"),
    (305, "Use Proxy"), (307, "Temporary Redirect"), (308, "Permanent Redirect"),
    (400, "Bad Request"), (401, "Unauthorized"), (402, "Payment Required"), (403, "Forbidden"),
    (404, "Not Found"), (405, "Method Not Allowed"), (406, "Not Acceptable"),
    (407, "Proxy Authentication Required"), (408, "Request Timeout"), (409, "Conflict"),
    (410, "Gone"), (411, "Length Required"), (412, "Precondition Failed"),
    (413, "Payload Too Large"), (414, "URI Too Long"), (415, "Unsupported Media Type"),
    (416, "Range Not Satisfiable"), (417, "Expectation Failed"), (418, "I'm a teapot"),
    (421, "Misdirected Request"), (422, "Unprocessable Entity"), (423, "Locked"),
    (424, "Failed Dependency"), (426, "Upgrade Required"), (428, "Precondition Required"),
    (429, "Too Many Requests"), (431, "Request Header Fields Too Large"),
    (451, "Unavailable For Legal Reasons"), (500, "Internal Server Error"),
    (501, "Not Implemented"), (502, "Bad Gateway"), (503, "Service Unavailable"),
    (504, "Gateway Timeout"), (505, "HTTP Version Not Supported"),
    (506, "Variant Also Negotiates"), (507, "Insufficient Storage"), (508, "Loop Detected"),
    (510, "Not Extended"), (511, "Network Authentication Required")]

/-- The reason that a status code stands for. -/
def reason? (code : Nat) : Option String :=
  (reasons.find? fun r => r.1 = code).map (·.2)

/-- A status code with its reason. -/
def text (code : Nat) : String :=
  toString code ++ " " ++ (reason? code).getD "<unknown status code>"

/-- Whether the request was fulfilled. -/
def isSuccess (code : Nat) : Bool :=
  200 ≤ code && code < 300

/-- Whether the server failed. -/
def isServerError (code : Nat) : Bool :=
  500 ≤ code && code < 600

/-- Whether the same request may be answered otherwise later. -/
def isRetriable (code : Nat) : Bool :=
  code = 408 || code = 429 || isServerError code

end Status

/-- A request for a document, with the headers that say something about it. -/
structure Request where
  url : Url
  authorization : Option String
  cacheControl : Option String
  sdkVersion : Option String
  accept : String
deriving DecidableEq

/-- A response. -/
structure Response where
  status : Nat
  body : List UInt8
deriving DecidableEq

namespace Request

/-- The request line without the version of the protocol. -/
def line (r : Request) : String :=
  "GET " ++ r.url.target

/-- Whether a header may have the value. -/
def isHeaderValue (s : String) : Bool :=
  s.toList.all fun c => c = '\t' || (0x20 ≤ c.toNat && c.toNat ≠ 0x7F)

/-- Whether the request can be sent at all: its URL is one of the web and its headers
hold no control characters. -/
def isSendable (r : Request) : Bool :=
  (r.url.scheme = "http".toList || r.url.scheme = "https".toList) && r.url.authority.isSome &&
    (r.authorization.toList ++ r.cacheControl.toList ++ r.sdkVersion.toList).all isHeaderValue

end Request

end Halyard.Http
