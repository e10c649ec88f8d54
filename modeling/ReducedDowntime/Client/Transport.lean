import ReducedDowntime.Client.Url
import ReducedDowntime.Failure

/-!
# Transport errors

A request can fail before any answer of the service is read:

* it cannot be built, because its address does not read as one, or names a scheme other
  than `http` and `https`, or has no host;
* no connection is made, or the request is dropped;
* the answer's body does not decode as the expected document;
* the answer has an error status (4xx or 5xx), when the caller asks for one.

Each is reported with its address where it has one. As an upgrade error, a failed
connection is a `Connection` error, a body that does not decode is a `Decode` error,
and everything else is an `Http` error; all name the component that sent the request.
-/

namespace ReducedDowntime.Client

/-- The reason phrase of an HTTP status code, for the codes that have one. -/
def reasonPhrase : Nat → Option String
  | 100 => some "Continue" | 101 => some "Switching Protocols" | 102 => some "Processing"
  | 103 => some "Early Hints"
  | 200 => some "OK" | 201 => some "Created" | 202 => some "Accepted"
  | 203 => some "Non Authoritative Information" | 204 => some "No Content"
  | 205 => some "Reset Content" | 206 => some "Partial Content" | 207 => some "Multi-Status"
  | 208 => some "Already Reported" | 226 => some "IM Used"
  | 300 => some "Multiple Choices" | 301 => some "Moved Permanently" | 302 => some "Found"
  | 303 => some "See Other" | 304 => some "Not Modified" | 305 => some "Use Proxy"
  | 307 => some "Temporary Redirect" | 308 => some "Permanent Redirect"
  | 400 => some "Bad Request" | 401 => some "Unauthorized" | 402 => some "Payment Required"
  | 403 => some "Forbidden" | 404 => some "Not Found" | 405 => some "Method Not Allowed"
  | 406 => some "Not Acceptable" | 407 => some "Proxy Authentication Required"
  | 408 => some "Request Timeout" | 409 => some "Conflict" | 410 => some "Gone"
  | 411 => some "Length Required" | 412 => some "Precondition Failed"
  | 413 => some "Payload Too Large" | 414 => some "URI Too Long"
  | 415 => some "Unsupported Media Type" | 416 => some "Range Not Satisfiable"
  | 417 => some "Expectation Failed" | 418 => some "I'm a teapot"
  | 421 => some "Misdirected Request" | 422 => some "Unprocessable Entity" | 423 => some "Locked"
  | 424 => some "Failed Dependency" | 425 => some "Too Early" | 426 => some "Upgrade Required"
  | 428 => some "Precondition Required" | 429 => some "Too Many Requests"
  | 431 => some "Request Header Fields Too Large" | 451 => some "Unavailable For Legal Reasons"
  | 500 => some "Internal Server Error" | 501 => some "Not Implemented" | 502 => some "Bad Gateway"
  | 503 => some "Service Unavailable" | 504 => some "Gateway Timeout"
  | 505 => some "HTTP Version Not Supported" | 506 => some "Variant Also Negotiates"
  | 507 => some "Insufficient Storage" | 508 => some "Loop Detected" | 510 => some "Not Extended"
  | 511 => some "Network Authentication Required"
  | _ => none

/-- Whether a status code is a client error. -/
def isClientError (code : Nat) : Bool := 400 ≤ code && code < 500

/-- Whether a status code is a server error. -/
def isServerError (code : Nat) : Bool := 500 ≤ code && code < 600

/-- Why a request got no usable answer. -/
inductive TransportError where
  /-- The request could not be built; the address is known when it reads as one. -/
  | builder (url : Option String)
  /-- No connection was made to the address. -/
  | connect (url : String)
  /-- The body of the answer does not decode. -/
  | decode
  /-- The answer has an error status. -/
  | status (code : Nat) (url : String)
  deriving DecidableEq, Repr, Inhabited

namespace TransportError

/-- The wording of a transport error. -/
def text : TransportError → String
  | .builder none => "builder error"
  | .builder (some url) => "builder error for url (" ++ url ++ ")"
  | .connect url => "error sending request for url (" ++ url ++ ")"
  | .decode => "error decoding response body"
  | .status code url =>
    (if isClientError code then "HTTP status client error (" else "HTTP status server error (") ++
      toString code ++ " " ++ (reasonPhrase code).getD "<unknown status code>" ++
      ") for url (" ++ url ++ ")"

/-- The upgrade error of a transport error of a component. -/
def toUpgradeError (component : String) (e : TransportError) : UpgradeError :=
  match e with
  | .connect _ => .connection component e.text
  | .decode => .decode component e.text
  | _ => .http component e.text

end TransportError

/-- The address a request goes to, or why it cannot be built. -/
def target (address : String) : Except TransportError Url :=
  match Url.parse address with
  | none => .error (.builder none)
  | some u =>
    if (u.scheme == "http" || u.scheme == "https") && u.hasAuthority && !u.host.isEmpty then .ok u
    else .error (.builder (some u.render))

end ReducedDowntime.Client
