import ShotRecorder.Http.Message
import ShotRecorder.Text.Digits

/-!
# Locations

Where requests go to, as a whole address. Its host is the one that the request names, or that of
the server where the request names none, or one that cannot be a host. In an address that is sent,
characters that have no place there are given by the bytes of their encoding.
-/

namespace ShotRecorder.Http

/-! ### Hosts -/

/-- The host of the server. -/
def serverHost : String := "oracle"

/-- An ASCII letter or digit. -/
def isAlphanumeric (c : Char) : Bool :=
  Digits.isDigit c || ('a' ≤ c && c ≤ 'z') || ('A' ≤ c && c ≤ 'Z')

/-- A character of a host's name. -/
def isHostChar (c : Char) : Bool := isAlphanumeric c || "-._~!$&'()*+,;=%".toList.contains c

/-- A character of a host's number in brackets. -/
def isHostDigit (c : Char) : Bool := (Digits.hexValue? c).isSome || c = ':' || c = '.'

/-- Nothing, or a colon and digits. -/
def isNumberPart : List Char → Bool
  | [] => true
  | ':' :: ds => !ds.isEmpty && ds.all Digits.isDigit
  | _ => false

/-- Whether a text is a host, with or without a number behind it. -/
def isHost (host : String) : Bool :=
  match host.toList with
  | '[' :: rest =>
    match rest.takeWhile isHostDigit, rest.dropWhile isHostDigit with
    | _ :: _, ']' :: behind => isNumberPart behind
    | _, _ => false
  | cs => !(cs.takeWhile isHostChar).isEmpty && isNumberPart (cs.dropWhile isHostChar)

/-- The host that a request goes to. -/
def Request.host (request : Request) : String :=
  match request.headers.lookup "host" with
  | some host => if isHost host then host else serverHost
  | none => serverHost

/-! ### Addresses -/

/-- A character that stands for itself in an address that is sent. -/
def isSent (c : Char) : Bool :=
  isAlphanumeric c || "_.-~:/%#?=@[]!$&'()*+,;".toList.contains c

/-- A hexadecimal digit in upper case. -/
def hexDigit (n : Nat) : Char :=
  if n < 10 then Digits.digit n else Char.ofNat ('A'.toNat + (n - 10))

/-- A byte as it is given in an address. -/
def sentByte (b : UInt8) : List Char := ['%', hexDigit (b.toNat / 16), hexDigit (b.toNat % 16)]

/-- A character in an address. -/
def sentChar (c : Char) : List Char :=
  if isSent c then [c] else (String.singleton c).toUTF8.toList.flatMap sentByte

/-- An address as it is sent. -/
def sent (address : String) : String := String.ofList (address.toList.flatMap sentChar)

/-- The address of a path on the host of a request, with the query of the request. -/
def Request.address (request : Request) (path : String) : String :=
  let query := if request.query.isEmpty then "" else "?" ++ request.query
  "http://" ++ request.host ++ path ++ query

/-- The path of a request as its address shows it: without line ends and tabs, and up to a
fragment. -/
def Request.shownPath (request : Request) : String :=
  let cs := request.path.toList.filter fun c => c != '\n' && c != '\r' && c != '\t'
  String.ofList (cs.takeWhile (· != '#'))

end ShotRecorder.Http
