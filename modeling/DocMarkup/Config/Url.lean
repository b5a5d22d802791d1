import DocMarkup.Config.HostAddress
import DocMarkup.Text.Quoted

/-!
The scheme and the authority of an address. A host between brackets has to be a numeric address.
-/

namespace DocMarkup

structure UrlParts where
  scheme : String
  authority : String
  deriving DecidableEq

inductive UrlError where
  /-- One bracket of a numeric host without the other, or text beside the brackets. -/
  | badBrackets
  /-- The text between brackets is no address. -/
  | noAddress (host : String)
  /-- The address between brackets is written with four numbers, which takes no brackets. -/
  | needlessBrackets
  /-- The address between brackets claims a later version and is not written like one. -/
  | badVersion
  /-- A character in the authority that stands for a delimiter. -/
  | hiddenDelimiter (authority : String)
  deriving DecidableEq

def UrlError.message : UrlError → String
  | .badBrackets => "Invalid IPv6 URL"
  | .noAddress host => Text.quoted host ++ " does not appear to be an IPv4 or IPv6 address"
  | .needlessBrackets => "An IPv4 address cannot be in brackets"
  | .badVersion => "IPvFuture address is invalid"
  | .hiddenDelimiter authority =>
    "netloc '" ++ authority ++ "' contains invalid characters under NFKC normalization"

namespace Url

def isSchemeChar (c : Char) : Bool :=
  c.isAlphanum || c == '+' || c == '-' || c == '.'

/-- The characters whose compatibility form has a delimiter in it. -/
def hiddenDelimiters : List Nat :=
  [0x2047, 0x2048, 0x2049, 0x2100, 0x2101, 0x2105, 0x2106, 0x2A74, 0xFE13, 0xFE16, 0xFE55, 0xFE56,
    0xFE5F, 0xFE6B, 0xFF03, 0xFF0F, 0xFF1A, 0xFF1F, 0xFF20]

/-- The scheme of an address and what follows it. Text before a colon that is no scheme belongs to
the rest. -/
def splitScheme (url : List Char) : List Char × List Char :=
  match url.takeWhile (· != ':'), url.dropWhile (· != ':') with
  | c :: cs, _ :: rest =>
    if c.isAlpha && (c :: cs).all isSchemeChar then ((c :: cs).map Char.toLower, rest)
    else ([], url)
  | _, _ => ([], url)

/-- The authority, which two slashes introduce. -/
def authorityOf : List Char → List Char
  | '/' :: '/' :: cs => cs.takeWhile fun c => c != '/' && c != '?' && c != '#'
  | _ => []

/-! ## Brackets -/

/-- The host between brackets: nothing stands before it but a user, and nothing after it but a
port. -/
def bracketedHost (authority : List Char) : Except UrlError (List Char) :=
  let host := (authority.reverse.takeWhile (· != '@')).reverse
  match host.takeWhile (· != '['), host.dropWhile (· != '[') with
  | [], _ :: inner =>
    match (inner.dropWhile (· != ']')).drop 1 with
    | [] => .ok (inner.takeWhile (· != ']'))
    | ':' :: _ => .ok (inner.takeWhile (· != ']'))
    | _ => .error .badBrackets
  | _, _ :: _ => .error .badBrackets
  | _, [] => .ok (host.takeWhile (· != ':'))

def checkHost (host : List Char) : Except UrlError Unit :=
  if host.head? == some 'v' then
    if HostAddress.isVersioned host then .ok () else .error .badVersion
  else if HostAddress.isFourNumbers host then .error .needlessBrackets
  else if HostAddress.isEightGroups host then .ok ()
  else .error (.noAddress (String.ofList host))

/-- Brackets come in pairs and enclose a numeric address. -/
def checkBrackets (authority : List Char) : Except UrlError Unit :=
  match authority.contains '[', authority.contains ']' with
  | false, false => .ok ()
  | true, true => bracketedHost authority >>= checkHost
  | _, _ => .error .badBrackets

/-! ## Splitting -/

/-- A character that does not count at the beginning of an address. -/
def isPadding (c : Char) : Bool := c.toNat ≤ 0x20

/-- The text of an address that counts: control characters and spaces in front do not, and neither
do tabs and line ends. -/
def significant (url : String) : List Char :=
  (url.toList.dropWhile isPadding).filter fun c => c != '\t' && c != '\r' && c != '\n'

def split (url : String) : Except UrlError UrlParts := do
  let (scheme, rest) := splitScheme (significant url)
  let authority := authorityOf rest
  checkBrackets authority
  if authority.any (hiddenDelimiters.contains ·.toNat) then
    .error (.hiddenDelimiter (String.ofList authority))
  else .ok ⟨String.ofList scheme, String.ofList authority⟩

end Url

end DocMarkup
