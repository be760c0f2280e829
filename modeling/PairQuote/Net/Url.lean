import PairQuote.Idna.Domain
import PairQuote.Net.IpAddress
import PairQuote.Text.Percent

/-! # Absolute URLs

Whether a text is an absolute URL, and if not, why.  Blanks and controls at both ends, and
tabs and line ends anywhere, do not count.  A URL starts with a **scheme**; without one it
would be relative.  What can be wrong after the scheme is the **authority**: who, which
host, which port.  Paths, queries and fragments are never wrong.

The web's own schemes — and only they — always have an authority, behind any number of
slashes in either direction, and their hosts are domains or addresses.  Other schemes have
one only behind two slashes, and their hosts are opaque.

Domains are percent-encoded international names.  One whose last label is a number must be
an address of version 4.
-/
namespace PairQuote

/-- Why a text is not an absolute URL. -/
inductive UrlError where
  | relative
  | emptyHost
  | invalidDomain
  | invalidHostCharacter
  | invalidIpv4
  | invalidIpv6
  | invalidPort
  deriving DecidableEq, Repr

/-- The text of an error. -/
def UrlError.message : UrlError → String
  | relative => "relative URL without a base"
  | emptyHost => "empty host"
  | invalidDomain => "invalid international domain name"
  | invalidHostCharacter => "invalid domain character"
  | invalidIpv4 => "invalid IPv4 address"
  | invalidIpv6 => "invalid IPv6 address"
  | invalidPort => "invalid port number"

namespace Url

/-- The kinds of schemes. -/
inductive SchemeKind where
  | file
  | web
  | other
  deriving DecidableEq, Repr

/-- The kind of a scheme. -/
def SchemeKind.ofScheme (scheme : String) : SchemeKind :=
  if scheme = "file" then .file
  else if ["http", "https", "ws", "wss", "ftp"].contains scheme then .web
  else .other

/-- Whether a character is dropped at the ends of a URL. -/
def isEdge (c : Char) : Bool := c.toNat ≤ 0x20

/-- The characters of a text that count. -/
def significant (text : String) : List Char :=
  let row := text.toList.dropWhile isEdge
  ((row.reverse.dropWhile isEdge).reverse).filter fun c => c ≠ '\t' ∧ c ≠ '\n' ∧ c ≠ '\r'

/-- Whether a character can stand in a scheme after its first letter. -/
def isSchemeChar (c : Char) : Bool := c.isAlphanum || c == '+' || c == '-' || c == '.'

/-- The scheme, in lower case, and what follows its colon. -/
def cutScheme (row : List Char) : Option (String × List Char) :=
  let scheme := row.takeWhile isSchemeChar
  match row.drop scheme.length with
  | ':' :: rest =>
    if scheme.head?.any (·.isAlpha) then some (String.ofList (Text.lower scheme), rest) else none
  | _ => none

/-- Whether a character separates the parts of a URL. -/
def isSlash (c : Char) : Bool := c == '/' || c == '\\'

/-- Whether a character ends the authority. -/
def endsAuthority (web : Bool) (c : Char) : Bool :=
  c == '/' || c == '?' || c == '#' || (web && c == '\\')

/-! ### Hosts -/

/-- Whether a character is forbidden in every domain. -/
def isForbiddenInDomain (c : Char) : Bool :=
  c.toNat ≤ 0x20 || c.toNat == 0x7F || "%#/:<>?@[\\]^|".toList.contains c ||
    c == Text.replacement

/-- Whether a character is forbidden in an opaque host. -/
def isForbiddenInHost (c : Char) : Bool :=
  c.toNat == 0 || " #/:<>?@[\\]^|".toList.contains c

/-- One part of an address of version 4 in a URL: octal behind a zero, hexadecimal behind
`0x`. -/
def ipv4Part? (part : List Char) : Option Nat :=
  match part with
  | [] => none
  | '0' :: 'x' :: row => Text.valueOf? 16 row
  | '0' :: 'X' :: row => Text.valueOf? 16 row
  | '0' :: d :: row => Text.valueOf? 8 (d :: row)
  | row => Text.valueOf? 10 row

/-- The labels of a domain without an empty one at the end. -/
def withoutRoot (labels : List (List Char)) : List (List Char) :=
  if labels.getLast? = some [] then labels.dropLast else labels

/-- Whether a domain ends in a number, so that it has to be an address. -/
def endsInNumber (labels : List (List Char)) : Bool :=
  match labels.getLast? with
  | some last =>
    (!last.isEmpty && last.all (·.isDigit)) || (ipv4Part? last).isSome
  | none => false

/-- Whether parts make up an address of version 4: all but the last are bytes, and the
last fills what is left. -/
def isIpv4 (parts : List (List Char)) : Bool :=
  match parts.mapM ipv4Part? with
  | some numbers =>
    let front := numbers.dropLast
    decide (parts.length ≤ 4) && front.all (· ≤ 255) &&
      decide (numbers.getLastD 0 < Nat.pow 256 (4 - front.length))
  | none => false

/-- Checks an address of version 6 in brackets; the opening one has been read. -/
def checkBracketed (row : List Char) : Except UrlError Unit :=
  if row.getLast? = some ']' ∧ (IpAddress.groupsOf? row.dropLast).isSome then .ok ()
  else .error .invalidIpv6

/-- Checks the host of a web URL. -/
def checkDomain (host : List Char) : Except UrlError Unit :=
  match host with
  | [] => .error .emptyHost
  | '[' :: row => checkBracketed row
  | _ =>
    match Idna.labels? isForbiddenInDomain (Text.ofPercent host) with
    | none => .error .invalidDomain
    | some labels =>
      if labels = [[]] then .error .emptyHost
      else
        let labels := withoutRoot labels
        if endsInNumber labels ∧ !isIpv4 labels then .error .invalidIpv4 else .ok ()

/-- Checks an opaque host. -/
def checkOpaque (host : List Char) : Except UrlError Unit :=
  match host with
  | '[' :: row => checkBracketed row
  | _ => if host.any isForbiddenInHost then .error .invalidHostCharacter else .ok ()

/-! ### Authorities -/

/-- The host at the start of a row: up to a colon outside brackets, or the end of the
authority. -/
def hostOf (web : Bool) : (inBrackets : Bool) → List Char → List Char
  | _, [] => []
  | inBrackets, c :: row =>
    if (c == ':' && !inBrackets) || endsAuthority web c then []
    else c :: hostOf web (c == '[' || (inBrackets && c != ']')) row

/-- Checks the port at the start of a row. -/
def checkPort (row : List Char) : Except UrlError Unit :=
  let port := row.takeWhile (·.isDigit)
  let ends : Bool := match row.drop port.length with
    | [] => true
    | c :: _ => c == '/' || c == '\\' || c == '?' || c == '#'
  if ends ∧ (Text.valueOf? 10 port).getD 0 ≤ 65535 then .ok () else .error .invalidPort

/-- The part of an authority before its last `@`, if it has one, and what follows. -/
def cutUser (web : Bool) (row : List Char) : Option (List Char) × List Char :=
  let authority := row.takeWhile (!endsAuthority web ·)
  if authority.contains '@' then
    let host := (authority.reverse.takeWhile (· ≠ '@')).reverse
    let user := authority.take (authority.length - host.length - 1)
    (some user, row.drop (user.length + 1))
  else (none, row)

/-- Checks an authority. -/
def checkAuthority (web : Bool) (row : List Char) : Except UrlError Unit := do
  let (user, row) := cutUser web row
  if user = some [] ∧ row.head?.any (endsAuthority web) then throw .emptyHost
  let host := hostOf web false row
  if web then checkDomain host else checkOpaque host
  let rest := row.drop host.length
  if host.isEmpty ∧ (rest.head? = some ':' ∨ (user.any fun u => u ≠ [] ∧ u ≠ [':'])) then
    throw .emptyHost
  match rest with
  | ':' :: rest => checkPort rest
  | _ => return ()

/-- Whether a host is the letter of a drive, which belongs to the path. -/
def isDrive : List Char → Bool
  | [c, d] => c.isAlpha && (d == ':' || d == '|')
  | _ => false

/-- Checks what follows the scheme of a file. -/
def checkFile (row : List Char) : Except UrlError Unit :=
  match row with
  | a :: b :: rest =>
    if isSlash a && isSlash b then
      let host := rest.takeWhile (!endsAuthority true ·)
      if host.isEmpty || isDrive host then .ok () else checkDomain host
    else .ok ()
  | _ => .ok ()

/-- Checks an absolute URL. -/
def check (text : String) : Except UrlError Unit :=
  match cutScheme (significant text) with
  | none => .error .relative
  | some (scheme, rest) =>
    match SchemeKind.ofScheme scheme with
    | .file => checkFile rest
    | .web => checkAuthority true (rest.dropWhile isSlash)
    | .other =>
      match rest with
      | '/' :: '/' :: rest => checkAuthority false rest
      | _ => .ok ()

end Url

end PairQuote
