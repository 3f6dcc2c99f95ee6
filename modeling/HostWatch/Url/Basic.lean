import HostWatch.Url.Address
import HostWatch.Url.Percent

/-!
# URLs

The parts of a parsed URL. A URL of a special scheme always has a host and a path;
the path of any other URL may be empty, or be one text without segments, and then
the URL cannot be a base.
-/

namespace HostWatch

namespace Url

/-- Why a text is not a URL. -/
inductive ParseError where
  /-- A host is due and there is none. -/
  | emptyHost
  /-- The host is not a valid domain name. -/
  | invalidDomainName
  /-- The port is not a number of sixteen bits. -/
  | invalidPort
  /-- The host ends in a number and is not an address. -/
  | invalidIpv4
  /-- The text between brackets is not an address. -/
  | invalidIpv6
  /-- The host has a character that no host may have. -/
  | invalidDomainCharacter
  /-- The text has no scheme. -/
  | noScheme
  deriving DecidableEq, Repr

/-- The text of an error. -/
def ParseError.message : ParseError → String
  | .emptyHost => "empty host"
  | .invalidDomainName => "invalid international domain name"
  | .invalidPort => "invalid port number"
  | .invalidIpv4 => "invalid IPv4 address"
  | .invalidIpv6 => "invalid IPv6 address"
  | .invalidDomainCharacter => "invalid domain character"
  | .noScheme => "relative URL without a base"

/-- The host of a URL. -/
inductive Host where
  /-- A name, not empty. -/
  | domain (name : List Char)
  /-- An address of 32 bits. -/
  | ipv4 (address : Ipv4)
  /-- An address of 128 bits. -/
  | ipv6 (address : Ipv6)
  deriving DecidableEq

/-- The text of a host inside a URL. -/
def Host.text : Host → List Char
  | .domain name => name
  | .ipv4 address => address.text
  | .ipv6 address => '[' :: (address.text ++ [']'])

/-- The text of a host on its own, an address without brackets. -/
def Host.plainText : Host → List Char
  | .domain name => name
  | .ipv4 address => address.text
  | .ipv6 address => address.plainText

/-- What the scheme of a URL says about its form. -/
inductive Kind where
  /-- The scheme `file`. -/
  | file
  /-- A scheme that always has a host, and whose hosts are domain names. -/
  | special
  /-- Any other scheme. -/
  | plain
  deriving DecidableEq, Repr

/-- The default port of a special scheme. -/
def defaultPort? (scheme : List Char) : Option Nat :=
  if scheme = "http".toList ∨ scheme = "ws".toList then some 80
  else if scheme = "https".toList ∨ scheme = "wss".toList then some 443
  else if scheme = "ftp".toList then some 21
  else none

/-- The kind of a scheme in lower case. -/
def Kind.ofScheme (scheme : List Char) : Kind :=
  if scheme = "file".toList then .file
  else if (defaultPort? scheme).isSome then .special
  else .plain

/-- The path of a URL. -/
inductive Path where
  /-- A text without segments. -/
  | verbatim (text : List Char)
  /-- Segments, each behind a slash; none is the empty path. -/
  | segments (list : List (List Char))
  deriving DecidableEq, Repr

end Url

/-- A parsed URL. -/
structure Url where
  /-- The scheme, in lower case. -/
  scheme : List Char
  /-- The user name, encoded. -/
  username : List Char
  /-- The password, encoded. -/
  password : List Char
  /-- The host, if there is one. -/
  host : Option Url.Host
  /-- The port, if it is given and not the default one. -/
  port : Option Nat
  /-- The path. -/
  path : Url.Path
  /-- The query, encoded. -/
  query : Option (List Char)
  /-- The fragment, encoded. -/
  fragment : Option (List Char)
  deriving DecidableEq

namespace Url

/-- Whether a URL has a path without segments, to which nothing can be added. -/
def cannotBeABase (u : Url) : Bool :=
  match u.path with
  | .verbatim _ => true
  | .segments _ => false

/-- The text of a path. -/
def Path.text : Path → List Char
  | .verbatim text => text
  | .segments list => list.flatMap ('/' :: ·)

/-- User name and password in front of a host. -/
def userinfoText (u : Url) : List Char :=
  if u.username = [] ∧ u.password = [] then []
  else u.username ++ (if u.password = [] then [] else ':' :: u.password) ++ ['@']

/-- The port behind a host. -/
def portText (u : Url) : List Char :=
  match u.port with
  | none => []
  | some p => ':' :: Decimal.digits p

/-- The slashes, user, host and port of a URL. -/
def authorityText (u : Url) : List Char :=
  match u.host, Kind.ofScheme u.scheme with
  | some h, _ => '/' :: '/' :: (u.userinfoText ++ h.text ++ u.portText)
  | none, .file => ['/', '/']
  | none, _ =>
    match u.path with
    | .segments ([] :: _ :: _) => ['/', '.']
    | _ => []

/-- The path and query, which is what a request asks for. -/
def requestTarget (u : Url) : List Char :=
  u.path.text ++ (match u.query with
    | none => []
    | some q => '?' :: q)

/-- The text of a URL. -/
def text (u : Url) : List Char :=
  u.scheme ++ ':' :: (u.authorityText ++ u.requestTarget ++ (match u.fragment with
    | none => []
    | some f => '#' :: f))

/-- The scheme, host and port of a URL with a host. -/
def originText (u : Url) (h : Host) : List Char :=
  u.scheme ++ ':' :: '/' :: '/' :: (h.text ++ u.portText)

end Url

end HostWatch
