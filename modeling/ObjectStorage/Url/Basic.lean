import ObjectStorage.Text.Quoted
import ObjectStorage.Url.Host
import ObjectStorage.Url.Path
import ObjectStorage.Url.Query

/-!
# URLs

An absolute URL in its parts. A port is kept only if it is not the usual one of the scheme, and a
host may be the empty name where the scheme is none of the services'.
-/
namespace ObjectStorage

/-- What follows the authority: a path of segments or any other text. -/
inductive Place where
  | path (path : Path)
  | text (text : List Char)
deriving DecidableEq

structure Url where
  scheme : String
  username : List Char
  password : List Char
  host : Option Host
  port : Option Nat
  place : Place
  query : Option (List Char)
  fragment : Option (List Char)
deriving DecidableEq

namespace Url

def defaultPort : String → Option Nat
  | "http" => some 80
  | "ws" => some 80
  | "https" => some 443
  | "wss" => some 443
  | "ftp" => some 21
  | _ => none

/-- The schemes whose hosts are domains and whose paths may have backslashes. -/
def isSpecial (scheme : String) : Bool := (defaultPort scheme).isSome || scheme == "file"

def pathChars (u : Url) : List Char :=
  match u.place with
  | .path p => p.textChars
  | .text t => t

def hostText? (u : Url) : Option String := (u.host.map Host.text).filter (!·.isEmpty)

/-- The host as a request names it, with a port that is not the usual one. -/
def authority? (u : Url) : Option String := do
  let host ← u.hostText?
  match u.port with
  | some port => some (host ++ ":" ++ toString port)
  | none => some host

def pairs (u : Url) : List Query.Pair := Query.pairs (u.query.getD [])

def userinfoChars (u : Url) : List Char :=
  if u.username.isEmpty && u.password.isEmpty then []
  else u.username ++ (if u.password.isEmpty then [] else ':' :: u.password) ++ ['@']

def afterMark (mark : Char) : Option (List Char) → List Char
  | some cs => mark :: cs
  | none => []

/-- What stands between the scheme and the path. A path that starts with two slashes is kept apart
from a host by a dot. -/
def authorityChars (u : Url) : List Char :=
  match u.host with
  | some h => '/' :: '/' :: u.userinfoChars ++ h.textChars ++
    (match u.port with
      | some port => ':' :: Decimal.chars port
      | none => [])
  | none =>
    if u.scheme == "file" then ['/', '/']
    else if ['/', '/'].isPrefixOf u.pathChars then ['/', '.']
    else []

def textChars (u : Url) : List Char :=
  u.scheme.toList ++ ':' :: u.authorityChars ++ u.pathChars ++ afterMark '?' u.query ++
    afterMark '#' u.fragment

def text (u : Url) : String := String.ofList u.textChars

def withoutUser (u : Url) : Url := { u with username := [], password := [] }

def optionText (o : Option String) : String :=
  match o with
  | some t => "Some(" ++ t ++ ")"
  | none => "None"

def hostDetails : Host → String
  | .name n => "Domain(" ++ Quoted.quote n ++ ")"
  | .v4 a => "Ipv4(" ++ String.ofList a.textChars ++ ")"
  | .v6 a => "Ipv6(" ++ String.ofList a.mixedChars ++ ")"

def quoted (cs : List Char) : String := String.ofList (Quoted.quoteChars cs)

def details (u : Url) : String :=
  "Url \x7b scheme: " ++ Quoted.quote u.scheme ++ ", cannot_be_a_base: " ++
    (match u.place with
      | .path _ => "false"
      | .text _ => "true") ++
    ", username: " ++ quoted u.username ++ ", password: " ++
    optionText (if u.password.isEmpty then none else some (quoted u.password)) ++
    ", host: " ++ optionText (u.host.map hostDetails) ++
    ", port: " ++ optionText (u.port.map toString) ++ ", path: " ++ quoted u.pathChars ++
    ", query: " ++ optionText (u.query.map quoted) ++
    ", fragment: " ++ optionText (u.fragment.map quoted) ++ " \x7d"

end Url

end ObjectStorage
