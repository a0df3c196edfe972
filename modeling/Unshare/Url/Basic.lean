import Unshare.Net.Address

namespace Unshare

inductive Url.Host
  | name (text : String)
  | v4 (address : Net.V4)
  | v6 (address : Net.V6)
deriving DecidableEq, Repr

-- The path: segments with a slash before each, or a text without any structure.
inductive Url.Path
  | segments (list : List String)
  | flat (text : String)
deriving DecidableEq, Repr

-- `isApart` tells whether `/.` stands before the path, which keeps one that begins with two slashes
-- from being taken for a host.
structure Url where
  scheme : String
  user : String
  password : Option String
  host : Option Url.Host
  portNumber : Option Nat
  isApart : Bool
  path : Url.Path
  query : Option String
  fragment : Option String
deriving DecidableEq, Repr

-- Why a text is no URL.
inductive Url.Fault
  | relative
  | emptyHost
  | badNumber
  | badV4
  | badV6
  | badName
  | badHostCharacter
deriving DecidableEq, Repr

namespace Url

def Fault.message : Fault → String
  | .relative => "relative URL without a base"
  | .emptyHost => "empty host"
  | .badNumber => "invalid port number"
  | .badV4 => "invalid IPv4 address"
  | .badV6 => "invalid IPv6 address"
  | .badName => "invalid international domain name"
  | .badHostCharacter => "invalid domain character"

def Host.print : Host → List Char
  | .name text => text.toList
  | .v4 address => address.print
  | .v6 address => '[' :: address.print ++ [']']

def Path.print : Path → List Char
  | .segments list => list.flatMap fun segment => '/' :: segment.toList
  | .flat text => text.toList

-- Whether a path begins with two slashes.
def Path.opensTwice : Path → Bool
  | .segments ("" :: _ :: _) => true
  | _ => false

def printCredentials (u : Url) : List Char :=
  if u.user = "" ∧ u.password.isNone then []
  else u.user.toList ++ u.password.elim [] (fun p => ':' :: p.toList) ++ ['@']

-- Everything from the scheme up to the path.
def printAuthority (u : Url) : List Char :=
  u.scheme.toList ++ ':' ::
    match u.host with
    | some host =>
      ['/', '/'] ++ u.printCredentials ++ host.print ++
        u.portNumber.elim [] fun n => ':' :: Text.Decimal.digits n
    | none => if u.isApart then ['/', '.'] else []

def printQuery (u : Url) : List Char :=
  u.query.elim [] fun q => '?' :: q.toList

def printFragment (u : Url) : List Char :=
  u.fragment.elim [] fun f => '#' :: f.toList

def print (u : Url) : List Char :=
  u.printAuthority ++ u.path.print ++ u.printQuery ++ u.printFragment

def render (u : Url) : String :=
  String.ofList u.print

-- What a request asks its server for: the path and the query.
def printTarget (u : Url) : List Char :=
  u.path.print ++ u.printQuery

-- A URL with a flat path has nothing that a path could be added to.
def hasSegments (u : Url) : Bool :=
  match u.path with
  | .segments _ => true
  | .flat _ => false

-- Whether the URL is one of the web.
def isWeb (u : Url) : Bool :=
  u.scheme = "http" || u.scheme = "https"

-- The URL without the name and password of its user.
def withoutCredentials (u : Url) : Url :=
  { u with user := "", password := none }

end Url

end Unshare
