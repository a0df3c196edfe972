import Unshare.Url.Host
import Unshare.Url.Path

namespace Unshare.Url

def isControlOrBlank (c : Char) : Bool :=
  c.toNat ≤ 0x20

-- The characters that count.
def significant (cs : List Char) : List Char :=
  let front := cs.dropWhile isControlOrBlank
  (front.reverse.dropWhile isControlOrBlank).reverse.filter fun c => !isDropped c

def isSchemeChar (c : Char) : Bool :=
  isAsciiLetter c || ('0' ≤ c && c ≤ '9') || c = '+' || c = '-' || c = '.'

-- The scheme in lower case, and what follows its colon.
def breakScheme? (cs : List Char) : Option (String × List Char) :=
  match Text.breakOn ':' cs with
  | (first :: more, some rest) =>
    if isAsciiLetter first ∧ more.all isSchemeChar then
      some (String.ofList ((first :: more).map Domain.lower), rest)
    else none
  | _ => none

def isSlash (webLike : Bool) (c : Char) : Bool :=
  c = '/' || (webLike && c = '\\')

-- Whether a character ends the path.
def endsPath (c : Char) : Bool :=
  c = '?' || c = '#'

def endsAuthority (webLike : Bool) (c : Char) : Bool :=
  isSlash webLike c || endsPath c

-- The part before the last `@`, if there is one, and the part after it.
def breakAtLastAt (cs : List Char) : Option (List Char) × List Char :=
  let host := (cs.reverse.takeWhile (· ≠ '@')).reverse
  if host.length = cs.length then (none, host)
  else (some (cs.take (cs.length - host.length - 1)), host)

-- The user's name and password, escaped; an empty password is none.
def readCredentials (cs : List Char) : String × Option String :=
  let (user, password) := Text.breakOn ':' cs
  (escape userForbidden user,
   (password.filter fun p => !p.isEmpty).map (escape userForbidden))

-- The host's text up to a colon outside brackets, and what follows that colon.
def breakHost (inside : Bool) : List Char → List Char × Option (List Char)
  | [] => ([], none)
  | c :: rest =>
    if c = ':' ∧ !inside then ([], some rest)
    else
      let next := breakHost (if c = '[' then true else if c = ']' then false else inside) rest
      (c :: next.1, next.2)

-- A number that is not the scheme's standard one.
def readPortNumber (scheme : String) (cs : List Char) : Except Fault (Option Nat) :=
  match cs with
  | [] => .ok none
  | _ =>
    if cs.all Text.Decimal.isDigit then
      match Text.Decimal.readChars Text.maxWord16 cs with
      | .ok n => .ok (if standardNumber scheme = some n then none else some n)
      | .error _ => .error .badNumber
    else .error .badNumber

def readHost (webLike : Bool) (cs : List Char) : Except Fault Host :=
  if webLike then Host.readWeb cs else Host.readPlain cs

-- Whether an `@` stands alone between the slashes around an authority.
def isBareAt (authority rest : List Char) : Bool :=
  authority = ['@'] && !rest.isEmpty

-- What stands before the path. Where `\` is no slash it still ends a number, and `rest` is what the
-- path begins with then.
structure Authority where
  user : String
  password : Option String
  host : Host
  portNumber : Option Nat
  rest : List Char

def readAuthority (scheme : String) (cs : List Char) : Except Fault Authority := do
  let (credentials, rest) := breakAtLastAt cs
  let (user, password) := readCredentials (credentials.getD [])
  let (hostText, number) := breakHost false rest
  let host ← readHost (isWebLike scheme) hostText
  let named := user ≠ "" ∨ password.isSome ∨ number.isSome
  if host = .name "" ∧ (named ∨ isWebLike scheme) then throw .emptyHost
  let text := number.getD []
  let portNumber ← readPortNumber scheme (text.takeWhile (· ≠ '\\'))
  return ⟨user, password, host, portNumber, text.dropWhile (· ≠ '\\')⟩

-- The segments of a path whose first slash has been taken.
def readSegments (webLike : Bool) (cs : List Char) : List String :=
  let slashed := cs.map fun c => if isSlash webLike c then '/' else c
  takeSegments [] ((Text.splitOn '/' slashed).map (escape pathForbidden))

-- The path behind an authority. A web-like URL always has a segment.
def readPath (webLike : Bool) (cs : List Char) : Path :=
  match cs with
  | [] => .segments (if webLike then [""] else [])
  | c :: rest => .segments (readSegments webLike (if isSlash webLike c then rest else cs))

-- The query and the fragment that follow a path, still unescaped.
def breakTail (cs : List Char) : Option (List Char) × Option (List Char) :=
  let (front, fragment) := Text.breakOn '#' cs
  match front with
  | '?' :: query => (some query, fragment)
  | _ => (none, fragment)

def withTail (u : Url) (tail : List Char) : Url :=
  let (query, fragment) := breakTail tail
  { u with
    query := query.map (escape (if isWebLike u.scheme then webQueryForbidden else queryForbidden))
    fragment := fragment.map (escape fragmentForbidden) }

-- A URL with an authority, whose slashes have been taken.
def readWithAuthority (scheme : String) (cs : List Char) : Except Fault Url := do
  let webLike := isWebLike scheme
  let text := cs.takeWhile fun c => !endsAuthority webLike c
  let rest := cs.dropWhile fun c => !endsAuthority webLike c
  if isBareAt text rest then throw .emptyHost
  let authority ← readAuthority scheme text
  let path := readPath webLike (authority.rest ++ rest.takeWhile fun c => !endsPath c)
  let bare : Url := ⟨scheme, authority.user, authority.password, some authority.host,
    authority.portNumber, false, path, none, none⟩
  return bare.withTail (rest.dropWhile fun c => !endsPath c)

-- The host of a file's URL, if it has one. The local host counts as none.
def readFileHost (text : List Char) : Except Fault Host :=
  if text = [] then .ok (.name "")
  else
    match Host.readWeb text with
    | .ok (.name "localhost") => .ok (.name "")
    | other => other

-- A path without the empty segments at its front.
def trimSegments : List String → List String
  | "" :: next :: rest => trimSegments (next :: rest)
  | segments => segments

-- A file's URL whose host is known and whose path is to be read from `cs`, in which a slash at the
-- front stands for an empty segment. A path on a drive has no host.
def readFilePath (host : Host) (cs : List Char) : Url :=
  let segments := readSegments true (cs.takeWhile fun c => !endsPath c)
  let kept := if segments.head?.any isDrive then .name "" else host
  let path : Path := .segments (trimSegments (spellDrive segments))
  let bare : Url := ⟨"file", "", none, some kept, none, false, path, none, none⟩
  bare.withTail (cs.dropWhile fun c => !endsPath c)

-- A file's URL. Behind two slashes stands its host, or a drive and no host.
def readFile (cs : List Char) : Except Fault Url :=
  match cs with
  | first :: second :: rest =>
    if isSlash true first && isSlash true second then do
      let hostText := rest.takeWhile fun c => !endsAuthority true c
      if isDrive (String.ofList hostText) then return readFilePath (.name "") rest
      let host ← readFileHost hostText
      let pathText := rest.drop hostText.length
      return readFilePath host (if host = .name "" then pathText else dropSlash pathText)
    else return readFilePath (.name "") (dropSlash cs)
  | _ => return readFilePath (.name "") (dropSlash cs)
where
  dropSlash : List Char → List Char
    | c :: rest => if isSlash true c then rest else c :: rest
    | [] => []

-- A URL without an authority.
def readBare (scheme : String) (cs : List Char) : Url :=
  let pathText := cs.takeWhile fun c => !endsPath c
  let path := match pathText with
    | '/' :: rest => .segments (readSegments false rest)
    | _ => .flat (escape [] pathText)
  let bare : Url := ⟨scheme, "", none, none, none, path.opensTwice, path, none, none⟩
  bare.withTail (cs.dropWhile fun c => !endsPath c)

def readChars (cs : List Char) : Except Fault Url :=
  match breakScheme? (significant cs) with
  | none => .error .relative
  | some (scheme, rest) =>
    if scheme = "file" then readFile rest
    else if isWebLike scheme then readWithAuthority scheme (rest.dropWhile (isSlash true))
    else
      match rest with
      | '/' :: '/' :: authority => readWithAuthority scheme authority
      | _ => .ok (readBare scheme rest)

def read (s : String) : Except Fault Url :=
  readChars s.toList

end Unshare.Url
