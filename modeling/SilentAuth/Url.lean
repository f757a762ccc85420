import SilentAuth.Url.Host

/-!
# URLs

Reading an absolute URL from a text, as user agents do, and writing it in its one normal form: the
scheme and the host in lower case, no port where it is the default one, no dot segments in the path,
and every part percent-encoded as far as it has to be.
-/

namespace SilentAuth

/-- The path of a URL. -/
inductive UrlPath where
  /-- Segments with strokes before them. -/
  | segments (list : List (List Char))
  /-- A text without structure, in a URL that names no place. -/
  | unstructured (text : List Char)
deriving DecidableEq

/-- A URL. -/
structure Url where
  scheme : List Char
  username : List Char
  password : List Char
  host : Option Host
  /-- The port, unless it is the default one of the scheme. -/
  port : Option Nat
  path : UrlPath
  query : Option (List Char)
  fragment : Option (List Char)
deriving DecidableEq

namespace Url

/-! ### Schemes -/

/-- The default port of a scheme that has one. -/
def defaultPort? (scheme : List Char) : Option Nat :=
  match String.ofList scheme with
  | "http" | "ws" => some 80
  | "https" | "wss" => some 443
  | "ftp" => some 21
  | _ => none

/-- The scheme of files. -/
def fileScheme : List Char := ['f', 'i', 'l', 'e']

/-- Whether a scheme is one of those that name places on the network or files. -/
def isSpecial (scheme : List Char) : Bool := (defaultPort? scheme).isSome || scheme = fileScheme

/-- Whether a character may stand in a scheme. -/
def isSchemeChar (c : Char) : Bool := c.isAlphanum || c = '+' || c = '-' || c = '.'

/-- Cuts a text into its scheme, in lower case, and what follows the colon after it. -/
def cutScheme? (cs : List Char) : Option (List Char × List Char) :=
  if cs.head?.elim false Char.isAlpha then
    match cs.dropWhile isSchemeChar with
    | ':' :: rest => some ((cs.takeWhile isSchemeChar).map Char.toLower, rest)
    | _ => none
  else none

/-! ### Paths -/

/-- A part of a path as read: dots say to stay or to go up. -/
inductive Segment where
  | stay
  | up
  | name (cs : List Char)
deriving DecidableEq

/-- A text with every `%2e` replaced by a dot. -/
def dotsDecoded : List Char → List Char
  | '%' :: '2' :: 'e' :: rest | '%' :: '2' :: 'E' :: rest => '.' :: dotsDecoded rest
  | c :: rest => c :: dotsDecoded rest
  | [] => []

/-- What a part of a path says. -/
def Segment.of (cs : List Char) : Segment :=
  if dotsDecoded cs = ['.'] then .stay
  else if dotsDecoded cs = ['.', '.'] then .up
  else .name (Percent.encode Percent.path cs)

/-- Whether a text is a letter and a colon or bar, as a disk is named. -/
def isDisk (cs : List Char) : Bool :=
  match cs with
  | [letter, sign] => letter.isAlpha && (sign = ':' || sign = '|')
  | _ => false

/-- Whether a segment names a disk, as far as its first backslash. -/
def beginsWithDisk (cs : List Char) : Bool := isDisk (cs.takeWhile (· != '\\'))

/-- The segments without the last one; from a disk no way leads up. -/
def goUp (done : List (List Char)) : List (List Char) :=
  if done.getLast?.elim false beginsWithDisk then done else done.dropLast

/-- What was resolved of a path. -/
structure Resolved where
  segments : List (List Char)
  /-- Whether the first segment was read as the disk of a file; then no host stands before it. -/
  hasDisk : Bool

/-- Adds a segment. In a path of files, a disk at the start is named with a colon, and what follows
its name in the same segment is set off. -/
def Resolved.add (isFile : Bool) (done : Resolved) (cs : List Char) : Resolved :=
  let disk := cs.take 2
  if !(isFile && done.segments.isEmpty && isDisk disk) then
    { done with segments := done.segments ++ [cs] }
  else if cs = disk then ⟨[disk.take 1 ++ [':']], true⟩
  else if disk.getLast? = some ':' then { done with segments := [disk, cs.drop 2] }
  else { done with segments := [cs] }

/-- Resolves the parts of a path, after those that are resolved. A path that ends with dots ends
with an empty segment. -/
def resolve (isFile : Bool) (done : Resolved) : List (List Char) → Resolved
  | [] => done
  | cs :: rest =>
    let close (above : Resolved) : Resolved :=
      if rest.isEmpty then { above with segments := above.segments ++ [[]] } else above
    match Segment.of cs with
    | .stay => resolve isFile (close done) rest
    | .up => resolve isFile (close { done with segments := goUp done.segments }) rest
    | .name cs => resolve isFile (done.add isFile cs) rest

/-- The path whose first stroke was read; special schemes have two kinds of stroke. A path of files
does not begin with empty segments, if it has others. -/
def readPath (scheme cs : List Char) : Resolved :=
  let isStroke (c : Char) : Bool := c = '/' || (c = '\\' && isSpecial scheme)
  let isFile : Bool := scheme = fileScheme
  let path := resolve isFile ⟨[], false⟩ (splitAll isStroke cs)
  if isFile then
    match path.segments.dropWhile List.isEmpty with
    | [] => { path with segments := [[]] }
    | segments => { path with segments }
  else path

/-- The path that a text says after a host. -/
def readPathAfterHost (scheme cs : List Char) : Resolved :=
  match cs with
  | [] => ⟨if isSpecial scheme then [[]] else [], false⟩
  | c :: rest =>
    if c = '/' || (c = '\\' && isSpecial scheme) then readPath scheme rest
    else readPath scheme (c :: rest)

/-! ### Hosts with users and ports -/

/-- The port that digits say, unless they say none or the default one. -/
def port? (scheme digits : List Char) : Except UrlError (Option Nat) :=
  if !digits.all Char.isDigit then .error .invalidPort
  else
    let port := digits.foldl (fun n c => n * 10 + (c.toNat - '0'.toNat)) 0
    if 65535 < port then .error .invalidPort
    else if digits.isEmpty || defaultPort? scheme = some port then .ok none
    else .ok (some port)

/-- Cuts a host from its port: at the first colon that is not between brackets. -/
def cutPort (inBrackets : Bool) : List Char → List Char × Option (List Char)
  | [] => ([], none)
  | c :: rest =>
    if c = ':' && !inBrackets then ([], some rest)
    else
      let inBrackets := if c = '[' then true else if c = ']' then false else inBrackets
      let (host, port) := cutPort inBrackets rest
      (c :: host, port)

/-- Cuts the user from the host: at the last sign for it. -/
def cutUser (cs : List Char) : Option (List Char) × List Char :=
  if cs.contains '@' then
    let host := (cs.reverse.takeWhile (· != '@')).reverse
    (some (cs.take (cs.length - host.length - 1)), host)
  else (none, cs)

/-- What stands between the strokes before a host and the path. -/
structure Place where
  username : List Char
  password : List Char
  host : Host
  port : Option Nat

/-- Whether the host may be left empty, as far as user and port go. A sign for a user, with no user
before it, is borne only at the end or with a colon. -/
def mayLackHost (user digits : Option (List Char)) (isFollowed : Bool) : Bool :=
  digits.isNone &&
    match user with
    | none => true
    | some user => if user.isEmpty then !isFollowed else user = [':']

/-- Reads a host with its user and port; something may follow in the URL. -/
def Place.read (scheme : List Char) (isFollowed : Bool) (cs : List Char) :
    Except UrlError Place := do
  let (user, hostAndPort) := cutUser cs
  let (host, digits) := cutPort false hostAndPort
  if host.isEmpty && (isSpecial scheme || !mayLackHost user digits isFollowed) then
    throw .emptyHost
  let host ← if isSpecial scheme then Host.ofSpecial host else Host.ofNamed host
  let port ← port? scheme (digits.getD [])
  let user := user.getD []
  return {
    username := Percent.encode Percent.userInfo (user.takeWhile (· != ':'))
    password := Percent.encode Percent.userInfo (user.dropWhile (· != ':')).tail
    host, port }

/-! ### Reading -/

/-- A text without controls and spaces at its ends, and without tabs and line ends inside. -/
def cleaned (s : String) : List Char :=
  let isOuter (c : Char) : Bool := c.toNat ≤ 0x20
  let inner := ((s.toList.dropWhile isOuter).reverse.dropWhile isOuter).reverse
  inner.filter fun c => c != '\t' && c != '\n' && c != '\r'

/-- Cuts a text at the first occurrence of a character, if it occurs. -/
def cutAt (mark : Char) (cs : List Char) : List Char × Option (List Char) :=
  if cs.contains mark then (cs.takeWhile (· != mark), some (cs.dropWhile (· != mark)).tail)
  else (cs, none)

/-- The host of a URL of files; the machine itself has an empty name. -/
def fileHost (cs : List Char) : Except UrlError Host := do
  if cs.isEmpty then return .named []
  else
    let host ← Host.ofSpecial cs
    return if host.write = "localhost".toList then .named [] else host

/-- The host and path of a URL of files. A disk may stand where a host does. -/
def readFile (cs : List Char) : Except UrlError (Host × List (List Char)) :=
  let isStroke (c : Char) : Bool := c = '/' || c = '\\'
  let withoutHost (cs : List Char) : Host × List (List Char) :=
    (.named [], (readPathAfterHost fileScheme cs).segments)
  match cs with
  | a :: b :: rest =>
    let name := rest.takeWhile (!isStroke ·)
    if !(isStroke a && isStroke b) then .ok (withoutHost cs)
    else if isDisk name then .ok (withoutHost rest)
    else
      (fileHost name).map fun host =>
        let path := readPathAfterHost fileScheme (rest.dropWhile (!isStroke ·))
        (if path.hasDisk then .named [] else host, path.segments)
  | _ => .ok (withoutHost cs)

/-- Cuts the text after two strokes into the place and the path. A backslash begins the path also of
other than special schemes, where it comes after a port. -/
def cutPath (scheme cs : List Char) : List Char × List Char :=
  let isStroke (c : Char) : Bool := c = '/' || (c = '\\' && isSpecial scheme)
  let place := cs.takeWhile (!isStroke ·)
  let path := cs.dropWhile (!isStroke ·)
  match (cutPort false (cutUser place).2).2 with
  | some digits =>
    let extra := digits.dropWhile (· != '\\')
    (place.take (place.length - extra.length), extra ++ path)
  | none => (place, path)

/-- Reads what stands between the scheme and the query. -/
def readHierarchy (scheme cs : List Char) (query fragment : Option (List Char)) :
    Except UrlError Url := do
  let withPlace (cs : List Char) : Except UrlError Url := do
    let (place, path) := cutPath scheme cs
    let isFollowed := !path.isEmpty || query.isSome || fragment.isSome
    let place ← Place.read scheme isFollowed place
    return ⟨scheme, place.username, place.password, some place.host, place.port,
      .segments (readPathAfterHost scheme path).segments, query, fragment⟩
  if scheme = fileScheme then
    let (host, path) ← readFile cs
    return ⟨scheme, [], [], some host, none, .segments path, query, fragment⟩
  else if isSpecial scheme then withPlace (cs.dropWhile fun c => c = '/' || c = '\\')
  else
    match cs with
    | '/' :: '/' :: rest => withPlace rest
    | '/' :: rest =>
      let path := (readPath scheme rest).segments
      return ⟨scheme, [], [], none, none, .segments path, query, fragment⟩
    | _ =>
      return ⟨scheme, [], [], none, none, .unstructured (Percent.encode Percent.controls cs), query,
        fragment⟩

/-- Reads a URL. -/
def parse (s : String) : Except UrlError Url := do
  match cutScheme? (cleaned s) with
  | none => throw .relativeWithoutBase
  | some (scheme, rest) =>
    let (rest, fragment) := cutAt '#' rest
    let (hierarchy, query) := cutAt '?' rest
    let querySet := if isSpecial scheme then Percent.specialQuery else Percent.query
    readHierarchy scheme hierarchy (query.map (Percent.encode querySet))
      (fragment.map (Percent.encode Percent.fragment))

/-! ### Writing -/

/-- The text of a path. -/
def UrlPath.write : UrlPath → List Char
  | .segments list => list.flatMap ('/' :: ·)
  | .unstructured text => text

/-- The user with the sign after it, if there is one. -/
def writeUser (u : Url) : List Char :=
  if u.username.isEmpty && u.password.isEmpty then []
  else u.username ++ (if u.password.isEmpty then [] else ':' :: u.password) ++ ['@']

/-- The host with a port that is not the default one. -/
def writeHost (host : Host) (port : Option Nat) : List Char :=
  host.write ++ port.elim [] fun n => ':' :: Nat.toDigits 10 n

/-- What stands between the scheme and the query. A path that would look like a host is set off. -/
def writeHierarchy (u : Url) : List Char :=
  match u.host with
  | some host => '/' :: '/' :: writeUser u ++ writeHost host u.port ++ UrlPath.write u.path
  | none =>
    match u.path with
    | .segments ([] :: _ :: _) => '/' :: '.' :: UrlPath.write u.path
    | _ => UrlPath.write u.path

/-- The normal form of a URL. -/
def write (u : Url) : List Char :=
  u.scheme ++ ':' :: writeHierarchy u ++ u.query.elim [] ('?' :: ·) ++ u.fragment.elim [] ('#' :: ·)

/-- The normal form of a URL as a string. -/
def text (u : Url) : String := String.ofList u.write

/-- The segments of the path. -/
def segments (u : Url) : List (List Char) :=
  match u.path with
  | .segments list => list
  | .unstructured _ => []

/-- The URL of a place below the folder that a URL names, or beside its last segment if that is no
folder. The names are plain ones: no dots, and nothing that is encoded. -/
def below (u : Url) (names : List String) : Url :=
  { u with
    path := .segments (u.segments.dropLast ++ names.map String.toList)
    query := none
    fragment := none }

/-- The path and the query, as a request names its target. -/
def target (u : Url) : List Char := UrlPath.write u.path ++ u.query.elim [] ('?' :: ·)

end Url

end SilentAuth
