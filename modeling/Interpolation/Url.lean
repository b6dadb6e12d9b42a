import Interpolation.Url.Host

/-!
# Addresses

A URL is read into its parts and written in one normal form.

* `Url` holds the parts of an address;
* `Url.read` reads an address that stands on its own, `Url.render` writes it;
* `Url.normalize` does both.

White space and control characters at the ends mean nothing, nor do tabs and line breaks
anywhere. The schemes `http`, `https`, `ws`, `wss`, `ftp` and `file` are special: their addresses
have a host, a path, and backslashes that stand for slashes.
-/

namespace Interpolation

/-- The path of an address. -/
inductive UrlPath where
  /-- A path that is not divided. -/
  | whole (t : Text)
  /-- The parts that slashes stand in front of. -/
  | segments (ps : List Text)
  deriving DecidableEq, Repr

/-- Who asks for what where: the part of an address behind the double slash. -/
structure Authority where
  user : Text
  password : Text
  host : Option Url.Host
  /-- The number behind the colon, unless the scheme implies it. -/
  portNumber : Option Nat
  deriving DecidableEq, Repr

/-- An address. -/
structure Url where
  scheme : Text
  authority : Option Authority
  path : UrlPath
  query : Option Text
  fragment : Option Text
  deriving DecidableEq, Repr

namespace Url

/-! ## Writing -/

/-- Writes an authority. -/
def renderAuthority (a : Authority) : Text :=
  let secret := if a.password.isEmpty then [] else ':' :: a.password
  let userInfo := if a.user.isEmpty && a.password.isEmpty then [] else a.user ++ secret ++ ['@']
  let number := match a.portNumber with
    | some n => ':' :: Text.ofNat n
    | none => []
  userInfo ++ (a.host.map Host.render).getD [] ++ number

/-- Writes an address. A path that would look like an authority gets a dot segment in front. -/
def render (u : Url) : Text :=
  let authority := match u.authority with
    | some a => '/' :: '/' :: renderAuthority a
    | none => []
  let path := match u.path with
    | .whole t => t
    | .segments ps =>
      let dot := if u.authority.isNone ∧ ps.length > 1 ∧ ps.head? = some [] then ['/', '.'] else []
      dot ++ ps.flatMap fun p => '/' :: p
  let query := match u.query with
    | some q => '?' :: q
    | none => []
  let fragment := match u.fragment with
    | some f => '#' :: f
    | none => []
  u.scheme ++ [':'] ++ authority ++ path ++ query ++ fragment

/-! ## Schemes -/

/-- The number behind the colon that a scheme implies. -/
def defaultPortNumber? (scheme : Text) : Option Nat :=
  [("http", 80), ("https", 443), ("ws", 80), ("wss", 443), ("ftp", 21)].lookup
    (String.ofList scheme)

/-- Whether the scheme is that of files. -/
def isFile (scheme : Text) : Bool :=
  scheme = ['f', 'i', 'l', 'e']

/-- Whether a scheme is special. -/
def isSpecial (scheme : Text) : Bool :=
  (defaultPortNumber? scheme).isSome || isFile scheme

/-- Reads a scheme and its colon. -/
def readScheme? (t : Text) : Option (Text × Text) :=
  let isSchemeChar (c : Char) : Bool := c.isAlphanum || c = '+' || c = '-' || c = '.'
  match t.takeWhile isSchemeChar, t.dropWhile isSchemeChar with
  | c :: cs, ':' :: rest => if c.isAlpha then some (Text.toAsciiLower (c :: cs), rest) else none
  | _, _ => none

/-! ## Paths -/

/-- A letter and a colon or a bar: the name of a drive. -/
def isDriveLetter (t : Text) : Bool :=
  match t with
  | [c, d] => c.isAlpha && (d = ':' || d = '|')
  | _ => false

/-- Whether a segment is a dot, possibly encoded. -/
def isSingleDot (t : Text) : Bool :=
  ["." , "%2e"].elem (String.ofList (Text.toAsciiLower t))

/-- Whether a segment is two dots, possibly encoded. -/
def isDoubleDot (t : Text) : Bool :=
  ["..", ".%2e", "%2e.", "%2e%2e"].elem (String.ofList (Text.toAsciiLower t))

/-- Goes up by one segment; the name of a drive stays. -/
def parent (ps : List Text) : List Text :=
  if ps.getLast?.any isDriveLetter then ps else ps.dropLast

/-- Adds segments to a path; a dot segment at the end leaves an empty one. -/
def addSegments (file : Bool) (ps : List Text) : List Text → List Text
  | [] => ps
  | s :: rest =>
    let last := rest.isEmpty
    let ps :=
      if isDoubleDot s then
        if last then parent ps ++ [[]] else parent ps
      else if isSingleDot s then
        if last then ps ++ [[]] else ps
      else if file && ps.isEmpty && isDriveLetter s then ps ++ [s.take 1 ++ [':']]
      else ps ++ [percentEncode .path s]
    addSegments file ps rest

/-- Takes empty segments off the front of the path of a file, but not the last one. -/
def dropEmpty : List Text → List Text
  | [] => []
  | [p] => [p]
  | p :: q :: ps => if p.isEmpty then dropEmpty (q :: ps) else p :: q :: ps

/-- Reads a path behind its first slash. -/
def readPath (scheme : Text) (t : Text) : List Text :=
  let slashes := if isSpecial scheme then t.map fun c => if c = '\\' then '/' else c else t
  addSegments (isFile scheme) [] (Text.splitOn '/' slashes)

/-! ## Authorities -/

/-- The user, the password and the rest of an authority with an at sign. -/
def readUserInfo (t : Text) : Text × Text :=
  let user := t.takeWhile (· != ':')
  let password := (t.dropWhile (· != ':')).drop 1
  (percentEncode .userInfo user, percentEncode .userInfo password)

/-- What stands in front of the last at sign, and what stands behind it. -/
def splitAtSign? (t : Text) : Option (Text × Text) :=
  match (t.reverse).dropWhile (· != '@') with
  | [] => none
  | _ :: before => some (before.reverse, (t.reverse.takeWhile (· != '@')).reverse)

/-- The host of an authority and what follows it: a colon inside brackets does not end a host. -/
def splitHost (inBrackets : Bool) : Text → Text × Text
  | [] => ([], [])
  | c :: cs =>
    if c = ':' ∧ !inBrackets then ([], c :: cs)
    else
      let inside := c = '[' ∨ (c ≠ ']' ∧ inBrackets)
      let (host, rest) := splitHost inside cs
      (c :: host, rest)

/-- Reads the number behind the colon; the one that the scheme implies is left out. -/
def readPortNumber (scheme : Text) (t : Text) : Except Fault (Option Nat) :=
  if t.isEmpty then .ok none
  else match Text.toNat? t with
    | some n =>
      if n > 65535 then .error .badPort
      else .ok (if defaultPortNumber? scheme = some n then none else some n)
    | none => .error .badPort

/-- Reads an authority. Without a host it may only hold an empty user and password, and an at sign
that stands alone has to end the address. A backslash behind the colon ends the authority, and what
follows is given back. -/
def readAuthority (scheme : Text) (t : Text) (followed : Bool) :
    Except Fault (Authority × Text) := do
  let special := isSpecial scheme
  let (userInfo, t) := match splitAtSign? t with
    | some (userInfo, rest) => (some userInfo, rest)
    | none => (none, t)
  let (user, password) := (userInfo.map readUserInfo).getD ([], [])
  let (hostText, rest) := splitHost false t
  let named := !user.isEmpty || !password.isEmpty || (userInfo = some [] && followed)
  if hostText.isEmpty ∧ (special ∨ !rest.isEmpty ∨ named) then .error .emptyHost
  else do
    let host ←
      if hostText.isEmpty then pure none
      else if special then (Host.read hostText).map some
      else (Host.readOpaque hostText).map some
    let number ← readPortNumber scheme ((rest.drop 1).takeWhile (· != '\\'))
    .ok (⟨user, password, host, number⟩, rest.dropWhile (· != '\\'))

/-! ## Addresses -/

/-- A text up to a question mark or a number sign, and the rest. -/
def cutPath (t : Text) : Text × Text :=
  let ends (c : Char) : Bool := c = '?' || c = '#'
  (t.takeWhile (!ends ·), t.dropWhile (!ends ·))

/-- Reads the query and the fragment. -/
def readTail (scheme : Text) (t : Text) : Option Text × Option Text :=
  let fragment (t : Text) : Option Text :=
    match t with
    | '#' :: cs => some (percentEncode .fragment cs)
    | _ => none
  match t with
  | '?' :: cs =>
    let set := if isSpecial scheme then EncodeSet.specialQuery else .query
    (some (percentEncode set (cs.takeWhile (· != '#'))), fragment (cs.dropWhile (· != '#')))
  | _ => (none, fragment t)

/-- Whether a character is a slash, or a backslash that counts as one. -/
def isSlash (scheme : Text) (c : Char) : Bool :=
  c = '/' || (c = '\\' && isSpecial scheme)

/-- Reads what follows the double slash of an address that names no file. -/
def readHosted (scheme : Text) (t : Text) : Except Fault Url := do
  let ends (c : Char) : Bool := isSlash scheme c || c = '?' || c = '#'
  let behind := t.dropWhile (!ends ·)
  let (authority, left) ← readAuthority scheme (t.takeWhile (!ends ·)) (!behind.isEmpty)
  let (path, rest) := cutPath (if left.isEmpty then behind else '/' :: left ++ behind)
  let segments := match path with
    | [] => if isSpecial scheme then [[]] else []
    | _ :: cs => readPath scheme cs
  let (query, fragment) := readTail scheme rest
  .ok ⟨scheme, some authority, .segments segments, query, fragment⟩

/-- The address of a file on a host. Where the path begins with the name of a drive there is no
host. -/
def fileAt (host : Option Host) (path rest : Text) : Url :=
  let scheme := ['f', 'i', 'l', 'e']
  let segments := readPath scheme path
  let onDrive := segments.head?.any isDriveLetter
  let (query, fragment) := readTail scheme rest
  ⟨scheme, some ⟨[], [], if onDrive then none else host, none⟩, .segments (dropEmpty segments),
    query, fragment⟩

/-- Reads what follows the scheme of the address of a file. -/
def readFile (t : Text) : Except Fault Url := do
  let slash (c : Char) : Bool := c = '/' || c = '\\'
  let (path, rest) := cutPath t
  match path with
  | a :: b :: cs =>
    if slash a && slash b then
      let hostText := cs.takeWhile (!slash ·)
      if isDriveLetter hostText then .ok (fileAt none cs rest)
      else
        let host ←
          if hostText.isEmpty then pure none
          else (Host.read hostText).map fun h =>
            if h = .name "localhost".toList then none else some h
        .ok (fileAt host ((cs.dropWhile (!slash ·)).drop 1) rest)
    else if slash a then .ok (fileAt none (b :: cs) rest)
    else .ok (fileAt none path rest)
  | [a] => .ok (fileAt none (if slash a then [] else [a]) rest)
  | [] => .ok (fileAt none [] rest)

/-- Reads what follows the scheme of an address that is not special. -/
def readPlain (scheme : Text) (t : Text) : Except Fault Url :=
  match t with
  | '/' :: '/' :: cs => readHosted scheme cs
  | _ =>
    let (path, rest) := cutPath t
    let (query, fragment) := readTail scheme rest
    let path := match path with
      | '/' :: cs => .segments (readPath scheme cs)
      | _ => .whole (percentEncode .controls path)
    .ok ⟨scheme, none, path, query, fragment⟩

/-- Reads an address that stands on its own. -/
def read (t : Text) : Except Fault Url :=
  let blank (c : Char) : Bool := c.toNat ≤ 32
  let trimmed := ((t.dropWhile blank).reverse.dropWhile blank).reverse
  let t := trimmed.filter fun c => c != '\t' && c != '\n' && c != '\r'
  match readScheme? t with
  | none => .error .relative
  | some (scheme, rest) =>
    if isFile scheme then readFile rest
    else if isSpecial scheme then readHosted scheme (rest.dropWhile (isSlash scheme))
    else readPlain scheme rest

/-- An address in its normal form. -/
def normalize (t : Text) : Except Fault Text :=
  (read t).map render

end Url

end Interpolation
