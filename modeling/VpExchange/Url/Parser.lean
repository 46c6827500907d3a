import VpExchange.Url.Basic

set_option autoImplicit false

namespace VpExchange.Url

def cleaned (cs : List Char) : List Char :=
  let isOuter (c : Char) : Bool := c.toNat ≤ 32
  let inner := ((cs.dropWhile isOuter).reverse.dropWhile isOuter).reverse
  inner.filter fun c => c ≠ '\t' ∧ c ≠ '\n' ∧ c ≠ '\r'

def isSchemeChar (c : Char) : Bool :=
  c.isAlpha || c.isDigit || c == '+' || c == '-' || c == '.'

def splitScheme? (cs : List Char) : Option (String × List Char) :=
  let name := cs.takeWhile isSchemeChar
  match name, cs.dropWhile isSchemeChar with
  | c :: _, ':' :: rest =>
    if c.isAlpha then some (String.ofList (name.map Char.toLower), rest) else none
  | _, _ => none

def endsPath (c : Char) : Bool := c == '?' || c == '#'

def fragmentOf (cs : List Char) : String :=
  String.ofList (percentEncode EncodeSet.fragment cs)

def queryAndFragment (scheme : String) : List Char → Option String × Option String
  | '?' :: rest =>
    let set := if isSpecial scheme then EncodeSet.specialQuery else EncodeSet.query
    let query := some (String.ofList (percentEncode set (rest.takeWhile (· ≠ '#'))))
    match rest.dropWhile (· ≠ '#') with
    | _ :: fragment => (query, some (fragmentOf fragment))
    | [] => (query, none)
  | '#' :: rest => (none, some (fragmentOf rest))
  | _ => (none, none)

def isSingleDot (cs : List Char) : Bool :=
  let cs := cs.map Char.toLower
  cs == ['.'] || cs == ['%', '2', 'e']

def isDoubleDot (cs : List Char) : Bool :=
  let cs := cs.map Char.toLower
  cs == ['.', '.'] || cs == ['.', '%', '2', 'e'] || cs == ['%', '2', 'e', '.'] ||
    cs == ['%', '2', 'e', '%', '2', 'e']

def isDrive : List Char → Bool
  | [a, b] => a.isAlpha && (b == ':' || b == '|')
  | _ => false

def isPlainDrive (s : String) : Bool := isDrive s.toList && s.endsWith ":"

-- Whether two dots after a segment leave it in place: a drive letter, alone or before a backslash.
def isPinned : List Char → Bool
  | [a, b] => isDrive [a, b]
  | a :: b :: '\\' :: _ => isDrive [a, b]
  | _ => false

def shorten (ss : List String) : List String :=
  match ss.getLast? with
  | some last => if isPinned last.toList then ss else ss.dropLast
  | none => []

/-- Appends a segment as it is written. A dot or two dots at the end leave an empty segment. A drive letter
at the beginning of a file's path gets its colon. -/
def addSegment (scheme : String) (isLast : Bool) (ss : List String) (s : List Char) : List String :=
  let closed (ss : List String) := if isLast then ss ++ [""] else ss
  if isDoubleDot s then closed (shorten ss)
  else if isSingleDot s then closed ss
  else if isFile scheme && ss.isEmpty && isDrive s then [String.ofList (s.take 1 ++ [':'])]
  else ss ++ [String.ofList (percentEncode EncodeSet.path s)]

def addSegments (scheme : String) : List String → List (List Char) → List String
  | ss, [] => ss
  | ss, s :: rest => addSegments scheme (addSegment scheme rest.isEmpty ss s) rest

def isSlash (scheme : String) (c : Char) : Bool := c == '/' || (c == '\\' && isSpecial scheme)

def resolve (scheme : String) (before : List String) (cs : List Char) : List String :=
  let cs := match cs with
    | c :: rest => if isSlash scheme c then rest else c :: rest
    | [] => []
  addSegments scheme before (Text.splitChars (isSlash scheme) cs)

def withoutLeadingEmpty (scheme : String) (ss : List String) : List String :=
  if isFile scheme then
    match ss.dropWhile (· = "") with
    | [] => [""]
    | ss => ss
  else ss

def endsAuthority (scheme : String) (c : Char) : Bool :=
  c == '/' || c == '?' || c == '#' || (c == '\\' && isSpecial scheme)

def userinfoText (cs : List Char) : String :=
  let encode := percentEncode EncodeSet.userinfo
  let name := encode (cs.takeWhile (· ≠ ':'))
  let password := encode ((cs.dropWhile (· ≠ ':')).drop 1)
  let password := if password = [] then [] else ':' :: password
  if name = [] ∧ password = [] then "" else String.ofList (name ++ password ++ ['@'])

def splitUserinfo (cs : List Char) : Option (List Char) × List Char :=
  let after := (cs.reverse.takeWhile (· ≠ '@')).reverse
  if after.length = cs.length then (none, cs)
  else (some (cs.take (cs.length - after.length - 1)), after)

def splitHost (inside : Bool) : List Char → List Char × List Char
  | [] => ([], [])
  | c :: rest =>
    if c = ':' ∧ inside = false then ([], c :: rest)
    else
      let inside := if c = '[' then true else if c = ']' then false else inside
      let (host, rest) := splitHost inside rest
      (c :: host, rest)

-- Digits before the end of the authority; a backslash ends them under any scheme, and is then part of
-- the path.
def port? (scheme : String) (cs : List Char) : Except UrlError (Option Nat) :=
  let ds := cs.takeWhile (· ≠ '\\')
  if ds.any fun c => !c.isDigit then .error .invalidPort
  else
    let n := ds.foldl (fun n c => n * 10 + (c.toNat - 48)) 0
    if 65535 < n then .error .invalidPort
    else .ok (if ds = [] ∨ defaultPort? scheme = some n then none else some n)

def readAuthority (scheme : String) (cs : List Char) : Except UrlError (Authority × List Char) := do
  let written := cs.takeWhile fun c => !endsAuthority scheme c
  let rest := cs.dropWhile fun c => !endsAuthority scheme c
  let (userinfo, hostAndPort) := splitUserinfo written
  if userinfo = some [] ∧ hostAndPort = [] ∧ rest ≠ [] then throw .emptyHost
  let userinfo := userinfo.elim "" userinfoText
  let (host, portPart) := splitHost false hostAndPort
  if host = [] ∧ (isSpecial scheme ∨ portPart ≠ [] ∨ userinfo ≠ "") then throw .emptyHost
  let host ← if isSpecial scheme then webHost host else plainHost host
  let port ← port? scheme (portPart.drop 1)
  let rest := portPart.dropWhile (· ≠ '\\') ++ rest
  return (⟨userinfo, String.ofList host, port⟩, rest)

-- The host of a file: an empty one and `localhost` are the same, and the slash after them is part of
-- the path. A drive letter in its place begins the path.
def readFileAuthority (cs : List Char) : Except UrlError (Authority × List Char) := do
  let written := cs.takeWhile fun c => !endsAuthority "file" c
  if isDrive written then return (⟨"", "", none⟩, cs)
  let host ← if written = [] then pure [] else webHost written
  let rest := cs.drop written.length
  if host = [] ∨ host = "localhost".toList then return (⟨"", "", none⟩, '/' :: rest)
  else return (⟨"", String.ofList host, none⟩, rest)

def pathText (cs : List Char) : List Char := cs.takeWhile fun c => !endsPath c

def complete (scheme : String) (a : Option Authority) (before : List String) (cs : List Char) : Url :=
  let path := pathText cs
  let (query, fragment) := queryAndFragment scheme (cs.dropWhile fun c => !endsPath c)
  let segments :=
    if path = [] ∧ before = [] ∧ isSpecial scheme = false then []
    else withoutLeadingEmpty scheme (resolve scheme before path)
  ⟨scheme, a, .segments segments, query, fragment⟩

def parseFile (cs : List Char) : Except UrlError Url := do
  let (a, rest) ← match cs with
    | c :: d :: rest =>
      if isSlash "file" c && isSlash "file" d then readFileAuthority rest
      else pure (⟨"", "", none⟩, cs)
    | _ => pure (⟨"", "", none⟩, cs)
  let onDrive := (resolve "file" [] (pathText rest)).head?.any isPlainDrive
  return complete "file" (some (if onDrive then { a with host := "" } else a)) [] rest

def parse (s : String) : Except UrlError Url := do
  match splitScheme? (cleaned s.toList) with
  | none => throw .relativeWithoutBase
  | some (scheme, rest) =>
    if isFile scheme then parseFile rest
    else if isSpecial scheme then
      let (a, rest) ← readAuthority scheme (rest.dropWhile (isSlash scheme))
      return complete scheme (some a) [] rest
    else match rest with
      | '/' :: '/' :: rest =>
        let (a, rest) ← readAuthority scheme rest
        return complete scheme (some a) [] rest
      | '/' :: _ => return complete scheme none [] rest
      | _ =>
        let (query, fragment) := queryAndFragment scheme (rest.dropWhile fun c => !endsPath c)
        return ⟨scheme, none, .rootless (String.ofList (percentEncode EncodeSet.controls (pathText rest))),
          query, fragment⟩

/-- A path that begins with a name, relative to a base: it takes the place of the last segment, and of
the query and the fragment. It follows a file's drive letter, as a segment of its own if the letter is
the whole path, and else in the letter's segment. -/
def join (base : Url) (relative : String) : Except UrlError Url :=
  match base.path with
  | .rootless _ => .error .relativeToRootless
  | .segments ss =>
    let relative := cleaned relative.toList
    .ok <| match ss.getLast? with
      | some last =>
        if isFile base.scheme && isPlainDrive last then
          if ss.length = 1 then complete base.scheme base.authority ss relative
          else complete base.scheme base.authority ss.dropLast (last.toList ++ relative)
        else complete base.scheme base.authority ss.dropLast relative
      | none => complete base.scheme base.authority [] relative

end VpExchange.Url
