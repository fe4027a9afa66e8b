import EntityStore.Url.Host

/-!
# Absolute URLs

What makes a text an absolute URL: it starts with a scheme, and when two slashes follow the scheme,
the user, the host and the port after them are well formed. `Url.scheme` answers the scheme of such
a text, and otherwise what is wrong with it. The path and everything after it may be anything.
-/

namespace EntityStore.Url

/-- The characters of a URL that count: blanks and controls at its ends and line breaks and tabs
inside it do not. -/
def significant (url : String) : List Char :=
  let insignificant (c : Char) : Bool := c.toNat ≤ 0x20
  let trimmed := ((url.toList.dropWhile insignificant).reverse.dropWhile insignificant).reverse
  trimmed.filter fun c => c != '\t' && c != '\n' && c != '\r'

def isSchemeChar (c : Char) : Bool :=
  c.isAlphanum || c == '+' || c == '-' || c == '.'

/-- A scheme in small letters, and what follows its colon. -/
def splitScheme (cs : List Char) : Except UrlFault (String × List Char) :=
  match cs.takeWhile isSchemeChar, cs.dropWhile isSchemeChar with
  | first :: scheme, ':' :: rest =>
    if first.isAlpha then .ok (String.ofList ((first :: scheme).map Char.toLower), rest)
    else .error .noScheme
  | _, _ => .error .noScheme

/-- The schemes of which every URL names a host, and backslashes count as slashes. -/
def hostSchemes : List String := ["http", "https", "ws", "wss", "ftp"]

/-- A slash, or a backslash where it counts as one. -/
def isSlash (hosted : Bool) (c : Char) : Bool :=
  c == '/' || (hosted && c == '\\')

/-- What follows the slashes after the scheme, if the URL has them. -/
def afterSlashes? (hosted : Bool) (rest : List Char) : Option (List Char) :=
  if hosted then some (rest.dropWhile (isSlash true))
  else
    match rest with
    | '/' :: '/' :: rest => some rest
    | _ => none

/-- The user before the last at sign, if there is one, and the host and port after it. -/
def splitUser (authority : List Char) : Option (List Char) × List Char :=
  if authority.contains '@' then
    let host := (authority.reverse.takeWhile (· != '@')).reverse
    (some (authority.take (authority.length - host.length - 1)), host)
  else (none, authority)

/-- The host up to the colon of the port; colons in square brackets belong to the host. -/
def hostOf (bracketed : Bool) : List Char → List Char
  | [] => []
  | c :: rest =>
    if c = ':' ∧ bracketed = false then []
    else c :: hostOf (if c = '[' then true else if c = ']' then false else bracketed) rest

/-- A number of 16 bits, or nothing. A backslash ends it. -/
def checkPort (port : List Char) : Except UrlFault Unit :=
  let digits := port.takeWhile (· != '\\')
  if digits.all Char.isDigit && digitsValue digits < 65536 then .ok () else .error .port

/-- Checks user, host and port. A user, a port and the schemes that ask for a host need one. -/
def checkAuthority (hosted : Bool) (cs : List Char) : Except UrlFault Unit := do
  let authority := cs.takeWhile fun c => !(isSlash hosted c || c == '?' || c == '#')
  let (user, rest) := splitUser authority
  let host := hostOf false rest
  let port := rest.drop host.length
  let named := user.any fun user =>
    if user.isEmpty then authority.length < cs.length else user != [':']
  if host.isEmpty && (hosted || named || !port.isEmpty) then .error .emptyHost
  checkHost hosted host
  checkPort (port.drop 1)

/-- A letter and a colon or a bar, which name a drive and no host. -/
def isDrive : List Char → Bool
  | [letter, mark] => letter.isAlpha && (mark == ':' || mark == '|')
  | _ => false

/-- Checks the host of a file, which follows two slashes and may be missing. Neither a user nor a
port is told from it. -/
def checkFile : List Char → Except UrlFault Unit
  | first :: second :: rest =>
    let host := rest.takeWhile fun c => !(isSlash true c || c == '?' || c == '#')
    if isSlash true first && isSlash true second && !host.isEmpty && !isDrive host then
      checkHost true host
    else .ok ()
  | _ => .ok ()

/-- The scheme of an absolute URL. -/
def scheme (url : String) : Except UrlFault String := do
  let (scheme, rest) ← splitScheme (significant url)
  if scheme = "file" then checkFile rest
  else
    let hosted := hostSchemes.contains scheme
    match afterSlashes? hosted rest with
    | some cs => checkAuthority hosted cs
    | none => pure ()
  return scheme

end EntityStore.Url
