import TagCache.Text.Blank
import TagCache.Url.Basic
import TagCache.Url.FilePath

/-!
# Reading urls

A text is read as a url of its own, or as a reference that is resolved against a base. Controls and
spaces at its ends and tabs and line breaks anywhere are not part of it. What is read is put into
its encoded form, so a text has many spellings and a url has one.
-/

namespace TagCache.Url

/-! ## Parts of a text -/

/-- The text without controls and spaces at its ends. -/
def trim (cs : List Char) : List Char := Text.trimChars (· ≤ ' ') cs

/-- Whether a character may stand in a scheme behind the first letter. -/
def isSchemeChar (c : Char) : Bool := c.isAlphanum || c = '+' || c = '-' || c = '.'

/-- The scheme at the start of a text, and what is behind its colon. -/
def readScheme? (cs : List Char) : Option (Scheme × List Char) :=
  let name := unbroken (cs.takeWhile (· ≠ ':'))
  match cs.dropWhile (· ≠ ':') with
  | _ :: rest =>
    if name.head?.any Char.isAlpha && name.all isSchemeChar then
      some (.ofChars (name.map Char.toLower), rest)
    else none
  | [] => none

/-- Whether a character ends a path. -/
def endsPath (c : Char) : Bool := c = '?' || c = '#'

/-- Query and fragment of a text that begins with either, or is empty. -/
def readTail (scheme : Scheme) : List Char → Option (List Char) × Option (List Char)
  | '?' :: cs =>
    let query := some (Percent.encode scheme.querySet (cs.takeWhile (· ≠ '#')))
    match cs.dropWhile (· ≠ '#') with
    | _ :: rest => (query, some (Percent.encode Percent.fragmentSet rest))
    | [] => (query, none)
  | '#' :: cs => (none, some (Percent.encode Percent.fragmentSet cs))
  | _ => (none, none)

/-- The segments of the text of a path. -/
def readSegments (scheme : Scheme) (cs : List Char) : List (List Char) :=
  (pieces scheme.isSlash cs).map (Percent.encode Percent.pathSet)

/-- The url whose path, query and fragment are left to read. -/
def readRest (scheme : Scheme) (authority : Option Authority) (readPath : List Char → Path)
    (cs : List Char) : Url :=
  let (query, fragment) := readTail scheme (cs.dropWhile (!endsPath ·))
  ⟨scheme, authority, readPath (cs.takeWhile (!endsPath ·)), query, fragment⟩

/-! ## Authorities -/

/-- Whether a character ends an authority. -/
def endsAuthority (scheme : Scheme) (c : Char) : Bool := scheme.isSlash c || endsPath c

/-- User name and password of a text before the sign, the password behind the first colon. An
empty password is none. -/
def readUserinfo (cs : List Char) : List Char × Option (List Char) :=
  let encode := Percent.encode Percent.userinfoSet
  let password := match cs.dropWhile (· ≠ ':') with
    | _ :: c :: rest => some (encode (c :: rest))
    | _ => none
  (encode (cs.takeWhile (· ≠ ':')), password)

/-- The text of a host, which a colon outside brackets ends, and what is behind it. -/
def splitHost (scheme : Scheme) : Bool → List Char → List Char × List Char
  | _, [] => ([], [])
  | bracketed, c :: cs =>
    if endsAuthority scheme c || (c = ':' && !bracketed) then ([], c :: cs)
    else
      let (host, rest) := splitHost scheme (c = '[' || (bracketed && c ≠ ']')) cs
      (c :: host, rest)

/-- The port behind a host, and what is behind it. The port of the scheme is none. -/
def readPort (scheme : Scheme) : List Char → Except UrlError (Option Nat × List Char)
  | ':' :: cs =>
    let digits := cs.takeWhile Char.isDigit
    let rest := cs.dropWhile Char.isDigit
    let port := digits.foldl (fun n d => n * 10 + (d.toNat - '0'.toNat)) 0
    if 0xffff < port then .error .invalidPort
    else if !rest.head?.all fun c => c = '/' || c = '\\' || endsPath c then .error .invalidPort
    else if digits.isEmpty || scheme.defaultPort? = some port then .ok (none, rest)
    else .ok (some port, rest)
  | cs => .ok (none, cs)

/-- Host and port at the start of a text, and what is behind them. -/
def readHostPort (scheme : Scheme) (cs : List Char) :
    Except UrlError (Option Host × Option Nat × List Char) := do
  let (text, rest) := splitHost scheme false cs
  if text.isEmpty then
    if scheme.isSpecial || rest.head? = some ':' then throw .emptyHost
    return (none, none, rest)
  let host ← if scheme.isSpecial then Host.ofSpecial text else Host.ofOther text
  let (port, rest) ← readPort scheme rest
  return (some host, port, rest)

/-- The authority at the start of a text, and what is behind it. Its last at sign ends the user
information, for which a host is needed. -/
def readAuthority (scheme : Scheme) (cs : List Char) :
    Except UrlError (Authority × List Char) := do
  let rest := cs.dropWhile (!endsAuthority scheme ·)
  match splitLast? '@' (cs.takeWhile (!endsAuthority scheme ·)) with
  | none =>
    let (host, port, rest) ← readHostPort scheme cs
    return (⟨[], none, host, port⟩, rest)
  | some (userinfo, behind) =>
    if userinfo.isEmpty && behind.isEmpty && !rest.isEmpty then throw .emptyHost
    let (username, password) := readUserinfo userinfo
    let (host, port, rest) ← readHostPort scheme (behind ++ rest)
    let authority : Authority := ⟨username, password, host, port⟩
    if host.isNone && authority.hasUserinfo then throw .emptyHost
    return (authority, rest)

/-! ## Urls without a base -/

/-- The path behind an authority. Special schemes have at least the root. -/
def readRooted (scheme : Scheme) : List Char → Path
  | [] => .rooted (if scheme.isSpecial then [[]] else [])
  | c :: cs =>
    let cs := if scheme.isSlash c then cs else c :: cs
    .rooted (Path.extend [] (readSegments scheme cs))

/-- The url whose text begins with an authority. -/
def readFromAuthority (scheme : Scheme) (cs : List Char) : Except UrlError Url := do
  let (authority, rest) ← readAuthority scheme cs
  return readRest scheme (some authority) (readRooted scheme) rest

/-- What is behind a slash at the start of a text with breaks. -/
def dropSlash? (cs : List Char) : Option (List Char) :=
  match cs.dropWhile isBreak with
  | c :: rest => if Scheme.file.isSlash c then some rest else none
  | [] => none

/-- The host of a url of the file scheme. The local host is none. -/
def readFileHost (cs : List Char) : Except UrlError (Option Host) := do
  if cs.isEmpty then return none
  match ← Host.ofSpecial cs with
  | .domain ['l', 'o', 'c', 'a', 'l', 'h', 'o', 's', 't'] => return none
  | host => return some host

/-- The url of the file scheme with a host and what is behind it. A drive is on no host. -/
def fileUrl (host : Option Host) (cs : List Char) : Url :=
  let cs := (dropSlash? cs).getD cs
  let path := FilePath.ofChars Scheme.file.isSlash (cs.takeWhile (!endsPath ·))
  let host := if path.drive.isSome then none else host
  let (query, fragment) := readTail .file (unbroken (cs.dropWhile (!endsPath ·)))
  ⟨.file, some ⟨[], none, host, none⟩, path.toPath, query, fragment⟩

/-- The url of the file scheme with a text behind the scheme that may have breaks. Two slashes begin
a host. A drive letter is none, and without a host the slash behind it does not begin the path: it
stands in it. -/
def readFile (cs : List Char) : Except UrlError Url :=
  match (dropSlash? cs).bind dropSlash? with
  | none => .ok (fileUrl none cs)
  | some cs =>
    let text := unbroken (cs.takeWhile (!endsAuthority .file ·))
    if Path.isDriveLetter text then .ok (fileUrl none cs) else do
    let rest := cs.dropWhile (!endsAuthority .file ·)
    match ← readFileHost text with
    | some host => return fileUrl (some host) rest
    | none => return fileUrl none ('/' :: rest)

/-- The url with a scheme and a text without breaks behind it. -/
def readUnbroken (scheme : Scheme) (cs : List Char) : Except UrlError Url :=
  if scheme.isNetwork then readFromAuthority scheme (cs.dropWhile scheme.isSlash)
  else match cs with
    | '/' :: '/' :: cs => readFromAuthority scheme cs
    | '/' :: cs => .ok (readRest scheme none (readRooted scheme) ('/' :: cs))
    | cs => .ok (readRest scheme none (fun cs => .bare (Percent.encode Percent.controlSet cs)) cs)

/-- The url with a scheme and a text behind it. Breaks mean something in the file scheme only. -/
def readAbsolute (scheme : Scheme) (cs : List Char) : Except UrlError Url :=
  if scheme = .file then readFile cs else readUnbroken scheme (unbroken cs)

/-- The url that a text stands for. -/
def parse (cs : List Char) : Except UrlError Url :=
  match readScheme? (trim cs) with
  | some (scheme, rest) => readAbsolute scheme rest
  | none => .error .noBase

/-! ## References -/

/-- The url that a reference without scheme and host stands for. It leads on from the last slash of
the base. A reference with an empty path stays at the base, and keeps its query unless it has one
of its own. -/
def resolveBelow (base : Url) (cs : List Char) : Url :=
  let readPath (path : List Char) : Path := match base.path with
    | .rooted segments =>
      if path.isEmpty then .rooted segments
      else .rooted (Path.extend segments.dropLast (readSegments base.scheme path))
    | .bare text => .bare text
  let url := readRest base.scheme base.authority readPath cs
  if cs.head?.all (· = '#') then { url with query := base.query } else url

/-- The url that a reference without a scheme stands for. Two slashes begin an authority, one the
path. Only urls of networks are bases. -/
def resolve (base : Url) (cs : List Char) : Except UrlError Url :=
  if !base.scheme.isNetwork then .error .noBase else
  match (cs.takeWhile base.scheme.isSlash).length with
  | 0 => .ok (resolveBelow base cs)
  | 1 => .ok (readRest base.scheme base.authority (readRooted base.scheme) cs)
  | _ => readFromAuthority base.scheme (match cs with
    | '/' :: '/' :: rest => rest
    | _ => cs.dropWhile base.scheme.isSlash)

/-- The url that a text stands for next to a base. A text with the scheme of the base is still a
reference if it has no authority. -/
def join (base : Url) (cs : List Char) : Except UrlError Url :=
  match readScheme? (trim cs) with
  | some (scheme, rest) =>
    if scheme = base.scheme && scheme.isNetwork
        && ((unbroken rest).takeWhile scheme.isSlash).length < 2 then
      resolve base (unbroken rest)
    else readAbsolute scheme rest
  | none => resolve base (unbroken (trim cs))

end TagCache.Url
