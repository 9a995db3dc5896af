import WalletEvents.Url.Basic

/-!
# Reading URLs

A text is read as a URL from left to right: scheme, authority, path, query and fragment. Blanks and
control characters around the text, and tabs and line breaks anywhere, are left out.

**Segments.** A segment of one dot stands for nothing, and one of two dots for leaving out the segment
before it; the dots may be percent-encoded.

**Files.** The first segment of a file may be a drive: a letter and a colon, for which a bar may stand.

**References.** `Url.join` reads a text relative to a URL, when it begins with the name of a segment.
-/

namespace WalletEvents

namespace Url

/-- Whether the character is left out at the ends of a text. -/
def isMargin (c : Char) : Bool := c.toNat ≤ 32

/-- Whether the character is left out everywhere. -/
def isBreak (c : Char) : Bool := c == '\t' || c == '\n' || c == '\r'

def withoutMargins (text : List Char) : List Char :=
  ((text.dropWhile isMargin).reverse.dropWhile isMargin).reverse

/-- The characters that count. -/
def significant (text : List Char) : List Char := text.filter fun c => !isBreak c

/-- Whether the character may stand in a scheme behind the first one. -/
def inScheme (c : Char) : Bool := c.isAlphanum || "+-.".contains c

/-- The scheme before a colon, and what follows the colon. -/
def takeScheme? (text : List Char) : Option (String × List Char) :=
  match text with
  | [] => none
  | first :: _ =>
    if first.isAlpha then
      match text.dropWhile inScheme with
      | ':' :: rest => some (String.ofList ((text.takeWhile inScheme).map Char.toLower), rest)
      | _ => none
    else none

/-- Whether the character is a slash in the path of a URL. -/
def isSlash (special : Bool) (c : Char) : Bool := c == '/' || (special && c == '\\')

/-- The path, the query and the fragment of the rest of a URL, as they are written. -/
def splitRest (rest : List Char) : List Char × Option (List Char) × Option (List Char) :=
  let (beforeFragment, fragment) : List Char × Option (List Char) :=
    match cutFirst? '#' rest with
    | some (before, fragment) => (before, some fragment)
    | none => (rest, none)
  match cutFirst? '?' beforeFragment with
  | some (path, query) => (path, some query, fragment)
  | none => (beforeFragment, none, fragment)

/-- The URL with the query and the fragment in their normal form. -/
def finish (scheme : String) (authority : Option Authority) (path : UrlPath)
    (query fragment : Option (List Char)) : Url where
  scheme := scheme
  authority := authority
  path := path
  query := query.map fun text =>
    String.ofList (Percent.encode (Percent.inQuery (isSpecial scheme)) text)
  fragment := fragment.map fun text => String.ofList (Percent.encode Percent.inFragment text)

/-- The segment with percent-encoded dots decoded. -/
def plainDots : List Char → List Char
  | '%' :: '2' :: e :: rest =>
    if e = 'e' ∨ e = 'E' then '.' :: plainDots rest else '%' :: '2' :: e :: plainDots rest
  | c :: rest => c :: plainDots rest
  | [] => []

/-- Whether the segment is a letter and a colon or a bar. -/
def isDrive : List Char → Bool
  | [letter, mark] => letter.isAlpha && (mark == ':' || mark == '|')
  | _ => false

/-- The segments without the last one; what looks like a drive stays. -/
def leave (segments : List String) : List String :=
  if segments.getLast?.any fun last => isDrive last.toList then segments else segments.dropLast

/-- A segment in its normal form. -/
def normalSegment (segment : List Char) : String :=
  String.ofList (Percent.encode Percent.inPath segment)

/-- A segment in its normal form behind others; the drive of a file comes first and has a colon. -/
def pushSegment (scheme : String) (segments : List String) (segment : List Char) : List String :=
  if scheme = "file" ∧ segments = [] ∧ isDrive segment then
    [String.ofList (segment.map fun c => if c = '|' then ':' else c)]
  else segments ++ [normalSegment segment]

/-- Appends the segments of a text; the last one may stand for an empty one. -/
def pushSegments (scheme : String) (segments : List String) : List (List Char) → List String
  | [] => segments
  | segment :: rest =>
    if plainDots segment = ['.', '.'] then
      let segments := leave segments
      if rest.isEmpty then segments ++ [""] else pushSegments scheme segments rest
    else if plainDots segment = ['.'] then
      if rest.isEmpty then segments ++ [""] else pushSegments scheme segments rest
    else pushSegments scheme (pushSegment scheme segments segment) rest

/-- Appends the segments that are written in a text. -/
def appendPath (scheme : String) (segments : List String) (text : List Char) : List String :=
  let slashes := text.map fun c => if isSlash (isSpecial scheme) c then '/' else c
  pushSegments scheme segments (splitAll '/' slashes)

/-- The segments of a path behind an authority. -/
def rootPath (scheme : String) (text : List Char) : List String :=
  match text with
  | [] => if isSpecial scheme then [""] else []
  | c :: rest =>
    if isSlash (isSpecial scheme) c then appendPath scheme [] rest else appendPath scheme [] text

/-- What stands before the last `@` and what stands after it. -/
def cutAtLastAt? (text : List Char) : Option (List Char × List Char) :=
  if text.contains '@' then
    let after := (text.reverse.takeWhile (· != '@')).reverse
    some ((text.take (text.length - after.length)).dropLast, after)
  else none

/-- The host and what follows it; a colon in brackets belongs to the host. -/
def splitHost (bracketed : Bool) : List Char → List Char × List Char
  | [] => ([], [])
  | c :: rest =>
    if c = ':' ∧ !bracketed then ([], c :: rest)
    else
      let bracketed := if c = '[' then true else if c = ']' then false else bracketed
      let (host, after) := splitHost bracketed rest
      (c :: host, after)

/-- The user and the password in their normal form. -/
def userInfo (text : List Char) : String × String :=
  let encoded (text : List Char) := String.ofList (Percent.encode Percent.inUserInfo text)
  match cutFirst? ':' text with
  | some (user, password) => (encoded user, encoded password)
  | none => (encoded text, "")

/-- The port of a URL, unless the scheme implies it. -/
def port (scheme : String) (digits : List Char) : Except UrlFault (Option Nat) :=
  if !digits.all Char.isDigit then .error .port
  else
    let number := digitsValueUpTo 65536 digits
    if 65535 < number then .error .port
    else if digits.isEmpty ∨ impliedPort? scheme = some number then .ok none
    else .ok (some number)

/-- The host and the port of a URL, and what is left of the text. -/
def hostAndPort (scheme : String) (text : List Char) :
    Except UrlFault (Host × Option Nat × List Char) := do
  let (hostText, after) := splitHost false text
  let host ←
    if isSpecial scheme then
      if hostText.isEmpty then throw .emptyHost else Host.domain hostText
    else Host.ofAny hostText
  match after with
  | ':' :: rest =>
    if host.isEmpty then throw .emptyHost
    let port ← port scheme (rest.takeWhile (· != '\\'))
    return (host, port, rest.dropWhile (· != '\\'))
  | _ => return (host, none, [])

/-- Reads a URL behind the two slashes of its authority. -/
def behindSlashes (scheme : String) (text : List Char) : Except UrlFault Url := do
  let ends (c : Char) := c == '?' || c == '#' || isSlash (isSpecial scheme) c
  let written := text.takeWhile fun c => !ends c
  let rest := text.dropWhile fun c => !ends c
  let (info, place) := (cutAtLastAt? written).getD ([], written)
  if written = ['@'] ∧ rest ≠ [] then throw .emptyHost
  let (user, password) := userInfo info
  let (host, port, left) ← hostAndPort scheme place
  if host.isEmpty ∧ !(user.isEmpty ∧ password.isEmpty) then throw .emptyHost
  let (path, query, fragment) := splitRest (left ++ rest)
  return finish scheme (some ⟨user, password, host, port⟩) (.segments (rootPath scheme path))
    query fragment

/-- What follows a slash at the beginning of a text with breaks. -/
def behindSlash? (text : List Char) : Option (List Char) :=
  match text.dropWhile isBreak with
  | c :: rest => if isSlash true c then some rest else none
  | [] => none

/-- The letter of a drive and what follows it in the same segment, if a break stands between them. -/
def partedDrive? (text : List Char) : Option (Char × List Char) :=
  match text.dropWhile isBreak with
  | letter :: rest =>
    match rest.dropWhile isBreak with
    | ':' :: mark :: rest =>
      match rest.dropWhile isBreak with
      | c :: rest =>
        if letter.isAlpha && isBreak mark && !isSlash true c then some (letter, c :: rest) else none
      | [] => none
    | _ => none
  | [] => none

/-- The segments of a path behind its first slash; what is parted from a drive is a segment of its own,
which stands for itself. -/
def fileSegments (text : List Char) : List String :=
  match partedDrive? text with
  | none => appendPath "file" [] (significant text)
  | some (letter, rest) =>
    let rest := significant rest
    let parted := normalSegment (rest.takeWhile fun c => !isSlash true c)
    let segments := [String.ofList [letter, ':'], parted]
    match rest.dropWhile fun c => !isSlash true c with
    | [] => segments
    | _ :: rest => appendPath "file" segments rest

/-- Whether a path behind its first slash begins with a drive, which no break parts from the rest. -/
def beginsWithDrive (text : List Char) : Bool :=
  (partedDrive? text).isNone && (fileSegments text).head?.any fun first => isDrive first.toList

/-- The host of a file, if there is one. -/
def fileHost (text : List Char) : Except UrlFault Host :=
  if text.isEmpty || isDrive text then .ok (.name "")
  else do
    let host ← Host.domain text
    return if host = .name "localhost" then .name "" else host

/-- The host and the segments of a file behind the two slashes. A path without a host keeps its first slash,
and a drive takes the place of the host. -/
def hostAndSegments (text : List Char) : Except UrlFault (Host × List String) := do
  let written := significant (text.takeWhile fun c => !isSlash true c)
  let path := text.dropWhile fun c => !isSlash true c
  let host ← fileHost written
  if isDrive written then return (host, fileSegments text)
  else if host.isEmpty then return (host, appendPath "file" [] (significant path))
  else
    let path := path.drop 1
    return (if beginsWithDrive path then .name "" else host, fileSegments path)

/-- Reads the URL of a file behind its scheme; the path has no empty segments at the beginning. -/
def file (text : List Char) : Except UrlFault Url := do
  let (path, query, fragment) := splitRest text
  let (host, segments) ←
    match behindSlash? path with
    | none => pure (Host.name "", fileSegments path)
    | some rest =>
      match behindSlash? rest with
      | none => pure (Host.name "", fileSegments rest)
      | some rest => hostAndSegments rest
  let segments := segments.dropWhile String.isEmpty
  return finish "file" (some ⟨"", "", host, none⟩)
    (.segments (if segments.isEmpty then [""] else segments))
    (query.map significant) (fragment.map significant)

/-- Reads a URL whose scheme is not special behind its scheme. -/
def general (scheme : String) (text : List Char) : Except UrlFault Url :=
  match text with
  | '/' :: '/' :: rest => behindSlashes scheme rest
  | _ =>
    let (path, query, fragment) := splitRest text
    match path with
    | '/' :: rest =>
      .ok (finish scheme none (.segments (appendPath scheme [] rest)) query fragment)
    | _ =>
      let opaqueText := String.ofList (Percent.encode Percent.isPlain path)
      .ok (finish scheme none (.opaquePath opaqueText) query fragment)

def read (text : String) : Except UrlFault Url :=
  let text := withoutMargins text.toList
  match takeScheme? (significant text) with
  | none => .error .relativeWithoutBase
  | some (scheme, rest) =>
    if scheme = "file" then file ((text.dropWhile (· != ':')).drop 1)
    else if isSpecial scheme then behindSlashes scheme (rest.dropWhile (isSlash true))
    else general scheme rest

/-- Reads a text that begins with the name of a segment relative to a URL. -/
def join (base : Url) (reference : String) : Except UrlFault Url :=
  match base.path with
  | .opaquePath _ => .error .relativeToOpaqueBase
  | .segments segments =>
    let (path, query, fragment) := splitRest (significant (withoutMargins reference.toList))
    let path := appendPath base.scheme segments.dropLast path
    .ok (finish base.scheme base.authority (.segments path) query fragment)

end Url

end WalletEvents
