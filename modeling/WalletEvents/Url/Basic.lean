import WalletEvents.Url.Host

/-!
# URLs

A URL in its normal form: the scheme in small letters, the host in ASCII, no port that the scheme implies,
a path without dots, and everything else percent-encoded where it has to be.

**Paths.** A URL with an authority or a path from the root has a list of segments; any other one has an
opaque path.
-/

namespace WalletEvents

/-- The path of a URL. -/
inductive UrlPath where
  | opaquePath (text : String)
  | segments (segments : List String)
  deriving DecidableEq

/-- Who asks and where: the part of a URL behind two slashes. -/
structure Authority where
  user : String
  password : String
  host : Host
  port : Option Nat
  deriving DecidableEq

/-- A URL in its normal form. -/
structure Url where
  scheme : String
  authority : Option Authority
  path : UrlPath
  query : Option String
  fragment : Option String
  deriving DecidableEq

namespace Url

/-- The port that a scheme implies. -/
def impliedPort? : String → Option Nat
  | "http" => some 80
  | "https" => some 443
  | "ws" => some 80
  | "wss" => some 443
  | "ftp" => some 21
  | _ => none

/-- Whether a scheme has an authority and a path at all events. -/
def isSpecial (scheme : String) : Bool := scheme == "file" || (impliedPort? scheme).isSome

/-- The written form of segments: a slash before each of them. -/
def segmentsText (segments : List String) : String :=
  String.join (segments.map fun segment => "/" ++ segment)

/-- The written form of the user and the password. -/
def userInfoText (a : Authority) : String :=
  if a.user.isEmpty && a.password.isEmpty then ""
  else a.user ++ (if a.password.isEmpty then "" else ":" ++ a.password) ++ "@"

/-- The written form of an authority with its slashes. -/
def authorityText (a : Authority) : String :=
  "//" ++ userInfoText a ++ a.host.text ++ a.port.elim "" fun port => ":" ++ Nat.repr port

def pathText (u : Url) : String :=
  match u.path with
  | .opaquePath text => text
  | .segments segments => segmentsText segments

/-- What stands between the scheme and the path; two slashes at the beginning of a path must not be taken
for an authority. -/
def beforePath (u : Url) : String :=
  match u.authority, u.path with
  | some a, _ => authorityText a
  | none, .segments ("" :: _ :: _) => "/."
  | none, _ => ""

def text (u : Url) : String :=
  u.scheme ++ ":" ++ u.beforePath ++ u.pathText ++ u.query.elim "" ("?" ++ ·) ++
    u.fragment.elim "" ("#" ++ ·)

/-- What a request for the URL asks its host for. -/
def target (u : Url) : String := u.pathText ++ u.query.elim "" ("?" ++ ·)

/-- The greatest number of characters of a URL that requests can be sent for. -/
def longestRequested : Nat := 65534

/-- Whether requests can be sent for the URL: to a host that has no quotation marks and no braces, and not
for a URL of any length. -/
def isWeb (u : Url) : Bool :=
  let host := u.authority.elim "" fun a => a.host.text
  (u.scheme == "http" || u.scheme == "https") &&
    !(host.toList.any fun c => "\"`\x7b\x7d".contains c) && u.text.length ≤ longestRequested

/-- The URL with the fields of a form behind its query. -/
def withForm (u : Url) (fields : List (String × String)) : Url :=
  if fields.isEmpty then u
  else { u with query := some (String.ofList (Form.append (u.query.getD "").toList fields)) }

end Url

end WalletEvents
