import CatalogSearch.Url.Host

/-!
# URLs

A URL in its parts, all of them in their percent-encoded form. The path is a list of segments, or a
text without structure when the URL has neither a host nor a leading slash. `Url.extend?` appends
segments to a path, each encoded so that it stays one segment.
-/

namespace CatalogSearch

/-- The path of a URL: segments, each after a slash, or a text that no segment can be added to. -/
inductive UrlPath where
  | segments (segments : List String)
  | rootless (text : String)
deriving DecidableEq

/-- A URL. An empty user name or password is one that is not there. -/
structure Url where
  scheme : String
  username : String
  password : String
  host : Option Host
  portNumber : Option Nat
  path : UrlPath
  query : Option String
  fragment : Option String
deriving DecidableEq

namespace Url

/-- The schemes whose URLs always have a host and in which a backslash is a slash. -/
def specialSchemes : List String := ["http", "https", "ws", "wss", "ftp", "file"]

/-- Whether the scheme is a special one. -/
def isSpecial (url : Url) : Bool := specialSchemes.contains url.scheme

/-- The number that a scheme puts behind the host when a URL has none. -/
def defaultPortNumber? : String → Option Nat
  | "http" => some 80
  | "https" => some 443
  | "ws" => some 80
  | "wss" => some 443
  | "ftp" => some 21
  | _ => none

/-- The text of the user name and password, with the mark that ends them. -/
def userinfoText (url : Url) : String :=
  let password := if url.password.isEmpty then "" else ":" ++ url.password
  if url.username.isEmpty && url.password.isEmpty then "" else url.username ++ password ++ "@"

/-- The text of the host and the number behind it. -/
def hostText (url : Url) : String :=
  match url.host with
  | none => ""
  | some host =>
    host.text ++ (url.portNumber.elim "" fun number => ":" ++ String.ofList (decimalDigits number))

/-- The text from the scheme to the host. -/
def authorityText (url : Url) : String :=
  if url.host.isSome then "//" ++ url.userinfoText ++ url.hostText else ""

/-- The text of segments, each after a slash. -/
def segmentsText (segments : List String) : String :=
  String.join (segments.map ("/" ++ ·))

/-- The text of the path. Without a host, a path that starts with an empty segment is marked, so
that the segment is not read as a host. -/
def pathText (url : Url) : String :=
  match url.path with
  | .rootless text => text
  | .segments segments =>
    let mark := if url.host.isNone && 1 < segments.length && segments.head? = some "" then "/."
      else ""
    mark ++ segmentsText segments

/-- The text of the query, with its mark. -/
def queryText (url : Url) : String := url.query.elim "" ("?" ++ ·)

/-- The text of the fragment, with its mark. -/
def fragmentText (url : Url) : String := url.fragment.elim "" ("#" ++ ·)

/-- The text of a URL. -/
def text (url : Url) : String :=
  url.scheme ++ ":" ++ url.authorityText ++ url.pathText ++ url.queryText ++ url.fragmentText

/-- The part of a URL that a request sends: its path and query. -/
def target (url : Url) : String := url.pathText ++ url.queryText

/-- A URL without user name and password. -/
def withoutUserinfo (url : Url) : Url := { url with username := "", password := "" }

/-- Segments without an empty last one, unless it is the only one. -/
def dropEmptyLast (segments : List String) : List String :=
  if 1 < segments.length ∧ segments.getLast? = some "" then segments.dropLast else segments

/-- Whether a character leaves no trace in a URL. -/
def isIgnored (c : Char) : Bool := c = '\t' || c = '\n' || c = '\r'

/-- The encoded form of a text that is to be a single segment. -/
def encodeSegment (special : Bool) (segment : String) : String :=
  let set := if special then Percent.specialSegmentSet else Percent.segmentSet
  String.ofList (Percent.encode set (segment.toList.filter fun c => !isIgnored c))

/-- Whether a segment starts like a drive: a letter and its mark, with nothing behind them or a
backslash. -/
def startsWithDrive (segment : String) : Bool :=
  match segment.toList with
  | letter :: mark :: rest =>
    letter.isAlpha && (mark = ':' || mark = '|') && (rest.isEmpty || rest.head? = some '\\')
  | _ => false

/-- Segments without the last one, which stays if it starts like a drive. -/
def goBack (segments : List String) : List String :=
  if segments.getLast?.any startsWithDrive then segments else segments.dropLast

/-- Append a segment. The dot segments are left out; a text that becomes one of them when the
characters without a trace are dropped has its usual meaning and ends the path with an empty
segment. The only segment of a root path is replaced. -/
def pushSegment (special : Bool) (segments : List String) (segment : String) : List String :=
  if segment = "." ∨ segment = ".." then segments
  else
    let before := if segments = [""] then [] else segments
    let encoded := encodeSegment special segment
    if encoded = "." then before ++ [""]
    else if encoded = ".." then goBack before ++ [""]
    else before ++ [encoded]

/-- Append segments to the path, after dropping an empty last one. A path without structure cannot
be extended. -/
def extend? (url : Url) (segments : List String) : Option Url :=
  match url.path with
  | .rootless _ => none
  | .segments base =>
    some
      { url with
        path := .segments (segments.foldl (pushSegment url.isSpecial) (dropEmptyLast base)) }

end Url

end CatalogSearch
