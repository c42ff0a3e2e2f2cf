import CatalogSearch.Url.Basic

/-!
# Reading URLs

A URL is read from its absolute text: the scheme, the user name and password, the host and the
number behind it, the path with its dot segments resolved, the query and the fragment. Blanks
around the text and line breaks and tabs inside it are dropped. What is not in encoded form yet is
encoded, and the number that a scheme stands for is dropped, so that two ways to write a URL have
one text.
-/

namespace CatalogSearch.Url

/-- A text without the controls and spaces at its ends. -/
def trimmed (text : List Char) : List Char :=
  let isEdge := fun (c : Char) => c.toNat ≤ 0x20
  ((text.dropWhile isEdge).reverse.dropWhile isEdge).reverse

/-- A text without line breaks and tabs. -/
def unbroken (text : List Char) : List Char := text.filter fun c => !isIgnored c

/-- Split a text at the first of some characters, which is dropped; nothing follows if there is
none. -/
def splitFirst (isMark : Char → Bool) (text : List Char) : List Char × Option (List Char) :=
  match text.dropWhile fun c => !isMark c with
  | [] => (text, none)
  | _ :: rest => (text.takeWhile fun c => !isMark c, some rest)

/-- Split a text at its last at-sign; nothing precedes if there is none. -/
def splitUserinfo (text : List Char) : Option (List Char) × List Char :=
  match splitFirst (· = '@') text.reverse with
  | (_, none) => (none, text)
  | (host, some userinfo) => (some userinfo.reverse, host.reverse)

/-- Read the scheme: a letter, then letters, digits, plus signs, hyphens and points up to a
colon. -/
def splitScheme? (text : List Char) : Option (String × List Char) := do
  let (scheme, rest) := splitFirst (· = ':') text
  let rest ← rest
  let scheme := unbroken scheme
  let first ← scheme.head?
  guard first.isAlpha
  guard (scheme.all fun c => c.isAlphanum || c = '+' || c = '-' || c = '.')
  pure (String.ofList (scheme.map Char.toLower), rest)

/-- Split a host from the number behind it; a colon in brackets belongs to the host. -/
def splitPortNumber (text : List Char) : List Char × Option (List Char) :=
  go false text
where
  /-- Split, knowing whether a bracket is open. -/
  go (inside : Bool) : List Char → List Char × Option (List Char)
    | [] => ([], none)
    | c :: rest =>
      if c = ':' ∧ inside = false then ([], some rest)
      else
        let inside := if c = '[' then true else if c = ']' then false else inside
        let (host, number) := go inside rest
        (c :: host, number)

/-- Read the number behind a host, up to its end or a backslash, and what follows. None is given by
no digits, and by the default of the scheme. -/
def readPortNumber? (scheme : String) (text : List Char) : Option (Option Nat × List Char) := do
  let digits := text.takeWhile Char.isDigit
  let rest := text.dropWhile Char.isDigit
  guard (rest.isEmpty || rest.head? = some '\\')
  let number := natOfDigits digits
  guard (number < UInt16.size)
  let isDefault := digits.isEmpty || some number = defaultPortNumber? scheme
  pure (if isDefault then none else some number, rest)

/-- The user name, the password, the host of a URL and the number behind it, and the start of the
path, if a backslash makes it follow the number directly. -/
structure Authority where
  username : String
  password : String
  host : Host
  portNumber : Option Nat
  pathStart : List Char

/-- Read an authority. The flag tells whether anything follows it. -/
def readAuthority? (scheme : String) (followed : Bool) (text : List Char) : Option Authority := do
  let special := specialSchemes.contains scheme
  let (userinfo, hostPart) := splitUserinfo text
  guard (!(userinfo = some [] && hostPart.isEmpty && followed))
  let (username, password) := splitFirst (· = ':') (userinfo.getD [])
  let username := String.ofList (Percent.encode Percent.userinfoSet username)
  let password := String.ofList (Percent.encode Percent.userinfoSet (password.getD []))
  let (hostText, numberText) := splitPortNumber hostPart
  let host ← if special then Host.readSpecial? hostText else Host.readOther? hostText
  guard (!(hostText.isEmpty && (numberText.isSome || !username.isEmpty || !password.isEmpty)))
  let (portNumber, pathStart) ← readPortNumber? scheme (numberText.getD [])
  pure { username, password, host, portNumber, pathStart }

/-- Whether an encoded segment is a single dot. -/
def isSingleDot (segment : List Char) : Bool :=
  let folded := segment.map Char.toLower
  folded = ".".toList || folded = "%2e".toList

/-- Whether an encoded segment is a double dot. -/
def isDoubleDot (segment : List Char) : Bool :=
  let folded := segment.map Char.toLower
  folded = "..".toList || folded = ".%2e".toList || folded = "%2e.".toList ||
    folded = "%2e%2e".toList

/-- Whether a segment is a drive letter with its mark. -/
def isDrive (segment : List Char) : Bool :=
  match segment with
  | [letter, mark] => letter.isAlpha && (mark = ':' || mark = '|')
  | _ => false

/-- The drive in front of a written segment and the rest of it, if a line break or tab stands
between them. -/
def splitDrive? (written : List Char) : Option (List Char × List Char) :=
  match written.dropWhile isIgnored with
  | [] => none
  | letter :: behind =>
    match behind.dropWhile isIgnored with
    | ':' :: c :: behind =>
      let rest := unbroken behind
      if letter.isAlpha && isIgnored c && !rest.isEmpty then some ([letter, ':'], rest) else none
    | _ => none

/-- The encoded form of a part of a written path. -/
def encodePath (written : List Char) : String :=
  String.ofList (Percent.encode Percent.pathSet written)

/-- The segments of a path read so far. The flag tells whether the path is on a drive that takes
the place of a host. -/
structure PathReader where
  segments : List String
  onDrive : Bool

/-- Read a written segment. A double dot goes back by one segment and a single dot stays; at the
end of a path either leaves an empty segment. The path of a file may start with a drive: its mark
becomes a colon, and a line break or tab behind the colon counts as a slash. -/
def PathReader.read (file : Bool) (reader : PathReader) (written : List Char) (final : Bool) :
    PathReader :=
  let starts := file && reader.segments.isEmpty
  let segment := Percent.encode Percent.pathSet (unbroken written)
  let ending := if final then [""] else []
  let drive? := if starts then splitDrive? written else none
  match drive? with
  | some (drive, rest) => { reader with segments := [encodePath drive, encodePath rest] }
  | none =>
    if isDoubleDot segment then { reader with segments := goBack reader.segments ++ ending }
    else if isSingleDot segment then { reader with segments := reader.segments ++ ending }
    else if starts && isDrive segment then
      { segments := [String.ofList (segment.take 1 ++ [':'])], onDrive := true }
    else { reader with segments := reader.segments ++ [String.ofList segment] }

/-- Read the written segments of a path. -/
def PathReader.readAll (file : Bool) (reader : PathReader) : List (List Char) → PathReader
  | [] => reader
  | written :: rest => (reader.read file written rest.isEmpty).readAll file rest

/-- Segments without the empty ones before another. -/
def dropEmptyFirst : List String → List String
  | [] => []
  | [only] => [only]
  | segment :: next :: rest =>
    if segment.isEmpty then dropEmptyFirst (next :: rest) else segment :: next :: rest

/-- Whether a character separates the segments of a path. -/
def isSeparator (special : Bool) (c : Char) : Bool := c = '/' || (special && c = '\\')

/-- Read a path, which a separator may stand in front of. -/
def readSegments (special file : Bool) (text : List Char) : PathReader :=
  let written := match text.dropWhile isIgnored with
    | [] => []
    | c :: rest => if isSeparator special c then rest else c :: rest
  PathReader.readAll file ⟨[], false⟩ (written.splitOnP (isSeparator special))

/-- Read the path after an authority. The special schemes always have one segment at least. -/
def readPath (special : Bool) (text : List Char) : UrlPath :=
  if text.isEmpty && !special then .segments []
  else .segments (readSegments special false text).segments

/-- The host and the path of a URL, with what belongs to the host. -/
structure Hierarchy where
  username : String
  password : String
  host : Option Host
  portNumber : Option Nat
  path : UrlPath

/-- The hierarchy of an authority and the path after it. -/
def Authority.withPath (authority : Authority) (path : UrlPath) : Hierarchy :=
  { username := authority.username
    password := authority.password
    host := some authority.host
    portNumber := authority.portNumber
    path := path }

/-- The hierarchy that is only a path. -/
def Hierarchy.ofPath (host : Option Host) (path : UrlPath) : Hierarchy :=
  { username := "", password := "", host := host, portNumber := none, path := path }

/-- The hierarchy of a file. A drive takes the place of the host. -/
def Hierarchy.ofFile (host : Host) (text : List Char) : Hierarchy :=
  let reader := readSegments true true text
  .ofPath (some (if reader.onDrive then .name "" else host))
    (.segments (dropEmptyFirst reader.segments))

/-- Split a text behind its first two characters, if both are separators. -/
def splitSlashes? (text : List Char) : Option (List Char) :=
  match text.dropWhile isIgnored with
  | [] => none
  | first :: behind =>
    match behind.dropWhile isIgnored with
    | [] => none
    | second :: rest =>
      if isSeparator true first && isSeparator true second then some rest else none

/-- Read the part of the URL of a file between scheme and query. Two slashes start a host. A drive in
its place starts the path. With no host, or the local one, the slash after it starts the path with
an empty segment, so that no drive stands in front. -/
def readFile? (text : List Char) : Option Hierarchy :=
  match splitSlashes? text with
  | none => some (.ofFile (.name "") text)
  | some rest =>
    let hostText := unbroken (rest.takeWhile fun c => !isSeparator true c)
    let pathText := rest.dropWhile fun c => !isSeparator true c
    if hostText.isEmpty then some (.ofFile (.name "") ('/' :: rest))
    else if isDrive hostText then some (.ofFile (.name "") rest)
    else
      (Host.readSpecial? hostText).map fun host =>
        if host = .name "localhost" then .ofFile (.name "") ('/' :: pathText)
        else .ofFile host pathText

/-- Read an authority and the path after it. The flag tells whether anything follows them. -/
def readNetwork? (scheme : String) (followed : Bool) (text : List Char) : Option Hierarchy := do
  let special := specialSchemes.contains scheme
  let authorityText := text.takeWhile fun c => !isSeparator special c
  let pathText := text.dropWhile fun c => !isSeparator special c
  let authority ← readAuthority? scheme (followed || !pathText.isEmpty) authorityText
  pure (authority.withPath (readPath special (authority.pathStart ++ pathText)))

/-- Read the part of a URL between scheme and query. Two slashes start an authority; the special
schemes have one after any number of slashes. -/
def readHierarchy? (scheme : String) (followed : Bool) (text : List Char) : Option Hierarchy :=
  if scheme = "file" then readFile? text
  else
    let text := unbroken text
    if specialSchemes.contains scheme then
      readNetwork? scheme followed (text.dropWhile (isSeparator true))
    else
      match text with
      | '/' :: '/' :: rest => readNetwork? scheme followed rest
      | '/' :: _ => some (.ofPath none (readPath false text))
      | _ =>
        some (.ofPath none (.rootless (String.ofList (Percent.encode Percent.controls text))))

/-- Read a URL. -/
def parse? (text : String) : Option Url := do
  let (scheme, rest) ← splitScheme? (trimmed text.toList)
  let (beforeFragment, fragment) := splitFirst (· = '#') rest
  let (beforeQuery, query) := splitFirst (· = '?') beforeFragment
  let hierarchy ← readHierarchy? scheme (query.isSome || fragment.isSome) beforeQuery
  let querySet := if specialSchemes.contains scheme then Percent.specialQuerySet
    else Percent.querySet
  pure
    { scheme
      username := hierarchy.username
      password := hierarchy.password
      host := hierarchy.host
      portNumber := hierarchy.portNumber
      path := hierarchy.path
      query := query.map fun text => String.ofList (Percent.encode querySet (unbroken text))
      fragment := fragment.map fun text =>
        String.ofList (Percent.encode Percent.fragmentSet (unbroken text)) }

end CatalogSearch.Url
