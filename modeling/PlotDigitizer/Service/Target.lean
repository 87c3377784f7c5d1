/-
The target of a request, and the path that it names.

A target is a reference: perhaps a scheme, perhaps an authority after two
slashes, a path, a query and a fragment. With a scheme and a host it stands by
itself; any other path is taken from the root of the service on, however many
slashes it starts with. Dot segments are resolved before escapes are.

The parts of a target are checked in order: the user, the host and the port of
its authority, the path, and last what follows it. The host of a target that
stands by itself is looked at once more when the request goes there.
-/
import PlotDigitizer.Service.Host
import PlotDigitizer.Text.Encoding

namespace PlotDigitizer.Service.Target

/-- Why a target is no reference. -/
inductive Fault where
  | tooLong
  | longPath
  | longQuery
  | control (c : Char) (position : Nat)
  | unwritten (letters : Unwritten)
  | host (fault : Host.Fault) (text : Text)
  | name (fault : HostName.Fault)
  | port (text : Text)
  | slashes
  | colon
deriving Repr, DecidableEq

def Fault.message : Fault → String
  | .tooLong => "URL too long"
  | .longPath => "URL component 'path' too long"
  | .longQuery => "URL component 'query' too long"
  | .control c position =>
    "Invalid non-printable ASCII character in URL, " ++ (Text.ofChars [c]).quoted
      ++ " at position " ++ toString position ++ "."
  | .unwritten letters => letters.message
  | .host .octets text => "Invalid IPv4 address: " ++ text.quoted
  | .host .hextets text => "Invalid IPv6 address: " ++ text.quoted
  | .host .name text => "Invalid IDNA hostname: " ++ text.quoted
  | .name fault => fault.message
  | .port text => "Invalid port: " ++ text.quoted
  | .slashes => "Relative URLs cannot have a path starting with '//'"
  | .colon => "Relative URLs cannot have a path starting with ':'"

/-- The most letters of a target, and the most characters of a part of it. -/
def maxLength : Nat := 65536

/-- The first control character of ASCII in a text, and its position. -/
def control? (ls : List Letter) : Option (Char × Nat) :=
  let isControl (l : Letter) : Bool := l.code < 32 || l.code == 127
  (ls.find? isControl).bind fun l => l.char?.map fun c => (c, ls.idxOf l)

/-- The characters of a part. They are written one by one, so a half that
stands by itself has no position beyond the first. -/
def characters : List Letter → Except Fault (List Char)
  | [] => .ok []
  | .char c :: rest => (characters rest).map (c :: ·)
  | .half h :: _ => .error (.unwritten ⟨.utf8, 0, .half h, []⟩)

/-- The scheme before a text, and the text after its colon. -/
def splitScheme (ls : List Letter) : List Letter × List Letter :=
  let isSchemeChar (c : Char) : Bool := c.isAlphanum || c == '+' || c == '.' || c == '-'
  match ls.span fun l => l.char?.any isSchemeChar with
  | ([], .char ':' :: rest) => ([], rest)
  | (first :: more, .char ':' :: rest) =>
    if first.char?.any Char.isAlpha then (first :: more, rest) else ([], ls)
  | _ => ([], ls)

/-- The authority before a path, and the path. -/
def splitAuthority : List Letter → List Letter × List Letter
  | .char '/' :: .char '/' :: rest => rest.span (· != .char '/')
  | ls => ([], ls)

/-- The user that an authority names, and what follows. -/
def splitUser (ls : List Letter) : List Letter × List Letter :=
  match ls.reverse.span (· != .char '@') with
  | (place, _ :: user) => (user.reverse, place.reverse)
  | (_, []) => ([], ls)

/-- The host before a port, and the port. A host in brackets may hold
colons. -/
def splitHost (ls : List Letter) : List Letter × List Letter :=
  let (host, rest) :=
    if ls.head? = some (.char '[') && ls.contains (.char ']') then
      let (rest, host) := ls.reverse.span (· != .char ']')
      (host.reverse, rest.reverse)
    else ls.span (· != .char ':')
  (host, if rest.head? = some (.char ':') then rest.tail else rest)

/-- The parts of a target. Where its path ends, a query or a fragment may
start, neither of which tells where a request goes. -/
structure Reference where
  scheme : List Letter
  user : List Letter
  host : List Letter
  port : List Letter
  path : List Letter
  tail : List Letter

def Reference.ofLetters (ls : List Letter) : Reference :=
  let (before, tail) := ls.span fun l => l != .char '?' && l != .char '#'
  let (scheme, rest) := splitScheme before
  let (authority, path) := splitAuthority rest
  let (user, place) := splitUser authority
  let (host, port) := splitHost place
  { scheme, user, host, port, path, tail }

/-- The segments of a path, read on from `done`, with its dot segments
resolved. The segments before are listed from the last one on, and the empty
one before the first slash stays. -/
def resolveFrom (done : List (List Letter)) : List (List Letter) → List (List Letter)
  | [] => done.reverse
  | segment :: rest =>
    if segment = [.char '.'] then resolveFrom done rest
    else if segment = [.char '.', .char '.'] then
      resolveFrom (if done = [[]] then done else done.tail) rest
    else resolveFrom (segment :: done) rest

/-- A path without dot segments. -/
def resolve (path : List Letter) : List Letter :=
  [.char '/'].intercalate (resolveFrom [] (path.splitOn (.char '/')))

/-- The characters that are written as escapes in a query. Blanks and all that
is not ASCII are so as well. -/
def queryMarks : String := "\"#<>"

/-- The characters that are written as escapes in a path. -/
def pathMarks : String := queryMarks ++ "?`\x7b\x7d"

/-- How many characters a part of a target takes, three for each byte that is
written as an escape. -/
def escapedLength (marks : String) (ls : List Letter) : Nat :=
  let isEscaped (c : Char) : Bool := c.toNat ≤ 0x20 || 0x7F ≤ c.toNat || marks.toList.contains c
  let width (l : Letter) : Nat :=
    (l.char?.map fun c => if isEscaped c then 3 * c.utf8Size else 1).getD 0
  ls.foldl (fun n l => n + width l) 0

namespace Reference

/-- Whether a reference tells no more than a path. -/
def isBare (r : Reference) : Bool :=
  r.scheme.isEmpty && r.user.isEmpty && r.host.isEmpty && r.port.isEmpty

/-- Whether a reference stands by itself. -/
def isAbsolute (r : Reference) : Bool := !r.scheme.isEmpty && !r.host.isEmpty

/-- The path of a reference. That of a bare one keeps its dots. -/
def ownPath (r : Reference) : List Letter := if r.isBare then r.path else resolve r.path

/-- The path of a reference, from the root of the service on. -/
def rooted (r : Reference) : List Letter :=
  if r.isAbsolute then r.ownPath
  else resolve (.char '/' :: r.ownPath.dropWhile (· == .char '/'))

/-- The query of a reference, if it has one. -/
def query (r : Reference) : List Letter :=
  if r.tail.head? = some (.char '?') then r.tail.tail.takeWhile (· != .char '#') else []

/-- Whether the path or the query of a reference is too long once it is put
below the root, escapes and all. A reference that stands by itself is left as
it is. -/
def lengthFault? (r : Reference) : Option Fault :=
  let pathLength := 1 + escapedLength pathMarks (r.ownPath.dropWhile (· == .char '/'))
  if r.isAbsolute then none
  else if maxLength < pathLength then some .longPath
  else if maxLength < escapedLength queryMarks r.query then some .longQuery
  else none

/-- The most digits of a port. -/
def maxDigits : Nat := 4300

/-- Whether a text is a whole number, with blanks around it, a sign and single
underscores among its digits perhaps. -/
def isWhole (ls : List Letter) : Bool :=
  let cs? := ls.mapM fun l => l.char?.bind Numeral.toAscii?
  (cs?.bind fun cs => Numeral.joinDigits? ' ' (Text.strip cs)).any fun cs =>
    let digits := (Numeral.takeSign cs).2
    !digits.isEmpty && digits.length ≤ maxDigits && digits.all Numeral.isDigit

/-- What is wrong with the place that a reference names, or with the form of
its path. -/
def fault? (r : Reference) : Option Fault :=
  match Host.fault? r.host with
  | some fault => some (.host fault ⟨r.host⟩)
  | none =>
    if !r.port.isEmpty && !isWhole r.port then some (.port ⟨r.port⟩)
    else if r.isBare && [.char '/', .char '/'].isPrefixOf r.path then some .slashes
    else if r.isBare && r.path.head? = some (.char ':') then some .colon
    else none

/-- What keeps a request from going to the host that a reference names. One
that does not stand by itself goes to the service. -/
def hostFault? (r : Reference) : Option Fault :=
  if r.isAbsolute then
    ((Host.unwritten? r.host).map .unwritten).or ((Host.nameFault? r.host).map .name)
  else none

/-- The reference that a text writes, if nothing is wrong with it. -/
def ofText (t : Text) : Except Fault Reference := do
  let r := ofLetters t.letters
  if maxLength < t.letters.length then throw .tooLong
  if let some (c, position) := control? t.letters then throw (.control c position)
  let _ ← characters r.user
  if let some fault := r.fault? then throw fault
  let _ ← characters r.ownPath
  let _ ← characters r.tail
  if let some fault := r.lengthFault? then throw fault
  return r

end Reference

/-- The text with its escapes resolved, which write bytes in hexadecimal. An
escape of a byte beyond ASCII is no character of any path served, and is
resolved to the replacement character. -/
def unescape : List Char → List Char
  | '%' :: a :: b :: rest =>
    match Text.hexDigit? a, Text.hexDigit? b with
    | some m, some n =>
      (if m < 8 then Char.ofNat (16 * m + n) else '\uFFFD') :: unescape rest
    | _, _ => '%' :: unescape (a :: b :: rest)
  | c :: rest => c :: unescape rest
  | [] => []

/-- The path that a reference names. Where it names none, that is the root. -/
def Reference.resource (r : Reference) : Except Fault String := do
  let cs ← characters r.rooted
  return if cs.isEmpty then "/" else String.ofList (unescape cs)

end PlotDigitizer.Service.Target
