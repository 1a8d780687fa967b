import AdminConsole.Text.Percent

/-!
# Paths of URLs

The path of a URL that has segments. Segments are read from left to right onto a stack of those
before, so that `.` and `..` can be taken out: `.` adds nothing and `..` takes the last segment
off. A drive letter stays where it is. -/

namespace AdminConsole.UrlPath

/-- The characters of a path that are written as triples. -/
def isSpecial (c : Char) : Bool :=
  c.toNat ≤ 0x20 || c.toNat == 0x7F || " \"<>`#?\x7b\x7d".toList.contains c

def isSeparator (special : Bool) (c : Char) : Bool := c == '/' || (special && c == '\\')

def isSingleDot (s : List Char) : Bool :=
  String.ofList s ∈ [".", "%2e", "%2E"]

def isDoubleDot (s : List Char) : Bool :=
  String.ofList s ∈ ["..", "%2e%2e", "%2e%2E", "%2E%2e", "%2E%2E", "%2e.", "%2E.", ".%2e", ".%2E"]

/-- A letter and a colon or a bar. -/
def isDrive (s : List Char) : Bool :=
  match s with
  | [a, b] => a.isAlpha && (b == ':' || b == '|')
  | _ => false

/-- The segments between separators; all but the last are followed by one. -/
def segments (special : Bool) : List Char → List (List Char)
  | [] => [[]]
  | c :: cs =>
    match segments special cs with
    | [] => [[c]]
    | s :: ss => if isSeparator special c then [] :: s :: ss else (c :: s) :: ss

/-- Takes the last segment off, if there is one and it is no drive. -/
def pop (stack : List (List Char)) : List (List Char) :=
  match stack with
  | s :: rest => if isDrive s then stack else rest
  | [] => []

/-- The stack after the segments of a path, which stand on it in reverse. The drive of a file is
written with a colon if it is the first segment. -/
def walk (file : Bool) : List (List Char) → List (List Char) → List (List Char)
  | stack, [] => stack
  | stack, s :: rest =>
    let s := Percent.encode isSpecial s
    if isDoubleDot s then
      if rest.isEmpty then [] :: pop stack else walk file (pop stack) rest
    else if isSingleDot s then
      if rest.isEmpty then [] :: stack else walk file stack rest
    else
      let s := if file && stack.isEmpty && isDrive s then [s.headD ' ', ':'] else s
      walk file (s :: stack) rest

/-- The path of the segments after a first slash. -/
def render (stack : List (List Char)) : List Char :=
  stack.reverse.flatMap fun s => '/' :: s

/-- The stack of a text after its first slash. -/
def stackOf (special file : Bool) (cs : List Char) : List (List Char) :=
  walk file [] (segments special cs)

/-- The path of a text after its first slash. Slashes at the front of a file's path are one. -/
def ofText (special file : Bool) (cs : List Char) : List Char :=
  let path := render (stackOf special file cs)
  if file then '/' :: path.dropWhile (· == '/') else path

/-- Whether the first segment of a file's path is a drive. -/
def startsWithDrive (cs : List Char) : Bool := (stackOf true true cs).getLast?.any isDrive

end AdminConsole.UrlPath
