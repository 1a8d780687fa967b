import AdminConsole.Sorted.TextMap
import AdminConsole.Url.Parse

/-!
# Locations

Where the console is: a path and the parameters beside it. A location is read from a path or from a
whole URL, and its parameters come from the query, or from the fragment where the query is empty.
What `text` writes, `parse` reads back. -/

namespace AdminConsole

structure Location where
  path : String
  params : TextMap String
  deriving DecidableEq

namespace Location

def ofPath (path : String) : Location := ⟨path, .empty⟩

/-- Sets a parameter, which gives way if it is there. -/
def withParam (l : Location) (key value : String) : Location :=
  { l with params := l.params.insert key value }

/-- The value of a parameter without white space around it, unless nothing is left. -/
def param? (l : Location) (key : String) : Option String :=
  (Text.given? (l.params.get? key)).map Text.trim

/-- The location with the parameters of the first of two texts that is not empty. -/
def ofParts (path : String) (query fragment : List Char) : Location :=
  ⟨path, .ofList (Form.decode (if query.isEmpty then fragment else query))⟩

/-- A location inside the console. -/
def parsePath (text : String) : Location :=
  let (rest, fragment) := Url.cutMark '#' text.toList
  let (path, query) := Url.cutMark '?' rest
  ofParts (String.ofList path) (query.getD []) (fragment.getD [])

def ofUrl (u : Url) : Location :=
  ofParts u.path ((u.query.getD "").toList) ((u.fragment.getD "").toList)

/-- Every text is a location; one that is no URL is a path. -/
def parse (text : String) : Location :=
  let text := Text.trim text
  match Url.parse text with
  | .ok url => ofUrl url
  | .error _ => parsePath text

def text (l : Location) : String :=
  if l.params.isEmpty then l.path else l.path ++ "?" ++ Form.encode l.params.toList

end Location

end AdminConsole
