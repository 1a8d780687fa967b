/-!
# Errors of the system

What the system answers when a file cannot be read, written or removed. -/

namespace AdminConsole

inductive OsError where
  | notFound
  | alreadyExists
  | notDirectory
  | isDirectory
  | busy
  | other (code : Nat) (text : String)
  deriving DecidableEq

namespace OsError

def code : OsError → Nat
  | notFound => 2
  | alreadyExists => 17
  | notDirectory => 20
  | isDirectory => 21
  | busy => 16
  | other code _ => code

def text : OsError → String
  | notFound => "No such file or directory"
  | alreadyExists => "File exists"
  | notDirectory => "Not a directory"
  | isDirectory => "Is a directory"
  | busy => "Device or resource busy"
  | other _ text => text

def message (e : OsError) : String := e.text ++ " (os error " ++ toString e.code ++ ")"

end OsError

end AdminConsole
