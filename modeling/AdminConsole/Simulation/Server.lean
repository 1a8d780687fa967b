import AdminConsole.Http.Wire

/-!
# A scripted server

A server that answers requests from a table, whatever host they are for. Nothing answers on this
machine itself, and nothing answers encrypted requests. -/

namespace AdminConsole.Simulation

open Http

inductive Treatment where
  | respond (status : Nat) (body : List UInt8)
  /-- The status arrives and the body breaks off. -/
  | breakOff (status : Nat)
  | drop

structure Server where
  /-- Treatments of requests by their method and target. -/
  table : TextMap Treatment := .empty
  received : List Request := []

instance : Inhabited Server := ⟨{}⟩

namespace Server

/-- A request as the table knows it. -/
def key (r : Request) : String := r.method.name ++ " " ++ r.url.target

def listens (r : Request) : Bool :=
  r.url.scheme == "http" && r.url.host? != some (.ipv4 0x7F000001)

def notFound : Treatment := .respond 404 (Utf8.encode "not found")

/-- A response with one of these statuses has no body. -/
def isBodiless (status : Nat) : Bool := status == 204 || status == 304

def treat : Treatment → Except SendError Arrival
  | .respond status body =>
    .ok ⟨status, .whole (if isBodiless status then "" else Utf8.decodeLossy body)⟩
  | .breakOff status => .ok ⟨status, if isBodiless status then .whole "" else .brokenOff⟩
  | .drop => .error .dropped

/-- A request as it arrives. White space at the end of a header is no part of its value, and a
fragment is not sent. -/
def arrived (r : Request) : Request :=
  { r with
    url := { r.url with fragment := none }
    authorization := r.authorization.map (Text.stripEnd fun c => c == ' ' || c == '\t') }

def answer (s : Server) (r : Request) : Except SendError Arrival × Server :=
  if listens r then
    (treat ((s.table.get? (key r)).getD notFound), { s with received := s.received ++ [arrived r] })
  else (.error .refused, s)

end Server

end AdminConsole.Simulation
