import FacetedSearch.CommandLine.Run
import FacetedSearch.Wire
import Std.Async.DNS
import Std.Async.TCP
import Std.Async.Timer

/-!
# The program

Looks at the places where settings files can be, lets the command say what it does, and does it.
-/

namespace FacetedSearch

open Std.Async Std.Net

/-- Adds what stands at a path to the files that are known. -/
def lookAt (tree : FileTree) (path : String) : IO FileTree := do
  let place := (← IO.currentDir) / path
  if ← place.isDir then return { tree with dirs := path :: tree.dirs }
  if !(← place.pathExists) then return tree
  let text ← try pure (String.fromUTF8? (← IO.FS.readBinFile place)) catch _ => pure none
  return { tree with files := tree.files ++ [(path, text)] }

/-- Where the program is called. -/
def lookAround : IO Surroundings := do
  let cwd := (← IO.currentDir).toString
  let home := (← IO.getEnv "HOME").filter (!·.isEmpty)
  let places := (Path.ancestors cwd ++ home.toList).map settingsPath
  return ⟨← places.foldlM lookAt {}, cwd, home⟩

/-- The network address of a host. -/
def resolve (host : Host) (port : Nat) : Async SocketAddress := do
  let port := port.toUInt16
  match host with
  | .ipv4 n =>
    return .v4 ⟨.ofParts (n / 0x1000000).toUInt8 (n / 0x10000).toUInt8 (n / 0x100).toUInt8 n.toUInt8, port⟩
  | .ipv6 [a, b, c, d, e, f, g, h] =>
    return .v6 ⟨.ofParts a.toUInt16 b.toUInt16 c.toUInt16 d.toUInt16 e.toUInt16 f.toUInt16 g.toUInt16 h.toUInt16, port⟩
  | host =>
    match (← DNS.getAddrInfo host.text (toString port)).toList with
    | .v4 ip :: _ => return .v4 ⟨ip, port⟩
    | .v6 ip :: _ => return .v6 ⟨ip, port⟩
    | [] => throw (.userError "unknown host")

/-- Receives until the other side closes the connection. -/
partial def receiveAll (socket : TCP.Socket.Client) (got : ByteArray) : Async ByteArray := do
  match ← socket.recv? 65536 with
  | some bytes => receiveAll socket (got ++ bytes)
  | none => return got

/-- Sends a request and receives the answer to it. -/
def exchange (q : Request) : Async ByteArray := do
  match q.url.authority, defaultPort? q.url.scheme with
  | some a, some 80 =>
    let address ← resolve a.host (a.port.getD 80)
    let socket ← TCP.Socket.Client.mk
    socket.connect address
    socket.send q.wireText.toUTF8
    receiveAll socket .empty
  | _, _ => throw (.userError "unsupported scheme")

/-- Sends a request and receives the answer to it in time. -/
def exchangeInTime (q : Request) : IO ByteArray :=
  Async.block <| Async.race (exchange q) do
    sleep (.ofNat (1000 * q.timeout))
    throw (.userError "timeout")

/-- Does what a command does, up to its report. -/
def finish : Action → IO Report
  | .finish report => pure report
  | .ask q answered => do
    let failed := Report.failure "search request failed"
    try
      match readAnswer? (← exchangeInTime q).toList with
      | some (status, body) => return answered status body
      | none => return failed
    catch _ => return failed

/-- Writes the files of a report. -/
def writeFiles (report : Report) : IO Report := do
  for (path, text) in report.written do
    try IO.FS.writeFile path text
    catch _ => return .failure ("failed to write " ++ path)
  return report

end FacetedSearch

def main (args : List String) : IO UInt32 := do
  let report ← FacetedSearch.finish (FacetedSearch.runArguments (← FacetedSearch.lookAround) args)
  let report ← FacetedSearch.writeFiles report
  IO.print report.out
  IO.eprint report.err
  return report.code.toUInt32
