/-
The program on a real machine.

Everything that matters is decided by `Program.ofCommandLine`; here its tree is followed
through files, standard input and a connection.  Connections are not encrypted, so a
service that insists on that does not answer.  An answer that names another place is taken
for what it is, and nobody goes there.
-/
import ReviewDesk.Program
import ReviewDesk.Http.Incoming
import ReviewDesk.Http.Outgoing
import ReviewDesk.Http.RequestId
import Std.Async.DNS
import Std.Async.TCP

namespace ReviewDesk.Main

open Std.Async Std.Net

/-! ### Inputs -/

/-- What the system says of a read that failed, in the words it has for it. -/
def readFault : IO.Error → ReadFault
  | .noFileOrDirectory .. => .missing
  | .inappropriateType _ 21 _ => .directory
  | .inappropriateType .. => .other "Not a directory (os error 20)"
  | .permissionDenied .. => .other "Permission denied (os error 13)"
  | e => .other (toString e)

/-- All of a file. -/
def readFile (name : String) : IO (Except ReadFault Bytes) := do
  try
    let data ← IO.FS.readBinFile name
    return .ok data.data.toList
  catch e => return .error (readFault e)

partial def readToEnd (input : IO.FS.Stream) (read : ByteArray) : IO ByteArray := do
  let more ← input.read 65536
  if more.isEmpty then return read else readToEnd input (read ++ more)

/-- All of an input. -/
def readSource : Source → IO (Except ReadFault Bytes)
  | .file name => readFile name
  | .standardInput => do
    try
      let data ← readToEnd (← IO.getStdin) .empty
      return .ok data.data.toList
    catch e => return .error (readFault e)

/-! ### Exchanges -/

/-- The name or the address to look up. -/
def hostText : Url.Host → String
  | .ipv6 pieces => String.ofList (Url.IPv6.chars pieces)
  | host => String.ofList host.chars

/-- The address with the port. -/
def socketAddress (port : UInt16) : IPAddr → SocketAddress
  | .v4 addr => .v4 ⟨addr, port⟩
  | .v6 addr => .v6 ⟨addr, port⟩

/-- A connection to the first of the addresses that takes one. -/
def connectFirst? (port : UInt16) : List IPAddr → IO (Option TCP.Socket.Client)
  | [] => return none
  | address :: others => do
    let client ← TCP.Socket.Client.mk
    try
      (client.connect (socketAddress port address)).block
      return some client
    catch _ => connectFirst? port others

/-- A connection to where a URL leads. -/
def connect? (url : Url) : IO (Option TCP.Socket.Client) := do
  let port := url.port.getD url.scheme.defaultPort
  let addresses ← (DNS.getAddrInfo (hostText url.host) (Decimal.ofNat port)).block
  connectFirst? port.toUInt16 addresses.toList

partial def receive (client : TCP.Socket.Client) (received : Bytes) : IO Http.Ending := do
  match Http.ending? false received with
  | some ending => return ending
  | none =>
    let more ← try (client.recv? 65536).block catch _ => pure none
    match more with
    | some data => receive client (received ++ data.data.toList)
    | none => return Http.endingAtClose received

/-- Sends one request and waits for how it ends. -/
def exchange (r : Http.Request) : IO Http.Ending := do
  if !Http.isSendable r.url then return .failed (Http.Error.builder r).text
  if r.url.scheme = .https then return .unanswered
  try
    match ← connect? r.url with
    | none => return .unanswered
    | some client =>
      let id := Http.RequestId.ofRandom (← IO.getRandomBytes 16).data.toList
      (client.send ⟨(r.bytes id).toArray⟩).block
      receive client []
  catch _ => return .unanswered

/-! ### The program -/

/-- A line for the log. -/
def note (debug : Bool) (text : String) : IO Unit := do
  if debug then IO.eprintln ("DEBUG " ++ text)

/-- A line on how an exchange ended. -/
def noteEnding (debug : Bool) : Http.Ending → IO Unit
  | .unanswered => note debug "no answer"
  | .failed reason => note debug ("not sent: " ++ reason)
  | .answered status _ => note debug ("answered with status " ++ Decimal.ofNat status)

/-- Follows a program through files and connections. -/
def perform (debug : Bool) : Program → IO Result
  | .finish r => return r
  | .read source next => do
    let input ← readSource source
    perform debug (next input)
  | .send request next => do
    note debug (request.method ++ " " ++ request.url.bare.toText)
    let ending ← exchange request
    noteEnding debug ending
    perform debug (next ending)

/-- The environment file of this directory, or of the nearest one above that has one. -/
def environmentFile : IO Bytes := do
  for depth in List.range 64 do
    let up := String.join (List.replicate depth "../")
    if let .ok file ← readFile (up ++ ".env") then return file
  return []

/-- The variables among these that are set. -/
def environmentOf (names : List String) : IO Environment := do
  let mut env := Environment.empty
  for name in names do
    if let some value ← IO.getEnv name then env := env.offer name value
  return env

end ReviewDesk.Main

open ReviewDesk in
def main (arguments : List String) : IO UInt32 := do
  let file ← Main.environmentFile
  let mentioned := (Environment.assignments file).flatMap (·.mentioned)
  let env ← Main.environmentOf (CommandLine.environmentNames ++ mentioned)
  let env := env.load file
  let debug := match CommandLine.read arguments env with
    | .ok s => s.debug
    | .error _ => false
  let result ← Main.perform debug (Program.ofCommandLine arguments env)
  IO.print result.output
  IO.eprint result.complaint
  return result.status.code.toUInt32
