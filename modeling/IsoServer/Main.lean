-- The program: it reads the command line, listens on the port and answers requests until a
-- signal ends it. All decisions are made elsewhere; here bytes and files are fetched.
import IsoServer.CommandLine.Parse
import IsoServer.Http.Wire
import IsoServer.Lifecycle.Startup
import Std.Async

namespace IsoServer.Program

open Std.Async

/-! ## Files -/

/-- A file or a directory without what is in it. -/
def emptyNode (info : IO.FS.Metadata) : Node :=
  match info.type with
  | .dir => .dir Node.freshDirMode info.modified.sec []
  | _ => .file Node.freshFileMode info.modified.sec []

/-- What a listing shows of a member of a directory. A link to a directory becomes one to the
directory it stands in, since only the kind of what it leads to is shown. -/
def loadMember (path : String) : IO Node := do
  let file := System.mkFilePath [path]
  let info ← file.symlinkMetadata
  match info.type with
  | .symlink => return .link (if ← file.isDir then FileSystem.dot else [])
  | _ => return emptyNode info

/-- The members of a directory, each loaded by the given action. What vanishes or cannot be read
meanwhile is left out. -/
def loadMembers (path : String) (load : String → String → IO Node) :
    IO (List (Bytes × Node)) := do
  (← (System.mkFilePath [path]).readDir).toList.filterMapM fun e => do
    try
      return some (Bytes.ofString e.fileName, ← load e.fileName (path ++ "/" ++ e.fileName))
    catch _ => return none

/-- Loads the part of the file system that a request for the given names can see: the members of
the directories on the way, and the contents of the file at its end. -/
def loadView (path : String) (names : List String) : IO Node := do
  let file := System.mkFilePath [path]
  let info ← file.metadata
  match info.type with
  | .dir =>
    let members ← match names with
      | [] => loadMembers path fun _ below => loadMember below
      | next :: rest =>
        loadMembers path fun name below =>
          if name == next then loadView below rest else loadMember below
    return .dir Node.freshDirMode info.modified.sec members
  | _ =>
    return .file Node.freshFileMode info.modified.sec (← IO.FS.readBinFile file).toList

/-- The file system as far as a request path leads, with the served directory at its top. -/
def viewFor (path : Bytes) : IO FileSystem := do
  let names := (FileSystem.plainNames (Percent.decode path)).map Utf8.decodeLossy
  let names := if names.contains ".." then [] else names ++ ["index.html"]
  return { top := ← loadView "." names }

/-! ## Connections -/

/-- An address in the form that connections take. -/
def socketAddress (ip : IpAddress) (port : UInt16) : Std.Net.SocketAddress :=
  match ip with
  | .v4 x => .v4 { addr := ⟨#v[x.a, x.b, x.c, x.d]⟩, port }
  | .v6 x => .v6 { addr := ⟨⟨x.groups.toArray, by simp [x.length_eq]⟩⟩, port }

/-- The address of a host: an IP address, or what its name stands for. -/
def resolve? (host : String) (port : UInt16) : Async (Option Std.Net.SocketAddress) := do
  let bare := Bytes.trimBy (fun b => b == 0x5B || b == 0x5D) (Bytes.ofString host)
  match IpAddress.parse? bare with
  | some ip => return some (socketAddress ip port)
  | none =>
    match (← DNS.getAddrInfo host "").toList.head? with
    | some (.v4 addr) => return some (.v4 { addr, port })
    | some (.v6 addr) => return some (.v6 { addr, port })
    | none => return none

/-- The next bytes of a connection; none at its end or when the time is over. -/
def receive? (client : TCP.Socket.Client) (seconds : Nat) : Async (Option Bytes) := do
  let timer ← Selector.sleep (Std.Time.Millisecond.Offset.ofNat (seconds * 1000))
  Selectable.one #[
    .case (client.recvSelector 65536) fun chunk => return chunk.map ByteArray.toList,
    .case timer fun _ => return none]

/-- Reads up to the end of a head. -/
partial def receiveHead? (client : TCP.Socket.Client) (got : Bytes) : Async (Option Bytes) := do
  match Wire.cutHead? got with
  | some (head, _) => return some head
  | none =>
    if got.length > 65536 then return none
    match ← receive? client 30 with
    | none => return none
    | some chunk => receiveHead? client (got ++ chunk)

/-- Reads up to the end of a connection. -/
partial def receiveAll (client : TCP.Socket.Client) (seconds : Nat) (got : List Bytes) :
    Async Bytes := do
  match ← receive? client seconds with
  | none => return got.reverse.flatten
  | some chunk => receiveAll client seconds (chunk :: got)

/-- Sends a request to another host and reads its reply. Connections that are encrypted cannot be
opened from here, and so no tunnel is asked for. -/
def exchange (config : ProxyConfig) (out : Proxy.Outgoing) : Async Proxy.Reply := do
  if out.secure || out.method == .connect then return .refused
  try
    match ← resolve? out.host out.port with
    | none => return .refused
    | some address =>
      let client ← TCP.Socket.Client.mk
      client.connect address
      client.send (Wire.writeOutgoing out).toByteArray
      return Wire.readReply (← receiveAll client config.readTimeoutSecs.toNat [])
  catch _ => return .refused

/-! ## Answers -/

/-- Answers a request. Replies of other hosts are fetched one by one, as it turns out that the
answer needs them. -/
partial def answer? (config : ProxyConfig) (server : Server) (fs : FileSystem) (request : Request)
    (known : List Proxy.Reply) : Async (Option Response) := do
  let network : Proxy.Network := fun before _ => (known[before.length]?).getD .closed
  let (response, sent) := server.respond { fs, who := .owner, network } request
  match sent.getLast? with
  | some out =>
    if known.length < sent.length then
      answer? config server fs request (known ++ [← exchange config out])
    else return response
  | none => return response

/-- Answers the request on a connection and closes it. -/
def handle (config : ProxyConfig) (server : Server) (client : TCP.Socket.Client) : Async Unit := do
  try
    match ← receiveHead? client [] with
    | none => return
    | some head =>
      match Wire.readRequest? head with
      | none => client.send (Wire.writeResponse (.ofStatus 400)).toByteArray
      | some request =>
        match ← answer? config server (← viewFor request.uri.path) request [] with
        | some response => client.send (Wire.writeResponse response).toByteArray
        | none => return
    client.shutdown
  catch _ => return

/-! ## Listening -/

/-- What an iteration of the main loop ends with. -/
inductive Happening where
  | connection (client : TCP.Socket.Client)
  | signal

/-- Takes connections until a signal comes. -/
partial def serve (config : ProxyConfig) (server : Server) (listener : TCP.Socket.Server)
    (signals : List Signal.Waiter) : Async Unit := do
  let next ← Selectable.one (
    #[.case listener.acceptSelector fun client => return Happening.connection client] ++
    (signals.map fun s => .case s.selector fun _ => return Happening.signal).toArray)
  match next with
  | .signal => return
  | .connection client =>
    background (handle config server client)
    serve config server listener signals

/-- One attempt to listen; none if the port cannot be had. -/
def listen? (address : SocketAddress) : Async (Option TCP.Socket.Server) := do
  try
    let listener ← TCP.Socket.Server.mk
    listener.bind (socketAddress address.ip address.port)
    listener.listen 128
    return some listener
  catch _ => return none

/-- Waits between two attempts. -/
def pause (ms : UInt64) (signals : List Signal.Waiter) : Async Listener.WaitEnd := do
  let timer ← Selector.sleep (Std.Time.Millisecond.Offset.ofNat ms.toNat)
  Selectable.one (
    #[.case timer fun _ => return Listener.WaitEnd.timer] ++
    (signals.map fun s => .case s.selector fun _ => return Listener.WaitEnd.shutdown).toArray)

/-- Tries to listen until it works, and says how it ended. The outcomes so far decide with
`Listener.bind` whether to go on. -/
partial def acquire (config : ListenerConfig) (signals : List Signal.Waiter) (failures : Nat) :
    Async (Except Listener.Error (Option TCP.Socket.Server)) := do
  match config.address? with
  | none => return .error (.invalidAddress config.host)
  | some address =>
    match ← listen? address with
    | some listener => return .ok (some listener)
    | none =>
      let failed : Listener.Conditions :=
        { attempt := fun k => if k ≤ failures then some .inUse else none, wait := fun _ => .timer }
      match Listener.bind config failed (failures + 1) with
      | some (.error e) => return .error e
      | _ =>
        match ← pause config.bindRetryDelayMs signals with
        | .shutdown => return .ok none
        | .timer => acquire config signals (failures + 1)

/-! ## The command line -/

/-- The variables that name proxies. -/
def environment : IO Proxy.Environment := do
  let names := ["HTTP_PROXY", "http_proxy", "HTTPS_PROXY", "https_proxy", "ALL_PROXY", "all_proxy",
    "NO_PROXY", "no_proxy", "REQUEST_METHOD"]
  names.filterMapM fun n => do return (← IO.getEnv n).map fun v => (n, v)

/-- Says why the server does not start; gives the exit status. -/
def giveUp (e : Startup.Error) : Async UInt32 := do
  IO.eprintln ("Error: " ++ e.message)
  return 1

/-- Starts the server and runs it; gives the exit status. -/
def start (config : ServeConfig) : Async UInt32 := do
  match Server.create config (← environment) with
  | .error e => giveUp (.server e)
  | .ok server =>
    let signals := [← Signal.Waiter.mk .sigint false, ← Signal.Waiter.mk .sigterm false]
    match ← acquire config.listener signals 0 with
    | .error e => giveUp (.listener e)
    | .ok none => return 0
    | .ok (some listener) =>
      IO.println (Startup.announcement (← listener.getSockName).port)
      serve config.proxy server listener signals
      return 0

end IsoServer.Program

open IsoServer in
/-- Reads the command line and runs the server. -/
def main (args : List String) : IO UInt32 := do
  match CommandLine.parse args with
  | .error stop =>
    if stop.exitCode == 0 then IO.print stop.text else IO.eprint stop.text
    return UInt32.ofNat stop.exitCode
  | .ok port =>
    match CommandLine.loadConfig (← Program.viewFor []) .owner port with
    | .error faults =>
      IO.eprintln ("Error: " ++ ConfigFault.summary faults)
      return 1
    | .ok config => (Program.start config).block
