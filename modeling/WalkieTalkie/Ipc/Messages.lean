import WalkieTalkie.Delivery.Drain
import WalkieTalkie.Store.Agents

/-! The requests that are answered once, the events that answer them, and how both are serialised.
The two requests that open a stream are left to the modules about them. -/

namespace WalkieTalkie.Ipc

open Proto Store Lib
open Delivery.Drain (selectorCbor)

inductive PeerFilter
  | all
  | connected
  | remote
  | local
deriving DecidableEq

inductive PeerSource
  | manual
  | mdns
deriving DecidableEq

inductive PeerState
  | connected (openStreams : ℕ)
  | idle
  | offline
deriving DecidableEq

structure PeerInfo where
  nodeid : NodeId
  name : String
  source : PeerSource
  state : PeerState
  lastSeenMs : Option UInt64
deriving DecidableEq

structure ConnInfo where
  peerName : String
  nodeid : NodeId
  sinceMs : UInt64
  streams : List String
  rxBytes : UInt64
  txBytes : UInt64
  rttUs : Option UInt64
  viaRelay : Bool
deriving DecidableEq

structure GroupInfo where
  name : String
  createdAtMs : UInt64
  sessionCount : ℕ
deriving DecidableEq

structure SessionInfo where
  group : String
  name : String
  childAgent : String
  fsMode : FsMode
  workspacePath : String
  branch : Option String
  status : SessionStatus
  childStatus : Option AgentStatus
deriving DecidableEq

structure AgentInfo where
  group : String
  name : String
  role : Role
  status : AgentStatus
  dir : Option String
  pid : Option Int64
deriving DecidableEq

structure WhoAmIInfo where
  group : String
  agent : String
  role : Role
  session : Option String
deriving DecidableEq

structure SpawnArgs where
  group : String
  session : String
  baseDir : String
  fsMode : FsMode
  branch : Option String
  label : Option String
  prompt : String
  harnessArgv : Option (List String)
  idleTimeoutSecs : Option UInt64
  permissionMode : Option String
  skipPermissions : Bool
  trace : Bool
  coordinator : Bool
deriving DecidableEq

inductive IpcRequest
  | status
  | nodeId
  | ticket
  | peerAdd (nodeid : NodeId) (name : String) (addrBlob : Option Bytes)
  | peerRm (selector : PeerSelector)
  | peerList (filter : PeerFilter)
  | connList
  | connClose (selector : PeerSelector)
  | tokenGrant (peer : PeerSelector) (caps : List Cap) (ttlSecs : Option UInt64)
  | tokenImport (raw : Bytes)
  | tokenList
  | tokenRevoke (id : TokenId)
  | send (peer : PeerSelector) (channel : String) (payload : Bytes)
  | groupNew (name : String)
  | groupList
  | sessionList (group : String)
  | agentList (group session : Option String)
  | spawn (token : String) (args : SpawnArgs)
  | agentSend (token session : String) (kind : AgentMsgKind) (payload : Bytes)
  | agentKill (token agent : String)
  | sessionClose (token session : String) (discard : Bool)
  | whoAmI (token : String)
deriving DecidableEq

inductive IpcEvent
  | ok
  | err (e : IpcError)
  | statusInfo (nodeid : NodeId) (version : String) (endpointBound : Bool)
  | nodeIdValue (nodeid : NodeId)
  | ticketValue (ticket : String)
  | peerListItem (info : PeerInfo)
  | peerListEnd
  | connListItem (info : ConnInfo)
  | connListEnd
  | tokenIssued (raw : Bytes) (info : TokenInfo)
  | tokenListItem (info : TokenInfo)
  | tokenListEnd
  | groupCreated (group token : String)
  | spawned (group session token workspace : String)
  | groupListItem (info : GroupInfo)
  | groupListEnd
  | sessionListItem (info : SessionInfo)
  | sessionListEnd
  | agentListItem (info : AgentInfo)
  | agentListEnd
  | whoAmIInfo (info : WhoAmIInfo)
deriving DecidableEq

def codeName : IpcErrorCode → String
  | .unauthorized => "Unauthorized"
  | .expired => "Expired"
  | .revoked => "Revoked"
  | .peerNotKnown => "PeerNotKnown"
  | .notFound => "NotFound"
  | .badRequest => "BadRequest"
  | .unimplemented => "Unimplemented"
  | .internal => "Internal"

def roleName : Role → String
  | .prime => "prime"
  | .child => "child"

def agentStatusName : AgentStatus → String
  | .idle => "idle"
  | .starting => "starting"
  | .running => "running"
  | .awaitingInput => "awaiting_input"
  | .exited => "exited"

def sessionStatusName : SessionStatus → String
  | .active => "active"
  | .closed => "closed"

def fsModeName : FsMode → String
  | .worktree => "Worktree"
  | .new => "New"

def kindName : AgentMsgKind → String
  | .turnOutput => "TurnOutput"
  | .turnInput => "TurnInput"
  | .user => "User"
  | .control => "Control"
  | .trace => "Trace"

def filterName : PeerFilter → String
  | .all => "All"
  | .connected => "Connected"
  | .remote => "Remote"
  | .local => "Local"

section Encode

open Cbor

def encodeUInt64 (n : UInt64) : Bytes := uint n.toNat

def encodeNodeId (n : NodeId) : Bytes := byteArray n.bytes.toList

def encodeError (e : IpcError) : Bytes :=
  record [("code", text (codeName e.code)), ("message", text e.message)]

def PeerSource.encode : PeerSource → Bytes
  | .manual => text "Manual"
  | .mdns => text "Mdns"

def PeerState.encode : PeerState → Bytes
  | .connected openStreams => variant "Connected" (record [("open_streams", uint openStreams)])
  | .idle => text "Idle"
  | .offline => text "Offline"

def PeerInfo.encode (p : PeerInfo) : Bytes :=
  record [("nodeid", encodeNodeId p.nodeid), ("name", text p.name), ("source", p.source.encode),
    ("state", p.state.encode), ("last_seen_ms", optional encodeUInt64 p.lastSeenMs)]

def ConnInfo.encode (c : ConnInfo) : Bytes :=
  record [("peer_name", text c.peerName), ("nodeid", encodeNodeId c.nodeid),
    ("since_ms", encodeUInt64 c.sinceMs), ("streams", array (c.streams.map text)),
    ("rx_bytes", encodeUInt64 c.rxBytes), ("tx_bytes", encodeUInt64 c.txBytes),
    ("rtt_us", optional encodeUInt64 c.rttUs), ("via_relay", bool c.viaRelay)]

def encodeTokenInfo (t : TokenInfo) : Bytes :=
  record [("id", byteArray t.id.toList), ("iss", encodeNodeId t.iss), ("sub", encodeNodeId t.sub),
    ("exp", encodeUInt64 t.exp), ("caps", array (t.caps.map fun c => text c.display)),
    ("revoked", bool t.revoked)]

def GroupInfo.encode (g : GroupInfo) : Bytes :=
  record [("name", text g.name), ("created_at_ms", encodeUInt64 g.createdAtMs),
    ("session_count", uint g.sessionCount)]

def SessionInfo.encode (s : SessionInfo) : Bytes :=
  record [("group", text s.group), ("name", text s.name), ("child_agent", text s.childAgent),
    ("fs_mode", text (fsModeName s.fsMode)), ("workspace_path", text s.workspacePath),
    ("branch", optional text s.branch), ("status", text (sessionStatusName s.status)),
    ("child_status", optional (fun st => text (agentStatusName st)) s.childStatus)]

def AgentInfo.encode (a : AgentInfo) : Bytes :=
  record [("group", text a.group), ("name", text a.name), ("role", text (roleName a.role)),
    ("status", text (agentStatusName a.status)), ("dir", optional text a.dir),
    ("pid", optional int a.pid)]

def WhoAmIInfo.encode (w : WhoAmIInfo) : Bytes :=
  record [("group", text w.group), ("agent", text w.agent), ("role", text (roleName w.role)),
    ("session", optional text w.session)]

def IpcEvent.encode : IpcEvent → Bytes
  | .ok => text "Ok"
  | .err e => variant "Err" (encodeError e)
  | .statusInfo nodeid version endpointBound => variant "StatusInfo" (record
      [("nodeid", encodeNodeId nodeid), ("version", text version),
        ("endpoint_bound", bool endpointBound)])
  | .nodeIdValue nodeid => variant "NodeIdValue" (encodeNodeId nodeid)
  | .ticketValue ticket => variant "TicketValue" (text ticket)
  | .peerListItem info => variant "PeerListItem" info.encode
  | .peerListEnd => text "PeerListEnd"
  | .connListItem info => variant "ConnListItem" info.encode
  | .connListEnd => text "ConnListEnd"
  | .tokenIssued raw info => variant "TokenIssued" (record
      [("raw", byteArray raw), ("info", encodeTokenInfo info)])
  | .tokenListItem info => variant "TokenListItem" (encodeTokenInfo info)
  | .tokenListEnd => text "TokenListEnd"
  | .groupCreated group token => variant "GroupCreated" (record
      [("group", text group), ("token", text token)])
  | .spawned group session token workspace => variant "Spawned" (record
      [("group", text group), ("session", text session), ("token", text token),
        ("workspace", text workspace)])
  | .groupListItem info => variant "GroupListItem" info.encode
  | .groupListEnd => text "GroupListEnd"
  | .sessionListItem info => variant "SessionListItem" info.encode
  | .sessionListEnd => text "SessionListEnd"
  | .agentListItem info => variant "AgentListItem" info.encode
  | .agentListEnd => text "AgentListEnd"
  | .whoAmIInfo info => variant "WhoAmIInfo" info.encode

def SpawnArgs.fields (a : SpawnArgs) : List (String × Bytes) :=
  [("group", text a.group), ("session", text a.session), ("base_dir", text a.baseDir),
    ("fs_mode", text (fsModeName a.fsMode)), ("branch", optional text a.branch),
    ("label", optional text a.label), ("prompt", text a.prompt),
    ("harness_argv", optional (fun argv => array (argv.map text)) a.harnessArgv),
    ("idle_timeout_secs", optional encodeUInt64 a.idleTimeoutSecs),
    ("permission_mode", optional text a.permissionMode),
    ("skip_permissions", bool a.skipPermissions), ("trace", bool a.trace),
    ("coordinator", bool a.coordinator)]

def IpcRequest.encode : IpcRequest → Bytes
  | .status => text "Status"
  | .nodeId => text "NodeId"
  | .ticket => text "Ticket"
  | .peerAdd nodeid name addrBlob => variant "PeerAdd" (record
      [("nodeid", encodeNodeId nodeid), ("name", text name),
        ("addr_blob", optional byteArray addrBlob)])
  | .peerRm selector => variant "PeerRm" (record [("selector", selectorCbor selector)])
  | .peerList filter => variant "PeerList" (record [("filter", text (filterName filter))])
  | .connList => text "ConnList"
  | .connClose selector => variant "ConnClose" (record [("selector", selectorCbor selector)])
  | .tokenGrant peer caps ttlSecs => variant "TokenGrant" (record
      [("peer", selectorCbor peer), ("caps", array (caps.map fun c => text c.display)),
        ("ttl_secs", optional encodeUInt64 ttlSecs)])
  | .tokenImport raw => variant "TokenImport" (record [("raw", byteArray raw)])
  | .tokenList => text "TokenList"
  | .tokenRevoke id => variant "TokenRevoke" (record [("id", byteArray id.toList)])
  | .send peer channel payload => variant "Send" (record
      [("peer", selectorCbor peer), ("channel", text channel), ("payload", byteArray payload)])
  | .groupNew name => variant "GroupNew" (record [("name", text name)])
  | .groupList => text "GroupList"
  | .sessionList group => variant "SessionList" (record [("group", text group)])
  | .agentList group session => variant "AgentList" (record
      [("group", optional text group), ("session", optional text session)])
  | .spawn token args => variant "Spawn" (record (("token", text token) :: args.fields))
  | .agentSend token session kind payload => variant "AgentSend" (record
      [("token", text token), ("session", text session), ("kind", text (kindName kind)),
        ("payload", byteArray payload)])
  | .agentKill token agent => variant "AgentKill" (record
      [("token", text token), ("agent", text agent)])
  | .sessionClose token session discard => variant "SessionClose" (record
      [("token", text token), ("session", text session), ("discard", bool discard)])
  | .whoAmI token => variant "WhoAmI" (record [("token", text token)])

end Encode

end WalkieTalkie.Ipc
