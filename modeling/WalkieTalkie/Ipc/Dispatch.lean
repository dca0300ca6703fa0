import WalkieTalkie.Daemon.Trust
import WalkieTalkie.Ipc.Messages
import WalkieTalkie.Lib.Serve
import WalkieTalkie.Store.Records

/-! The handlers of the requests that are answered once. The daemon is given by its operations on a
state that may hold anything, so that each of them may fail wherever a handler uses it, and may answer
differently at every use. -/

namespace WalkieTalkie.Ipc

open Proto Store Lib Lib.Serve
open Daemon.Trust (selToBytes)

structure LanPeer where
  nodeid : NodeId
  instanceName : String
  lastSeenMs : UInt64

structure SpawnOutcome where
  workspace : String
  childToken : String

structure Daemon (σ : Type) where
  nodeid : NodeId
  version : String
  localTicket : σ → Except String String × σ
  peerAdd : NodeId → String → Option Bytes → σ → Except String Unit × σ
  peerRemove : PeerSelectorBytes → σ → Except String ℕ × σ
  peerList : σ → Except String (List PeerRow) × σ
  peerGet : PeerSelectorBytes → σ → Except String (Option PeerRow) × σ
  listConns : σ → List ConnInfo × σ
  lanPeers : σ → List LanPeer × σ
  signToken : NodeId → List Cap → Option UInt64 → σ → Except String (CapabilityToken × SignedToken) × σ
  tokenRow : CapabilityToken → SignedToken → σ → Except String TokenRow × σ
  encodeToken : SignedToken → σ → Except String Bytes × σ
  decodeToken : Bytes → Except String SignedToken
  verifySignedClaims : SignedToken → Except String CapabilityToken
  tokenInsert : TokenRow → σ → Except String Unit × σ
  tokenList : σ → Except String (List TokenRow) × σ
  tokenRevoke : TokenId → σ → Except String ℕ × σ
  outboxEnqueue : NodeId → NodeId → String → Bytes → σ → Except String Unit × σ
  notifyPeer : NodeId → σ → Unit × σ
  groupCreate : String → σ → Except String Bool × σ
  groupList : σ → Except String (List GroupRow) × σ
  newAgentToken : σ → String × σ
  unixMs : σ → UInt64 × σ
  agentTokenHash : String → Bytes
  agentRegister : AgentRecord → σ → Except String Bool × σ
  agentByToken : Bytes → σ → Except String (Option AgentRecord) × σ
  agentGet : String → String → σ → Except String (Option AgentRecord) × σ
  agentList : Option String → σ → Except String (List AgentRecord) × σ
  agentSetStatus : String → String → AgentStatus → σ → Except String Unit × σ
  sessionGet : String → String → σ → Except String (Option SessionRecord) × σ
  sessionList : String → σ → Except String (List SessionRecord) × σ
  sessionClose : String → String → σ → Except String Unit × σ
  busEnqueue : String → String → String → String → AgentMsgKind → Bytes → σ → Except String ℕ × σ
  spawnSession : String → SpawnArgs → σ → Except IpcError SpawnOutcome × σ
  killChild : String → String → σ → Unit × σ
  teardown : SessionRecord → Bool → σ → Except String Unit × σ

def err (code : IpcErrorCode) (message : String) : IpcEvent := .err ⟨code, message⟩

def filterMatch (filter : PeerFilter) (p : PeerInfo) : Bool :=
  match filter with
  | .all => true
  | .remote => p.source = .manual
  | .local => p.source = .mdns
  | .connected =>
    match p.state with
    | .connected _ => true
    | _ => false

def peerInfo (conns : List ConnInfo) (p : PeerRow) : PeerInfo where
  nodeid := p.nodeid
  name := p.name
  source := .manual
  state :=
    match conns.find? fun c => c.nodeid = p.nodeid with
    | some c => .connected (c.streams.length % 2 ^ 32)
    | none => if p.lastSeenMs.isSome then .idle else .offline
  lastSeenMs := p.lastSeenMs

def lanInfo (lp : LanPeer) : PeerInfo := ⟨lp.nodeid, lp.instanceName, .mdns, .idle, some lp.lastSeenMs⟩

def claimsInfo (claims : CapabilityToken) : TokenInfo :=
  ⟨claims.id, claims.iss, claims.sub, claims.exp, claims.caps, false⟩

def rowInfo (r : TokenRow) : TokenInfo := ⟨r.id, r.iss, r.sub, r.exp, r.caps, r.revoked⟩

def sessionInfo (s : SessionRecord) (childStatus : Option AgentStatus) : SessionInfo :=
  ⟨s.groupName, s.name, s.childAgent, s.fsMode, s.workspacePath, s.branch, s.status, childStatus⟩

def agentInfo (a : AgentRecord) : AgentInfo :=
  ⟨a.groupName, a.name, a.role, a.status, a.dir, a.pid⟩

def primeRecord (group : String) (tokenHash : Bytes) (now : UInt64) : AgentRecord where
  groupName := group
  name := "prime"
  tokenHash := tokenHash
  role := .prime
  status := .idle
  dir := none
  pid := none
  createdAtMs := now
  lastSeenMs := none

variable {σ : Type} (D : Daemon σ)

abbrev Handler (σ α : Type) : Type := Serve IpcEvent σ α

def resolveAgent (token : String) : Handler σ (Option AgentRecord) :=
  call (D.agentByToken (D.agentTokenHash token))

/-- A handler goes on only for a known token. -/
def authorised (token : String) (handler : AgentRecord → Handler σ Unit) : Handler σ Unit := do
  match ← resolveAgent D token with
  | none => write (err .unauthorized "unknown or invalid wt token")
  | some me => handler me

def peerList (filter : PeerFilter) : Handler σ Unit := do
  let peers ← call D.peerList
  let conns ← ask D.listConns
  let infos := (peers.map (peerInfo conns)).filter (filterMatch filter)
  each (fun info => write (.peerListItem info)) infos
  let lan ← if filter = .all ∨ filter = .local then ask D.lanPeers else pure []
  each (fun lp => write (.peerListItem (lanInfo lp)))
    (lan.filter fun lp => infos.all fun info => info.nodeid ≠ lp.nodeid)
  write .peerListEnd

def tokenGrant (peer : PeerSelector) (caps : List Cap) (ttlSecs : Option UInt64) : Handler σ Unit := do
  match ← call (D.peerGet (selToBytes peer)) with
  | none => write (err .notFound "peer not found")
  | some p =>
    let (claims, signed) ← call (D.signToken p.nodeid caps ttlSecs)
    let row ← call (D.tokenRow claims signed)
    call (D.tokenInsert row)
    let raw ← call (D.encodeToken signed)
    write (.tokenIssued raw (claimsInfo claims))

def tokenImport (raw : Bytes) : Handler σ Unit :=
  match D.decodeToken raw with
  | .error e => write (err .badRequest ("decode signed token: " ++ e))
  | .ok signed =>
    match D.verifySignedClaims signed with
    | .error e => write (err .unauthorized ("verify token signature: " ++ e))
    | .ok claims =>
      if claims.sub ≠ D.nodeid then write (err .badRequest "token subject is not this install")
      else do
        match ← call (D.peerGet (.nodeId claims.iss)) with
        | none => write (err .badRequest "token issuer is not a known peer")
        | some _ =>
          let row ← call (D.tokenRow claims signed)
          call (D.tokenInsert row)
          write (.tokenListItem (claimsInfo claims))
          write .ok

def send (peer : PeerSelector) (channel : String) (payload : Bytes) : Handler σ Unit := do
  match ← call (D.peerGet (selToBytes peer)) with
  | none => write (err .notFound "peer not found")
  | some p =>
    call (D.outboxEnqueue D.nodeid p.nodeid channel payload)
    ask (D.notifyPeer p.nodeid)
    write .ok

def groupNew (name : String) : Handler σ Unit := do
  if ← call (D.groupCreate name) then
    let token ← ask D.newAgentToken
    let now ← ask D.unixMs
    let _ ← call (D.agentRegister (primeRecord name (D.agentTokenHash token) now))
    write (.groupCreated name token)
  else write (err .badRequest ("group '" ++ name ++ "' already exists"))

def groupList : Handler σ Unit := do
  let groups ← call D.groupList
  each (fun g => do
    let sessions ← call (D.sessionList g.name)
    write (.groupListItem ⟨g.name, g.createdAtMs, sessions.length % 2 ^ 32⟩)) groups
  write .groupListEnd

def sessionList (group : String) : Handler σ Unit := do
  let sessions ← call (D.sessionList group)
  each (fun s => do
    let child ← call (D.agentGet s.groupName s.childAgent)
    write (.sessionListItem (sessionInfo s (child.map fun a => a.status)))) sessions
  write .sessionListEnd

def agentItems (rows : List AgentRecord) : Handler σ Unit := do
  each (fun a => write (.agentListItem (agentInfo a))) rows
  write .agentListEnd

def agentList (group session : Option String) : Handler σ Unit :=
  match group, session with
  | some g, some s => do
    match ← call (D.sessionGet g s) with
    | none => write (err .notFound "no such session")
    | some sess =>
      let prime ← call (D.agentGet g sess.primeAgent)
      let child ← call (D.agentGet g sess.childAgent)
      agentItems (prime.toList ++ child.toList)
  | g, _ => do
    let rows ← call (D.agentList g)
    agentItems rows

def agentSend (token session : String) (kind : AgentMsgKind) (payload : Bytes) : Handler σ Unit :=
  authorised D token fun me => do
    match ← call (D.sessionGet me.groupName session) with
    | none => write (err .notFound "no such session")
    | some sess =>
      if me.name = sess.primeAgent then
        let _ ← call (D.busEnqueue me.groupName session me.name sess.childAgent kind payload)
        write .ok
      else if me.name = sess.childAgent then
        let _ ← call (D.busEnqueue me.groupName session me.name sess.primeAgent kind payload)
        write .ok
      else write (err .badRequest "sender is not a participant of this session")

def spawn (token : String) (args : SpawnArgs) : Handler σ Unit :=
  authorised D token fun me =>
    if me.groupName ≠ args.group ∨ me.role ≠ .prime then
      write (err .unauthorized "spawn requires the group's prime token")
    else do
      match ← ask (D.spawnSession me.name args) with
      | .ok out => write (.spawned args.group args.session out.childToken out.workspace)
      | .error e => write (.err e)

def agentKill (token agent : String) : Handler σ Unit :=
  authorised D token fun me =>
    if me.role ≠ .prime then write (err .unauthorized "only the prime may kill agents")
    else do
      match ← call (D.agentGet me.groupName agent) with
      | none => write (err .notFound "no such agent")
      | some _ =>
        ask (D.killChild me.groupName agent)
        let _ ← ask (D.agentSetStatus me.groupName agent .exited)
        match ← call (D.sessionGet me.groupName agent) with
        | none => write .ok
        | some _ =>
          let _ ← ask (D.sessionClose me.groupName agent)
          write .ok

def sessionClose (token session : String) (discard : Bool) : Handler σ Unit :=
  authorised D token fun me =>
    if me.role ≠ .prime then write (err .unauthorized "only the prime may close sessions")
    else do
      match ← call (D.sessionGet me.groupName session) with
      | none => write (err .notFound "no such session")
      | some sess =>
        ask (D.killChild me.groupName sess.childAgent)
        let _ ← ask (D.agentSetStatus me.groupName sess.childAgent .exited)
        call (D.sessionClose me.groupName session)
        let _ ← ask (D.teardown sess discard)
        write .ok

def whoAmI (token : String) : Handler σ Unit :=
  authorised D token fun me =>
    write (.whoAmIInfo ⟨me.groupName, me.name, me.role,
      if me.role = .child then some me.name else none⟩)

/-- A handler that changes rows and says whether there were any. -/
def changed (op : σ → Except String ℕ × σ) (missing : String) : Handler σ Unit := do
  let n ← call op
  if n = 0 then write (err .notFound missing) else write .ok

def dispatch : IpcRequest → Handler σ Unit
  | .status => write (.statusInfo D.nodeid D.version true)
  | .nodeId => write (.nodeIdValue D.nodeid)
  | .ticket => do
    let s ← call D.localTicket
    write (.ticketValue s)
  | .peerAdd nodeid name addrBlob => do
    call (D.peerAdd nodeid name addrBlob)
    write .ok
  | .peerRm selector => changed (D.peerRemove (selToBytes selector)) "no such peer"
  | .peerList filter => peerList D filter
  | .connList => do
    let conns ← ask D.listConns
    each (fun c => write (.connListItem c)) conns
    write .connListEnd
  | .connClose _ => write (err .unimplemented "conn close not implemented yet")
  | .tokenGrant peer caps ttlSecs => tokenGrant D peer caps ttlSecs
  | .tokenImport raw => tokenImport D raw
  | .tokenList => do
    let rows ← call D.tokenList
    each (fun r => write (.tokenListItem (rowInfo r))) rows
    write .tokenListEnd
  | .tokenRevoke id => changed (D.tokenRevoke id) "no such token"
  | .send peer channel payload => send D peer channel payload
  | .groupNew name => groupNew D name
  | .groupList => groupList D
  | .sessionList group => sessionList D group
  | .agentList group session => agentList D group session
  | .spawn token args => spawn D token args
  | .agentSend token session kind payload => agentSend D token session kind payload
  | .agentKill token agent => agentKill D token agent
  | .sessionClose token session discard => sessionClose D token session discard
  | .whoAmI token => whoAmI D token

/-- What `handle_ipc_conn` writes for a request. -/
def handleRequest (req : IpcRequest) (s : σ) : List IpcEvent × σ :=
  match dispatch D req s with
  | (.ok (), w, s') => (w, s')
  | (.error e, w, s') => (w ++ [err .internal e], s')

end WalkieTalkie.Ipc
