import WalkieTalkie.Delivery.System

/-! The receiving side of one daemon against remotes that open any connections and streams and send
any bytes. A connection has the remote id that the transport authenticated. `handle_connection`
serves one stream at a time, and each accepted stream is then read by two tasks of its own. A step
is what happens between two awaits; `history` keeps what was signed, connected, accepted, opened,
verified and read, with the arguments of the checks and the tables that they saw. -/

namespace WalkieTalkie.Delivery.Inbound

open Proto Store Auth Lib Daemon.Trust

structure Host where
  lib : Libraries
  secret : lib.ed.SecretKey
  channelId : String → ChannelId
  opens : Codec StreamOpen
  frames : Codec MessageFrame

def Host.nodeid (H : Host) : NodeId := nodeidOf H.lib H.secret

inductive FrameRead
  | pending
  | tooLarge (len : ℕ)
  | frame (body rest : Bytes)
deriving DecidableEq

def readCborFrame : Bytes → FrameRead
  | a :: b :: c :: d :: rest =>
    let len := ((a.toNat * 256 + b.toNat) * 256 + c.toNat) * 256 + d.toNat
    if len > maxFrameBytes then .tooLarge len
    else if rest.length < len then .pending
    else .frame (rest.take len) (rest.drop len)
  | _ => .pending

inductive ConnPhase
  | connected
  | accepting
  | serving (stream : ℕ)
  | ended

structure Conn where
  remote : NodeId
  phase : ConnPhase

structure RecvTask where
  remote : NodeId
  fromName : Option String
  channel : String
  reading : Bool
  queue : List MessageFrame
  owed : Option MessageFrame

inductive StreamPhase
  | waiting
  | opening
  | opened (token : SignedToken) (channel : String)
  | verified (channel : String)
  | receiving (task : RecvTask)
  | dropped

structure InStream where
  conn : ℕ
  unread : Bytes
  phase : StreamPhase

inductive Event
  | signed (claims : CapabilityToken)
  | connected (conn : ℕ) (remote : NodeId)
  | accepted (conn : ℕ) (peers : PeerTable)
  | openedBi (conn stream : ℕ)
  | opened (stream : ℕ) (body : Bytes)
  | verified (stream : ℕ) (initiator : NodeId) (token : SignedToken) (now : UInt64)
      (fault : Option String) (tokens : TokenTable) (claims : CapabilityToken)
  | read (stream : ℕ) (body : Bytes)

structure State where
  trust : Daemon.Trust.State
  messages : MessageTable
  conns : List Conn
  streams : List InStream
  broadcasts : List Announcement
  history : List Event

def initial : State := ⟨Daemon.Trust.initial, Table.empty, [], [], [], []⟩

def queueCapacity : ℕ := 256

inductive Label
  | request (c : Call)
  | send (peer : NodeId) (channel : String) (payload : Bytes) (nowMs : UInt64)
  | markDelivered (cid : ChannelId) (seq nowMs : UInt64)
  | connect (remote : NodeId)
  | requirePeerKnown (conn : ℕ) (fault : Option String)
  | openBi (conn : ℕ)
  | bytes (stream : ℕ) (bs : Bytes)
  | acceptBi (conn stream : ℕ)
  | acceptEnds (conn : ℕ)
  | readStreamOpen (conn : ℕ)
  | streamOpenFails (conn : ℕ)
  | verifyToken (conn : ℕ) (now : UInt64) (fault : Option String)
  | spawnInboundMsg (conn : ℕ) (fault : Option String)
  | readFrame (stream : ℕ)
  | recvEnds (stream : ℕ)
  | inboxRecord (stream : ℕ) (nowMs : UInt64)
  | inboxRecordFails (stream : ℕ)
  | broadcast (stream : ℕ)
  | restart

def storeAnswer {α : Type} (fault : Option String) (value : α) : Except String α :=
  match fault with
  | none => .ok value
  | some e => .error e

variable (H : Host)

def signedBy (trust : Daemon.Trust.State) (c : Call) : List Event :=
  match c.request with
  | .tokenGrant .. => (written H.lib H.secret trust c).toList.map fun p => .signed p.1
  | _ => []

def peerKnown (st : State) (remote : NodeId) (fault : Option String) : Except AuthError Unit :=
  requirePeerKnown remote (storeAnswer fault (st.trust.peers.peerGet (.nodeId remote)))

def verifyStream (tokens : TokenTable) (initiator : NodeId) (token : SignedToken) (now : UInt64)
    (fault : Option String) : Except AuthError CapabilityToken :=
  verifyToken H.lib token H.nodeid initiator .msg now fun id => storeAnswer fault (tokens.tokenFind id)

def peerName (st : State) (remote : NodeId) (fault : Option String) : Option String :=
  match storeAnswer fault (st.trust.peers.peerGet (.nodeId remote)) with
  | .ok (some row) => some row.name
  | _ => none

inductive Step : State → Label → State → Prop
  | request {st c} :
      Step st (.request c)
        { st with
          trust := (dispatch H.lib H.secret st.trust c).1
          history := st.history ++ signedBy H st.trust c }
  | send {st peer channel payload now table row}
      (henq : st.messages.outboxEnqueue H.channelId H.nodeid peer channel payload now =
        .ok (table, row)) :
      Step st (.send peer channel payload now) { st with messages := table }
  | markDelivered {st cid seq now} :
      Step st (.markDelivered cid seq now)
        { st with messages := st.messages.outboxMarkDelivered H.nodeid cid seq now }
  | connect {st remote} :
      Step st (.connect remote)
        { st with
          conns := st.conns ++ [⟨remote, .connected⟩]
          history := st.history ++ [.connected st.conns.length remote] }
  | allow {st k fault remote} (hconn : st.conns[k]? = some ⟨remote, .connected⟩)
      (hknown : peerKnown st remote fault = .ok ()) :
      Step st (.requirePeerKnown k fault)
        { st with
          conns := st.conns.set k ⟨remote, .accepting⟩
          history := st.history ++ [.accepted k st.trust.peers] }
  | refuse {st k fault remote e} (hconn : st.conns[k]? = some ⟨remote, .connected⟩)
      (hknown : peerKnown st remote fault = .error e) :
      Step st (.requirePeerKnown k fault) { st with conns := st.conns.set k ⟨remote, .ended⟩ }
  | openBi {st k conn} (hconn : st.conns[k]? = some conn) :
      Step st (.openBi k)
        { st with
          streams := st.streams ++ [⟨k, [], .waiting⟩]
          history := st.history ++ [.openedBi k st.streams.length] }
  | bytes {st i bs s} (hs : st.streams[i]? = some s) :
      Step st (.bytes i bs)
        { st with streams := st.streams.set i { s with unread := s.unread ++ bs } }
  | acceptBi {st k i remote unread} (hconn : st.conns[k]? = some ⟨remote, .accepting⟩)
      (hs : st.streams[i]? = some ⟨k, unread, .waiting⟩) :
      Step st (.acceptBi k i)
        { st with
          conns := st.conns.set k ⟨remote, .serving i⟩
          streams := st.streams.set i ⟨k, unread, .opening⟩ }
  | acceptEnds {st k remote} (hconn : st.conns[k]? = some ⟨remote, .accepting⟩) :
      Step st (.acceptEnds k) { st with conns := st.conns.set k ⟨remote, .ended⟩ }
  | readStreamOpen {st k i remote unread body rest token channel}
      (hconn : st.conns[k]? = some ⟨remote, .serving i⟩)
      (hs : st.streams[i]? = some ⟨k, unread, .opening⟩)
      (hread : readCborFrame unread = .frame body rest)
      (hopen : H.opens.decode body = .ok (.msg token channel)) :
      Step st (.readStreamOpen k)
        { st with
          streams := st.streams.set i ⟨k, rest, .opened token channel⟩
          history := st.history ++ [.opened i body] }
  | streamOpenFails {st k i remote unread} (hconn : st.conns[k]? = some ⟨remote, .serving i⟩)
      (hs : st.streams[i]? = some ⟨k, unread, .opening⟩) :
      Step st (.streamOpenFails k)
        { st with
          conns := st.conns.set k ⟨remote, .ended⟩
          streams := st.streams.set i ⟨k, unread, .dropped⟩ }
  | verifyToken {st k now fault i remote unread token channel claims}
      (hconn : st.conns[k]? = some ⟨remote, .serving i⟩)
      (hs : st.streams[i]? = some ⟨k, unread, .opened token channel⟩)
      (hverify : verifyStream H st.trust.tokens remote token now fault = .ok claims) :
      Step st (.verifyToken k now fault)
        { st with
          streams := st.streams.set i ⟨k, unread, .verified channel⟩
          history := st.history ++
            [.verified i remote token now fault st.trust.tokens claims] }
  | rejectToken {st k now fault i remote unread token channel e}
      (hconn : st.conns[k]? = some ⟨remote, .serving i⟩)
      (hs : st.streams[i]? = some ⟨k, unread, .opened token channel⟩)
      (hverify : verifyStream H st.trust.tokens remote token now fault = .error e) :
      Step st (.verifyToken k now fault)
        { st with
          conns := st.conns.set k ⟨remote, .accepting⟩
          streams := st.streams.set i ⟨k, unread, .dropped⟩ }
  | spawnInboundMsg {st k fault i remote unread channel}
      (hconn : st.conns[k]? = some ⟨remote, .serving i⟩)
      (hs : st.streams[i]? = some ⟨k, unread, .verified channel⟩) :
      Step st (.spawnInboundMsg k fault)
        { st with
          conns := st.conns.set k ⟨remote, .accepting⟩
          streams := st.streams.set i
            ⟨k, unread, .receiving ⟨remote, peerName st remote fault, channel, true, [], none⟩⟩ }
  | readFrame {st i k unread task body rest frame}
      (hs : st.streams[i]? = some ⟨k, unread, .receiving task⟩) (hreading : task.reading = true)
      (hroom : task.queue.length < queueCapacity)
      (hread : readCborFrame unread = .frame body rest)
      (hframe : H.frames.decode body = .ok frame) :
      Step st (.readFrame i)
        { st with
          streams := st.streams.set i
            ⟨k, rest, .receiving { task with queue := task.queue ++ [frame] }⟩
          history := st.history ++ [.read i body] }
  | recvEnds {st i k unread task} (hs : st.streams[i]? = some ⟨k, unread, .receiving task⟩) :
      Step st (.recvEnds i)
        { st with
          streams := st.streams.set i ⟨k, unread, .receiving { task with reading := false }⟩ }
  | inboxRecord {st i k unread task frame queue now table recorded}
      (hs : st.streams[i]? = some ⟨k, unread, .receiving task⟩) (howed : task.owed = none)
      (hqueue : task.queue = frame :: queue)
      (hrecord : st.messages.inboxRecord H.channelId task.remote task.channel frame now =
        (table, recorded)) :
      Step st (.inboxRecord i now)
        { st with
          messages := table
          streams := st.streams.set i ⟨k, unread,
            .receiving { task with queue, owed := if recorded then some frame else none }⟩ }
  | inboxRecordFails {st i k unread task frame queue}
      (hs : st.streams[i]? = some ⟨k, unread, .receiving task⟩) (howed : task.owed = none)
      (hqueue : task.queue = frame :: queue) :
      Step st (.inboxRecordFails i)
        { st with
          streams := st.streams.set i
            ⟨k, unread, .receiving { task with queue, owed := some frame }⟩ }
  | broadcast {st i k unread task frame} (hs : st.streams[i]? = some ⟨k, unread, .receiving task⟩)
      (howed : task.owed = some frame) :
      Step st (.broadcast i)
        { st with
          streams := st.streams.set i ⟨k, unread, .receiving { task with owed := none }⟩
          broadcasts := st.broadcasts ++
            [announcement task.remote task.fromName task.channel frame] }
  | restart {st} :
      Step st .restart
        { st with
          conns := st.conns.map fun c => { c with phase := .ended }
          streams := st.streams.map fun s => { s with phase := .dropped } }

end WalkieTalkie.Delivery.Inbound
