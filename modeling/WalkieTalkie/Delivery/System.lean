import WalkieTalkie.Delivery.Dialling
import WalkieTalkie.Store.Messages

/-! Message delivery between two daemons: the `Send` requests and the per-peer delivery tasks of a
sender, the streams it opened, and the connections, streams and frames that a receiver handles. A
stream reaches the node that was dialled for its peer, whoever the peer is. A step is what happens
between two awaits. Failures, restarts and other traffic at either end are steps of their own; `log`
keeps each outbox row as it was enqueued. -/

namespace WalkieTalkie.Delivery

open Proto Store Auth Lib

structure Setting where
  lib : Libraries
  channelId : String → ChannelId
  frames : Codec MessageFrame
  tickets : Tickets
  sender : NodeId
  receiver : NodeId
  distinct : sender ≠ receiver

def maxFrameBytes : ℕ := 16 * 1024 * 1024

def deliveryBatch : ℕ := 64

inductive Verdict
  | unseen
  | connected
  | accepted (peerName : Option String)
  | refused
deriving DecidableEq

/-- A stream opened by the sender for a peer, on a connection to `remote`: the frames written to it,
and what the receiver made of it if it is the remote. -/
structure Stream where
  peer : NodeId
  remote : NodeId
  channel : String
  token : SignedToken
  bodies : List Bytes
  verdict : Verdict
  taken : List ℕ

inductive Phase
  | sending (rows : List MessageRow)
  | marking (row : MessageRow) (rest : List MessageRow)

structure Task where
  peer : NodeId
  streams : List (String × ℕ)
  phase : Phase

def Task.backOff (t : Task) : Task := { t with streams := [], phase := .sending [] }

structure Announcement where
  sender : NodeId
  fromName : Option String
  channel : String
  seq : UInt64
  payload : Bytes
  tsMs : UInt64
deriving DecidableEq

structure State where
  senderTrust : Daemon.Trust.State
  receiverTrust : Daemon.Trust.State
  senderTable : MessageTable
  log : List MessageRow
  tasks : List Task
  streams : List Stream
  receiverTable : MessageTable
  owed : List Announcement
  broadcasts : List Announcement

def initial (senderTrust receiverTrust : Daemon.Trust.State) : State :=
  ⟨senderTrust, receiverTrust, Table.empty, [], [], [], Table.empty, [], []⟩

inductive Label
  | send (peer : PeerSelector) (channel : String) (payload : Bytes) (nowMs : UInt64)
  | senderInbound (remote : NodeId) (channel : String) (frame : MessageFrame) (nowMs : UInt64)
  | startTask (peer : NodeId)
  | query (task : ℕ)
  | openStream (task : ℕ) (nowSecs : UInt64)
  | openDenied (task : ℕ) (nowSecs : UInt64)
  | write (task : ℕ)
  | tooLarge (task : ℕ)
  | mark (task : ℕ) (nowMs : UInt64)
  | fail (task : ℕ)
  | restart
  | senderTrust (trust : Daemon.Trust.State)
  | receiverTrust (trust : Daemon.Trust.State)
  | connect (stream : ℕ)
  | look (stream : ℕ) (nowSecs : UInt64)
  | record (stream frame : ℕ) (nowMs : UInt64)
  | recordFails (stream frame : ℕ)
  | broadcast
  | receiverSend (peer : NodeId) (channel : String) (payload : Bytes) (nowMs : UInt64)
  | receiverMark (cid : ChannelId) (seq nowMs : UInt64)
  | receiverInbound (remote : NodeId) (fromName : Option String) (channel : String)
      (frame : MessageFrame) (nowMs : UInt64)
  | receiverInboundFails (remote : NodeId) (fromName : Option String) (channel : String)
      (frame : MessageFrame)

def writeCborFrame (s : Stream) (body : Bytes) : Option Stream :=
  if body.length ≤ maxFrameBytes then some { s with bodies := s.bodies ++ [body] } else none

variable (S : Setting)

def Setting.body (row : MessageRow) : Bytes := S.frames.encode row.frame

def Setting.readFrame (body : Bytes) : Option MessageFrame :=
  if body.length ≤ maxFrameBytes then (S.frames.decode body).toOption else none

def Setting.announcementKey (a : Announcement) : NodeId × ChannelId × UInt64 :=
  (a.sender, S.channelId a.channel, a.seq)

def announcement (remote : NodeId) (fromName : Option String) (channel : String)
    (frame : MessageFrame) : Announcement :=
  ⟨remote, fromName, channel, frame.seq, frame.payload, frame.tsMs⟩

def recordInbound (st : State) (remote : NodeId) (fromName : Option String) (channel : String)
    (frame : MessageFrame) (now : UInt64) : State :=
  let (table, recorded) := st.receiverTable.inboxRecord S.channelId remote channel frame now
  { st with
    receiverTable := table
    owed := if recorded then st.owed ++ [announcement remote fromName channel frame] else st.owed }

def connectVerdict (trust : Daemon.Trust.State) : Verdict :=
  match requirePeerKnown S.sender (.ok (trust.peers.peerGet (.nodeId S.sender))) with
  | .ok _ => .connected
  | .error _ => .refused

def lookVerdict (trust : Daemon.Trust.State) (token : SignedToken) (now : UInt64) : Verdict :=
  match verifyToken S.lib token S.receiver S.sender .msg now
    (fun id => .ok (trust.tokens.tokenFind id)) with
  | .ok _ => .accepted ((trust.peers.peerGet (.nodeId S.sender)).map PeerRow.name)
  | .error _ => .refused

/-- What `open_outbound_stream` gives for a target and a channel. -/
inductive Opens (trust : Daemon.Trust.State) (target : NodeId) (channel : String) (now : UInt64) :
    Stream → Prop
  | opened {peer tok signed addr} (hpeer : trust.peers.peerGet (.nodeId target) = some peer)
      (htok : trust.tokens.FindTokenWithCap target S.sender .msg now (some tok))
      (hsigned : S.lib.signed.decode tok.raw = .ok signed)
      (haddr : dialled S.lib S.tickets target peer = some addr) :
      Opens trust target channel now ⟨target, addr.id, channel, signed, [], .unseen, []⟩

def OpenDenied (trust : Daemon.Trust.State) (target : NodeId) (now : UInt64) : Prop :=
  trust.peers.peerGet (.nodeId target) = none ∨
    trust.tokens.FindTokenWithCap target S.sender .msg now none ∨
    (∃ tok e, trust.tokens.FindTokenWithCap target S.sender .msg now (some tok) ∧
      S.lib.signed.decode tok.raw = .error e) ∨
    ∃ peer, trust.peers.peerGet (.nodeId target) = some peer ∧
      dialled S.lib S.tickets target peer = none

inductive Step : State → Label → State → Prop
  | send {st sel channel payload now peer table row}
      (hpeer : st.senderTrust.peers.peerGet (Daemon.Trust.selToBytes sel) = some peer)
      (henq : st.senderTable.outboxEnqueue S.channelId S.sender peer.nodeid channel payload now =
        .ok (table, row)) :
      Step st (.send sel channel payload now)
        { st with senderTable := table, log := st.log ++ [row] }
  | senderInbound {st remote channel frame now} :
      Step st (.senderInbound remote channel frame now)
        { st with
          senderTable := (st.senderTable.inboxRecord S.channelId remote channel frame now).1 }
  | startTask {st peer} :
      Step st (.startTask peer) { st with tasks := st.tasks ++ [⟨peer, [], .sending []⟩] }
  | query {st k task rows} (htask : st.tasks[k]? = some task) (hphase : task.phase = .sending [])
      (hrows : st.senderTable.OutboxPendingForPeer task.peer deliveryBatch rows) :
      Step st (.query k) { st with tasks := st.tasks.set k { task with phase := .sending rows } }
  | openStream {st k now task row rest s} (htask : st.tasks[k]? = some task)
      (hphase : task.phase = .sending (row :: rest))
      (hnew : task.streams.lookup row.channel = none)
      (hopen : Opens S st.senderTrust task.peer row.channel now s) :
      Step st (.openStream k now)
        { st with
          tasks := st.tasks.set k
            { task with streams := (row.channel, st.streams.length) :: task.streams }
          streams := st.streams ++ [s] }
  | openDenied {st k now task row rest} (htask : st.tasks[k]? = some task)
      (hphase : task.phase = .sending (row :: rest))
      (hnew : task.streams.lookup row.channel = none)
      (hdenied : OpenDenied S st.senderTrust task.peer now) :
      Step st (.openDenied k now) { st with tasks := st.tasks.set k task.backOff }
  | write {st k task row rest i s s'} (htask : st.tasks[k]? = some task)
      (hphase : task.phase = .sending (row :: rest))
      (hstream : task.streams.lookup row.channel = some i) (hs : st.streams[i]? = some s)
      (hwrite : writeCborFrame s (S.body row) = some s') :
      Step st (.write k)
        { st with
          tasks := st.tasks.set k { task with phase := .marking row rest }
          streams := st.streams.set i s' }
  | tooLarge {st k task row rest i s} (htask : st.tasks[k]? = some task)
      (hphase : task.phase = .sending (row :: rest))
      (hstream : task.streams.lookup row.channel = some i) (hs : st.streams[i]? = some s)
      (hwrite : writeCborFrame s (S.body row) = none) :
      Step st (.tooLarge k) { st with tasks := st.tasks.set k task.backOff }
  | mark {st k now task row rest} (htask : st.tasks[k]? = some task)
      (hphase : task.phase = .marking row rest) :
      Step st (.mark k now)
        { st with
          senderTable := st.senderTable.outboxMarkDelivered row.sender row.channelId row.seq now
          tasks := st.tasks.set k { task with phase := .sending rest } }
  | fail {st k task} (htask : st.tasks[k]? = some task) :
      Step st (.fail k) { st with tasks := st.tasks.set k task.backOff }
  | restart {st} : Step st .restart { st with tasks := [] }
  | senderTrust {st trust} : Step st (.senderTrust trust) { st with senderTrust := trust }
  | receiverTrust {st trust} : Step st (.receiverTrust trust) { st with receiverTrust := trust }
  | connect {st i s verdict} (hs : st.streams[i]? = some s) (hremote : s.remote = S.receiver)
      (hv : s.verdict = .unseen) (hverdict : connectVerdict S st.receiverTrust = verdict) :
      Step st (.connect i) { st with streams := st.streams.set i { s with verdict } }
  | look {st i now s verdict} (hs : st.streams[i]? = some s) (hremote : s.remote = S.receiver)
      (hv : s.verdict = .connected)
      (hverdict : lookVerdict S st.receiverTrust s.token now = verdict) :
      Step st (.look i now) { st with streams := st.streams.set i { s with verdict } }
  | record {st i j now s name body frame} (hs : st.streams[i]? = some s)
      (hremote : s.remote = S.receiver) (hv : s.verdict = .accepted name)
      (hbody : s.bodies[j]? = some body) (hframe : S.readFrame body = some frame) :
      Step st (.record i j now)
        (recordInbound S { st with streams := st.streams.set i { s with taken := j :: s.taken } }
          S.sender name s.channel frame now)
  | recordFails {st i j s name body frame} (hs : st.streams[i]? = some s)
      (hremote : s.remote = S.receiver) (hv : s.verdict = .accepted name)
      (hbody : s.bodies[j]? = some body) (hframe : S.readFrame body = some frame) :
      Step st (.recordFails i j)
        { st with
          streams := st.streams.set i { s with taken := j :: s.taken }
          owed := st.owed ++ [announcement S.sender name s.channel frame] }
  | broadcast {st a before after} (howed : st.owed = before ++ a :: after) :
      Step st .broadcast { st with owed := before ++ after, broadcasts := st.broadcasts ++ [a] }
  | receiverSend {st peer channel payload now table row}
      (henq : st.receiverTable.outboxEnqueue S.channelId S.receiver peer channel payload now =
        .ok (table, row)) :
      Step st (.receiverSend peer channel payload now) { st with receiverTable := table }
  | receiverMark {st cid seq now} :
      Step st (.receiverMark cid seq now)
        { st with
          receiverTable := st.receiverTable.outboxMarkDelivered S.receiver cid seq now }
  | receiverInbound {st remote fromName channel frame now} (hremote : remote ≠ S.sender) :
      Step st (.receiverInbound remote fromName channel frame now)
        (recordInbound S st remote fromName channel frame now)
  | receiverInboundFails {st remote fromName channel frame} (hremote : remote ≠ S.sender) :
      Step st (.receiverInboundFails remote fromName channel frame)
        { st with owed := st.owed ++ [announcement remote fromName channel frame] }

def Label.inboxFails : Label → Bool
  | .recordFails .. => true
  | .receiverInboundFails .. => true
  | _ => false

/-- The labels of a run in which something breaks: a task's connection, stream or write, the
sender's process, or the receiver's store. -/
def Label.breaks : Label → Bool
  | .fail _ => true
  | .restart => true
  | l => l.inboxFails

end WalkieTalkie.Delivery
