import WalkieTalkie.Store.Bus
import WalkieTalkie.Store.Messages
import WalkieTalkie.Store.Records
import WalkieTalkie.Store.Trust

/-! The store as one object: its tables, the calls it offers, and what each call may do to the tables and
answer. Every call reads the clock inside its job, and may fail without effect; only the reconciliation
of stale agents runs two statements outside a transaction, and may fail between them. -/

namespace WalkieTalkie.Store

open Proto Lib

inductive Answer
  | done
  | flag (b : Bool)
  | count (n : ℕ)
  | value (v : Option Bytes)
  | peers (rows : List PeerRow)
  | tokens (rows : List TokenRow)
  | nodes (peers : List NodeId)
  | messages (rows : List MessageRow)
  | groups (rows : List GroupRow)
  | agents (rows : List AgentRecord)
  | sessions (rows : List SessionRecord)
  | agentMsgs (rows : List AgentMsgRow)
  | failed (error : String)

inductive MetaOp
  | metaGet (key : String)

inductive PeerOp
  | peerAdd (nodeid : NodeId) (name : String) (addrBlob : Option Bytes)
  | peerRemove (sel : PeerSelectorBytes)
  | peerGet (sel : PeerSelectorBytes)
  | peerList
  | peerTouchSeen (nodeid : NodeId)

inductive TokenOp
  | tokenInsert (row : TokenRow)
  | tokenList
  | tokenFind (id : TokenId)
  | findTokenWithCap (iss sub : NodeId) (required : Cap) (nowSecs : UInt64)
  | tokenRevoke (id : TokenId)

inductive MessageOp
  | outboxEnqueue (sender peerNodeid : NodeId) (channel : String) (payload : Bytes)
  | outboxPendingPeers
  | outboxPendingForPeer (peer : NodeId) (limit : ℕ)
  | outboxMarkDelivered (sender : NodeId) (cid : ChannelId) (seq : UInt64)
  | inboxRecord (sender : NodeId) (channel : String) (frame : MessageFrame)
  | inboxBacklog (peer : Option NodeId) (channel : Option String) (afterMs : Option UInt64)
      (limit : ℕ)

inductive GroupOp
  | groupCreate (name : String)
  | groupList
  | groupExists (name : String)

inductive AgentOp
  | agentRegister (row : AgentRecord)
  | agentByToken (tokenHash : Bytes)
  | agentGet (group name : String)
  | agentList (group : Option String)
  | agentSetStatus (group name : String) (status : AgentStatus) (pid : Option Int64)
  | agentTouch (group name : String)

inductive SessionOp
  | sessionCreate (row : SessionRecord)
  | sessionGet (group name : String)
  | sessionList (group : String)
  | sessionClose (group name : String)

inductive BusOp
  | agentMsgEnqueue (group session fromAgent toAgent : String) (kind : AgentMsgKind)
      (payload : Bytes)
  | agentMsgBacklog (group toAgent : String) (session : Option String) (afterMs : Option UInt64)
      (limit : ℕ) (unconsumedOnly : Bool)
  | agentMsgMarkConsumed (group session : String) (seq : ℕ)
  | agentMsgPending (group toAgent : String) (kind : AgentMsgKind)
  | agentMsgSessionLog (group session : String) (afterSeq : UInt64)
  | agentMsgGroupFeed (group : String) (afterMs : UInt64)

inductive Op
  | metadata (op : MetaOp)
  | peers (op : PeerOp)
  | tokens (op : TokenOp)
  | messages (op : MessageOp)
  | groups (op : GroupOp)
  | agents (op : AgentOp)
  | sessions (op : SessionOp)
  | bus (op : BusOp)
  | reconcileStaleAgents

structure Database where
  metadata : MetaTable
  peers : PeerTable
  tokens : TokenTable
  messages : MessageTable
  groups : GroupTable
  agents : AgentRecords
  sessions : SessionRecords
  bus : BusTable

def Database.empty : Database :=
  ⟨Table.empty, PeerTable.empty, Table.empty, Table.empty, Table.empty, AgentRecords.empty,
    Table.empty, Table.empty⟩

def feedOrder (r r' : AgentMsgRow) : Prop :=
  r.enqueuedAtMs.toInt64 < r'.enqueuedAtMs.toInt64 ∨
    r.enqueuedAtMs.toInt64 = r'.enqueuedAtMs.toInt64 ∧
      (r.sessionName < r'.sessionName ∨ r.sessionName = r'.sessionName ∧ r.seq ≤ r'.seq)

def feedRows (t : BusTable) (group : String) (afterMs : UInt64) : List AgentMsgRow :=
  t.rows.filter fun r => r.groupName = group && afterMs.toInt64 < r.enqueuedAtMs.toInt64

def logRows (t : BusTable) (group session : String) (afterSeq : UInt64) : List AgentMsgRow :=
  t.rows.filter fun r => r.inSession group session && afterSeq.toInt64.toInt < (r.seq : ℤ)

def pendingPeer (t : MessageTable) (peer : NodeId) : Prop :=
  ∃ r ∈ t.outbox, r.deliveredAtMs = none ∧ r.peerNodeid = peer

inductive PerformMeta (t : MetaTable) : MetaOp → MetaTable → Answer → Prop
  | metaGet {key} : PerformMeta t (.metaGet key) t (.value (t.metaGet key))

inductive PerformPeers (t : PeerTable) : PeerOp → PeerTable → Answer → Prop
  | peerAdd {nodeid name addrBlob now t'} (h : t.peerAdd nodeid name addrBlob now = .ok t') :
    PerformPeers t (.peerAdd nodeid name addrBlob) t' .done
  | peerRemove {sel} :
    PerformPeers t (.peerRemove sel) (t.peerRemove sel).1 (.count (t.peerRemove sel).2)
  | peerGet {sel} : PerformPeers t (.peerGet sel) t (.peers (t.peerGet sel).toList)
  | peerList {rows} (h : OrderedBy (fun p q => p.name ≤ q.name) t.table.rows rows) :
    PerformPeers t .peerList t (.peers rows)
  | peerTouchSeen {nodeid now} :
    PerformPeers t (.peerTouchSeen nodeid) (t.peerTouchSeen nodeid now) .done

inductive PerformTokens (t : TokenTable) : TokenOp → TokenTable → Answer → Prop
  | tokenInsert {row} : PerformTokens t (.tokenInsert row) (t.tokenInsert row) .done
  | tokenList {rows} (h : OrderedBy TokenTable.newestFirst t.rows rows) :
    PerformTokens t .tokenList t (.tokens rows)
  | tokenFind {id} : PerformTokens t (.tokenFind id) t (.tokens (t.tokenFind id).toList)
  | findTokenWithCap {iss sub required nowSecs answer}
      (h : t.FindTokenWithCap iss sub required nowSecs answer) :
    PerformTokens t (.findTokenWithCap iss sub required nowSecs) t (.tokens answer.toList)
  | tokenRevoke {id} :
    PerformTokens t (.tokenRevoke id) (t.tokenRevoke id).1 (.count (t.tokenRevoke id).2)

inductive PerformMessages (channelId : String → ChannelId) (t : MessageTable) :
    MessageOp → MessageTable → Answer → Prop
  | outboxEnqueue {sender peerNodeid channel payload now t' row}
      (h : t.outboxEnqueue channelId sender peerNodeid channel payload now = .ok (t', row)) :
    PerformMessages channelId t (.outboxEnqueue sender peerNodeid channel payload) t'
      (.messages [row])
  | outboxPendingPeers {peers} (hnodup : peers.Nodup) (h : ∀ p, p ∈ peers ↔ pendingPeer t p) :
    PerformMessages channelId t .outboxPendingPeers t (.nodes peers)
  | outboxPendingForPeer {peer limit rows} (h : t.OutboxPendingForPeer peer limit rows) :
    PerformMessages channelId t (.outboxPendingForPeer peer limit) t (.messages rows)
  | outboxMarkDelivered {sender cid seq now} :
    PerformMessages channelId t (.outboxMarkDelivered sender cid seq)
      (t.outboxMarkDelivered sender cid seq now) .done
  | inboxRecord {sender channel frame now} :
    PerformMessages channelId t (.inboxRecord sender channel frame)
      (t.inboxRecord channelId sender channel frame now).1
      (.flag (t.inboxRecord channelId sender channel frame now).2)
  | inboxBacklog {peer channel afterMs limit rows}
      (h : t.InboxBacklog peer channel afterMs limit rows) :
    PerformMessages channelId t (.inboxBacklog peer channel afterMs limit) t (.messages rows)

inductive PerformGroups (t : GroupTable) : GroupOp → GroupTable → Answer → Prop
  | groupCreate {name now} :
    PerformGroups t (.groupCreate name) (t.groupCreate name now).1
      (.flag (t.groupCreate name now).2)
  | groupList : PerformGroups t .groupList t (.groups (earlierFirst GroupRow.createdAtMs t.rows))
  | groupExists {name} : PerformGroups t (.groupExists name) t (.flag (t.has name))

inductive PerformAgents (t : AgentRecords) : AgentOp → AgentRecords → Answer → Prop
  | agentRegister {row} :
    PerformAgents t (.agentRegister row) (t.agentRegister row).1 (.flag (t.agentRegister row).2)
  | agentByToken {tokenHash} :
    PerformAgents t (.agentByToken tokenHash) t (.agents (t.agentByToken tokenHash).toList)
  | agentGet {group name} :
    PerformAgents t (.agentGet group name) t (.agents (t.agentGet group name).toList)
  | agentList {group} : PerformAgents t (.agentList group) t (.agents (t.agentList group))
  | agentSetStatus {group name status pid now} :
    PerformAgents t (.agentSetStatus group name status pid)
      (t.agentSetStatus group name status pid now) .done
  | agentTouch {group name now} :
    PerformAgents t (.agentTouch group name) (t.agentTouch group name now) .done

inductive PerformSessions (t : SessionRecords) : SessionOp → SessionRecords → Answer → Prop
  | sessionCreate {row} :
    PerformSessions t (.sessionCreate row) (t.sessionCreate row).1
      (.flag (t.sessionCreate row).2)
  | sessionGet {group name} :
    PerformSessions t (.sessionGet group name) t (.sessions (t.sessionGet group name).toList)
  | sessionList {group} : PerformSessions t (.sessionList group) t (.sessions (t.sessionList group))
  | sessionClose {group name} :
    PerformSessions t (.sessionClose group name) (t.sessionClose group name).1
      (.count (t.sessionClose group name).2)

inductive PerformBus (t : BusTable) : BusOp → BusTable → Answer → Prop
  | agentMsgEnqueue {group session fromAgent toAgent kind payload now t' row}
      (h : t.agentMsgEnqueue group session fromAgent toAgent kind payload now = .ok (t', row)) :
    PerformBus t (.agentMsgEnqueue group session fromAgent toAgent kind payload) t'
      (.agentMsgs [row])
  | agentMsgBacklog {group toAgent session afterMs limit unconsumedOnly rows}
      (h : t.AgentMsgBacklog group toAgent session afterMs limit unconsumedOnly rows) :
    PerformBus t (.agentMsgBacklog group toAgent session afterMs limit unconsumedOnly) t
      (.agentMsgs rows)
  | agentMsgMarkConsumed {group session seq now} :
    PerformBus t (.agentMsgMarkConsumed group session seq)
      (t.agentMsgMarkConsumed group session seq now) .done
  | agentMsgPending {group toAgent kind rows} (h : t.AgentMsgPending group toAgent kind rows) :
    PerformBus t (.agentMsgPending group toAgent kind) t (.agentMsgs rows)
  | agentMsgSessionLog {group session afterSeq rows}
      (h : OrderedBy (fun r r' => r.seq ≤ r'.seq) (logRows t group session afterSeq) rows) :
    PerformBus t (.agentMsgSessionLog group session afterSeq) t (.agentMsgs rows)
  | agentMsgGroupFeed {group afterMs rows} (h : OrderedBy feedOrder (feedRows t group afterMs) rows) :
    PerformBus t (.agentMsgGroupFeed group afterMs) t (.agentMsgs rows)

inductive Perform (channelId : String → ChannelId) (db : Database) :
    Op → Database → Answer → Prop
  | metadata {op t a} (h : PerformMeta db.metadata op t a) :
    Perform channelId db (.metadata op) { db with metadata := t } a
  | peers {op t a} (h : PerformPeers db.peers op t a) :
    Perform channelId db (.peers op) { db with peers := t } a
  | tokens {op t a} (h : PerformTokens db.tokens op t a) :
    Perform channelId db (.tokens op) { db with tokens := t } a
  | messages {op t a} (h : PerformMessages channelId db.messages op t a) :
    Perform channelId db (.messages op) { db with messages := t } a
  | groups {op t a} (h : PerformGroups db.groups op t a) :
    Perform channelId db (.groups op) { db with groups := t } a
  | agents {op t a} (h : PerformAgents db.agents op t a) :
    Perform channelId db (.agents op) { db with agents := t } a
  | sessions {op t a} (h : PerformSessions db.sessions op t a) :
    Perform channelId db (.sessions op) { db with sessions := t } a
  | bus {op t a} (h : PerformBus db.bus op t a) :
    Perform channelId db (.bus op) { db with bus := t } a
  | reconciled :
    Perform channelId db .reconcileStaleAgents
      { db with agents := db.agents.reconcileStale, sessions := db.sessions.closeActive }
      (.count (db.agents.rows.filter AgentRecords.stale).length)
  | reconciledHalf {e} :
    Perform channelId db .reconcileStaleAgents { db with agents := db.agents.reconcileStale }
      (.failed e)
  | fails {op e} : Perform channelId db op db (.failed e)

end WalkieTalkie.Store
