import WalkieTalkie.Delivery.System
import WalkieTalkie.Sample

/-! To whom a delivery task speaks. Opening a stream reads the peer's row, then dials the address that
the row gives; the connection authenticates the dialled key. `written` keeps what was handed to a
connection, with the outbox row it was written for, whether or not the write went through. -/

namespace WalkieTalkie.Delivery.Addressing

open Proto Store Lib Lib.Runs

structure Setting where
  lib : Auth.Libraries
  secret : lib.ed.SecretKey
  channelId : String → ChannelId
  frames : Codec MessageFrame
  opens : Codec StreamOpen
  tickets : Tickets

inductive Written
  | streamOpen (so : StreamOpen)
  | messageFrame (frame : MessageFrame)
deriving DecidableEq

structure Entry where
  row : MessageRow
  remote : NodeId
  what : Written
deriving DecidableEq

structure Stream where
  channel : String
  remote : NodeId

inductive Phase
  | sending (rows : List MessageRow)
  | opening (peer : PeerRow) (row : MessageRow) (rest : List MessageRow)
  | marking (row : MessageRow) (rest : List MessageRow)

structure Task where
  peer : NodeId
  streams : List Stream
  phase : Phase

def Task.backOff (t : Task) : Task := { t with streams := [], phase := .sending [] }

structure State where
  trust : Daemon.Trust.State
  table : MessageTable
  tasks : List Task
  written : List Entry

def initial : State := ⟨Daemon.Trust.initial, Table.empty, [], []⟩

inductive Label
  | request (call : Daemon.Trust.Call)
  | send (peer : PeerSelector) (channel : String) (payload : Bytes) (nowMs : UInt64)
  | inbound (remote : NodeId) (channel : String) (frame : MessageFrame) (nowMs : UInt64)
  | startTask (peer : NodeId)
  | query (task : ℕ)
  | lookUp (task : ℕ)
  | connect (task : ℕ) (nowSecs : UInt64) (remote : NodeId) (works : Bool)
  | write (task : ℕ) (works : Bool)
  | mark (task : ℕ) (nowMs : UInt64)
  | fail (task : ℕ)
  | restart

variable (S : Setting)

def Setting.self : NodeId := Auth.nodeidOf S.lib S.secret

inductive Step : State → Label → State → Prop
  | request {st call} :
      Step st (.request call)
        { st with trust := (Daemon.Trust.dispatch S.lib S.secret st.trust call).1 }
  | send {st sel channel payload now peer table row}
      (hpeer : st.trust.peers.peerGet (Daemon.Trust.selToBytes sel) = some peer)
      (henq : st.table.outboxEnqueue S.channelId S.self peer.nodeid channel payload now =
        .ok (table, row)) :
      Step st (.send sel channel payload now) { st with table }
  | inbound {st remote channel frame now} :
      Step st (.inbound remote channel frame now)
        { st with table := (st.table.inboxRecord S.channelId remote channel frame now).1 }
  | startTask {st peer} :
      Step st (.startTask peer) { st with tasks := st.tasks ++ [⟨peer, [], .sending []⟩] }
  | query {st k task rows} (htask : st.tasks[k]? = some task) (hphase : task.phase = .sending [])
      (hrows : st.table.OutboxPendingForPeer task.peer deliveryBatch rows) :
      Step st (.query k) { st with tasks := st.tasks.set k { task with phase := .sending rows } }
  | lookUp {st k task row rest peer} (htask : st.tasks[k]? = some task)
      (hphase : task.phase = .sending (row :: rest))
      (hnew : ∀ s ∈ task.streams, s.channel ≠ row.channel)
      (hpeer : st.trust.peers.peerGet (.nodeId task.peer) = some peer) :
      Step st (.lookUp k)
        { st with tasks := st.tasks.set k { task with phase := .opening peer row rest } }
  | connect {st k now remote works task peer row rest tok signed addr}
      (htask : st.tasks[k]? = some task) (hphase : task.phase = .opening peer row rest)
      (htok : st.trust.tokens.FindTokenWithCap task.peer S.self .msg now (some tok))
      (hsigned : S.lib.signed.decode tok.raw = .ok signed)
      (haddr : dialled S.lib S.tickets task.peer peer = some addr) (hremote : remote = addr.id)
      (hsize : (S.opens.encode (.msg signed row.channel)).length ≤ maxFrameBytes) :
      Step st (.connect k now remote works)
        { st with
          tasks := st.tasks.set k
            (if works then
              { task with streams := ⟨row.channel, remote⟩ :: task.streams
                          phase := .sending (row :: rest) }
            else task.backOff)
          written := st.written ++ [⟨row, remote, .streamOpen (.msg signed row.channel)⟩] }
  | write {st k works task row rest stream} (htask : st.tasks[k]? = some task)
      (hphase : task.phase = .sending (row :: rest))
      (hstream : task.streams.find? (fun s => s.channel = row.channel) = some stream)
      (hsize : (S.frames.encode row.frame).length ≤ maxFrameBytes) :
      Step st (.write k works)
        { st with
          tasks := st.tasks.set k
            (if works then { task with phase := .marking row rest } else task.backOff)
          written := st.written ++ [⟨row, stream.remote, .messageFrame row.frame⟩] }
  | mark {st k now task row rest} (htask : st.tasks[k]? = some task)
      (hphase : task.phase = .marking row rest) :
      Step st (.mark k now)
        { st with
          table := st.table.outboxMarkDelivered row.sender row.channelId row.seq now
          tasks := st.tasks.set k { task with phase := .sending rest } }
  | fail {st k task} (htask : st.tasks[k]? = some task) :
      Step st (.fail k) { st with tasks := st.tasks.set k task.backOff }
  | restart {st} : Step st .restart { st with tasks := [] }

/-- Every registration with a ticket names the node of that ticket. -/
def NamesTickets : Label → Prop
  | .request call => NamesTicket S.tickets call
  | _ => True

instance (l : Label) : Decidable (NamesTickets S l) :=
  match l with
  | .request call => inferInstanceAs (Decidable (NamesTicket S.tickets call))
  | .send .. | .inbound .. | .startTask _ | .query _ | .lookUp _ | .connect .. | .write ..
  | .mark .. | .fail _ | .restart => isTrue trivial

def Phase.At (peer : NodeId) : Phase → Prop
  | .sending rows => ∀ r ∈ rows, r.peerNodeid = peer
  | .opening p row rest => (p.nodeid = peer ∧ OwnTicket S.tickets p) ∧
      ∀ r ∈ row :: rest, r.peerNodeid = peer
  | .marking row rest => ∀ r ∈ row :: rest, r.peerNodeid = peer

structure TaskOk (t : Task) : Prop where
  streams : ∀ s ∈ t.streams, s.remote = t.peer
  phase : t.phase.At S t.peer

structure Addressed (st : State) : Prop where
  peers : ∀ p ∈ st.trust.peers.table.rows, OwnTicket S.tickets p
  tasks : ∀ t ∈ st.tasks, TaskOk S t
  written : ∀ e ∈ st.written, e.remote = e.row.peerNodeid

variable {S}

lemma taskOk_backOff (t : Task) : TaskOk S t.backOff where
  streams _ hs := by cases hs
  phase _ hr := by cases hr

lemma addressed_step {st st' : State} {l : Label} (h : Addressed S st)
    (hstep : Guarded (fun _ => NamesTickets S) (Step S) st l st') : Addressed S st' := by
  obtain ⟨hcond, hstep⟩ := hstep
  cases hstep with
  | request => exact { h with peers := ownTicket_dispatch hcond h.peers }
  | send _ _ => exact { h with }
  | inbound => exact { h with }
  | startTask => exact { h with
      tasks := forall_mem_snoc h.tasks (taskOk_backOff ⟨_, [], .sending []⟩) }
  | @query _ task _ htask _ hrows =>
    refine { h with tasks := forall_mem_set h.tasks ⟨?_, fun r hr => (hrows.mem hr).2.2⟩ }
    exact (h.tasks task (List.mem_of_getElem? htask)).streams
  | @lookUp _ task row rest peer htask hphase _ hpeer =>
    obtain ⟨hstreams, hrows⟩ := h.tasks task (List.mem_of_getElem? htask)
    rw [hphase] at hrows
    have hid := peerGet_nodeid hpeer
    have hown := h.peers peer (List.mem_of_find?_eq_some hpeer)
    exact { h with tasks := forall_mem_set h.tasks ⟨hstreams, ⟨hid, hown⟩, hrows⟩ }
  | @connect _ _ remote works task peer row rest _ _ addr htask hphase _ _ haddr hremote _ =>
    obtain ⟨hstreams, hopening⟩ := h.tasks task (List.mem_of_getElem? htask)
    rw [hphase] at hopening
    obtain ⟨⟨hid, hown⟩, hrows⟩ := hopening
    have hto : remote = task.peer := hremote.trans (dialled_id haddr hid hown)
    refine { h with tasks := forall_mem_set h.tasks ?_, written := forall_mem_snoc h.written ?_ }
    · cases works with
      | true => exact ⟨List.forall_mem_cons.mpr ⟨hto, hstreams⟩, hrows⟩
      | false => exact taskOk_backOff task
    · exact hto.trans (hrows row (List.mem_cons_self ..)).symm
  | @write _ works task row rest stream htask hphase hstream _ =>
    obtain ⟨hstreams, hrows⟩ := h.tasks task (List.mem_of_getElem? htask)
    rw [hphase] at hrows
    refine { h with tasks := forall_mem_set h.tasks ?_, written := forall_mem_snoc h.written ?_ }
    · cases works with
      | true => exact ⟨hstreams, hrows⟩
      | false => exact taskOk_backOff task
    · have hto := hstreams stream (List.mem_of_find?_eq_some hstream)
      exact hto.trans (hrows row (List.mem_cons_self ..)).symm
  | @mark _ _ task row rest htask hphase =>
    obtain ⟨hstreams, hrows⟩ := h.tasks task (List.mem_of_getElem? htask)
    rw [hphase] at hrows
    refine { h with tasks := forall_mem_set h.tasks ⟨hstreams, fun r hr => ?_⟩ }
    exact hrows r (List.mem_cons_of_mem _ hr)
  | fail _ => exact { h with tasks := forall_mem_set h.tasks (taskOk_backOff _) }
  | restart => exact { h with tasks := fun _ ht => by cases ht }

theorem written_to_addressee {ls : List Label} {st : State}
    (hrun : Run (Guarded (fun _ => NamesTickets S) (Step S)) initial ls st) :
    ∀ e ∈ st.written, e.remote = e.row.peerNodeid := by
  have hinit : Addressed S initial :=
    ⟨fun _ hp => (by cases hp), fun _ ht => (by cases ht), fun _ he => (by cases he)⟩
  have h : Addressed S st := hrun.invariant (fun _ _ _ hi hs => addressed_step hi hs) hinit
  exact h.written

def alice : Setting where
  lib := Sample.libraries
  secret := Sample.node 1
  channelId := Sample.channelId
  frames := Sample.frameCodec
  opens := Sample.openCodec
  tickets := Sample.tickets

def granted : SignedToken :=
  (Auth.signToken Sample.libraries (Sample.node 2) (Sample.node 1) [.msg] none 1000
    (Sample.tokenId 7)).2

/-- Alice registers Bob with the ticket of some node, imports Bob's token and sends him a message. -/
def requests (owner : NodeId) : List Daemon.Trust.Call :=
  [⟨.peerAdd (Sample.node 2) "bob" (some (Sample.ticketCbor owner)), 1000, 1000, Sample.tokenId 0⟩,
    ⟨.tokenImport (Sample.libraries.signed.encode granted), 1000, 1000, Sample.tokenId 0⟩]

def trusting (owner : NodeId) : Daemon.Trust.State :=
  Daemon.Trust.serveAll Sample.libraries (Sample.node 1) Daemon.Trust.initial (requests owner)

def bob (owner : NodeId) : PeerRow := ⟨Sample.node 2, "bob", 1000, none, some (Sample.ticketCbor owner)⟩

def greeting : MessageRow :=
  ⟨Sample.node 1, Sample.channelId "chat", 1, .out, "chat", Sample.node 2, [104, 105], 5, none⟩

def greetingLabels (owner : NodeId) : List Label :=
  (requests owner).map .request ++
    [.send (.name "bob") "chat" [104, 105] 5, .startTask (Sample.node 2), .query 0, .lookUp 0,
      .connect 0 1000 owner true, .write 0 true]

def greeted (owner : NodeId) : State where
  trust := trusting owner
  table := ⟨[greeting], List.nodup_singleton _⟩
  tasks := [⟨Sample.node 2, [⟨"chat", owner⟩], .marking greeting []⟩]
  written := [⟨greeting, owner, .streamOpen (.msg granted "chat")⟩,
    ⟨greeting, owner, .messageFrame greeting.frame⟩]

lemma greeting_run {owner : NodeId} (howner : owner ∈ [Sample.node 2, Sample.node 3]) :
    Run (Step alice) initial (greetingLabels owner) (greeted owner) := by
  have hpeer : ∀ owner ∈ [Sample.node 2, Sample.node 3],
      (trusting owner).peers.peerGet (.name "bob") = some (bob owner) ∧
      (trusting owner).peers.peerGet (.nodeId (Sample.node 2)) = some (bob owner) := by
    decide +kernel
  have htok : ∀ owner ∈ [Sample.node 2, Sample.node 3],
      (trusting owner).tokens.findTokenWithCap (Sample.node 2) (Sample.node 1) .msg 1000 =
        some ⟨Sample.tokenId 7, Sample.node 2, Sample.node 1, 4102444800, [.msg],
          Sample.libraries.signed.encode granted, false⟩ := by decide +kernel
  have hdial : ∀ owner ∈ [Sample.node 2, Sample.node 3],
      dialled Sample.libraries Sample.tickets (Sample.node 2) (bob owner) = some ⟨owner, none, []⟩ := by decide +kernel
  have hfind := TokenTable.findTokenWithCap_answer (trusting owner).tokens (Sample.node 2)
    (Sample.node 1) .msg 1000
  rw [htok owner howner] at hfind
  have henq : MessageTable.outboxEnqueue Table.empty Sample.channelId (Sample.node 1)
      (Sample.node 2) "chat" [104, 105] 5 = .ok (⟨[greeting], List.nodup_singleton _⟩, greeting) := by
    rfl
  have hrows : MessageTable.OutboxPendingForPeer ⟨[greeting], List.nodup_singleton _⟩
      (Sample.node 2) deliveryBatch [greeting] :=
    ⟨[greeting], ⟨by decide +kernel, List.pairwise_singleton _ _⟩, rfl⟩
  refine .cons .request (.cons .request (.cons (.send (hpeer owner howner).1 henq) ?_))
  refine .cons .startTask (.cons (.query rfl rfl hrows) ?_)
  refine .cons (.lookUp rfl rfl (fun _ hs => by cases hs) (hpeer owner howner).2) ?_
  refine .cons (.connect rfl rfl hfind (Sample.libraries.signed.decode_encode granted)
    (hdial owner howner) rfl (by decide +kernel)) ?_
  exact .cons (.write rfl rfl rfl (by decide +kernel)) .nil

theorem written_to_addressee_greeting : (greeted (Sample.node 2)).written.length = 2 ∧
    ∀ e ∈ (greeted (Sample.node 2)).written, e.remote = e.row.peerNodeid :=
  ⟨rfl, written_to_addressee ((greeting_run (by decide)).guard (by decide +kernel))⟩

theorem ticket_of_another_node_is_dialled : ∃ ls st, Run (Step alice) initial ls st ∧
    ∃ e ∈ st.written, e.row.peerNodeid = Sample.node 2 ∧ e.remote = Sample.node 3 ∧
      e.remote ≠ e.row.peerNodeid :=
  ⟨_, _, greeting_run (List.mem_cons_of_mem _ (List.mem_singleton_self (Sample.node 3))), _,
    List.mem_cons_self .., rfl, rfl, by decide +kernel⟩

end WalkieTalkie.Delivery.Addressing
