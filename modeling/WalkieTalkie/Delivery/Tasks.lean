import Mathlib.Logic.Function.Basic
import WalkieTalkie.Delivery.System
import WalkieTalkie.Delivery.Dialling
import WalkieTalkie.Sample

/-! The delivery tasks of a daemon and how they are woken. Every peer has its own tasks, each with a
wake channel of one slot; the map of wakers holds the sender of one of them. `looked` keeps which
rows the last query of a task returned and `left` which it left in the outbox, `notified` for which
rows a `notify_peer` has returned since they were stored, and `wire` what the tasks of a peer wrote,
each time with the node that had been dialled. -/

namespace WalkieTalkie.Delivery.Tasks

open Proto Store Lib Lib.Runs

abbrev Key := NodeId × ChannelId × UInt64

/-- The answers of the store where `ORDER BY` leaves a choice, and what the libraries decide. -/
structure Setting where
  lib : Auth.Libraries
  secret : lib.ed.SecretKey
  channelId : String → ChannelId
  frames : Codec MessageFrame
  opens : Codec StreamOpen
  tickets : Tickets
  order : List MessageRow → List MessageRow
  ordered : ∀ rows, OrderedBy MessageTable.oldestFirst rows (order rows)
  tokenOrder : List TokenRow → List TokenRow
  tokenOrdered : ∀ rows, OrderedBy TokenTable.newestFirst rows (tokenOrder rows)

inductive Phase
  | spawned
  | query
  | sending (row : MessageRow) (rest : List MessageRow)
  | marking (row : MessageRow) (rest : List MessageRow)
  | waiting (drained : Bool)
  | exiting
  | gone
deriving DecidableEq

structure Task where
  phase : Phase
  woken : Bool
  streams : List (String × NodeId)
  looked : List Key
  left : List Key
deriving DecidableEq

inductive Sent
  | streamOpen (so : StreamOpen)
  | messageFrame (channel : String) (frame : MessageFrame)
deriving DecidableEq

structure State where
  trust : Daemon.Trust.State
  table : MessageTable
  wakers : NodeId → Option ℕ
  tasks : NodeId → List Task
  conns : NodeId → Option (List String)
  wire : NodeId → List (NodeId × Sent)
  notified : NodeId → List Key
  shutdown : Bool

def initial (trust : Daemon.Trust.State) (table : MessageTable) : State :=
  ⟨trust, table, fun _ => none, fun _ => [], fun _ => none, fun _ => [], fun _ => [], false⟩

inductive TaskLabel
  | start
  | query
  | openStream (nowSecs : UInt64) (works : Bool)
  | write (works : Bool)
  | mark (nowMs : UInt64)
  | fail
  | wake
  | timer
  | hangUp
  | stop
  | leave

inductive Label
  | request (call : Daemon.Trust.Call)
  | send (peer : PeerSelector) (channel : String) (payload : Bytes) (nowMs : UInt64)
  | inbound (remote : NodeId) (channel : String) (frame : MessageFrame) (nowMs : UInt64)
  | shutdown
  | notify (peer : NodeId)
  | task (peer : NodeId) (index : ℕ) (label : TaskLabel)

def pendingKeys (table : MessageTable) (peer : NodeId) : List Key :=
  (table.pendingFor peer).map MessageRow.key

def Task.spawn : Task := ⟨.spawned, false, [], [], []⟩

/-- The drain ends with an error: the streams are dropped and the task goes to sleep. -/
def Task.backOff (t : Task) : Task := { t with phase := .waiting false, streams := [] }

def Phase.draining : Phase → Bool
  | .query | .sending .. | .marking .. => true
  | _ => false

/-- Between the first drain and the exit from the loop. -/
def Phase.looping : Phase → Bool
  | .waiting _ => true
  | p => p.draining

def State.setTask (st : State) (peer : NodeId) (index : ℕ) (task : Task) : State :=
  { st with tasks := Function.update st.tasks peer ((st.tasks peer).set index task) }

def State.respawn (st : State) (peer : NodeId) : State :=
  { st with
    wakers := Function.update st.wakers peer (some (st.tasks peer).length)
    tasks := Function.update st.tasks peer (st.tasks peer ++ [Task.spawn]) }

def State.wakePeer (st : State) (peer : NodeId) : State :=
  match st.wakers peer with
  | none => st.respawn peer
  | some k =>
    match (st.tasks peer)[k]? with
    | none => st.respawn peer
    | some task =>
      if task.phase = .gone then st.respawn peer
      else st.setTask peer k { task with woken := true }

def notifyPeer (st : State) (peer : NodeId) : State :=
  { st.wakePeer peer with
    notified := Function.update st.notified peer (pendingKeys st.table peer ++ st.notified peer) }

variable (S : Setting)

def Setting.self : NodeId := Auth.nodeidOf S.lib S.secret

def outboxPendingForPeer (table : MessageTable) (peer : NodeId) : List MessageRow :=
  (S.order (table.pendingFor peer)).take deliveryBatch

/-- What `open_outbound_stream` shows to the peer, and the node that it dials for it. -/
def openOutbound (trust : Daemon.Trust.State) (peer : NodeId) (now : UInt64) :
    Option (SignedToken × NodeId) :=
  match trust.peers.peerGet (.nodeId peer) with
  | none => none
  | some row =>
    match TokenTable.firstWithCap .msg
      (S.tokenOrder (trust.tokens.tokenCandidates peer S.self now)) with
    | none => none
    | some tok =>
      match S.lib.signed.decode tok.raw with
      | .error _ => none
      | .ok signed => (dialled S.lib S.tickets peer row).map fun addr => (signed, addr.id)

def connLabel (channel : String) : String := s!"msg:{channel}"

def noteStream (labels : Option (List String)) (channel : String) : Option (List String) :=
  match labels with
  | none => some [connLabel channel]
  | some ls => some (if connLabel channel ∈ ls then ls else ls ++ [connLabel channel])

def forgetStream (labels : Option (List String)) (channel : String) : Option (List String) :=
  labels.map fun ls => ls.filter fun l => l ≠ connLabel channel

def State.dropStream (st : State) (peer : NodeId) (channel : String) : State :=
  { st with conns := Function.update st.conns peer (forgetStream (st.conns peer) channel) }

def State.put (st : State) (peer remote : NodeId) (s : Sent) : State :=
  { st with wire := Function.update st.wire peer (st.wire peer ++ [(remote, s)]) }

/-- The pending rows beyond the limit of the query. -/
def leftInOutbox (table : MessageTable) (peer : NodeId) : List Key :=
  ((S.order (table.pendingFor peer)).drop deliveryBatch).map MessageRow.key

def runQuery (st : State) (peer : NodeId) (index : ℕ) (task : Task) : State :=
  let rows := outboxPendingForPeer S st.table peer
  let looked := rows.map MessageRow.key
  let left := leftInOutbox S st.table peer
  match rows with
  | [] => st.setTask peer index { task with phase := .waiting true, looked, left }
  | row :: rest => st.setTask peer index { task with phase := .sending row rest, looked, left }

def runOpen (st : State) (peer : NodeId) (index : ℕ) (task : Task) (row : MessageRow)
    (now : UInt64) (works : Bool) : State :=
  match openOutbound S st.trust peer now with
  | none => st.setTask peer index task.backOff
  | some (signed, remote) =>
    if works && (S.opens.encode (.msg signed row.channel)).length ≤ maxFrameBytes then
      let st := st.put peer remote (.streamOpen (.msg signed row.channel))
      let st :=
        { st with conns := Function.update st.conns peer (noteStream (st.conns peer) row.channel) }
      st.setTask peer index { task with streams := (row.channel, remote) :: task.streams }
    else st.setTask peer index task.backOff

def runWrite (st : State) (peer : NodeId) (index : ℕ) (task : Task) (row : MessageRow)
    (rest : List MessageRow) (remote : NodeId) (works : Bool) : State :=
  if works && (S.frames.encode row.frame).length ≤ maxFrameBytes then
    (st.put peer remote (.messageFrame row.channel row.frame)).setTask peer index
      { task with phase := .marking row rest }
  else (st.dropStream peer row.channel).setTask peer index task.backOff

def afterMark : List MessageRow → Phase
  | [] => .query
  | row :: rest => .sending row rest

def runMark (st : State) (peer : NodeId) (index : ℕ) (task : Task) (row : MessageRow)
    (rest : List MessageRow) (now : UInt64) : State :=
  { st with
    table := st.table.outboxMarkDelivered row.sender row.channelId row.seq now }.setTask peer index
      { task with phase := afterMark rest }

/-- A drain fails: in its query, or in the delivery of a row. -/
def runFail (st : State) (peer : NodeId) (index : ℕ) (task : Task) : Option State :=
  match task.phase with
  | .query => some (st.setTask peer index
    { task.backOff with looked := [], left := pendingKeys st.table peer })
  | .sending _ _ | .marking _ _ => some (st.setTask peer index task.backOff)
  | _ => none

def runTask (st : State) (peer : NodeId) (index : ℕ) (task : Task) : TaskLabel → Option State
  | .start =>
    if task.phase = .spawned then some (st.setTask peer index { task with phase := .query })
    else none
  | .query => if task.phase = .query then some (runQuery S st peer index task) else none
  | .openStream now works =>
    match task.phase with
    | .sending row _ =>
      match task.streams.lookup row.channel with
      | some _ => none
      | none => some (runOpen S st peer index task row now works)
    | _ => none
  | .write works =>
    match task.phase with
    | .sending row rest =>
      match task.streams.lookup row.channel with
      | some remote => some (runWrite S st peer index task row rest remote works)
      | none => none
    | _ => none
  | .mark now =>
    match task.phase with
    | .marking row rest => some (runMark st peer index task row rest now)
    | _ => none
  | .fail => runFail st peer index task
  | .wake =>
    match task.phase with
    | .waiting _ =>
      if task.woken then some (st.setTask peer index { task with woken := false, phase := .query })
      else none
    | _ => none
  | .timer =>
    match task.phase with
    | .waiting _ => some (st.setTask peer index { task with phase := .query })
    | _ => none
  | .hangUp =>
    match task.phase with
    | .waiting _ =>
      if task.woken || st.wakers peer = some index then none
      else some (st.setTask peer index { task with phase := .exiting })
    | _ => none
  | .stop =>
    match task.phase with
    | .waiting _ =>
      if st.shutdown then some (st.setTask peer index { task with phase := .exiting }) else none
    | _ => none
  | .leave =>
    if task.phase = .exiting then
      some ({ st with wakers := Function.update st.wakers peer none }.setTask peer index
        { task with phase := .gone })
    else none

def step (st : State) : Label → Option State
  | .request call => some { st with trust := (Daemon.Trust.dispatch S.lib S.secret st.trust call).1 }
  | .send sel channel payload now =>
    match st.trust.peers.peerGet (Daemon.Trust.selToBytes sel) with
    | none => none
    | some peer =>
      match st.table.outboxEnqueue S.channelId S.self peer.nodeid channel payload now with
      | .error _ => none
      | .ok (table, _) => some { st with table }
  | .inbound remote channel frame now =>
    some { st with table := (st.table.inboxRecord S.channelId remote channel frame now).1 }
  | .shutdown => some { st with shutdown := true }
  | .notify peer => some (notifyPeer st peer)
  | .task peer index label =>
    match (st.tasks peer)[index]? with
    | none => none
    | some task => runTask S st peer index task label

lemma setTask_tasks (st : State) (p : NodeId) (i : ℕ) (t : Task) :
    (st.setTask p i t).tasks p = (st.tasks p).set i t :=
  Function.update_self ..

lemma respawn_tasks (st : State) (p : NodeId) :
    (st.respawn p).tasks p = st.tasks p ++ [Task.spawn] :=
  Function.update_self ..

lemma wakePeer_cases (st : State) (peer : NodeId) : st.wakePeer peer = st.respawn peer ∨
    ∃ k task, st.wakers peer = some k ∧ (st.tasks peer)[k]? = some task ∧
      st.wakePeer peer = st.setTask peer k { task with woken := true } := by
  rw [State.wakePeer]
  split
  · exact Or.inl rfl
  · next k hk =>
    split
    · exact Or.inl rfl
    · next task htask =>
      split
      · exact Or.inl rfl
      · exact Or.inr ⟨k, task, hk, htask, rfl⟩

inductive Ran (st : State) (peer : NodeId) (i : ℕ) (task : Task) : TaskLabel → State → Prop
  | start (h : task.phase = .spawned) :
      Ran st peer i task .start (st.setTask peer i { task with phase := .query })
  | query (h : task.phase = .query) : Ran st peer i task .query (runQuery S st peer i task)
  | openStream {now works row rest} (h : task.phase = .sending row rest)
      (hnew : task.streams.lookup row.channel = none) :
      Ran st peer i task (.openStream now works) (runOpen S st peer i task row now works)
  | write {works row rest remote} (h : task.phase = .sending row rest)
      (hopen : task.streams.lookup row.channel = some remote) :
      Ran st peer i task (.write works) (runWrite S st peer i task row rest remote works)
  | mark {now row rest} (h : task.phase = .marking row rest) :
      Ran st peer i task (.mark now) (runMark st peer i task row rest now)
  | failQuery (h : task.phase = .query) :
      Ran st peer i task .fail
        (st.setTask peer i { task.backOff with looked := [], left := pendingKeys st.table peer })
  | failRow (h : task.phase.draining = true) (hquery : task.phase ≠ .query) :
      Ran st peer i task .fail (st.setTask peer i task.backOff)
  | wake {drained} (h : task.phase = .waiting drained) (hwoken : task.woken = true) :
      Ran st peer i task .wake (st.setTask peer i { task with woken := false, phase := .query })
  | timer {drained} (h : task.phase = .waiting drained) :
      Ran st peer i task .timer (st.setTask peer i { task with phase := .query })
  | hangUp {drained} (h : task.phase = .waiting drained) (hidle : task.woken = false)
      (hsender : st.wakers peer ≠ some i) :
      Ran st peer i task .hangUp (st.setTask peer i { task with phase := .exiting })
  | stop {drained} (h : task.phase = .waiting drained) (hdown : st.shutdown = true) :
      Ran st peer i task .stop (st.setTask peer i { task with phase := .exiting })
  | leave (h : task.phase = .exiting) :
      Ran st peer i task .leave
        ({ st with wakers := Function.update st.wakers peer none }.setTask peer i
          { task with phase := .gone })

inductive Moves (st : State) : Label → State → Prop
  | request {call} : Moves st (.request call)
      { st with trust := (Daemon.Trust.dispatch S.lib S.secret st.trust call).1 }
  | send {sel channel payload now peer table row}
      (hpeer : st.trust.peers.peerGet (Daemon.Trust.selToBytes sel) = some peer)
      (henq : st.table.outboxEnqueue S.channelId S.self peer.nodeid channel payload now =
        .ok (table, row)) :
      Moves st (.send sel channel payload now) { st with table }
  | inbound {remote channel frame now} : Moves st (.inbound remote channel frame now)
      { st with table := (st.table.inboxRecord S.channelId remote channel frame now).1 }
  | shutdown : Moves st .shutdown { st with shutdown := true }
  | notify {peer} : Moves st (.notify peer) (notifyPeer st peer)
  | task {peer i l task st'} (htask : (st.tasks peer)[i]? = some task)
      (hrun : runTask S st peer i task l = some st') : Moves st (.task peer i l) st'

variable {S}

lemma step_moves {st st' : State} {l : Label} (h : step S st l = some st') : Moves S st l st' := by
  cases l with
  | request call =>
    obtain rfl := Option.some.inj h
    exact .request
  | send sel channel payload now =>
    simp only [step] at h
    split at h
    · cases h
    · next hpeer =>
      split at h
      · cases h
      · next henq =>
        obtain rfl := Option.some.inj h
        exact .send hpeer henq
  | inbound remote channel frame now =>
    obtain rfl := Option.some.inj h
    exact .inbound
  | shutdown =>
    obtain rfl := Option.some.inj h
    exact .shutdown
  | notify peer =>
    obtain rfl := Option.some.inj h
    exact .notify
  | task peer i l =>
    simp only [step] at h
    split at h
    · cases h
    · next htask => exact .task htask h

lemma runTask_ran {st st' : State} {peer : NodeId} {i : ℕ} {task : Task} {l : TaskLabel}
    (h : runTask S st peer i task l = some st') : Ran S st peer i task l st' := by
  cases l with
  | start =>
    obtain ⟨hphase, h⟩ := Option.ite_none_right_eq_some.mp h
    obtain rfl := Option.some.inj h
    exact .start hphase
  | query =>
    obtain ⟨hphase, h⟩ := Option.ite_none_right_eq_some.mp h
    obtain rfl := Option.some.inj h
    exact .query hphase
  | openStream now works =>
    simp only [runTask] at h
    split at h
    · next hphase =>
      split at h
      · cases h
      · next hnew =>
        obtain rfl := Option.some.inj h
        exact .openStream hphase hnew
    · cases h
  | write works =>
    simp only [runTask] at h
    split at h
    · next hphase =>
      split at h
      · next hopen =>
        obtain rfl := Option.some.inj h
        exact .write hphase hopen
      · cases h
    · cases h
  | mark now =>
    simp only [runTask] at h
    split at h
    · next hphase =>
      obtain rfl := Option.some.inj h
      exact .mark hphase
    · cases h
  | fail =>
    simp only [runTask, runFail] at h
    split at h
    · next hphase =>
      obtain rfl := Option.some.inj h
      exact .failQuery hphase
    · next hphase =>
      obtain rfl := Option.some.inj h
      exact .failRow (by rw [hphase]; rfl) (by rw [hphase]; exact Phase.noConfusion)
    · next hphase =>
      obtain rfl := Option.some.inj h
      exact .failRow (by rw [hphase]; rfl) (by rw [hphase]; exact Phase.noConfusion)
    · cases h
  | wake =>
    simp only [runTask] at h
    split at h
    · next hphase =>
      obtain ⟨hwoken, h⟩ := Option.ite_none_right_eq_some.mp h
      obtain rfl := Option.some.inj h
      exact .wake hphase hwoken
    · cases h
  | timer =>
    simp only [runTask] at h
    split at h
    · next hphase =>
      obtain rfl := Option.some.inj h
      exact .timer hphase
    · cases h
  | hangUp =>
    simp only [runTask] at h
    split at h
    · next hphase =>
      obtain ⟨hidle, h⟩ := Option.ite_none_left_eq_some.mp h
      obtain rfl := Option.some.inj h
      simp only [Bool.or_eq_true, decide_eq_true_eq, not_or, Bool.not_eq_true] at hidle
      exact .hangUp hphase hidle.1 hidle.2
    · cases h
  | stop =>
    simp only [runTask] at h
    split at h
    · next hphase =>
      obtain ⟨hdown, h⟩ := Option.ite_none_right_eq_some.mp h
      obtain rfl := Option.some.inj h
      exact .stop hphase hdown
    · cases h
  | leave =>
    obtain ⟨hphase, h⟩ := Option.ite_none_right_eq_some.mp h
    obtain rfl := Option.some.inj h
    exact .leave hphase

/-- Rows are only added, keep their key and their peer, and become pending for no one. -/
structure Grows (t t' : MessageTable) : Prop where
  keeps : ∀ r ∈ t.rows, ∃ r' ∈ t'.rows, r'.key = r.key ∧ r'.direction = r.direction ∧
    r'.peerNodeid = r.peerNodeid
  pending : ∀ p k, k ∈ pendingKeys t' p → t.has k = true → k ∈ pendingKeys t p

lemma Grows.refl (t : MessageTable) : Grows t t :=
  ⟨fun r hr => ⟨r, hr, rfl, rfl, rfl⟩, fun _ _ h _ => h⟩

lemma Grows.has {t t' : MessageTable} (h : Grows t t') (k : Key) (hk : t.has k = true) :
    t'.has k = true := by
  obtain ⟨r, hr, rfl⟩ := Table.has_eq_true.mp hk
  obtain ⟨r', hr', hkey, _⟩ := h.keeps r hr
  exact Table.has_eq_true.mpr ⟨r', hr', hkey⟩

lemma grows_outboxEnqueue {t t' : MessageTable} {channelId : String → ChannelId}
    {sender peer : NodeId} {channel : String} {payload : Bytes} {now : UInt64} {row : MessageRow}
    (h : t.outboxEnqueue channelId sender peer channel payload now = .ok (t', row)) :
    Grows t t' := by
  have hrows := (MessageTable.outboxEnqueue_ok h).1
  have hnew : ∀ k, t.has k = true → row.key ≠ k := by
    intro k hk
    obtain ⟨r, hr, rfl⟩ := Table.has_eq_true.mp hk
    have hnd := t'.nodup
    rw [hrows, List.map_append, List.nodup_append] at hnd
    exact (hnd.2.2 _ (List.mem_map_of_mem hr) _ (List.mem_singleton_self _)).symm
  constructor
  · intro r hr
    rw [hrows]
    exact ⟨r, List.mem_append_left _ hr, rfl, rfl, rfl⟩
  · intro p k hk hhas
    obtain ⟨r, hr, rfl⟩ := List.mem_map.mp hk
    rw [MessageTable.pendingFor, hrows, List.filter_append] at hr
    rcases List.mem_append.mp hr with hr | hr
    · exact List.mem_map_of_mem hr
    · have hr' := List.mem_singleton.mp (List.mem_of_mem_filter hr)
      rw [hr'] at hhas
      exact (hnew _ hhas rfl).elim

lemma grows_inboxRecord (t : MessageTable) (channelId : String → ChannelId) (sender : NodeId)
    (channel : String) (frame : MessageFrame) (now : UInt64) :
    Grows t (t.inboxRecord channelId sender channel frame now).1 := by
  constructor
  · intro r hr
    exact ⟨r, Table.mem_insertOrIgnore.mpr (Or.inl hr), rfl, rfl, rfl⟩
  · intro p k hk _
    obtain ⟨r, hr, rfl⟩ := List.mem_map.mp hk
    rw [MessageTable.mem_pendingFor, MessageTable.outbox_inboxRecord] at hr
    exact List.mem_map_of_mem (MessageTable.mem_pendingFor.mpr hr)

lemma grows_outboxMarkDelivered (t : MessageTable) (sender : NodeId) (cid : ChannelId)
    (seq now : UInt64) : Grows t (t.outboxMarkDelivered sender cid seq now) := by
  constructor
  · intro r hr
    refine ⟨_, MessageTable.mem_outboxMarkDelivered.mpr ⟨r, hr, rfl⟩, ?_⟩
    split <;> exact ⟨rfl, rfl, rfl⟩
  · intro p k hk _
    rw [pendingKeys, MessageTable.pendingFor_outboxMarkDelivered] at hk
    obtain ⟨r, hr, rfl⟩ := List.mem_map.mp hk
    exact List.mem_map_of_mem (List.mem_of_mem_filter hr)

/-- What a step of one task leaves as it was. -/
structure Touches (st st' : State) (peer : NodeId) : Prop where
  trust : st'.trust = st.trust
  table : st'.table = st.table ∨ ∃ task ∈ st.tasks peer, ∃ row rest now,
    task.phase = .marking row rest ∧
    st'.table = st.table.outboxMarkDelivered row.sender row.channelId row.seq now
  tasks : ∀ p, p ≠ peer → st'.tasks p = st.tasks p
  wakers : ∀ p, p ≠ peer → st'.wakers p = st.wakers p
  conns : ∀ p, p ≠ peer → st'.conns p = st.conns p
  wire : ∀ p, p ≠ peer → st'.wire p = st.wire p
  notified : st'.notified = st.notified
  shutdown : st'.shutdown = st.shutdown

lemma grows_of_touches {st st' : State} {peer : NodeId} (h : Touches st st' peer) :
    Grows st.table st'.table := by
  rcases h.table with ht | ⟨_, _, row, _, now, _, ht⟩
  · rw [ht]
    exact Grows.refl _
  · rw [ht]
    exact grows_outboxMarkDelivered ..

lemma touches_setTask (st : State) (peer : NodeId) (i : ℕ) (task : Task) :
    Touches st (st.setTask peer i task) peer where
  trust := rfl
  table := Or.inl rfl
  tasks _ hp := Function.update_of_ne hp ..
  wakers _ _ := rfl
  conns _ _ := rfl
  wire _ _ := rfl
  notified := rfl
  shutdown := rfl

lemma touches_respawn (st : State) (peer : NodeId) : Touches st (st.respawn peer) peer where
  trust := rfl
  table := Or.inl rfl
  tasks _ hp := Function.update_of_ne hp ..
  wakers _ hp := Function.update_of_ne hp ..
  conns _ _ := rfl
  wire _ _ := rfl
  notified := rfl
  shutdown := rfl

lemma touches_wakePeer (st : State) (peer : NodeId) : Touches st (st.wakePeer peer) peer := by
  rcases wakePeer_cases st peer with h | ⟨k, task, _, _, h⟩
  · rw [h]
    exact touches_respawn ..
  · rw [h]
    exact touches_setTask ..

lemma wakePeer_table (st : State) (peer : NodeId) : (st.wakePeer peer).table = st.table := by
  rcases wakePeer_cases st peer with h | ⟨k, task, _, _, h⟩
  · rw [h]
    rfl
  · rw [h]
    rfl

lemma touches_runQuery (st : State) (peer : NodeId) (i : ℕ) (task : Task) :
    Touches st (runQuery S st peer i task) peer := by
  rw [runQuery]
  split <;> exact touches_setTask ..

lemma touches_runOpen (st : State) (peer : NodeId) (i : ℕ) (task : Task) (row : MessageRow)
    (now : UInt64) (works : Bool) : Touches st (runOpen S st peer i task row now works) peer := by
  rw [runOpen]
  split
  · exact touches_setTask ..
  · split
    · exact {
        touches_setTask st peer i task with
        conns := fun p hp => Function.update_of_ne hp ..
        tasks := fun p hp => Function.update_of_ne hp ..
        wire := fun p hp => Function.update_of_ne hp .. }
    · exact touches_setTask ..

lemma touches_runWrite (st : State) (peer : NodeId) (i : ℕ) (task : Task) (row : MessageRow)
    (rest : List MessageRow) (remote : NodeId) (works : Bool) :
    Touches st (runWrite S st peer i task row rest remote works) peer := by
  rw [runWrite]
  split
  · exact {
      touches_setTask st peer i task with
      tasks := fun p hp => Function.update_of_ne hp ..
      wire := fun p hp => Function.update_of_ne hp .. }
  · exact {
      touches_setTask st peer i task with
      conns := fun p hp => Function.update_of_ne hp ..
      tasks := fun p hp => Function.update_of_ne hp .. }

lemma touches_runTask {st st' : State} {peer : NodeId} {i : ℕ} {task : Task} {l : TaskLabel}
    (htask : (st.tasks peer)[i]? = some task) (h : runTask S st peer i task l = some st') :
    Touches st st' peer := by
  cases runTask_ran h with
  | start _ => exact touches_setTask ..
  | query _ => exact touches_runQuery ..
  | openStream _ _ => exact touches_runOpen ..
  | write _ _ => exact touches_runWrite ..
  | mark hphase => exact {
      touches_setTask st peer i task with
      tasks := fun p hp => Function.update_of_ne hp ..
      table := Or.inr ⟨task, List.mem_of_getElem? htask, _, _, _, hphase, rfl⟩ }
  | failQuery _ => exact touches_setTask ..
  | failRow _ _ => exact touches_setTask ..
  | wake _ _ => exact touches_setTask ..
  | timer _ => exact touches_setTask ..
  | hangUp _ _ _ => exact touches_setTask ..
  | stop _ _ => exact touches_setTask ..
  | leave _ => exact {
      touches_setTask st peer i task with
      tasks := fun p hp => Function.update_of_ne hp ..
      wakers := fun p hp => Function.update_of_ne hp .. }

def alice : Setting where
  lib := Sample.libraries
  secret := Sample.node 1
  channelId := Sample.channelId
  frames := Sample.frameCodec
  opens := Sample.openCodec
  tickets := Sample.tickets
  order := orderBy MessageTable.oldestFirst
  ordered := orderBy_orderedBy _
  tokenOrder := orderBy TokenTable.newestFirst
  tokenOrdered := orderBy_orderedBy _

def granted (peer : UInt8) : SignedToken :=
  (Auth.signToken Sample.libraries (Sample.node peer) (Sample.node 1) [.msg] none 1000
    (Sample.tokenId peer)).2

def knows (peer : UInt8) (name : String) : List Daemon.Trust.Call :=
  [⟨.peerAdd (Sample.node peer) name none, 1000, 1000, Sample.tokenId 0⟩,
    ⟨.tokenImport (Sample.libraries.signed.encode (granted peer)), 1000, 1000, Sample.tokenId 0⟩]

def aliceTrust : Daemon.Trust.State :=
  Daemon.Trust.serveAll Sample.libraries (Sample.node 1) Daemon.Trust.initial
    (knows 2 "bob" ++ knows 3 "carol")

end WalkieTalkie.Delivery.Tasks
