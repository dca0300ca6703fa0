import WalkieTalkie.Delivery.Tasks
import WalkieTalkie.Lib.Views

/-! A dead peer cannot hold back a live one. The view of a peer keeps its own tasks, waker, streams
and delivery marks, and of the rows of the others only that they were enqueued. Its own steps and the
requests that both runs share can be replayed on the view; the tasks of other peers leave it alone. -/

namespace WalkieTalkie.Delivery.Tasks

open Proto Store Lib Lib.Runs

def only {α : Type} (peer : NodeId) (default : α) (f : NodeId → α) : NodeId → α :=
  Function.update (fun _ => default) peer (f peer)

def isOther (peer : NodeId) (r : MessageRow) : Bool := r.direction = .out && r.peerNodeid ≠ peer

/-- The table without the delivery marks on what is not for the peer. -/
def unmarked (peer : NodeId) (t : MessageTable) : MessageTable :=
  t.update (isOther peer) MessageRow.undelivered fun _ => rfl

def view (peer : NodeId) (st : State) : State :=
  { st with
    table := unmarked peer st.table
    wakers := only peer none st.wakers
    tasks := only peer [] st.tasks
    conns := only peer none st.conns
    wire := only peer [] st.wire
    notified := only peer [] st.notified }

/-- The steps that two runs have to share: what every peer's delivery depends on, and what the
tasks and the transport of this peer do. -/
def Label.concerns (peer : NodeId) : Label → Bool
  | .request _ | .send .. | .inbound .. | .shutdown => true
  | .notify p => p = peer
  | .task p _ _ => p = peer

section

variable {α : Type} {peer p : NodeId} {default v : α} {f : NodeId → α}

@[simp] lemma only_self : only peer default f peer = f peer :=
  Function.update_self ..

@[simp] lemma only_update :
    only peer default (Function.update f peer v) = Function.update (only peer default f) peer v := by
  simp [only]

lemma only_update_of_ne (h : p ≠ peer) :
    only peer default (Function.update f p v) = only peer default f := by
  simp [only, Function.update_of_ne h.symm]

lemma only_congr {g : NodeId → α} (h : f peer = g peer) :
    only peer default f = only peer default g := by
  rw [only, only, h]

end

variable {peer p : NodeId} {S : Setting} {st st' : State}

lemma rows_unmarked (t : MessageTable) : (unmarked peer t).rows =
    t.rows.map fun r => if isOther peer r then r.undelivered else r :=
  rfl

lemma pendingFor_unmarked (t : MessageTable) :
    (unmarked peer t).pendingFor peer = t.pendingFor peer := by
  refine Table.filter_update_other (fun r hr => ?_) fun r hr => ?_
  · simp only [isOther, Bool.and_eq_true, decide_eq_true_eq] at hr
    simp [hr]
  · simp only [isOther, Bool.and_eq_true, decide_eq_true_eq] at hr
    simp [hr, MessageRow.undelivered]

lemma has_unmarked (t : MessageTable) (k : Key) : (unmarked peer t).has k = t.has k := by
  rw [Table.has, Table.has, rows_unmarked, List.any_map]
  congr 1
  funext r
  dsimp only [Function.comp_apply]
  split <;> rfl

lemma seqsOf_unmarked (t : MessageTable) (sender : NodeId) (cid : ChannelId) :
    (unmarked peer t).seqsOf sender cid = t.seqsOf sender cid := by
  rw [MessageTable.seqsOf, MessageTable.seqsOf, rows_unmarked, List.filter_map, List.map_map]
  congr 1
  · funext r
    dsimp only [Function.comp_apply]
    split <;> rfl
  · refine List.filter_congr fun r _ => ?_
    dsimp only [Function.comp_apply]
    split <;> rfl

lemma unmarked_snoc {t t' : MessageTable} {row : MessageRow} (hrows : t'.rows = t.rows ++ [row])
    (hrow : row.deliveredAtMs = none ∨ row.direction = .inbound) :
    (unmarked peer t').rows = (unmarked peer t).rows ++ [row] := by
  rw [rows_unmarked, hrows, List.map_append, rows_unmarked]
  congr 1
  rw [List.map_singleton]
  rcases hrow with hrow | hrow
  · obtain ⟨⟩ := row
    obtain rfl := hrow
    split <;> rfl
  · simp [isOther, hrow]

lemma outboxEnqueue_unmarked {t t' : MessageTable} {channelId : String → ChannelId}
    {sender target : NodeId} {channel : String} {payload : Bytes} {now : UInt64} {row : MessageRow}
    (h : t.outboxEnqueue channelId sender target channel payload now = .ok (t', row)) :
    (unmarked peer t).outboxEnqueue channelId sender target channel payload now =
      .ok (unmarked peer t', row) := by
  obtain ⟨hrows, seq, hrow⟩ := MessageTable.outboxEnqueue_ok h
  have hseq := MessageTable.outboxEnqueue_seq h
  have hnext : (unmarked peer t).nextSeq sender (channelId channel) = .ok row.seq := by
    rw [← hseq, MessageTable.nextSeq, MessageTable.nextSeq, seqsOf_unmarked]
  obtain ⟨t'', ht⟩ := MessageTable.outboxEnqueue_of_nextSeq hnext target payload now
  obtain rfl := hrow
  rw [ht]
  obtain ⟨hrows', _⟩ := MessageTable.outboxEnqueue_ok ht
  refine congrArg (fun t => Except.ok (t, _)) (Table.ext_rows ?_)
  rw [hrows', unmarked_snoc hrows (Or.inl rfl)]

lemma inboxRecord_unmarked (t : MessageTable) (channelId : String → ChannelId) (remote : NodeId)
    (channel : String) (frame : MessageFrame) (now : UInt64) :
    ((unmarked peer t).inboxRecord channelId remote channel frame now).1 =
      unmarked peer (t.inboxRecord channelId remote channel frame now).1 := by
  rw [MessageTable.inboxRecord, MessageTable.inboxRecord]
  generalize hrow : MessageTable.inboundRow channelId remote channel frame now = row
  have hin : row.direction = .inbound := by rw [← hrow]; rfl
  cases hhas : t.has row.key with
  | true =>
    have hhas' := (@has_unmarked peer t row.key).trans hhas
    rw [Table.insertOrIgnore_of_has hhas, Table.insertOrIgnore_of_has hhas']
  | false =>
    have hhas' := (@has_unmarked peer t row.key).trans hhas
    refine Table.ext_rows ?_
    rw [(Table.insertOrIgnore_of_not_has hhas').1]
    exact (unmarked_snoc (Table.insertOrIgnore_of_not_has hhas).1 (Or.inr hin)).symm

lemma unmarked_mark {t : MessageTable} {row : MessageRow} {now : UInt64}
    (hpeer : ∀ o ∈ t.rows, o.key = row.key → o.peerNodeid = peer) :
    unmarked peer (t.outboxMarkDelivered row.sender row.channelId row.seq now) =
      (unmarked peer t).outboxMarkDelivered row.sender row.channelId row.seq now := by
  refine Table.ext_rows ?_
  simp only [unmarked, MessageTable.outboxMarkDelivered, Table.update, List.map_map]
  refine List.map_congr_left fun o ho => ?_
  dsimp only [Function.comp_apply]
  by_cases hk : o.key = row.key
  · have hp := hpeer o ho hk
    have hown : isOther peer o = false := by simp [isOther, hp]
    have hmarked : isOther peer (o.deliveredAt now) = false := by
      simp [isOther, MessageRow.deliveredAt, hp]
    rw [hown]
    split
    · next hmark => simp [hmarked, hmark]
    · next hmark => simp [hown, hmark]
  · have hk' : ∀ b : Bool, (if b then o.undelivered else o).key ≠ row.key := by
      intro b
      cases b <;> exact hk
    rw [← MessageRow.key]
    simp [hk, hk']

lemma unmarked_mark_other {t : MessageTable} {row : MessageRow} {now : UInt64}
    (hpeer : ∀ o ∈ t.rows, o.key = row.key → o.peerNodeid ≠ peer) :
    unmarked peer (t.outboxMarkDelivered row.sender row.channelId row.seq now) = unmarked peer t := by
  refine Table.ext_rows ?_
  simp only [unmarked, MessageTable.outboxMarkDelivered, Table.update, List.map_map]
  refine List.map_congr_left fun o ho => ?_
  dsimp only [Function.comp_apply]
  split
  · next h =>
    simp only [Bool.and_eq_true, decide_eq_true_eq] at h
    have hp := hpeer o ho h.1
    simp [isOther, MessageRow.deliveredAt, MessageRow.undelivered, h.2, hp]
  · rfl

def Phase.rows : Phase → List MessageRow
  | .sending row rest | .marking row rest => row :: rest
  | _ => []

/-- The rows that a task works on are rows of its peer. -/
def Sound (st : State) : Prop :=
  ∀ p, ∀ t ∈ st.tasks p, ∀ row ∈ t.phase.rows, ∃ o ∈ st.table.rows, o.key = row.key ∧
    o.direction = .out ∧ o.peerNodeid = p

lemma Sound.peer_of_key (h : Sound st) {t : Task} (ht : t ∈ st.tasks p) {row : MessageRow}
    (hrow : row ∈ t.phase.rows) : ∀ o ∈ st.table.rows, o.key = row.key → o.peerNodeid = p := by
  intro o ho hk
  obtain ⟨o', ho', hk', _, hp⟩ := h p t ht row hrow
  rw [st.table.eq_of_key ho ho' (hk.trans hk'.symm)]
  exact hp

lemma sound_grows {t t' : MessageTable} (hgrows : Grows t t') {p : NodeId} {row : MessageRow}
    (h : ∃ o ∈ t.rows, o.key = row.key ∧ o.direction = .out ∧ o.peerNodeid = p) :
    ∃ o ∈ t'.rows, o.key = row.key ∧ o.direction = .out ∧ o.peerNodeid = p := by
  obtain ⟨o, ho, hk, hd, hp⟩ := h
  obtain ⟨o', ho', hk', hd', hp'⟩ := hgrows.keeps o ho
  exact ⟨o', ho', hk'.trans hk, hd'.trans hd, hp'.trans hp⟩

lemma rows_pending {table : MessageTable} {row : MessageRow}
    (h : row ∈ outboxPendingForPeer S table p) :
    ∃ o ∈ table.rows, o.key = row.key ∧ o.direction = .out ∧ o.peerNodeid = p := by
  have hmem := (S.ordered (table.pendingFor p)).mem_iff.mp (List.mem_of_mem_take h)
  obtain ⟨hout, _, hp⟩ := MessageTable.mem_pendingFor.mp hmem
  exact ⟨row, (MessageTable.mem_outbox.mp hout).1, rfl, (MessageTable.mem_outbox.mp hout).2, hp⟩

lemma Ran.moves {i : ℕ} {t : Task} {l : TaskLabel} (h : Ran S st p i t l st') :
    ∃ t', st'.tasks p = (st.tasks p).set i t' ∧ ∀ row ∈ t'.phase.rows,
      row ∈ t.phase.rows ∨ row ∈ outboxPendingForPeer S st.table p := by
  have hback : ∀ row ∈ t.backOff.phase.rows,
      row ∈ t.phase.rows ∨ row ∈ outboxPendingForPeer S st.table p :=
    fun _ hrow => by cases hrow
  cases h with
  | query hphase =>
    rw [runQuery]
    split
    · exact ⟨_, Function.update_self .., fun _ hrow => by cases hrow⟩
    · next hrows => exact ⟨_, Function.update_self .., fun _ hrow => Or.inr (hrows ▸ hrow)⟩
  | openStream hphase _ =>
    rw [runOpen]
    split
    · exact ⟨_, Function.update_self .., hback⟩
    · split
      · exact ⟨_, Function.update_self .., fun _ hrow => Or.inl hrow⟩
      · exact ⟨_, Function.update_self .., hback⟩
  | write hphase _ =>
    rw [runWrite, hphase]
    split
    · exact ⟨_, Function.update_self .., fun _ hrow => Or.inl hrow⟩
    · exact ⟨_, Function.update_self .., fun _ hrow => by cases hrow⟩
  | @mark _ row rest hphase =>
    refine ⟨_, Function.update_self .., fun r hr => Or.inl ?_⟩
    rw [hphase]
    cases rest with
    | nil => cases hr
    | cons row' rest => exact List.mem_cons_of_mem _ hr
  | failRow _ _ => exact ⟨_, Function.update_self .., hback⟩
  | start _ | failQuery _ | wake _ _ | timer _ | hangUp _ _ _ | stop _ _ | leave _ =>
    exact ⟨_, Function.update_self .., fun _ hrow => by cases hrow⟩

lemma wakePeer_rows {t : Task} (h : t ∈ (st.wakePeer p).tasks p) :
    t.phase.rows = [] ∨ ∃ t' ∈ st.tasks p, t'.phase = t.phase := by
  rcases wakePeer_cases st p with hwake | ⟨k, t₀, _, ht₀, hwake⟩
  · rw [hwake, respawn_tasks] at h
    rcases List.mem_append.mp h with h | h
    · exact Or.inr ⟨t, h, rfl⟩
    · rw [List.mem_singleton.mp h]
      exact Or.inl rfl
  · rw [hwake, setTask_tasks] at h
    rcases List.mem_or_eq_of_mem_set h with h | rfl
    · exact Or.inr ⟨t, h, rfl⟩
    · exact Or.inr ⟨t₀, List.mem_of_getElem? ht₀, rfl⟩

lemma sound_step {l : Label} (h : Sound st) (hstep : step S st l = some st') : Sound st' := by
  cases step_moves hstep with
  | request | shutdown => exact h
  | send hpeer henq =>
    exact fun p t ht row hrow => sound_grows (grows_outboxEnqueue henq) (h p t ht row hrow)
  | inbound =>
    exact fun p t ht row hrow => sound_grows (grows_inboxRecord ..) (h p t ht row hrow)
  | @notify q =>
    intro p t ht row hrow
    dsimp only [notifyPeer] at ht ⊢
    rw [wakePeer_table]
    by_cases hq : p = q
    · subst hq
      rcases wakePeer_rows ht with hnone | ⟨t', ht', hphase⟩
      · rw [hnone] at hrow
        cases hrow
      · exact h p t' ht' row (hphase ▸ hrow)
    · rw [(touches_wakePeer st q).tasks p hq] at ht
      exact h p t ht row hrow
  | @task q i l t₀ st' ht₀ hrun =>
    have htouch := touches_runTask ht₀ hrun
    have hgrows := grows_of_touches htouch
    intro p t ht row hrow
    by_cases hq : p = q
    · subst hq
      obtain ⟨t', htasks, hrows⟩ := (runTask_ran hrun).moves
      rw [htasks] at ht
      rcases List.mem_or_eq_of_mem_set ht with ht | rfl
      · exact sound_grows hgrows (h p t ht row hrow)
      · rcases hrows row hrow with hrow | hrow
        · exact sound_grows hgrows (h p t₀ (List.mem_of_getElem? ht₀) row hrow)
        · exact sound_grows hgrows (rows_pending hrow)
    · rw [htouch.tasks p hq] at ht
      exact sound_grows hgrows (h p t ht row hrow)

lemma pendingKeys_view (st : State) :
    pendingKeys (view peer st).table peer = pendingKeys st.table peer := by
  rw [pendingKeys, pendingKeys]
  exact congrArg _ (pendingFor_unmarked st.table)

lemma view_setTask (st : State) (i : ℕ) (t : Task) :
    view peer (st.setTask peer i t) = (view peer st).setTask peer i t := by
  simp [view, State.setTask]

lemma view_respawn (st : State) : view peer (st.respawn peer) = (view peer st).respawn peer := by
  simp [view, State.respawn]

lemma view_put (st : State) (remote : NodeId) (s : Sent) :
    view peer (st.put peer remote s) = (view peer st).put peer remote s := by
  simp [view, State.put]

lemma view_dropStream (st : State) (channel : String) :
    view peer (st.dropStream peer channel) = (view peer st).dropStream peer channel := by
  simp [view, State.dropStream]

lemma view_runQuery (st : State) (i : ℕ) (t : Task) :
    view peer (runQuery S st peer i t) = runQuery S (view peer st) peer i t := by
  have hrows : outboxPendingForPeer S (view peer st).table peer =
      outboxPendingForPeer S st.table peer := by
    rw [outboxPendingForPeer, outboxPendingForPeer]
    exact congrArg (fun rows => (S.order rows).take _) (pendingFor_unmarked st.table)
  have hleft : leftInOutbox S (view peer st).table peer = leftInOutbox S st.table peer := by
    rw [leftInOutbox, leftInOutbox]
    exact congrArg (fun rows => ((S.order rows).drop _).map _) (pendingFor_unmarked st.table)
  rw [runQuery, runQuery, hrows, hleft]
  split <;> exact view_setTask ..

lemma view_runOpen (st : State) (i : ℕ) (t : Task) (row : MessageRow) (now : UInt64)
    (works : Bool) : view peer (runOpen S st peer i t row now works) =
      runOpen S (view peer st) peer i t row now works := by
  rw [runOpen, runOpen, show (view peer st).trust = st.trust from rfl]
  split
  · exact view_setTask ..
  · split
    · simp [view, State.setTask, State.put]
    · exact view_setTask ..

lemma view_runWrite (st : State) (i : ℕ) (t : Task) (row : MessageRow) (rest : List MessageRow)
    (remote : NodeId) (works : Bool) : view peer (runWrite S st peer i t row rest remote works) =
      runWrite S (view peer st) peer i t row rest remote works := by
  rw [runWrite, runWrite]
  split
  · rw [view_setTask, view_put]
  · rw [view_setTask, view_dropStream]

lemma view_runMark {i : ℕ} {t : Task} {row : MessageRow} {rest : List MessageRow} {now : UInt64}
    (hpeer : ∀ o ∈ st.table.rows, o.key = row.key → o.peerNodeid = peer) :
    view peer (runMark st peer i t row rest now) = runMark (view peer st) peer i t row rest now := by
  rw [runMark, runMark, view_setTask]
  congr 1
  simp only [view]
  rw [unmarked_mark hpeer]

lemma view_wakePeer (st : State) : view peer (st.wakePeer peer) = (view peer st).wakePeer peer := by
  have hwakers : (view peer st).wakers peer = st.wakers peer := only_self
  have htasks : (view peer st).tasks peer = st.tasks peer := only_self
  rw [State.wakePeer, State.wakePeer, hwakers, htasks]
  split
  · exact view_respawn st
  · split
    · exact view_respawn st
    · split
      · exact view_respawn st
      · exact view_setTask ..

lemma view_notifyPeer (st : State) :
    view peer (notifyPeer st peer) = notifyPeer (view peer st) peer := by
  rw [notifyPeer, notifyPeer, ← view_wakePeer, pendingKeys_view]
  simp [view]

lemma replay_ran (hsound : Sound st) {i : ℕ} {t : Task} {l : TaskLabel}
    (ht : (st.tasks peer)[i]? = some t) (h : Ran S st peer i t l st') :
    runTask S (view peer st) peer i t l = some (view peer st') := by
  cases h with
  | start hphase => rw [runTask, if_pos hphase, view_setTask]
  | query hphase => rw [runTask, if_pos hphase, view_runQuery]
  | openStream hphase hnew => simp only [runTask, hphase, hnew, view_runOpen]
  | write hphase hopen => simp only [runTask, hphase, hopen, view_runWrite]
  | mark hphase =>
    have hmem := List.mem_of_getElem? ht
    rw [view_runMark (hsound.peer_of_key hmem (hphase ▸ List.mem_cons_self ..))]
    simp only [runTask, hphase]
  | failQuery hphase => simp only [runTask, runFail, hphase, view_setTask, pendingKeys_view]
  | failRow hdrain hquery =>
    rw [view_setTask, runTask, runFail]
    cases hphase : t.phase with
    | query => exact (hquery hphase).elim
    | sending | marking => rfl
    | spawned | waiting | exiting | gone =>
      rw [hphase] at hdrain
      cases hdrain
  | wake hphase hwoken => simp only [runTask, hphase, if_pos hwoken, view_setTask]
  | timer hphase => simp only [runTask, hphase, view_setTask]
  | hangUp hphase hidle hsender =>
    have hsender' : (view peer st).wakers peer ≠ some i := by
      rw [show (view peer st).wakers peer = st.wakers peer from only_self]
      exact hsender
    simp only [runTask, hphase, view_setTask, hidle, hsender', decide_false, Bool.or_self,
      Bool.false_eq_true, if_false]
  | stop hphase hdown =>
    have hdown' : (view peer st).shutdown = true := hdown
    simp only [runTask, hphase, if_pos hdown', view_setTask]
  | leave hphase =>
    rw [runTask, if_pos hphase, view_setTask]
    simp [view]

lemma view_of_touches (h : Touches st st' p) (hp : p ≠ peer) (hsound : Sound st) :
    view peer st' = view peer st := by
  have htable : unmarked peer st'.table = unmarked peer st.table := by
    rcases h.table with ht | ⟨t, hmem, row, rest, now, hphase, ht⟩
    · rw [ht]
    · rw [ht]
      refine unmarked_mark_other fun o ho hk => ?_
      rw [hsound.peer_of_key hmem (hphase ▸ List.mem_cons_self ..) o ho hk]
      exact hp
  simp only [view, h.trust, h.shutdown, h.notified, htable]
  rw [only_congr (h.wakers peer hp.symm), only_congr (h.tasks peer hp.symm),
    only_congr (h.conns peer hp.symm), only_congr (h.wire peer hp.symm)]

lemma view_unwinds (S : Setting) (peer : NodeId) :
    Unwinds (step S) (step S) (view peer) (Label.concerns peer) (fun _ => True) Sound where
  keeps _ _ _ hi _ hs := sound_step hi hs
  replays st l st' hi _ hs ho := by
    cases step_moves hs with
    | request | shutdown => rfl
    | send hpeer henq =>
      rw [step, show (view peer st).trust = st.trust from rfl, hpeer]
      simp only [view, outboxEnqueue_unmarked henq]
    | inbound => simp only [step, view, inboxRecord_unmarked]
    | notify =>
      obtain rfl := of_decide_eq_true ho
      rw [step, view_notifyPeer]
    | @task q i l t st' ht hrun =>
      obtain rfl : q = peer := of_decide_eq_true ho
      rw [step, show (view q st).tasks q = st.tasks q from only_self, ht]
      exact replay_ran hi ht (runTask_ran hrun)
  hides st l st' hi _ hs ho := by
    cases step_moves hs with
    | request | send | inbound | shutdown => cases ho
    | @notify q =>
      have hq : q ≠ peer := of_decide_eq_false ho
      rw [← view_of_touches (touches_wakePeer st q) hq hi]
      simp only [view, notifyPeer]
      rw [only_update_of_ne hq, (touches_wakePeer st q).notified]
    | task ht hrun => exact view_of_touches (touches_runTask ht hrun) (of_decide_eq_false ho) hi

def rowsFor (t : MessageTable) (peer : NodeId) : List MessageRow :=
  t.outbox.filter fun r => r.peerNodeid = peer

lemma rowsFor_unmarked (t : MessageTable) : rowsFor (unmarked peer t) peer = rowsFor t peer := by
  rw [rowsFor, rowsFor, MessageTable.outbox, MessageTable.outbox, List.filter_filter,
    List.filter_filter]
  refine Table.filter_update_other (fun r hr => ?_) fun r hr => ?_
  · simp only [isOther, Bool.and_eq_true, decide_eq_true_eq] at hr
    simp [hr]
  · simp only [isOther, Bool.and_eq_true, decide_eq_true_eq] at hr
    simp [hr, MessageRow.undelivered]

theorem dead_peer_does_not_block {S : Setting} {trust : Daemon.Trust.State} {table : MessageTable}
    {ls ls' : List Label} {st st' : State} (live : NodeId)
    (hrun : Run (Fires (step S)) (initial trust table) ls st)
    (hrun' : Run (Fires (step S)) (initial trust table) ls' st')
    (hsame : ls.filter (Label.concerns live) = ls'.filter (Label.concerns live)) :
    st.wire live = st'.wire live ∧ rowsFor st.table live = rowsFor st'.table live := by
  have hview := (view_unwinds S live).same_view (fun _ _ ht => by cases ht)
    (hrun.guard fun _ _ => trivial) (hrun'.guard fun _ _ => trivial) hsame
  constructor
  · have hwire := congrFun (congrArg State.wire hview) live
    simpa only [view, only_self] using hwire
  · have hrows := congrArg (fun st : State => rowsFor st.table live) hview
    simpa only [view, rowsFor_unmarked] using hrows

def delivery (peer : UInt8) : List Label :=
  [.task (Sample.node peer) 0 .start, .task (Sample.node peer) 0 .query,
    .task (Sample.node peer) 0 (.openStream 1000 true), .task (Sample.node peer) 0 (.write true),
    .task (Sample.node peer) 0 (.mark 9)]

def sends : List Label :=
  [.send (.name "carol") "chat" [104, 111] 5, .notify (Sample.node 3),
    .send (.name "bob") "chat" [104, 105] 6, .notify (Sample.node 2)]

theorem dead_peer_does_not_block_bob : ∃ st st',
    execute (step alice) (initial aliceTrust Table.empty) (sends ++ delivery 2) = some st ∧
    execute (step alice) (initial aliceTrust Table.empty) (sends ++ (delivery 3 ++ delivery 2)) =
      some st' ∧
    (st.wire (Sample.node 3)).length = 0 ∧ (st'.wire (Sample.node 3)).length = 2 ∧
    (st.wire (Sample.node 2)).length = 2 ∧
    st.wire (Sample.node 2) = st'.wire (Sample.node 2) ∧
    rowsFor st.table (Sample.node 2) = rowsFor st'.table (Sample.node 2) := by
  have hdead : (execute (step alice) (initial aliceTrust Table.empty) (sends ++ delivery 2)).map
      (fun st => ((st.wire (Sample.node 3)).length, (st.wire (Sample.node 2)).length)) =
      some (0, 2) := by
    decide +kernel
  have hlive : (execute (step alice) (initial aliceTrust Table.empty)
      (sends ++ (delivery 3 ++ delivery 2))).map (fun st => (st.wire (Sample.node 3)).length) =
      some 2 := by
    decide +kernel
  obtain ⟨st, hst, hlen⟩ := Option.map_eq_some_iff.mp hdead
  obtain ⟨st', hst', hlen'⟩ := Option.map_eq_some_iff.mp hlive
  obtain ⟨hcarol, hbob⟩ := Prod.mk.inj hlen
  have hsame := dead_peer_does_not_block (Sample.node 2) (execute_run hst) (execute_run hst') rfl
  exact ⟨st, st', hst, hst', hcarol, hlen', hbob, hsame⟩

end WalkieTalkie.Delivery.Tasks
