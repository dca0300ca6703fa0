import WalkieTalkie.Delivery.System
import WalkieTalkie.Sample

/-! The inbox of the receiver against the outbox of the sender. Frames on streams, rows in delivery
tasks and inbox rows all come from the log of enqueued rows, whose keys are distinct; what is
marked delivered stands on a stream for its peer and channel. That an inbox row was addressed to the
receiver needs that no stream for another peer reaches it with a token that it issued. -/

namespace WalkieTalkie.Delivery.ExactlyOnce

open Proto Store Lib Lib.Runs

variable {S : Setting} {st st' : State} {l : Label}

def OnWire (S : Setting) (streams : List Stream) (r : MessageRow) : Prop :=
  ∃ s ∈ streams, s.peer = r.peerNodeid ∧ s.channel = r.channel ∧ S.body r ∈ s.bodies ∧
    (S.body r).length ≤ maxFrameBytes

def Wired (S : Setting) (log : List MessageRow) (s : Stream) : Prop :=
  ∀ body ∈ s.bodies, ∃ r ∈ log, r.peerNodeid = s.peer ∧ r.channel = s.channel ∧ S.body r = body

structure SameMessage (o r : MessageRow) : Prop where
  key : o.key = r.key
  channel : o.channel = r.channel
  payload : o.payload = r.payload
  enqueuedAtMs : o.enqueuedAtMs = r.enqueuedAtMs

def FromLog (log : List MessageRow) (r : MessageRow) : Prop :=
  r.direction = .inbound ∧ ∃ o ∈ log, SameMessage o r

def Phase.rows : Phase → List MessageRow
  | .sending rows => rows
  | .marking row rest => row :: rest

structure TaskOk (S : Setting) (log : List MessageRow) (streams : List Stream) (t : Task) :
    Prop where
  rows : ∀ r ∈ Phase.rows t.phase, r.undelivered ∈ log ∧ r.peerNodeid = t.peer
  written : ∀ row rest, t.phase = .marking row rest → OnWire S streams row
  streams : ∀ c i, t.streams.lookup c = some i →
    ∃ s, streams[i]? = some s ∧ s.peer = t.peer ∧ s.channel = c

structure Invariant (S : Setting) (st : State) : Prop where
  ledger : st.senderTable.outbox.map MessageRow.undelivered = st.log
  log_rows : ∀ r ∈ st.log, r.sender = S.sender ∧ r.channelId = S.channelId r.channel
  wired : ∀ s ∈ st.streams, Wired S st.log s
  tasks : ∀ t ∈ st.tasks, TaskOk S st.log st.streams t
  delivered : ∀ r ∈ st.senderTable.outbox, r.deliveredAtMs.isSome → OnWire S st.streams r
  inbox : ∀ r ∈ st.receiverTable.rows, r.sender = S.sender → FromLog st.log r

def Grows (before after : List Stream) : Prop :=
  ∀ (i : ℕ) (s : Stream), before[i]? = some s → ∃ s', after[i]? = some s' ∧ s'.peer = s.peer ∧
    s'.channel = s.channel ∧ s.bodies ⊆ s'.bodies

lemma Grows.refl (streams : List Stream) : Grows streams streams :=
  fun _ s h => ⟨s, h, rfl, rfl, fun _ hb => hb⟩

lemma grows_append (streams : List Stream) (new : Stream) : Grows streams (streams ++ [new]) := by
  intro i s h
  have hi : i < streams.length := (List.getElem?_eq_some_iff.mp h).1
  exact ⟨s, by rwa [List.getElem?_append_left hi], rfl, rfl, fun _ hb => hb⟩

lemma grows_set {streams : List Stream} {i : ℕ} {s s' : Stream} (h : streams[i]? = some s)
    (hp : s'.peer = s.peer) (hc : s'.channel = s.channel) (hb : s.bodies ⊆ s'.bodies) :
    Grows streams (streams.set i s') := by
  intro j x hx
  by_cases hj : i = j
  · subst hj
    obtain rfl : s = x := Option.some.inj (h.symm.trans hx)
    have hi : i < streams.length := (List.getElem?_eq_some_iff.mp h).1
    exact ⟨s', by simp [hi], hp, hc, hb⟩
  · exact ⟨x, by rwa [List.getElem?_set_ne hj], rfl, rfl, fun _ hb => hb⟩

lemma OnWire.mono {before after : List Stream} {r : MessageRow} (hg : Grows before after)
    (h : OnWire S before r) : OnWire S after r := by
  obtain ⟨s, hs, hp, hc, hb, hl⟩ := h
  obtain ⟨i, hi⟩ := List.mem_iff_getElem?.mp hs
  obtain ⟨s', hs', hp', hc', hb'⟩ := hg i s hi
  exact ⟨s', List.mem_of_getElem? hs', hp'.trans hp, hc'.trans hc, hb' hb, hl⟩

lemma Wired.mono {log log' : List MessageRow} {s : Stream} (hl : log ⊆ log') (h : Wired S log s) :
    Wired S log' s := by
  intro body hb
  obtain ⟨r, hr, hrest⟩ := h body hb
  exact ⟨r, hl hr, hrest⟩

lemma TaskOk.mono {log log' : List MessageRow} {before after : List Stream} {t : Task}
    (hl : log ⊆ log') (hg : Grows before after) (h : TaskOk S log before t) :
    TaskOk S log' after t where
  rows r hr := ⟨hl (h.rows r hr).1, (h.rows r hr).2⟩
  written row rest hp := (h.written row rest hp).mono hg
  streams c i hi := by
    obtain ⟨s, hs, hp, hc⟩ := h.streams c i hi
    obtain ⟨s', hs', hp', hc', _⟩ := hg i s hs
    exact ⟨s', hs', hp'.trans hp, hc'.trans hc⟩

lemma FromLog.mono {log log' : List MessageRow} {r : MessageRow} (hl : log ⊆ log')
    (h : FromLog log r) : FromLog log' r := by
  obtain ⟨hd, o, ho, hrest⟩ := h
  exact ⟨hd, o, hl ho, hrest⟩

lemma taskOk_idle (log : List MessageRow) (streams : List Stream) (peer : NodeId) :
    TaskOk S log streams ⟨peer, [], .sending []⟩ where
  rows r hr := by cases hr
  written row rest h := by cases h
  streams c i h := by cases h

lemma Invariant.mem_log (h : Invariant S st) {r : MessageRow} (hr : r ∈ st.senderTable.outbox) :
    r.undelivered ∈ st.log := by
  rw [← h.ledger]
  exact List.mem_map_of_mem hr

lemma Invariant.exists_outbox (h : Invariant S st) {r : MessageRow} (hr : r ∈ st.log) :
    ∃ o ∈ st.senderTable.outbox, o.undelivered = r := by
  rw [← h.ledger] at hr
  exact List.mem_map.mp hr

lemma Invariant.nodup_log (h : Invariant S st) : (st.log.map MessageRow.key).Nodup := by
  rw [← h.ledger, List.map_map]
  exact st.senderTable.nodup_outbox

lemma Invariant.eq_of_key (h : Invariant S st) {r r' : MessageRow} (hr : r ∈ st.log)
    (hr' : r' ∈ st.log) (hk : r.key = r'.key) : r = r' :=
  List.inj_on_of_nodup_map h.nodup_log hr hr' hk

lemma invariant_initial (senderTrust receiverTrust : Daemon.Trust.State) :
    Invariant S (initial senderTrust receiverTrust) where
  ledger := rfl
  log_rows r hr := by cases hr
  wired s hs := by cases hs
  tasks t ht := by cases ht
  delivered r hr := by cases hr
  inbox r hr := by cases hr

lemma Invariant.setTask (h : Invariant S st) {k : ℕ} {t : Task}
    (ht : TaskOk S st.log st.streams t) : Invariant S { st with tasks := st.tasks.set k t } :=
  { h with tasks := forall_mem_set h.tasks ht }

lemma Invariant.setStream (h : Invariant S st) {i : ℕ} {s : Stream} (s' : Stream)
    (hs : st.streams[i]? = some s) (hp : s'.peer = s.peer) (hc : s'.channel = s.channel)
    (hb : s.bodies ⊆ s'.bodies) (hw : Wired S st.log s') :
    Invariant S { st with streams := st.streams.set i s' } :=
  have hg := grows_set hs hp hc hb
  { h with
    wired := forall_mem_set h.wired hw
    tasks := fun t ht => (h.tasks t ht).mono (List.Subset.refl _) hg
    delivered := fun r hr hd => (h.delivered r hr hd).mono hg }

lemma Invariant.send (h : Invariant S st) {channelPeer : NodeId} {channel : String}
    {payload : Bytes} {now : UInt64} {table : MessageTable} {row : MessageRow}
    (henq : st.senderTable.outboxEnqueue S.channelId S.sender channelPeer channel payload now =
      .ok (table, row)) : Invariant S { st with senderTable := table, log := st.log ++ [row] } := by
  obtain ⟨hrows, seq, rfl⟩ := MessageTable.outboxEnqueue_ok henq
  have hout : table.outbox = st.senderTable.outbox ++ [⟨S.sender, S.channelId channel, seq, .out,
      channel, channelPeer, payload, now, none⟩] := by
    simp [MessageTable.outbox, hrows]
  have hsub : st.log ⊆ st.log ++ [⟨S.sender, S.channelId channel, seq, .out, channel, channelPeer,
      payload, now, none⟩] := List.subset_append_left _ _
  refine ⟨?_, ?_, ?_, ?_, ?_, ?_⟩
  · simp [hout, h.ledger, MessageRow.undelivered]
  · intro r hr
    rcases List.mem_append.mp hr with hr | hr
    · exact h.log_rows r hr
    · obtain rfl := List.mem_singleton.mp hr
      exact ⟨rfl, rfl⟩
  · exact fun s hs => (h.wired s hs).mono hsub
  · exact fun t ht => (h.tasks t ht).mono hsub (Grows.refl _)
  · intro r hr hd
    rcases List.mem_append.mp (hout ▸ hr) with hr | hr
    · exact h.delivered r hr hd
    · obtain rfl := List.mem_singleton.mp hr
      cases hd
  · exact fun r hr hs => (h.inbox r hr hs).mono hsub

lemma Invariant.senderInbound (h : Invariant S st) (remote : NodeId) (channel : String)
    (frame : MessageFrame) (now : UInt64) : Invariant S { st with
      senderTable := (st.senderTable.inboxRecord S.channelId remote channel frame now).1 } := by
  have hout := st.senderTable.outbox_inboxRecord S.channelId remote channel frame now
  refine { h with ledger := ?_, delivered := ?_ }
  · dsimp only
    rw [hout]
    exact h.ledger
  · intro r hr
    exact h.delivered r (hout ▸ hr)

lemma Invariant.openStream (h : Invariant S st) {k : ℕ} {now : UInt64} {task : Task} {c : String}
    {new : Stream} (htask : st.tasks[k]? = some task)
    (hopen : Opens S st.senderTrust task.peer c now new) :
    Invariant S { st with
      tasks := st.tasks.set k { task with streams := (c, st.streams.length) :: task.streams }
      streams := st.streams ++ [new] } := by
  have hg := grows_append st.streams new
  have hok := (h.tasks task (List.mem_of_getElem? htask)).mono (List.Subset.refl _) hg
  obtain ⟨hpeer, htok, hsigned, haddr⟩ := hopen
  refine { h with wired := ?_, tasks := ?_, delivered := ?_ }
  · refine forall_mem_snoc h.wired fun body hb => ?_
    cases hb
  · refine forall_mem_set (fun t ht => (h.tasks t ht).mono (List.Subset.refl _) hg) ?_
    refine ⟨hok.rows, hok.written, fun c' i hi => ?_⟩
    rw [List.lookup_cons] at hi
    split at hi
    · next hc =>
      obtain rfl := Option.some.inj hi
      refine ⟨_, List.getElem?_concat_length, rfl, (eq_of_beq hc).symm⟩
    · exact hok.streams c' i hi
  · exact fun r hr hd => (h.delivered r hr hd).mono hg

lemma writeCborFrame_some {s s' : Stream} {body : Bytes} (h : writeCborFrame s body = some s') :
    body.length ≤ maxFrameBytes ∧ s' = { s with bodies := s.bodies ++ [body] } := by
  rw [writeCborFrame] at h
  split at h
  · next hl => exact ⟨hl, (Option.some.inj h).symm⟩
  · cases h

lemma Invariant.write (h : Invariant S st) {k i : ℕ} {task : Task} {row : MessageRow}
    {rest : List MessageRow} {s s' : Stream} (htask : st.tasks[k]? = some task)
    (hphase : task.phase = .sending (row :: rest))
    (hstream : task.streams.lookup row.channel = some i) (hs : st.streams[i]? = some s)
    (hwrite : writeCborFrame s (S.body row) = some s') :
    Invariant S { st with
      tasks := st.tasks.set k { task with phase := .marking row rest }
      streams := st.streams.set i s' } := by
  obtain ⟨hl, rfl⟩ := writeCborFrame_some hwrite
  have hok := h.tasks task (List.mem_of_getElem? htask)
  obtain ⟨x, hx, hpeer, hchannel⟩ := hok.streams _ _ hstream
  obtain rfl : s = x := Option.some.inj (hs.symm.trans hx)
  have hrows : ∀ r ∈ row :: rest, r.undelivered ∈ st.log ∧ r.peerNodeid = task.peer := by
    simpa [hphase, Phase.rows] using hok.rows
  obtain ⟨hmem, hrowpeer⟩ := hrows row (by simp)
  have hw : Wired S st.log { s with bodies := s.bodies ++ [S.body row] } := by
    intro body hb
    rcases List.mem_append.mp hb with hb | hb
    · exact h.wired s (List.mem_of_getElem? hs) body hb
    · obtain rfl := List.mem_singleton.mp hb
      exact ⟨row.undelivered, hmem, hrowpeer.trans hpeer.symm, hchannel.symm, rfl⟩
  have hsub : s.bodies ⊆ s.bodies ++ [S.body row] := List.subset_append_left _ _
  have hg : Grows st.streams (st.streams.set i { s with bodies := s.bodies ++ [S.body row] }) :=
    grows_set hs rfl rfl hsub
  refine (h.setStream { s with bodies := s.bodies ++ [S.body row] } hs rfl rfl hsub hw).setTask
    ⟨hrows, fun r rest' he => ?_, ?_⟩
  · obtain ⟨rfl, rfl⟩ := Phase.marking.inj he
    have hlt := (List.getElem?_eq_some_iff.mp hs).1
    exact ⟨_, List.mem_set hlt _, hpeer.trans hrowpeer.symm, hchannel, by simp, hl⟩
  · exact (hok.mono (List.Subset.refl _) hg).streams

lemma undelivered_mark (r : MessageRow) (k : NodeId × ChannelId × UInt64) (now : UInt64) :
    (if r.key = k then r.deliveredAt now else r).undelivered =
      r.undelivered := by
  split <;> rfl

lemma onWire_undelivered {streams : List Stream} {r r' : MessageRow}
    (he : r.undelivered = r'.undelivered) (h : OnWire S streams r) : OnWire S streams r' := by
  have hpeer : r.undelivered.peerNodeid = r'.undelivered.peerNodeid := by rw [he]
  have hchannel : r.undelivered.channel = r'.undelivered.channel := by rw [he]
  have hbody : S.body r.undelivered = S.body r'.undelivered := by rw [he]
  obtain ⟨s, hs, hp, hc, hb, hl⟩ := h
  exact ⟨s, hs, hp.trans hpeer, hc.trans hchannel, hbody ▸ hb, hbody ▸ hl⟩

lemma Invariant.mark (h : Invariant S st) {k : ℕ} {now : UInt64} {task : Task} {row : MessageRow}
    {rest : List MessageRow} (htask : st.tasks[k]? = some task)
    (hphase : task.phase = .marking row rest) :
    Invariant S { st with
      senderTable := st.senderTable.outboxMarkDelivered row.sender row.channelId row.seq now
      tasks := st.tasks.set k { task with phase := .sending rest } } := by
  have hok := h.tasks task (List.mem_of_getElem? htask)
  have hrows : ∀ r ∈ row :: rest, r.undelivered ∈ st.log ∧ r.peerNodeid = task.peer := by
    simpa [hphase, Phase.rows] using hok.rows
  have hout := st.senderTable.outbox_outboxMarkDelivered row.sender row.channelId row.seq now
  refine { h with ledger := ?_, tasks := ?_, delivered := ?_ }
  · dsimp only
    rw [hout, List.map_map, ← h.ledger]
    exact List.map_congr_left fun r _ => undelivered_mark r _ now
  · refine forall_mem_set h.tasks ⟨fun r hr => hrows r (List.mem_cons_of_mem _ hr), ?_, hok.streams⟩
    intro r rest' he
    cases he
  · intro r hr hd
    dsimp only at hr
    rw [hout] at hr
    obtain ⟨o, ho, rfl⟩ := List.mem_map.mp hr
    by_cases hk : o.key = (row.sender, row.channelId, row.seq)
    · have he : row.undelivered = o.undelivered :=
        h.eq_of_key (hrows row (by simp)).1 (h.mem_log ho) hk.symm
      rw [if_pos hk]
      exact onWire_undelivered he (hok.written row rest hphase)
    · rw [if_neg hk] at hd ⊢
      exact h.delivered o ho hd

lemma readFrame_body {row : MessageRow} {frame : MessageFrame}
    (h : S.readFrame (S.body row) = some frame) : frame = row.frame := by
  rw [Setting.readFrame, Setting.body, S.frames.decode_encode] at h
  split at h
  · exact (Option.some.inj h).symm
  · cases h

lemma readFrame_of_fits {row : MessageRow} (h : (S.body row).length ≤ maxFrameBytes) :
    S.readFrame (S.body row) = some row.frame := by
  rw [Setting.readFrame, if_pos h, Setting.body, S.frames.decode_encode]
  rfl

lemma Invariant.frame_from_log (h : Invariant S st) {s : Stream} {body : Bytes}
    {frame : MessageFrame} (hs : s ∈ st.streams) (hbody : body ∈ s.bodies)
    (hframe : S.readFrame body = some frame) (now : UInt64) :
    ∃ o ∈ st.log, o.peerNodeid = s.peer ∧
      SameMessage o (MessageTable.inboundRow S.channelId S.sender s.channel frame now) := by
  obtain ⟨o, ho, hop, hoc, rfl⟩ := h.wired s hs body hbody
  obtain rfl := readFrame_body hframe
  obtain ⟨hsender, hcid⟩ := h.log_rows o ho
  refine ⟨o, ho, hop, ?_, hoc, rfl, rfl⟩
  simp [MessageRow.key, MessageTable.inboundRow, MessageRow.frame, hsender, hcid, hoc]

lemma Invariant.recordInbound (h : Invariant S st) {remote : NodeId} {fromName : Option String}
    {channel : String} {frame : MessageFrame} {now : UInt64}
    (hfrom : remote = S.sender →
      FromLog st.log (MessageTable.inboundRow S.channelId remote channel frame now)) :
    Invariant S (recordInbound S st remote fromName channel frame now) := by
  refine { h with inbox := ?_ }
  intro r hr hs
  rcases Table.mem_insertOrIgnore.mp hr with hr | ⟨rfl, _⟩
  · exact h.inbox r hr hs
  · exact hfrom hs

lemma mem_of_receiverSend {t table : MessageTable} {peer : NodeId} {channel : String}
    {payload : Bytes} {now : UInt64} {row r : MessageRow}
    (henq : t.outboxEnqueue S.channelId S.receiver peer channel payload now = .ok (table, row))
    (hr : r ∈ table.rows) (hs : r.sender = S.sender) : r ∈ t.rows := by
  obtain ⟨hrows, seq, rfl⟩ := MessageTable.outboxEnqueue_ok henq
  rcases List.mem_append.mp (hrows ▸ hr) with hr | hr
  · exact hr
  · obtain rfl := List.mem_singleton.mp hr
    exact (S.distinct hs.symm).elim

lemma mem_of_receiverMark {t : MessageTable} {cid : ChannelId} {seq now : UInt64} {r : MessageRow}
    (hr : r ∈ (t.outboxMarkDelivered S.receiver cid seq now).rows) (hs : r.sender = S.sender) :
    r ∈ t.rows := by
  obtain ⟨o, ho, rfl⟩ := MessageTable.mem_outboxMarkDelivered.mp hr
  have hsender : o.sender = S.sender := by
    split at hs <;> exact hs
  have hk : o.key ≠ (S.receiver, cid, seq) := fun hk =>
    S.distinct (hsender.symm.trans (congrArg Prod.fst hk))
  simpa [hk] using ho

lemma invariant_step (h : Invariant S st) (hstep : Step S st l st') : Invariant S st' := by
  cases hstep with
  | send _ henq => exact h.send henq
  | senderInbound => exact h.senderInbound _ _ _ _
  | startTask =>
    refine { h with tasks := fun t ht => ?_ }
    rcases List.mem_append.mp ht with ht | ht
    · exact h.tasks t ht
    · obtain rfl := List.mem_singleton.mp ht
      exact taskOk_idle _ _ _
  | query htask hphase hrows =>
    have hok := h.tasks _ (List.mem_of_getElem? htask)
    refine h.setTask ⟨fun r hr => ?_, fun r rest he => ?_, hok.streams⟩
    · obtain ⟨ho, _, hpeer⟩ := hrows.mem hr
      exact ⟨h.mem_log ho, hpeer⟩
    · cases he
  | openStream htask _ _ hopen => exact h.openStream htask hopen
  | openDenied => exact h.setTask (taskOk_idle _ _ _)
  | write htask hphase hstream hs hwrite => exact h.write htask hphase hstream hs hwrite
  | tooLarge => exact h.setTask (taskOk_idle _ _ _)
  | mark htask hphase => exact h.mark htask hphase
  | fail => exact h.setTask (taskOk_idle _ _ _)
  | restart => exact { h with tasks := fun t ht => by cases ht }
  | senderTrust => exact { h with }
  | receiverTrust => exact { h with }
  | connect hs =>
    have hw := h.wired _ (List.mem_of_getElem? hs)
    exact h.setStream _ hs rfl rfl (List.Subset.refl _) hw
  | look hs =>
    have hw := h.wired _ (List.mem_of_getElem? hs)
    exact h.setStream _ hs rfl rfl (List.Subset.refl _) hw
  | @record i j _ s _ _ _ hs _ hv hbody hframe =>
    have hmem := List.mem_of_getElem? hs
    have hw := h.wired s hmem
    have hi := h.setStream { s with taken := j :: s.taken } hs rfl rfl (List.Subset.refl _) hw
    refine hi.recordInbound fun _ => ⟨rfl, ?_⟩
    obtain ⟨o, ho, _, hsame⟩ := h.frame_from_log hmem (List.mem_of_getElem? hbody) hframe _
    exact ⟨o, ho, hsame⟩
  | @recordFails i j s _ _ _ hs =>
    have hw := h.wired s (List.mem_of_getElem? hs)
    have hi := h.setStream { s with taken := j :: s.taken } hs rfl rfl (List.Subset.refl _) hw
    exact { hi with }
  | broadcast => exact { h with }
  | receiverSend henq =>
    exact { h with inbox := fun r hr hs => h.inbox r (mem_of_receiverSend henq hr hs) hs }
  | receiverMark =>
    exact { h with inbox := fun r hr hs => h.inbox r (mem_of_receiverMark hr hs) hs }
  | receiverInbound hremote => exact h.recordInbound fun he => (hremote he).elim
  | receiverInboundFails => exact { h with }

lemma invariant_run {senderTrust receiverTrust : Daemon.Trust.State} {labels : List Label}
    (hrun : Run (Step S) (initial senderTrust receiverTrust) labels st) : Invariant S st :=
  hrun.invariant (fun _ _ _ h hs => invariant_step h hs) (invariant_initial _ _)

/-- The receiver signed the token, so that it may accept it. -/
def Issued (S : Setting) (token : SignedToken) : Prop :=
  ∃ claims, Auth.verifySignedClaims S.lib token = .ok claims ∧ claims.iss = S.receiver

/-- The stream is for the receiver if it reaches the receiver with a token of the receiver's. -/
def Addressed (S : Setting) (s : Stream) : Prop :=
  s.remote = S.receiver → Issued S s.token → s.peer = S.receiver

def OpensAddressed (S : Setting) (c : String) (st : State) : Label → Prop
  | .openStream k now => ∀ task row rest s, st.tasks[k]? = some task →
    task.phase = .sending (row :: rest) → row.channel = c →
      Opens S st.senderTrust task.peer c now s → Addressed S s
  | _ => True

structure Apart (S : Setting) (c : String) (st : State) : Prop where
  streams : ∀ s ∈ st.streams, s.channel = c → Addressed S s
  accepted : ∀ s ∈ st.streams, ∀ name, s.verdict = .accepted name → Issued S s.token
  inbox : ∀ r ∈ st.receiverTable.rows, r.sender = S.sender → r.channel = c →
    ∃ o ∈ st.log, o.peerNodeid = S.receiver ∧ SameMessage o r

variable {c : String}

lemma issued_of_lookVerdict {trust : Daemon.Trust.State} {token : SignedToken} {now : UInt64}
    {name : Option String} (h : lookVerdict S trust token now = .accepted name) :
    Issued S token := by
  rw [lookVerdict] at h
  split at h
  · next claims hverify =>
    obtain ⟨hsigned, hiss, _, _⟩ := Auth.verifyToken_ok.mp hverify
    exact ⟨claims, hsigned, hiss⟩
  · cases h

lemma Apart.setStream (h : Apart S c st) (s' : Stream) {i : ℕ} {s : Stream}
    (hs : st.streams[i]? = some s) (hpeer : s'.peer = s.peer) (hremote : s'.remote = s.remote)
    (hchannel : s'.channel = s.channel) (htoken : s'.token = s.token)
    (hok : ∀ name, s'.verdict = .accepted name → Issued S s.token) :
    Apart S c { st with streams := st.streams.set i s' } := by
  have hmem := List.mem_of_getElem? hs
  refine { h with streams := forall_mem_set h.streams ?_, accepted := forall_mem_set h.accepted ?_ }
  · intro hc hr hissued
    rw [hchannel] at hc
    rw [hremote] at hr
    rw [htoken] at hissued
    exact hpeer.trans (h.streams s hmem hc hr hissued)
  · intro name hv
    exact htoken ▸ hok name hv

lemma Apart.recordInbound (h : Apart S c st) {remote : NodeId} {fromName : Option String}
    {channel : String} {frame : MessageFrame} {now : UInt64}
    (hfrom : remote = S.sender → channel = c → ∃ o ∈ st.log, o.peerNodeid = S.receiver ∧
      SameMessage o (MessageTable.inboundRow S.channelId remote channel frame now)) :
    Apart S c (recordInbound S st remote fromName channel frame now) := by
  refine { h with inbox := fun r hr hs hc => ?_ }
  rcases Table.mem_insertOrIgnore.mp hr with hr | ⟨rfl, _⟩
  · exact h.inbox r hr hs hc
  · exact hfrom hs hc

lemma Apart.openStream (h : Apart S c st) {k : ℕ} {now : UInt64} {task : Task} {row : MessageRow}
    {rest : List MessageRow} {new : Stream} (htask : st.tasks[k]? = some task)
    (hphase : task.phase = .sending (row :: rest))
    (hopen : Opens S st.senderTrust task.peer row.channel now new)
    (hcond : OpensAddressed S c st (.openStream k now)) (tasks : List Task) :
    Apart S c { st with tasks, streams := st.streams ++ [new] } := by
  have hchannel : new.channel = row.channel := by cases hopen; rfl
  have hunseen : new.verdict = .unseen := by cases hopen; rfl
  refine { h with streams := forall_mem_snoc h.streams ?_, accepted := forall_mem_snoc h.accepted ?_ }
  · rintro rfl
    exact hcond task row rest new htask hphase hchannel.symm (hchannel ▸ hopen)
  · intro name hv
    rw [hunseen] at hv
    cases hv

lemma apart_step (h : Apart S c st) (hi : Invariant S st) (hcond : OpensAddressed S c st l)
    (hstep : Step S st l st') : Apart S c st' := by
  cases hstep with
  | send =>
    refine { h with inbox := fun r hr hs hc => ?_ }
    obtain ⟨o, ho, hrest⟩ := h.inbox r hr hs hc
    exact ⟨o, List.mem_append_left _ ho, hrest⟩
  | openStream htask hphase _ hopen => exact h.openStream htask hphase hopen hcond _
  | @write k task row rest i s _ _ _ _ hs hwrite =>
    obtain ⟨_, rfl⟩ := writeCborFrame_some hwrite
    have hok := h.accepted s (List.mem_of_getElem? hs)
    have hset := h.setStream { s with bodies := s.bodies ++ [S.body row] } hs rfl rfl rfl rfl hok
    exact { hset with }
  | connect hs _ _ hverdict =>
    refine h.setStream _ hs rfl rfl rfl rfl fun name hv => ?_
    rw [← hverdict, connectVerdict] at hv
    split at hv <;> cases hv
  | look hs _ _ hverdict =>
    exact h.setStream _ hs rfl rfl rfl rfl fun name hv => issued_of_lookVerdict (hverdict.trans hv)
  | @record i j _ s _ _ _ hs hremote hv hbody hframe =>
    have hmem := List.mem_of_getElem? hs
    have hok := h.accepted s hmem
    have hset := h.setStream { s with taken := j :: s.taken } hs rfl rfl rfl rfl hok
    refine hset.recordInbound fun _ hc => ?_
    obtain ⟨o, ho, hpeer, hsame⟩ := hi.frame_from_log hmem (List.mem_of_getElem? hbody) hframe _
    exact ⟨o, ho, hpeer.trans (h.streams s hmem hc hremote (hok _ hv)), hsame⟩
  | @recordFails i j s _ _ _ hs =>
    have hok := h.accepted s (List.mem_of_getElem? hs)
    exact { h.setStream { s with taken := j :: s.taken } hs rfl rfl rfl rfl hok with }
  | receiverSend henq =>
    exact { h with inbox := fun r hr hs => h.inbox r (mem_of_receiverSend henq hr hs) hs }
  | receiverMark =>
    exact { h with inbox := fun r hr hs => h.inbox r (mem_of_receiverMark hr hs) hs }
  | receiverInbound hremote => exact h.recordInbound fun he => (hremote he).elim
  | _ => exact { h with }

lemma apart_run {senderTrust receiverTrust : Daemon.Trust.State} {labels : List Label}
    (hrun : Run (Guarded (OpensAddressed S c) (Step S)) (initial senderTrust receiverTrust) labels
      st) : Apart S c st := by
  refine (hrun.invariant (I := fun st => Invariant S st ∧ Apart S c st) ?_ ?_).2
  · rintro s l t ⟨hi, h⟩ ⟨hcond, hstep⟩
    exact ⟨invariant_step hi hstep, apart_step h hi hcond hstep⟩
  · refine ⟨invariant_initial _ _, fun s hs => ?_, fun s hs => ?_, fun r hr => ?_⟩
    · cases hs
    · cases hs
    · cases hr

structure Announced (S : Setting) (st : State) : Prop where
  nodup : ((st.broadcasts ++ st.owed).map S.announcementKey).Nodup
  recorded : ∀ a ∈ st.broadcasts ++ st.owed,
    ∃ r ∈ st.receiverTable.rows, r.key = S.announcementKey a

lemma Announced.recordInbound (h : Announced S st) {remote : NodeId} {fromName : Option String}
    {channel : String} {frame : MessageFrame} {now : UInt64} :
    Announced S (recordInbound S st remote fromName channel frame now) := by
  let row := MessageTable.inboundRow S.channelId remote channel frame now
  have hkept : ∀ a ∈ st.broadcasts ++ st.owed,
      ∃ r ∈ (st.receiverTable.insertOrIgnore row).1.rows, r.key = S.announcementKey a := by
    intro a ha
    obtain ⟨r, hr, hk⟩ := h.recorded a ha
    exact ⟨r, Table.mem_insertOrIgnore.mpr (Or.inl hr), hk⟩
  cases hhas : st.receiverTable.has row.key with
  | true =>
    have he : st.receiverTable.inboxRecord S.channelId remote channel frame now =
      (st.receiverTable, false) := Table.insertOrIgnore_of_has hhas
    simp only [Delivery.recordInbound, he, Bool.false_eq_true, if_false]
    exact ⟨h.nodup, h.recorded⟩
  | false =>
    have hnew := Table.has_eq_false.mp hhas
    have ht : (st.receiverTable.inboxRecord S.channelId remote channel frame now).2 = true :=
      (Table.insertOrIgnore_of_not_has hhas).2
    have howed : (Delivery.recordInbound S st remote fromName channel frame now).owed =
        st.owed ++ [announcement remote fromName channel frame] := by
      simp [Delivery.recordInbound, ht]
    refine ⟨?_, ?_⟩
    · rw [howed, ← List.append_assoc]
      apply nodup_map_snoc h.nodup
      intro a ha he
      obtain ⟨r, hr, hrk⟩ := h.recorded a ha
      exact hnew r hr (hrk.trans he)
    · rw [howed, ← List.append_assoc]
      intro a ha
      rcases List.mem_append.mp ha with ha | ha
      · exact hkept a ha
      · obtain rfl := List.mem_singleton.mp ha
        exact ⟨row, Table.mem_insertOrIgnore.mpr (Or.inr ⟨rfl, hnew⟩), rfl⟩

lemma Announced.of_keys (h : Announced S st) (hb : st'.broadcasts = st.broadcasts)
    (ho : st'.owed = st.owed)
    (hk : ∀ r ∈ st.receiverTable.rows, ∃ r' ∈ st'.receiverTable.rows, r'.key = r.key) :
    Announced S st' := by
  refine ⟨by rw [hb, ho]; exact h.nodup, ?_⟩
  rw [hb, ho]
  intro a ha
  obtain ⟨r, hr, hra⟩ := h.recorded a ha
  obtain ⟨r', hr', hrr⟩ := hk r hr
  exact ⟨r', hr', hrr.trans hra⟩

lemma announced_step (h : Announced S st) (hl : l.inboxFails = false) (hstep : Step S st l st') :
    Announced S st' := by
  have hsame : ∀ r ∈ st.receiverTable.rows, ∃ r' ∈ st.receiverTable.rows, r'.key = r.key :=
    fun r hr => ⟨r, hr, rfl⟩
  cases hstep with
  | recordFails => cases hl
  | receiverInboundFails => cases hl
  | @record i j _ s _ _ _ hs =>
    have hi : Announced S { st with streams := st.streams.set i { s with taken := j :: s.taken } } :=
      h.of_keys rfl rfl hsame
    exact hi.recordInbound
  | receiverInbound => exact h.recordInbound
  | @broadcast a before after howed =>
    have hp : (st.broadcasts ++ st.owed).Perm (st.broadcasts ++ [a] ++ (before ++ after)) := by
      rw [howed, List.append_assoc]
      exact List.perm_middle.append_left _
    exact ⟨(hp.map _).nodup_iff.mp h.nodup, fun a ha => h.recorded a (hp.mem_iff.mpr ha)⟩
  | receiverSend henq =>
    refine h.of_keys rfl rfl fun r hr => ⟨r, ?_, rfl⟩
    rw [(MessageTable.outboxEnqueue_ok henq).1]
    exact List.mem_append_left _ hr
  | receiverMark =>
    refine h.of_keys rfl rfl fun r hr => ?_
    exact ⟨_, MessageTable.mem_outboxMarkDelivered.mpr ⟨r, hr, rfl⟩, by split <;> rfl⟩
  | _ => exact h.of_keys rfl rfl hsame

lemma announced_run {senderTrust receiverTrust : Daemon.Trust.State} {labels : List Label}
    (hrun : Run (Step S) (initial senderTrust receiverTrust) labels st)
    (hl : ∀ l ∈ labels, l.inboxFails = false) : Announced S st := by
  refine (hrun.guard hl).invariant (I := Announced S) ?_ ⟨List.nodup_nil, fun a ha => by cases ha⟩
  rintro s l t hs ⟨hl, hstep⟩
  exact announced_step hs hl hstep

def Keeps (before after : MessageTable) : Prop :=
  ∀ r ∈ before.outbox, ∃ r' ∈ after.outbox, r'.undelivered = r.undelivered ∧
    (r.deliveredAtMs.isSome → r'.deliveredAtMs.isSome)

lemma Keeps.refl (t : MessageTable) : Keeps t t :=
  fun r hr => ⟨r, hr, rfl, id⟩

lemma Keeps.trans {t u v : MessageTable} (h : Keeps t u) (h' : Keeps u v) : Keeps t v := by
  intro r hr
  obtain ⟨r', hr', he, hd⟩ := h r hr
  obtain ⟨r'', hr'', he', hd'⟩ := h' r' hr'
  exact ⟨r'', hr'', he'.trans he, hd' ∘ hd⟩

lemma keeps_step (hstep : Step S st l st') : Keeps st.senderTable st'.senderTable := by
  cases hstep with
  | send _ henq =>
    intro r hr
    refine ⟨r, ?_, rfl, id⟩
    obtain ⟨hmem, hd⟩ := MessageTable.mem_outbox.mp hr
    refine MessageTable.mem_outbox.mpr ⟨?_, hd⟩
    rw [(MessageTable.outboxEnqueue_ok henq).1]
    exact List.mem_append_left _ hmem
  | senderInbound =>
    intro r hr
    exact ⟨r, (MessageTable.outbox_inboxRecord ..).symm ▸ hr, rfl, id⟩
  | mark =>
    intro r hr
    dsimp only
    rw [MessageTable.outbox_outboxMarkDelivered]
    refine ⟨_, List.mem_map_of_mem hr, undelivered_mark r _ _, fun hd => ?_⟩
    split
    · rfl
    · exact hd
  | _ => exact Keeps.refl _

lemma keeps_run {labels : List Label} (hrun : Run (Step S) st labels st') :
    Keeps st.senderTable st'.senderTable :=
  hrun.related (R := fun s t => Keeps s.senderTable t.senderTable) (fun _ => Keeps.refl _)
    (fun _ _ _ => Keeps.trans) (fun _ _ _ => keeps_step)

theorem exactly_once_inbox {senderTrust receiverTrust : Daemon.Trust.State} {labels : List Label}
    (hrun : Run (Guarded (fun st l => ∀ c, OpensAddressed S c st l) (Step S))
      (initial senderTrust receiverTrust) labels st) :
    (∀ r ∈ st.receiverTable.rows, r.direction = .inbound → r.sender = S.sender →
      (∀ r' ∈ st.receiverTable.rows, r'.key = r.key → r' = r) ∧
      ∃ o ∈ st.senderTable.outbox, o.peerNodeid = S.receiver ∧ SameMessage o r) ∧
    ((st.log.map MessageRow.key).Nodup ∧
      ∀ s ∈ st.streams, s.remote = S.receiver → ∀ body ∈ s.bodies, ∀ frame,
        S.readFrame body = some frame → ∀ r ∈ st.receiverTable.rows,
          r.key = (S.sender, S.channelId s.channel, frame.seq) → r.direction = .inbound ∧
            r.channel = s.channel ∧ r.payload = frame.payload ∧ r.enqueuedAtMs = frame.tsMs) ∧
    ((∀ l ∈ labels, l.inboxFails = false) → (st.broadcasts.map S.announcementKey).Nodup) ∧
    (∀ r ∈ st.senderTable.outbox, r.deliveredAtMs.isSome → OnWire S st.streams r) ∧
    st.senderTable.outbox.map MessageRow.undelivered = st.log ∧
    ∀ labels' st', Run (Step S) st labels' st' → Keeps st.senderTable st'.senderTable := by
  have h := invariant_run hrun.forget
  refine ⟨?_, ⟨h.nodup_log, ?_⟩, ?_, h.delivered, h.ledger, fun _ _ => keeps_run⟩
  · intro r hr _ hs
    have hapart : Apart S r.channel st := apart_run (hrun.mono fun _ _ _ hg => ⟨hg.1 _, hg.2⟩)
    obtain ⟨o, ho, hpeer, hsame⟩ := hapart.inbox r hr hs rfl
    obtain ⟨o', ho', rfl⟩ := h.exists_outbox ho
    exact ⟨fun r' hr' hk => st.receiverTable.eq_of_key hr' hr hk, o', ho', hpeer,
      ⟨hsame.key, hsame.channel, hsame.payload, hsame.enqueuedAtMs⟩⟩
  · intro s hs _ body hbody frame hframe r hr hk
    obtain ⟨hd, o, ho, hsame⟩ := h.inbox r hr (congrArg Prod.fst hk)
    obtain ⟨o', ho', _, hsame'⟩ := h.frame_from_log hs hbody hframe 0
    obtain rfl : o = o' := h.eq_of_key ho ho' ((hsame.key.trans hk).trans hsame'.key.symm)
    exact ⟨hd, hsame.channel.symm.trans hsame'.channel, hsame.payload.symm.trans hsame'.payload,
      hsame.enqueuedAtMs.symm.trans hsame'.enqueuedAtMs⟩
  · intro hl
    have hn := (announced_run hrun.forget hl).nodup
    rw [List.map_append] at hn
    exact hn.of_append_left

/-- Streams for the receiver alone are addressed rightly, whomever the sender dials. -/
lemma opensAddressed_of_peers (h : ∀ t ∈ st.tasks, t.peer = S.receiver) (c : String) (l : Label) :
    OpensAddressed S c st l := by
  cases l with
  | openStream k now =>
    intro task row rest s htask _ _ hopen _ _
    cases hopen
    exact h task (List.mem_of_getElem? htask)
  | _ => trivial

def pair : Setting :=
  ⟨Sample.libraries, Sample.channelId, Sample.frameCodec, Sample.tickets, Sample.node 1,
    Sample.node 2, by decide⟩

def tokenFrom (issuer : NodeId) : SignedToken :=
  (Auth.signToken Sample.libraries issuer (Sample.node 1) [.msg] none 1000 (Sample.tokenId 7)).2

def granted : SignedToken := tokenFrom (Sample.node 2)

def aliceTrust : Daemon.Trust.State :=
  Daemon.Trust.serveAll Sample.libraries (Sample.node 1) Daemon.Trust.initial
    [⟨.peerAdd (Sample.node 2) "bob" none, 1000, 1000, Sample.tokenId 0⟩,
      ⟨.tokenImport (Sample.libraries.signed.encode granted), 1000, 1000, Sample.tokenId 0⟩]

/-- Alice has also registered Carol, with Bob's ticket and with a token of the id of Bob's. -/
def mixedTrust : Daemon.Trust.State :=
  Daemon.Trust.serveAll Sample.libraries (Sample.node 1) Daemon.Trust.initial
    [⟨.peerAdd (Sample.node 2) "bob" none, 1000, 1000, Sample.tokenId 0⟩,
      ⟨.peerAdd (Sample.node 3) "carol" (some (Sample.ticketCbor (Sample.node 2))), 1000, 1000,
        Sample.tokenId 0⟩,
      ⟨.tokenImport (Sample.libraries.signed.encode (tokenFrom (Sample.node 3))), 1000, 1000,
        Sample.tokenId 0⟩,
      ⟨.tokenImport (Sample.libraries.signed.encode granted), 1000, 1000, Sample.tokenId 0⟩]

def bobTrust : Daemon.Trust.State :=
  Daemon.Trust.serveAll Sample.libraries (Sample.node 2) Daemon.Trust.initial
    [⟨.peerAdd (Sample.node 1) "alice" none, 1000, 1000, Sample.tokenId 0⟩,
      ⟨.tokenGrant (.name "alice") [.msg] none, 1000, 1000, Sample.tokenId 7⟩]

/-- The row of the token that is presented to a peer; its bytes are always those of Bob's. -/
def tokenRowOf (peer : NodeId) : TokenRow :=
  ⟨Sample.tokenId 7, peer, Sample.node 1, 4102444800, [.msg],
    Sample.libraries.signed.encode granted, false⟩

def aliceRow : PeerRow := ⟨Sample.node 1, "alice", 1000, none, none⟩

def bobRow : PeerRow := ⟨Sample.node 2, "bob", 1000, none, none⟩

def carolRow : PeerRow :=
  ⟨Sample.node 3, "carol", 1000, none, some (Sample.ticketCbor (Sample.node 2))⟩

lemma alice_tables : aliceTrust.peers.table.rows = [bobRow] ∧
    aliceTrust.tokens.rows = [tokenRowOf (Sample.node 2)] := by
  decide +kernel

lemma mixed_tables : mixedTrust.peers.table.rows = [bobRow, carolRow] ∧
    mixedTrust.tokens.rows = [tokenRowOf (Sample.node 3)] := by
  decide +kernel

lemma bob_tables : bobTrust.peers.table.rows = [aliceRow] ∧
    bobTrust.tokens.rows = [tokenRowOf (Sample.node 2)] := by
  decide +kernel

lemma alice_knows_bob : aliceTrust.peers.peerGet (.name "bob") = some bobRow := by
  rw [PeerTable.peerGet, alice_tables.1]
  rfl

lemma alice_dials_bob : aliceTrust.peers.peerGet (.nodeId (Sample.node 2)) = some bobRow := by
  rw [PeerTable.peerGet, alice_tables.1]
  rfl

lemma bob_knows_alice : bobTrust.peers.peerGet (.nodeId (Sample.node 1)) = some aliceRow := by
  rw [PeerTable.peerGet, bob_tables.1]
  rfl

lemma mixed_knows_carol : mixedTrust.peers.peerGet (.name "carol") = some carolRow := by
  rw [PeerTable.peerGet, mixed_tables.1]
  rfl

lemma mixed_dials_carol : mixedTrust.peers.peerGet (.nodeId (Sample.node 3)) = some carolRow := by
  rw [PeerTable.peerGet, mixed_tables.1]
  rfl

def streamFor (peer : NodeId) (bodies : List Bytes) : Stream :=
  ⟨peer, Sample.node 2, "default", granted, bodies, .unseen, []⟩

lemma finds_token {t : TokenTable} {peer : NodeId} (hrows : t.rows = [tokenRowOf peer]) :
    t.FindTokenWithCap peer (Sample.node 1) .msg 1000 (some (tokenRowOf peer)) := by
  have hcandidates : t.tokenCandidates peer (Sample.node 1) 1000 = [tokenRowOf peer] := by
    rw [TokenTable.tokenCandidates, hrows]
    exact List.filter_cons_of_pos (by simp [tokenRowOf])
  refine ⟨[tokenRowOf peer], ⟨?_, List.pairwise_singleton _ _⟩, rfl⟩
  rw [hcandidates]

lemma reads_token (peer : NodeId) : pair.lib.signed.decode (tokenRowOf peer).raw = .ok granted :=
  Sample.libraries.signed.decode_encode granted

lemma alice_opens :
    Opens pair aliceTrust (Sample.node 2) "default" 1000 (streamFor (Sample.node 2) []) :=
  @Opens.opened pair aliceTrust _ _ _ bobRow _ granted ⟨Sample.node 2, none, []⟩
    alice_dials_bob (finds_token alice_tables.2) (reads_token _) rfl

lemma mixed_opens :
    Opens pair mixedTrust (Sample.node 3) "default" 1000 (streamFor (Sample.node 3) []) := by
  have haddr : dialled pair.lib pair.tickets (Sample.node 3) carolRow =
      some ⟨Sample.node 2, none, []⟩ := by
    simp [dialled, carolRow, pair, Sample.tickets, connectTicket, Sample.libraries, Sample.ed]
  exact @Opens.opened pair mixedTrust _ _ _ carolRow _ granted ⟨Sample.node 2, none, []⟩
    mixed_dials_carol (finds_token mixed_tables.2) (reads_token _) haddr

def greeting (peer : NodeId) : MessageRow :=
  ⟨Sample.node 1, Sample.channelId "default", 1, .out, "default", peer, [104, 105], 5, none⟩

def greetingTable (peer : NodeId) : MessageTable := ⟨[greeting peer], List.nodup_singleton _⟩

def greetingLabels (name : String) (peer : NodeId) : List Label :=
  [.send (.name name) "default" [104, 105] 5, .startTask peer, .query 0, .openStream 0 1000,
    .write 0, .mark 0 6]

def greeted (senderTrust receiverTrust : Daemon.Trust.State) (peer : NodeId) : State :=
  { initial senderTrust receiverTrust with
    senderTable := (greetingTable peer).outboxMarkDelivered (greeting peer).sender
      (greeting peer).channelId (greeting peer).seq 6
    log := [greeting peer]
    tasks := [⟨peer, [("default", 0)], .sending []⟩]
    streams := [streamFor peer [pair.body (greeting peer)]] }

lemma body_fits {row : MessageRow} (h : row.payload.length ≤ 2) :
    (pair.body row).length ≤ maxFrameBytes := by
  have hlength : (pair.body row).length = 16 + row.payload.length :=
    Sample.length_encodeFrame row.frame
  rw [hlength, maxFrameBytes]
  omega

/-- The sender has these tables and no tasks but for the peer. -/
def Within (trust : Daemon.Trust.State) (peer : NodeId) (st : State) : Prop :=
  st.senderTrust = trust ∧ ∀ t ∈ st.tasks, t.peer = peer

lemma within_none {trust : Daemon.Trust.State} {peer : NodeId} (htrust : st.senderTrust = trust)
    (htasks : st.tasks = []) : Within trust peer st :=
  ⟨htrust, htasks ▸ fun _ ht => by cases ht⟩

lemma within_one {trust : Daemon.Trust.State} {peer : NodeId} {streams : List (String × ℕ)}
    {phase : Phase} (htrust : st.senderTrust = trust) (htasks : st.tasks = [⟨peer, streams, phase⟩]) :
    Within trust peer st :=
  ⟨htrust, htasks ▸ List.forall_mem_singleton.mpr rfl⟩

lemma greeting_run {trust : Daemon.Trust.State} {peer : NodeId} {name : String} {row : PeerRow}
    (hknows : trust.peers.peerGet (.name name) = some row) (hrow : row.nodeid = peer)
    (hopen : Opens pair trust peer "default" 1000 (streamFor peer []))
    (receiverTrust : Daemon.Trust.State) :
    Run (Guarded (fun st _ => Within trust peer st) (Step pair)) (initial trust receiverTrust)
      (greetingLabels name peer) (greeted trust receiverTrust peer) := by
  subst hrow
  have henq : MessageTable.outboxEnqueue Table.empty Sample.channelId (Sample.node 1)
      row.nodeid "default" [104, 105] 5 = .ok (greetingTable row.nodeid, greeting row.nodeid) := by
    rfl
  have hrows : (greetingTable row.nodeid).OutboxPendingForPeer row.nodeid deliveryBatch
      [greeting row.nodeid] := by
    refine ⟨[greeting row.nodeid], ⟨?_, List.pairwise_singleton _ _⟩, rfl⟩
    simp [MessageTable.pendingFor, greetingTable, greeting]
  have hwrite : writeCborFrame (streamFor row.nodeid []) (pair.body (greeting row.nodeid)) =
      some (streamFor row.nodeid [pair.body (greeting row.nodeid)]) :=
    if_pos (body_fits (Nat.le_refl _))
  refine .cons ⟨within_none rfl rfl, .send hknows henq⟩ ?_
  refine .cons ⟨within_none rfl rfl, .startTask⟩ ?_
  refine .cons ⟨within_one rfl rfl, .query rfl rfl hrows⟩ ?_
  refine .cons ⟨within_one rfl rfl, .openStream rfl rfl rfl hopen⟩ ?_
  refine .cons ⟨within_one rfl rfl, .write rfl rfl rfl rfl hwrite⟩ ?_
  exact .cons ⟨within_one rfl rfl, .mark rfl rfl⟩ .nil

lemma readFrame_greeting (peer : NodeId) :
    pair.readFrame (pair.body (greeting peer)) = some (greeting peer).frame :=
  readFrame_of_fits (body_fits (Nat.le_refl _))

lemma bob_connects : connectVerdict pair bobTrust = .connected := by
  rw [connectVerdict, show bobTrust.peers.peerGet (.nodeId pair.sender) = _ from bob_knows_alice]
  rfl

def grantedClaims : CapabilityToken :=
  ⟨Sample.node 2, Sample.node 1, 4102444800, [.msg], Sample.tokenId 7⟩

lemma bob_verifies : Auth.verifyToken Sample.libraries granted (Sample.node 2) (Sample.node 1) .msg
    1000 (fun id => .ok (bobTrust.tokens.tokenFind id)) = .ok grantedClaims := by
  have hfind : bobTrust.tokens.tokenFind (Sample.tokenId 7) = some (tokenRowOf (Sample.node 2)) := by
    rw [TokenTable.tokenFind, Table.find, bob_tables.2]
    rfl
  refine Auth.verifyToken_ok.mpr ⟨Auth.verifySignedClaims_signToken .., rfl, rfl, ?_⟩
  rw [grantedClaims, hfind]
  rfl

lemma bob_accepts : lookVerdict pair bobTrust granted 1000 = .accepted (some "alice") := by
  have hverify : Auth.verifyToken pair.lib granted pair.receiver pair.sender .msg 1000
      (fun id => .ok (bobTrust.tokens.tokenFind id)) = _ := bob_verifies
  rw [lookVerdict, hverify,
    show bobTrust.peers.peerGet (.nodeId pair.sender) = _ from bob_knows_alice]
  rfl

def arrivalLabels : List Label := [.connect 0, .look 0 1000, .record 0 0 7]

def takenStream (peer : NodeId) (taken : List ℕ) : Stream :=
  { streamFor peer [pair.body (greeting peer)] with verdict := .accepted (some "alice"), taken }

def arrived (trust : Daemon.Trust.State) (peer : NodeId) : State :=
  recordInbound pair { greeted trust bobTrust peer with streams := [takenStream peer [0]] }
    (Sample.node 1) (some "alice") "default" (greeting peer).frame 7

lemma arrival_run (trust : Daemon.Trust.State) (peer : NodeId) :
    Run (Guarded (fun st _ => Within trust peer st) (Step pair)) (greeted trust bobTrust peer)
      arrivalLabels (arrived trust peer) := by
  refine .cons ⟨within_one rfl rfl, .connect rfl rfl rfl bob_connects⟩ ?_
  refine .cons ⟨within_one rfl rfl, .look rfl rfl rfl bob_accepts⟩ ?_
  exact .cons ⟨within_one rfl rfl, .record rfl rfl rfl rfl (readFrame_greeting peer)⟩ .nil

def delivered : State :=
  { arrived aliceTrust (Sample.node 2) with
    streams := [takenStream (Sample.node 2) [0, 0]]
    owed := []
    broadcasts := [announcement (Sample.node 1) (some "alice") "default"
      (greeting (Sample.node 2)).frame] }

lemma repeat_run :
    Run (Guarded (fun st _ => Within aliceTrust (Sample.node 2) st) (Step pair))
      (arrived aliceTrust (Sample.node 2)) [.record 0 0 8, .broadcast] delivered := by
  refine .cons ⟨within_one rfl rfl, .record rfl rfl rfl rfl (readFrame_greeting _)⟩ ?_
  exact .cons ⟨within_one rfl rfl, @Step.broadcast _ _ _ [] _ rfl⟩ .nil

theorem exactly_once_inbox_repeated_frame :
    (delivered.broadcasts.map pair.announcementKey).Nodup ∧
    ∃ r ∈ delivered.receiverTable.rows, r.payload = [104, 105] ∧
      ∃ o ∈ delivered.senderTable.outbox, o.peerNodeid = pair.receiver ∧ SameMessage o r := by
  have hrun := ((greeting_run alice_knows_bob rfl alice_opens bobTrust).append
    (arrival_run _ _)).append repeat_run
  have h := exactly_once_inbox (hrun.mono fun st l t hg =>
    ⟨fun c => opensAddressed_of_peers hg.1.2 c l, hg.2⟩)
  refine ⟨h.2.2.1 (by simp [greetingLabels, arrivalLabels, Label.inboxFails]), _,
    List.mem_singleton_self _, rfl, ?_⟩
  exact (h.1 _ (List.mem_singleton_self _) rfl rfl).2

/-- A message to Carol ends up in Bob's inbox. -/
theorem misaddressed_row_in_inbox : ∃ labels st,
    Run (Step pair) (initial mixedTrust bobTrust) labels st ∧
    ∃ r ∈ st.receiverTable.rows, r.direction = .inbound ∧ r.sender = pair.sender ∧
      ¬ ∃ o ∈ st.senderTable.outbox, o.peerNodeid = pair.receiver ∧ SameMessage o r := by
  have hrun := (greeting_run mixed_knows_carol rfl mixed_opens bobTrust).append (arrival_run _ _)
  refine ⟨_, _, hrun.forget, _, List.mem_singleton_self _, rfl, rfl, ?_⟩
  rintro ⟨o, ho, hpeer, _⟩
  obtain rfl := List.mem_singleton.mp ho
  exact absurd hpeer (by decide)

end WalkieTalkie.Delivery.ExactlyOnce
