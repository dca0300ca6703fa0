import Mathlib.Data.List.Dedup
import WalkieTalkie.Delivery.Wakeups

/-! A daemon over all its lives. It may die at any moment, of a crash or of a shutdown, and keeps what
the store holds. Each life starts with a scan of the outbox, while the requests to send are served; of
every request it is kept how far it got. What was ever written to a peer stays in `wire`. -/

namespace WalkieTalkie.Delivery.Tasks.Recovery

open Proto Store Lib Lib.Runs

inductive Resume
  | scanning
  | waking (peers : List NodeId)
  | ended
  | gaveUp
deriving DecidableEq

/-- The startup scan may still wake the peer, or it has failed. -/
def Resume.owes (p : NodeId) : Resume → Prop
  | .scanning => True
  | .waking peers => p ∈ peers
  | .ended => False
  | .gaveUp => True

inductive Handler
  | found (peer : NodeId) (channel : String) (payload : Bytes)
  | stored (peer : NodeId)
deriving DecidableEq

structure State where
  daemon : Tasks.State
  resume : Resume
  handlers : List Handler
  accepted : List MessageRow

def initial (trust : Daemon.Trust.State) : State :=
  ⟨Tasks.initial trust Table.empty, .scanning, [], []⟩

inductive Label
  | daemon (label : Tasks.Label)
  | send (peer : PeerSelector) (channel : String) (payload : Bytes)
  | store (handler : ℕ) (nowMs : UInt64)
  | storeFails (handler : ℕ)
  | wake (handler : ℕ)
  | scan (peers : List NodeId)
  | scanFails
  | resume
  | die

/-- A message is stored, and its peer woken, by a handler or by the startup scan. -/
def ofDaemon : Tasks.Label → Bool
  | .send .. | .notify _ => false
  | _ => true

def pendingPeers (t : MessageTable) : List NodeId :=
  (t.outbox.filter fun r => r.deliveredAtMs = none).map MessageRow.peerNodeid

/-- The next life, with what the files and the peers have kept. -/
def reborn (d : Tasks.State) : Tasks.State :=
  { Tasks.initial d.trust d.table with wire := d.wire }

variable (S : Setting)

def store (st : State) (i : ℕ) (now : UInt64) (peer : NodeId) (channel : String)
    (payload : Bytes) : Option State :=
  match st.daemon.table.outboxEnqueue S.channelId S.self peer channel payload now with
  | .error _ => none
  | .ok (table, row) => some { st with
      daemon := { st.daemon with table }
      handlers := st.handlers.set i (.stored peer)
      accepted := st.accepted ++ [row] }

def step (st : State) : Label → Option State
  | .daemon l =>
    if ofDaemon l then (Tasks.step S st.daemon l).map fun daemon => { st with daemon } else none
  | .send sel channel payload =>
    (st.daemon.trust.peers.peerGet (Daemon.Trust.selToBytes sel)).map fun peer =>
      { st with handlers := st.handlers ++ [.found peer.nodeid channel payload] }
  | .store i now =>
    match st.handlers[i]? with
    | some (.found peer channel payload) => store S st i now peer channel payload
    | _ => none
  | .storeFails i =>
    match st.handlers[i]? with
    | some (.found _ _ _) => some { st with handlers := st.handlers.eraseIdx i }
    | _ => none
  | .wake i =>
    match st.handlers[i]? with
    | some (.stored peer) =>
      some { st with daemon := notifyPeer st.daemon peer, handlers := st.handlers.eraseIdx i }
    | _ => none
  | .scan peers =>
    if st.resume = .scanning ∧ peers.Perm (pendingPeers st.daemon.table).dedup then
      some { st with resume := .waking peers }
    else none
  | .scanFails => if st.resume = .scanning then some { st with resume := .gaveUp } else none
  | .resume =>
    match st.resume with
    | .waking (peer :: rest) =>
      some { st with daemon := notifyPeer st.daemon peer, resume := .waking rest }
    | .waking [] => some { st with resume := .ended }
    | _ => none
  | .die => some { st with daemon := reborn st.daemon, resume := .scanning, handlers := [] }

inductive Moves (st : State) : Label → State → Prop
  | daemon {l d} (hof : ofDaemon l = true) (h : Tasks.step S st.daemon l = some d) :
      Moves st (.daemon l) { st with daemon := d }
  | send {sel channel payload p} : Moves st (.send sel channel payload)
      { st with handlers := st.handlers ++ [.found p channel payload] }
  | store {i now p channel payload table row} (hi : st.handlers[i]? = some (.found p channel payload))
      (henq : st.daemon.table.outboxEnqueue S.channelId S.self p channel payload now =
        .ok (table, row)) :
      Moves st (.store i now) { st with
        daemon := { st.daemon with table }
        handlers := st.handlers.set i (.stored p)
        accepted := st.accepted ++ [row] }
  | storeFails {i p channel payload} (hi : st.handlers[i]? = some (.found p channel payload)) :
      Moves st (.storeFails i) { st with handlers := st.handlers.eraseIdx i }
  | wake {i p} (hi : st.handlers[i]? = some (.stored p)) : Moves st (.wake i)
      { st with daemon := notifyPeer st.daemon p, handlers := st.handlers.eraseIdx i }
  | scan {peers} (h : st.resume = .scanning)
      (hpeers : peers.Perm (pendingPeers st.daemon.table).dedup) :
      Moves st (.scan peers) { st with resume := .waking peers }
  | scanFails (h : st.resume = .scanning) : Moves st .scanFails { st with resume := .gaveUp }
  | resume {p rest} (h : st.resume = .waking (p :: rest)) : Moves st .resume
      { st with daemon := notifyPeer st.daemon p, resume := .waking rest }
  | resumed (h : st.resume = .waking []) : Moves st .resume { st with resume := .ended }
  | die : Moves st .die
      { st with daemon := reborn st.daemon, resume := .scanning, handlers := [] }

variable {S}

lemma step_moves {st st' : State} {l : Label} (h : step S st l = some st') : Moves S st l st' := by
  cases l with
  | daemon l =>
    obtain ⟨hof, h⟩ := Option.ite_none_right_eq_some.mp h
    obtain ⟨d, hd, rfl⟩ := Option.map_eq_some_iff.mp h
    exact .daemon hof hd
  | send sel channel payload =>
    obtain ⟨peer, _, rfl⟩ := Option.map_eq_some_iff.mp h
    exact .send
  | store i now =>
    simp only [step] at h
    split at h
    · next hi =>
      rw [store] at h
      split at h
      · cases h
      · next henq =>
        obtain rfl := Option.some.inj h
        exact .store hi henq
    · cases h
  | storeFails i =>
    simp only [step] at h
    split at h
    · next hi =>
      obtain rfl := Option.some.inj h
      exact .storeFails hi
    · cases h
  | wake i =>
    simp only [step] at h
    split at h
    · next hi =>
      obtain rfl := Option.some.inj h
      exact .wake hi
    · cases h
  | scan peers =>
    obtain ⟨⟨hscan, hpeers⟩, h⟩ := Option.ite_none_right_eq_some.mp h
    obtain rfl := Option.some.inj h
    exact .scan hscan hpeers
  | scanFails =>
    obtain ⟨hscan, h⟩ := Option.ite_none_right_eq_some.mp h
    obtain rfl := Option.some.inj h
    exact .scanFails hscan
  | resume =>
    simp only [step] at h
    split at h
    · next hres =>
      obtain rfl := Option.some.inj h
      exact .resume hres
    · next hres =>
      obtain rfl := Option.some.inj h
      exact .resumed hres
    · cases h
  | die =>
    obtain rfl := Option.some.inj h
    exact .die

def Stored (t : MessageTable) (r : MessageRow) : Prop :=
  ∃ o ∈ t.outbox, o.undelivered = r.undelivered

def rowsOf : Phase → List MessageRow
  | .sending row rest | .marking row rest => row :: rest
  | _ => []

def Written (d : Tasks.State) (r : MessageRow) : Prop :=
  ∃ remote, (remote, .messageFrame r.channel r.frame) ∈ d.wire r.peerNodeid

/-- What is delivered has been written in full before. -/
structure Sound (d : Tasks.State) : Prop where
  drained : ∀ p, ∀ t ∈ d.tasks p, ∀ r ∈ rowsOf t.phase, Stored d.table r ∧ r.peerNodeid = p
  marking : ∀ p, ∀ t ∈ d.tasks p, ∀ row rest, t.phase = .marking row rest → Written d row
  delivered : ∀ r ∈ d.table.outbox, r.deliveredAtMs ≠ none → Written d r

lemma Stored.keeps {t t' : MessageTable} {r : MessageRow}
    (hkeeps : ∀ o ∈ t.outbox, Stored t' o) (h : Stored t r) : Stored t' r := by
  obtain ⟨o, ho, hor⟩ := h
  obtain ⟨o', ho', hoo⟩ := hkeeps o ho
  exact ⟨o', ho', hoo.trans hor⟩

lemma stored_self {t : MessageTable} {r : MessageRow} (h : r ∈ t.outbox) : Stored t r :=
  ⟨r, h, rfl⟩

lemma written_congr {d : Tasks.State} {r r' : MessageRow} (h : r.undelivered = r'.undelivered)
    (hw : Written d r') : Written d r := by
  have hsame : Written d r.undelivered ↔ Written d r'.undelivered := by rw [h]
  exact hsame.mpr hw

section

variable {d d' : Tasks.State} {p : NodeId} {i : ℕ} {t : Task}

lemma sound_table {table : MessageTable} (h : Sound d)
    (hkeeps : ∀ o ∈ d.table.outbox, Stored table o)
    (hdelivered : ∀ r ∈ table.outbox, r.deliveredAtMs ≠ none → Written d r) :
    Sound { d with table } where
  drained q t ht r hr := by
    obtain ⟨hstored, hpeer⟩ := h.drained q t ht r hr
    exact ⟨hstored.keeps hkeeps, hpeer⟩
  marking := h.marking
  delivered := hdelivered

lemma sound_tasks {tasks : NodeId → List Task} {wakers : NodeId → Option ℕ}
    {conns : NodeId → Option (List String)} {notified : NodeId → List Key} (h : Sound d)
    (hall : ∀ q, ∀ t ∈ tasks q, t ∈ d.tasks q ∨
      (∀ r ∈ rowsOf t.phase, Stored d.table r ∧ r.peerNodeid = q) ∧
      ∀ row rest, t.phase = .marking row rest → Written d row) :
    Sound { d with tasks, wakers, conns, notified } where
  drained q t ht r hr := by
    rcases hall q t ht with hold | ⟨hrows, _⟩
    · exact h.drained q t hold r hr
    · exact hrows r hr
  marking q t ht row rest hphase := by
    rcases hall q t ht with hold | ⟨_, hmarking⟩
    · exact h.marking q t hold row rest hphase
    · exact hmarking row rest hphase
  delivered := h.delivered

lemma mem_update_set {tasks : NodeId → List Task} {q : NodeId} {u : Task}
    (hu : u ∈ Function.update tasks p ((tasks p).set i t) q) : u ∈ tasks q ∨ q = p ∧ u = t := by
  by_cases hq : q = p
  · subst hq
    rw [Function.update_self] at hu
    exact (List.mem_or_eq_of_mem_set hu).imp_right fun hut => ⟨rfl, hut⟩
  · rw [Function.update_of_ne hq] at hu
    exact Or.inl hu

lemma sound_setTask (h : Sound d)
    (hrows : ∀ r ∈ rowsOf t.phase, Stored d.table r ∧ r.peerNodeid = p)
    (hmarking : ∀ row rest, t.phase = .marking row rest → Written d row) :
    Sound (d.setTask p i t) := by
  refine sound_tasks h fun q u hu => ?_
  rcases mem_update_set hu with hold | ⟨rfl, rfl⟩
  · exact Or.inl hold
  · exact Or.inr ⟨hrows, hmarking⟩

lemma sound_idle (h : Sound d) (hphase : rowsOf t.phase = []) : Sound (d.setTask p i t) := by
  refine sound_setTask h ?_ fun row rest hm => ?_
  · rw [hphase]
    exact fun r hr => by cases hr
  · rw [hm] at hphase
    cases hphase

lemma put_wire (d : Tasks.State) (p remote : NodeId) (s : Sent) (q : NodeId) :
    (d.put p remote s).wire q = if q = p then d.wire p ++ [(remote, s)] else d.wire q :=
  Function.update_apply ..

lemma sound_put (h : Sound d) (remote : NodeId) (s : Sent) : Sound (d.put p remote s) := by
  have hgrows : ∀ r, Written d r → Written (d.put p remote s) r := by
    rintro r ⟨n, hr⟩
    refine ⟨n, ?_⟩
    rw [put_wire]
    split
    · next hp =>
      subst hp
      exact List.mem_append_left _ hr
    · exact hr
  exact ⟨h.drained, fun q t ht row rest hm => hgrows _ (h.marking q t ht row rest hm),
    fun r hr hd => hgrows _ (h.delivered r hr hd)⟩

lemma stored_outboxMarkDelivered (table : MessageTable) (sender : NodeId) (cid : ChannelId)
    (seq now : UInt64) : ∀ o ∈ table.outbox, Stored (table.outboxMarkDelivered sender cid seq now) o := by
  intro o ho
  rw [Stored, MessageTable.outbox_outboxMarkDelivered]
  refine ⟨_, List.mem_map_of_mem ho, ?_⟩
  split
  · rfl
  · rfl

lemma undelivered_eq {table : MessageTable} {o r : MessageRow} (ho : o ∈ table.outbox)
    (hr : Stored table r) (hkey : o.key = r.key) : o.undelivered = r.undelivered := by
  obtain ⟨o', ho', hor⟩ := hr
  have hkey' : o'.undelivered.key = r.undelivered.key := by rw [hor]
  rw [List.inj_on_of_nodup_map (MessageTable.nodup_outbox table) ho ho' (hkey.trans hkey'.symm)]
  exact hor

lemma sound_mark {row : MessageRow} {rest : List MessageRow} {now : UInt64} (h : Sound d)
    (ht : t ∈ d.tasks p) (hphase : t.phase = .marking row rest) :
    Sound (runMark d p i t row rest now) := by
  have hrows : ∀ r ∈ row :: rest, Stored d.table r ∧ r.peerNodeid = p := by
    have hdrained := h.drained p t ht
    rw [hphase] at hdrained
    exact hdrained
  have hkeeps := stored_outboxMarkDelivered d.table row.sender row.channelId row.seq now
  have hsound : Sound { d with
      table := d.table.outboxMarkDelivered row.sender row.channelId row.seq now } := by
    refine sound_table h hkeeps fun r hr hd => ?_
    rw [MessageTable.outbox_outboxMarkDelivered] at hr
    obtain ⟨o, ho, rfl⟩ := List.mem_map.mp hr
    split at hd
    · next hkey =>
      have hsame := undelivered_eq ho (hrows row (List.mem_cons_self ..)).1 hkey
      rw [if_pos hkey]
      exact written_congr hsame (h.marking p t ht row rest hphase)
    · next hkey =>
      rw [if_neg hkey]
      exact h.delivered o ho hd
  refine sound_setTask hsound ?_ fun row' rest' hm => ?_
  · intro r hr
    have hmem : r ∈ row :: rest := by
      cases rest with
      | nil => cases hr
      | cons next rest => exact List.mem_cons_of_mem _ hr
    obtain ⟨hstored, hpeer⟩ := hrows r hmem
    exact ⟨hstored.keeps hkeeps, hpeer⟩
  · cases rest with
    | nil => cases hm
    | cons next rest => cases hm

variable {S : Setting}

lemma sound_query (h : Sound d) : Sound (runQuery S d p i t) := by
  rw [runQuery]
  split
  · exact sound_idle h rfl
  · next row rest hrows =>
    refine sound_setTask h (fun r hr => ?_) fun _ _ hm => by cases hm
    have hmem : r ∈ outboxPendingForPeer S d.table p := by
      rw [hrows]
      exact hr
    have hpending := ((S.ordered (d.table.pendingFor p)).mem_iff).mp (List.mem_of_mem_take hmem)
    obtain ⟨hout, _, hpeer⟩ := MessageTable.mem_pendingFor.mp hpending
    exact ⟨stored_self hout, hpeer⟩

lemma sound_open {row : MessageRow} {rest : List MessageRow} {now : UInt64} {works : Bool}
    (h : Sound d) (ht : t ∈ d.tasks p) (hphase : t.phase = .sending row rest) :
    Sound (runOpen S d p i t row now works) := by
  rw [runOpen]
  split
  · exact sound_idle h rfl
  · split
    · refine sound_setTask (sound_tasks (sound_put h _ _) fun q u hu => Or.inl hu) ?_ fun _ _ hm => ?_
      · exact h.drained p t ht
      · rw [hphase] at hm
        cases hm
    · exact sound_idle h rfl

lemma sound_write {row : MessageRow} {rest : List MessageRow} {remote : NodeId} {works : Bool}
    (h : Sound d) (ht : t ∈ d.tasks p) (hphase : t.phase = .sending row rest) :
    Sound (runWrite S d p i t row rest remote works) := by
  have hrows : ∀ r ∈ row :: rest, Stored d.table r ∧ r.peerNodeid = p := by
    have hdrained := h.drained p t ht
    rw [hphase] at hdrained
    exact hdrained
  rw [runWrite]
  split
  · refine sound_setTask (sound_put h _ _) hrows fun row' rest' hm => ⟨remote, ?_⟩
    cases hm
    rw [put_wire, if_pos (hrows row (List.mem_cons_self ..)).2]
    exact List.mem_append_right _ (List.mem_singleton_self _)
  · exact sound_idle (sound_tasks h fun q u hu => Or.inl hu) rfl

lemma sound_ran {l : TaskLabel} (h : Sound d) (ht : t ∈ d.tasks p) (hran : Ran S d p i t l d') :
    Sound d' := by
  cases hran with
  | start _ | failQuery _ | failRow _ _ | wake _ _ | timer _ | hangUp _ _ _ | stop _ _ =>
    exact sound_idle h rfl
  | query _ => exact sound_query h
  | openStream hphase _ => exact sound_open h ht hphase
  | write hphase _ => exact sound_write h ht hphase
  | mark hphase => exact sound_mark h ht hphase
  | leave _ => exact sound_idle (sound_tasks h fun q u hu => Or.inl hu) rfl

lemma sound_notify (h : Sound d) : Sound (notifyPeer d p) := by
  rw [notifyPeer]
  refine sound_tasks (d := d.wakePeer p) ?_ fun q u hu => Or.inl hu
  rcases wakePeer_cases d p with hw | ⟨k, u, _, hu, hw⟩
  · rw [hw, State.respawn]
    refine sound_tasks h fun q u hu => ?_
    rw [Function.update_apply] at hu
    split at hu
    · next hq =>
      subst hq
      rcases List.mem_append.mp hu with hold | hnew
      · exact Or.inl hold
      · rw [List.mem_singleton.mp hnew]
        exact Or.inr ⟨fun r hr => (by cases hr), fun _ _ hm => (by cases hm)⟩
    · exact Or.inl hu
  · rw [hw]
    have hmem := List.mem_of_getElem? hu
    exact sound_setTask h (h.drained p u hmem) (h.marking p u hmem)

lemma sound_enqueue {table : MessageTable} {row : MessageRow} {peer : NodeId} {channel : String}
    {payload : Bytes} {now : UInt64} (h : Sound d)
    (henq : d.table.outboxEnqueue S.channelId S.self peer channel payload now = .ok (table, row)) :
    Sound { d with table } ∧ row.undelivered = row ∧ Stored table row ∧
      ∀ o ∈ d.table.outbox, Stored table o := by
  obtain ⟨hrows, seq, rfl⟩ := MessageTable.outboxEnqueue_ok henq
  have houtbox : table.outbox = d.table.outbox ++
      [⟨S.self, S.channelId channel, seq, .out, channel, peer, payload, now, none⟩] := by
    rw [MessageTable.outbox, hrows, List.filter_append]
    rfl
  have hkeeps : ∀ o ∈ d.table.outbox, Stored table o := by
    intro o ho
    refine stored_self ?_
    rw [houtbox]
    exact List.mem_append_left _ ho
  refine ⟨sound_table h hkeeps fun r hr hd => ?_, rfl, stored_self ?_, hkeeps⟩
  · rw [houtbox] at hr
    rcases List.mem_append.mp hr with hold | hnew
    · exact h.delivered r hold hd
    · rw [List.mem_singleton.mp hnew] at hd
      exact (hd rfl).elim
  · rw [houtbox]
    exact List.mem_append_right _ (List.mem_singleton_self _)

lemma sound_daemon {l : Tasks.Label} (hof : ofDaemon l = true) (h : Sound d)
    (hstep : Tasks.step S d l = some d') : Sound d' := by
  cases Tasks.step_moves hstep with
  | request | shutdown => exact ⟨h.drained, h.marking, h.delivered⟩
  | send _ _ | notify => cases hof
  | inbound =>
    refine sound_table h (fun o ho => ?_) fun r hr hd => ?_
    · rw [Stored, MessageTable.outbox_inboxRecord]
      exact stored_self ho
    · rw [MessageTable.outbox_inboxRecord] at hr
      exact h.delivered r hr hd
  | task htask hrun => exact sound_ran h (List.mem_of_getElem? htask) (runTask_ran hrun)

lemma kept_daemon {l : Tasks.Label} (hof : ofDaemon l = true) (hstep : Tasks.step S d l = some d') :
    (∀ o ∈ d.table.outbox, Stored d'.table o) ∧
      (∀ q, pendingKeys d'.table q ⊆ pendingKeys d.table q) ∧ d'.notified = d.notified := by
  cases Tasks.step_moves hstep with
  | request | shutdown => exact ⟨fun o ho => stored_self ho, fun _ _ hk => hk, rfl⟩
  | send _ _ | notify => cases hof
  | @inbound remote channel frame now =>
    refine ⟨fun o ho => ?_, fun q k hk => ?_, rfl⟩
    · rw [Stored, MessageTable.outbox_inboxRecord]
      exact stored_self ho
    · obtain ⟨r, hr, rfl⟩ := List.mem_map.mp hk
      rw [MessageTable.mem_pendingFor, MessageTable.outbox_inboxRecord] at hr
      exact List.mem_map_of_mem (MessageTable.mem_pendingFor.mpr hr)
  | task htask hrun =>
    have htouch := touches_runTask htask hrun
    rcases htouch.table with hsame | ⟨_, _, row, rest, now, _, hmark⟩
    · rw [hsame]
      exact ⟨fun o ho => stored_self ho, fun _ _ hk => hk, htouch.notified⟩
    · rw [hmark]
      refine ⟨stored_outboxMarkDelivered _ _ _ _ _, fun q => ?_, htouch.notified⟩
      rw [pendingKeys, MessageTable.pendingFor_outboxMarkDelivered]
      exact (List.filter_sublist.map _).subset

end

def Waits (st : State) (p : NodeId) : Prop :=
  .stored p ∈ st.handlers ∨ st.resume.owes p

def Owed (d : Tasks.State) (waits : NodeId → Prop) : Prop :=
  ∀ p, ∀ k ∈ pendingKeys d.table p, k ∈ d.notified p ∨ waits p

structure Durable (st : State) : Prop where
  sound : Sound st.daemon
  accepted : ∀ row ∈ st.accepted, row.undelivered = row ∧ Stored st.daemon.table row
  owed : Owed st.daemon (Waits st)
  served : st.daemon.shutdown = false → ∀ p, PeerOk st.daemon p

section

variable {S : Setting} {d : Tasks.State} {st st' : State}

lemma owed_mono {waits waits' : NodeId → Prop} (h : Owed d waits)
    (hall : ∀ p, waits p → waits' p) : Owed d waits' :=
  fun p k hk => (h p k hk).imp_right (hall p)

lemma owed_notify {waits waits' : NodeId → Prop} {q : NodeId} (h : Owed d waits)
    (hall : ∀ p, p ≠ q → waits p → waits' p) : Owed (notifyPeer d q) waits' := by
  intro p k hk
  have htable : (notifyPeer d q).table = d.table := wakePeer_table d q
  have hnotified : (notifyPeer d q).notified p =
      if p = q then pendingKeys d.table q ++ d.notified q else d.notified p :=
    Function.update_apply ..
  rw [htable] at hk
  rw [hnotified]
  split
  · next hp =>
    subst hp
    exact Or.inl (List.mem_append_left _ hk)
  · next hp => exact (h p k hk).imp_right (hall p hp)

lemma peerOk_notifyPeer (S : Setting) {p : NodeId} (q : NodeId) (hup : d.shutdown = false) (h : PeerOk d p) :
    PeerOk (notifyPeer d q) p :=
  peerOk_step (S := S) (l := .notify q) hup h rfl

lemma shutdown_notifyPeer (q : NodeId) : (notifyPeer d q).shutdown = d.shutdown :=
  (touches_wakePeer d q).shutdown

lemma stored_notifyPeer {r : MessageRow} (q : NodeId) (h : Stored d.table r) :
    Stored (notifyPeer d q).table r := by
  have htable : (notifyPeer d q).table = d.table := wakePeer_table d q
  rwa [htable]

lemma mem_eraseIdx_of_ne {hs : List Handler} {i : ℕ} {a b : Handler} (ha : a ∈ hs)
    (hi : hs[i]? = some b) (hne : a ≠ b) : a ∈ hs.eraseIdx i := by
  obtain ⟨j, hj⟩ := List.mem_iff_getElem?.mp ha
  refine List.mem_eraseIdx_iff_getElem?.mpr ⟨j, ?_, hj⟩
  rintro rfl
  rw [hi] at hj
  exact hne (Option.some.inj hj).symm

lemma mem_set_of_ne {hs : List Handler} {i : ℕ} {a b c : Handler} (ha : a ∈ hs)
    (hi : hs[i]? = some b) (hne : a ≠ b) : a ∈ hs.set i c := by
  obtain ⟨j, hj⟩ := List.mem_iff_getElem?.mp ha
  refine List.mem_iff_getElem?.mpr ⟨j, ?_⟩
  rw [List.getElem?_set_ne, hj]
  rintro rfl
  rw [hi] at hj
  exact hne (Option.some.inj hj).symm

lemma mem_pendingPeers {t : MessageTable} {p : NodeId} {k : Key} (h : k ∈ pendingKeys t p) :
    p ∈ pendingPeers t := by
  obtain ⟨r, hr, _⟩ := List.mem_map.mp h
  obtain ⟨hout, hnew, rfl⟩ := MessageTable.mem_pendingFor.mp hr
  exact List.mem_map_of_mem (List.mem_filter.mpr ⟨hout, decide_eq_true hnew⟩)

lemma durable_initial (trust : Daemon.Trust.State) : Durable (initial trust) where
  sound := ⟨fun _ _ ht => (by cases ht), fun _ _ ht => (by cases ht), fun _ hr => (by cases hr)⟩
  accepted _ hr := by cases hr
  owed _ _ hk := by cases hk
  served _ _ := ⟨fun _ hk => (by cases hk), Or.inl ⟨rfl, rfl, rfl⟩⟩

lemma durable_step {l : Label} (h : Durable st) (hstep : step S st l = some st') : Durable st' := by
  cases step_moves hstep with
  | @daemon l d hof hd =>
    obtain ⟨hkeeps, hpending, hnotified⟩ := kept_daemon hof hd
    refine ⟨sound_daemon hof h.sound hd, fun row hrow => ?_, fun p k hk => ?_, fun hup p => ?_⟩
    · obtain ⟨hself, hstored⟩ := h.accepted row hrow
      exact ⟨hself, hstored.keeps hkeeps⟩
    · rw [hnotified]
      exact h.owed p k (hpending p hk)
    · have hup' := up_of_step hd hup
      exact peerOk_step hup' (h.served hup' p) hd
  | send =>
    refine ⟨h.sound, h.accepted, owed_mono h.owed fun p hw => ?_, h.served⟩
    exact hw.imp_left fun hs => List.mem_append_left _ hs
  | @store i now p channel payload table row hi henq =>
    obtain ⟨hsound, hself, hrow, hkeeps⟩ := sound_enqueue h.sound henq
    refine ⟨hsound, fun r hr => ?_, fun q k hk => ?_, fun hup q => ?_⟩
    · rcases List.mem_append.mp hr with hold | hnew
      · obtain ⟨hr, hstored⟩ := h.accepted r hold
        exact ⟨hr, hstored.keeps hkeeps⟩
      · rw [List.mem_singleton.mp hnew]
        exact ⟨hself, hrow⟩
    · have hpend := (MessageTable.outboxEnqueue_ok henq).1
      rw [pendingKeys, MessageTable.pendingFor, hpend, List.filter_append, List.map_append] at hk
      rcases List.mem_append.mp hk with hold | hnew
      · refine (h.owed q k hold).imp_right fun hw => hw.imp_left fun hs => ?_
        exact mem_set_of_ne hs hi Handler.noConfusion
      · obtain ⟨r, hr, _⟩ := List.mem_map.mp hnew
        obtain ⟨hr, hq⟩ := List.mem_filter.mp hr
        obtain ⟨_, seq, rfl⟩ := MessageTable.outboxEnqueue_ok henq
        rw [List.mem_singleton.mp hr] at hq
        obtain rfl : p = q := by simpa using hq
        obtain ⟨hlen, _⟩ := List.getElem?_eq_some_iff.mp hi
        exact Or.inr (Or.inl (List.mem_set hlen _))
    · exact peerOk_frame (h.served hup q) (grows_outboxEnqueue henq) rfl rfl rfl
  | storeFails hi =>
    refine ⟨h.sound, h.accepted, owed_mono h.owed fun p hw => hw.imp_left fun hs => ?_, h.served⟩
    exact mem_eraseIdx_of_ne hs hi Handler.noConfusion
  | @wake i q hi =>
    refine ⟨sound_notify h.sound, fun row hrow => ?_, owed_notify h.owed fun p hp hw => ?_, ?_⟩
    · obtain ⟨hself, hstored⟩ := h.accepted row hrow
      exact ⟨hself, stored_notifyPeer q hstored⟩
    · refine hw.imp_left fun hs => mem_eraseIdx_of_ne hs hi fun heq => ?_
      exact hp (Handler.stored.inj heq)
    · intro hup p
      rw [shutdown_notifyPeer] at hup
      exact peerOk_notifyPeer S q hup (h.served hup p)
  | @scan peers hscan hpeers =>
    refine ⟨h.sound, h.accepted, fun p k hk => Or.inr (Or.inr ?_), h.served⟩
    exact hpeers.mem_iff.mpr (List.mem_dedup.mpr (mem_pendingPeers hk))
  | scanFails hscan =>
    exact ⟨h.sound, h.accepted, fun p k hk => Or.inr (Or.inr trivial), h.served⟩
  | @resume q rest hres =>
    refine ⟨sound_notify h.sound, fun row hrow => ?_, owed_notify h.owed fun p hp hw => ?_, ?_⟩
    · obtain ⟨hself, hstored⟩ := h.accepted row hrow
      exact ⟨hself, stored_notifyPeer q hstored⟩
    · refine hw.imp_right fun howes => ?_
      rw [hres] at howes
      exact (List.mem_cons.mp howes).resolve_left hp
    · intro hup p
      rw [shutdown_notifyPeer] at hup
      exact peerOk_notifyPeer S q hup (h.served hup p)
  | resumed hres =>
    refine ⟨h.sound, h.accepted, owed_mono h.owed fun p hw => hw.imp_right fun howes => ?_, h.served⟩
    rw [hres] at howes
    cases howes
  | die =>
    refine ⟨⟨fun _ _ ht => (by cases ht), fun _ _ ht => (by cases ht), h.sound.delivered⟩,
      h.accepted, fun p k hk => Or.inr (Or.inr trivial), fun _ p => ?_⟩
    exact ⟨fun _ hk => (by cases hk), Or.inl ⟨rfl, rfl, rfl⟩⟩

def NamesTickets (S : Setting) : Label → Prop
  | .daemon (.request call) => NamesTicket S.tickets call
  | _ => True

structure Direct (S : Setting) (d : Tasks.State) : Prop where
  tickets : ∀ p ∈ d.trust.peers.table.rows, OwnTicket S.tickets p
  streams : ∀ p, ∀ t ∈ d.tasks p, ∀ e ∈ t.streams, e.2 = p
  wire : ∀ p, ∀ e ∈ d.wire p, e.1 = p

lemma direct_setTask {p : NodeId} {i : ℕ} {t : Task} (h : Direct S d)
    (ht : ∀ e ∈ t.streams, e.2 = p) : Direct S (d.setTask p i t) := by
  refine ⟨h.tickets, fun q u hu => ?_, h.wire⟩
  rcases mem_update_set hu with hold | ⟨rfl, rfl⟩
  · exact h.streams q u hold
  · exact ht

lemma direct_put {p remote : NodeId} (h : Direct S d) (s : Sent) (hremote : remote = p) :
    Direct S (d.put p remote s) := by
  refine ⟨h.tickets, h.streams, fun q e he => ?_⟩
  rw [put_wire] at he
  split at he
  · next hq =>
    subst hq
    exact forall_mem_snoc (h.wire q) hremote e he
  · exact h.wire q e he

lemma openOutbound_remote {trust : Daemon.Trust.State} {p remote : NodeId} {now : UInt64}
    {signed : SignedToken} (htickets : ∀ p ∈ trust.peers.table.rows, OwnTicket S.tickets p)
    (h : openOutbound S trust p now = some (signed, remote)) : remote = p := by
  rw [openOutbound] at h
  split at h
  · cases h
  · next hpeer =>
    split at h
    · cases h
    · split at h
      · cases h
      · obtain ⟨addr, haddr, heq⟩ := Option.map_eq_some_iff.mp h
        obtain ⟨_, rfl⟩ := Prod.mk.inj heq
        exact dialled_own htickets hpeer haddr

lemma direct_open {p : NodeId} {i : ℕ} {t : Task} {row : MessageRow} {now : UInt64} {works : Bool}
    (h : Direct S d) (ht : t ∈ d.tasks p) : Direct S (runOpen S d p i t row now works) := by
  have hnone : ∀ e ∈ t.backOff.streams, e.2 = p := fun e he => by cases he
  rw [runOpen]
  split
  · exact direct_setTask h hnone
  · next signed remote hopen =>
    have hremote := openOutbound_remote h.tickets hopen
    split
    · refine direct_setTask (t := { t with streams := (row.channel, remote) :: t.streams }) ?_ ?_
      · exact { direct_put h (.streamOpen (.msg signed row.channel)) hremote with }
      · exact List.forall_mem_cons.mpr ⟨hremote, h.streams p t ht⟩
    · exact direct_setTask h hnone

lemma mem_of_lookup {streams : List (String × NodeId)} {channel : String} {remote : NodeId}
    (h : streams.lookup channel = some remote) : (channel, remote) ∈ streams := by
  obtain ⟨front, back, rfl, _⟩ := List.lookup_eq_some_iff.mp h
  simp

lemma direct_write {p remote : NodeId} {i : ℕ} {t : Task} {row : MessageRow}
    {rest : List MessageRow} {works : Bool} (h : Direct S d) (ht : t ∈ d.tasks p)
    (hopen : t.streams.lookup row.channel = some remote) :
    Direct S (runWrite S d p i t row rest remote works) := by
  rw [runWrite]
  split
  · exact direct_setTask (direct_put h _ (h.streams p t ht _ (mem_of_lookup hopen)))
      (h.streams p t ht)
  · exact direct_setTask { h with } fun e he => by cases he

lemma direct_ran {p : NodeId} {i : ℕ} {t : Task} {l : TaskLabel} {d' : Tasks.State}
    (h : Direct S d) (ht : t ∈ d.tasks p) (hran : Ran S d p i t l d') : Direct S d' := by
  have hkeep := h.streams p t ht
  cases hran with
  | query _ =>
    rw [runQuery]
    split <;> exact direct_setTask h hkeep
  | openStream _ _ => exact direct_open h ht
  | write _ hopen => exact direct_write h ht hopen
  | mark _ => exact direct_setTask { h with } hkeep
  | failQuery _ | failRow _ _ => exact direct_setTask h fun e he => by cases he
  | start _ | wake _ _ | timer _ | hangUp _ _ _ | stop _ _ => exact direct_setTask h hkeep
  | leave _ => exact direct_setTask { h with } hkeep

lemma direct_notify (h : Direct S d) (q : NodeId) : Direct S (notifyPeer d q) := by
  have hwake : Direct S (d.wakePeer q) := by
    rcases wakePeer_cases d q with hw | ⟨k, u, _, hu, hw⟩
    · rw [hw]
      refine ⟨h.tickets, fun p t ht => ?_, h.wire⟩
      by_cases hp : p = q
      · subst hp
        rw [respawn_tasks] at ht
        rcases List.mem_append.mp ht with ht | ht
        · exact h.streams p t ht
        · obtain rfl := List.mem_singleton.mp ht
          exact fun e he => by cases he
      · rw [(touches_respawn d q).tasks p hp] at ht
        exact h.streams p t ht
    · rw [hw]
      exact direct_setTask h (h.streams q u (List.mem_of_getElem? hu))
  exact { hwake with }

lemma direct_daemon {l : Tasks.Label} {d' : Tasks.State} (h : Direct S d)
    (hof : ofDaemon l = true) (hl : NamesTickets S (.daemon l))
    (hstep : Tasks.step S d l = some d') : Direct S d' := by
  cases Tasks.step_moves hstep with
  | request => exact ⟨ownTicket_dispatch hl h.tickets, h.streams, h.wire⟩
  | send _ _ | notify => cases hof
  | inbound | shutdown => exact { h with }
  | task htask hrun => exact direct_ran h (List.mem_of_getElem? htask) (runTask_ran hrun)

lemma direct_step {l : Label} (h : Direct S st.daemon) (hl : NamesTickets S l)
    (hstep : step S st l = some st') : Direct S st'.daemon := by
  cases step_moves hstep with
  | daemon hof hd => exact direct_daemon h hof hl hd
  | send | storeFails _ | scan _ _ | scanFails _ | resumed _ => exact h
  | store _ _ => exact { h with }
  | wake _ => exact direct_notify h _
  | resume _ => exact direct_notify h _
  | die => exact ⟨h.tickets, fun _ _ ht => (by cases ht), h.wire⟩

lemma direct_run {trust : Daemon.Trust.State} {labels : List Label}
    (htickets : ∀ p ∈ trust.peers.table.rows, OwnTicket S.tickets p)
    (hrun : Run (Guarded (fun _ => NamesTickets S) (Fires (step S))) (initial trust) labels st) :
    Direct S st.daemon := by
  refine hrun.invariant (I := fun st => Direct S st.daemon) ?_
    ⟨htickets, fun _ _ ht => (by cases ht), fun _ _ he => (by cases he)⟩
  rintro s l t h ⟨hl, hstep⟩
  exact direct_step h hl hstep

def interrupted : List Label :=
  [.send (.name "bob") "chat" [104, 105], .store 0 5, .die, .scan [Sample.node 2], .resume, .resume]

end

end WalkieTalkie.Delivery.Tasks.Recovery
