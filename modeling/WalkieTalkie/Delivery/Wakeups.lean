import WalkieTalkie.Delivery.Tasks

/-! One drainer per peer, and no wakeup is lost: while the daemon is not shutting down, a peer has at
most one delivery task, the map of wakers points to it, and that task attends to every row of the
peer that is pending and for which `notify_peer` has returned. A query returns one batch, so a row
beyond the limit waits with a drain that has failed before it. -/

namespace WalkieTalkie.Delivery.Tasks

open Proto Store Lib Lib.Runs

/-- The last query has returned the row, or a full batch that the row stands behind. -/
def Batched (t : Task) (k : Key) : Prop :=
  k ∈ t.looked ∨ k ∈ t.left ∧ t.looked.length = deliveryBatch

/-- The task goes to the outbox again before it sleeps on an empty wake channel, or its drain is
under way or has failed: on a batch that has the row or stands before it, or in the query. -/
def Attends (t : Task) (k : Key) : Prop :=
  match t.phase with
  | .spawned | .query => True
  | .sending .. | .marking .. => t.woken = true ∨ Batched t k
  | .waiting drained =>
    t.woken = true ∨ drained = false ∧ (Batched t k ∨ t.looked = [] ∧ k ∈ t.left)
  | .exiting | .gone => False

def Phase.alive : Phase → Bool
  | .exiting | .gone => false
  | _ => true

structure Served (st : State) (p : NodeId) (t : Task) : Prop where
  tasks : st.tasks p = [t]
  wakers : st.wakers p = some 0
  alive : t.phase.alive = true
  attends : ∀ k ∈ pendingKeys st.table p, k ∈ st.notified p → Attends t k

structure PeerOk (st : State) (p : NodeId) : Prop where
  known : ∀ k ∈ st.notified p, st.table.has k = true
  served : (st.tasks p = [] ∧ st.wakers p = none ∧ st.notified p = []) ∨ ∃ t, Served st p t

variable {S : Setting} {st st' : State} {p : NodeId}

lemma attends_woken {t : Task} (h : t.phase.alive = true) (hw : t.woken = true) (k : Key) :
    Attends t k := by
  rw [Attends]
  cases hphase : t.phase with
  | spawned | query => trivial
  | sending | marking | waiting => exact Or.inl hw
  | exiting | gone =>
    rw [hphase] at h
    cases h

lemma attends_backOff {t : Task} {k : Key} (hdrain : t.phase.draining = true)
    (hquery : t.phase ≠ .query) (h : Attends t k) : Attends t.backOff k := by
  rw [Attends] at h
  cases hphase : t.phase with
  | query => exact (hquery hphase).elim
  | sending | marking =>
    rw [hphase] at h
    exact h.imp_right fun hk => ⟨rfl, Or.inl hk⟩
  | spawned | waiting | exiting | gone =>
    rw [hphase] at hdrain
    cases hdrain

lemma known_grows (h : PeerOk st p) (hgrows : Grows st.table st'.table)
    (hnotified : st'.notified p = st.notified p) :
    ∀ k ∈ st'.notified p, st'.table.has k = true := by
  rw [hnotified]
  exact fun k hk => hgrows.has k (h.known k hk)

lemma peerOk_frame (h : PeerOk st p) (hgrows : Grows st.table st'.table)
    (htasks : st'.tasks p = st.tasks p) (hwakers : st'.wakers p = st.wakers p)
    (hnotified : st'.notified p = st.notified p) : PeerOk st' p := by
  refine ⟨known_grows h hgrows hnotified, ?_⟩
  rcases h.served with ⟨ht, hw, hn⟩ | ⟨t, ht⟩
  · exact Or.inl ⟨htasks.trans ht, hwakers.trans hw, hnotified.trans hn⟩
  · refine Or.inr ⟨t, htasks.trans ht.tasks, hwakers.trans ht.wakers, ht.alive, fun k hk hn => ?_⟩
    rw [hnotified] at hn
    exact ht.attends k (hgrows.pending p k hk (h.known k hn)) hn

/-- The one task of the peer becomes another that attends to all that the first attended to. -/
lemma peerOk_move {t t' : Task} (h : PeerOk st p) (hs : Served st p t)
    (htouch : Touches st st' p) (htasks : st'.tasks p = (st.tasks p).set 0 t')
    (hwakers : st'.wakers p = st.wakers p) (halive : t'.phase.alive = true)
    (hattends : ∀ k ∈ pendingKeys st.table p, Attends t k → Attends t' k) : PeerOk st' p := by
  have hnotified : st'.notified p = st.notified p := congrFun htouch.notified p
  have hgrows := grows_of_touches htouch
  refine ⟨known_grows h hgrows hnotified, Or.inr ⟨t', ?_, hwakers.trans hs.wakers, halive, ?_⟩⟩
  · rw [htasks, hs.tasks]
    rfl
  · intro k hk hn
    rw [hnotified] at hn
    have hk' := hgrows.pending p k hk (h.known k hn)
    exact hattends k hk' (hs.attends k hk' hn)

lemma pendingKeys_eq_nil {table : MessageTable} (h : outboxPendingForPeer S table p = []) :
    pendingKeys table p = [] := by
  rcases List.take_eq_nil_iff.mp h with h | h
  · cases h
  · have hperm := (S.ordered (table.pendingFor p)).1
    rw [h] at hperm
    rw [pendingKeys, ← hperm.nil_eq]
    rfl

lemma batched_query {table : MessageTable} {k : Key} (h : k ∈ pendingKeys table p) :
    k ∈ (outboxPendingForPeer S table p).map MessageRow.key ∨ k ∈ leftInOutbox S table p ∧
      ((outboxPendingForPeer S table p).map MessageRow.key).length = deliveryBatch := by
  obtain ⟨r, hr, rfl⟩ := List.mem_map.mp h
  have hmem := (S.ordered (table.pendingFor p)).mem_iff.mpr hr
  rw [← List.take_append_drop deliveryBatch (S.order (table.pendingFor p))] at hmem
  rcases List.mem_append.mp hmem with hfirst | hlast
  · exact Or.inl (List.mem_map_of_mem hfirst)
  · refine Or.inr ⟨List.mem_map_of_mem hlast, ?_⟩
    have hlong := List.length_pos_of_mem hlast
    rw [List.length_drop] at hlong
    rw [List.length_map, outboxPendingForPeer, List.length_take]
    omega

lemma peerOk_ran {t : Task} {l : TaskLabel} (hup : st.shutdown = false) (h : PeerOk st p)
    (hs : Served st p t) (htouch : Touches st st' p) (hran : Ran S st p 0 t l st') :
    PeerOk st' p := by
  cases hran with
  | start hphase =>
    exact peerOk_move h hs htouch (setTask_tasks ..) rfl rfl
      fun _ _ _ => trivial
  | query hphase =>
    rw [runQuery] at htouch ⊢
    split at htouch
    · next hnone =>
      refine peerOk_move h hs htouch (setTask_tasks ..) rfl rfl ?_
      rw [pendingKeys_eq_nil hnone]
      exact fun _ hk => by cases hk
    · exact peerOk_move h hs htouch (setTask_tasks ..) rfl rfl
        fun _ hk _ => Or.inr (batched_query hk)
  | openStream hphase _ =>
    have hback := @attends_backOff t
    rw [hphase] at hback
    rw [runOpen] at htouch ⊢
    split at htouch
    · exact peerOk_move h hs htouch (setTask_tasks ..) rfl rfl
        fun _ _ => hback rfl Phase.noConfusion
    · split at htouch
      · next hok =>
        rw [if_pos hok]
        exact peerOk_move h hs htouch (setTask_tasks ..) rfl hs.alive fun _ _ hk => hk
      · next hok =>
        rw [if_neg hok]
        exact peerOk_move h hs htouch (setTask_tasks ..) rfl rfl
          fun _ _ => hback rfl Phase.noConfusion
  | write hphase _ =>
    have hback := @attends_backOff t
    rw [hphase] at hback
    rw [runWrite] at htouch ⊢
    split
    · next hok =>
      rw [if_pos hok] at htouch
      refine peerOk_move h hs htouch (setTask_tasks ..) rfl rfl fun k _ hk => ?_
      rwa [Attends, hphase] at hk
    · next hok =>
      rw [if_neg hok] at htouch
      exact peerOk_move h hs htouch (setTask_tasks ..) rfl rfl
        fun _ _ => hback rfl Phase.noConfusion
  | @mark _ _ rest hphase =>
    refine peerOk_move h hs htouch (setTask_tasks ..) rfl ?_ fun k _ hk => ?_
    · cases rest <;> rfl
    · cases rest with
      | nil => trivial
      | cons row rest => rwa [Attends, hphase] at hk
  | failQuery _ =>
    exact peerOk_move h hs htouch (setTask_tasks ..) rfl rfl
      fun _ hk _ => Or.inr ⟨rfl, Or.inr ⟨rfl, hk⟩⟩
  | failRow hdrain hquery =>
    exact peerOk_move h hs htouch (setTask_tasks ..) rfl rfl
      fun _ _ => attends_backOff hdrain hquery
  | wake _ _ =>
    exact peerOk_move h hs htouch (setTask_tasks ..) rfl rfl
      fun _ _ _ => trivial
  | timer _ =>
    exact peerOk_move h hs htouch (setTask_tasks ..) rfl rfl
      fun _ _ _ => trivial
  | hangUp _ _ hsender => exact (hsender hs.wakers).elim
  | stop _ hdown =>
    rw [hup] at hdown
    cases hdown
  | leave hphase =>
    have halive := hs.alive
    rw [hphase] at halive
    cases halive

lemma peerOk_notify (h : PeerOk st p) : PeerOk (notifyPeer st p) p := by
  have hnotified : (notifyPeer st p).notified p = pendingKeys st.table p ++ st.notified p :=
    Function.update_self ..
  have htable : (notifyPeer st p).table = st.table := wakePeer_table st p
  constructor
  · rw [hnotified, htable]
    intro k hk
    rcases List.mem_append.mp hk with hk | hk
    · obtain ⟨r, hr, rfl⟩ := List.mem_map.mp hk
      exact Table.has_eq_true.mpr ⟨r, List.mem_of_mem_filter hr, rfl⟩
    · exact h.known k hk
  · rcases h.served with ⟨ht, hw, _⟩ | ⟨t, hs⟩
    · have hwake : st.wakePeer p = st.respawn p := by rw [State.wakePeer, hw]
      refine Or.inr ⟨Task.spawn, ?_, ?_, rfl, fun _ _ _ => trivial⟩
      · rw [notifyPeer, hwake]
        exact (Function.update_self ..).trans (by rw [ht]; rfl)
      · rw [notifyPeer, hwake]
        exact (Function.update_self ..).trans (by rw [ht]; rfl)
    · have hwake : st.wakePeer p = st.setTask p 0 { t with woken := true } := by
        have hhere : t.phase ≠ .gone := by
          intro hphase
          have halive := hs.alive
          rw [hphase] at halive
          cases halive
        rw [State.wakePeer, hs.wakers, hs.tasks]
        exact if_neg hhere
      refine Or.inr ⟨{ t with woken := true }, ?_, ?_, hs.alive, fun k _ _ => ?_⟩
      · rw [notifyPeer, hwake]
        exact (setTask_tasks ..).trans (by rw [hs.tasks]; rfl)
      · rw [notifyPeer, hwake]
        exact hs.wakers
      · exact @attends_woken { t with woken := true } hs.alive rfl k

lemma peerOk_step {l : Label} (hup : st.shutdown = false) (h : PeerOk st p)
    (hstep : step S st l = some st') : PeerOk st' p := by
  cases step_moves hstep with
  | request | shutdown => exact peerOk_frame h (Grows.refl _) rfl rfl rfl
  | send hpeer henq => exact peerOk_frame h (grows_outboxEnqueue henq) rfl rfl rfl
  | inbound => exact peerOk_frame h (grows_inboxRecord ..) rfl rfl rfl
  | @notify q =>
    by_cases hq : p = q
    · subst hq
      exact peerOk_notify h
    · have htouch := touches_wakePeer st q
      have hgrows := grows_of_touches htouch
      exact @peerOk_frame _ (notifyPeer st q) _ h hgrows (htouch.tasks p hq) (htouch.wakers p hq)
        (Function.update_of_ne hq ..)
  | @task q i l t st' htask hrun =>
    have htouch := touches_runTask htask hrun
    by_cases hq : p = q
    · subst hq
      rcases h.served with ⟨hnone, _, _⟩ | ⟨t', hs⟩
      · rw [hnone] at htask
        cases htask
      · rw [hs.tasks] at htask
        obtain ⟨hi, rfl⟩ := List.getElem?_eq_some_iff.mp htask
        obtain rfl : i = 0 := by simpa using hi
        exact peerOk_ran hup h hs htouch (runTask_ran hrun)
    · exact peerOk_frame h (grows_of_touches htouch) (htouch.tasks p hq) (htouch.wakers p hq)
        (congrFun htouch.notified p)

lemma up_of_step {l : Label} (hstep : step S st l = some st') (hup : st'.shutdown = false) :
    st.shutdown = false := by
  cases step_moves hstep with
  | request | send | inbound => exact hup
  | shutdown => cases hup
  | @notify q => exact (touches_wakePeer st q).shutdown.symm.trans hup
  | task htask hrun =>
    rw [(touches_runTask htask hrun).shutdown] at hup
    exact hup

lemma peerOk_run {trust : Daemon.Trust.State} {table : MessageTable} {ls : List Label}
    (hrun : Run (Fires (step S)) (initial trust table) ls st) (hup : st.shutdown = false)
    (p : NodeId) : PeerOk st p := by
  have hinit : PeerOk (initial trust table) p :=
    ⟨fun _ hk => (by cases hk), Or.inl ⟨rfl, rfl, rfl⟩⟩
  have h : st.shutdown = false → PeerOk st p :=
    hrun.invariant (I := fun st => st.shutdown = false → PeerOk st p)
      (fun _ _ _ hi hs hup => peerOk_step (up_of_step hs hup) (hi (up_of_step hs hup)) hs)
      (fun _ => hinit)
  exact h hup

theorem one_drainer_no_lost_wakeup {trust : Daemon.Trust.State} {table : MessageTable}
    {ls : List Label} (hrun : Run (Fires (step S)) (initial trust table) ls st)
    (hup : st.shutdown = false) :
    (∀ p, AtMostOne (fun t => t.phase.looping = true) (st.tasks p)) ∧
    ∀ p, ∀ r ∈ st.table.pendingFor p, r.key ∈ st.notified p → ∃ t ∈ st.tasks p, Attends t r.key := by
  refine ⟨fun p => ?_, fun p r hr hn => ?_⟩
  · intro i j x y hi hj _ _
    rcases (peerOk_run hrun hup p).served with ⟨hnone, _, _⟩ | ⟨t, hs⟩
    · rw [hnone] at hi
      cases hi
    · rw [hs.tasks] at hi hj
      obtain ⟨hi, _⟩ := List.getElem?_eq_some_iff.mp hi
      obtain ⟨hj, _⟩ := List.getElem?_eq_some_iff.mp hj
      rw [List.length_singleton] at hi hj
      omega
  · rcases (peerOk_run hrun hup p).served with ⟨_, _, hnone⟩ | ⟨t, hs⟩
    · rw [hnone] at hn
      cases hn
    · refine ⟨t, ?_, hs.attends _ (List.mem_map_of_mem hr) hn⟩
      rw [hs.tasks]
      exact List.mem_singleton_self t

def backlogRow (i : ℕ) : MessageRow :=
  ⟨Sample.node 1, Sample.channelId "chat", UInt64.ofNat (i + 1), .out, "chat", Sample.node 2, [104],
    UInt64.ofNat (i + 1), none⟩

lemma nodup_backlog (n : ℕ) (hn : n < UInt64.size) :
    (((List.range n).map backlogRow).map MessageRow.key).Nodup := by
  rw [List.map_map]
  refine List.nodup_range.map_on fun i hi j hj hkey => ?_
  have hseq : UInt64.ofNat (i + 1) = UInt64.ofNat (j + 1) := congrArg (fun k : Key => k.2.2) hkey
  rw [List.mem_range] at hi hj
  have hnat := congrArg UInt64.toNat hseq
  rw [UInt64.toNat_ofNat_of_lt' (by omega), UInt64.toNat_ofNat_of_lt' (by omega)] at hnat
  omega

/-- One row more than a query returns. -/
def backlog : MessageTable :=
  ⟨(List.range (deliveryBatch + 1)).map backlogRow, nodup_backlog _ (by decide)⟩

lemma pendingFor_backlog : backlog.pendingFor (Sample.node 2) = backlog.rows := by
  refine List.filter_eq_self.mpr fun r hr => ?_
  obtain ⟨i, _, rfl⟩ := List.mem_map.mp hr
  simp [backlogRow]

def firstFails (p : NodeId) : List Label :=
  [.notify p, .task p 0 .start, .task p 0 .query, .task p 0 (.openStream 1000 false)]

/-- The first drain of a peer with pending rows ends where it opens its first stream. -/
lemma firstFails_waits (S : Setting) (trust : Daemon.Trust.State) (table : MessageTable) (p : NodeId)
    {row : MessageRow} {rest : List MessageRow} (hrows : outboxPendingForPeer S table p = row :: rest) :
    ∃ st, execute (step S) (initial trust table) (firstFails p) = some st ∧ st.shutdown = false ∧
      st.table = table ∧ st.notified p = pendingKeys table p ∧
      st.tasks p = [⟨.waiting false, false, [], (row :: rest).map MessageRow.key,
        leftInOutbox S table p⟩] := by
  have hopen : ∀ st task, runOpen S st p 0 task row 1000 false = st.setTask p 0 task.backOff := by
    intro st task
    rw [runOpen]
    split <;> rfl
  simp [firstFails, execute, step, notifyPeer, State.wakePeer, State.respawn, initial, runTask,
    Task.spawn, State.setTask, runQuery, hrows, hopen, Task.backOff]

/-- A row of the backlog waits for the timer, though no query has returned it. -/
theorem row_behind_batch_waits : ∃ st t, execute (step alice) (initial aliceTrust backlog)
      (firstFails (Sample.node 2)) = some st ∧ st.shutdown = false ∧ st.tasks (Sample.node 2) = [t] ∧
    t.phase = .waiting false ∧ t.woken = false ∧
    ∃ r ∈ st.table.pendingFor (Sample.node 2), r.key ∈ st.notified (Sample.node 2) ∧
      r.key ∉ t.looked := by
  have hperm := (alice.ordered (backlog.pendingFor (Sample.node 2))).1
  have hlength : (alice.order (backlog.pendingFor (Sample.node 2))).length = deliveryBatch + 1 := by
    rw [hperm.length_eq, pendingFor_backlog]
    simp [backlog]
  have hnodup : ((alice.order (backlog.pendingFor (Sample.node 2))).map MessageRow.key).Nodup := by
    rw [(hperm.map _).nodup_iff, pendingFor_backlog]
    exact backlog.nodup
  obtain ⟨r, hlast⟩ : ∃ r, (alice.order (backlog.pendingFor (Sample.node 2))).drop deliveryBatch =
      [r] := by
    rw [← List.length_eq_one_iff, List.length_drop, hlength]
    rfl
  cases hrows : outboxPendingForPeer alice backlog (Sample.node 2) with
  | nil =>
    have hlen := congrArg List.length hrows
    rw [outboxPendingForPeer, List.length_take, hlength] at hlen
    cases hlen
  | cons row rest =>
    obtain ⟨st, hrun, hup, htable, hnotified, htasks⟩ :=
      firstFails_waits alice aliceTrust backlog (Sample.node 2) hrows
    have hr : r ∈ backlog.pendingFor (Sample.node 2) := by
      refine hperm.mem_iff.mp (List.mem_of_mem_drop (i := deliveryBatch) ?_)
      rw [hlast]
      exact List.mem_singleton_self r
    refine ⟨st, _, hrun, hup, htasks, rfl, rfl, r, htable ▸ hr, ?_, ?_⟩
    · rw [hnotified]
      exact List.mem_map_of_mem hr
    · rw [← hrows, outboxPendingForPeer]
      rw [← List.take_append_drop deliveryBatch (alice.order _), hlast, List.map_append,
        List.nodup_append] at hnodup
      exact fun hlooked => hnodup.2.2 _ hlooked _ (List.mem_singleton_self r.key) rfl

def failedDrain : List Label :=
  [.send (.name "bob") "chat" [104, 105] 5, .notify (Sample.node 2),
    .task (Sample.node 2) 0 .start, .task (Sample.node 2) 0 .query,
    .task (Sample.node 2) 0 (.openStream 1000 false)]

theorem one_drainer_no_lost_wakeup_failed_drain : ∃ st,
    execute (step alice) (initial aliceTrust Table.empty) failedDrain = some st ∧
    ∃ r ∈ st.table.pendingFor (Sample.node 2), r.key ∈ st.notified (Sample.node 2) ∧
      ∃ t ∈ st.tasks (Sample.node 2), Attends t r.key := by
  have heval : (execute (step alice) (initial aliceTrust Table.empty) failedDrain).map
      (fun st => (st.shutdown, (st.table.pendingFor (Sample.node 2)).map MessageRow.payload,
        decide (pendingKeys st.table (Sample.node 2) = st.notified (Sample.node 2)))) =
      some (false, [[104, 105]], true) := by
    decide +kernel
  obtain ⟨st, hst, heq⟩ := Option.map_eq_some_iff.mp heval
  obtain ⟨hup, heq⟩ := Prod.mk.inj heq
  obtain ⟨hrows, hkeys⟩ := Prod.mk.inj heq
  have hmem : [104, 105] ∈ (st.table.pendingFor (Sample.node 2)).map MessageRow.payload := by
    rw [hrows]
    exact List.mem_singleton_self _
  obtain ⟨r, hr, _⟩ := List.mem_map.mp hmem
  have hn : r.key ∈ st.notified (Sample.node 2) := by
    rw [← of_decide_eq_true hkeys]
    exact List.mem_map_of_mem hr
  exact ⟨st, hst, r, hr, hn, (one_drainer_no_lost_wakeup (execute_run hst) hup).2 _ r hr hn⟩

end WalkieTalkie.Delivery.Tasks
