import WalkieTalkie.Lib.Actor
import WalkieTalkie.Store.Database

/-! The calls of the store as tasks make them: each ships its job to the thread that owns the connection
and waits for the answer. What the calls give out is given out once, in the order of real time. -/

namespace WalkieTalkie.Store.Calls

open Proto Lib Lib.Runs Lib.Actor

/-- What calls of the store give out: numbers, and rows that only one call can be the first to write. -/
inductive Grant
  | outbox (sender : NodeId) (cid : ChannelId)
  | bus (group session : String)
  | inbox (key : NodeId × ChannelId × UInt64)
  | group (name : String)
  | agent (key : String × String)
  | token (tokenHash : Bytes)
  | session (key : String × String)

def messageGrants (channelId : String → ChannelId) : MessageOp → Answer → List (Grant × ℤ)
  | .outboxEnqueue sender _ channel _, .messages [row] =>
    [(.outbox sender (channelId channel), row.seq.toInt64.toInt)]
  | .inboxRecord sender channel frame, .flag true =>
    [(.inbox (sender, channelId channel, frame.seq), 1)]
  | _, _ => []

def busGrants : BusOp → Answer → List (Grant × ℤ)
  | .agentMsgEnqueue group session .., .agentMsgs [row] => [(.bus group session, row.seq)]
  | _, _ => []

def groupGrants : GroupOp → Answer → List (Grant × ℤ)
  | .groupCreate name, .flag true => [(.group name, 1)]
  | _, _ => []

def agentGrants : AgentOp → Answer → List (Grant × ℤ)
  | .agentRegister row, .flag true => [(.agent row.key, 1), (.token row.tokenHash, 1)]
  | _, _ => []

def sessionGrants : SessionOp → Answer → List (Grant × ℤ)
  | .sessionCreate row, .flag true => [(.session row.key, 1)]
  | _, _ => []

def grants (channelId : String → ChannelId) : Op → Answer → List (Grant × ℤ)
  | .messages op, a => messageGrants channelId op a
  | .bus op, a => busGrants op a
  | .groups op, a => groupGrants op a
  | .agents op, a => agentGrants op a
  | .sessions op, a => sessionGrants op a
  | _, _ => []

def claimed (b : Bool) : ℤ := if b then 1 else 0

/-- Below every number of a row while there is no row. -/
def lastOf (seqs : List ℤ) : ℤ := seqs.max?.getD (Int64.minValue.toInt - 1)

def mark : Grant → Database → ℤ
  | .outbox sender cid, db => lastOf (db.messages.seqsOf sender cid)
  | .bus group session, db => db.bus.lastSeq group session
  | .inbox key, db => claimed (db.messages.has key)
  | .group name, db => claimed (db.groups.has name)
  | .agent key, db => claimed (db.agents.has key)
  | .token hash, db => claimed (db.agents.rows.any fun r => r.tokenHash = hash)
  | .session key, db => claimed (db.sessions.has key)

lemma claimed_mono {b b' : Bool} (h : b = true → b' = true) : claimed b ≤ claimed b' := by
  cases b with
  | false =>
    cases b' with
    | false => exact Int.le_refl _
    | true => exact Int.zero_le_ofNat 1
  | true =>
    rw [h rfl]

lemma floor_lt (n : Int64) : Int64.minValue.toInt - 1 < n.toInt := by
  have hmin := Int64.minValue_le_toInt n
  omega

lemma lastOf_cases (seqs : List ℤ) :
    lastOf seqs = Int64.minValue.toInt - 1 ∨ lastOf seqs ∈ seqs := by
  rw [lastOf]
  cases hmax : seqs.max? with
  | none => exact Or.inl rfl
  | some m => exact Or.inr (List.max?_eq_some_iff.mp hmax).1

lemma le_lastOf {seqs : List ℤ} {n : ℤ} (h : n ∈ seqs) : n ≤ lastOf seqs := by
  rw [lastOf]
  cases hmax : seqs.max? with
  | none =>
    rw [List.max?_eq_none_iff.mp hmax] at h
    cases h
  | some m => exact (List.max?_eq_some_iff.mp hmax).2 n h

lemma claimed_above {b b' : Bool} (h : b = false) (h' : b' = true) :
    claimed b < 1 ∧ 1 ≤ claimed b' := by
  subst h h'
  exact ⟨Int.zero_lt_one, Int.le_refl _⟩

section

variable {ρ κ : Type} [DecidableEq κ] {key : ρ → κ} {t : Table ρ κ key} {k : κ}

lemma has_insertOrIgnore {r : ρ} (h : t.has k = true) : (t.insertOrIgnore r).1.has k = true := by
  obtain ⟨o, ho, hk⟩ := Table.has_eq_true.mp h
  exact Table.has_eq_true.mpr ⟨o, Table.mem_insertOrIgnore.mpr (Or.inl ho), hk⟩

lemma insertOrIgnore_above {r : ρ} (h : (t.insertOrIgnore r).2 = true) :
    claimed (t.has (key r)) < 1 ∧ 1 ≤ claimed ((t.insertOrIgnore r).1.has (key r)) := by
  have hnew : t.has (key r) = false := by
    cases hhas : t.has (key r) with
    | true =>
      rw [Table.insertOrIgnore_of_has hhas] at h
      cases h
    | false => rfl
  refine claimed_above hnew (Table.has_eq_true.mpr ⟨r, ?_, rfl⟩)
  rw [(Table.insertOrIgnore_of_not_has hnew).1]
  exact List.mem_append_right _ (List.mem_singleton_self _)

lemma has_update {p : ρ → Bool} {f : ρ → ρ} (hf : ∀ r, key (f r) = key r)
    (h : t.has k = true) : (t.update p f hf).has k = true := by
  obtain ⟨o, ho, hk⟩ := Table.has_eq_true.mp h
  refine Table.has_eq_true.mpr ⟨_, Table.mem_update.mpr ⟨o, ho, rfl⟩, ?_⟩
  split
  · exact (hf o).trans hk
  · exact hk

end

section

variable {channelId : String → ChannelId} {t t' : MessageTable} {op : MessageOp} {a : Answer}

lemma has_messages {k : NodeId × ChannelId × UInt64} (h : PerformMessages channelId t op t' a)
    (hk : t.has k = true) : t'.has k = true := by
  cases h with
  | outboxEnqueue henq =>
    obtain ⟨o, ho, rfl⟩ := Table.has_eq_true.mp hk
    refine Table.has_eq_true.mpr ⟨o, ?_, rfl⟩
    rw [(MessageTable.outboxEnqueue_ok henq).1]
    exact List.mem_append_left _ ho
  | outboxPendingPeers _ _ => exact hk
  | outboxPendingForPeer _ => exact hk
  | outboxMarkDelivered => exact has_update _ hk
  | inboxRecord => exact has_insertOrIgnore hk
  | inboxBacklog _ => exact hk

lemma mem_seqsOf {sender : NodeId} {cid : ChannelId} {n : ℤ} : n ∈ t.seqsOf sender cid ↔
    ∃ seq : UInt64, t.has (sender, cid, seq) = true ∧ seq.toInt64.toInt = n := by
  simp only [MessageTable.seqsOf, List.mem_map, List.mem_filter, Bool.and_eq_true,
    decide_eq_true_eq, Table.has_eq_true]
  constructor
  · rintro ⟨r, ⟨hr, rfl, rfl⟩, rfl⟩
    exact ⟨r.seq, ⟨r, hr, rfl⟩, rfl⟩
  · rintro ⟨seq, ⟨r, hr, hk⟩, rfl⟩
    obtain ⟨hs, hk⟩ := Prod.mk.inj hk
    obtain ⟨hc, hq⟩ := Prod.mk.inj hk
    exact ⟨r, ⟨hr, hs, hc⟩, by rw [hq]⟩

lemma seqs_messages (sender : NodeId) (cid : ChannelId)
    (h : PerformMessages channelId t op t' a) :
    lastOf (t.seqsOf sender cid) ≤ lastOf (t'.seqsOf sender cid) := by
  rcases lastOf_cases (t.seqsOf sender cid) with hlast | hlast
  · rw [hlast]
    rcases lastOf_cases (t'.seqsOf sender cid) with hlast' | hlast'
    · rw [hlast']
    · obtain ⟨seq, _, heq⟩ := mem_seqsOf.mp hlast'
      rw [← heq]
      exact Int.le_of_lt (floor_lt _)
  · obtain ⟨seq, hk, heq⟩ := mem_seqsOf.mp hlast
    exact le_lastOf (mem_seqsOf.mpr ⟨seq, has_messages h hk, heq⟩)

lemma outboxEnqueue_above {sender peer : NodeId} {channel : String} {payload : Bytes}
    {now : UInt64} {row : MessageRow}
    (h : t.outboxEnqueue channelId sender peer channel payload now = .ok (t', row)) :
    lastOf (t.seqsOf sender (channelId channel)) < row.seq.toInt64.toInt ∧
      row.seq.toInt64.toInt ≤ lastOf (t'.seqsOf sender (channelId channel)) := by
  have hseq := MessageTable.outboxEnqueue_seq h
  obtain ⟨hrows, seq, rfl⟩ := MessageTable.outboxEnqueue_ok h
  constructor
  · rcases lastOf_cases (t.seqsOf sender (channelId channel)) with hlast | hlast
    · rw [hlast]
      exact floor_lt _
    · obtain ⟨r, hr, heq⟩ := List.mem_map.mp hlast
      obtain ⟨hr, hk⟩ := List.mem_filter.mp hr
      simp only [Bool.and_eq_true, decide_eq_true_eq] at hk
      rw [← heq]
      exact MessageTable.seq_lt_nextSeq hseq hr hk.1 hk.2
  · refine le_lastOf (mem_seqsOf.mpr ⟨seq, Table.has_eq_true.mpr ?_, rfl⟩)
    refine ⟨⟨sender, channelId channel, seq, .out, channel, peer, payload, now, none⟩, ?_, rfl⟩
    rw [hrows]
    exact List.mem_append_right _ (List.mem_singleton_self _)

end

section

variable {t t' : BusTable} {op : BusOp} {a : Answer}

lemma lastSeq_le {group session : String} {n : ℕ}
    (h : ∀ r ∈ t.rows, r.inSession group session → r.seq ≤ n) : t.lastSeq group session ≤ n := by
  rw [BusTable.lastSeq]
  cases hmax : ((t.rows.filter fun r => r.inSession group session).map AgentMsgRow.seq).max? with
  | none => exact Nat.zero_le _
  | some m =>
    obtain ⟨r, hr, rfl⟩ := List.mem_map.mp (List.max?_eq_some_iff.mp hmax).1
    obtain ⟨hr, hs⟩ := List.mem_filter.mp hr
    exact h r hr hs

lemma agentMsgEnqueue_lastSeq {group session fromAgent toAgent : String} {kind : AgentMsgKind}
    {payload : Bytes} {now : UInt64} {row : AgentMsgRow}
    (h : t.agentMsgEnqueue group session fromAgent toAgent kind payload now = .ok (t', row)) :
    t.lastSeq group session < row.seq ∧ row.seq ≤ t'.lastSeq group session := by
  obtain ⟨hrow, hmem⟩ := BusTable.agentMsgEnqueue_ok h
  have hcap : 0 < maxMsgsPerSession := by decide
  have hself : row ∈ t'.rows := (hmem row).mpr ⟨Or.inr rfl, by omega⟩
  have hin : row.inSession group session := AgentMsgRow.inSession_iff.mpr (by simp [hrow])
  refine ⟨?_, BusTable.seq_le_lastSeq hself hin⟩
  rw [hrow]
  exact Nat.lt_succ_self _

lemma lastSeq_bus (group session : String) (h : PerformBus t op t' a) :
    t.lastSeq group session ≤ t'.lastSeq group session := by
  refine lastSeq_le fun r hr hs => ?_
  cases h with
  | agentMsgEnqueue henq =>
    obtain ⟨hlow, hhigh⟩ := agentMsgEnqueue_lastSeq henq
    by_cases hcut : r ∈ t'.rows
    · exact BusTable.seq_le_lastSeq hcut hs
    · have hin := ((BusTable.agentMsgEnqueue_ok henq).2 r).not.mp hcut
      rw [not_and_not_right] at hin
      obtain ⟨hg, hs'⟩ := AgentMsgRow.inSession_iff.mp (hin (Or.inl hr)).1
      obtain ⟨rfl, rfl⟩ := AgentMsgRow.inSession_iff.mp hs
      have hle := BusTable.seq_le_lastSeq hr hs
      rw [hg, hs'] at hle ⊢
      omega
  | agentMsgBacklog _ => exact BusTable.seq_le_lastSeq hr hs
  | agentMsgMarkConsumed =>
    obtain ⟨o, ho, hk⟩ := Table.has_eq_true.mp (has_update _ (Table.has_eq_true.mpr ⟨r, hr, rfl⟩))
    obtain ⟨hg, hk⟩ := Prod.mk.inj hk
    obtain ⟨hs', hq⟩ := Prod.mk.inj hk
    obtain ⟨rfl, rfl⟩ := AgentMsgRow.inSession_iff.mp hs
    rw [← hq]
    exact BusTable.seq_le_lastSeq ho (AgentMsgRow.inSession_iff.mpr ⟨hg, hs'⟩)
  | agentMsgPending _ => exact BusTable.seq_le_lastSeq hr hs
  | agentMsgSessionLog _ => exact BusTable.seq_le_lastSeq hr hs
  | agentMsgGroupFeed _ => exact BusTable.seq_le_lastSeq hr hs

end

section

variable {t t' : AgentRecords} {op : AgentOp} {a : Answer}

lemma mem_modify {p : AgentRecord → Bool} {f : AgentRecord → AgentRecord}
    (hkey : ∀ r, (f r).key = r.key) (htoken : ∀ r, (f r).tokenHash = r.tokenHash) {r : AgentRecord}
    (hr : r ∈ t.rows) :
    ∃ r' ∈ (t.modify p f hkey htoken).rows, r'.key = r.key ∧ r'.tokenHash = r.tokenHash := by
  refine ⟨if p r then f r else r, ?_, ?_⟩
  · rw [AgentRecords.modify, Table.mem_update]
    exact ⟨r, hr, rfl⟩
  · split
    · exact ⟨hkey r, htoken r⟩
    · exact ⟨rfl, rfl⟩

lemma mem_reconcileStale {r : AgentRecord} (hr : r ∈ t.rows) :
    ∃ r' ∈ t.reconcileStale.rows, r'.key = r.key ∧ r'.tokenHash = r.tokenHash :=
  mem_modify _ _ hr

lemma mem_agents (h : PerformAgents t op t' a) {r : AgentRecord} (hr : r ∈ t.rows) :
    ∃ r' ∈ t'.rows, r'.key = r.key ∧ r'.tokenHash = r.tokenHash := by
  cases h with
  | @agentRegister row =>
    refine ⟨r, ?_, rfl, rfl⟩
    rw [AgentRecords.agentRegister]
    split
    · exact hr
    · exact List.mem_append_left _ hr
  | agentByToken => exact ⟨r, hr, rfl, rfl⟩
  | agentGet => exact ⟨r, hr, rfl, rfl⟩
  | agentList => exact ⟨r, hr, rfl, rfl⟩
  | agentSetStatus => exact mem_modify _ _ hr
  | agentTouch => exact mem_modify _ _ hr

lemma agentRegister_above {row : AgentRecord} (h : (t.agentRegister row).2 = true) :
    (claimed (t.has row.key) < 1 ∧ 1 ≤ claimed ((t.agentRegister row).1.has row.key)) ∧
    (claimed (t.rows.any fun r => r.tokenHash = row.tokenHash) < 1 ∧
      1 ≤ claimed ((t.agentRegister row).1.rows.any fun r => r.tokenHash = row.tokenHash)) := by
  rw [AgentRecords.agentRegister] at h ⊢
  split
  · next htaken => simp [htaken] at h
  · next htaken =>
    have hnew := AgentRecords.taken_eq_false.mp (Bool.eq_false_of_not_eq_true htaken)
    have hself : row ∈ t.rows ++ [row] := List.mem_append_right _ (List.mem_singleton_self _)
    constructor
    · exact claimed_above (Table.has_eq_false.mpr fun r hr => (hnew r hr).1)
        (Table.has_eq_true.mpr ⟨row, hself, rfl⟩)
    · refine claimed_above (List.any_eq_false.mpr fun r hr => ?_)
        (List.any_eq_true.mpr ⟨row, hself, decide_eq_true rfl⟩)
      simpa using (hnew r hr).2

end

variable {channelId : String → ChannelId} {db db' : Database} {op : Op} {a : Answer}

lemma agents_kept (h : Perform channelId db op db' a) {r : AgentRecord} (hr : r ∈ db.agents.rows) :
    ∃ r' ∈ db'.agents.rows, r'.key = r.key ∧ r'.tokenHash = r.tokenHash := by
  cases h with
  | agents hp => exact mem_agents hp hr
  | reconciled | reconciledHalf => exact mem_reconcileStale hr
  | _ => exact ⟨r, hr, rfl, rfl⟩

lemma sessions_kept (h : Perform channelId db op db' a) {k : String × String}
    (hk : db.sessions.has k = true) : db'.sessions.has k = true := by
  cases h with
  | sessions hp =>
    cases hp with
    | sessionCreate => exact has_insertOrIgnore hk
    | sessionGet => exact hk
    | sessionList => exact hk
    | sessionClose => exact has_update (SessionRecords.key_withStatus .closed) hk
  | reconciled => exact has_update (SessionRecords.key_withStatus .closed) hk
  | _ => exact hk

lemma groups_kept (h : Perform channelId db op db' a) {name : String}
    (hk : db.groups.has name = true) : db'.groups.has name = true := by
  cases h with
  | groups hp =>
    cases hp with
    | groupCreate => exact has_insertOrIgnore hk
    | groupList => exact hk
    | groupExists => exact hk
  | _ => exact hk

lemma mark_mono (g : Grant) (h : Perform channelId db op db' a) : mark g db ≤ mark g db' := by
  cases g with
  | outbox sender cid =>
    cases h with
    | messages hp => exact seqs_messages sender cid hp
    | _ => exact Int.le_refl _
  | bus group session =>
    cases h with
    | bus hp =>
      exact Int.ofNat_le.mpr (lastSeq_bus group session hp)
    | _ => exact Int.le_refl _
  | inbox key =>
    cases h with
    | messages hp => exact claimed_mono (has_messages hp)
    | _ => exact Int.le_refl _
  | group name => exact claimed_mono (groups_kept h)
  | agent key =>
    refine claimed_mono fun hk => ?_
    obtain ⟨r, hr, rfl⟩ := Table.has_eq_true.mp hk
    obtain ⟨r', hr', hkey, _⟩ := agents_kept h hr
    exact Table.has_eq_true.mpr ⟨r', hr', hkey⟩
  | token hash =>
    refine claimed_mono fun hk => ?_
    obtain ⟨r, hr, hhash⟩ := List.any_eq_true.mp hk
    obtain ⟨r', hr', _, htoken⟩ := agents_kept h hr
    exact List.any_eq_true.mpr ⟨r', hr', by rwa [htoken]⟩
  | session key => exact claimed_mono (sessions_kept h)

lemma grants_failed (channelId : String → ChannelId) (op : Op) (e : String) :
    grants channelId op (.failed e) = [] := by
  cases op with
  | messages op => cases op <;> rfl
  | bus op => cases op <;> rfl
  | groups op => cases op <;> rfl
  | agents op => cases op <;> rfl
  | sessions op => cases op <;> rfl
  | _ => rfl

lemma granted_above (g : Grant) (h : Perform channelId db op db' a) {n : ℤ}
    (hn : (g, n) ∈ grants channelId op a) : mark g db < n ∧ n ≤ mark g db' := by
  cases h with
  | messages hp =>
    cases hp with
    | outboxEnqueue henq =>
      cases List.mem_singleton.mp hn
      exact outboxEnqueue_above henq
    | @inboxRecord sender channel frame now =>
      cases hok : (db.messages.inboxRecord channelId sender channel frame now).2 with
      | true =>
        rw [hok] at hn
        cases List.mem_singleton.mp hn
        exact insertOrIgnore_above hok
      | false =>
        rw [hok] at hn
        cases hn
    | _ => cases hn
  | bus hp =>
    cases hp with
    | agentMsgEnqueue henq =>
      cases List.mem_singleton.mp hn
      obtain ⟨hlow, hhigh⟩ := agentMsgEnqueue_lastSeq henq
      exact ⟨Int.ofNat_lt.mpr hlow, Int.ofNat_le.mpr hhigh⟩
    | _ => cases hn
  | groups hp =>
    cases hp with
    | @groupCreate name now =>
      cases hok : (db.groups.groupCreate name now).2 with
      | true =>
        rw [hok] at hn
        cases List.mem_singleton.mp hn
        exact insertOrIgnore_above hok
      | false =>
        rw [hok] at hn
        cases hn
    | _ => cases hn
  | agents hp =>
    cases hp with
    | @agentRegister row =>
      cases hok : (db.agents.agentRegister row).2 with
      | true =>
        rw [hok] at hn
        obtain ⟨hkey, htoken⟩ := agentRegister_above hok
        rcases List.mem_cons.mp hn with hg | hg
        · cases hg
          exact hkey
        · cases List.mem_singleton.mp hg
          exact htoken
      | false =>
        rw [hok] at hn
        cases hn
    | _ => cases hn
  | sessions hp =>
    cases hp with
    | @sessionCreate row =>
      cases hok : (db.sessions.sessionCreate row).2 with
      | true =>
        rw [hok] at hn
        cases List.mem_singleton.mp hn
        exact insertOrIgnore_above hok
      | false =>
        rw [hok] at hn
        cases hn
    | _ => cases hn
  | fails | reconciledHalf =>
    rw [grants_failed] at hn
    cases hn
  | _ => cases hn

def Grants (channelId : String → ChannelId) (g : Grant) (op : Op) (a : Answer) (n : ℤ) : Prop :=
  (g, n) ∈ grants channelId op a

lemma counter (channelId : String → ChannelId) (g : Grant) :
    Counter (Perform channelId) (mark g) (Grants channelId g) where
  mono _ _ _ _ h := mark_mono g h
  above _ _ _ _ _ h hn := granted_above g h hn

section

def question : Op := .bus (.agentMsgEnqueue "team" "fix" "lead" "fix" .turnInput [])

/-- The second caller gives up, and its message is enqueued all the same. -/
def threeQuestions : List (Label Op) :=
  [.submit 0 1 question, .work, .receive 1, .submit 0 2 question, .submit 0 3 question, .abandon 2,
    .work, .work, .receive 3]

def sampleChannel : String → ChannelId := fun _ => Vector.replicate 16 0

def asked (row row' : AgentMsgRow) : List (Event Op Answer) :=
  [.invoked 1 question, .answered 1 (.ok (.agentMsgs [row])), .invoked 2 question,
    .invoked 3 question, .answered 3 (.ok (.agentMsgs [row']))]

lemma run_threeQuestions : ∃ (s : State Database Op Answer) (row row' : AgentMsgRow),
    Run (Step (Perform sampleChannel)) (initial Database.empty 0) threeQuestions s ∧
      s.history = asked row row' ∧ s.executed.map Prod.fst = [1, 2, 3] := by
  obtain ⟨t, row, h⟩ := BusTable.agentMsgEnqueue_succeeds Table.empty "team" "fix" "lead" "fix"
    .turnInput [] 0
  obtain ⟨t', row', h'⟩ := BusTable.agentMsgEnqueue_succeeds t "team" "fix" "lead" "fix"
    .turnInput [] 0
  obtain ⟨t'', row'', h''⟩ := BusTable.agentMsgEnqueue_succeeds t' "team" "fix" "lead" "fix"
    .turnInput [] 0
  exact ⟨_, row, row'', .cons (.submit (List.mem_singleton_self _) rfl rfl)
    (.cons (.work rfl rfl (.bus (.agentMsgEnqueue h))) (.cons (.receive rfl)
    (.cons (.submit (List.mem_singleton_self _) rfl rfl)
    (.cons (.submit (List.mem_singleton_self _) rfl rfl) (.cons (.abandon rfl)
    (.cons (.work rfl rfl (.bus (.agentMsgEnqueue h')))
    (.cons (.work rfl rfl (.bus (.agentMsgEnqueue h''))) (.cons (.receive rfl) .nil)))))))),
    rfl, rfl⟩

end

/-- Each call takes effect at one moment between its invocation and its answer. -/
theorem calls_linearizable {handle : ℕ} {labels : List (Label Op)}
    {s : State Database Op Answer}
    (h : Run (Step (Perform channelId)) (initial db handle) labels s) :
    Linearization (Perform channelId) db s.object s.history s.executed ∧
      submissions s.history = s.executed.map job ++ s.queue ∧
      (s.alive = false → s.queue = []) ∧
      ∀ t handle, s.callers t = .waiting handle none → ∃ s', Step (Perform channelId) s .work s' := by
  have hc := consistent h
  refine ⟨hc.linearization, hc.order, fun hd => (hc.ended hd).2, fun t handle hw => ?_⟩
  exact hc.progress (fun o op => ⟨o, .failed "", .fails⟩) hw

theorem calls_linearizable_three_questions : ∃ s : State Database Op Answer,
    s.executed.map Prod.fst = [1, 2, 3] ∧
      Linearization (Perform sampleChannel) Database.empty s.object s.history s.executed := by
  obtain ⟨s, _, _, hr, _, he⟩ := run_threeQuestions
  exact ⟨s, he, (calls_linearizable hr).1⟩

/-- What two calls are given under one name differs, and the later one is given more. -/
theorem granted_in_order {handle : ℕ} {labels : List (Label Op)} {s : State Database Op Answer}
    (h : Run (Step (Perform channelId)) (initial db handle) labels s) {g : Grant} {t t' : ℕ}
    {op op' : Op} {a a' : Answer} {n n' : ℤ} (ht : .invoked t op ∈ s.history)
    (ht' : .invoked t' op' ∈ s.history) (ha : .answered t (.ok a) ∈ s.history)
    (ha' : .answered t' (.ok a') ∈ s.history) (hn : (g, n) ∈ grants channelId op a)
    (hn' : (g, n') ∈ grants channelId op' a') :
    (t ≠ t' → n ≠ n') ∧ ∀ h₁ h₂ answer, s.history = h₁ ++ .answered t answer :: h₂ →
      .invoked t' op' ∈ h₂ → n < n' := by
  have hc := consistent h
  obtain ⟨hdiffer, hlater⟩ := (counter channelId g).realTime hc.linearization
    (hc.executed_of_answered ht ha) (hc.executed_of_answered ht' ha') hn hn'
  exact ⟨fun hne => hdiffer fun heq => hne (Prod.mk.inj heq).1, hlater⟩

theorem granted_in_order_three_questions :
    ∃ (s : State Database Op Answer) (row row' : AgentMsgRow),
      s.history = asked row row' ∧ (row.seq : ℤ) < row'.seq := by
  obtain ⟨s, row, row', hr, hh, _⟩ := run_threeQuestions
  refine ⟨s, row, row', hh, ?_⟩
  have ht : .invoked 1 question ∈ s.history := by simp [hh, asked]
  have ht' : .invoked 3 question ∈ s.history := by simp [hh, asked]
  have ha : .answered 1 (.ok (.agentMsgs [row])) ∈ s.history := by simp [hh, asked]
  have ha' : .answered 3 (.ok (.agentMsgs [row'])) ∈ s.history := by simp [hh, asked]
  have hlater := (granted_in_order hr ht ht' ha ha' (List.mem_singleton_self _)
    (List.mem_singleton_self _)).2
  exact hlater [.invoked 1 question] _ _ hh (by simp)

end WalkieTalkie.Store.Calls
