import WalkieTalkie.Store.Bus

/-! The bus as a sliding window. Whatever the order of enqueues, marks and reads over all groups and
sessions, the rows of a session are its newest messages, numbered without gaps by their place in the
history of the session. -/

namespace WalkieTalkie.Store.Window

open Proto Lib

structure Message where
  fromAgent : String
  toAgent : String
  kind : AgentMsgKind
  payload : Bytes
  enqueuedAtMs : UInt64
deriving DecidableEq

def message (r : AgentMsgRow) : Message :=
  ⟨r.fromAgent, r.toAgent, r.kind, r.payload, r.enqueuedAtMs⟩

/-- A call of the store. `enqueueFails` is an enqueue whose transaction is rolled back. -/
inductive Op
  | enqueue (group session : String) (m : Message)
  | enqueueFails (group session : String) (m : Message)
  | markConsumed (group session : String) (seq : ℕ) (now : UInt64)
  | read

def enqueue (t : BusTable) (group session : String) (m : Message) :
    Except String (BusTable × AgentMsgRow) :=
  t.agentMsgEnqueue group session m.fromAgent m.toAgent m.kind m.payload m.enqueuedAtMs

def apply (t : BusTable) : Op → BusTable
  | .enqueue group session m =>
    match enqueue t group session m with
    | .ok (t', _) => t'
    | .error _ => t
  | .enqueueFails _ _ _ => t
  | .markConsumed group session seq now => t.agentMsgMarkConsumed group session seq now
  | .read => t

def play (ops : List Op) : BusTable := ops.foldl apply Table.empty

def sentBy (group session : String) : Op → Option Message
  | .enqueue g s m => if g = group ∧ s = session then some m else none
  | _ => none

/-- The messages enqueued for a session, in order. -/
def sent (group session : String) (ops : List Op) : List Message :=
  ops.filterMap (sentBy group session)

/-- A mark of the message with this number, made when the message had been enqueued. -/
def Marked (group session : String) (seq : ℕ) (ops : List Op) : Prop :=
  ∃ before now after, ops = before ++ .markConsumed group session seq now :: after ∧
    seq ≤ (sent group session before).length

def touches (group session : String) : Op → Bool
  | .enqueue g s _ => g = group && s = session
  | .markConsumed g s _ _ => g = group && s = session
  | _ => false

def sessionRows (t : BusTable) (group session : String) : List AgentMsgRow :=
  t.rows.filter fun r => r.inSession group session

structure Holds (group session : String) (ops : List Op) (t : BusTable) : Prop where
  seqs : (sessionRows t group session).map AgentMsgRow.seq =
    List.range' ((sent group session ops).length - maxMsgsPerSession + 1)
      (min (sent group session ops).length maxMsgsPerSession)
  contents : ∀ r ∈ sessionRows t group session,
    (sent group session ops)[r.seq - 1]? = some (message r)
  marked : ∀ r ∈ sessionRows t group session,
    (r.consumedAtMs.isSome ↔ Marked group session r.seq ops)

variable {group session : String} {ops : List Op} {t : BusTable}

lemma range_slides (n m : ℕ) (hm : 0 < m) :
    (List.range' (n - m + 1) (min n m) ++ [n + 1]).filter (fun k => ¬ k + m ≤ n + 1) =
      List.range' (n + 1 - m + 1) (min (n + 1) m) := by
  by_cases hn : n < m
  · have hmin : min n m = n := by omega
    have hmin' : min (n + 1) m = n + 1 := by omega
    have hlo : n - m = 0 := by omega
    have hlo' : n + 1 - m = 0 := by omega
    rw [hmin, hmin', hlo, hlo', List.range'_1_concat, Nat.zero_add, Nat.add_comm 1 n]
    refine List.filter_eq_self.mpr fun k hk => ?_
    have hpos : 1 ≤ k := by
      simp only [List.mem_append, List.mem_range'_1, List.mem_singleton] at hk
      omega
    simp only [decide_eq_true_eq]
    omega
  · have hmin : min n m = m - 1 + 1 := by omega
    have hmin' : min (n + 1) m = m - 1 + 1 := by omega
    have hlo : n + 1 - m + 1 = n - m + 1 + 1 := by omega
    have hlast : n - m + 1 + 1 + (m - 1) = n + 1 := by omega
    have hcut : ¬ ¬ n - m + 1 + m ≤ n + 1 := by omega
    rw [hmin, hmin', hlo, List.range'_succ, List.cons_append,
      List.filter_cons_of_neg (by simpa using hcut), List.range'_1_concat, hlast]
    refine List.filter_eq_self.mpr fun k hk => ?_
    simp only [List.mem_append, List.mem_range'_1, List.mem_singleton] at hk
    simp only [decide_eq_true_eq]
    omega

lemma sent_snoc (op : Op) : sent group session (ops ++ [op]) =
    sent group session ops ++ (sentBy group session op).toList := by
  rw [sent, List.filterMap_append]
  cases h : sentBy group session op <;> simp [sent, h]

lemma sent_length_mono (before after : List Op) :
    (sent group session before).length ≤ (sent group session (before ++ after)).length := by
  rw [sent, sent, List.filterMap_append, List.length_append]
  omega

lemma mem_sessionRows {r : AgentMsgRow} :
    r ∈ sessionRows t group session ↔ r ∈ t.rows ∧ r.groupName = group ∧ r.sessionName = session := by
  rw [sessionRows, List.mem_filter, AgentMsgRow.inSession_iff]

lemma marked_snoc_other {seq : ℕ} {op : Op} (h : ∀ now, op ≠ .markConsumed group session seq now) :
    Marked group session seq (ops ++ [op]) ↔ Marked group session seq ops := by
  constructor
  · rintro ⟨before, now, after, he, hle⟩
    rcases List.eq_nil_or_concat after with rfl | ⟨rest, last, rfl⟩
    · obtain ⟨_, hop⟩ := List.append_inj' he rfl
      exact absurd (List.singleton_inj.mp hop) (h now)
    · rw [List.concat_eq_append, ← List.cons_append, ← List.append_assoc] at he
      obtain ⟨hops, _⟩ := List.append_inj' he rfl
      exact ⟨before, now, rest, hops, hle⟩
  · rintro ⟨before, now, after, rfl, hle⟩
    exact ⟨before, now, after ++ [op], by simp, hle⟩

lemma Marked.le {seq : ℕ} (h : Marked group session seq ops) :
    seq ≤ (sent group session ops).length := by
  obtain ⟨before, now, after, rfl, hle⟩ := h
  exact le_trans hle (sent_length_mono before _)

lemma Holds.seq_iff (h : Holds group session ops t) (k : ℕ) :
    (∃ r ∈ sessionRows t group session, r.seq = k) ↔
      1 ≤ k ∧ k ≤ (sent group session ops).length ∧
        (sent group session ops).length < k + maxMsgsPerSession := by
  have hmem : (∃ r ∈ sessionRows t group session, r.seq = k) ↔
      k ∈ (sessionRows t group session).map AgentMsgRow.seq := List.mem_map.symm
  rw [hmem, h.seqs, List.mem_range'_1]
  omega

lemma Holds.lastSeq (h : Holds group session ops t) :
    t.lastSeq group session = (sent group session ops).length := by
  have hcap : 0 < maxMsgsPerSession := by decide
  by_cases hn : (sent group session ops).length = 0
  · have hnil : (sessionRows t group session).map AgentMsgRow.seq = [] := by simp [h.seqs, hn]
    rw [BusTable.lastSeq, ← sessionRows, hnil, hn]
    rfl
  · obtain ⟨r, hr, hseq⟩ := (h.seq_iff (sent group session ops).length).mpr (by omega)
    apply le_antisymm
    · rw [BusTable.lastSeq, ← sessionRows]
      cases hm : ((sessionRows t group session).map AgentMsgRow.seq).max? with
      | none => exact Nat.zero_le _
      | some m =>
        have hmem := (List.max?_eq_some_iff.mp hm).1
        rw [h.seqs, List.mem_range'_1] at hmem
        simp only [Option.getD_some]
        omega
    · rw [← hseq]
      exact BusTable.seq_le_lastSeq (List.mem_filter.mp hr).1 (List.mem_filter.mp hr).2

lemma enqueue_ok (t : BusTable) (group session : String) (m : Message) :
    ∃ t' row, enqueue t group session m = .ok (t', row) ∧
      row = ⟨group, session, t.lastSeq group session + 1, m.fromAgent, m.toAgent, m.kind, m.payload,
        m.enqueuedAtMs, none⟩ ∧
      t'.rows = (t.rows ++ [row]).filter fun r =>
        !(r.inSession group session && r.seq + maxMsgsPerSession ≤ row.seq) := by
  obtain ⟨t', row, h⟩ := BusTable.agentMsgEnqueue_succeeds t group session m.fromAgent m.toAgent
    m.kind m.payload m.enqueuedAtMs
  refine ⟨t', row, h, (BusTable.agentMsgEnqueue_ok h).1, ?_⟩
  simp only [BusTable.agentMsgEnqueue] at h
  split at h
  · cases h
  · next t'' hi =>
    obtain ⟨rfl, rfl⟩ := Prod.mk.inj (Except.ok.inj h)
    simp only [Table.delete, Table.insert_rows hi]

lemma sessionRows_enqueue {t' : BusTable} {m : Message} {row : AgentMsgRow}
    (h : enqueue t group session m = .ok (t', row)) : sessionRows t' group session =
      (sessionRows t group session ++ [row]).filter fun r => ¬ r.seq + maxMsgsPerSession ≤ row.seq := by
  obtain ⟨u, o, he, hrow, hrows⟩ := enqueue_ok t group session m
  obtain ⟨rfl, rfl⟩ := Prod.mk.inj (Except.ok.inj (he.symm.trans h))
  have hin : o.inSession group session = true := by simp [hrow, AgentMsgRow.inSession]
  have hself : [o] = [o].filter fun r => r.inSession group session := by simp [hin]
  rw [sessionRows, sessionRows, hself, ← List.filter_append, hrows, List.filter_filter,
    List.filter_filter]
  refine List.filter_congr fun r _ => ?_
  by_cases hcut : r.seq + maxMsgsPerSession ≤ o.seq
  · simp [hcut]
  · simp [hcut]

lemma sessionRows_enqueue_other {t' : BusTable} {group' session' : String} {m : Message}
    {row : AgentMsgRow} (h : enqueue t group' session' m = .ok (t', row))
    (hne : ¬ (group' = group ∧ session' = session)) :
    sessionRows t' group session = sessionRows t group session := by
  obtain ⟨u, o, he, hrow, hrows⟩ := enqueue_ok t group' session' m
  obtain ⟨rfl, rfl⟩ := Prod.mk.inj (Except.ok.inj (he.symm.trans h))
  have hout : o.inSession group session = false := by
    simpa [hrow, AgentMsgRow.inSession] using hne
  rw [sessionRows, sessionRows, hrows, List.filter_filter, List.filter_append]
  simp only [List.filter_cons, hout, Bool.false_and, Bool.false_eq_true, if_false, List.filter_nil,
    List.append_nil]
  refine List.filter_congr fun r _ => ?_
  by_cases hr : r.inSession group session
  · obtain ⟨hg, hs⟩ := AgentMsgRow.inSession_iff.mp hr
    have hr' : r.inSession group' session' = false := by
      simp only [AgentMsgRow.inSession, hg, hs, Bool.and_eq_false_iff, decide_eq_false_iff_not]
      tauto
    simp [hr, hr']
  · simp [hr]

lemma sessionRows_mark (group' session' : String) (seq : ℕ) (now : UInt64) :
    sessionRows (t.agentMsgMarkConsumed group' session' seq now) group session =
      (sessionRows t group session).map fun r =>
        if r.key = (group', session', seq) then r.consumedAt now else r := by
  rw [sessionRows, sessionRows, BusTable.agentMsgMarkConsumed, Table.update, List.filter_map]
  simp only [decide_eq_true_eq]
  congr 1
  refine List.filter_congr fun r _ => ?_
  rw [Function.comp_apply]
  split <;> rfl

lemma sessionRows_mark_other {group' session' : String} {seq : ℕ} {now : UInt64}
    (hne : ¬ (group' = group ∧ session' = session)) :
    sessionRows (t.agentMsgMarkConsumed group' session' seq now) group session =
      sessionRows t group session := by
  rw [sessionRows_mark]
  refine (List.map_congr_left fun r hr => ?_).trans (List.map_id _)
  obtain ⟨_, hg, hs⟩ := mem_sessionRows.mp hr
  refine if_neg fun hk => hne ?_
  obtain ⟨hkg, hk⟩ := Prod.mk.inj hk
  exact ⟨hkg.symm.trans hg, (Prod.mk.inj hk).1.symm.trans hs⟩

lemma sessionRows_apply_other {op : Op} (h : touches group session op = false) :
    sessionRows (apply t op) group session = sessionRows t group session := by
  cases op with
  | enqueue group' session' m =>
    obtain ⟨t', row, he, _⟩ := enqueue_ok t group' session' m
    rw [apply, he]
    exact sessionRows_enqueue_other he (by simpa [touches] using h)
  | enqueueFails => rfl
  | markConsumed group' session' seq now => exact sessionRows_mark_other (by simpa [touches] using h)
  | read => rfl

lemma Holds.apply_other {op : Op} (h : Holds group session ops t)
    (hop : touches group session op = false) : Holds group session (ops ++ [op]) (apply t op) := by
  have hsent : sent group session (ops ++ [op]) = sent group session ops := by
    rw [sent_snoc]
    cases op with
    | enqueue group' session' m => simpa [sentBy, touches] using hop
    | _ => simp [sentBy]
  have hmarks : ∀ seq, Marked group session seq (ops ++ [op]) ↔ Marked group session seq ops := by
    intro seq
    apply marked_snoc_other
    rintro now rfl
    simp [touches] at hop
  have hrows := sessionRows_apply_other (t := t) hop
  refine ⟨?_, fun r hr => ?_, fun r hr => ?_⟩
  · rw [hrows, hsent]
    exact h.seqs
  · rw [hsent]
    exact h.contents r (hrows ▸ hr)
  · rw [hmarks]
    exact h.marked r (hrows ▸ hr)

lemma Holds.enqueue (h : Holds group session ops t) (m : Message) :
    Holds group session (ops ++ [.enqueue group session m])
      (apply t (.enqueue group session m)) := by
  have hcap : 0 < maxMsgsPerSession := by decide
  obtain ⟨t', row, he, hrow, _⟩ := enqueue_ok t group session m
  have hseq : row.seq = (sent group session ops).length + 1 := by simp [hrow, h.lastSeq]
  have happly : apply t (.enqueue group session m) = t' := by rw [apply, he]
  have hsent : sent group session (ops ++ [.enqueue group session m]) =
      sent group session ops ++ [m] := by
    rw [sent_snoc]
    simp [sentBy]
  have hrows := sessionRows_enqueue he
  have hcases : ∀ r ∈ sessionRows t' group session, r ∈ sessionRows t group session ∨ r = row := by
    intro r hr
    rw [hrows] at hr
    simpa using (List.mem_filter.mp hr).1
  rw [happly]
  refine ⟨?_, fun r hr => ?_, fun r hr => ?_⟩
  · have hmap := range_slides (sent group session ops).length maxMsgsPerSession hcap
    rw [hrows, hsent, List.length_append, List.length_singleton, ← hmap, ← h.seqs, ← hseq,
      ← List.map_singleton, ← List.map_append, List.filter_map]
    rfl
  · rw [hsent]
    rcases hcases r hr with hr | rfl
    · have hget := h.contents r hr
      obtain ⟨hlt, _⟩ := List.getElem?_eq_some_iff.mp hget
      rw [List.getElem?_append_left hlt]
      exact hget
    · rw [hseq, Nat.add_sub_cancel, List.getElem?_append_right (le_refl _)]
      simp [hrow, message]
  · rw [marked_snoc_other (by simp)]
    rcases hcases r hr with hr | rfl
    · exact h.marked r hr
    · refine ⟨fun hsome => by simp [hrow] at hsome, fun hm => ?_⟩
      have hle := hm.le
      omega

lemma Holds.mark (h : Holds group session ops t) (seq : ℕ) (now : UInt64) :
    Holds group session (ops ++ [.markConsumed group session seq now])
      (apply t (.markConsumed group session seq now)) := by
  have hsent : sent group session (ops ++ [.markConsumed group session seq now]) =
      sent group session ops := by
    rw [sent_snoc]
    simp [sentBy]
  have hrows : sessionRows (t.agentMsgMarkConsumed group session seq now) group session = _ :=
    sessionRows_mark group session seq now
  have hold : ∀ r ∈ sessionRows (apply t (.markConsumed group session seq now)) group session,
      ∃ o ∈ sessionRows t group session,
        r = if o.key = (group, session, seq) then o.consumedAt now else o := by
    intro r hr
    rw [apply, hrows] at hr
    obtain ⟨o, ho, rfl⟩ := List.mem_map.mp hr
    exact ⟨o, ho, rfl⟩
  refine ⟨?_, fun r hr => ?_, fun r hr => ?_⟩
  · rw [hsent, ← h.seqs, apply, hrows, List.map_map]
    refine List.map_congr_left fun r _ => ?_
    rw [Function.comp_apply]
    split <;> rfl
  · rw [hsent]
    obtain ⟨o, ho, rfl⟩ := hold r hr
    split
    · exact h.contents o ho
    · exact h.contents o ho
  · obtain ⟨o, ho, rfl⟩ := hold r hr
    obtain ⟨_, hg, hs⟩ := mem_sessionRows.mp ho
    split
    · next hk =>
      have hseq : o.seq = seq := (Prod.mk.inj (Prod.mk.inj hk).2).2
      have hle := ((h.seq_iff o.seq).mp ⟨o, ho, rfl⟩).2.1
      refine ⟨fun _ => ⟨ops, now, [], by simp [AgentMsgRow.consumedAt, hseq], ?_⟩, fun _ => rfl⟩
      exact hle
    · next hk =>
      rw [marked_snoc_other]
      · exact h.marked o ho
      · intro now' hop
        have hseq : seq = o.seq := (Op.markConsumed.inj hop).2.2.1
        exact hk (by rw [AgentMsgRow.key, hg, hs, hseq])

lemma play_snoc (op : Op) : play (ops ++ [op]) = apply (play ops) op := by
  rw [play, List.foldl_append]
  rfl

lemma holds_play (group session : String) (ops : List Op) : Holds group session ops (play ops) := by
  induction ops using List.reverseRecOn with
  | nil => exact ⟨rfl, fun r hr => (by cases hr), fun r hr => (by cases hr)⟩
  | append_singleton ops op ih =>
    rw [play_snoc]
    by_cases hop : touches group session op = false
    · exact ih.apply_other hop
    · cases op with
      | enqueue g s m =>
        obtain ⟨rfl, rfl⟩ : g = group ∧ s = session := by simpa [touches] using hop
        exact ih.enqueue m
      | markConsumed g s seq now =>
        obtain ⟨rfl, rfl⟩ : g = group ∧ s = session := by simpa [touches] using hop
        exact ih.mark seq now
      | enqueueFails => exact absurd rfl hop
      | read => exact absurd rfl hop

theorem session_is_sliding_window (ops : List Op) (group session : String) :
    (∀ m, enqueue (play ops) group session m =
      .ok (play (ops ++ [.enqueue group session m]),
        ⟨group, session, (sent group session ops).length + 1, m.fromAgent, m.toAgent, m.kind,
          m.payload, m.enqueuedAtMs, none⟩)) ∧
    (sessionRows (play ops) group session).map AgentMsgRow.seq =
      List.range' ((sent group session ops).length - maxMsgsPerSession + 1)
        (min (sent group session ops).length maxMsgsPerSession) ∧
    (∀ r ∈ sessionRows (play ops) group session,
      (sent group session ops)[r.seq - 1]? = some (message r) ∧
      (r.consumedAtMs.isSome ↔ Marked group session r.seq ops)) ∧
    (∀ op, touches group session op = false →
      sessionRows (play (ops ++ [op])) group session = sessionRows (play ops) group session) ∧
    ∀ seq, 1 ≤ seq → seq ≤ (sent group session ops).length →
      (∀ r ∈ sessionRows (play ops) group session, r.seq ≠ seq) →
      seq + maxMsgsPerSession ≤ (sent group session ops).length := by
  have h := holds_play group session ops
  refine ⟨fun m => ?_, h.seqs, fun r hr => ⟨h.contents r hr, h.marked r hr⟩, fun op hop => ?_,
    fun seq hpos hle hgone => ?_⟩
  · obtain ⟨t', row, he, hrow, _⟩ := enqueue_ok (play ops) group session m
    rw [play_snoc, apply, he, hrow, h.lastSeq]
  · rw [play_snoc]
    exact sessionRows_apply_other hop
  · by_contra hlt
    obtain ⟨r, hr, hseq⟩ := (h.seq_iff seq).mpr (by omega)
    exact hgone r hr hseq

end WalkieTalkie.Store.Window
