import Mathlib.Data.List.MinMax
import WalkieTalkie.Lib.Tables
import WalkieTalkie.Proto

/-! The local message bus of the store. Each session of a group has its own sequence numbers,
counted from one as natural numbers, and enqueuing deletes what is older than the retention cap.
One flag per row says that it has been consumed, whoever consumed it. -/

namespace WalkieTalkie.Store

open Proto Lib

structure AgentMsgRow where
  groupName : String
  sessionName : String
  seq : ℕ
  fromAgent : String
  toAgent : String
  kind : AgentMsgKind
  payload : Bytes
  enqueuedAtMs : UInt64
  consumedAtMs : Option UInt64
deriving DecidableEq

namespace AgentMsgRow

def key (r : AgentMsgRow) : String × String × ℕ := (r.groupName, r.sessionName, r.seq)

def unconsumed (r : AgentMsgRow) : AgentMsgRow := { r with consumedAtMs := none }

def consumedAt (now : UInt64) (r : AgentMsgRow) : AgentMsgRow := { r with consumedAtMs := some now }

def inSession (r : AgentMsgRow) (group session : String) : Bool :=
  r.groupName = group && r.sessionName = session

lemma key_consumedAt (now : UInt64) (r : AgentMsgRow) : (r.consumedAt now).key = r.key := rfl

lemma inSession_iff {r : AgentMsgRow} {group session : String} :
    r.inSession group session ↔ r.groupName = group ∧ r.sessionName = session := by
  simp [inSession]

end AgentMsgRow

abbrev BusTable := Table AgentMsgRow (String × String × ℕ) AgentMsgRow.key

def maxMsgsPerSession : ℕ := 5000

namespace BusTable

def lastSeq (t : BusTable) (group session : String) : ℕ :=
  ((t.rows.filter fun r => r.inSession group session).map AgentMsgRow.seq).max?.getD 0

def agentMsgEnqueue (t : BusTable) (group session fromAgent toAgent : String)
    (kind : AgentMsgKind) (payload : Bytes) (now : UInt64) :
    Except String (BusTable × AgentMsgRow) :=
  let next := t.lastSeq group session + 1
  let row : AgentMsgRow :=
    ⟨group, session, next, fromAgent, toAgent, kind, payload, now, none⟩
  match t.insert row with
  | none => .error ("UNIQUE constraint failed: agent_messages.group_name, " ++
      "agent_messages.session_name, agent_messages.seq")
  | some t' =>
    .ok (t'.delete fun r => r.inSession group session && r.seq + maxMsgsPerSession ≤ next, row)

def olderFirst (r r' : AgentMsgRow) : Prop :=
  r.enqueuedAtMs.toInt64 < r'.enqueuedAtMs.toInt64 ∨
    r.enqueuedAtMs.toInt64 = r'.enqueuedAtMs.toInt64 ∧ r.seq ≤ r'.seq

instance : DecidableRel olderFirst := fun _ _ => inferInstanceAs (Decidable (_ ∨ _ ∧ _))

instance : Std.Total olderFirst where
  total r r' := by
    simp only [olderFirst, Int64.lt_iff_toInt_lt, ← Int64.toInt_inj]
    omega

instance : IsTrans AgentMsgRow olderFirst where
  trans r r' r'' := by
    simp only [olderFirst, Int64.lt_iff_toInt_lt, ← Int64.toInt_inj]
    omega

instance : Std.Total fun r r' : AgentMsgRow => r.seq ≤ r'.seq :=
  ⟨fun r r' => Nat.le_total r.seq r'.seq⟩

instance : IsTrans AgentMsgRow fun r r' => r.seq ≤ r'.seq :=
  ⟨fun _ _ _ h h' => Nat.le_trans h h'⟩

def AgentMsgBacklog (t : BusTable) (group toAgent : String) (session : Option String)
    (afterMs : Option UInt64) (limit : ℕ) (unconsumedOnly : Bool) (answer : List AgentMsgRow) :
    Prop :=
  ∃ rows, OrderedBy olderFirst
    (t.rows.filter fun r => r.groupName = group && r.toAgent = toAgent &&
      session.all (r.sessionName = ·) && (afterMs.getD 0).toInt64 < r.enqueuedAtMs.toInt64 &&
      (!unconsumedOnly || r.consumedAtMs = none)) rows ∧ answer = rows.take limit

def backlogRows (t : BusTable) (group toAgent : String) (session : Option String)
    (afterMs : Option UInt64) (unconsumedOnly : Bool) : List AgentMsgRow :=
  t.rows.filter fun r => r.groupName = group && r.toAgent = toAgent &&
    session.all (r.sessionName = ·) && (afterMs.getD 0).toInt64 < r.enqueuedAtMs.toInt64 &&
    (!unconsumedOnly || r.consumedAtMs = none)

lemma agentMsgBacklog_iff {t : BusTable} {group toAgent : String} {session : Option String}
    {afterMs : Option UInt64} {limit : ℕ} {unconsumedOnly : Bool} {answer : List AgentMsgRow} :
    t.AgentMsgBacklog group toAgent session afterMs limit unconsumedOnly answer ↔
      ∃ rows, OrderedBy olderFirst (t.backlogRows group toAgent session afterMs unconsumedOnly)
        rows ∧ answer = rows.take limit :=
  Iff.rfl

def agentMsgMarkConsumed (t : BusTable) (group session : String) (seq : ℕ) (now : UInt64) :
    BusTable :=
  t.update (fun r => r.key = (group, session, seq)) (AgentMsgRow.consumedAt now)
    (AgentMsgRow.key_consumedAt now)

def pending (t : BusTable) (group toAgent : String) (kind : AgentMsgKind) : List AgentMsgRow :=
  t.rows.filter fun r =>
    r.groupName = group && r.toAgent = toAgent && r.kind = kind && r.consumedAtMs = none

/-- The answers `agent_msg_pending` may give: rows of different sessions with the same number come
in any order. -/
def AgentMsgPending (t : BusTable) (group toAgent : String) (kind : AgentMsgKind)
    (answer : List AgentMsgRow) : Prop :=
  OrderedBy (fun r r' => r.seq ≤ r'.seq) (t.pending group toAgent kind) answer

variable {t : BusTable} {group session : String}

lemma mem_pending {toAgent : String} {kind : AgentMsgKind} {r : AgentMsgRow} :
    r ∈ t.pending group toAgent kind ↔ r ∈ t.rows ∧ r.groupName = group ∧
      r.toAgent = toAgent ∧ r.kind = kind ∧ r.consumedAtMs = none := by
  simp [pending, and_assoc]

lemma mem_backlog {toAgent : String} {filter : Option String} {afterMs : Option UInt64}
    {limit : ℕ} {unconsumedOnly : Bool} {answer : List AgentMsgRow}
    (h : t.AgentMsgBacklog group toAgent filter afterMs limit unconsumedOnly answer)
    {r : AgentMsgRow} (hr : r ∈ answer) :
    r ∈ t.rows ∧ r.groupName = group ∧ r.toAgent = toAgent := by
  obtain ⟨rows, ho, rfl⟩ := h
  have hm := List.mem_filter.mp (ho.mem_iff.mp (List.mem_of_mem_take hr))
  refine ⟨hm.1, ?_⟩
  simp only [Bool.and_eq_true, decide_eq_true_eq] at hm
  exact hm.2.1.1.1

lemma seq_le_lastSeq {r : AgentMsgRow} (hr : r ∈ t.rows) (hs : r.inSession group session) :
    r.seq ≤ t.lastSeq group session := by
  have hmem : r.seq ∈ (t.rows.filter fun r => r.inSession group session).map AgentMsgRow.seq :=
    List.mem_map_of_mem (List.mem_filter.mpr ⟨hr, hs⟩)
  obtain ⟨m, hm⟩ := Option.isSome_iff_exists.mp (List.isSome_max?_of_mem hmem)
  rw [lastSeq, hm]
  exact (List.max?_eq_some_iff.mp hm).2 _ hmem

lemma agentMsgEnqueue_succeeds (t : BusTable) (group session fromAgent toAgent : String)
    (kind : AgentMsgKind) (payload : Bytes) (now : UInt64) :
    ∃ t' row, t.agentMsgEnqueue group session fromAgent toAgent kind payload now =
      .ok (t', row) := by
  let row : AgentMsgRow := ⟨group, session, t.lastSeq group session + 1, fromAgent, toAgent, kind,
    payload, now, none⟩
  have hnew : t.has row.key = false := by
    rw [Table.has_eq_false]
    intro r hr hk
    obtain ⟨hg, hk⟩ := Prod.mk.inj hk
    obtain ⟨hs, hq⟩ := Prod.mk.inj hk
    have hle : r.seq ≤ t.lastSeq group session :=
      seq_le_lastSeq hr (AgentMsgRow.inSession_iff.mpr ⟨hg, hs⟩)
    have hq : r.seq = t.lastSeq group session + 1 := hq
    omega
  obtain ⟨t', ht⟩ : ∃ t', t.insert row = some t' := by
    rw [Table.insert, dif_neg (by simp [hnew])]
    exact ⟨_, rfl⟩
  simp only [agentMsgEnqueue]
  rw [ht]
  exact ⟨_, _, rfl⟩

lemma agentMsgEnqueue_ok {t' : BusTable} {fromAgent toAgent : String} {kind : AgentMsgKind}
    {payload : Bytes} {now : UInt64} {row : AgentMsgRow}
    (h : t.agentMsgEnqueue group session fromAgent toAgent kind payload now = .ok (t', row)) :
    row = ⟨group, session, t.lastSeq group session + 1, fromAgent, toAgent, kind, payload, now,
      none⟩ ∧ ∀ r, r ∈ t'.rows ↔ (r ∈ t.rows ∨ r = row) ∧
        ¬ (r.inSession group session ∧ r.seq + maxMsgsPerSession ≤ row.seq) := by
  simp only [agentMsgEnqueue] at h
  split at h
  · cases h
  · next t'' hi =>
    obtain ⟨rfl, rfl⟩ := Prod.mk.inj (Except.ok.inj h)
    refine ⟨rfl, fun r => ?_⟩
    rw [Table.mem_delete, Table.insert_rows hi]
    simp

lemma agentMsgEnqueue_rows {t' : BusTable} {fromAgent toAgent : String} {kind : AgentMsgKind}
    {payload : Bytes} {now : UInt64} {row : AgentMsgRow}
    (h : t.agentMsgEnqueue group session fromAgent toAgent kind payload now = .ok (t', row))
    (hkept : ∀ r ∈ t.rows, t'.has r.key = true) : t'.rows = t.rows ++ [row] := by
  simp only [agentMsgEnqueue] at h
  split at h
  · cases h
  · next t'' hi =>
    obtain ⟨rfl, rfl⟩ := Prod.mk.inj (Except.ok.inj h)
    have hrows := Table.insert_rows hi
    refine (List.filter_eq_self.mpr fun r hr => ?_).trans hrows
    rw [hrows] at hr
    rcases List.mem_append.mp hr with hr | hr
    · obtain ⟨o, ho, hk⟩ := Table.has_eq_true.mp (hkept r hr)
      obtain ⟨ho, hp⟩ := Table.mem_delete.mp ho
      have hr' : r ∈ t''.rows := by
        rw [hrows]
        exact List.mem_append_left _ hr
      rw [← t''.eq_of_key ho hr' hk]
      exact (Bool.not_eq_true' _).mpr hp
    · rw [List.mem_singleton.mp hr]
      simp [maxMsgsPerSession]

lemma mem_agentMsgMarkConsumed {seq : ℕ} {now : UInt64} {r : AgentMsgRow} :
    r ∈ (t.agentMsgMarkConsumed group session seq now).rows ↔
      ∃ o ∈ t.rows, r = if o.key = (group, session, seq) then o.consumedAt now else o := by
  rw [agentMsgMarkConsumed, Table.mem_update]
  simp only [decide_eq_true_eq]

end BusTable

end WalkieTalkie.Store
