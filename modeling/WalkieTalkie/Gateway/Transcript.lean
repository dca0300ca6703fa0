import WalkieTalkie.Lib.Runs
import WalkieTalkie.Lib.Signed
import WalkieTalkie.Lib.Utf8
import WalkieTalkie.Store.Ledger

/-! The transcript of a session. The query compares sequence numbers with a cursor that is cast from
u64 to i64, so it is exact for every cursor below 2^63 and answers everything from there on. A client
of the gateway polls it from zero with the last number it received, while the log grows at one end and
is trimmed at the other. -/

namespace WalkieTalkie.Gateway

open Proto Store Lib Lib.Runs

def sessionRows (t : BusTable) (group session : String) (after : UInt64) : List AgentMsgRow :=
  t.rows.filter fun r => r.inSession group session && after.toInt64.toInt < (r.seq : ℤ)

def agentMsgSessionLog (t : BusTable) (group session : String) (after : UInt64) : List AgentMsgRow :=
  orderBy (fun r r' => r.seq ≤ r'.seq) (sessionRows t group session after)

/-- The rows above the cursor, each of them once and in order. -/
structure ExactLog (t : BusTable) (group session : String) (after : UInt64)
    (answer : List AgentMsgRow) : Prop where
  ascending : answer.Pairwise fun r r' => r.seq < r'.seq
  rows : ∀ r, r ∈ answer ↔
    r ∈ t.rows ∧ r.groupName = group ∧ r.sessionName = session ∧ after.toNat < r.seq

structure Shown where
  seq : UInt64
  fromAgent : String
  toAgent : String
  kind : AgentMsgKind
  text : String
  tsMs : UInt64
deriving DecidableEq

def shown (m : AgentMsgRow) : Shown :=
  ⟨m.seq.toUInt64, m.fromAgent, m.toAgent, m.kind, Utf8.fromUtf8Lossy m.payload, m.enqueuedAtMs⟩

def listMessages (t : BusTable) (group session : String) (after : UInt64) : List Shown :=
  (agentMsgSessionLog t group session after).map shown

structure Polling where
  bus : BusTable
  log : List AgentMsgRow
  after : UInt64
  received : List Shown

def polling : Polling := ⟨Table.empty, [], 0, []⟩

inductive Happens
  | enqueue (group session fromAgent toAgent : String) (kind : AgentMsgKind) (payload : Bytes)
      (now : UInt64)
  | mark (group session : String) (seq : ℕ) (now : UInt64)
  | poll

/-- The column of the sequence numbers is an i64: a number that does not fit is not assigned. -/
def happen (group session : String) (st : Polling) : Happens → Option Polling
  | .enqueue g s fromAgent toAgent kind payload now =>
    if st.bus.lastSeq g s + 1 < 2 ^ 63 then
      match st.bus.agentMsgEnqueue g s fromAgent toAgent kind payload now with
      | .error _ => none
      | .ok (bus, row) => some { st with bus, log := st.log ++ [row] }
    else none
  | .mark g s seq now => some { st with bus := st.bus.agentMsgMarkConsumed g s seq now }
  | .poll =>
    let answer := listMessages st.bus group session st.after
    some { st with
      received := st.received ++ answer
      after := (answer.getLast?.map Shown.seq).getD st.after }

variable {t : BusTable} {group session : String} {after : UInt64} {st st' : Polling}

lemma mem_sessionLog {r : AgentMsgRow} : r ∈ agentMsgSessionLog t group session after ↔
    r ∈ t.rows ∧ r.groupName = group ∧ r.sessionName = session ∧
      after.toInt64.toInt < (r.seq : ℤ) := by
  rw [agentMsgSessionLog, (orderBy_orderedBy _ _).mem_iff, sessionRows, List.mem_filter,
    Bool.and_eq_true, AgentMsgRow.inSession_iff, decide_eq_true_eq, and_assoc]

lemma sessionLog_ascending :
    (agentMsgSessionLog t group session after).Pairwise fun r r' => r.seq < r'.seq := by
  obtain ⟨hperm, hsorted⟩ := orderBy_orderedBy (fun r r' : AgentMsgRow => r.seq ≤ r'.seq)
    (sessionRows t group session after)
  have hnodup : (agentMsgSessionLog t group session after).Nodup :=
    hperm.nodup_iff.mpr ((List.Nodup.of_map _ t.nodup).filter _)
  refine (List.Pairwise.and hnodup hsorted).imp_of_mem fun {r r'} hr hr' hboth => ?_
  obtain ⟨hmem, hg, hs, _⟩ := mem_sessionLog.mp hr
  obtain ⟨hmem', hg', hs', _⟩ := mem_sessionLog.mp hr'
  refine Nat.lt_of_le_of_ne hboth.2 fun hseq => hboth.1 (t.eq_of_key hmem hmem' ?_)
  rw [AgentMsgRow.key, AgentMsgRow.key, hg, hg', hs, hs', hseq]

/-- The cast keeps the comparison below 2^63; a greater cursor is negative and lets everything by. -/
lemma cast_lt (seq : ℕ) : after.toInt64.toInt < (seq : ℤ) ↔
    after.toNat < seq ∨ 2 ^ 63 ≤ after.toNat := by
  have hlt := after.toNat_lt
  rw [Signed.toInt_toInt64]
  split
  · omega
  · omega

lemma exactLog_iff : ExactLog t group session after (agentMsgSessionLog t group session after) ↔
    after.toNat < 2 ^ 63 ∨ ∀ r ∈ t.rows, r.groupName = group → r.sessionName = session →
      after.toNat < r.seq := by
  constructor
  · intro h
    by_contra hnot
    rw [not_or, not_lt] at hnot
    refine hnot.2 fun r hr hg hs => ?_
    exact ((h.rows r).mp (mem_sessionLog.mpr ⟨hr, hg, hs, (cast_lt _).mpr (Or.inr hnot.1)⟩)).2.2.2
  · intro h
    refine ⟨sessionLog_ascending, fun r => mem_sessionLog.trans ?_⟩
    refine and_congr_right fun hr => and_congr_right fun hg => and_congr_right fun hs => ?_
    rw [cast_lt]
    refine or_iff_left_of_imp fun hlarge => ?_
    exact (h.resolve_left (Nat.not_lt.mpr hlarge)) r hr hg hs

inductive Happened (group session : String) (st : Polling) : Happens → Polling → Prop
  | enqueue {g s fromAgent toAgent kind payload now bus row}
      (hfits : st.bus.lastSeq g s + 1 < 2 ^ 63)
      (h : st.bus.agentMsgEnqueue g s fromAgent toAgent kind payload now = .ok (bus, row)) :
      Happened group session st (.enqueue g s fromAgent toAgent kind payload now)
        { st with bus, log := st.log ++ [row] }
  | mark {g s seq now} : Happened group session st (.mark g s seq now)
      { st with bus := st.bus.agentMsgMarkConsumed g s seq now }
  | poll : Happened group session st .poll
      { st with
        received := st.received ++ listMessages st.bus group session st.after
        after := ((listMessages st.bus group session st.after).getLast?.map Shown.seq).getD st.after }

lemma happen_happened {l : Happens} (h : happen group session st l = some st') :
    Happened group session st l st' := by
  cases l with
  | enqueue g s fromAgent toAgent kind payload now =>
    simp only [happen] at h
    split at h
    · next hfits =>
      split at h
      · cases h
      · next henq =>
        obtain rfl := Option.some.inj h
        exact .enqueue hfits henq
    · cases h
  | mark g s seq now =>
    obtain rfl := Option.some.inj h
    exact .mark
  | poll =>
    obtain rfl := Option.some.inj h
    exact .poll

structure FollowsLog (group session : String) (st : Polling) : Prop where
  ledger : Ledger st.bus st.log
  fits : ∀ r ∈ st.log, r.seq < 2 ^ 63
  source : st.after.toNat = 0 ∨
    ∃ r ∈ st.log, r.groupName = group ∧ r.sessionName = session ∧ r.seq = st.after.toNat
  reached : ∀ m ∈ st.received, m.seq.toNat ≤ st.after.toNat
  ascending : st.received.Pairwise fun m m' => m.seq.toNat < m'.seq.toNat
  logged : ∀ m ∈ st.received, ∃ r ∈ st.log, r.groupName = group ∧ r.sessionName = session ∧ shown r = m
  complete : ∀ r ∈ st.log, r.groupName = group → r.sessionName = session →
    r.seq ≤ st.after.toNat → shown r ∈ st.received ∨ Trimmed st.log r

lemma shown_unconsumed (r : AgentMsgRow) : shown r.unconsumed = shown r := rfl

lemma shown_seq {r : AgentMsgRow} (h : r.seq < 2 ^ 63) : (shown r).seq.toNat = r.seq :=
  UInt64.toNat_ofNat_of_lt' (Nat.lt_trans h (by decide))

lemma trimmed_grow {log : List AgentMsgRow} {r : AgentMsgRow} (h : Trimmed log r)
    (row : AgentMsgRow) : Trimmed (log ++ [row]) r := by
  obtain ⟨later, hlater, hs, hle⟩ := h
  exact ⟨later, List.mem_append_left _ hlater, hs, hle⟩

lemma trimmed_absent {bus : BusTable} {log : List AgentMsgRow} (h : Ledger bus log) {r : AgentMsgRow}
    (htrim : Trimmed log r) : ∀ o ∈ bus.rows, o.unconsumed ≠ r := by
  rintro o ho rfl
  obtain ⟨later, hlater, hs, hle⟩ := htrim
  exact absurd (h.recent o ho later hlater hs) (Nat.not_lt.mpr hle)

lemma followsLog_initial : FollowsLog group session polling :=
  ⟨ledger_initial, fun _ hr => (by cases hr), Or.inl rfl, fun _ hm => (by cases hm), List.Pairwise.nil,
    fun _ hm => (by cases hm), fun _ hr => (by cases hr)⟩

lemma FollowsLog.seq_lt (h : FollowsLog group session st) {r : AgentMsgRow} (hr : r ∈ st.bus.rows) :
    r.seq < 2 ^ 63 :=
  h.fits r.unconsumed (h.ledger.logged r hr)

lemma FollowsLog.cursor (h : FollowsLog group session st) : st.after.toNat < 2 ^ 63 := by
  rcases h.source with hzero | ⟨r, hr, _, _, hseq⟩
  · omega
  · have hfits := h.fits r hr
    omega

lemma FollowsLog.mem_answer (h : FollowsLog group session st) {m : Shown} :
    m ∈ listMessages st.bus group session st.after ↔ ∃ r ∈ st.bus.rows, r.groupName = group ∧
      r.sessionName = session ∧ st.after.toNat < r.seq ∧ shown r = m := by
  have hexact : ExactLog st.bus group session st.after _ := exactLog_iff.mpr (Or.inl h.cursor)
  rw [listMessages, List.mem_map]
  constructor
  · rintro ⟨r, hr, rfl⟩
    obtain ⟨hmem, hg, hs, hlt⟩ := (hexact.rows r).mp hr
    exact ⟨r, hmem, hg, hs, hlt, rfl⟩
  · rintro ⟨r, hmem, hg, hs, hlt, rfl⟩
    exact ⟨r, (hexact.rows r).mpr ⟨hmem, hg, hs, hlt⟩, rfl⟩

lemma FollowsLog.answer_ascending (h : FollowsLog group session st) :
    (listMessages st.bus group session st.after).Pairwise fun m m' => m.seq.toNat < m'.seq.toNat := by
  refine List.pairwise_map.mpr (sessionLog_ascending.imp_of_mem fun {r r'} hr hr' hlt => ?_)
  rw [shown_seq (h.seq_lt (mem_sessionLog.mp hr).1), shown_seq (h.seq_lt (mem_sessionLog.mp hr').1)]
  exact hlt

lemma FollowsLog.cursor_poll (h : FollowsLog group session st) :
    let answer := listMessages st.bus group session st.after
    let after := (answer.getLast?.map Shown.seq).getD st.after
    (after = st.after ∨ ∃ r ∈ st.bus.rows, r.groupName = group ∧ r.sessionName = session ∧
      r.seq = after.toNat) ∧ st.after.toNat ≤ after.toNat ∧ ∀ m ∈ answer, m.seq.toNat ≤ after.toNat := by
  intro answer after
  rcases List.eq_nil_or_concat answer with hnil | ⟨front, last, hconcat⟩
  · have hafter : after = st.after := by simp [after, hnil]
    rw [hafter, hnil]
    exact ⟨Or.inl rfl, Nat.le_refl _, fun _ hm => (by cases hm)⟩
  · have hafter : after = last.seq := by simp [after, hconcat]
    have hlast : last ∈ answer := by simp [hconcat]
    obtain ⟨r, hr, hg, hs, hlt, rfl⟩ := h.mem_answer.mp hlast
    have hascending : answer.Pairwise fun m m' => m.seq.toNat < m'.seq.toNat := h.answer_ascending
    rw [hconcat, List.concat_eq_append] at hascending
    rw [hafter, shown_seq (h.seq_lt hr)]
    refine ⟨Or.inr ⟨r, hr, hg, hs, rfl⟩, Nat.le_of_lt hlt, fun m hm => ?_⟩
    rw [hconcat, List.concat_eq_append] at hm
    rcases List.mem_append.mp hm with hm | hm
    · have hbefore := (List.pairwise_append.mp hascending).2.2 m hm _ (List.mem_singleton_self _)
      rw [shown_seq (h.seq_lt hr)] at hbefore
      exact Nat.le_of_lt hbefore
    · rw [List.mem_singleton.mp hm, shown_seq (h.seq_lt hr)]

/-- Right after a poll every message logged so far has been received or was trimmed before it. -/
lemma FollowsLog.poll_complete (h : FollowsLog group session st) {r : AgentMsgRow} (hr : r ∈ st.log)
    (hg : r.groupName = group) (hs : r.sessionName = session) :
    shown r ∈ st.received ++ listMessages st.bus group session st.after ∨ Trimmed st.log r := by
  by_cases hle : r.seq ≤ st.after.toNat
  · exact (h.complete r hr hg hs hle).imp_left (List.mem_append_left _)
  · refine (h.ledger.kept r hr).imp_left ?_
    rintro ⟨o, ho, rfl⟩
    exact List.mem_append_right _ (h.mem_answer.mpr ⟨o, ho, hg, hs, Nat.lt_of_not_le hle, rfl⟩)

lemma FollowsLog.poll (h : FollowsLog group session st) : FollowsLog group session
    { st with
      received := st.received ++ listMessages st.bus group session st.after
      after := ((listMessages st.bus group session st.after).getLast?.map Shown.seq).getD st.after } := by
  obtain ⟨hcursor, hgrows, hanswer⟩ := h.cursor_poll
  refine ⟨h.ledger, h.fits, ?_, fun m hm => ?_, ?_, fun m hm => ?_,
    fun r hr hg hs _ => h.poll_complete hr hg hs⟩
  · rcases hcursor with hsame | ⟨r, hr, hg, hs, hseq⟩
    · rw [hsame]
      exact h.source
    · exact Or.inr ⟨r.unconsumed, h.ledger.logged r hr, hg, hs, hseq⟩
  · rcases List.mem_append.mp hm with hm | hm
    · exact Nat.le_trans (h.reached m hm) hgrows
    · exact hanswer m hm
  · refine List.pairwise_append.mpr ⟨h.ascending, h.answer_ascending, fun m hm m' hm' => ?_⟩
    obtain ⟨r, hr, _, _, hlt, rfl⟩ := h.mem_answer.mp hm'
    rw [shown_seq (h.seq_lt hr)]
    exact Nat.lt_of_le_of_lt (h.reached m hm) hlt
  · rcases List.mem_append.mp hm with hm | hm
    · exact h.logged m hm
    · obtain ⟨r, hr, hg, hs, _, rfl⟩ := h.mem_answer.mp hm
      exact ⟨r.unconsumed, h.ledger.logged r hr, hg, hs, shown_unconsumed r⟩

lemma FollowsLog.enqueue (h : FollowsLog group session st) {g s fromAgent toAgent : String}
    {kind : AgentMsgKind} {payload : Bytes} {now : UInt64} {bus : BusTable} {row : AgentMsgRow}
    (hfits : st.bus.lastSeq g s + 1 < 2 ^ 63)
    (henq : st.bus.agentMsgEnqueue g s fromAgent toAgent kind payload now = .ok (bus, row)) :
    FollowsLog group session { st with bus, log := st.log ++ [row] } := by
  have hseq : row.seq = st.bus.lastSeq g s + 1 := by rw [(BusTable.agentMsgEnqueue_ok henq).1]
  have hnew : row.groupName = group → row.sessionName = session → st.after.toNat < row.seq := by
    intro hg hs
    rcases h.source with hzero | ⟨r, hr, hg', hs', hlast⟩
    · omega
    · have hlt := h.ledger.seq_lt henq r hr ⟨hg'.trans hg.symm, hs'.trans hs.symm⟩
      omega
  refine ⟨h.ledger.enqueue henq, forall_mem_snoc h.fits (by omega), ?_, h.reached, h.ascending,
    fun m hm => ?_, fun r hr hg hs hle => ?_⟩
  · refine h.source.imp_right ?_
    rintro ⟨r, hr, hlast⟩
    exact ⟨r, List.mem_append_left _ hr, hlast⟩
  · obtain ⟨r, hr, hshown⟩ := h.logged m hm
    exact ⟨r, List.mem_append_left _ hr, hshown⟩
  · rcases List.mem_append.mp hr with hr | hr
    · exact (h.complete r hr hg hs hle).imp_right fun htrim => trimmed_grow htrim row
    · rw [List.mem_singleton.mp hr] at hg hs hle
      exact absurd hle (Nat.not_le.mpr (hnew hg hs))

lemma FollowsLog.happened {l : Happens} (h : FollowsLog group session st)
    (hstep : Happened group session st l st') : FollowsLog group session st' := by
  cases hstep with
  | enqueue hfits henq => exact h.enqueue hfits henq
  | mark => exact ⟨h.ledger.mark .., h.fits, h.source, h.reached, h.ascending, h.logged, h.complete⟩
  | poll => exact h.poll

structure ReceivedInOrder (group session : String) (st : Polling) : Prop where
  ascending : st.received.Pairwise fun m m' => m.seq < m'.seq
  logged : ∀ m ∈ st.received, ∃ r ∈ st.log, r.groupName = group ∧ r.sessionName = session ∧ shown r = m

theorem transcript_exact_below_the_sign (group session : String) :
    (∀ t after,
      ExactLog t group session after (agentMsgSessionLog t group session after) ↔
        after.toNat < 2 ^ 63 ∨ ∀ r ∈ t.rows, r.groupName = group → r.sessionName = session →
          after.toNat < r.seq) ∧
    ∀ ls st, Run (Fires (happen group session)) polling ls st →
      ReceivedInOrder group session st ∧
      ∀ st', happen group session st .poll = some st' → st.received <+: st'.received ∧
        ∀ r ∈ st.log, r.groupName = group → r.sessionName = session →
          shown r ∈ st'.received ∨
          ((∀ o ∈ st.bus.rows, o.unconsumed ≠ r) ∧ Trimmed st.log r) := by
  refine ⟨fun _ _ => exactLog_iff, fun ls st hrun => ?_⟩
  have h : FollowsLog group session st := hrun.invariant
    (fun _ _ _ hi hs => FollowsLog.happened hi (happen_happened hs)) followsLog_initial
  refine ⟨⟨h.ascending, h.logged⟩, fun st' hpoll => ?_⟩
  obtain rfl := Option.some.inj hpoll
  refine ⟨List.prefix_append .., fun r hr hg hs => ?_⟩
  exact (h.poll_complete hr hg hs).imp_right fun htrim => ⟨trimmed_absent h.ledger htrim, htrim⟩

/-- The smallest cursor that the cast turns negative. -/
def signCursor : UInt64 := 9223372036854775808

theorem large_cursor_answers_everything : ∃ st r, happen "team" "dev" polling
      (.enqueue "team" "dev" "prime" "dev" .turnInput [104, 105] 5) = some st ∧
    r ∈ agentMsgSessionLog st.bus "team" "dev" signCursor ∧ ¬ signCursor.toNat < r.seq := by
  have heval : (happen "team" "dev" polling
      (.enqueue "team" "dev" "prime" "dev" .turnInput [104, 105] 5)).map (fun st =>
        (agentMsgSessionLog st.bus "team" "dev" signCursor).map AgentMsgRow.seq) = some [1] := by
    decide +kernel
  obtain ⟨st, hst, hmap⟩ := Option.map_eq_some_iff.mp heval
  obtain ⟨r, hr, hseq⟩ : ∃ r ∈ agentMsgSessionLog st.bus "team" "dev" signCursor, r.seq = 1 :=
    List.mem_map.mp (by rw [hmap]; exact List.mem_singleton_self _)
  refine ⟨st, r, hst, hr, ?_⟩
  rw [hseq]
  decide +kernel

end WalkieTalkie.Gateway
