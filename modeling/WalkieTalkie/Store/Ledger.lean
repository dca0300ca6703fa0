import WalkieTalkie.Store.Bus

/-! The message bus against its history: the log of all rows as they were enqueued. -/

namespace WalkieTalkie.Store

open Proto Lib

def sameSession (r r' : AgentMsgRow) : Prop :=
  r.groupName = r'.groupName ∧ r.sessionName = r'.sessionName

/-- At least `maxMsgsPerSession` messages of its session came after a row. -/
def Trimmed (log : List AgentMsgRow) (row : AgentMsgRow) : Prop :=
  ∃ later ∈ log, sameSession later row ∧ row.seq + maxMsgsPerSession ≤ later.seq

structure Ledger (table : BusTable) (log : List AgentMsgRow) : Prop where
  fresh : ∀ row ∈ log, row.consumedAtMs = none
  ascending : log.Pairwise fun r r' => sameSession r r' → r.seq < r'.seq
  logged : ∀ r ∈ table.rows, r.unconsumed ∈ log
  kept : ∀ row ∈ log, (∃ r ∈ table.rows, r.unconsumed = row) ∨ Trimmed log row
  last : ∀ row ∈ log, ∃ r ∈ table.rows, sameSession r row ∧ row.seq ≤ r.seq
  recent : ∀ r ∈ table.rows, ∀ later ∈ log, sameSession later r →
    later.seq < r.seq + maxMsgsPerSession

lemma Ledger.nodup {table : BusTable} {log : List AgentMsgRow} (h : Ledger table log) :
    (log.map AgentMsgRow.key).Nodup := by
  refine List.pairwise_map.mpr (h.ascending.imp fun {r r'} hlt hkey => ?_)
  obtain ⟨hg, hkey⟩ := Prod.mk.inj hkey
  obtain ⟨hs, hq⟩ := Prod.mk.inj hkey
  have hlt := hlt ⟨hg, hs⟩
  omega

lemma Ledger.eq_of_key {table : BusTable} {log : List AgentMsgRow} (h : Ledger table log)
    {r r' : AgentMsgRow} (hr : r ∈ log) (hr' : r' ∈ log) (hk : r.key = r'.key) : r = r' :=
  List.inj_on_of_nodup_map h.nodup hr hr' hk

lemma unconsumed_eq {r : AgentMsgRow} (h : r.consumedAtMs = none) : r.unconsumed = r := by
  cases r
  simp_all [AgentMsgRow.unconsumed]

lemma ledger_initial : Ledger Table.empty [] where
  fresh _ h := by cases h
  ascending := List.Pairwise.nil
  logged _ h := by cases h
  kept _ h := by cases h
  last _ h := by cases h
  recent _ h := by cases h

lemma Ledger.seq_le {table : BusTable} {log : List AgentMsgRow} (h : Ledger table log)
    {r : AgentMsgRow} (hr : r ∈ log) :
    r.seq ≤ table.lastSeq r.groupName r.sessionName := by
  obtain ⟨o, ho, ⟨hg, hs⟩, hle⟩ := h.last r hr
  have hlast : o.seq ≤ table.lastSeq r.groupName r.sessionName :=
    BusTable.seq_le_lastSeq ho (AgentMsgRow.inSession_iff.mpr ⟨hg, hs⟩)
  omega

lemma Ledger.seq_lt {table table' : BusTable} {log : List AgentMsgRow} (h : Ledger table log)
    {group session fromAgent toAgent : String} {kind : AgentMsgKind} {payload : Bytes}
    {now : UInt64} {row : AgentMsgRow}
    (henq : table.agentMsgEnqueue group session fromAgent toAgent kind payload now =
      .ok (table', row)) : ∀ r ∈ log, sameSession r row → r.seq < row.seq := by
  intro r hr ⟨hg, hs⟩
  have hrow := (BusTable.agentMsgEnqueue_ok henq).1
  have hle := h.seq_le hr
  have hseq : row.seq = table.lastSeq row.groupName row.sessionName + 1 := by simp [hrow]
  rw [hg, hs] at hle
  omega

lemma Ledger.enqueue {table table' : BusTable} {log : List AgentMsgRow} (h : Ledger table log)
    {group session fromAgent toAgent : String} {kind : AgentMsgKind} {payload : Bytes}
    {now : UInt64} {row : AgentMsgRow}
    (henq : table.agentMsgEnqueue group session fromAgent toAgent kind payload now =
      .ok (table', row)) : Ledger table' (log ++ [row]) := by
  obtain ⟨hrow, hmem⟩ := BusTable.agentMsgEnqueue_ok henq
  have hin : row.groupName = group ∧ row.sessionName = session := by simp [hrow]
  have hnone : row.consumedAtMs = none := by simp [hrow]
  have hcap : 0 < maxMsgsPerSession := by decide
  have hself : row ∈ table'.rows := (hmem row).mpr ⟨Or.inr rfl, by omega⟩
  have hnew : ∀ r ∈ log, sameSession r row → r.seq < row.seq := h.seq_lt henq
  have hlog : ∀ r ∈ log ++ [row], r ∈ log ∨ r = row := by simp
  refine ⟨fun r hr => ?_, ?_, fun r hr => ?_, fun r hr => ?_, fun r hr => ?_, fun r hr => ?_⟩
  · rcases hlog r hr with hr | rfl
    · exact h.fresh r hr
    · exact hnone
  · refine List.pairwise_append.mpr ⟨h.ascending, List.pairwise_singleton _ _, ?_⟩
    intro r hr r' hr'
    rw [List.mem_singleton.mp hr']
    exact hnew r hr
  · obtain ⟨hr | rfl, _⟩ := (hmem r).mp hr
    · exact List.mem_append_left _ (h.logged r hr)
    · rw [unconsumed_eq hnone]
      simp
  · rcases hlog r hr with hr | rfl
    · rcases h.kept r hr with ⟨o, ho, rfl⟩ | ⟨later, hl, hs, hle⟩
      · by_cases hcut : o.inSession group session ∧ o.seq + maxMsgsPerSession ≤ row.seq
        · obtain ⟨hg, hs⟩ := AgentMsgRow.inSession_iff.mp hcut.1
          refine Or.inr ⟨row, by simp, ⟨?_, ?_⟩, hcut.2⟩
          · exact hin.1.trans hg.symm
          · exact hin.2.trans hs.symm
        · exact Or.inl ⟨o, (hmem o).mpr ⟨Or.inl ho, hcut⟩, rfl⟩
      · exact Or.inr ⟨later, List.mem_append_left _ hl, hs, hle⟩
    · exact Or.inl ⟨r, hself, unconsumed_eq hnone⟩
  · rcases hlog r hr with hr | rfl
    · by_cases hs : sameSession r row
      · exact ⟨row, hself, ⟨hs.1.symm, hs.2.symm⟩, le_of_lt (hnew r hr hs)⟩
      · obtain ⟨o, ho, hso, hle⟩ := h.last r hr
        refine ⟨o, (hmem o).mpr ⟨Or.inl ho, fun hcut => hs ?_⟩, hso, hle⟩
        obtain ⟨hg, hse⟩ := AgentMsgRow.inSession_iff.mp hcut.1
        exact ⟨hso.1.symm.trans (hg.trans hin.1.symm), hso.2.symm.trans (hse.trans hin.2.symm)⟩
    · exact ⟨r, hself, ⟨rfl, rfl⟩, le_refl _⟩
  · intro later hl hs
    obtain ⟨hr, hcut⟩ := (hmem r).mp hr
    rcases hlog later hl with hold | rfl
    · rcases hr with hr | rfl
      · exact h.recent r hr later hold hs
      · have hlt := hnew later hold hs
        omega
    · by_contra hge
      refine hcut ⟨AgentMsgRow.inSession_iff.mpr ?_, by omega⟩
      exact ⟨hs.1.symm.trans hin.1, hs.2.symm.trans hin.2⟩

lemma Ledger.mark {table : BusTable} {log : List AgentMsgRow} (h : Ledger table log)
    (group session : String) (seq : ℕ) (now : UInt64) :
    Ledger (table.agentMsgMarkConsumed group session seq now) log := by
  have hold : ∀ r ∈ (table.agentMsgMarkConsumed group session seq now).rows,
      ∃ o ∈ table.rows, r.unconsumed = o.unconsumed := by
    intro r hr
    obtain ⟨o, ho, rfl⟩ := BusTable.mem_agentMsgMarkConsumed.mp hr
    exact ⟨o, ho, by split <;> rfl⟩
  have hnew : ∀ o ∈ table.rows, ∃ r ∈ (table.agentMsgMarkConsumed group session seq now).rows,
      r.unconsumed = o.unconsumed := by
    intro o ho
    exact ⟨_, BusTable.mem_agentMsgMarkConsumed.mpr ⟨o, ho, rfl⟩, by split <;> rfl⟩
  refine ⟨h.fresh, h.ascending, fun r hr => ?_, fun row hrow => ?_, fun row hrow => ?_,
    fun r hr later hl hs => ?_⟩
  · obtain ⟨o, ho, he⟩ := hold r hr
    exact he ▸ h.logged o ho
  · apply (h.kept row hrow).imp_left
    rintro ⟨o, ho, rfl⟩
    exact hnew o ho
  · obtain ⟨o, ho, hs, hle⟩ := h.last row hrow
    obtain ⟨r, hr, he⟩ := hnew o ho
    have hg : r.groupName = o.groupName := congrArg (fun r => r.groupName) he
    have hse : r.sessionName = o.sessionName := congrArg (fun r => r.sessionName) he
    have hq : r.seq = o.seq := congrArg (fun r => r.seq) he
    exact ⟨r, hr, ⟨hg.trans hs.1, hse.trans hs.2⟩, hq ▸ hle⟩
  · obtain ⟨o, ho, he⟩ := hold r hr
    have hg : r.groupName = o.groupName := congrArg (fun r => r.groupName) he
    have hse : r.sessionName = o.sessionName := congrArg (fun r => r.sessionName) he
    have hq : r.seq = o.seq := congrArg (fun r => r.seq) he
    rw [hq]
    exact h.recent o ho later hl ⟨hs.1.trans hg, hs.2.trans hse⟩

lemma BusTable.AgentMsgPending.strict {table : BusTable} {group toAgent : String}
    {kind : AgentMsgKind} {rows : List AgentMsgRow}
    (h : table.AgentMsgPending group toAgent kind rows)
    (hs : ∀ r ∈ rows, ∀ r' ∈ rows, r.sessionName = r'.sessionName) :
    rows.Pairwise fun r r' => r.seq < r'.seq := by
  have hnodup : rows.Nodup := h.1.nodup_iff.mpr ((List.Nodup.of_map _ table.nodup).filter _)
  refine (List.Pairwise.and hnodup h.2).imp_of_mem fun {r r'} hr hr' ⟨hne, hle⟩ => ?_
  refine lt_of_le_of_ne hle fun hseq => hne ?_
  obtain ⟨hmem, hg, _⟩ := BusTable.mem_pending.mp (h.mem_iff.mp hr)
  obtain ⟨hmem', hg', _⟩ := BusTable.mem_pending.mp (h.mem_iff.mp hr')
  apply table.eq_of_key hmem hmem'
  rw [AgentMsgRow.key, AgentMsgRow.key, hg, hg', hs r hr r' hr', hseq]

lemma Ledger.sublist_of_ascending {table : BusTable} {log rows : List AgentMsgRow}
    (h : Ledger table log) (hlog : ∀ r ∈ rows, r ∈ log)
    (hs : ∀ r ∈ rows, ∀ r' ∈ rows, sameSession r r')
    (hrows : rows.Pairwise fun r r' => r.seq < r'.seq) : rows.Sublist log := by
  have hfilter : (log.filter (· ∈ rows)).Pairwise fun r r' => r.seq < r'.seq := by
    refine (h.ascending.filter _).imp_of_mem fun {r r'} hr hr' hlt => hlt ?_
    exact hs r (by simpa using (List.mem_filter.mp hr).2) r' (by simpa using (List.mem_filter.mp hr').2)
  have hperm : rows.Perm (log.filter (· ∈ rows)) := by
    refine (List.perm_ext_iff_of_nodup ?_ ?_).mpr fun r => ?_
    · exact hrows.imp fun {r r'} hlt heq => by
        rw [heq] at hlt
        omega
    · exact (List.Nodup.of_map _ h.nodup).filter _
    · simp only [List.mem_filter, decide_eq_true_eq]
      exact ⟨fun hr => ⟨hlog r hr, hr⟩, fun hr => hr.2⟩
  have heq : rows = log.filter (· ∈ rows) := by
    refine hperm.eq_of_pairwise (fun r r' _ _ hlt hlt' => ?_) hrows hfilter
    omega
  rw [heq]
  exact List.filter_sublist

end WalkieTalkie.Store
