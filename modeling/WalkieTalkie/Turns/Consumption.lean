import WalkieTalkie.Turns.System

/-! Who takes a turn input away. The consumed flag of a row is set by the supervisor that fed it,
by the spawn that recorded the prompt, and by consuming `AgentRecv` requests, which select rows by
their recipient alone. -/

namespace WalkieTalkie.Turns.Consumption

open Proto Store Lib Lib.Runs

variable {S : Setting} {st st' : State} {l : Label}

def MarksNoTurnInput (S : Setting) (st : State) : Label → Prop
  | .recvMark j _ => ∀ recv row rest, st.recvs[j]? = some recv →
    recv.reading = .marking row rest → S.spawned recv.group recv.agent = true →
    row.kind ≠ .turnInput
  | _ => True

/-- No consuming `AgentRecv` made with the token of a spawned name reads a turn input, neither from
the backlog nor from the live events. -/
def ReadsNoTurnInput (S : Setting) (st : State) : Label → Prop
  | .recvQuery group agent _ _ _ consume rows =>
    consume = true → S.spawned group agent = true → ∀ r ∈ rows, r.kind ≠ .turnInput
  | .recvLive j row => ∀ recv, st.recvs[j]? = some recv → recv.consume = true →
    S.spawned recv.group recv.agent = true → row.kind ≠ .turnInput
  | _ => True

structure SupervisorOk (S : Setting) (table : BusTable) (log : List AgentMsgRow)
    (sup : Supervisor) : Prop where
  spawned : S.spawned sup.group sup.child
  rows : ∀ r ∈ sup.fed ++ sup.phase.batch, r ∈ log ∧ sup.IsInput r ∧ ¬ sup.IsPrompt r
  marked : ∀ row rest, sup.phase = .marking row rest → row ∈ sup.fed
  sent : sup.sent = sup.opening ++ sup.fed.map text
  recording : sup.phase = .recording → sup.prompt = none ∧ sup.fed = []
  consuming : ∀ seq, sup.phase = .consuming seq → sup.prompt = some seq
  prompt : ∀ seq, sup.prompt = some seq → ∃ row ∈ log, row.key = (sup.group, sup.child, seq) ∧
    sup.IsInput row ∧ row.payload = promptBytes sup.initialPrompt
  settled : sup.phase.live → ∀ r ∈ table.rows, r.groupName = sup.group → sup.IsPrompt r →
    r.consumedAtMs.isSome
  seen_le : sup.seen ≤ log.length
  covered : sup.phase ≠ .ended → ∀ row ∈ log.take sup.seen, sup.IsInput row →
    row ∈ sup.fed ++ sup.phase.batch ∨ sup.IsPrompt row ∨ Trimmed (log.take sup.seen) row

def RecvOk (log : List AgentMsgRow) (recv : Recv) : Prop :=
  ∀ r ∈ recv.reading.rows, r.unconsumed ∈ log ∧ r.groupName = recv.group ∧ r.toAgent = recv.agent

def Taken (sups : List Supervisor) (r : AgentMsgRow) : Prop :=
  ∃ sup ∈ sups, sup.group = r.groupName ∧ sup.child = r.toAgent ∧
    (r.unconsumed ∈ sup.fed ∨ sup.IsPrompt r)

def Unique (sups : List Supervisor) : Prop :=
  (sups.map fun sup => (sup.group, sup.child)).Nodup

structure Invariant (S : Setting) (st : State) : Prop where
  ledger : Ledger st.table st.log
  supervisors : ∀ sup ∈ st.supervisors, SupervisorOk S st.table st.log sup
  unique : Unique st.supervisors
  recvs : ∀ recv ∈ st.recvs, RecvOk st.log recv
  consumed : ∀ r ∈ st.table.rows, r.consumedAtMs.isSome → r.kind = .turnInput →
    S.spawned r.groupName r.toAgent → Taken st.supervisors r

lemma RecvOk.mono {log log' : List AgentMsgRow} {recv : Recv} (hl : log ⊆ log')
    (h : RecvOk log recv) : RecvOk log' recv :=
  fun r hr => ⟨hl (h r hr).1, (h r hr).2⟩

lemma Unique.eq {sups : List Supervisor} (h : Unique sups) {sup sup' : Supervisor}
    (hs : sup ∈ sups) (hs' : sup' ∈ sups) (hg : sup.group = sup'.group)
    (hc : sup.child = sup'.child) : sup = sup' :=
  List.inj_on_of_nodup_map h hs hs' (Prod.ext hg hc)

lemma Unique.set {sups : List Supervisor} (h : Unique sups) {k : ℕ} {sup sup' : Supervisor}
    (hk : sups[k]? = some sup) (hg : sup'.group = sup.group) (hc : sup'.child = sup.child) :
    Unique (sups.set k sup') := by
  rw [Unique, map_set_same hk (Prod.ext hg hc)]
  exact h

lemma Unique.snoc {sups : List Supervisor} (h : Unique sups) {new : Supervisor}
    (hnew : ∀ sup ∈ sups, ¬ (sup.group = new.group ∧ sup.child = new.child)) :
    Unique (sups ++ [new]) :=
  nodup_map_snoc h fun sup hs he => hnew sup hs (Prod.mk.inj he)

lemma Taken.set {sups : List Supervisor} {k : ℕ} {sup sup' : Supervisor} {r : AgentMsgRow}
    (hk : sups[k]? = some sup) (hg : sup'.group = sup.group) (hc : sup'.child = sup.child)
    (hf : sup.fed ⊆ sup'.fed) (hp : ∀ seq, sup.prompt = some seq → sup'.prompt = some seq)
    (h : Taken sups r) : Taken (sups.set k sup') r := by
  obtain ⟨x, hx, hxg, hxc, ht⟩ := h
  obtain ⟨i, hi⟩ := List.mem_iff_getElem?.mp hx
  have hlt := (List.getElem?_eq_some_iff.mp hk).1
  by_cases he : k = i
  · subst he
    obtain rfl : sup = x := Option.some.inj (hk.symm.trans hi)
    refine ⟨sup', List.mem_set hlt _, hg.trans hxg, hc.trans hxc, ?_⟩
    exact ht.imp (fun hm => hf hm) fun hm => ⟨hm.1.trans hc.symm, hp _ hm.2⟩
  · have hx' : x ∈ sups.set k sup' :=
      List.mem_of_getElem? ((List.getElem?_set_ne he).trans hi)
    exact ⟨x, hx', hxg, hxc, ht⟩

lemma Taken.snoc {sups : List Supervisor} {new : Supervisor} {r : AgentMsgRow}
    (h : Taken sups r) : Taken (sups ++ [new]) r := by
  obtain ⟨x, hx, hrest⟩ := h
  exact ⟨x, List.mem_append_left _ hx, hrest⟩

lemma taken_congr {sups : List Supervisor} {r o : AgentMsgRow} (he : r.unconsumed = o.unconsumed)
    (h : Taken sups o) : Taken sups r := by
  obtain ⟨x, hx, hg, hc, ht⟩ := h
  have hgroup : r.unconsumed.groupName = o.unconsumed.groupName := by rw [he]
  have hto : r.unconsumed.toAgent = o.unconsumed.toAgent := by rw [he]
  have hsession : r.unconsumed.sessionName = o.unconsumed.sessionName := by rw [he]
  have hseq : r.unconsumed.seq = o.unconsumed.seq := by rw [he]
  refine ⟨x, hx, hg.trans hgroup.symm, hc.trans hto.symm, ht.imp (fun hm => he ▸ hm) fun hm => ?_⟩
  exact ⟨hsession.trans hm.1, hm.2.trans (congrArg some hseq.symm)⟩

lemma mark_cases {table : BusTable} {group session : String} {seq : ℕ} {now : UInt64}
    {r : AgentMsgRow} (hr : r ∈ (table.agentMsgMarkConsumed group session seq now).rows) :
    (r ∈ table.rows ∧ r.key ≠ (group, session, seq)) ∨
      (r.key = (group, session, seq) ∧ ∃ o ∈ table.rows, r = o.consumedAt now) := by
  obtain ⟨o, ho, rfl⟩ := BusTable.mem_agentMsgMarkConsumed.mp hr
  split
  · next hk => exact Or.inr ⟨hk, o, ho, rfl⟩
  · next hk => exact Or.inl ⟨ho, hk⟩

lemma taken_step {r : AgentMsgRow} (h : Invariant S st) (hstep : Step S st l st')
    (ht : Taken st.supervisors r) : Taken st'.supervisors r := by
  cases hstep with
  | launch => exact ht.snoc
  | recordPrompt hk hphase henq =>
    refine ht.set hk rfl rfl (List.Subset.refl _) fun seq hs => ?_
    rw [((h.supervisors _ (List.mem_of_getElem? hk)).recording hphase).1] at hs
    cases hs
  | consumePrompt hk => exact ht.set hk rfl rfl (List.Subset.refl _) fun _ hs => hs
  | query hk => exact ht.set hk rfl rfl (List.Subset.refl _) fun _ hs => hs
  | sendTurn hk => exact ht.set hk rfl rfl (List.subset_append_left _ _) fun _ hs => hs
  | markConsumed hk => exact ht.set hk rfl rfl (List.Subset.refl _) fun _ hs => hs
  | drained hk => exact ht.set hk rfl rfl (List.Subset.refl _) fun _ hs => hs
  | stop hk => exact ht.set hk rfl rfl (List.Subset.refl _) fun _ hs => hs
  | _ => exact ht

lemma Invariant.unread_mem_log (h : Invariant S st) {o : AgentMsgRow} (ho : o ∈ st.table.rows)
    (hnone : o.consumedAtMs = none) : o ∈ st.log :=
  unconsumed_eq hnone ▸ h.ledger.logged o ho

lemma not_mem_of_enqueue {table table' : BusTable} {group session fromAgent toAgent : String}
    {kind : AgentMsgKind} {payload : Bytes} {now : UInt64} {row r : AgentMsgRow}
    (henq : table.agentMsgEnqueue group session fromAgent toAgent kind payload now =
      .ok (table', row)) (hsome : r.consumedAtMs.isSome) (hold : r ∉ table.rows) :
    r ∉ table'.rows := by
  intro hr
  obtain ⟨hrow, hmem⟩ := BusTable.agentMsgEnqueue_ok henq
  obtain ⟨hr | rfl, _⟩ := (hmem r).mp hr
  · exact hold hr
  · simp [hrow] at hsome

lemma Invariant.eq_of_marked (h : Invariant S st) {group session : String} {seq : ℕ}
    {now : UInt64} {o r row : AgentMsgRow} (ho : o ∈ st.log) (hkey : r.key = o.key)
    (hr : r ∈ (st.table.agentMsgMarkConsumed group session seq now).rows)
    (hold : r ∉ st.table.rows) (hrow : row ∈ st.log) (hrowkey : row.key = (group, session, seq)) :
    o = row := by
  rcases mark_cases hr with ⟨hr, _⟩ | ⟨hr, _⟩
  · exact absurd hr hold
  · exact h.ledger.eq_of_key ho hrow (hkey.symm.trans (hr.trans hrowkey.symm))

lemma consumes_taken (h : Invariant S st) (hguard : MarksNoTurnInput S st l)
    (hstep : Step S st l st') {o r : AgentMsgRow}
    (ho : o ∈ st.table.rows) (hnone : o.consumedAtMs = none) (hr : r ∈ st'.table.rows)
    (he : r.unconsumed = o) (hsome : r.consumedAtMs.isSome) (hkind : o.kind = .turnInput)
    (hs : S.spawned o.groupName o.toAgent) : Taken st.supervisors o := by
  have holog := h.unread_mem_log ho hnone
  have hkey : r.key = o.key := by
    rw [← he]
    rfl
  have hold : r ∉ st.table.rows := by
    intro hmem
    rw [st.table.eq_of_key hmem ho hkey, hnone] at hsome
    cases hsome
  cases hstep with
  | enqueue henq => exact absurd hr (not_mem_of_enqueue henq hsome hold)
  | recordPrompt _ _ henq => exact absurd hr (not_mem_of_enqueue henq hsome hold)
  | consumePrompt hk hphase =>
    rename_i sup seq
    have hsup := h.supervisors _ (List.mem_of_getElem? hk)
    have hprompt := hsup.consuming _ hphase
    obtain ⟨row, hrow, hrowkey, hin, _⟩ := hsup.prompt _ hprompt
    obtain rfl := h.eq_of_marked holog hkey hr hold hrow hrowkey
    obtain ⟨_, hk'⟩ := Prod.mk.inj hrowkey
    obtain ⟨hsession, hseq⟩ := Prod.mk.inj hk'
    refine ⟨sup, List.mem_of_getElem? hk, hin.1.symm, hin.2.1.symm, Or.inr ⟨hsession, ?_⟩⟩
    rw [hprompt, hseq]
  | markConsumed hk hphase =>
    rename_i sup row rest
    have hsup := h.supervisors _ (List.mem_of_getElem? hk)
    have hfed := hsup.marked _ _ hphase
    obtain ⟨hrow, hin, _⟩ := hsup.rows row (List.mem_append_left _ hfed)
    have hrowkey : row.key = (sup.group, row.sessionName, row.seq) := by
      rw [AgentMsgRow.key, hin.1]
    obtain rfl := h.eq_of_marked holog hkey hr hold hrow hrowkey
    refine ⟨sup, List.mem_of_getElem? hk, hin.1.symm, hin.2.1.symm, Or.inl ?_⟩
    rw [unconsumed_eq hnone]
    exact hfed
  | recvMark hj hreading =>
    rename_i recv row rest
    have hrecv := h.recvs _ (List.mem_of_getElem? hj)
    have hmem : row ∈ recv.reading.rows := by
      rw [hreading]
      exact List.mem_cons_self
    obtain ⟨hrow, hgroup, hagent⟩ := hrecv row hmem
    have hrowkey : row.unconsumed.key = (recv.group, row.sessionName, row.seq) := by
      rw [← hgroup]
      rfl
    have heq := h.eq_of_marked holog hkey hr hold hrow hrowkey
    have hspawned : S.spawned recv.group recv.agent := by
      rw [← hgroup, ← hagent]
      rw [heq] at hs
      exact hs
    refine absurd ?_ (hguard _ _ _ hj hreading hspawned)
    rw [heq] at hkind
    exact hkind
  | _ => exact absurd hr hold

lemma consumed_step (h : Invariant S st) (hguard : MarksNoTurnInput S st l)
    (hstep : Step S st l st') {r : AgentMsgRow}
    (hr : r ∈ st'.table.rows) (hsome : r.consumedAtMs.isSome) (hkind : r.kind = .turnInput)
    (hs : S.spawned r.groupName r.toAgent) : Taken st'.supervisors r := by
  apply taken_step h hstep
  have hback : ∃ o ∈ st.table.rows, r.unconsumed = o.unconsumed := by
    rcases bus_cases hstep with ⟨ht, _⟩ | ⟨_, _, _, _, ht, _⟩ | ⟨_, _, _, _, _, _, _, _, henq, _⟩
    · exact ⟨r, ht ▸ hr, rfl⟩
    · rw [ht] at hr
      rcases mark_cases hr with ⟨hr, _⟩ | ⟨_, o, ho, rfl⟩
      · exact ⟨r, hr, rfl⟩
      · exact ⟨o, ho, rfl⟩
    · obtain ⟨hrow, hmem⟩ := BusTable.agentMsgEnqueue_ok henq
      obtain ⟨hr | rfl, _⟩ := (hmem r).mp hr
      · exact ⟨r, hr, rfl⟩
      · simp [hrow] at hsome
  obtain ⟨o, ho, he⟩ := hback
  have hkind' : o.unconsumed.kind = .turnInput := he ▸ hkind
  have hs' : S.spawned o.unconsumed.groupName o.unconsumed.toAgent := he ▸ hs
  apply taken_congr he
  by_cases hnone : o.consumedAtMs = none
  · exact consumes_taken h hguard hstep ho hnone hr (he.trans (unconsumed_eq hnone)) hsome hkind' hs'
  · exact h.consumed o ho (Option.isSome_iff_ne_none.mpr hnone) hkind' hs'

lemma SupervisorOk.bus {sup : Supervisor} (h : SupervisorOk S st.table st.log sup)
    (hl : Ledger st.table st.log) (hstep : Step S st l st') :
    SupervisorOk S st'.table st'.log sup := by
  rcases bus_cases hstep with ⟨ht, hlog⟩ | ⟨_, _, _, _, ht, hlog⟩ |
    ⟨_, _, _, _, _, _, _, row, henq, hlog⟩
  · rw [ht, hlog]
    exact h
  · rw [ht, hlog]
    refine { h with settled := fun hlive r hr hg hp => ?_ }
    rcases mark_cases hr with ⟨hr, _⟩ | ⟨_, o, _, rfl⟩
    · exact h.settled hlive r hr hg hp
    · rfl
  · rw [hlog]
    have htake : (st.log ++ [row]).take sup.seen = st.log.take sup.seen :=
      List.take_append_of_le_length h.seen_le
    refine { h with
      rows := fun r hr => ⟨List.mem_append_left _ (h.rows r hr).1, (h.rows r hr).2⟩
      prompt := fun seq hs => ?_
      settled := fun hlive r hr hg hp => ?_
      seen_le := ?_
      covered := ?_ }
    · obtain ⟨r, hr, hrest⟩ := h.prompt seq hs
      exact ⟨r, List.mem_append_left _ hr, hrest⟩
    · obtain ⟨hrow, hmem⟩ := BusTable.agentMsgEnqueue_ok henq
      obtain ⟨hr | rfl, _⟩ := (hmem r).mp hr
      · exact h.settled hlive r hr hg hp
      · obtain ⟨o, ho, hkey, _⟩ := h.prompt _ hp.2
        obtain ⟨hog, hrest⟩ := Prod.mk.inj hkey
        obtain ⟨hos, hoq⟩ := Prod.mk.inj hrest
        have hlt := hl.seq_lt henq o ho ⟨hog.trans hg.symm, hos.trans hp.1.symm⟩
        omega
    · exact le_trans h.seen_le (by simp)
    · rw [htake]
      exact h.covered

lemma supervisorOk_launched {table : BusTable} {log : List AgentMsgRow}
    {group child prime prompt : String} (hs : S.spawned group child) :
    SupervisorOk S table log (.launched group child prime prompt) where
  spawned := hs
  rows r hr := by
    simp only [Supervisor.launched, List.nil_append] at hr
    split at hr <;> cases hr
  marked row rest hp := by
    simp only [Supervisor.launched] at hp
    split at hp <;> cases hp
  sent := (List.append_nil _).symm
  recording _ := ⟨rfl, rfl⟩
  consuming seq hp := by
    simp only [Supervisor.launched] at hp
    split at hp <;> cases hp
  prompt seq hs := by cases hs
  settled _ _ _ _ hp := by cases hp.2
  seen_le := Nat.zero_le _
  covered _ row hr := by cases hr

lemma Invariant.kept (h : Invariant S st) {sup : Supervisor} (hsup : sup ∈ st.supervisors)
    {row : AgentMsgRow} (hrow : row ∈ st.log) (hin : sup.IsInput row) :
    row ∈ sup.fed ∨ sup.IsPrompt row ∨ row ∈ st.table.pending sup.group sup.child .turnInput ∨
      Trimmed st.log row := by
  rcases h.ledger.kept row hrow with ⟨r, hr, he⟩ | htrim
  · by_cases hnone : r.consumedAtMs = none
    · rw [unconsumed_eq hnone] at he
      subst he
      exact Or.inr (Or.inr (Or.inl (BusTable.mem_pending.mpr ⟨hr, hin.1, hin.2.1, hin.2.2, hnone⟩)))
    · have hsome := Option.isSome_iff_ne_none.mpr hnone
      have hgroup : r.groupName = sup.group := hin.1 ▸ congrArg (fun r => r.groupName) he
      have hto : r.toAgent = sup.child := hin.2.1 ▸ congrArg (fun r => r.toAgent) he
      have hkind : r.kind = .turnInput := hin.2.2 ▸ congrArg (fun r => r.kind) he
      have hs : S.spawned r.groupName r.toAgent := by
        rw [hgroup, hto]
        exact (h.supervisors sup hsup).spawned
      obtain ⟨x, hx, hg, hc, ht⟩ := h.consumed r hr hsome hkind hs
      obtain rfl := h.unique.eq hx hsup (hg.trans hgroup) (hc.trans hto)
      subst he
      exact ht.imp id Or.inl
  · exact Or.inr (Or.inr (Or.inr htrim))

lemma SupervisorOk.proceed {table : BusTable} {log : List AgentMsgRow} {sup : Supervisor}
    {phase : Phase} (h : SupervisorOk S table log sup) (hbatch : sup.phase.batch = phase.batch)
    (hended : sup.phase ≠ .ended) (hphase : phase = .waiting ∨ ∃ rows, phase = .feeding rows)
    (hsettled : ∀ r ∈ table.rows, r.groupName = sup.group → sup.IsPrompt r →
      r.consumedAtMs.isSome) : SupervisorOk S table log { sup with phase } :=
  { h with
    rows := fun r hr => h.rows r (hbatch ▸ hr)
    marked := by
      rintro row rest rfl
      rcases hphase with hp | ⟨_, hp⟩ <;> cases hp
    recording := by
      rintro rfl
      rcases hphase with hp | ⟨_, hp⟩ <;> cases hp
    consuming := by
      rintro seq rfl
      rcases hphase with hp | ⟨_, hp⟩ <;> cases hp
    settled := fun _ => hsettled
    covered := fun _ r hr hin => hbatch ▸ h.covered hended r hr hin }

lemma SupervisorOk.recorded {table : BusTable} {log : List AgentMsgRow} {sup : Supervisor}
    {row : AgentMsgRow} (h : SupervisorOk S table log sup) (hphase : sup.phase = .recording)
    (hrow : row ∈ log) (hkey : row.key = (sup.group, sup.child, row.seq)) (hin : sup.IsInput row)
    (hpayload : row.payload = promptBytes sup.initialPrompt) :
    SupervisorOk S table log
      { sup with phase := .consuming row.seq, prompt := some row.seq } := by
  obtain ⟨hnone, hfed⟩ := h.recording hphase
  refine { h with
    rows := fun r hr => ?_
    marked := fun _ _ hp => by cases hp
    recording := fun hp => by cases hp
    consuming := fun _ hp => congrArg some (Phase.consuming.inj hp)
    prompt := fun seq hs => ?_
    settled := fun hlive => by cases hlive
    covered := fun _ r hr hin => ?_ }
  · simp [hfed, Phase.batch] at hr
  · obtain rfl := Option.some.inj hs
    exact ⟨row, hrow, hkey, hin, hpayload⟩
  · rcases h.covered (by simp [hphase]) r hr hin with hm | hp | htrim
    · simp [hfed, hphase, Phase.batch] at hm
    · simp [Supervisor.IsPrompt, hnone] at hp
    · exact Or.inr (Or.inr htrim)

lemma Invariant.queried (h : Invariant S st) {sup : Supervisor} {rows : List AgentMsgRow}
    (hmem : sup ∈ st.supervisors) (hphase : sup.phase = .waiting)
    (hrows : st.table.AgentMsgPending sup.group sup.child .turnInput rows) :
    SupervisorOk S st.table st.log
      { sup with phase := .feeding rows, seen := st.log.length } := by
  have hsup := h.supervisors sup hmem
  have hsettled := hsup.settled (by simp [hphase, Phase.live])
  refine { hsup with
    rows := fun r hr => ?_
    marked := fun _ _ hp => by cases hp
    recording := fun hp => by cases hp
    consuming := fun _ hp => by cases hp
    settled := fun _ => hsettled
    seen_le := le_refl _
    covered := fun _ r hr hin => ?_ }
  · rcases List.mem_append.mp hr with hr | hr
    · exact hsup.rows r (List.mem_append_left _ hr)
    · obtain ⟨hr, hg, ht, hkind, hnone⟩ := BusTable.mem_pending.mp (hrows.mem_iff.mp hr)
      refine ⟨h.unread_mem_log hr hnone, ⟨hg, ht, hkind⟩, fun hp => ?_⟩
      have hsome := hsettled r hr hg hp
      rw [hnone] at hsome
      cases hsome
  · rw [List.take_length] at hr ⊢
    rcases h.kept hmem hr hin with hfed | hp | hp | htrim
    · exact Or.inl (List.mem_append_left _ hfed)
    · exact Or.inr (Or.inl hp)
    · exact Or.inl (List.mem_append_right _ (hrows.mem_iff.mpr hp))
    · exact Or.inr (Or.inr htrim)

lemma SupervisorOk.sentTurn {table : BusTable} {log : List AgentMsgRow} {sup : Supervisor}
    {row : AgentMsgRow} {rest : List AgentMsgRow} (h : SupervisorOk S table log sup)
    (hphase : sup.phase = .feeding (row :: rest)) :
    SupervisorOk S table log
      { sup with
        phase := .marking row rest
        sent := sup.sent ++ [text row]
        fed := sup.fed ++ [row] } := by
  have hheld : (sup.fed ++ [row]) ++ rest = sup.fed ++ sup.phase.batch := by
    simp [hphase, Phase.batch]
  refine { h with
    rows := fun r hr => h.rows r (hheld ▸ hr)
    marked := fun _ _ hp => ?_
    sent := by simp [h.sent, Supervisor.opening]
    recording := fun hp => by cases hp
    consuming := fun _ hp => by cases hp
    settled := fun _ => h.settled (by simp [hphase, Phase.live])
    covered := fun _ r hr hin => hheld ▸ h.covered (by simp [hphase]) r hr hin }
  obtain ⟨rfl, _⟩ := Phase.marking.inj hp
  simp

lemma SupervisorOk.stopped {table : BusTable} {log : List AgentMsgRow} {sup : Supervisor}
    (h : SupervisorOk S table log sup) : SupervisorOk S table log { sup with phase := .ended } := by
  refine { h with
    rows := fun r hr => h.rows r ?_
    marked := fun _ _ hp => by cases hp
    recording := fun hp => by cases hp
    consuming := fun _ hp => by cases hp
    settled := fun hlive => by cases hlive
    covered := fun hne => absurd rfl hne }
  exact List.mem_append_left _ (by simpa [Phase.batch] using hr)

lemma supervisors_step (h : Invariant S st) (hstep : Step S st l st') :
    ∀ sup ∈ st'.supervisors, SupervisorOk S st'.table st'.log sup := by
  have hbus : ∀ sup ∈ st.supervisors, SupervisorOk S st'.table st'.log sup :=
    fun sup hs => (h.supervisors sup hs).bus h.ledger hstep
  have hat : ∀ {k sup}, st.supervisors[k]? = some sup → SupervisorOk S st'.table st'.log sup :=
    fun hk => hbus _ (List.mem_of_getElem? hk)
  cases hstep with
  | launch hs => exact forall_mem_snoc hbus (supervisorOk_launched hs)
  | recordPrompt hk hphase henq =>
    have hrow := (BusTable.agentMsgEnqueue_ok henq).1
    apply forall_mem_set hbus
    apply (hat hk).recorded hphase
    · simp
    · simp [hrow, AgentMsgRow.key]
    · simp [hrow, Supervisor.IsInput]
    · simp [hrow]
  | consumePrompt hk hphase =>
    have hsup := hat hk
    refine forall_mem_set hbus (hsup.proceed ?_ (by simp [hphase]) (Or.inl rfl) ?_)
    · rw [hphase]
      rfl
    · intro r hr hg hp
      rcases mark_cases hr with ⟨_, hne⟩ | ⟨_, o, _, rfl⟩
      · refine absurd ?_ hne
        have hseq := Option.some.inj ((hsup.consuming _ hphase).symm.trans hp.2)
        rw [AgentMsgRow.key, hg, hp.1, hseq]
      · rfl
  | query hk hphase hrows =>
    exact forall_mem_set hbus (h.queried (List.mem_of_getElem? hk) hphase hrows)
  | sendTurn hk hphase => exact forall_mem_set hbus ((hat hk).sentTurn hphase)
  | markConsumed hk hphase =>
    have hsettled := (hat hk).settled (by simp [hphase, Phase.live])
    refine forall_mem_set hbus ((hat hk).proceed ?_ (by simp [hphase]) (Or.inr ⟨_, rfl⟩) hsettled)
    rw [hphase]
    rfl
  | drained hk hphase =>
    have hsettled := (hat hk).settled (by simp [hphase, Phase.live])
    refine forall_mem_set hbus ((hat hk).proceed ?_ (by simp [hphase]) (Or.inl rfl) hsettled)
    rw [hphase]
    rfl
  | stop hk => exact forall_mem_set hbus (hat hk).stopped
  | _ => exact hbus

lemma mem_of_mem_wrote {recv : Recv} {row r : AgentMsgRow} {rest : List AgentMsgRow}
    (hr : r ∈ (recv.wrote row rest).reading.rows) : r ∈ row :: rest := by
  simp only [Recv.wrote] at hr
  split at hr
  · exact hr
  · exact List.mem_cons_of_mem _ hr

lemma recvs_step (h : Invariant S st) (hstep : Step S st l st') :
    ∀ recv ∈ st'.recvs, RecvOk st'.log recv := by
  cases hstep with
  | enqueue => exact fun recv hr => (h.recvs recv hr).mono (List.subset_append_left _ _)
  | recordPrompt => exact fun recv hr => (h.recvs recv hr).mono (List.subset_append_left _ _)
  | recvQuery hrows =>
    refine forall_mem_snoc h.recvs fun r hr => ?_
    obtain ⟨hr, hg, ha⟩ := BusTable.mem_backlog hrows hr
    exact ⟨h.ledger.logged r hr, hg, ha⟩
  | recvBacklog hj hreading =>
    have hrecv := h.recvs _ (List.mem_of_getElem? hj)
    refine forall_mem_set h.recvs fun r hr => hrecv r ?_
    rw [hreading]
    exact mem_of_mem_wrote hr
  | recvLive hj hreading hfollow hrow hwants =>
    refine forall_mem_set h.recvs fun r hr => ?_
    obtain rfl := List.mem_singleton.mp (mem_of_mem_wrote hr)
    rw [unconsumed_eq (h.ledger.fresh _ hrow)]
    simp only [Recv.wants, Bool.and_eq_true, decide_eq_true_eq] at hwants
    exact ⟨hrow, hwants.1⟩
  | recvMark hj hreading =>
    have hrecv := h.recvs _ (List.mem_of_getElem? hj)
    refine forall_mem_set h.recvs fun r hr => hrecv r ?_
    rw [hreading]
    exact List.mem_cons_of_mem _ hr
  | recvEnd => exact forall_mem_eraseIdx h.recvs _
  | _ => exact h.recvs

lemma unique_step (h : Unique st.supervisors) (hstep : Step S st l st') :
    Unique st'.supervisors := by
  cases hstep with
  | launch _ hnew => exact h.snoc hnew
  | recordPrompt hk => exact h.set hk rfl rfl
  | consumePrompt hk => exact h.set hk rfl rfl
  | query hk => exact h.set hk rfl rfl
  | sendTurn hk => exact h.set hk rfl rfl
  | markConsumed hk => exact h.set hk rfl rfl
  | drained hk => exact h.set hk rfl rfl
  | stop hk => exact h.set hk rfl rfl
  | _ => exact h

lemma invariant_initial : Invariant S initial where
  ledger := ledger_initial
  supervisors _ h := by cases h
  unique := List.nodup_nil
  recvs _ h := by cases h
  consumed _ h := by cases h

lemma invariant_step (h : Invariant S st) (hguard : MarksNoTurnInput S st l)
    (hstep : Step S st l st') : Invariant S st' where
  ledger := ledger_step h.ledger hstep
  supervisors := supervisors_step h hstep
  unique := unique_step h.unique hstep
  recvs := recvs_step h hstep
  consumed _ hr hsome hkind hs := consumed_step h hguard hstep hr hsome hkind hs

structure Harmless (S : Setting) (recv : Recv) : Prop where
  consumes : ∀ row rest, recv.reading = .marking row rest → recv.consume = true
  kinds : recv.consume = true → S.spawned recv.group recv.agent = true →
    ∀ r ∈ recv.reading.rows, r.kind ≠ .turnInput

lemma Harmless.wrote {recv : Recv} {row : AgentMsgRow} {rest : List AgentMsgRow}
    (hkinds : recv.consume = true → S.spawned recv.group recv.agent = true →
      ∀ r ∈ row :: rest, r.kind ≠ .turnInput) : Harmless S (recv.wrote row rest) := by
  refine ⟨fun row' rest' hm => ?_, fun hc hs r hr => hkinds hc hs r (mem_of_mem_wrote hr)⟩
  simp only [Recv.wrote] at hm
  split at hm
  · assumption
  · cases hm

lemma harmless_step (h : ∀ recv ∈ st.recvs, Harmless S recv) (hguard : ReadsNoTurnInput S st l)
    (hstep : Step S st l st') : ∀ recv ∈ st'.recvs, Harmless S recv := by
  cases hstep with
  | recvQuery => exact forall_mem_snoc h ⟨fun _ _ hm => (by cases hm), hguard⟩
  | recvBacklog hj hreading =>
    have hrecv := h _ (List.mem_of_getElem? hj)
    refine forall_mem_set h (.wrote fun hc hs r hr => hrecv.kinds hc hs r ?_)
    rwa [hreading]
  | recvLive hj hreading hfollow hrow hwants =>
    refine forall_mem_set h (.wrote fun hc hs r hr => ?_)
    rw [List.mem_singleton.mp hr]
    exact hguard _ hj hc hs
  | recvMark hj hreading =>
    have hrecv := h _ (List.mem_of_getElem? hj)
    refine forall_mem_set h ⟨fun _ _ hm => (by cases hm), fun hc hs r hr => hrecv.kinds hc hs r ?_⟩
    rw [hreading]
    exact List.mem_cons_of_mem _ hr
  | recvEnd => exact forall_mem_eraseIdx h _
  | _ => exact h

lemma marksNoTurnInput_of_harmless (h : ∀ recv ∈ st.recvs, Harmless S recv) (l : Label) :
    MarksNoTurnInput S st l := by
  cases l with
  | recvMark j now =>
    intro recv row rest hj hreading hs
    have hrecv := h _ (List.mem_of_getElem? hj)
    apply hrecv.kinds (hrecv.consumes _ _ hreading) hs row
    rw [hreading]
    exact List.mem_cons_self
  | _ => trivial

lemma invariant_run {ls : List Label}
    (hrun : Run (Guarded (ReadsNoTurnInput S) (Step S)) initial ls st) :
    Invariant S st ∧ ∀ recv ∈ st.recvs, Harmless S recv := by
  refine hrun.invariant (I := fun st => Invariant S st ∧ ∀ recv ∈ st.recvs, Harmless S recv) ?_
    ⟨invariant_initial, fun _ hr => by cases hr⟩
  rintro s l t ⟨h, hr⟩ ⟨hguard, hstep⟩
  exact ⟨invariant_step h (marksNoTurnInput_of_harmless hr l) hstep, harmless_step hr hguard hstep⟩

lemma Trimmed.mono {log log' : List AgentMsgRow} {row : AgentMsgRow} (hl : log ⊆ log')
    (h : Trimmed log row) : Trimmed log' row := by
  obtain ⟨later, hlater, hrest⟩ := h
  exact ⟨later, hl hlater, hrest⟩

lemma fed_of_consumed (h : Invariant S st) (hguard : MarksNoTurnInput S st l)
    (hstep : Step S st l st') {sup : Supervisor}
    (hsup : sup ∈ st.supervisors) (hlive : sup.phase.live) {row r : AgentMsgRow}
    (hrow : row ∈ st.table.pending sup.group sup.child .turnInput) (hr : r ∈ st'.table.rows)
    (he : r.unconsumed = row) (hsome : r.consumedAtMs.isSome) : row ∈ sup.fed := by
  obtain ⟨hmem, hg, ht, hkind, hnone⟩ := BusTable.mem_pending.mp hrow
  have hok := h.supervisors sup hsup
  have hs : S.spawned row.groupName row.toAgent := by
    rw [hg, ht]
    exact hok.spawned
  obtain ⟨x, hx, hxg, hxc, htaken⟩ := consumes_taken h hguard hstep hmem hnone hr he hsome hkind hs
  obtain rfl := h.unique.eq hx hsup (hxg.trans hg) (hxc.trans ht)
  rw [unconsumed_eq hnone] at htaken
  refine htaken.resolve_right fun hp => ?_
  have hsettled := hok.settled hlive row hmem hg hp
  rw [hnone] at hsettled
  cases hsettled

theorem turn_input_fed_before_consumed {ls : List Label}
    (hrun : Run (Guarded (ReadsNoTurnInput S) (Step S)) initial ls st) :
    (∀ l st', Step S st l st' → ∀ sup ∈ st.supervisors, sup.phase.live →
      ∀ row ∈ st.table.pending sup.group sup.child .turnInput, ∀ r ∈ st'.table.rows,
        r.unconsumed = row → r.consumedAtMs.isSome → row ∈ sup.fed ∧ text row ∈ sup.sent) ∧
    (∀ sup ∈ st.supervisors, sup.phase.live → ∀ row ∈ st.log, sup.IsInput row →
      ¬ Trimmed st.log row → row ∈ sup.fed ∨ sup.IsPrompt row ∨
        row ∈ st.table.pending sup.group sup.child .turnInput) ∧
    ∀ sup ∈ st.supervisors, sup.phase = .feeding [] → ∀ row ∈ st.log.take sup.seen,
      sup.IsInput row → ¬ Trimmed st.log row → row ∈ sup.fed ∨ sup.IsPrompt row := by
  obtain ⟨h, hrecvs⟩ := invariant_run hrun
  refine ⟨fun l st' hstep sup hsup hlive row hrow r hr he hsome => ?_,
    fun sup hsup hlive row hrow hin htrim => ?_, fun sup hsup hphase row hrow hin htrim => ?_⟩
  · have hguard := marksNoTurnInput_of_harmless hrecvs l
    have hfed := fed_of_consumed h hguard hstep hsup hlive hrow hr he hsome
    refine ⟨hfed, ?_⟩
    rw [(h.supervisors sup hsup).sent]
    exact List.mem_append_right _ (List.mem_map_of_mem hfed)
  · rcases h.kept hsup hrow hin with hfed | hp | hpending | ht
    · exact Or.inl hfed
    · exact Or.inr (Or.inl hp)
    · exact Or.inr (Or.inr hpending)
    · exact absurd ht htrim
  · have hcovered := (h.supervisors sup hsup).covered (by simp [hphase]) row hrow hin
    rw [hphase, Phase.batch, List.append_nil] at hcovered
    rcases hcovered with hfed | hp | ht
    · exact Or.inl hfed
    · exact Or.inr hp
    · exact absurd (Trimmed.mono (List.take_subset _ _) ht) htrim

def workers : Setting where
  spawned group child := group = "g" && child = "w"

def reply : AgentMsgRow where
  groupName := "g"
  sessionName := "w"
  seq := 1
  fromAgent := "prime"
  toAgent := "w"
  kind := .turnInput
  payload := [104, 105]
  enqueuedAtMs := 1
  consumedAtMs := none

def replyTable : BusTable := ⟨[reply], List.nodup_singleton _⟩

def idle : Supervisor := .launched "g" "w" "prime" ""

def replied (sup : Supervisor) (recvs : List Recv) : State := ⟨replyTable, [reply], [sup], recvs⟩

def replyLabels : List Label :=
  [.launch "g" "w" "prime" "", .enqueue "g" "w" "prime" "w" .turnInput [104, 105] 1]

lemma reply_run : Run (Guarded (ReadsNoTurnInput workers) (Step workers)) initial replyLabels
    (replied idle []) := by
  refine .cons ⟨trivial, .launch rfl fun _ h => ?_⟩ (.cons ⟨trivial, .enqueue rfl⟩ .nil)
  cases h

def feeding : Supervisor :=
  { idle with
    phase := .marking reply []
    sent := [text reply]
    fed := [reply]
    seen := 1 }

lemma feeding_run : Run (Guarded (ReadsNoTurnInput workers) (Step workers)) initial
    (replyLabels ++ [.query 0 [reply], .sendTurn 0]) (replied feeding []) := by
  have hrows : replyTable.AgentMsgPending "g" "w" .turnInput [reply] :=
    ⟨List.Perm.refl _, List.pairwise_singleton _ _⟩
  apply reply_run.append
  exact .cons ⟨trivial, .query rfl rfl hrows⟩ (.cons ⟨trivial, .sendTurn rfl rfl⟩ .nil)

theorem turn_input_fed_before_consumed_reply :
    (∃ st', Step workers (replied feeding []) (.markConsumed 0 2) st' ∧
      reply.consumedAt 2 ∈ st'.table.rows) ∧
    reply ∈ feeding.fed ∧ text reply ∈ feeding.sent := by
  have hstep : Step workers (replied feeding []) (.markConsumed 0 2) _ := .markConsumed rfl rfl
  refine ⟨⟨_, hstep, List.mem_singleton_self _⟩, ?_⟩
  refine (turn_input_fed_before_consumed feeding_run).1 _ _ hstep feeding
    (List.mem_singleton_self _) rfl reply (List.mem_singleton_self _) (reply.consumedAt 2) ?_ rfl rfl
  exact List.mem_singleton_self _

def reading : Recv := ⟨"g", "w", none, false, true, .marking reply []⟩

def readLabels : List Label :=
  replyLabels ++ [.recvQuery "g" "w" none none false true [reply], .recvBacklog 0]

theorem own_recv_takes_turn_input :
    Run (Step workers) initial readLabels (replied idle [reading]) ∧
    idle.phase.live ∧ reply ∈ replyTable.pending idle.group idle.child .turnInput ∧
    ¬ Trimmed [reply] reply ∧
    ∃ st', Step workers (replied idle [reading]) (.recvMark 0 2) st' ∧
      reply.consumedAt 2 ∈ st'.table.rows ∧ st'.supervisors = [idle] ∧ idle.fed = [] ∧
      st'.table.pending idle.group idle.child .turnInput = [] := by
  have hrows : replyTable.AgentMsgBacklog "g" "w" none none 10000 true [reply] :=
    ⟨[reply], ⟨List.Perm.refl _, List.pairwise_singleton _ _⟩, rfl⟩
  refine ⟨?_, rfl, List.mem_singleton_self _, ?_, _, .recvMark rfl rfl,
    List.mem_singleton_self _, rfl, rfl, rfl⟩
  · apply reply_run.forget.append
    exact .cons (.recvQuery hrows) (.cons (.recvBacklog rfl rfl) .nil)
  · rintro ⟨later, hl, _, hle⟩
    rw [List.mem_singleton.mp hl] at hle
    have hcap : 0 < maxMsgsPerSession := by decide
    omega

end WalkieTalkie.Turns.Consumption
