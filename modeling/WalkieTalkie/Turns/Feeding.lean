import WalkieTalkie.Turns.Consumption

/-! What a supervisor feeds when nobody else consumes its inputs and all of them are of its own
session: in order, each once, and everything that the retention cap left in the table. Which
wakeups reach the supervisor does not matter. -/

namespace WalkieTalkie.Turns.Feeding

open Proto Store Lib Lib.Runs Consumption

variable {S : Setting} {st st' : State} {l : Label}

/-- Only supervisors mark turn inputs of spawned names, and such inputs are sent in the session that
the name is the child of. -/
def Alone (S : Setting) (st : State) (l : Label) : Prop :=
  MarksNoTurnInput S st l ∧
    match l with
    | .enqueue group session _ toAgent kind _ _ =>
      kind = .turnInput → S.spawned group toAgent = true → session = toAgent
    | _ => True

def OwnSession (S : Setting) (log : List AgentMsgRow) : Prop :=
  ∀ row ∈ log, row.kind = .turnInput → S.spawned row.groupName row.toAgent = true →
    row.sessionName = row.toAgent

structure InOrder (table : BusTable) (sup : Supervisor) : Prop where
  order : (sup.fed ++ sup.phase.batch).Pairwise fun r r' => r.seq < r'.seq
  beyond : sup.phase ≠ .ended → ∀ row ∈ table.pending sup.group sup.child .turnInput,
    row ∉ sup.fed ++ sup.phase.batch → ¬ sup.IsPrompt row →
    ∀ r ∈ sup.fed ++ sup.phase.batch, r.seq < row.seq
  gone : sup.phase ≠ .ended → ∀ r ∈ sup.fed, r ∈ table.rows → ∃ rest, sup.phase = .marking r rest

structure Invariant (S : Setting) (st : State) : Prop extends Consumption.Invariant S st where
  ownSession : OwnSession S st.log
  inOrder : ∀ sup ∈ st.supervisors, InOrder st.table sup

lemma ownSession_step (ho : OwnSession S st.log) (hguard : Alone S st l)
    (hstep : Step S st l st') : OwnSession S st'.log := by
  cases hstep with
  | enqueue henq =>
    have hrow := (BusTable.agentMsgEnqueue_ok henq).1
    refine forall_mem_snoc ho fun hkind hs => ?_
    simp only [hrow] at hkind hs ⊢
    exact hguard.2 hkind hs
  | recordPrompt _ _ henq =>
    have hrow := (BusTable.agentMsgEnqueue_ok henq).1
    refine forall_mem_snoc ho fun _ _ => ?_
    simp only [hrow]
  | _ => exact ho

lemma pending_of_mark {table : BusTable} {group session toAgent : String} {seq : ℕ} {now : UInt64}
    {kind : AgentMsgKind} {g : String} {row : AgentMsgRow}
    (h : row ∈ (table.agentMsgMarkConsumed group session seq now).pending g toAgent kind) :
    row ∈ table.pending g toAgent kind := by
  obtain ⟨hr, hg, ht, hk, hnone⟩ := BusTable.mem_pending.mp h
  rcases mark_cases hr with ⟨hr, _⟩ | ⟨_, o, _, rfl⟩
  · exact BusTable.mem_pending.mpr ⟨hr, hg, ht, hk, hnone⟩
  · cases hnone

lemma Invariant.fed_unconsumed (h : Invariant S st) {sup : Supervisor}
    (hsup : sup ∈ st.supervisors) {r : AgentMsgRow} (hr : r ∈ sup.fed) : r.consumedAtMs = none :=
  h.ledger.fresh r ((h.supervisors sup hsup).rows r (List.mem_append_left _ hr)).1

lemma Invariant.inOrder_bus (h : Invariant S st) (hguard : Alone S st l) (hstep : Step S st l st')
    {sup : Supervisor} (hsup : sup ∈ st.supervisors) : InOrder st'.table sup := by
  have hin := h.inOrder sup hsup
  have hok := h.supervisors sup hsup
  have hown := ownSession_step h.ownSession hguard hstep
  rcases bus_cases hstep with ⟨ht, _⟩ | ⟨_, _, _, _, ht, _⟩ |
    ⟨_, _, _, _, _, _, _, row, henq, hlog⟩
  · rw [ht]
    exact hin
  · rw [ht]
    refine ⟨hin.order, fun hne r hr => hin.beyond hne r (pending_of_mark hr),
      fun hne r hr hmem => ?_⟩
    rcases mark_cases hmem with ⟨hmem, _⟩ | ⟨_, o, _, rfl⟩
    · exact hin.gone hne r hr hmem
    · cases h.fed_unconsumed hsup hr
  · have hmem := (BusTable.agentMsgEnqueue_ok henq).2
    have hnew : row ∈ st'.log := by simp [hlog]
    refine ⟨hin.order, fun hne r hr hout hp x hx => ?_, fun hne r hr hrow => ?_⟩
    · obtain ⟨hr, hg, hto, hkind, hnone⟩ := BusTable.mem_pending.mp hr
      obtain ⟨hr | rfl, _⟩ := (hmem r).mp hr
      · exact hin.beyond hne r (BusTable.mem_pending.mpr ⟨hr, hg, hto, hkind, hnone⟩) hout hp x hx
      · obtain ⟨hxlog, ⟨hxg, hxto, hxkind⟩, _⟩ := hok.rows x hx
        have hspawned := hok.spawned
        have hxs : x.sessionName = sup.child := by
          rw [h.ownSession x hxlog hxkind (by rwa [hxg, hxto]), hxto]
        have hrs : r.sessionName = sup.child := by
          rw [hown r hnew hkind (by rwa [hg, hto]), hto]
        exact h.ledger.seq_lt henq x hxlog ⟨hxg.trans hg.symm, hxs.trans hrs.symm⟩
    · obtain ⟨hold | rfl, _⟩ := (hmem r).mp hrow
      · exact hin.gone hne r hr hold
      · have hlt := h.ledger.seq_lt henq r (hok.rows r (List.mem_append_left _ hr)).1 ⟨rfl, rfl⟩
        omega

lemma inOrder_empty {table : BusTable} {sup : Supervisor} (h : sup.fed ++ sup.phase.batch = []) :
    InOrder table sup := by
  refine ⟨by simp [h], fun _ row _ _ _ r hr => ?_, fun _ r hr _ => ?_⟩
  · rw [h] at hr
    cases hr
  · rw [(List.append_eq_nil_iff.mp h).1] at hr
    cases hr

lemma InOrder.not_mem {table : BusTable} {sup : Supervisor} (h : InOrder table sup)
    (hended : sup.phase ≠ .ended) (hmarking : ∀ row rest, sup.phase ≠ .marking row rest) :
    ∀ r ∈ sup.fed, r ∉ table.rows := by
  intro r hr hmem
  obtain ⟨rest, hp⟩ := h.gone hended r hr hmem
  exact hmarking r rest hp

lemma InOrder.proceed {table : BusTable} {sup : Supervisor} {phase : Phase}
    (h : InOrder table sup) (hbatch : sup.phase.batch = phase.batch) (hended : sup.phase ≠ .ended)
    (hgone : ∀ r ∈ sup.fed, r ∉ table.rows) : InOrder table { sup with phase } where
  order := hbatch ▸ h.order
  beyond _ row hrow hout hp r hr := h.beyond hended row hrow (hbatch ▸ hout) hp r (hbatch ▸ hr)
  gone _ r hr hmem := absurd hmem (hgone r hr)

lemma Invariant.inOrder_query (h : Invariant S st) {sup : Supervisor} {rows : List AgentMsgRow}
    {seen : ℕ} (hsup : sup ∈ st.supervisors) (hphase : sup.phase = .waiting)
    (hrows : st.table.AgentMsgPending sup.group sup.child .turnInput rows) :
    InOrder st.table { sup with phase := .feeding rows, seen } := by
  have hin := h.inOrder sup hsup
  have hok := h.supervisors sup hsup
  have hlive : sup.phase.live := by simp [hphase, Phase.live]
  have hended : sup.phase ≠ .ended := by simp [hphase]
  have hfed : ∀ r ∈ sup.fed, r ∉ st.table.rows := hin.not_mem hended (by simp [hphase])
  have hpending : ∀ r ∈ rows, r ∈ st.table.pending sup.group sup.child .turnInput :=
    fun r hr => hrows.mem_iff.mp hr
  have hsession : ∀ r ∈ rows, r.sessionName = sup.child := by
    intro r hr
    obtain ⟨hmem, hg, hto, hkind, hnone⟩ := BusTable.mem_pending.mp (hpending r hr)
    have hs : S.spawned r.groupName r.toAgent := by
      rw [hg, hto]
      exact hok.spawned
    rw [h.ownSession r (h.unread_mem_log hmem hnone) hkind hs, hto]
  have hstrict : rows.Pairwise fun r r' => r.seq < r'.seq :=
    hrows.strict fun r hr r' hr' => (hsession r hr).trans (hsession r' hr').symm
  have hafter : ∀ r ∈ sup.fed, ∀ row ∈ rows, r.seq < row.seq := by
    intro r hr row hrow
    obtain ⟨hmem, hg, hto, hkind, hnone⟩ := BusTable.mem_pending.mp (hpending row hrow)
    have hout : row ∉ sup.fed ++ sup.phase.batch := by
      simp only [hphase, Phase.batch, List.append_nil]
      exact fun hf => hfed row hf hmem
    refine hin.beyond hended row (hpending row hrow) hout (fun hp => ?_) r
      (List.mem_append_left _ hr)
    have hsettled := hok.settled hlive row hmem hg hp
    rw [hnone] at hsettled
    cases hsettled
  refine ⟨List.pairwise_append.mpr ⟨?_, hstrict, hafter⟩, fun _ row hrow hout => ?_,
    fun _ r hr hmem => absurd hmem (hfed r hr)⟩
  · exact (List.pairwise_append.mp hin.order).1
  · exact absurd (List.mem_append_right _ (hrows.mem_iff.mpr hrow)) hout

lemma InOrder.sentTurn {table : BusTable} {sup : Supervisor} {row : AgentMsgRow}
    {rest : List AgentMsgRow} {sent : List String} (h : InOrder table sup)
    (hphase : sup.phase = .feeding (row :: rest)) :
    InOrder table { sup with phase := .marking row rest, sent, fed := sup.fed ++ [row] } := by
  have hended : sup.phase ≠ .ended := by simp [hphase]
  have hheld : (sup.fed ++ [row]) ++ rest = sup.fed ++ sup.phase.batch := by
    simp [hphase, Phase.batch]
  have hgone := h.not_mem hended (by simp [hphase])
  refine ⟨?_, fun _ r hr hout hp x hx => ?_, fun _ r hr hmem => ?_⟩
  · exact hheld ▸ h.order
  · exact h.beyond hended r hr (hheld ▸ hout) hp x (hheld ▸ hx)
  · rcases List.mem_append.mp hr with hr | hr
    · exact absurd hmem (hgone r hr)
    · exact ⟨rest, by rw [List.mem_singleton.mp hr]⟩

lemma Invariant.not_mem_mark (h : Invariant S st) {sup : Supervisor} {row : AgentMsgRow}
    {now : UInt64} (hsup : sup ∈ st.supervisors) (hrow : row ∈ sup.fed) :
    row ∉ (st.table.agentMsgMarkConsumed sup.group row.sessionName row.seq now).rows := by
  intro hmem
  obtain ⟨_, ⟨hg, _⟩, _⟩ := (h.supervisors sup hsup).rows row (List.mem_append_left _ hrow)
  rcases mark_cases hmem with ⟨_, hne⟩ | ⟨_, o, _, ho⟩
  · rw [AgentMsgRow.key, hg] at hne
    exact hne rfl
  · have hnone := h.fed_unconsumed hsup hrow
    rw [ho] at hnone
    cases hnone

lemma inOrder_step (h : Invariant S st) (hguard : Alone S st l) (hstep : Step S st l st') :
    ∀ sup ∈ st'.supervisors, InOrder st'.table sup := by
  have hbus : ∀ sup ∈ st.supervisors, InOrder st'.table sup :=
    fun sup hs => h.inOrder_bus hguard hstep hs
  have hat : ∀ {k sup}, st.supervisors[k]? = some sup → InOrder st'.table sup :=
    fun hk => hbus _ (List.mem_of_getElem? hk)
  cases hstep with
  | launch =>
    refine forall_mem_snoc hbus (inOrder_empty ?_)
    simp only [Supervisor.launched, List.nil_append]
    split <;> rfl
  | recordPrompt hk hphase =>
    have hfed := ((h.supervisors _ (List.mem_of_getElem? hk)).recording hphase).2
    refine forall_mem_set hbus (inOrder_empty ?_)
    simp [hfed, Phase.batch]
  | consumePrompt hk hphase =>
    rename_i sup seq
    have hended : sup.phase ≠ .ended := by simp [hphase]
    refine forall_mem_set hbus ((hat hk).proceed ?_ hended ((hat hk).not_mem hended ?_))
    · rw [hphase]
      rfl
    · simp [hphase]
  | query hk hphase hrows =>
    exact forall_mem_set hbus (h.inOrder_query (List.mem_of_getElem? hk) hphase hrows)
  | sendTurn hk hphase => exact forall_mem_set hbus ((hat hk).sentTurn hphase)
  | markConsumed hk hphase =>
    rename_i now sup row rest
    have hended : sup.phase ≠ .ended := by simp [hphase]
    refine forall_mem_set hbus ((hat hk).proceed ?_ hended fun r hr hmem => ?_)
    · rw [hphase]
      rfl
    · obtain ⟨rest', hp⟩ := (hat hk).gone hended r hr hmem
      obtain ⟨rfl, _⟩ := Phase.marking.inj (hphase.symm.trans hp)
      exact h.not_mem_mark (List.mem_of_getElem? hk) hr hmem
  | drained hk hphase =>
    rename_i sup
    have hended : sup.phase ≠ .ended := by simp [hphase]
    refine forall_mem_set hbus ((hat hk).proceed ?_ hended ((hat hk).not_mem hended ?_))
    · rw [hphase]
      rfl
    · simp [hphase]
  | stop hk =>
    refine forall_mem_set hbus ⟨?_, fun hne => absurd rfl hne, fun hne => absurd rfl hne⟩
    simpa [Phase.batch] using (List.pairwise_append.mp (hat hk).order).1
  | _ => exact hbus

lemma invariant_run {ls : List Label} (hrun : Run (Guarded (Alone S) (Step S)) initial ls st) :
    Invariant S st := by
  refine hrun.invariant (fun _ _ _ h hs => ?_) ⟨invariant_initial, ?_, ?_⟩
  · exact ⟨invariant_step h.toInvariant hs.1.1 hs.2, ownSession_step h.ownSession hs.1 hs.2,
      inOrder_step h hs.1 hs.2⟩
  · intro _ h
    cases h
  · intro _ h
    cases h

theorem fed_in_order_each_once {ls : List Label}
    (hrun : Run (Guarded (Alone S) (Step S)) initial ls st) {sup : Supervisor}
    (hsup : sup ∈ st.supervisors) :
    sup.sent = sup.opening ++ sup.fed.map text ∧
    (sup.fed.Pairwise fun r r' => r.seq < r'.seq) ∧
    (∀ row ∈ sup.fed, row ∈ st.log ∧ sup.IsInput row ∧ ¬ sup.IsPrompt row) ∧
    (∀ seq, sup.prompt = some seq → ∃ row ∈ st.log, sup.IsInput row ∧ sup.IsPrompt row ∧
      row.payload = promptBytes sup.initialPrompt) ∧
    (∀ row ∈ st.log, sup.IsInput row → ¬ sup.IsPrompt row → row ∈ sup.fed ∨
      row ∈ st.table.pending sup.group sup.child .turnInput ∨ Trimmed st.log row) ∧
    (sup.phase = .feeding [] → ∀ row ∈ st.log.take sup.seen, sup.IsInput row →
      ¬ sup.IsPrompt row → row ∈ sup.fed ∨ Trimmed (st.log.take sup.seen) row) := by
  have h := invariant_run hrun
  have hok := h.supervisors sup hsup
  refine ⟨hok.sent, (List.pairwise_append.mp (h.inOrder sup hsup).order).1,
    fun row hrow => hok.rows row (List.mem_append_left _ hrow), fun seq hseq => ?_,
    fun row hrow hin hp => ?_, fun hphase row hrow hin hp => ?_⟩
  · obtain ⟨row, hrow, hkey, hin, hpayload⟩ := hok.prompt seq hseq
    obtain ⟨_, hkey⟩ := Prod.mk.inj hkey
    obtain ⟨hs, hq⟩ := Prod.mk.inj hkey
    exact ⟨row, hrow, hin, ⟨hs, hq ▸ hseq⟩, hpayload⟩
  · rcases h.kept hsup hrow hin with hfed | hprompt | hrest
    · exact Or.inl hfed
    · exact absurd hprompt hp
    · exact Or.inr hrest
  · have hcovered := hok.covered (by simp [hphase]) row hrow hin
    rw [hphase, Phase.batch, List.append_nil] at hcovered
    rcases hcovered with hfed | hprompt | htrim
    · exact Or.inl hfed
    · exact absurd hprompt hp
    · exact Or.inr htrim

def opened : AgentMsgRow :=
  { reply with payload := promptBytes "go" }

def followUp : AgentMsgRow := { reply with seq := 2, enqueuedAtMs := 3 }

def talked : Supervisor where
  group := "g"
  child := "w"
  prime := "prime"
  initialPrompt := "go"
  phase := .feeding []
  sent := ["go", text followUp]
  fed := [followUp]
  prompt := some 1
  seen := 2

def talkLabels : List Label :=
  [.launch "g" "w" "prime" "go", .recordPrompt 0 1, .consumePrompt 0 2,
    .enqueue "g" "w" "prime" "w" .turnInput [104, 105] 3, .query 0 [followUp], .sendTurn 0,
    .markConsumed 0 4]

def talk : State where
  table := ⟨[opened.consumedAt 2, followUp.consumedAt 4], by decide⟩
  log := [opened, followUp]
  supervisors := [talked]
  recvs := []

lemma talk_run : Run (Guarded (Alone workers) (Step workers)) initial talkLabels talk := by
  have hrows : OrderedBy (fun r r' : AgentMsgRow => r.seq ≤ r'.seq) [followUp] [followUp] :=
    ⟨List.Perm.refl _, List.pairwise_singleton _ _⟩
  refine .cons ⟨⟨trivial, trivial⟩, .launch rfl fun _ h => ?_⟩ ?_
  · cases h
  refine .cons ⟨⟨trivial, trivial⟩, .recordPrompt rfl rfl rfl⟩ ?_
  refine .cons ⟨⟨trivial, trivial⟩, .consumePrompt rfl rfl⟩ ?_
  refine .cons ⟨⟨trivial, fun _ _ => rfl⟩, .enqueue rfl⟩ ?_
  refine .cons ⟨⟨trivial, trivial⟩, .query rfl rfl hrows⟩ ?_
  refine .cons ⟨⟨trivial, trivial⟩, .sendTurn rfl rfl⟩ ?_
  exact .cons ⟨⟨trivial, trivial⟩, .markConsumed rfl rfl⟩ .nil

theorem fed_in_order_each_once_talk :
    talked.phase = .feeding [] ∧ talked.sent = talked.opening ++ talked.fed.map text ∧
    ∀ row ∈ talk.log.take talked.seen, talked.IsInput row → ¬ talked.IsPrompt row →
      row ∈ talked.fed ∨ Trimmed (talk.log.take talked.seen) row := by
  have h := fed_in_order_each_once talk_run (List.mem_singleton_self _)
  exact ⟨rfl, h.1, h.2.2.2.2.2 rfl⟩

def traceLabel : Label := .enqueue "g" "w" "w" "prime" .trace [] 2

lemma flood_run (n : ℕ) : ∃ st,
    Run (Guarded (Alone workers) (Step workers)) initial
      (replyLabels ++ List.replicate n traceLabel) st ∧
    st.supervisors = [idle] ∧ reply ∈ st.log ∧
    (∀ row ∈ st.log, row.kind = .turnInput → row = reply) ∧
    ∃ later ∈ st.log, sameSession later reply ∧ n + 1 ≤ later.seq := by
  induction n with
  | zero =>
    refine ⟨replied idle [], ?_, rfl, List.mem_singleton_self _, fun row hrow _ => ?_,
      reply, List.mem_singleton_self _, ⟨rfl, rfl⟩, le_refl _⟩
    · refine .cons ⟨⟨trivial, trivial⟩, .launch rfl fun _ h => ?_⟩
        (.cons ⟨⟨trivial, fun _ _ => rfl⟩, .enqueue rfl⟩ .nil)
      cases h
    · exact List.mem_singleton.mp hrow
  | succ n ih =>
    obtain ⟨st, hrun, hsups, hreply, hinput, later, hlater, hsame, hle⟩ := ih
    obtain ⟨table, row, henq⟩ :=
      BusTable.agentMsgEnqueue_succeeds st.table "g" "w" "w" "prime" .trace [] 2
    have hrow := (BusTable.agentMsgEnqueue_ok henq).1
    have hsame' : sameSession later row := by
      rw [hrow]
      exact hsame
    have hlt := (invariant_run hrun).ledger.seq_lt henq later hlater hsame'
    refine ⟨{ st with table, log := st.log ++ [row] }, ?_, hsups, List.mem_append_left _ hreply,
      forall_mem_snoc hinput fun hkind => ?_, row, by simp, ?_, by omega⟩
    · rw [List.replicate_succ', ← List.append_assoc]
      refine hrun.append (Run.single ⟨⟨trivial, fun hkind => ?_⟩, .enqueue henq⟩)
      cases hkind
    · rw [hrow] at hkind
      cases hkind
    · rw [hrow]
      exact ⟨rfl, rfl⟩

theorem trimmed_turn_input_is_not_fed : ∃ st sup,
    Run (Guarded (Alone workers) (Step workers)) initial
      (replyLabels ++ List.replicate maxMsgsPerSession traceLabel ++ [.query 0 []]) st ∧
    sup ∈ st.supervisors ∧ sup.phase = .feeding [] ∧ reply ∈ st.log.take sup.seen ∧
    sup.IsInput reply ∧ ¬ sup.IsPrompt reply ∧ reply ∉ sup.fed := by
  obtain ⟨st, hrun, hsups, hreply, hinput, later, hlater, hsame, hle⟩ := flood_run maxMsgsPerSession
  have h := invariant_run hrun
  have hnone : st.table.pending "g" "w" .turnInput = [] := by
    refine List.eq_nil_iff_forall_not_mem.mpr fun r hr => ?_
    obtain ⟨hmem, _, _, hkind, hunread⟩ := BusTable.mem_pending.mp hr
    obtain rfl := hinput r (h.unread_mem_log hmem hunread) hkind
    have hlt := h.ledger.recent reply hmem later hlater hsame
    have hseq : reply.seq = 1 := rfl
    omega
  have hrows : st.table.AgentMsgPending "g" "w" .turnInput [] := by
    rw [BusTable.AgentMsgPending, hnone]
    exact ⟨List.Perm.refl _, List.Pairwise.nil⟩
  have hk : st.supervisors[0]? = some idle := by
    rw [hsups]
    rfl
  refine ⟨_, { idle with phase := .feeding [], seen := st.log.length },
    hrun.append (Run.single ⟨⟨trivial, trivial⟩, .query hk rfl hrows⟩), ?_, rfl, ?_,
    ⟨rfl, rfl, rfl⟩, fun hp => ?_, fun hf => ?_⟩
  · simp [hsups]
  · rw [List.take_length]
    exact hreply
  · cases hp.2
  · cases hf

end WalkieTalkie.Turns.Feeding
