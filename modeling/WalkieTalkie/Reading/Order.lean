import WalkieTalkie.Reading.NoLoss

/-! The order of the messages of one session in the backlogs of `AgentRecv`. A backlog is sorted by
the clock of the enqueues and only then by sequence number, so a clock that steps back turns the
messages of a session around. While no enqueue reads a clock behind its session and the marks of the
reads succeed, every backlog has each session in order, and one read after another too. -/

namespace WalkieTalkie.Reading

open Proto Store Lib Lib.Runs
open Orchestration.Clients (Sorting)

def InOrder (rows : List AgentMsgRow) : Prop :=
  rows.Pairwise fun r r' => sameSession r r' → r.seq < r'.seq

def Reader.drained (rd : Reader) : List AgentMsgRow := rd.emitted.take rd.backlog.length

def NotBehind (st : State) : Label → Prop
  | .enqueue group session _ toAgent _ _ now => ∀ r ∈ st.bus.rows, r.groupName = group →
      r.sessionName = session → r.toAgent = toAgent → r.enqueuedAtMs.toInt64 ≤ now.toInt64
  | .run _ works _ => works = true
  | _ => True

instance (st : State) (l : Label) : Decidable (NotBehind st l) :=
  match l with
  | .enqueue group session _ toAgent _ _ now => inferInstanceAs (Decidable (∀ r ∈ st.bus.rows,
      r.groupName = group → r.sessionName = session → r.toAgent = toAgent →
      r.enqueuedAtMs.toInt64 ≤ now.toInt64))
  | .run _ works _ => inferInstanceAs (Decidable (works = true))
  | .agents _ | .broadcast _ | .abort _ | .request .. | .lag .. | .disconnect _
  | .supervisorMark .. | .restart => isTrue trivial

/-- A row that the next consuming read of a recipient may find. -/
def Visible (bus : BusTable) (group agent : String) (r : AgentMsgRow) : Prop :=
  r ∈ bus.rows ∧ r.groupName = group ∧ r.toAgent = agent ∧ 0 < r.enqueuedAtMs.toInt64 ∧
    r.consumedAtMs = none

def Steady (bus : BusTable) : Prop :=
  ∀ r ∈ bus.rows, ∀ r' ∈ bus.rows, sameSession r r' → r.toAgent = r'.toAgent → r.seq < r'.seq →
    r.enqueuedAtMs.toInt64 ≤ r'.enqueuedAtMs.toInt64

def Phase.inBacklog : Phase → Bool
  | .write _ | .mark .. => true
  | _ => false

def Phase.following : Phase → Bool
  | .live | .liveMark _ => true
  | _ => false

structure Draining (bus : BusTable) (rd : Reader) : Prop where
  ordered : InOrder rd.backlog
  started : rd.phase = .subscribed → rd.emitted = []
  split : rd.phase.inBacklog = true → rd.backlog.map AgentMsgRow.unconsumed =
    rd.emitted ++ rd.phase.rest.map AgentMsgRow.unconsumed
  settled : rd.phase.following = true → rd.follow = true ∧ rd.backlog.length ≤ rd.emitted.length
  whole : rd.follow = false → rd.drained = rd.emitted
  prefixed : rd.drained <+: rd.backlog.map AgentMsgRow.unconsumed
  passed : rd.consume = true → ∀ e ∈ rd.drained, ∀ x, Visible bus rd.group rd.agent x →
    sameSession e x → e.seq ≤ x.seq
  next : rd.consume = true → ∀ e ∈ rd.phase.rest, ∀ x, Visible bus rd.group rd.agent x →
    sameSession x e → x.seq < e.seq → x ∈ rd.phase.rest ∨ rd.phase.marking = some x

variable {O : Sorting} {log : List AgentMsgRow} {bus bus' : BusTable} {rd rd' : Reader} {works : Bool}
  {now : UInt64} {st st' : State}

/-- Nothing comes into sight but rows behind the whole log of their session. -/
def Behind (log : List AgentMsgRow) (bus bus' : BusTable) : Prop :=
  ∀ group agent x, Visible bus' group agent x →
    Visible bus group agent x ∨ ∀ r ∈ log, sameSession r x → r.seq < x.seq

lemma sameSession_symm {r r' : AgentMsgRow} (h : sameSession r r') : sameSession r' r :=
  ⟨h.1.symm, h.2.symm⟩

lemma inOrder_unconsumed {rows : List AgentMsgRow} :
    InOrder (rows.map AgentMsgRow.unconsumed) ↔ InOrder rows :=
  List.pairwise_map

lemma visible_mark {group session agent : String} {seq : ℕ} {g : String} {x : AgentMsgRow}
    (h : Visible (bus.agentMsgMarkConsumed group session seq now) g agent x) :
    Visible bus g agent x ∧ x.key ≠ (group, session, seq) := by
  obtain ⟨hx, hg, ha, hclock, hnone⟩ := h
  obtain ⟨o, ho, rfl⟩ := BusTable.mem_agentMsgMarkConsumed.mp hx
  split at hnone
  · cases hnone
  · next hk =>
    rw [if_neg hk] at hg ha hclock ⊢
    exact ⟨⟨ho, hg, ha, hclock, hnone⟩, hk⟩

lemma behind_mark (log : List AgentMsgRow) (bus : BusTable) (group session : String) (seq : ℕ)
    (now : UInt64) : Behind log bus (bus.agentMsgMarkConsumed group session seq now) :=
  fun _ _ _ hx => Or.inl (visible_mark hx).1

lemma behind_enqueue {group session fromAgent toAgent : String} {kind : AgentMsgKind}
    {payload : Bytes} {row : AgentMsgRow} (h : Ledger bus log)
    (henq : bus.agentMsgEnqueue group session fromAgent toAgent kind payload now = .ok (bus', row)) :
    Behind log bus bus' := by
  rintro g agent x ⟨hx, hvisible⟩
  rcases (((BusTable.agentMsgEnqueue_ok henq).2 x).mp hx).1 with hx | rfl
  · exact Or.inl ⟨hx, hvisible⟩
  · exact Or.inr (h.seq_lt henq)

lemma steady_mark (h : Steady bus) (group session : String) (seq : ℕ) (now : UInt64) :
    Steady (bus.agentMsgMarkConsumed group session seq now) := by
  intro r hr r' hr' hs hto hlt
  obtain ⟨o, ho, rfl⟩ := BusTable.mem_agentMsgMarkConsumed.mp hr
  obtain ⟨o', ho', rfl⟩ := BusTable.mem_agentMsgMarkConsumed.mp hr'
  have hold := h o ho o' ho'
  split <;> split <;> simp_all [sameSession, AgentMsgRow.consumedAt]

lemma steady_enqueue {group session fromAgent toAgent : String} {kind : AgentMsgKind}
    {payload : Bytes} {row : AgentMsgRow} (h : Steady bus) (hledger : Ledger bus log)
    (hclock : ∀ r ∈ bus.rows, r.groupName = group → r.sessionName = session →
      r.toAgent = toAgent → r.enqueuedAtMs.toInt64 ≤ now.toInt64)
    (henq : bus.agentMsgEnqueue group session fromAgent toAgent kind payload now = .ok (bus', row)) :
    Steady bus' := by
  obtain ⟨hrow, hmem⟩ := BusTable.agentMsgEnqueue_ok henq
  intro r hr r' hr' hs hto hlt
  rcases ((hmem r).mp hr).1 with hr | rfl
  · rcases ((hmem r').mp hr').1 with hr' | rfl
    · exact h r hr r' hr' hs hto hlt
    · subst hrow
      exact hclock r hr hs.1 hs.2 hto
  · rcases ((hmem r').mp hr').1 with hr' | rfl
    · have hlt' := hledger.seq_lt henq r'.unconsumed (hledger.logged r' hr') (sameSession_symm hs)
      simp only [AgentMsgRow.unconsumed] at hlt'
      omega
    · omega

lemma query_visible {r : AgentMsgRow} (h : r ∈ rd.query O bus) (hconsume : rd.consume = true)
    (hsince : rd.since = none) : Visible bus rd.group rd.agent r := by
  have hmem := (O.backlog_ordered _).mem_iff.mp (List.mem_of_mem_take h)
  obtain ⟨hr, hsel⟩ := List.mem_filter.mp hmem
  simp only [Bool.and_eq_true, Bool.or_eq_true, decide_eq_true_eq, Bool.not_eq_true', hsince,
    hconsume, Bool.true_eq_false, false_or, Option.getD_none] at hsel
  obtain ⟨⟨⟨⟨hg, ha⟩, _⟩, hclock⟩, hnone⟩ := hsel
  exact ⟨hr, hg, ha, hclock, hnone⟩

lemma sorted_inOrder (h : Steady bus) {group agent : String} {session : Option String}
    {since : Option UInt64} {unconsumedOnly : Bool} :
    InOrder (O.backlog (bus.backlogRows group agent session since unconsumedOnly)) := by
  obtain ⟨hperm, hsorted⟩ := O.backlog_ordered (bus.backlogRows group agent session since unconsumedOnly)
  have hnodup := hperm.nodup_iff.mpr ((List.Nodup.of_map _ bus.nodup).filter _)
  refine (List.Pairwise.and hnodup hsorted).imp_of_mem fun {r r'} hr hr' hboth hs => ?_
  obtain ⟨hne, hle⟩ := hboth
  obtain ⟨hr, hsel⟩ := List.mem_filter.mp (hperm.mem_iff.mp hr)
  obtain ⟨hr', hsel'⟩ := List.mem_filter.mp (hperm.mem_iff.mp hr')
  simp only [Bool.and_eq_true, decide_eq_true_eq] at hsel hsel'
  have hto : r'.toAgent = r.toAgent := hsel'.1.1.1.2.trans hsel.1.1.1.2.symm
  have hseq : r.seq ≠ r'.seq := by
    intro hseq
    refine hne (bus.eq_of_key hr hr' ?_)
    rw [AgentMsgRow.key, AgentMsgRow.key, hs.1, hs.2, hseq]
  rcases hle with hlt | ⟨_, hle⟩
  · by_contra hnot
    have hback := h r' hr' r hr (sameSession_symm hs) hto (by omega)
    simp only [Int64.lt_iff_toInt_lt, Int64.le_iff_toInt_le] at hlt hback
    omega
  · omega

lemma query_inOrder (h : Steady bus) : InOrder (rd.query O bus) :=
  List.Pairwise.sublist (List.take_sublist ..) (sorted_inOrder h)

lemma visible_query (h : Steady bus) (hsince : rd.since = none)
    {e x : AgentMsgRow} (he : e ∈ rd.query O bus) (hsession : rd.session.all (x.sessionName = ·) = true)
    (hx : Visible bus rd.group rd.agent x) (hs : sameSession x e) (hlt : x.seq < e.seq) :
    x ∈ rd.query O bus := by
  obtain ⟨hmem, hg, ha, hclock, hnone⟩ := hx
  have hrow : x ∈ bus.backlogRows rd.group rd.agent rd.session rd.since rd.consume := by
    refine List.mem_filter.mpr ⟨hmem, ?_⟩
    simp only [Bool.and_eq_true, decide_eq_true_eq, hsince, Option.getD_none, hnone, decide_true,
      Bool.or_true, and_true]
    exact ⟨⟨⟨hg, ha⟩, hsession⟩, hclock⟩
  have hsorted := (O.backlog_ordered _).mem_iff.mpr hrow
  have hinOrder : InOrder (O.backlog
      (bus.backlogRows rd.group rd.agent rd.session rd.since rd.consume)) := sorted_inOrder h
  rw [← List.take_append_drop backlogLimit (O.backlog _)] at hsorted hinOrder
  refine (List.mem_append.mp hsorted).resolve_right fun hdrop => ?_
  have hbefore := (List.pairwise_append.mp hinOrder).2.2 e he x hdrop (sameSession_symm hs)
  omega

lemma drained_split (h : rd.backlog.map AgentMsgRow.unconsumed =
    rd.emitted ++ rd.phase.rest.map AgentMsgRow.unconsumed) : rd.drained = rd.emitted := by
  have hlen := congrArg List.length h
  simp only [List.length_map, List.length_append] at hlen
  exact List.take_of_length_le (by omega)

lemma drained_mem {e : AgentMsgRow} (h : e ∈ rd.drained) : e ∈ rd.emitted :=
  List.mem_of_mem_take h

lemma Draining.keep (h : Draining bus rd) (hok : ReaderOk log rd) (hbus : Behind log bus bus') :
    Draining bus' rd where
  ordered := h.ordered
  started := h.started
  split := h.split
  settled := h.settled
  whole := h.whole
  prefixed := h.prefixed
  passed hconsume e he x hx hs := by
    rcases hbus _ _ x hx with hold | hnew
    · exact h.passed hconsume e he x hold hs
    · exact Nat.le_of_lt (hnew e (hok.emitted e (drained_mem he)) hs)
  next hconsume e he x hx hs hlt := by
    rcases hbus _ _ x hx with hold | hnew
    · exact h.next hconsume e he x hold hs hlt
    · have hlt' := hnew _ (hok.backlog e (hok.rest e he)).1 (sameSession_symm hs)
      simp only [AgentMsgRow.unconsumed] at hlt'
      omega

lemma Draining.query (h : Draining bus rd) (hsteady : Steady bus) (hok : ReaderOk log rd)
    (hphase : rd.phase = .subscribed) (hbus : ∀ r ∈ bus.rows, r.unconsumed ∈ log) :
    Draining bus { rd with phase := .write (rd.query O bus), backlog := rd.query O bus } where
  ordered := query_inOrder hsteady
  started hp := by cases hp
  split _ := by
    rw [h.started hphase]
    rfl
  settled hp := by cases hp
  whole _ := by rw [Reader.drained, h.started hphase, List.take_nil]
  prefixed := by
    rw [Reader.drained, h.started hphase, List.take_nil]
    exact List.nil_prefix
  passed _ e he := by
    rw [Reader.drained, h.started hphase, List.take_nil] at he
    cases he
  next hconsume e he x hx hs hlt := by
    refine Or.inl (visible_query hsteady (hok.since hconsume) he ?_ hx hs hlt)
    have hwants := (query_mem hbus he).2
    simp only [Reader.wants, Bool.and_eq_true] at hwants
    rw [hs.2]
    exact hwants.2

/-- The next row of a backlog is the least of its session that is in sight. -/
lemma Draining.least (h : Draining bus rd) {row : AgentMsgRow} {rest : List AgentMsgRow}
    (hphase : rd.phase = .write (row :: rest)) (hconsume : rd.consume = true) {x : AgentMsgRow}
    (hx : Visible bus rd.group rd.agent x) (hs : sameSession row x) : row.seq ≤ x.seq := by
  by_contra hlt
  have hnext := h.next hconsume row
  have hsplit := h.split (by rw [hphase]; rfl)
  rw [hphase] at hnext hsplit
  have hrows : InOrder (row :: rest) := by
    have hall := inOrder_unconsumed.mpr h.ordered
    rw [hsplit] at hall
    exact inOrder_unconsumed.mp (List.pairwise_append.mp hall).2.1
  rcases hnext (List.mem_cons_self ..) x hx (sameSession_symm hs) (by omega) with hmem | hmark
  · rcases List.mem_cons.mp hmem with rfl | hmem
    · omega
    · have hlt' := (List.pairwise_cons.mp hrows).1 x hmem hs
      omega
  · cases hmark

lemma Draining.backlogEnd (h : Draining bus rd) (hphase : rd.phase = .write []) :
    Draining bus { rd with phase := if rd.follow then .live else .closed, ended := true } := by
  have hsplit := h.split (by rw [hphase]; rfl)
  have hdrained := drained_split hsplit
  rw [hphase] at hsplit
  have hlen : rd.backlog.length ≤ rd.emitted.length := by
    have hlen := congrArg List.length hsplit
    simp only [List.length_map, List.length_append, Phase.rest, List.length_nil] at hlen
    omega
  cases hf : rd.follow with
  | true => exact ⟨h.ordered, fun hp => (by cases hp), fun hp => (by cases hp), fun _ => ⟨rfl, hlen⟩,
      fun hp => (by cases hp), h.prefixed, h.passed, fun _ _ he => (by cases he)⟩
  | false => exact ⟨h.ordered, fun hp => (by cases hp), fun hp => (by cases hp),
      fun hp => (by cases hp), fun _ => h.whole hf, h.prefixed, h.passed, fun _ _ he => (by cases he)⟩

lemma Draining.write {row : AgentMsgRow} {rest : List AgentMsgRow} (h : Draining bus rd)
    (hphase : rd.phase = .write (row :: rest)) :
    Draining bus (rd.emit row (if rd.consume then .mark row rest else .write rest)) := by
  have hsplit := h.split (by rw [hphase]; rfl)
  have hdrained := drained_split hsplit
  have hnext := h.next
  rw [hphase] at hsplit hnext
  have hsplit' : rd.backlog.map AgentMsgRow.unconsumed =
      (rd.emitted ++ [row.unconsumed]) ++ rest.map AgentMsgRow.unconsumed := by
    rw [List.append_assoc]
    exact hsplit
  have hwhole : (rd.emitted ++ [row.unconsumed]).take rd.backlog.length =
      rd.emitted ++ [row.unconsumed] := by
    have hlen := congrArg List.length hsplit'
    simp only [List.length_map, List.length_append] at hlen
    refine List.take_of_length_le ?_
    rw [List.length_append]
    omega
  have hprefix : (rd.emitted ++ [row.unconsumed]).take rd.backlog.length <+:
      rd.backlog.map AgentMsgRow.unconsumed := by
    rw [hsplit']
    exact (List.take_prefix ..).trans (List.prefix_append ..)
  have hpassed : rd.consume = true →
      ∀ e ∈ (rd.emitted ++ [row.unconsumed]).take rd.backlog.length, ∀ x,
        Visible bus rd.group rd.agent x → sameSession e x → e.seq ≤ x.seq := by
    intro hconsume e he x hx hs
    rcases List.mem_append.mp (List.mem_of_mem_take he) with he | he
    · exact h.passed hconsume e (hdrained ▸ he) x hx hs
    · rw [List.mem_singleton.mp he] at hs ⊢
      exact h.least hphase hconsume hx hs
  have hrest : rd.consume = true → ∀ e ∈ rest, ∀ x, Visible bus rd.group rd.agent x →
      sameSession x e → x.seq < e.seq → x ∈ rest ∨ x = row := by
    intro hconsume e he x hx hs hlt
    rcases hnext hconsume e (List.mem_cons_of_mem _ he) x hx hs hlt with hmem | hmark
    · exact (List.mem_cons.mp hmem).symm
    · cases hmark
  cases hc : rd.consume with
  | true =>
    refine ⟨h.ordered, fun hp => (by cases hp), fun _ => hsplit', fun hp => (by cases hp),
      fun _ => hwhole, hprefix, hpassed, fun _ e he x hx hs hlt => ?_⟩
    exact (hrest hc e he x hx hs hlt).imp_right fun heq => by rw [heq]; rfl
  | false =>
    refine ⟨h.ordered, fun hp => (by cases hp), fun _ => hsplit', fun hp => (by cases hp),
      fun _ => hwhole, hprefix, hpassed, fun hconsume => ?_⟩
    exact (Bool.noConfusion (hc.symm.trans hconsume))

lemma Draining.mark {row : AgentMsgRow} {rest : List AgentMsgRow} (h : Draining bus rd)
    (hok : ReaderOk log rd) (hphase : rd.phase = .mark row rest) :
    Draining (bus.agentMsgMarkConsumed rd.group row.sessionName row.seq now)
      { rd with phase := .write rest } := by
  have hsplit := h.split (by rw [hphase]; rfl)
  have hnext := h.next
  have hmarking := hok.marking row (by rw [hphase]; rfl)
  rw [hphase] at hsplit hnext
  refine ⟨h.ordered, fun hp => (by cases hp), fun _ => hsplit, fun hp => (by cases hp), h.whole,
    h.prefixed, fun hconsume e he x hx => h.passed hconsume e he x (visible_mark hx).1,
    fun hconsume e he x hx hs hlt => ?_⟩
  obtain ⟨hx, hk⟩ := visible_mark hx
  rcases hnext hconsume e he x hx hs hlt with hmem | hmark
  · exact Or.inl hmem
  · obtain rfl := Option.some.inj hmark
    refine (hk ?_).elim
    rw [AgentMsgRow.key, hx.2.1]

lemma Draining.closed (h : Draining bus rd) : Draining bus rd.close :=
  ⟨h.ordered, fun hp => (by cases hp), fun hp => (by cases hp), fun hp => (by cases hp),
    h.whole, h.prefixed, h.passed, fun _ _ he => (by cases he)⟩

lemma Draining.setRx (h : Draining bus rd) (rx : List AgentMsgRow) : Draining bus { rd with rx } :=
  ⟨h.ordered, h.started, h.split, h.settled, h.whole, h.prefixed, h.passed, h.next⟩

lemma Draining.receive (h : Draining bus rd) (row : AgentMsgRow) : Draining bus (rd.receive row) := by
  rw [Reader.receive]
  split
  · exact h
  · exact h.setRx _

lemma Draining.recv {row : AgentMsgRow} {rest : List AgentMsgRow} (h : Draining bus rd)
    (hphase : rd.phase = .live) :
    Draining bus ({ rd with rx := rest }.emit row (if rd.consume then .liveMark row else .live)) := by
  obtain ⟨hfollow, hlen⟩ := h.settled (by rw [hphase]; rfl)
  have hlen' : rd.backlog.length ≤ (rd.emitted ++ [row.unconsumed]).length := by
    rw [List.length_append]
    omega
  have hdrained : (rd.emitted ++ [row.unconsumed]).take rd.backlog.length = rd.drained :=
    List.take_append_of_le_length hlen
  have hprefix : (rd.emitted ++ [row.unconsumed]).take rd.backlog.length <+:
      rd.backlog.map AgentMsgRow.unconsumed := by
    rw [hdrained]
    exact h.prefixed
  have hwhole : rd.follow = false →
      (rd.emitted ++ [row.unconsumed]).take rd.backlog.length = rd.emitted ++ [row.unconsumed] :=
    fun hf => Bool.noConfusion (hf.symm.trans hfollow)
  have hpassed : rd.consume = true →
      ∀ e ∈ (rd.emitted ++ [row.unconsumed]).take rd.backlog.length, ∀ x,
        Visible bus rd.group rd.agent x → sameSession e x → e.seq ≤ x.seq := by
    rw [hdrained]
    exact h.passed
  by_cases hc : rd.consume = true
  · rw [if_pos hc]
    exact ⟨h.ordered, fun hp => (by cases hp), fun hp => (by cases hp), fun _ => ⟨hfollow, hlen'⟩,
      hwhole, hprefix, hpassed, fun _ _ he => (by cases he)⟩
  · rw [if_neg hc]
    exact ⟨h.ordered, fun hp => (by cases hp), fun hp => (by cases hp), fun _ => ⟨hfollow, hlen'⟩,
      hwhole, hprefix, hpassed, fun _ _ he => (by cases he)⟩

lemma Draining.liveMark {row : AgentMsgRow} (h : Draining bus rd) (hphase : rd.phase = .liveMark row) :
    Draining bus { rd with phase := .live } :=
  ⟨h.ordered, fun hp => (by cases hp), fun hp => (by cases hp),
    fun _ => h.settled (by rw [hphase]; rfl), h.whole, h.prefixed, h.passed, fun _ _ he => (by cases he)⟩

lemma Draining.ran (h : Draining bus rd) (hok : ReaderOk log rd) (hsteady : Steady bus)
    (hbus : ∀ r ∈ bus.rows, r.unconsumed ∈ log) (hworks : works = true)
    (hran : Ran O bus rd works now bus' rd') : Draining bus' rd' := by
  subst hworks
  cases hran with
  | query hphase => exact h.query hsteady hok hphase hbus
  | backlogEnd hphase => exact h.backlogEnd hphase
  | write hphase => exact h.write hphase
  | mark hphase => exact h.mark hok hphase
  | recv hphase => exact h.recv hphase
  | skip => exact h.setRx _
  | liveMark hphase => exact (h.keep hok (behind_mark _ _ _ _ _ _)).liveMark hphase

structure Orderly (st : State) : Prop where
  sound : Sound st
  steady : Steady st.bus
  readers : ∀ rd ∈ st.readers, Draining st.bus rd

lemma step_behind {l : Label} (h : Sound st) (hstep : step O st l = some st') :
    Behind st.log st.bus st'.bus := by
  cases step_moves hstep with
  | agents | broadcast | abort | request | lag | disconnect | restart => exact fun _ _ _ => Or.inl
  | enqueue henq => exact behind_enqueue h.ledger henq
  | run _ hran =>
    rcases hran.bus with hb | ⟨row, _, hb⟩
    · rw [hb]
      exact fun _ _ _ => Or.inl
    · rw [hb]
      exact behind_mark _ _ _ _ _ _
  | supervisorMark => exact behind_mark _ _ _ _ _ _

lemma step_steady {l : Label} (h : Orderly st) (hcond : NotBehind st l)
    (hstep : step O st l = some st') : Steady st'.bus := by
  cases step_moves hstep with
  | agents | broadcast | abort | request | lag | disconnect | restart => exact h.steady
  | enqueue henq => exact steady_enqueue h.steady h.sound.ledger hcond henq
  | run _ hran =>
    rcases hran.bus with hb | ⟨row, _, hb⟩
    · rw [hb]
      exact h.steady
    · rw [hb]
      exact steady_mark h.steady _ _ _ _
  | supervisorMark => exact steady_mark h.steady _ _ _ _

lemma draining_subscribe (st : State) (me : AgentRow) (session : Option String)
    (sinceMs : Option UInt64) (follow consume : Bool) :
    Draining st.bus (subscribe st me session sinceMs follow consume) :=
  ⟨List.Pairwise.nil, fun _ => rfl, fun hp => (by cases hp), fun hp => (by cases hp),
    fun _ => rfl, List.nil_prefix, fun _ _ he => (by cases he), fun _ _ he => (by cases he)⟩

lemma orderly_step {l : Label} (h : Orderly st) (hcond : NotBehind st l)
    (hstep : step O st l = some st') : Orderly st' := by
  refine ⟨sound_step h.sound hstep, step_steady h hcond hstep, ?_⟩
  have hkeep : ∀ rd ∈ st.readers, Draining st'.bus rd := fun rd hrd =>
    (h.readers rd hrd).keep (h.sound.readers rd hrd) (step_behind h.sound hstep)
  cases step_moves hstep with
  | agents | abort | enqueue | supervisorMark => exact hkeep
  | broadcast => exact forall_readers_map hkeep fun _ hrd => hrd.receive _
  | request => exact forall_mem_snoc hkeep (draining_subscribe ..)
  | run hrd hran =>
    have hmem := List.mem_of_getElem? hrd
    exact forall_mem_set hkeep ((h.readers _ hmem).ran (h.sound.readers _ hmem) h.steady
      h.sound.ledger.logged hcond hran)
  | lag hrd => exact forall_mem_set hkeep ((hkeep _ (List.mem_of_getElem? hrd)).setRx _)
  | disconnect hrd => exact forall_mem_set hkeep (hkeep _ (List.mem_of_getElem? hrd)).closed
  | restart => exact forall_readers_map hkeep fun _ hrd => hrd.closed

lemma orderly_initial : Orderly initial :=
  ⟨sound_initial, fun _ hr => (by cases hr), fun _ hr => (by cases hr)⟩

lemma orderly_run {ls : List Label} (h : Orderly st)
    (hrun : Run (Guarded NotBehind (Fires (step O))) st ls st') : Orderly st' :=
  hrun.invariant (fun _ _ _ hi hs => orderly_step hi hs.1 hs.2) h

/-- Reads of `agent` that start when `written` is written find nothing before it. -/
structure ReadOn (written : List AgentMsgRow) (group agent : String) (opened : ℕ) (st : State) :
    Prop where
  logged : ∀ e ∈ written, e ∈ st.log
  passed : ∀ e ∈ written, ∀ x, Visible st.bus group agent x → sameSession e x → e.seq ≤ x.seq
  later : ∀ j rd, opened ≤ j → st.readers[j]? = some rd → rd.consume = true → rd.group = group →
    rd.agent = agent → ∀ e ∈ written, ∀ r ∈ rd.backlog, sameSession e r → e.seq ≤ r.seq

lemma Ran.backlog (h : Ran O bus rd works now bus' rd') : rd'.group = rd.group ∧
    rd'.agent = rd.agent ∧ rd'.consume = rd.consume ∧ rd'.since = rd.since ∧
    (rd'.backlog = rd.backlog ∨ rd'.backlog = rd.query O bus) := by
  cases h with
  | query => exact ⟨rfl, rfl, rfl, rfl, Or.inr rfl⟩
  | backlogEnd | write | mark | recv | skip | liveMark => exact ⟨rfl, rfl, rfl, rfl, Or.inl rfl⟩

lemma receive_backlog (row : AgentMsgRow) (rd : Reader) : (rd.receive row).group = rd.group ∧
    (rd.receive row).agent = rd.agent ∧ (rd.receive row).consume = rd.consume ∧
    (rd.receive row).backlog = rd.backlog := by
  rw [Reader.receive]
  split <;> exact ⟨rfl, rfl, rfl, rfl⟩

lemma step_backlog {l : Label} (hstep : step O st l = some st') {j : ℕ}
    (h : st'.readers[j]? = some rd') : rd'.backlog = [] ∨
    ∃ rd, st.readers[j]? = some rd ∧ rd'.group = rd.group ∧ rd'.agent = rd.agent ∧
      rd'.consume = rd.consume ∧ (rd'.backlog = rd.backlog ∨ rd'.backlog = rd.query O st.bus) := by
  cases step_moves hstep with
  | agents | enqueue | abort | supervisorMark =>
    exact Or.inr ⟨rd', h, rfl, rfl, rfl, Or.inl rfl⟩
  | @broadcast i row =>
    rw [List.getElem?_map] at h
    obtain ⟨rd, hrd, rfl⟩ := Option.map_eq_some_iff.mp h
    obtain ⟨hg, ha, hc, hb⟩ := receive_backlog row rd
    exact Or.inr ⟨rd, hrd, hg, ha, hc, Or.inl hb⟩
  | request =>
    rcases getElem?_snoc_cases h with h | ⟨_, rfl⟩
    · exact Or.inr ⟨rd', h, rfl, rfl, rfl, Or.inl rfl⟩
    · exact Or.inl rfl
  | run hrd hran =>
    rcases getElem?_set_cases h with ⟨_, h⟩ | ⟨rfl, rfl⟩
    · exact Or.inr ⟨rd', h, rfl, rfl, rfl, Or.inl rfl⟩
    · obtain ⟨hg, ha, hc, _, hb⟩ := hran.backlog
      exact Or.inr ⟨_, hrd, hg, ha, hc, hb⟩
  | lag hrd | disconnect hrd =>
    rcases getElem?_set_cases h with ⟨_, h⟩ | ⟨rfl, rfl⟩
    · exact Or.inr ⟨rd', h, rfl, rfl, rfl, Or.inl rfl⟩
    · exact Or.inr ⟨_, hrd, rfl, rfl, rfl, Or.inl rfl⟩
  | restart =>
    rw [List.getElem?_map] at h
    obtain ⟨rd, hrd, rfl⟩ := Option.map_eq_some_iff.mp h
    exact Or.inr ⟨rd, hrd, rfl, rfl, rfl, Or.inl rfl⟩

lemma step_log {l : Label} (hstep : step O st l = some st') : ∀ r ∈ st.log, r ∈ st'.log := by
  cases step_moves hstep with
  | enqueue => exact fun _ hr => List.mem_append_left _ hr
  | agents | broadcast | abort | request | run | lag | disconnect | supervisorMark | restart =>
    exact fun _ hr => hr

lemma readOn_step {written : List AgentMsgRow} {group agent : String} {opened : ℕ} {l : Label}
    (hsound : Sound st) (h : ReadOn written group agent opened st)
    (hstep : step O st l = some st') : ReadOn written group agent opened st' where
  logged e he := step_log hstep e (h.logged e he)
  passed e he x hx hs := by
    rcases step_behind hsound hstep group agent x hx with hold | hnew
    · exact h.passed e he x hold hs
    · exact Nat.le_of_lt (hnew e (h.logged e he) hs)
  later j rd' hj hrd' hconsume hgroup hagent e he r hr hs := by
    rcases step_backlog hstep hrd' with hnil | ⟨rd, hrd, hg, ha, hc, hb⟩
    · rw [hnil] at hr
      cases hr
    · rw [hc] at hconsume
      rw [hg] at hgroup
      rw [ha] at hagent
      rcases hb with hb | hb
      · rw [hb] at hr
        exact h.later j rd hj hrd hconsume hgroup hagent e he r hr hs
      · rw [hb] at hr
        have hsince := (hsound.readers rd (List.mem_of_getElem? hrd)).since hconsume
        have hx := query_visible hr hconsume hsince
        rw [hgroup, hagent] at hx
        exact h.passed e he r hx hs

lemma Draining.drained_inOrder (h : Draining bus rd) : InOrder rd.drained :=
  List.Pairwise.sublist h.prefixed.sublist (inOrder_unconsumed.mpr h.ordered)

/-- One read after another: `earlier` is the run up to the moment when the second read is opened. -/
theorem recv_in_seq_order {earlier later : List Label} {st₁ st₂ : State}
    (hearlier : Run (Guarded NotBehind (Fires (step O))) initial earlier st₁)
    (hlater : Run (Guarded NotBehind (Fires (step O))) st₁ later st₂) :
    (∀ rd ∈ st₂.readers, InOrder rd.backlog ∧ InOrder rd.drained ∧
      (rd.follow = false → rd.drained = rd.emitted)) ∧
    ∀ first ∈ st₁.readers, first.consume = true → ∀ j second, st₁.readers.length ≤ j →
      st₂.readers[j]? = some second → second.consume = true → second.group = first.group →
      second.agent = first.agent →
      ∀ e ∈ first.drained, ∀ r ∈ second.drained, sameSession e r → e.seq ≤ r.seq := by
  have h₁ := orderly_run orderly_initial hearlier
  have h₂ := orderly_run h₁ hlater
  refine ⟨fun rd hrd => ?_, fun first hfirst hconsume j second hj hsecond hc hg ha e he r hr hs => ?_⟩
  · have hdraining := h₂.readers rd hrd
    exact ⟨hdraining.ordered, hdraining.drained_inOrder, hdraining.whole⟩
  · have hstart : ReadOn first.drained first.group first.agent st₁.readers.length st₁ := by
      refine ⟨fun e he => ?_, (h₁.readers first hfirst).passed hconsume, fun j rd hj hrd => ?_⟩
      · exact (h₁.sound.readers first hfirst).emitted e (drained_mem he)
      · obtain ⟨hlt, _⟩ := List.getElem?_eq_some_iff.mp hrd
        omega
    have hend := hlater.invariant
      (I := fun st => Orderly st ∧ ReadOn first.drained first.group first.agent st₁.readers.length st)
      (fun _ _ _ hi hs => ⟨orderly_step hi.1 hs.1 hs.2, readOn_step hi.1.sound hi.2 hs.2⟩) ⟨h₁, hstart⟩
    have hmem := (h₂.readers second (List.mem_of_getElem? hsecond)).prefixed.subset hr
    obtain ⟨o, ho, rfl⟩ := List.mem_map.mp hmem
    exact hend.2.later j second hj hsecond hc hg ha e he o ho hs

def sent (now : UInt64) : Label := .enqueue "team" "dev" "dev" "prime" .turnOutput [104, 105] now

def read (i : ℕ) (rows : ℕ) : List Label :=
  .request [1] none none false true :: List.replicate (2 * rows + 2) (.run i true 9)

theorem recv_in_seq_order_twice : ∃ st₁ st₂,
    execute (restrict NotBehind (step .stable)) initial
      ([.agents primes, sent 5, sent 5] ++ read 0 2) = some st₁ ∧
    execute (restrict NotBehind (step .stable)) st₁ (sent 7 :: read 1 1) = some st₂ ∧
    st₂.readers.map (fun rd => rd.emitted.map AgentMsgRow.seq) = [[1, 2], [3]] ∧
    ∀ rd ∈ st₂.readers, InOrder rd.backlog ∧ InOrder rd.drained ∧
      (rd.follow = false → rd.drained = rd.emitted) := by
  have heval : ((execute (restrict NotBehind (step .stable)) initial
      ([.agents primes, sent 5, sent 5] ++ read 0 2)).bind fun st =>
      (execute (restrict NotBehind (step .stable)) st (sent 7 :: read 1 1)).map fun st =>
        st.readers.map fun rd => rd.emitted.map AgentMsgRow.seq) = some [[1, 2], [3]] := by
    decide +kernel
  obtain ⟨st₁, hst₁, hmap⟩ := Option.bind_eq_some_iff.mp heval
  obtain ⟨st₂, hst₂, hseqs⟩ := Option.map_eq_some_iff.mp hmap
  exact ⟨st₁, st₂, hst₁, hst₂, hseqs,
    (recv_in_seq_order (execute_restrict_run hst₁) (execute_restrict_run hst₂)).1⟩

def turned : List AgentMsgRow :=
  [⟨"team", "dev", 2, "dev", "prime", .turnOutput, [104, 105], 1000, none⟩,
    ⟨"team", "dev", 1, "dev", "prime", .turnOutput, [104, 105], 2000, none⟩]

lemma turned_not_inOrder : ¬ InOrder turned := by
  intro h
  have hlt := (List.pairwise_cons.mp h).1 _ (List.mem_singleton_self _) ⟨rfl, rfl⟩
  exact absurd hlt (by decide)

theorem stepped_back_clock_turns_a_session_around : ∃ st rd,
    execute (step .stable) initial ([.agents primes, sent 2000, sent 1000] ++ read 0 2) = some st ∧
    rd ∈ st.readers ∧ rd.consume = true ∧ ¬ InOrder rd.backlog ∧ ¬ InOrder rd.emitted := by
  have heval : (execute (step .stable) initial
      ([.agents primes, sent 2000, sent 1000] ++ read 0 2)).map (fun st =>
        st.readers.map fun rd => (rd.consume, rd.backlog, rd.emitted)) =
      some [(true, turned, turned)] := by
    decide +kernel
  obtain ⟨st, hst, hmap⟩ := Option.map_eq_some_iff.mp heval
  obtain ⟨rd, hrd, hrows⟩ : ∃ rd ∈ st.readers, (rd.consume, rd.backlog, rd.emitted) = _ :=
    List.mem_map.mp (by rw [hmap]; exact List.mem_singleton_self _)
  obtain ⟨hconsume, hrows⟩ := Prod.mk.inj hrows
  obtain ⟨hbacklog, hemitted⟩ := Prod.mk.inj hrows
  refine ⟨st, rd, hst, hrd, hconsume, ?_, ?_⟩
  · rw [hbacklog]
    exact turned_not_inOrder
  · rw [hemitted]
    exact turned_not_inOrder

end WalkieTalkie.Reading
