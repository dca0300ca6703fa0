import WalkieTalkie.Reading.System
import WalkieTalkie.Store.Ledger

/-! Consume-on-read never loses a message. What a reader marks it has written before, and it was
addressed to the agent of the token that it was asked with; so a row that no connection has written
and no supervisor has marked is unconsumed, and the next consuming reader finds and writes it. -/

namespace WalkieTalkie.Reading

open Proto Store Lib Lib.Runs
open Orchestration.Clients (Sorting)

structure ReaderOk (log : List AgentMsgRow) (rd : Reader) : Prop where
  rx : ∀ r ∈ rd.rx, r ∈ log
  emitted : ∀ r ∈ rd.emitted, r ∈ log
  backlog : ∀ r ∈ rd.backlog, r.unconsumed ∈ log ∧ rd.wants r = true
  rest : ∀ r ∈ rd.phase.rest, r ∈ rd.backlog
  marking : ∀ row ∈ rd.phase.marking, rd.consume = true ∧ rd.wants row = true ∧
    row.unconsumed ∈ log ∧ row.unconsumed ∈ rd.emitted
  covered : rd.phase ≠ .closed → ∀ r ∈ rd.backlog, r.unconsumed ∈ rd.emitted ∨ r ∈ rd.phase.rest
  ended : rd.ended = true → ∀ r ∈ rd.backlog, r.unconsumed ∈ rd.emitted
  fresh : rd.phase = .subscribed → rd.ended = false
  since : rd.consume = true → rd.since = none

structure Sound (st : State) : Prop where
  ledger : Ledger st.bus st.log
  inFlight : ∀ r ∈ st.inFlight, r ∈ st.log
  readers : ∀ rd ∈ st.readers, ReaderOk st.log rd
  consumed : ∀ r ∈ st.bus.rows, r.consumedAtMs ≠ none →
    (∃ rd ∈ st.readers, r.unconsumed ∈ rd.emitted) ∨ r.key ∈ st.supervised

variable {O : Sorting} {log : List AgentMsgRow} {bus bus' : BusTable} {rd rd' : Reader} {works : Bool}
  {now : UInt64} {st st' : State}

lemma query_mem (hbus : ∀ r ∈ bus.rows, r.unconsumed ∈ log) {r : AgentMsgRow}
    (h : r ∈ rd.query O bus) : r.unconsumed ∈ log ∧ rd.wants r = true := by
  have hmem := (O.backlog_ordered _).mem_iff.mp (List.mem_of_mem_take h)
  obtain ⟨hr, hsel⟩ := List.mem_filter.mp hmem
  refine ⟨hbus r hr, ?_⟩
  simp only [Bool.and_eq_true] at hsel
  simp only [Reader.wants, Bool.and_eq_true]
  exact hsel.1.1

lemma ReaderOk.grow (h : ReaderOk log rd) (row : AgentMsgRow) : ReaderOk (log ++ [row]) rd where
  rx r hr := List.mem_append_left _ (h.rx r hr)
  emitted r hr := List.mem_append_left _ (h.emitted r hr)
  backlog r hr := ⟨List.mem_append_left _ (h.backlog r hr).1, (h.backlog r hr).2⟩
  rest := h.rest
  marking r hr := by
    obtain ⟨hc, hw, hlog, he⟩ := h.marking r hr
    exact ⟨hc, hw, List.mem_append_left _ hlog, he⟩
  covered := h.covered
  ended := h.ended
  fresh := h.fresh
  since := h.since

lemma ReaderOk.close (h : ReaderOk log rd) : ReaderOk log rd.close where
  rx := h.rx
  emitted := h.emitted
  backlog := h.backlog
  rest _ hr := by cases hr
  marking _ hr := by cases hr
  covered hclosed := (hclosed rfl).elim
  ended := h.ended
  fresh hphase := by cases hphase
  since := h.since

lemma ReaderOk.setRx (h : ReaderOk log rd) {rx : List AgentMsgRow} (hrx : ∀ r ∈ rx, r ∈ log) :
    ReaderOk log { rd with rx } where
  rx := hrx
  emitted := h.emitted
  backlog := h.backlog
  rest := h.rest
  marking := h.marking
  covered := h.covered
  ended := h.ended
  fresh := h.fresh
  since := h.since

lemma ReaderOk.receive (h : ReaderOk log rd) {row : AgentMsgRow} (hrow : row ∈ log) :
    ReaderOk log (rd.receive row) := by
  rw [Reader.receive]
  split
  · exact h
  · exact h.setRx (forall_mem_snoc h.rx hrow)

lemma Ran.emitted (h : Ran O bus rd works now bus' rd') : ∀ r ∈ rd.emitted, r ∈ rd'.emitted := by
  cases h with
  | query | backlogEnd | mark | skip | liveMark => exact fun _ hr => hr
  | write | recv => exact fun _ hr => List.mem_append_left _ hr

lemma ReaderOk.query (h : ReaderOk log rd) (hbus : ∀ r ∈ bus.rows, r.unconsumed ∈ log)
    (hphase : rd.phase = .subscribed) :
    ReaderOk log { rd with phase := .write (rd.query O bus), backlog := rd.query O bus } where
  rx := h.rx
  emitted := h.emitted
  backlog _ hr := query_mem hbus hr
  rest _ hr := hr
  marking _ hr := by cases hr
  covered _ _ hr := Or.inr hr
  ended hended := by
    rw [h.fresh hphase] at hended
    cases hended
  fresh hp := by cases hp
  since := h.since

lemma ReaderOk.backlogEnd (h : ReaderOk log rd) (hphase : rd.phase = .write []) :
    ReaderOk log { rd with phase := if rd.follow then .live else .closed, ended := true } := by
  have hall : ∀ r ∈ rd.backlog, r.unconsumed ∈ rd.emitted := by
    intro r hr
    refine (h.covered (by rw [hphase]; exact Phase.noConfusion) r hr).resolve_right ?_
    rw [hphase]
    exact List.not_mem_nil
  cases rd.follow with
  | true => exact ⟨h.rx, h.emitted, h.backlog, fun _ hr => (by cases hr), fun _ hr => (by cases hr),
      fun _ r hr => Or.inl (hall r hr), fun _ => hall, fun hp => (by cases hp), h.since⟩
  | false => exact ⟨h.rx, h.emitted, h.backlog, fun _ hr => (by cases hr), fun _ hr => (by cases hr),
      fun _ r hr => Or.inl (hall r hr), fun _ => hall, fun hp => (by cases hp), h.since⟩

lemma ReaderOk.write {row : AgentMsgRow} {rest : List AgentMsgRow} (h : ReaderOk log rd)
    (hphase : rd.phase = .write (row :: rest)) :
    ReaderOk log (rd.emit row (if rd.consume then .mark row rest else .write rest)) := by
  have hrest : ∀ r ∈ row :: rest, r ∈ rd.backlog := by
    have hmem := h.rest
    rwa [hphase] at hmem
  have hcovered : ∀ r ∈ rd.backlog, r.unconsumed ∈ rd.emitted ++ [row.unconsumed] ∨ r ∈ rest := by
    intro r hr
    have hr' := h.covered (by rw [hphase]; exact Phase.noConfusion) r hr
    rw [hphase] at hr'
    rcases hr' with hr' | hr'
    · exact Or.inl (List.mem_append_left _ hr')
    · rcases List.mem_cons.mp hr' with rfl | hr'
      · exact Or.inl (List.mem_append_right _ (List.mem_singleton_self _))
      · exact Or.inr hr'
  have hended : rd.ended = true → ∀ r ∈ rd.backlog, r.unconsumed ∈ rd.emitted ++ [row.unconsumed] :=
    fun he r hr => List.mem_append_left _ (h.ended he r hr)
  have hemitted : ∀ r ∈ rd.emitted ++ [row.unconsumed], r ∈ log :=
    forall_mem_snoc h.emitted (h.backlog _ (hrest row (List.mem_cons_self ..))).1
  cases hc : rd.consume with
  | true =>
    refine ⟨h.rx, hemitted, h.backlog, fun r hr => hrest r (List.mem_cons_of_mem _ hr), ?_,
      fun _ => hcovered, hended, fun hp => (by cases hp), h.since⟩
    intro r hr
    obtain rfl := Option.some.inj hr
    obtain ⟨hlog, hw⟩ := h.backlog _ (hrest row (List.mem_cons_self ..))
    exact ⟨hc, hw, hlog, List.mem_append_right _ (List.mem_singleton_self _)⟩
  | false =>
    exact ⟨h.rx, hemitted, h.backlog, fun r hr => hrest r (List.mem_cons_of_mem _ hr),
      fun _ hr => (by cases hr), fun _ => hcovered, hended, fun hp => (by cases hp), h.since⟩

lemma ReaderOk.mark {row : AgentMsgRow} {rest : List AgentMsgRow} (h : ReaderOk log rd)
    (hphase : rd.phase = .mark row rest) : ReaderOk log { rd with phase := .write rest } := by
  have hrest := h.rest
  have hcovered := h.covered (by rw [hphase]; exact Phase.noConfusion)
  rw [hphase] at hrest hcovered
  exact ⟨h.rx, h.emitted, h.backlog, hrest, fun _ hr => (by cases hr), fun _ => hcovered, h.ended,
    fun hp => (by cases hp), h.since⟩

lemma ReaderOk.recv {row : AgentMsgRow} {rest : List AgentMsgRow} (h : ReaderOk log rd)
    (hfresh : ∀ r ∈ log, r.unconsumed ∈ log) (hphase : rd.phase = .live)
    (hrx : rd.rx = row :: rest) (hw : rd.wants row = true) :
    ReaderOk log ({ rd with rx := rest }.emit row (if rd.consume then .liveMark row else .live)) := by
  have hlog : ∀ r ∈ row :: rest, r ∈ log := by
    rw [← hrx]
    exact h.rx
  have hcovered := h.covered (by rw [hphase]; exact Phase.noConfusion)
  rw [hphase] at hcovered
  have hall : ∀ r ∈ rd.backlog, r.unconsumed ∈ rd.emitted ++ [row.unconsumed] := by
    intro r hr
    exact List.mem_append_left _ ((hcovered r hr).resolve_right List.not_mem_nil)
  have hrest : ∀ r ∈ rest, r ∈ log := fun r hr => hlog r (List.mem_cons_of_mem _ hr)
  have hemitted : ∀ r ∈ rd.emitted ++ [row.unconsumed], r ∈ log :=
    forall_mem_snoc h.emitted (hfresh _ (hlog row (List.mem_cons_self ..)))
  by_cases hc : rd.consume = true
  · rw [if_pos hc]
    refine ⟨hrest, hemitted, h.backlog, fun _ hr => (by cases hr), ?_, fun _ r hr => Or.inl (hall r hr),
      fun _ => hall, fun hp => (by cases hp), h.since⟩
    intro r hr
    obtain rfl := Option.some.inj hr
    exact ⟨hc, hw, hfresh _ (hlog row (List.mem_cons_self ..)),
      List.mem_append_right _ (List.mem_singleton_self _)⟩
  · rw [if_neg hc]
    exact ⟨hrest, hemitted, h.backlog, fun _ hr => (by cases hr), fun _ hr => (by cases hr),
      fun _ r hr => Or.inl (hall r hr), fun _ => hall, fun hp => (by cases hp), h.since⟩

lemma ReaderOk.liveMark {row : AgentMsgRow} (h : ReaderOk log rd)
    (hphase : rd.phase = .liveMark row) : ReaderOk log { rd with phase := .live } := by
  have hcovered := h.covered (by rw [hphase]; exact Phase.noConfusion)
  rw [hphase] at hcovered
  exact ⟨h.rx, h.emitted, h.backlog, fun _ hr => (by cases hr), fun _ hr => (by cases hr), fun _ => hcovered,
    h.ended, fun hp => (by cases hp), h.since⟩

lemma ReaderOk.ran (h : ReaderOk log rd) (hbus : ∀ r ∈ bus.rows, r.unconsumed ∈ log)
    (hfresh : ∀ r ∈ log, r.unconsumed ∈ log)
    (hran : Ran O bus rd works now bus' rd') : ReaderOk log rd' := by
  cases hran with
  | query hphase => exact h.query hbus hphase
  | backlogEnd hphase => exact h.backlogEnd hphase
  | write hphase => exact h.write hphase
  | mark hphase => exact h.mark hphase
  | recv hphase hrx hw => exact h.recv hfresh hphase hrx hw
  | skip hphase hrx hw =>
    refine h.setRx fun r hr => h.rx r ?_
    rw [hrx]
    exact List.mem_cons_of_mem _ hr
  | liveMark hphase => exact h.liveMark hphase

lemma fresh_of_ledger (h : Ledger bus log) : ∀ r ∈ log, r.unconsumed ∈ log := by
  intro r hr
  rwa [unconsumed_eq (h.fresh r hr)]

lemma marked_eq (hledger : Ledger bus log) (h : ReaderOk log rd) {row o : AgentMsgRow}
    (hrow : rd.phase.marking = some row) (ho : o ∈ bus.rows)
    (hk : o.key = (rd.group, row.sessionName, row.seq)) : o.unconsumed = row.unconsumed := by
  obtain ⟨_, hw, hlog, _⟩ := h.marking row hrow
  simp only [Reader.wants, Bool.and_eq_true, decide_eq_true_eq] at hw
  refine hledger.eq_of_key (hledger.logged o ho) hlog ?_
  rw [← hw.1.1] at hk
  exact hk

def PositiveClock : Label → Prop
  | .enqueue _ _ _ _ _ _ now => 0 < now.toInt64
  | _ => True

instance (l : Label) : Decidable (PositiveClock l) :=
  match l with
  | .enqueue _ _ _ _ _ _ now => inferInstanceAs (Decidable (0 < now.toInt64))
  | .agents _ | .broadcast _ | .abort _ | .request .. | .run .. | .lag .. | .disconnect _
  | .supervisorMark .. | .restart => isTrue trivial

lemma sound_consumed_mono (h : Sound st) {rds : List Reader}
    (hrds : ∀ rd ∈ st.readers, ∃ rd' ∈ rds, ∀ r ∈ rd.emitted, r ∈ rd'.emitted) {r : AgentMsgRow}
    (hr : r ∈ st.bus.rows) (hc : r.consumedAtMs ≠ none) :
    (∃ rd ∈ rds, r.unconsumed ∈ rd.emitted) ∨ r.key ∈ st.supervised := by
  refine (h.consumed r hr hc).imp_left ?_
  rintro ⟨rd, hrd, he⟩
  obtain ⟨rd', hrd', hsub⟩ := hrds rd hrd
  exact ⟨rd', hrd', hsub _ he⟩

lemma sound_run {i : ℕ} (h : Sound st) (hrd : st.readers[i]? = some rd)
    (hran : Ran O st.bus rd works now bus' rd') :
    Sound { st with bus := bus', readers := st.readers.set i rd' } := by
  have hmem := List.mem_of_getElem? hrd
  have hok := h.readers rd hmem
  have hmono : ∀ rd₀ ∈ st.readers, ∃ rd₁ ∈ st.readers.set i rd', ∀ r ∈ rd₀.emitted, r ∈ rd₁.emitted :=
    fun rd₀ hrd₀ => exists_mem_set hrd ⟨rd₀, hrd₀, fun _ hr => hr⟩
      fun hp r hr => hran.emitted r (hp r hr)
  have hledger : Ledger bus' st.log := by
    rcases hran.bus with hb | ⟨row, _, hb⟩
    · rw [hb]
      exact h.ledger
    · rw [hb]
      exact h.ledger.mark ..
  refine ⟨hledger, h.inFlight, forall_mem_set h.readers
    (hok.ran h.ledger.logged (fresh_of_ledger h.ledger) hran), fun r hr hc => ?_⟩
  rcases hran.bus with hb | ⟨row, hrow, hb⟩
  · rw [hb] at hr
    exact sound_consumed_mono h hmono hr hc
  · rw [hb] at hr
    obtain ⟨o, ho, rfl⟩ := BusTable.mem_agentMsgMarkConsumed.mp hr
    by_cases hk : o.key = (rd.group, row.sessionName, row.seq)
    · rw [if_pos hk]
      have heq := marked_eq h.ledger hok hrow ho hk
      obtain ⟨_, _, _, he⟩ := hok.marking row hrow
      obtain ⟨rd₁, hrd₁, hsub⟩ := hmono rd hmem
      rw [← heq] at he
      exact Or.inl ⟨rd₁, hrd₁, hsub _ he⟩
    · rw [if_neg hk] at hc ⊢
      exact sound_consumed_mono h hmono ho hc

lemma readerOk_subscribe (st : State) (me : AgentRow) (session : Option String)
    (sinceMs : Option UInt64) (follow consume : Bool) :
    ReaderOk st.log (subscribe st me session sinceMs follow consume) where
  rx _ hr := by cases hr
  emitted _ hr := by cases hr
  backlog _ hr := by cases hr
  rest _ hr := by cases hr
  marking _ hr := by cases hr
  covered _ _ hr := by cases hr
  ended he := by cases he
  fresh _ := rfl
  since hc := if_pos hc

lemma forall_readers_map {p q : Reader → Prop} {f : Reader → Reader} (h : ∀ rd ∈ st.readers, p rd)
    (hf : ∀ rd, p rd → q (f rd)) : ∀ rd ∈ st.readers.map f, q rd := by
  intro rd hrd
  obtain ⟨rd₀, hrd₀, rfl⟩ := List.mem_map.mp hrd
  exact hf rd₀ (h rd₀ hrd₀)

lemma receive_emitted (row : AgentMsgRow) (rd : Reader) : (rd.receive row).emitted = rd.emitted := by
  rw [Reader.receive]
  split <;> rfl

lemma sound_enqueue {group session fromAgent toAgent : String} {kind : AgentMsgKind} {payload : Bytes}
    {row : AgentMsgRow} (h : Sound st)
    (henq : st.bus.agentMsgEnqueue group session fromAgent toAgent kind payload now = .ok (bus, row)) :
    Sound { st with bus, log := st.log ++ [row], inFlight := st.inFlight ++ [row] } := by
  obtain ⟨hrow, hmem⟩ := BusTable.agentMsgEnqueue_ok henq
  refine ⟨h.ledger.enqueue henq, ?_, fun rd hrd => (h.readers rd hrd).grow row, ?_⟩
  · refine forall_mem_snoc (fun r hr => List.mem_append_left _ (h.inFlight r hr)) ?_
    exact List.mem_append_right _ (List.mem_singleton_self _)
  · intro r hr hc
    rcases ((hmem r).mp hr).1 with hr | rfl
    · exact h.consumed r hr hc
    · rw [hrow] at hc
      exact (hc rfl).elim

lemma sound_setReader (h : Sound st) {i : ℕ} (hrd : st.readers[i]? = some rd)
    (hok : ReaderOk st.log rd') (hemitted : rd'.emitted = rd.emitted) :
    Sound { st with readers := st.readers.set i rd' } := by
  refine ⟨h.ledger, h.inFlight, forall_mem_set h.readers hok, fun r hr hc => ?_⟩
  refine sound_consumed_mono h (fun rd₀ hrd₀ => ?_) hr hc
  refine exists_mem_set hrd ⟨rd₀, hrd₀, fun _ he => he⟩ fun hp r hr => ?_
  rw [hemitted]
  exact hp r hr

lemma sound_step {l : Label} (h : Sound st)
    (hstep : step O st l = some st') : Sound st' := by
  cases step_moves hstep with
  | agents => exact ⟨h.ledger, h.inFlight, h.readers, h.consumed⟩
  | enqueue henq => exact sound_enqueue h henq
  | @broadcast i row hrow =>
    have hlog := h.inFlight row (List.mem_of_getElem? hrow)
    refine ⟨h.ledger, forall_mem_eraseIdx h.inFlight i, ?_, fun r hr hc => ?_⟩
    · exact forall_readers_map h.readers fun rd hrd => hrd.receive hlog
    · refine sound_consumed_mono h (fun rd hrd => ?_) hr hc
      refine ⟨rd.receive row, List.mem_map_of_mem hrd, ?_⟩
      rw [receive_emitted]
      exact fun _ he => he
  | abort => exact ⟨h.ledger, forall_mem_eraseIdx h.inFlight _, h.readers, h.consumed⟩
  | request hme =>
    refine ⟨h.ledger, h.inFlight, forall_mem_snoc h.readers (readerOk_subscribe ..),
      fun r hr hc => ?_⟩
    exact sound_consumed_mono h (fun rd hrd => ⟨rd, List.mem_append_left _ hrd, fun _ he => he⟩) hr hc
  | run hrd hran => exact sound_run h hrd hran
  | lag hrd =>
    have hok := h.readers _ (List.mem_of_getElem? hrd)
    exact sound_setReader h hrd (hok.setRx fun r hr => hok.rx r (List.mem_of_mem_drop hr)) rfl
  | disconnect hrd =>
    exact sound_setReader h hrd (h.readers _ (List.mem_of_getElem? hrd)).close rfl
  | @supervisorMark group session seq now =>
    refine ⟨h.ledger.mark .., h.inFlight, h.readers, fun r hr hc => ?_⟩
    obtain ⟨o, ho, rfl⟩ := BusTable.mem_agentMsgMarkConsumed.mp hr
    by_cases hk : o.key = (group, session, seq)
    · rw [if_pos hk]
      exact Or.inr (hk ▸ List.mem_cons_self ..)
    · rw [if_neg hk] at hc ⊢
      exact (h.consumed o ho hc).imp_right (List.mem_cons_of_mem _)
  | restart =>
    refine ⟨h.ledger, fun _ hr => (by cases hr), forall_readers_map h.readers fun _ hrd => hrd.close,
      fun r hr hc => ?_⟩
    exact sound_consumed_mono h
      (fun rd hrd => ⟨rd.close, List.mem_map_of_mem hrd, fun _ he => he⟩) hr hc

lemma sound_initial : Sound initial :=
  ⟨ledger_initial, fun _ hr => (by cases hr), fun _ hr => (by cases hr), fun _ hr => (by cases hr)⟩

lemma sound_reached {ls : List Label} (hrun : Run (Fires (step O)) initial ls st) : Sound st :=
  hrun.invariant (fun _ _ _ hi hs => sound_step hi hs) sound_initial

lemma positive_step {l : Label} (h : ∀ r ∈ st.log, 0 < r.enqueuedAtMs.toInt64)
    (hclock : PositiveClock l) (hstep : step O st l = some st') :
    ∀ r ∈ st'.log, 0 < r.enqueuedAtMs.toInt64 := by
  cases step_moves hstep with
  | agents | broadcast | abort | request | run | lag | disconnect | supervisorMark | restart =>
    exact h
  | enqueue henq =>
    refine forall_mem_snoc h ?_
    rw [(BusTable.agentMsgEnqueue_ok henq).1]
    exact hclock

lemma newly_consumed {l : Label} (h : Sound st) (hstep : step O st l = some st') {r : AgentMsgRow}
    (hr : r ∈ st'.bus.rows) (hc : r.consumedAtMs ≠ none) : r ∈ st.bus.rows ∨
    (∃ now, l = .supervisorMark r.groupName r.sessionName r.seq now) ∨
    ∃ i rd works now, l = .run i works now ∧ st.readers[i]? = some rd ∧ rd.consume = true ∧
      rd.wants r = true ∧ r.unconsumed ∈ rd.emitted := by
  cases step_moves hstep with
  | agents | abort | restart | broadcast | request | lag | disconnect => exact Or.inl hr
  | enqueue henq =>
    obtain ⟨hrow, hmem⟩ := BusTable.agentMsgEnqueue_ok henq
    rcases ((hmem r).mp hr).1 with hr | rfl
    · exact Or.inl hr
    · rw [hrow] at hc
      exact (hc rfl).elim
  | @run i works now rd bus rd' hrd hran =>
    have hok := h.readers rd (List.mem_of_getElem? hrd)
    rcases hran.bus with hb | ⟨row, hrow, hb⟩
    · rw [hb] at hr
      exact Or.inl hr
    · rw [hb] at hr
      obtain ⟨o, ho, rfl⟩ := BusTable.mem_agentMsgMarkConsumed.mp hr
      by_cases hk : o.key = (rd.group, row.sessionName, row.seq)
      · have heq := marked_eq h.ledger hok hrow ho hk
        obtain ⟨hconsume, hw, _, he⟩ := hok.marking row hrow
        have hw' : rd.wants o.unconsumed = true := by
          rw [heq]
          exact hw
        rw [← heq] at he
        rw [if_pos hk]
        exact Or.inr (Or.inr ⟨i, rd, works, now, rfl, hrd, hconsume, hw', he⟩)
      · rw [if_neg hk]
        exact Or.inl ho
  | @supervisorMark group session seq now =>
    obtain ⟨o, ho, rfl⟩ := BusTable.mem_agentMsgMarkConsumed.mp hr
    by_cases hk : o.key = (group, session, seq)
    · obtain ⟨hgroup, hk'⟩ := Prod.mk.inj hk
      obtain ⟨hsession, hseq⟩ := Prod.mk.inj hk'
      rw [if_pos hk]
      refine Or.inr (Or.inl ⟨now, ?_⟩)
      simp only [AgentMsgRow.consumedAt, hgroup, hsession, hseq]
    · rw [if_neg hk]
      exact Or.inl ho

/-- The backlog of a consuming reader has every unconsumed row that is for it, up to the limit. -/
lemma mem_query (hpositive : ∀ r ∈ log, 0 < r.enqueuedAtMs.toInt64) {r : AgentMsgRow}
    (hlog : r ∈ log) (hr : r ∈ bus.rows) (hnone : r.consumedAtMs = none) (hsince : rd.since = none)
    (hw : rd.wants r = true)
    (hlimit : (bus.backlogRows rd.group rd.agent rd.session rd.since rd.consume).length ≤
      backlogLimit) : r ∈ rd.query O bus := by
  have hmem : r ∈ bus.backlogRows rd.group rd.agent rd.session rd.since rd.consume := by
    refine List.mem_filter.mpr ⟨hr, ?_⟩
    simp only [Reader.wants, Bool.and_eq_true] at hw
    simp only [Bool.and_eq_true, decide_eq_true_eq, hsince, Option.getD_none, hnone,
      decide_true, Bool.or_true, and_true]
    exact ⟨by simpa [and_assoc] using hw, hpositive r hlog⟩
  have hperm := (O.backlog_ordered (bus.backlogRows rd.group rd.agent rd.session rd.since rd.consume)).1
  rw [Reader.query, List.take_of_length_le (by rw [hperm.length_eq]; exact hlimit)]
  exact hperm.mem_iff.mpr hmem

/-- The `i`-th reader serves the request of the run that was made with a token of the agent. -/
def Asked (O : Sorting) (ls : List Label) (i : ℕ) (rd : Reader) (me : AgentRow) : Prop :=
  ∃ before tokenHash sinceMs after mid,
    ls = before ++ .request tokenHash rd.session sinceMs rd.follow rd.consume :: after ∧
    Run (Fires (step O)) initial before mid ∧ mid.readers.length = i ∧
    mid.agents.agentByToken tokenHash = some me ∧ rd.group = me.groupName ∧ rd.agent = me.name

structure AddressedTo (me : AgentRow) (session : Option String) (row : AgentMsgRow) : Prop where
  group : row.groupName = me.groupName
  agent : row.toAgent = me.name
  session : ∀ s, session = some s → row.sessionName = s

structure SameRequest (rd rd' : Reader) : Prop where
  group : rd'.group = rd.group
  agent : rd'.agent = rd.agent
  session : rd'.session = rd.session
  follow : rd'.follow = rd.follow
  consume : rd'.consume = rd.consume

lemma sameRequest_refl (rd : Reader) : SameRequest rd rd := ⟨rfl, rfl, rfl, rfl, rfl⟩

lemma Ran.sameRequest (h : Ran O bus rd works now bus' rd') : SameRequest rd rd' := by
  cases h <;> exact ⟨rfl, rfl, rfl, rfl, rfl⟩

lemma sameRequest_receive (row : AgentMsgRow) (rd : Reader) : SameRequest rd (rd.receive row) := by
  rw [Reader.receive]
  split <;> exact ⟨rfl, rfl, rfl, rfl, rfl⟩

lemma readers_step {l : Label} (hstep : step O st l = some st') {i : ℕ}
    (hrd : st'.readers[i]? = some rd') :
    (∃ rd, st.readers[i]? = some rd ∧ SameRequest rd rd') ∨
    ∃ tokenHash session sinceMs follow consume me,
      l = .request tokenHash session sinceMs follow consume ∧
      st.agents.agentByToken tokenHash = some me ∧ i = st.readers.length ∧
      rd' = subscribe st me session sinceMs follow consume := by
  have hmap : ∀ {f : Reader → Reader}, (∀ rd, SameRequest rd (f rd)) →
      (st.readers.map f)[i]? = some rd' → ∃ rd, st.readers[i]? = some rd ∧ SameRequest rd rd' := by
    intro f hf h
    rw [List.getElem?_map] at h
    obtain ⟨rd, hget, rfl⟩ := Option.map_eq_some_iff.mp h
    exact ⟨rd, hget, hf rd⟩
  have hset : ∀ {k : ℕ} {rd₀ rd₁ : Reader}, st.readers[k]? = some rd₀ → SameRequest rd₀ rd₁ →
      (st.readers.set k rd₁)[i]? = some rd' → ∃ rd, st.readers[i]? = some rd ∧ SameRequest rd rd' := by
    intro k rd₀ rd₁ hk hsame h
    rcases getElem?_set_cases h with ⟨_, h⟩ | ⟨rfl, rfl⟩
    · exact ⟨rd', h, sameRequest_refl _⟩
    · exact ⟨rd₀, hk, hsame⟩
  cases step_moves hstep with
  | agents | enqueue _ | abort | supervisorMark => exact Or.inl ⟨rd', hrd, sameRequest_refl _⟩
  | broadcast _ => exact Or.inl (hmap (sameRequest_receive _) hrd)
  | restart => exact Or.inl (hmap (f := Reader.close) (fun _ => ⟨rfl, rfl, rfl, rfl, rfl⟩) hrd)
  | run hk hran => exact Or.inl (hset hk hran.sameRequest hrd)
  | @lag k n rd₀ hk =>
    have hsame : SameRequest rd₀ { rd₀ with rx := rd₀.rx.drop n } := ⟨rfl, rfl, rfl, rfl, rfl⟩
    exact Or.inl (hset hk hsame hrd)
  | @disconnect k rd₀ hk =>
    have hsame : SameRequest rd₀ rd₀.close := ⟨rfl, rfl, rfl, rfl, rfl⟩
    exact Or.inl (hset hk hsame hrd)
  | request hme =>
    rcases getElem?_snoc_cases hrd with hrd | ⟨rfl, rfl⟩
    · exact Or.inl ⟨rd', hrd, sameRequest_refl _⟩
    · exact Or.inr ⟨_, _, _, _, _, _, rfl, hme, rfl, rfl⟩

lemma Asked.later {ls : List Label} {i : ℕ} {me : AgentRow} (h : Asked O ls i rd me)
    (hsame : SameRequest rd rd') (l : Label) : Asked O (ls ++ [l]) i rd' me := by
  obtain ⟨before, tokenHash, sinceMs, after, mid, hls, hmid, hi, hme, hgroup, hagent⟩ := h
  refine ⟨before, tokenHash, sinceMs, after ++ [l], mid, ?_, hmid, hi, hme,
    hsame.group.trans hgroup, hsame.agent.trans hagent⟩
  rw [hls, hsame.session, hsame.follow, hsame.consume, List.append_assoc, List.cons_append]

lemma asked_run {ls : List Label} (hrun : Run (Fires (step O)) initial ls st) {i : ℕ}
    (hrd : st.readers[i]? = some rd) : ∃ me, Asked O ls i rd me := by
  induction ls using List.reverseRecOn generalizing st rd with
  | nil =>
    cases hrun
    cases hrd
  | append_singleton ls l ih =>
    obtain ⟨mid, hmid, hlast⟩ := hrun.split
    have hstep : step O mid l = some st := hlast.of_single
    rcases readers_step hstep hrd with ⟨rd₀, hrd₀, hsame⟩ | ⟨tokenHash, session, sinceMs, follow,
      consume, me, rfl, hme, rfl, rfl⟩
    · obtain ⟨me, hasked⟩ := ih hmid hrd₀
      exact ⟨me, hasked.later hsame l⟩
    · exact ⟨me, ls, tokenHash, sinceMs, [], mid, rfl, hmid, rfl, hme, rfl, rfl⟩

lemma wants_iff {me : AgentRow} {row : AgentMsgRow} (hgroup : rd.group = me.groupName)
    (hagent : rd.agent = me.name) : rd.wants row = true ↔ AddressedTo me rd.session row := by
  simp only [Reader.wants, Bool.and_eq_true, decide_eq_true_eq, hgroup, hagent]
  constructor
  · rintro ⟨⟨hg, ha⟩, hs⟩
    refine ⟨hg, ha, fun s heq => ?_⟩
    simpa [heq] using hs
  · rintro ⟨hg, ha, hs⟩
    refine ⟨⟨hg, ha⟩, ?_⟩
    cases hsession : rd.session with
    | none => rfl
    | some s => simpa using hs s hsession

lemma Asked.wants_iff {ls : List Label} {i : ℕ} {me : AgentRow} {row : AgentMsgRow}
    (h : Asked O ls i rd me) : rd.wants row = true ↔ AddressedTo me rd.session row := by
  obtain ⟨_, _, _, _, _, _, _, _, _, hgroup, hagent⟩ := h
  exact Reading.wants_iff hgroup hagent

/-- `n` steps of one reader, each with its own outcome and clock reading. -/
def steps (i : ℕ) (choice : ℕ → Bool × UInt64) (n : ℕ) : List Label :=
  (List.range n).map fun k => .run i (choice k).1 (choice k).2

lemma steps_succ (i : ℕ) (choice : ℕ → Bool × UInt64) (n : ℕ) : steps i choice (n + 1) =
    .run i (choice 0).1 (choice 0).2 :: steps i (fun k => choice (k + 1)) n := by
  simp [steps, List.range_succ_eq_map, Function.comp_def]

/-- Left to itself, the reader gets to the end of its backlog and has written the row. -/
def WritesAlone (O : Sorting) (st : State) (i : ℕ) (r : AgentMsgRow) : Prop :=
  ∀ choice, ∃ n st' rd', Run (Fires (step O)) st (steps i choice n) st' ∧
    st'.readers[i]? = some rd' ∧ rd'.ended = true ∧ r ∈ rd'.emitted

/-- A reader that was asked but has not queried yet and one that is asked now, with a matching filter
and a backlog within its limit. -/
structure NextReaderGets (O : Sorting) (ls : List Label) (st : State) (r : AgentMsgRow) : Prop where
  started : ∀ i rd me, st.readers[i]? = some rd → rd.phase = .subscribed → rd.consume = true →
    Asked O ls i rd me → AddressedTo me rd.session r →
    (st.bus.backlogRows me.groupName me.name rd.session none true).length ≤ backlogLimit →
    (∀ works now st', step O st (.run i works now) = some st' →
      ∃ rd', st'.readers[i]? = some rd' ∧ r ∈ rd'.backlog) ∧ WritesAlone O st i r
  asked : ∀ tokenHash session sinceMs follow me, st.agents.agentByToken tokenHash = some me →
    AddressedTo me session r →
    (st.bus.backlogRows me.groupName me.name session none true).length ≤ backlogLimit →
    ∃ st', step O st (.request tokenHash session sinceMs follow true) = some st' ∧
      WritesAlone O st' st.readers.length r

lemma step_run (st : State) {i : ℕ} (hrd : st.readers[i]? = some rd)
    (hran : runReader O st.bus rd works now = some (bus, rd')) :
    step O st (.run i works now) = some { st with bus, readers := st.readers.set i rd' } := by
  simp only [step, hrd, hran]

/-- By induction on the rows still to be written: each is written, and marked if the reader consumes. -/
lemma writes_rest (st : State) (rd : Reader) (rows : List AgentMsgRow) {i : ℕ}
    (hrd : st.readers[i]? = some rd) (hphase : rd.phase = .write rows) (choice : ℕ → Bool × UInt64) :
    ∃ n st' rd',
      Run (Fires (step O)) st (steps i choice n) st' ∧ st'.readers[i]? = some rd' ∧
      rd'.ended = true ∧ rd'.backlog = rd.backlog := by
  induction rows generalizing st rd choice with
  | nil =>
    obtain ⟨hi, _⟩ := List.getElem?_eq_some_iff.mp hrd
    have hran : runReader O st.bus rd (choice 0).1 (choice 0).2 = some (st.bus,
        { rd with phase := if rd.follow then .live else .closed, ended := true }) := by
      simp only [runReader, hphase]
    exact ⟨1, _, _, .single (step_run st hrd hran), List.getElem?_set_self hi, rfl, rfl⟩
  | cons row rest ih =>
    obtain ⟨hi, _⟩ := List.getElem?_eq_some_iff.mp hrd
    cases hconsume : rd.consume with
    | false =>
      obtain ⟨n, st', rd', hrun, hget, hended, hbacklog⟩ := ih
        { st with readers := st.readers.set i (rd.emit row (.write rest)) } _
        (List.getElem?_set_self hi) rfl fun k => choice (k + 1)
      have hwrite : runReader O st.bus rd (choice 0).1 (choice 0).2 =
          some (st.bus, rd.emit row (.write rest)) := by
        simp [runReader, hphase, hconsume]
      refine ⟨n + 1, st', rd', ?_, hget, hended, hbacklog⟩
      rw [steps_succ]
      exact .cons (step_run st hrd hwrite) hrun
    | true =>
      have hwrite : runReader O st.bus rd (choice 0).1 (choice 0).2 =
          some (st.bus, rd.emit row (.mark row rest)) := by
        simp [runReader, hphase, hconsume]
      have hmark : runReader O st.bus (rd.emit row (.mark row rest)) (choice 1).1 (choice 1).2 =
          some (markRow st.bus rd.group row (choice 1).1 (choice 1).2,
            rd.emit row (.write rest)) := rfl
      have hfirst := step_run st hrd hwrite
      have hsecond := step_run { st with readers := st.readers.set i (rd.emit row (.mark row rest)) }
        (List.getElem?_set_self hi) hmark
      have hi' : i < (st.readers.set i (rd.emit row (.mark row rest))).length := by
        rwa [List.length_set]
      have hrest := List.getElem?_set_self (a := rd.emit row (.write rest)) hi'
      obtain ⟨n, st', rd', hrun, hget, hended, hbacklog⟩ := ih
        { st with
          bus := markRow st.bus rd.group row (choice 1).1 (choice 1).2
          readers := (st.readers.set i (rd.emit row (.mark row rest))).set i
            (rd.emit row (.write rest)) } _
        hrest rfl fun k => choice (k + 2)
      refine ⟨n + 2, st', rd', ?_, hget, hended, hbacklog⟩
      rw [steps_succ, steps_succ]
      exact .cons hfirst (.cons hsecond hrun)

lemma writesAlone {i : ℕ} {r : AgentMsgRow} (hs : Sound st) (hrd : st.readers[i]? = some rd)
    (hphase : rd.phase = .subscribed) (hmem : r ∈ rd.query O st.bus)
    (hnone : r.consumedAtMs = none) : WritesAlone O st i r := by
  intro choice
  obtain ⟨hi, _⟩ := List.getElem?_eq_some_iff.mp hrd
  have hquery : runReader O st.bus rd (choice 0).1 (choice 0).2 = some (st.bus,
      { rd with phase := .write (rd.query O st.bus), backlog := rd.query O st.bus }) := by
    simp only [runReader, hphase]
  have hfirst := step_run st hrd hquery
  obtain ⟨n, st', rd', hrun, hget, hended, hbacklog⟩ := writes_rest (O := O)
    { st with
      readers := st.readers.set i
        { rd with phase := .write (rd.query O st.bus), backlog := rd.query O st.bus } }
    { rd with phase := .write (rd.query O st.bus), backlog := rd.query O st.bus }
    (rd.query O st.bus)
    (List.getElem?_set_self hi) rfl fun k => choice (k + 1)
  refine ⟨n + 1, st', rd', ?_, hget, hended, ?_⟩
  · rw [steps_succ]
    exact .cons hfirst hrun
  · have hs' : Sound st' :=
      hrun.invariant (fun _ _ _ hi hs => sound_step hi hs) (sound_step hs hfirst)
    have hwritten := (hs'.readers rd' (List.mem_of_getElem? hget)).ended hended r
      (by rw [hbacklog]; exact hmem)
    rwa [unconsumed_eq hnone] at hwritten

lemma nextReaderGets {ls : List Label} (hs : Sound st)
    (hpositive : ∀ r ∈ st.log, 0 < r.enqueuedAtMs.toInt64) {r : AgentMsgRow} (hlog : r ∈ st.log)
    (hr : r ∈ st.bus.rows) (hnone : r.consumedAtMs = none) : NextReaderGets O ls st r := by
  have hfinds : ∀ (rd : Reader) me, rd.since = none → rd.consume = true → rd.group = me.groupName →
      rd.agent = me.name → AddressedTo me rd.session r →
      (st.bus.backlogRows me.groupName me.name rd.session none true).length ≤ backlogLimit →
      r ∈ rd.query O st.bus := by
    intro rd me hsince hconsume hgroup hagent haddr hlimit
    refine mem_query hpositive hlog hr hnone hsince ((Reading.wants_iff hgroup hagent).mpr haddr) ?_
    rwa [hsince, hconsume, hgroup, hagent]
  constructor
  · intro i rd me hrd hphase hconsume hasked haddr hlimit
    have hok := hs.readers rd (List.mem_of_getElem? hrd)
    obtain ⟨_, _, _, _, _, _, _, _, _, hgroup, hagent⟩ := hasked
    have hmem := hfinds rd me (hok.since hconsume) hconsume hgroup hagent haddr hlimit
    refine ⟨fun works now st' hstep => ?_, writesAlone hs hrd hphase hmem hnone⟩
    obtain ⟨hi, _⟩ := List.getElem?_eq_some_iff.mp hrd
    simp only [step, hrd, runReader, hphase] at hstep
    obtain rfl := Option.some.inj hstep
    exact ⟨_, List.getElem?_set_self hi, hmem⟩
  · intro tokenHash session sinceMs follow me hme haddr hlimit
    have hstep : step O st (.request tokenHash session sinceMs follow true) = some { st with
        readers := st.readers ++ [subscribe st me session sinceMs follow true] } := by
      simp only [step, hme]
    refine ⟨_, hstep, writesAlone (sound_step hs hstep) List.getElem?_concat_length rfl ?_ hnone⟩
    exact hfinds _ me rfl rfl rfl rfl haddr hlimit

theorem consume_on_read_never_loses {ls : List Label}
    (hrun : Run (Guarded (fun _ => PositiveClock) (Fires (step O))) initial ls st) :
    (∀ l st', step O st l = some st' → ∀ o ∈ st.bus.rows, o.consumedAtMs = none →
      ∀ r ∈ st'.bus.rows, r.key = o.key → r.consumedAtMs ≠ none →
      (∃ now, l = .supervisorMark r.groupName r.sessionName r.seq now) ∨
      ∃ i rd me works now, l = .run i works now ∧ st.readers[i]? = some rd ∧ Asked O ls i rd me ∧
        rd.consume = true ∧ AddressedTo me rd.session r ∧ r.unconsumed ∈ rd.emitted) ∧
    (∀ r ∈ st.log, (∀ rd ∈ st.readers, r ∉ rd.emitted) → r.key ∉ st.supervised →
      (∀ o ∈ st.bus.rows, o.unconsumed = r → o.consumedAtMs = none) ∧
      (Trimmed st.log r ∨ NextReaderGets O ls st r)) ∧
    ∀ i rd, st.readers[i]? = some rd → (∃ me, Asked O ls i rd me) ∧
      (rd.ended = true → ∀ r ∈ rd.backlog, r.unconsumed ∈ rd.emitted) := by
  have h := sound_reached hrun.forget
  have hpositive : ∀ r ∈ st.log, 0 < r.enqueuedAtMs.toInt64 :=
    hrun.invariant (I := fun st => ∀ r ∈ st.log, 0 < r.enqueuedAtMs.toInt64)
      (fun _ _ _ hi hs => positive_step hi hs.1 hs.2) (fun _ hr => (by cases hr))
  refine ⟨?_, ?_, fun i rd hrd => ⟨asked_run hrun.forget hrd,
    (h.readers rd (List.mem_of_getElem? hrd)).ended⟩⟩
  · intro l st' hstep o ho hnone r hr hk hc
    rcases newly_consumed h hstep hr hc with hold | hsup | ⟨i, rd, works, now, hl, hrd, hconsume, hw,
      he⟩
    · exact (hc (by rwa [st.bus.eq_of_key hold ho hk])).elim
    · exact Or.inl hsup
    · obtain ⟨me, hasked⟩ := asked_run hrun.forget hrd
      exact Or.inr ⟨i, rd, me, works, now, hl, hrd, hasked, hconsume, hasked.wants_iff.mp hw, he⟩
  · intro r hr hemitted hsupervised
    have hunconsumed : ∀ o ∈ st.bus.rows, o.unconsumed = r → o.consumedAtMs = none := by
      intro o ho heq
      by_contra hc
      rcases h.consumed o ho hc with ⟨rd, hrd, he⟩ | hs
      · rw [heq] at he
        exact hemitted rd hrd he
      · rw [← heq] at hsupervised
        exact hsupervised hs
    refine ⟨hunconsumed, (h.ledger.kept r hr).symm.imp_right ?_⟩
    rintro ⟨o, ho, heq⟩
    have hnone := hunconsumed o ho heq
    rw [unconsumed_eq hnone] at heq
    subst heq
    exact nextReaderGets h hpositive hr ho hnone

def primes : AgentTable :=
  (AgentTable.empty.agentRegister (Orchestration.Requests.primeRow "team" [1])).1

def answer : AgentMsgRow := ⟨"team", "dev", 1, "dev", "prime", .turnOutput, [104, 105], 5, none⟩

def brokenRead : List Label :=
  [.agents primes, .enqueue "team" "dev" "dev" "prime" .turnOutput [104, 105] 5, .broadcast 0,
    .request [1] none none false true, .run 0 true 6, .disconnect 0]

/-- The first reader queries and is cut off; the next one, asked with the same token, gets the row. -/
theorem consume_on_read_never_loses_broken_read : ∃ st st',
    execute (step .stable) initial brokenRead = some st ∧
    step .stable st (.request [1] none none false true) = some st' ∧
    WritesAlone .stable st' 1 answer := by
  have heval : (execute (step .stable) initial brokenRead).map (fun st =>
      (st.log, st.readers.map Reader.emitted, st.supervised)) = some ([answer], [[]], []) := by
    decide +kernel
  have hme : (execute (step .stable) initial brokenRead).bind (fun st =>
      st.agents.agentByToken [1]) = some (Orchestration.Requests.primeRow "team" [1]) := by
    decide +kernel
  have hlimit : (execute (step .stable) initial brokenRead).map (fun st =>
      decide ((st.bus.backlogRows "team" "prime" none none true).length ≤ backlogLimit)) =
      some true := by
    decide +kernel
  obtain ⟨st, hst, hfacts⟩ := Option.map_eq_some_iff.mp heval
  obtain ⟨hlog, hfacts⟩ := Prod.mk.inj hfacts
  obtain ⟨hemitted, hsupervised⟩ := Prod.mk.inj hfacts
  rw [hst, Option.bind_some] at hme
  rw [hst, Option.map_some] at hlimit
  have hrun := (execute_run hst).guard (p := PositiveClock) (by decide)
  have hlen : st.readers.length = 1 := by simpa using congrArg List.length hemitted
  have hnot : ∀ rd ∈ st.readers, answer ∉ rd.emitted := by
    intro rd hrd he
    have hmem : rd.emitted ∈ st.readers.map Reader.emitted := List.mem_map_of_mem hrd
    rw [hemitted, List.mem_singleton] at hmem
    rw [hmem] at he
    cases he
  have hget := ((consume_on_read_never_loses hrun).2.1 answer
    (by rw [hlog]; exact List.mem_singleton_self _) hnot
    (by rw [hsupervised]; exact List.not_mem_nil)).2
  have huntrimmed : ¬ Trimmed st.log answer := by
    rintro ⟨later, hlater, _, hle⟩
    rw [hlog] at hlater
    rw [List.mem_singleton.mp hlater] at hle
    simp [answer, maxMsgsPerSession] at hle
  obtain ⟨st', hstep, hwrites⟩ := (hget.resolve_left huntrimmed).asked [1] none none false _ hme
    ⟨rfl, rfl, fun s hs => by cases hs⟩ (of_decide_eq_true (Option.some.inj hlimit))
  rw [hlen] at hwrites
  exact ⟨st, st', hst, hstep, hwrites⟩

end WalkieTalkie.Reading
