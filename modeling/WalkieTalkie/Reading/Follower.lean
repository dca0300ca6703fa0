import Mathlib.Data.List.Perm.Basic
import WalkieTalkie.Reading.NoLoss

/-! What a single consuming follower sees. Every message that waits for it when it subscribes, and
every one that is enqueued for it afterwards, is written once: it is in the answer to the query or
comes through the broadcast, but not both, as long as no producer of such a message stands between its
commit and its broadcast while the follower is between its subscription and its query. -/

namespace WalkieTalkie.Reading

open Proto Store Lib Lib.Runs
open Orchestration.Clients (Sorting)

def Reader.messages (st : State) (rd : Reader) : List AgentMsgRow :=
  rd.waiting ++ (st.log.drop rd.opened).filter rd.wants

/-- The rows that the reader has still to come to: those of its backlog, those in its receiver and
those that are yet to be broadcast. -/
def Reader.ahead (st : State) (rd : Reader) : List AgentMsgRow :=
  (if rd.phase = .subscribed then rd.waiting else rd.phase.rest) ++ (rd.rx ++ st.inFlight)

def waitingFor (st : State) (rd : Reader) : List AgentMsgRow :=
  st.bus.rows.filter fun r => rd.wants r && r.consumedAtMs = none

/-- The query of the follower finds what is waiting for it, all of it. -/
def Answered (st : State) (rd : Reader) : Prop :=
  rd.phase = .subscribed →
    (waitingFor st rd).length ≤ backlogLimit ∧ ∀ r ∈ waitingFor st rd, 0 < r.enqueuedAtMs.toInt64

/-- A row would be deleted by the retention cap. -/
def Trims (bus : BusTable) (group session : String) : Prop :=
  ∃ r ∈ bus.rows, r.inSession group session ∧
    r.seq + maxMsgsPerSession ≤ bus.lastSeq group session + 1

/-- The conditions under which the follower number `f` runs: it is the only consumer of what it
wants, its connection stays up, its receiver never lags, nothing is trimmed and every producer gets
to its broadcast. Moreover no row that it wants is committed but not broadcast when it subscribes, none
is committed between its subscription and its query, and the query finds at most as many rows as
its limit, all with a positive time stamp. -/
def Undisturbed (f : ℕ) (st : State) : Label → Prop
  | .enqueue group session _ toAgent _ _ _ => ¬ Trims st.bus group session ∧
      ∀ rd ∈ st.readers[f]?, rd.phase = .subscribed →
        ¬ (group = rd.group ∧ toAgent = rd.agent ∧ rd.session.all (session = ·))
  | .abort i => ∀ rd ∈ st.readers[f]?, ∀ row ∈ st.inFlight[i]?, rd.wants row = false
  | .request tokenHash session sinceMs follow consume => st.readers.length = f →
      follow = true ∧ consume = true ∧ ∀ me ∈ st.agents.agentByToken tokenHash,
        ∀ row ∈ waitingFor st (subscribe st me session sinceMs follow consume), row ∉ st.inFlight
  | .run i _ _ => (∀ rd ∈ st.readers[f]?, i ≠ f → ∀ other ∈ st.readers[i]?,
        ∀ row ∈ other.phase.marking, rd.wants row = false) ∧
      ∀ rd ∈ st.readers[f]?, i = f → Answered st rd
  | .lag i _ => i ≠ f
  | .disconnect i => i ≠ f
  | .supervisorMark group session seq _ => ∀ rd ∈ st.readers[f]?, ∀ r ∈ st.bus.rows,
      r.key = (group, session, seq) → rd.wants r = false
  | .restart => st.readers.length ≤ f
  | .agents _ => True
  | .broadcast _ => True

instance (bus : BusTable) (group session : String) : Decidable (Trims bus group session) :=
  inferInstanceAs (Decidable (∃ r ∈ bus.rows, r.inSession group session ∧
    r.seq + maxMsgsPerSession ≤ bus.lastSeq group session + 1))

instance (st : State) (rd : Reader) : Decidable (Answered st rd) :=
  inferInstanceAs (Decidable (rd.phase = .subscribed → (waitingFor st rd).length ≤ backlogLimit ∧
    ∀ r ∈ waitingFor st rd, 0 < r.enqueuedAtMs.toInt64))

instance (f : ℕ) (st : State) (l : Label) : Decidable (Undisturbed f st l) :=
  match l with
  | .enqueue group session _ toAgent _ _ _ => inferInstanceAs (Decidable (¬ Trims st.bus group session ∧
      ∀ rd ∈ st.readers[f]?, rd.phase = .subscribed →
        ¬ (group = rd.group ∧ toAgent = rd.agent ∧ rd.session.all (session = ·))))
  | .abort i => inferInstanceAs
      (Decidable (∀ rd ∈ st.readers[f]?, ∀ row ∈ st.inFlight[i]?, rd.wants row = false))
  | .request tokenHash session sinceMs follow consume =>
    inferInstanceAs (Decidable (st.readers.length = f → follow = true ∧ consume = true ∧
      ∀ me ∈ st.agents.agentByToken tokenHash,
        ∀ row ∈ waitingFor st (subscribe st me session sinceMs follow consume), row ∉ st.inFlight))
  | .run i _ _ => inferInstanceAs (Decidable ((∀ rd ∈ st.readers[f]?, i ≠ f →
      ∀ other ∈ st.readers[i]?, ∀ row ∈ other.phase.marking, rd.wants row = false) ∧
      ∀ rd ∈ st.readers[f]?, i = f → Answered st rd))
  | .lag i _ => inferInstanceAs (Decidable (i ≠ f))
  | .disconnect i => inferInstanceAs (Decidable (i ≠ f))
  | .supervisorMark group session seq _ => inferInstanceAs (Decidable (∀ rd ∈ st.readers[f]?,
      ∀ r ∈ st.bus.rows, r.key = (group, session, seq) → rd.wants r = false))
  | .restart => inferInstanceAs (Decidable (st.readers.length ≤ f))
  | .agents _ | .broadcast _ => isTrue trivial

structure Follows (st : State) (rd : Reader) : Prop where
  consume : rd.consume = true
  follow : rd.follow = true
  connected : rd.phase ≠ .closed
  opened : rd.opened ≤ st.log.length
  waiting : ∀ r ∈ rd.waiting, r ∈ st.log ∧ rd.wants r = true
  rest : ∀ r ∈ rd.phase.rest, r.consumedAtMs = none
  table : rd.phase = .subscribed → ∀ r, r ∈ waitingFor st rd ↔ r ∈ rd.waiting
  nodup : rd.waiting.Nodup
  once : ∀ r ∈ rd.messages st, rd.emitted.count r + (rd.ahead st).count r = 1

variable {O : Sorting} {st st' : State} {rd rd' : Reader} {f : ℕ}

lemma Follows.messages_mem (h : Follows st rd) {r : AgentMsgRow} (hr : r ∈ rd.messages st) :
    r ∈ st.log ∧ rd.wants r = true := by
  rcases List.mem_append.mp hr with hr | hr
  · exact h.waiting r hr
  · obtain ⟨hr, hw⟩ := List.mem_filter.mp hr
    exact ⟨List.mem_of_mem_drop hr, hw⟩

lemma Follows.frame (h : Follows st rd) (hlog : st'.log = st.log)
    (hflight : st'.inFlight = st.inFlight)
    (htable : rd.phase = .subscribed → ∀ r, r ∈ waitingFor st' rd ↔ r ∈ waitingFor st rd) :
    Follows st' rd where
  consume := h.consume
  follow := h.follow
  connected := h.connected
  opened := hlog ▸ h.opened
  waiting := hlog ▸ h.waiting
  rest := h.rest
  table hphase r := (htable hphase r).trans (h.table hphase r)
  nodup := h.nodup
  once := by
    have honce := h.once
    rw [Reader.messages, Reader.ahead] at honce ⊢
    rw [hlog, hflight]
    exact honce

lemma mem_waitingFor {r : AgentMsgRow} :
    r ∈ waitingFor st rd ↔ r ∈ st.bus.rows ∧ rd.wants r = true ∧ r.consumedAtMs = none := by
  simp [waitingFor]

lemma nodup_waitingFor (st : State) (rd : Reader) : (waitingFor st rd).Nodup :=
  (List.Nodup.of_map _ st.bus.nodup).filter _

lemma Follows.ahead_mem (h : Follows st rd) (hs : Sound st) (hok : ReaderOk st.log rd)
    {r : AgentMsgRow} (hr : r ∈ rd.ahead st) : r ∈ st.log := by
  rcases List.mem_append.mp hr with hr | hr
  · split at hr
    · exact (h.waiting r hr).1
    · have hlog := (hok.backlog r (hok.rest r hr)).1
      rwa [unconsumed_eq (h.rest r hr)] at hlog
  · rcases List.mem_append.mp hr with hr | hr
    · exact hok.rx r hr
    · exact hs.inFlight r hr

lemma follows_enqueue (h : Follows st rd) (hs : Sound st) (hok : ReaderOk st.log rd)
    {group session fromAgent toAgent : String} {kind : AgentMsgKind} {payload : Bytes} {now : UInt64}
    {bus : BusTable} {row : AgentMsgRow}
    (henq : st.bus.agentMsgEnqueue group session fromAgent toAgent kind payload now = .ok (bus, row))
    (htrims : ¬ Trims st.bus group session) (hseam : rd.phase = .subscribed → rd.wants row = false) :
    Follows { st with bus, log := st.log ++ [row], inFlight := st.inFlight ++ [row] } rd := by
  obtain ⟨hrow, hmem⟩ := BusTable.agentMsgEnqueue_ok henq
  have hnew : row ∉ st.log := fun hr => lt_irrefl _ (hs.ledger.seq_lt henq row hr ⟨rfl, rfl⟩)
  have hdrop : (st.log ++ [row]).drop rd.opened = st.log.drop rd.opened ++ [row] :=
    List.drop_append_of_le_length h.opened
  refine ⟨h.consume, h.follow, h.connected, ?_, fun r hr => ?_, h.rest, fun hphase r => ?_, h.nodup,
    fun r hr => ?_⟩
  · rw [List.length_append]
    exact Nat.le_add_right_of_le h.opened
  · exact ⟨List.mem_append_left _ (h.waiting r hr).1, (h.waiting r hr).2⟩
  · rw [← h.table hphase r, mem_waitingFor, mem_waitingFor]
    constructor
    · rintro ⟨hr, hw, hnone⟩
      rcases ((hmem r).mp hr).1 with hr | rfl
      · exact ⟨hr, hw, hnone⟩
      · rw [hseam hphase] at hw
        cases hw
    · rintro ⟨hr, hw, hnone⟩
      refine ⟨(hmem r).mpr ⟨Or.inl hr, fun hcut => htrims ⟨r, hr, hcut.1, ?_⟩⟩, hw, hnone⟩
      rw [hrow] at hcut
      exact hcut.2
  · have hahead : Reader.ahead
        { st with bus, log := st.log ++ [row], inFlight := st.inFlight ++ [row] } rd =
          rd.ahead st ++ [row] := by
      simp [Reader.ahead]
    rw [hahead, List.count_append]
    rw [Reader.messages, hdrop, List.filter_append, ← List.append_assoc] at hr
    rcases List.mem_append.mp hr with hr | hr
    · have hne : row ≠ r := fun heq => hnew (heq ▸ (h.messages_mem hr).1)
      rw [List.count_singleton, if_neg (by simpa using hne)]
      exact h.once r hr
    · obtain rfl : r = row := List.mem_singleton.mp (List.mem_of_mem_filter hr)
      have hemitted : rd.emitted.count r = 0 := List.count_eq_zero.mpr fun he => hnew (hok.emitted r he)
      have hnone : (rd.ahead st).count r = 0 :=
        List.count_eq_zero.mpr fun he => hnew (h.ahead_mem hs hok he)
      rw [hemitted, hnone, List.count_singleton_self]

lemma follows_broadcast (h : Follows st rd) {i : ℕ} {row : AgentMsgRow}
    (hrow : st.inFlight[i]? = some row) :
    Follows { st with
      inFlight := st.inFlight.eraseIdx i
      readers := st.readers.map (Reader.receive row) } (rd.receive row) := by
  obtain ⟨hi, rfl⟩ := List.getElem?_eq_some_iff.mp hrow
  rw [Reader.receive, if_neg h.connected]
  refine ⟨h.consume, h.follow, h.connected, h.opened, h.waiting, h.rest, h.table, h.nodup, fun r hr => ?_⟩
  have hperm : (rd.rx ++ [st.inFlight[i]] ++ st.inFlight.eraseIdx i).Perm (rd.rx ++ st.inFlight) := by
    rw [List.append_assoc]
    exact (List.getElem_cons_eraseIdx_perm hi).append_left rd.rx
  have honce := h.once r hr
  simp only [Reader.ahead, List.count_append] at honce ⊢
  have hcount := hperm.count_eq r
  simp only [List.count_append] at hcount
  omega

lemma query_perm (h : Follows st rd) (hphase : rd.phase = .subscribed) (hsince : rd.since = none)
    (hlimit : (waitingFor st rd).length ≤ backlogLimit)
    (hpositive : ∀ r ∈ waitingFor st rd, 0 < r.enqueuedAtMs.toInt64) :
    (rd.query O st.bus).Perm rd.waiting := by
  have hrows : st.bus.backlogRows rd.group rd.agent rd.session rd.since rd.consume =
      waitingFor st rd := by
    refine List.filter_congr fun r hr => ?_
    rw [Bool.eq_iff_iff]
    simp only [Reader.wants, Bool.and_eq_true, decide_eq_true_eq, h.consume, hsince,
      Option.getD_none, Bool.not_true, Bool.false_or]
    refine ⟨fun hsel => ⟨hsel.1.1, hsel.2⟩, fun hsel => ⟨⟨hsel.1, hpositive r ?_⟩, hsel.2⟩⟩
    refine mem_waitingFor.mpr ⟨hr, ?_, hsel.2⟩
    simpa only [Reader.wants, Bool.and_eq_true, decide_eq_true_eq] using hsel.1
  have hperm := (O.backlog_ordered (waitingFor st rd)).1
  rw [Reader.query, hrows, List.take_of_length_le (by rw [hperm.length_eq]; exact hlimit)]
  exact hperm.trans ((List.perm_ext_iff_of_nodup (nodup_waitingFor st rd) h.nodup).mpr (h.table hphase))

lemma follows_ran {works : Bool} {now : UInt64} {bus : BusTable} {i : ℕ} (h : Follows st rd)
    (hs : Sound st) (hok : ReaderOk st.log rd) (hran : Ran O st.bus rd works now bus rd')
    (hanswered : Answered st rd) :
    Follows { st with bus, readers := st.readers.set i rd' } rd' := by
  cases hran with
  | query hphase =>
    obtain ⟨hlimit, hpositive⟩ := hanswered hphase
    have hperm := @query_perm O _ _ h hphase (hok.since h.consume) hlimit hpositive
    refine ⟨h.consume, h.follow, Phase.noConfusion, h.opened, h.waiting, fun r hr => ?_,
      fun hp => (by cases hp), h.nodup, fun r hr => ?_⟩
    · have hr' := (h.table hphase r).mpr (hperm.mem_iff.mp hr)
      exact (mem_waitingFor.mp hr').2.2
    · have honce := h.once r hr
      rw [Reader.ahead, if_pos hphase, List.count_append, ← hperm.count_eq] at honce
      rw [Reader.ahead, if_neg Phase.noConfusion, List.count_append]
      exact honce
  | backlogEnd hphase =>
    rw [if_pos h.follow]
    refine ⟨h.consume, h.follow, Phase.noConfusion, h.opened, h.waiting, fun _ hr => (by cases hr),
      fun hp => (by cases hp), h.nodup, fun r hr => ?_⟩
    have honce := h.once r hr
    rw [Reader.ahead, hphase] at honce
    exact honce
  | @write row rest hphase =>
    have hrest := h.rest
    rw [hphase] at hrest
    rw [if_pos h.consume, Reader.emit, unconsumed_eq (hrest row (List.mem_cons_self ..))]
    refine ⟨h.consume, h.follow, Phase.noConfusion, h.opened, h.waiting,
      fun r hr => hrest r (List.mem_cons_of_mem _ hr), fun hp => (by cases hp), h.nodup, fun r hr => ?_⟩
    have honce := h.once r hr
    simp only [Reader.ahead, hphase, reduceCtorEq, if_false, Phase.rest, List.count_append,
      List.count_cons] at honce
    simp only [Reader.ahead, reduceCtorEq, if_false, Phase.rest, List.count_append,
      List.count_singleton]
    omega
  | mark hphase =>
    have hrest := h.rest
    rw [hphase] at hrest
    refine ⟨h.consume, h.follow, Phase.noConfusion, h.opened, h.waiting, hrest,
      fun hp => (by cases hp), h.nodup, fun r hr => ?_⟩
    have honce := h.once r hr
    rw [Reader.ahead, hphase] at honce
    exact honce
  | @recv row rest hphase hrx hw =>
    have hfresh : row.unconsumed = row :=
      unconsumed_eq (hs.ledger.fresh row (hok.rx row (hrx ▸ List.mem_cons_self ..)))
    rw [if_pos h.consume, Reader.emit, hfresh]
    refine ⟨h.consume, h.follow, Phase.noConfusion, h.opened, h.waiting, fun _ hr => (by cases hr),
      fun hp => (by cases hp), h.nodup, fun r hr => ?_⟩
    have honce := h.once r hr
    simp only [Reader.ahead, hphase, hrx, reduceCtorEq, if_false, Phase.rest, List.count_append,
      List.count_cons, List.nil_append] at honce
    simp only [Reader.ahead, reduceCtorEq, if_false, Phase.rest, List.count_append,
      List.count_singleton, List.nil_append]
    omega
  | @skip row rest hphase hrx hw =>
    refine ⟨h.consume, h.follow, h.connected, h.opened, h.waiting, h.rest,
      fun hp => (by rw [hphase] at hp; cases hp), h.nodup, fun r hr => ?_⟩
    have hne : row ≠ r := by
      rintro rfl
      rw [(h.messages_mem hr).2] at hw
      cases hw
    have honce := h.once r hr
    simp only [Reader.ahead, hphase, hrx, reduceCtorEq, if_false, List.count_append, List.count_cons,
      beq_iff_eq, hne] at honce
    simp only [Reader.ahead, hphase, reduceCtorEq, if_false, List.count_append]
    omega
  | liveMark hphase =>
    refine ⟨h.consume, h.follow, Phase.noConfusion, h.opened, h.waiting, fun _ hr => (by cases hr),
      fun hp => (by cases hp), h.nodup, fun r hr => ?_⟩
    have honce := h.once r hr
    rw [Reader.ahead, hphase] at honce
    exact honce

lemma follows_subscribe (hs : Sound st) {me : AgentRow} {session : Option String}
    {sinceMs : Option UInt64} (hseam : ∀ row ∈ waitingFor st (subscribe st me session sinceMs true true),
      row ∉ st.inFlight) :
    Follows { st with readers := st.readers ++ [subscribe st me session sinceMs true true] }
      (subscribe st me session sinceMs true true) := by
  have hnodup := nodup_waitingFor st (subscribe st me session sinceMs true true)
  refine ⟨rfl, rfl, Phase.noConfusion, le_refl _, fun r hr => ?_, fun _ hr => (by cases hr),
    fun _ _ => Iff.rfl, hnodup, fun r hr => ?_⟩
  · obtain ⟨hr, hw, hnone⟩ := mem_waitingFor.mp hr
    have hlog := hs.ledger.logged r hr
    rw [unconsumed_eq hnone] at hlog
    exact ⟨hlog, hw⟩
  · rw [Reader.messages, List.mem_append] at hr
    have hr' : r ∈ waitingFor st (subscribe st me session sinceMs true true) := by
      refine hr.resolve_right fun hr => ?_
      obtain ⟨hr, -⟩ := List.mem_filter.mp hr
      have hnil : st.log.drop st.log.length = [] := List.drop_length
      rw [subscribe, hnil] at hr
      cases hr
    have hahead : Reader.ahead
        { st with readers := st.readers ++ [subscribe st me session sinceMs true true] }
          (subscribe st me session sinceMs true true) =
            waitingFor st (subscribe st me session sinceMs true true) ++ st.inFlight := rfl
    rw [hahead, List.count_append, List.count_eq_one_of_mem hnodup hr',
      List.count_eq_zero.mpr (hseam r hr')]
    rfl

lemma waitingFor_mark {group session : String} {seq : ℕ} {now : UInt64}
    (hother : ∀ r ∈ st.bus.rows, r.key = (group, session, seq) → rd.wants r = false)
    (hbus : st'.bus = st.bus.agentMsgMarkConsumed group session seq now) (r : AgentMsgRow) :
    r ∈ waitingFor st' rd ↔ r ∈ waitingFor st rd := by
  rw [mem_waitingFor, mem_waitingFor, hbus, BusTable.mem_agentMsgMarkConsumed]
  constructor
  · rintro ⟨⟨o, ho, rfl⟩, hw, hnone⟩
    split at hnone
    · cases hnone
    · next hk =>
      rw [if_neg hk] at hw ⊢
      exact ⟨ho, hw, hnone⟩
  · rintro ⟨hr, hw, hnone⟩
    refine ⟨⟨r, hr, ?_⟩, hw, hnone⟩
    rw [if_neg]
    intro hk
    rw [hother r hr hk] at hw
    cases hw

lemma follows_other (h : Follows st rd) (hs : Sound st) {other other' : Reader} {works : Bool}
    {now : UInt64} {bus : BusTable} {rds : List Reader} (hother : ReaderOk st.log other)
    (hran : Ran O st.bus other works now bus other')
    (hforeign : ∀ row ∈ other.phase.marking, rd.wants row = false) :
    Follows { st with bus, readers := rds } rd := by
  refine h.frame rfl rfl fun _ r => ?_
  rcases hran.bus with rfl | ⟨row, hrow, rfl⟩
  · rfl
  · refine waitingFor_mark (fun o ho hk => ?_) rfl r
    have heq := marked_eq hs.ledger hother hrow ho hk
    calc rd.wants o = rd.wants o.unconsumed := rfl
      _ = rd.wants row := by rw [heq]; rfl
      _ = false := hforeign row hrow

lemma follows_abort (h : Follows st rd) {i : ℕ}
    (hforeign : ∀ row ∈ st.inFlight[i]?, rd.wants row = false) :
    Follows { st with inFlight := st.inFlight.eraseIdx i } rd := by
  refine ⟨h.consume, h.follow, h.connected, h.opened, h.waiting, h.rest, h.table, h.nodup, fun r hr => ?_⟩
  have hcount : (st.inFlight.eraseIdx i).count r = st.inFlight.count r := by
    by_cases hi : i < st.inFlight.length
    · have hne : st.inFlight[i] ≠ r := by
        rintro rfl
        have hw := hforeign _ (List.getElem?_eq_getElem hi)
        rw [(h.messages_mem hr).2] at hw
        cases hw
      have hperm := (List.getElem_cons_eraseIdx_perm hi).count_eq r
      rwa [List.count_cons_of_ne hne] at hperm
    · rw [List.eraseIdx_of_length_le (Nat.le_of_not_lt hi)]
  have honce := h.once r hr
  simp only [Reader.ahead, List.count_append] at honce ⊢
  rw [hcount]
  exact honce

lemma follows_step {l : Label} (h : ∀ rd, st.readers[f]? = some rd → Follows st rd) (hs : Sound st)
    (hcond : Undisturbed f st l) (hstep : step O st l = some st') :
    ∀ rd, st'.readers[f]? = some rd → Follows st' rd := by
  intro rd hrd
  cases step_moves hstep with
  | agents => exact (h rd hrd).frame rfl rfl fun _ _ => Iff.rfl
  | enqueue henq =>
    obtain ⟨htrims, hseam⟩ := hcond
    have hok := hs.readers rd (List.mem_of_getElem? hrd)
    refine follows_enqueue (h rd hrd) hs hok henq htrims fun hphase => ?_
    rw [(BusTable.agentMsgEnqueue_ok henq).1, Bool.eq_false_iff]
    intro hw
    simp only [Reader.wants, Bool.and_eq_true, decide_eq_true_eq] at hw
    exact hseam rd hrd hphase ⟨hw.1.1, hw.1.2, hw.2⟩
  | broadcast hrow =>
    rw [List.getElem?_map] at hrd
    obtain ⟨rd₀, hrd₀, rfl⟩ := Option.map_eq_some_iff.mp hrd
    exact follows_broadcast (h rd₀ hrd₀) hrow
  | abort => exact follows_abort (h rd hrd) (hcond rd hrd)
  | request hme =>
    rcases lt_trichotomy f st.readers.length with hlt | heq | hgt
    · rw [List.getElem?_append_left hlt] at hrd
      exact (h rd hrd).frame rfl rfl fun _ _ => Iff.rfl
    · subst heq
      obtain ⟨rfl, rfl, hseam⟩ := hcond rfl
      rw [List.getElem?_concat_length] at hrd
      obtain rfl := Option.some.inj hrd
      exact follows_subscribe hs (hseam _ hme)
    · rw [List.getElem?_eq_none] at hrd
      · cases hrd
      · rw [List.length_append]
        exact hgt
  | @run i works now rd₀ bus rd' hrd₀ hran =>
    have hok := hs.readers rd₀ (List.mem_of_getElem? hrd₀)
    obtain ⟨hforeign, hquery⟩ := hcond
    by_cases hi : i = f
    · subst hi
      obtain ⟨hlt, _⟩ := List.getElem?_eq_some_iff.mp hrd₀
      rw [List.getElem?_set_self hlt] at hrd
      obtain rfl := Option.some.inj hrd
      exact follows_ran (h rd₀ hrd₀) hs hok hran (hquery rd₀ hrd₀ rfl)
    · rw [List.getElem?_set_ne hi] at hrd
      exact follows_other (h rd hrd) hs hok hran (hforeign rd hrd hi rd₀ hrd₀)
  | lag | disconnect =>
    rw [List.getElem?_set_ne hcond] at hrd
    exact (h rd hrd).frame rfl rfl fun _ _ => Iff.rfl
  | supervisorMark => exact (h rd hrd).frame rfl rfl fun _ => waitingFor_mark (hcond rd hrd) rfl
  | restart =>
    rw [List.getElem?_map, List.getElem?_eq_none hcond] at hrd
    cases hrd

lemma follows_reached {ls : List Label}
    (hrun : Run (Guarded (Undisturbed f) (Fires (step O))) initial ls st) :
    Sound st ∧ ∀ rd, st.readers[f]? = some rd → Follows st rd :=
  hrun.invariant (I := fun st => Sound st ∧ ∀ rd, st.readers[f]? = some rd → Follows st rd)
    (fun _ _ _ hi hs => ⟨sound_step hi.1 hs.2, follows_step hi.2 hi.1 hs.1 hs.2⟩)
    ⟨sound_initial, fun _ hrd => (by cases hrd)⟩

lemma Ran.messages {works : Bool} {now : UInt64} {bus bus' : BusTable}
    (hran : Ran O bus rd works now bus' rd') (hlog : st'.log = st.log) :
    rd'.messages st' = rd.messages st := by
  rw [Reader.messages, Reader.messages, hlog]
  cases hran <;> rfl

/-- How many steps the follower takes until it waits for the next broadcast. -/
def Reader.steps (rd : Reader) : ℕ :=
  2 * rd.rx.length + match rd.phase with
    | .subscribed => 2 * rd.waiting.length + 2
    | .write rows => 2 * rows.length + 1
    | .mark _ rest => 2 * rest.length + 2
    | .live => 0
    | .liveMark _ => 1
    | .closed => 0

lemma Ran.steps {works : Bool} {now : UInt64} {bus bus' : BusTable}
    (hran : Ran O bus rd works now bus' rd') (hfollow : rd.follow = true)
    (hconsume : rd.consume = true)
    (hquery : rd.phase = .subscribed → (rd.query O bus).length = rd.waiting.length) :
    rd'.steps < rd.steps ∧ rd'.phase ≠ .subscribed := by
  cases hran with
  | query hphase =>
    refine ⟨?_, Phase.noConfusion⟩
    simp only [Reader.steps, hphase, hquery hphase]
    omega
  | backlogEnd hphase =>
    rw [if_pos hfollow]
    refine ⟨?_, Phase.noConfusion⟩
    simp only [Reader.steps, hphase]
    omega
  | write hphase =>
    rw [if_pos hconsume]
    refine ⟨?_, Phase.noConfusion⟩
    simp only [Reader.steps, Reader.emit, hphase, List.length_cons]
    omega
  | mark hphase =>
    refine ⟨?_, Phase.noConfusion⟩
    simp only [Reader.steps, hphase]
    omega
  | recv hphase hrx =>
    rw [if_pos hconsume]
    refine ⟨?_, Phase.noConfusion⟩
    simp only [Reader.steps, Reader.emit, hphase, hrx, List.length_cons]
    omega
  | skip hphase hrx =>
    refine ⟨?_, by rw [hphase]; exact Phase.noConfusion⟩
    simp only [Reader.steps, hphase, hrx, List.length_cons]
    omega
  | liveMark hphase =>
    refine ⟨?_, Phase.noConfusion⟩
    simp only [Reader.steps, hphase]
    omega

lemma runReader_none {works : Bool} {now : UInt64} {bus : BusTable}
    (h : runReader O bus rd works now = none) (hconnected : rd.phase ≠ .closed) :
    rd.phase = .live ∧ rd.rx = [] := by
  rw [runReader] at h
  split at h
  · cases h
  · cases h
  · cases h
  · cases h
  · next hphase =>
    split at h
    · next hrx => exact ⟨hphase, hrx⟩
    · split at h
      · cases h
      · cases h
  · cases h
  · next hphase => exact (hconnected hphase).elim

/-- Left to itself the follower gets to the end of its backlog and of its receiver. -/
lemma catches_up (now : UInt64) (hs : Sound st) (h : ∀ rd, st.readers[f]? = some rd → Follows st rd)
    (hrd : st.readers[f]? = some rd) (hanswered : Answered st rd) :
    ∃ n st' rd', Run (Guarded (Undisturbed f) (Fires (step O))) st
      (List.replicate n (.run f true now)) st' ∧ st'.readers[f]? = some rd' ∧ rd'.phase = .live ∧
      rd'.rx = [] ∧ st'.inFlight = st.inFlight ∧ rd'.messages st' = rd.messages st := by
  induction hsteps : rd.steps using Nat.strong_induction_on generalizing st rd with
  | _ steps ih =>
    have hf := h rd hrd
    have hok := hs.readers rd (List.mem_of_getElem? hrd)
    cases hrun : runReader O st.bus rd true now with
    | none =>
      obtain ⟨hphase, hrx⟩ := runReader_none hrun hf.connected
      exact ⟨0, st, rd, .nil, hrd, hphase, hrx, rfl, rfl⟩
    | some next =>
      obtain ⟨bus, rd'⟩ := next
      have hran := runReader_ran hrun
      have hstep : step O st (.run f true now) =
          some { st with bus, readers := st.readers.set f rd' } := by
        simp only [step, hrd, hrun]
      have hcond : Undisturbed f st (.run f true now) := by
        refine ⟨fun _ _ hne => (hne rfl).elim, fun rd₀ hrd₀ _ => ?_⟩
        obtain rfl := Option.some.inj (hrd.symm.trans hrd₀)
        exact hanswered
      obtain ⟨hlt, _⟩ := List.getElem?_eq_some_iff.mp hrd
      obtain ⟨hless, hphase⟩ := hran.steps hf.follow hf.consume fun hphase =>
        (query_perm hf hphase (hok.since hf.consume) (hanswered hphase).1 (hanswered hphase).2).length_eq
      obtain ⟨n, st', rd₁, hrun', hrd₁, hlive, hrx, hflight, hmessages⟩ :=
        ih rd'.steps (hsteps ▸ hless) (sound_step hs hstep) (follows_step h hs hcond hstep)
          (List.getElem?_set_self hlt) (fun hp => (hphase hp).elim) rfl
      exact ⟨n + 1, st', rd₁, .cons ⟨hcond, hstep⟩ hrun', hrd₁, hlive, hrx, hflight,
        hmessages.trans (hran.messages rfl)⟩

theorem follower_sees_each_once {ls : List Label}
    (hrun : Run (Guarded (Undisturbed f) (Fires (step O))) initial ls st)
    (hrd : st.readers[f]? = some rd) :
    (∀ r ∈ rd.messages st, rd.emitted.count r + (rd.ahead st).count r = 1) ∧
    (rd.phase = .live → rd.rx = [] → st.inFlight = [] →
      ∀ r ∈ rd.messages st, rd.emitted.count r = 1) ∧
    (Answered st rd → ∀ now, ∃ n st' rd', Run (Guarded (Undisturbed f) (Fires (step O))) st
      (List.replicate n (.run f true now)) st' ∧ st'.readers[f]? = some rd' ∧
      ∀ r ∈ rd.messages st, r ∉ st.inFlight → rd'.emitted.count r = 1) := by
  obtain ⟨hs, h⟩ := follows_reached hrun
  refine ⟨(h rd hrd).once, fun hphase hrx hflight r hr => ?_, fun hanswered now => ?_⟩
  · have honce := (h rd hrd).once r hr
    rw [Reader.ahead, hphase, hrx, hflight] at honce
    exact honce
  · obtain ⟨n, st', rd', hrun', hrd', hphase, hrx, hflight, hmessages⟩ :=
      catches_up (O := O) now hs h hrd hanswered
    refine ⟨n, st', rd', hrun', hrd', fun r hr hnot => ?_⟩
    have honce := ((follows_reached (hrun.append hrun')).2 rd' hrd').once r (hmessages ▸ hr)
    rw [Reader.ahead, hphase, hrx, hflight, if_neg Phase.noConfusion, List.count_append,
      List.count_append, List.count_eq_zero.mpr hnot] at honce
    exact honce

def steadyRead : List Label :=
  [.agents primes, .enqueue "team" "dev" "dev" "prime" .turnOutput [104, 105] 5, .broadcast 0,
    .request [1] none none true true, .run 0 true 6, .run 0 true 6, .run 0 true 6, .run 0 true 6,
    .enqueue "team" "dev" "dev" "prime" .turnOutput [104, 105] 7, .broadcast 0, .run 0 true 8,
    .run 0 true 8]

theorem follower_sees_each_once_steady : ∃ st rd,
    Run (Fires (step .stable)) initial steadyRead st ∧ st.readers[0]? = some rd ∧
    rd.messages st = [answer, { answer with seq := 2, enqueuedAtMs := 7 }] ∧
    ∀ r ∈ rd.messages st, rd.emitted.count r = 1 := by
  have heval : ((execute (restrict (Undisturbed 0) (step .stable)) initial steadyRead).bind fun st =>
      st.readers[0]?.map fun rd => (rd.phase, rd.rx, st.inFlight, rd.messages st)) =
        some (.live, [], [], [answer, { answer with seq := 2, enqueuedAtMs := 7 }]) := by
    decide +kernel
  obtain ⟨st, hst, hmap⟩ := Option.bind_eq_some_iff.mp heval
  obtain ⟨rd, hrd, hfacts⟩ := Option.map_eq_some_iff.mp hmap
  obtain ⟨hphase, hfacts⟩ := Prod.mk.inj hfacts
  obtain ⟨hrx, hfacts⟩ := Prod.mk.inj hfacts
  obtain ⟨hflight, hmessages⟩ := Prod.mk.inj hfacts
  have hrun := execute_restrict_run hst
  refine ⟨st, rd, hrun.forget, hrd, hmessages, ?_⟩
  exact (follower_sees_each_once hrun hrd).2.1 hphase hrx hflight

def seamRead : List Label :=
  [.agents primes, .request [1] none none true true,
    .enqueue "team" "dev" "dev" "prime" .turnOutput [104, 105] 5, .broadcast 0, .run 0 true 6,
    .run 0 true 6, .run 0 true 6, .run 0 true 6, .run 0 true 6, .run 0 true 6]

theorem message_at_seam_seen_twice : ∃ st rd,
    execute (step .stable) initial seamRead = some st ∧ st.readers[0]? = some rd ∧
    rd.consume = true ∧ rd.follow = true ∧ rd.messages st = [answer] ∧
    rd.emitted = [answer, answer] := by
  have heval : ((execute (step .stable) initial seamRead).bind fun st =>
      st.readers[0]?.map fun rd => (rd.consume, rd.follow, rd.messages st, rd.emitted)) =
        some (true, true, [answer], [answer, answer]) := by
    decide +kernel
  obtain ⟨st, hst, hmap⟩ := Option.bind_eq_some_iff.mp heval
  obtain ⟨rd, hrd, hfacts⟩ := Option.map_eq_some_iff.mp hmap
  obtain ⟨hconsume, hfacts⟩ := Prod.mk.inj hfacts
  obtain ⟨hfollow, hfacts⟩ := Prod.mk.inj hfacts
  obtain ⟨hmessages, hemitted⟩ := Prod.mk.inj hfacts
  exact ⟨st, rd, hst, hrd, hconsume, hfollow, hmessages, hemitted⟩

end WalkieTalkie.Reading
