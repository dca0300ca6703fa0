import WalkieTalkie.Lib.Runs
import WalkieTalkie.Sessions.Clock
import WalkieTalkie.Sessions.Framing

/-! Whether a turn is outstanding. The supervisor keeps a flag and a status where the harness has a
count: one drain may write several turns, and the first completion clears the flag and sets the
status. As long as a turn is written only when those before it have completed, flag, status and count
agree. While a drain is under way its own count stands for the flag, and between the write of a turn
and `agent_set_status` the status is still the former one. -/

namespace WalkieTalkie.Sessions.Clock

open Proto Store Lib Lib.Runs
open Orchestration.Clients (Sorting)
open Orchestration.Requests (Outgoing)

/-- The turns that the drain under way has written. -/
def wrote : Phase → ℕ
  | .feed _ fed _ => fed
  | .markConsumed _ _ fed _ => fed + 1
  | .setRunning _ fed _ => fed + 1
  | _ => 0

structure Tracks (st : State) : Prop where
  active : st.sup.phase.closing = false → wrote st.sup.phase = 0 →
    (st.sup.turnActive = true ↔ st.completed < st.written)
  draining : 0 < wrote st.sup.phase → st.completed < st.written
  awaiting : statusOf st.store st.sup = some .awaitingInput → flipping st.sup.phase = false →
    st.completed = st.written

/-- The read gives the completion of a turn. -/
def completion (fromStr : String → Option Json) (buf : Bytes) (read : Read) : Bool :=
  match nextEvent fromStr buf read with
  | (.ok (some (.turnComplete _ _)), _) => true
  | _ => false

/-- The harness completes only turns that were written, and no one else reports the agent to be
awaiting input. -/
def Answering (fromStr : String → Option Json) (st : State) : Label → Prop
  | .act (.read read) _ => completion fromStr st.sup.buf read = true → st.completed < st.written
  | .status group agent status => ¬ (group = st.sup.group ∧ agent = st.sup.session ∧
      status = .awaitingInput)
  | _ => True

/-- A turn is written only when all the turns before it have completed. -/
def OneAtATime (st : State) : Label → Prop
  | .act (.written true) _ => st.completed = st.written
  | _ => True

def Orderly (fromStr : String → Option Json) (st : State) (l : Label) : Prop :=
  Answering fromStr st l ∧ OneAtATime st l

instance (fromStr : String → Option Json) (st : State) (l : Label) :
    Decidable (Answering fromStr st l) :=
  match l with
  | .act (.read read) _ => inferInstanceAs
      (Decidable (completion fromStr st.sup.buf read = true → st.completed < st.written))
  | .status group agent status => inferInstanceAs (Decidable (¬ (group = st.sup.group ∧
      agent = st.sup.session ∧ status = .awaitingInput)))
  | .act (.written _) _ | .act .done _ | .act (.elapsed _) _ | .act .woken _ | .act .timer _
  | .delay _ | .send _ _ | .consume .. => isTrue trivial

instance (st : State) (l : Label) : Decidable (OneAtATime st l) :=
  match l with
  | .act (.written true) _ => inferInstanceAs (Decidable (st.completed = st.written))
  | .act (.written false) _ | .act .done _ | .act (.elapsed _) _ | .act (.read _) _ | .act .woken _
  | .act .timer _ | .delay _ | .send _ _ | .consume .. | .status .. => isTrue trivial

instance (fromStr : String → Option Json) (st : State) (l : Label) :
    Decidable (Orderly fromStr st l) :=
  inferInstanceAs (Decidable (Answering fromStr st l ∧ OneAtATime st l))

/-- What holds besides while turns are written one at a time. -/
structure Tracked (st : State) : Prop where
  completed : st.completed ≤ st.written
  written : st.written ≤ st.completed + 1
  active : st.sup.phase.closing = false →
    (st.sup.turnActive = true ∨ 0 < wrote st.sup.phase ↔ st.completed < st.written)
  reporting : reports st.sup.phase = true ∨ st.sup.phase = .setAwaiting →
    st.completed = st.written
  awaiting : statusOf st.store st.sup = some .awaitingInput → flipping st.sup.phase = false →
    st.completed = st.written

variable {fromStr : String → Option Json} {O : Sorting} {st st' : State} {l : Label}

lemma statusOf_setStatus {sup : Supervisor} {store : Db} {status status' : AgentStatus}
    (h : statusOf (sup.setStatus store status) sup = some status') : status' = status := by
  obtain ⟨row, hget, rfl⟩ := Option.map_eq_some_iff.mp h
  obtain ⟨hrow, hkey⟩ := Table.find_eq_some.mp hget
  obtain ⟨o, _, rfl⟩ := List.mem_map.mp hrow
  split at hkey
  · next hk => rw [if_pos hk]; rfl
  · next hk => exact absurd (decide_eq_true hkey) hk

lemma statusOf_other {sup : Supervisor} {store : Db} {group agent : String} {status : AgentStatus}
    (hother : ¬ (group = sup.group ∧ agent = sup.session ∧ status = .awaitingInput))
    (h : statusOf { store with agents := store.agents.agentSetStatus group agent status } sup =
      some .awaitingInput) : statusOf store sup = some .awaitingInput := by
  obtain ⟨row, hget, hstatus⟩ := Option.map_eq_some_iff.mp h
  obtain ⟨hrow, hkey⟩ := Table.find_eq_some.mp hget
  obtain ⟨o, ho, rfl⟩ := List.mem_map.mp hrow
  split at hkey
  · next hk =>
    rw [if_pos hk] at hstatus
    have hk := of_decide_eq_true hk
    have hown : o.key = (sup.group, sup.session) := hkey
    rw [hown] at hk
    obtain ⟨hgroup, hagent⟩ := Prod.mk.inj hk
    exact absurd ⟨hgroup.symm, hagent.symm, hstatus⟩ hother
  · next hk =>
    rw [if_neg hk] at hstatus
    have hfind : store.agents.agentGet sup.group sup.session = some o :=
      Table.find_eq_some.mpr ⟨ho, hkey⟩
    rw [statusOf, hfind]
    exact congrArg some hstatus

lemma statusOf_congr {store store' : Db} {sup sup' : Supervisor}
    (hagents : store'.agents = store.agents) (hgroup : sup'.group = sup.group)
    (hsession : sup'.session = sup.session) : statusOf store' sup' = statusOf store sup := by
  rw [statusOf, statusOf, hagents, hgroup, hsession]

/-- Neither a turn is being fed nor a completion reported. -/
def calm : Phase → Bool
  | .pending _ => true
  | .feed _ fed _ => fed = 0
  | .idleCheck => true
  | .idleNotice _ => true
  | .select => true
  | .trace _ => true
  | .touch => true
  | _ => false

structure Calm (phase : Phase) : Prop where
  wrote : wrote phase = 0
  closing : phase.closing = false
  flipping : flipping phase = false
  reports : ¬ (reports phase = true ∨ phase = .setAwaiting)

lemma calm_spec {phase : Phase} (h : calm phase = true) : Calm phase := by
  cases phase with
  | feed rows fed timer => exact ⟨of_decide_eq_true h, rfl, rfl, by simp [reports]⟩
  | pending | idleCheck | idleNotice | select | trace | touch =>
    exact ⟨rfl, rfl, rfl, by simp [reports]⟩
  | markConsumed | setRunning | turnOutput | setAwaiting | setExited | exitNotice | ended => cases h

lemma Tracked.frame (h : Tracked st) (hcalm : calm st.sup.phase = true)
    (hcalm' : calm st'.sup.phase = true) (hcompleted : st'.completed = st.completed)
    (hwritten : st'.written = st.written)
    (hstatus : statusOf st'.store st'.sup = statusOf st.store st.sup)
    (hactive : st'.sup.turnActive = st.sup.turnActive) : Tracked st' where
  completed := by rw [hcompleted, hwritten]; exact h.completed
  written := by rw [hcompleted, hwritten]; exact h.written
  active _ := by
    rw [hactive, (calm_spec hcalm').wrote, hcompleted, hwritten,
      ← h.active (calm_spec hcalm).closing, (calm_spec hcalm).wrote]
  reporting hr := absurd hr (calm_spec hcalm').reports
  awaiting hs _ := by
    rw [hcompleted, hwritten]
    exact h.awaiting (hstatus ▸ hs) (calm_spec hcalm).flipping

lemma Tracked.same (h : Tracked st) (hsup : st'.sup = st.sup)
    (hcompleted : st'.completed = st.completed) (hwritten : st'.written = st.written)
    (hstatus : statusOf st'.store st.sup = some .awaitingInput →
      statusOf st.store st.sup = some .awaitingInput) : Tracked st' where
  completed := by rw [hcompleted, hwritten]; exact h.completed
  written := by rw [hcompleted, hwritten]; exact h.written
  active := by rw [hsup, hcompleted, hwritten]; exact h.active
  reporting := by rw [hsup, hcompleted, hwritten]; exact h.reporting
  awaiting := by
    rw [hsup, hcompleted, hwritten]
    exact fun hs => h.awaiting (hstatus hs)

lemma tracked_drained (h : Tracked st) {fed : ℕ} {timer : Bool}
    (hphase : st.sup.phase = .feed [] fed timer) (hsup : st'.sup = st.sup.drained fed timer)
    (hstore : st'.store = st.store) (hcompleted : st'.completed = st.completed)
    (hwritten : st'.written = st.written) : Tracked st' := by
  have hactive := h.active (by rw [hphase]; rfl)
  have hcalm : calm (st.sup.drained fed timer).phase = true := by cases timer <;> rfl
  rw [hphase] at hactive
  refine ⟨by rw [hcompleted, hwritten]; exact h.completed,
    by rw [hcompleted, hwritten]; exact h.written, fun _ => ?_, fun hr => ?_, fun hs _ => ?_⟩
  · rw [hsup, (calm_spec hcalm).wrote, hcompleted, hwritten, ← hactive]
    simp [Supervisor.drained, wrote]
  · rw [hsup] at hr
    exact absurd hr (calm_spec hcalm).reports
  · rw [hsup, hstore] at hs
    rw [hcompleted, hwritten]
    exact h.awaiting hs (by rw [hphase]; rfl)

lemma tracked_ends (h : Tracked st) {phase : Phase} {eof : Bool} {buf : Bytes} {store : Db}
    (hclosing : phase.closing = true) (hfrom : flipping st.sup.phase = false)
    (hstore : store.agents = st.store.agents ∨ store = st.sup.setStatus st.store .exited)
    (hsup : st'.sup = { st.sup with phase, eof, buf }) (hstore' : st'.store = store)
    (hcompleted : st'.completed = st.completed) (hwritten : st'.written = st.written) :
    Tracked st' := by
  refine ⟨by rw [hcompleted, hwritten]; exact h.completed,
    by rw [hcompleted, hwritten]; exact h.written, fun hc => ?_, fun hr => ?_, fun hs _ => ?_⟩
  · rw [hsup] at hc
    rw [hclosing] at hc
    cases hc
  · rw [hsup] at hr
    rcases hr with hr | hr
    · cases phase <;> simp [reports, Phase.closing] at hr hclosing
    · have hphase : phase = .setAwaiting := hr
      rw [hphase] at hclosing
      cases hclosing
  · rw [hsup, hstore'] at hs
    rw [hcompleted, hwritten]
    rcases hstore with hagents | rfl
    · exact h.awaiting ((statusOf_congr hagents rfl rfl).symm.trans hs) hfrom
    · have hstatus := @statusOf_setStatus st.sup st.store .exited .awaitingInput hs
      cases hstatus

lemma tracked_step (h : Tracked st) (hcond : Orderly fromStr st l)
    (hmoves : Moves fromStr st l st') : Tracked st' := by
  cases hmoves with
  | delay hst =>
    subst hst
    exact h.same rfl rfl rfl id
  | send hagents hst | consume hagents hst =>
    subst hst
    exact h.same rfl rfl rfl fun hs => (statusOf_congr hagents rfl rfl).symm.trans hs
  | status hst =>
    subst hst
    exact h.same rfl rfl rfl (statusOf_other hcond.1)
  | query hphase hst | woken hphase hst | touched hphase hst | more hphase hst =>
    subst hst
    refine h.frame (by rw [hphase]; rfl) ?_ rfl rfl rfl rfl
    first | rfl | exact (congrArg calm hphase).trans rfl
  | checked hphase _ hst | overdue hphase _ hst | timer hphase _ hst =>
    subst hst
    exact h.frame (by rw [hphase]; rfl) rfl rfl rfl rfl rfl
  | notice hphase hagents hst | traced hphase hagents hst =>
    subst hst
    exact h.frame (by rw [hphase]; rfl) rfl rfl rfl (statusOf_congr hagents rfl rfl) rfl
  | text hphase _ hst =>
    subst hst
    refine h.frame (by rw [hphase]; rfl) ?_ rfl rfl rfl rfl
    dsimp only
    split <;> rfl
  | drained hphase hst =>
    subst hst
    exact tracked_drained h hphase rfl rfl rfl rfl
  | wrote hphase hst =>
    have hall : st.completed = st.written := hcond.2
    subst hst
    refine ⟨Nat.le_succ_of_le h.completed, by dsimp only; omega, fun _ => ?_, fun hr => ?_,
      fun _ hflip => ?_⟩
    · exact iff_of_true (Or.inr (Nat.succ_pos _)) (Nat.lt_succ_of_le hall.le)
    · simp [reports] at hr
    · cases hflip
  | marked hphase hagents hst =>
    have hactive := h.active (by rw [hphase]; rfl)
    rw [hphase] at hactive
    subst hst
    refine ⟨h.completed, h.written, fun _ => hactive, fun hr => ?_, fun _ hflip => ?_⟩
    · simp [reports] at hr
    · cases hflip
  | running hphase hst =>
    have hactive := h.active (by rw [hphase]; rfl)
    rw [hphase] at hactive
    subst hst
    refine ⟨h.completed, h.written, fun _ => hactive, fun hr => ?_, fun hs _ => ?_⟩
    · simp [reports] at hr
    · have hstatus := @statusOf_setStatus st.sup st.store .running .awaitingInput hs
      cases hstatus
  | complete hphase hnext hst =>
    have hless := hcond.1 (by rw [completion, hnext])
    have hle := h.written
    subst hst
    have hall : st.completed + 1 = st.written := by omega
    refine ⟨hall.le, Nat.le_succ_of_le hall.ge, fun _ => ?_, fun _ => hall, fun _ _ => hall⟩
    exact iff_of_false (by simp [wrote]) (by dsimp only; omega)
  | output hphase hagents hst =>
    have hall := h.reporting (Or.inl (by rw [hphase]; rfl))
    have hactive := h.active (by rw [hphase]; rfl)
    rw [hphase] at hactive
    subst hst
    exact ⟨h.completed, h.written, fun _ => hactive, fun _ => hall, fun _ _ => hall⟩
  | awaiting hphase hst =>
    have hall := h.reporting (Or.inr hphase)
    have hactive := h.active (by rw [hphase]; rfl)
    rw [hphase] at hactive
    subst hst
    exact ⟨h.completed, h.written, fun _ => hactive, fun _ => hall, fun _ _ => hall⟩
  | ends hclosing hfrom _ hstore hst =>
    subst hst
    exact tracked_ends h hclosing hfrom hstore rfl rfl rfl rfl

lemma tracked_launch (store : Db) (se : Session) (now : ℕ) : Tracked (launch store se now) := by
  refine ⟨Nat.zero_le _, ?_, fun _ => ?_, fun hr => ?_, fun hs _ => ?_⟩
  · simp only [launch]
    split <;> omega
  · simp only [launch, Session.launched, wrote]
    split <;> simp_all
  · simp [launch, Session.launched, reports] at hr
  · have hstatus := @statusOf_setStatus se.launched store .running .awaitingInput hs
    cases hstatus

lemma Tracked.tracks (h : Tracked st) : Tracks st where
  active hclosing hwrote := by
    rw [← h.active hclosing, hwrote]
    simp
  draining hwrote := by
    refine (h.active ?_).mp (Or.inr hwrote)
    cases hp : st.sup.phase <;> simp [hp, wrote, Phase.closing] at hwrote ⊢
  awaiting := h.awaiting

theorem turns_tracked_one_at_a_time {store : Db} {se : Session} {now : ℕ} {ls : List Label}
    (hrun : Run (Guarded (Orderly fromStr) (Fires (step fromStr O))) (launch store se now) ls st) :
    Tracks st :=
  (hrun.invariant (I := Tracked) (fun _ _ _ hi hs => tracked_step hi hs.1 (step_moves hs.2))
    (tracked_launch store se now)).tracks

def devStore : Db := { Orchestration.Requests.initial with
  agents := (AgentTable.empty.agentRegister ⟨"team", "dev", [2], .child, .starting⟩).1 }

def devSession : Session := ⟨⟨"prime", "team", "dev", .new, "", false, [2], 0, .spawnTask, 0⟩, false,
  none, none⟩

def turnInput (payload : Bytes) : Outgoing := ⟨"team", "dev", "prime", "dev", .turnInput, payload⟩

/-- A drain of the turns that are pending, the first of which is written. -/
def feedOne : List Label := [.act (.written true) 1, .act .done 1, .act .done 1]

/-- The harness completes a turn, which is reported. -/
def completeOne : List Label :=
  [.act (.read (.chunk [104, 105, 10])) 2, .act (.read (.chunk [])) 2, .act .done 2, .act .done 2]

def oneTurn : List Label :=
  [.send (turnInput [97]) 1, .act .done 1] ++ feedOne ++ [.act .done 1] ++ completeOne

theorem turns_tracked_one_at_a_time_turn : ∃ st,
    Run (Fires (step echoResult .stable)) (launch devStore devSession 0) oneTurn st ∧
    st.sup.phase = .select ∧ st.written = 1 ∧ statusOf st.store st.sup = some .awaitingInput ∧
    st.completed = st.written := by
  have heval : (execute (restrict (Orderly echoResult) (step echoResult .stable))
      (launch devStore devSession 0) oneTurn).map (fun st => (st.sup.phase, st.written,
        statusOf st.store st.sup)) = some (.select, 1, some .awaitingInput) := by
    decide +kernel
  obtain ⟨st, hst, hfacts⟩ := Option.map_eq_some_iff.mp heval
  obtain ⟨hphase, hfacts⟩ := Prod.mk.inj hfacts
  obtain ⟨hwritten, hstatus⟩ := Prod.mk.inj hfacts
  have hrun := execute_restrict_run hst
  refine ⟨st, hrun.forget, hphase, hwritten, hstatus, ?_⟩
  exact (turns_tracked_one_at_a_time hrun).awaiting hstatus (by rw [hphase]; rfl)

def twoTurns : List Label :=
  [.send (turnInput [97]) 1, .send (turnInput [98]) 1, .act .done 1] ++ feedOne ++ feedOne ++
    [.act .done 1] ++ completeOne

theorem awaiting_input_with_turn_outstanding : ∃ st,
    Run (Guarded (Answering echoResult) (Fires (step echoResult .stable)))
      (launch devStore devSession 0) twoTurns st ∧
    st.sup.phase = .select ∧ st.sup.turnActive = false ∧ st.completed = 1 ∧ st.written = 2 ∧
    statusOf st.store st.sup = some .awaitingInput ∧ ¬ Tracks st := by
  have heval : (execute (restrict (Answering echoResult) (step echoResult .stable))
      (launch devStore devSession 0) twoTurns).map (fun st => (st.sup.phase, st.sup.turnActive,
        st.completed, st.written, statusOf st.store st.sup)) =
      some (.select, false, 1, 2, some .awaitingInput) := by
    decide +kernel
  obtain ⟨st, hst, hfacts⟩ := Option.map_eq_some_iff.mp heval
  obtain ⟨hphase, hfacts⟩ := Prod.mk.inj hfacts
  obtain ⟨hactive, hfacts⟩ := Prod.mk.inj hfacts
  obtain ⟨hcompleted, hfacts⟩ := Prod.mk.inj hfacts
  obtain ⟨hwritten, hstatus⟩ := Prod.mk.inj hfacts
  refine ⟨st, execute_restrict_run hst, hphase, hactive, hcompleted, hwritten, hstatus, fun h => ?_⟩
  have heq := h.awaiting hstatus (by rw [hphase]; rfl)
  rw [hcompleted, hwritten] at heq
  cases heq

end WalkieTalkie.Sessions.Clock
