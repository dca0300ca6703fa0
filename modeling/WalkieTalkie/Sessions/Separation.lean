import WalkieTalkie.Sessions.Reports

/-! Sessions do not contaminate each other. In every run, the outputs and the traces of a session are,
in the order of their numbers, what its own supervisor has read from its own harness, up to the event
that it has in hand; and `awaiting_input` is set only when the output of the turn is stored. -/

namespace WalkieTalkie.Sessions

open Proto Store Lib Lib.Runs
open Orchestration.Clients (Sorting)
open Orchestration.Requests (Spawn textBytes)

variable {fromStr : String → Option Json} {O : Sorting} {store store' : Db} {sup sup' : Supervisor}
  {st st' : State} {now : UInt64}

/-- No one but the supervisors sends outputs or traces. -/
def Permitted : Label → Prop
  | .send out _ => isReport out.kind = false
  | _ => True

/-- The step is permitted and trims no message. -/
def Quiet (fromStr : String → Option Json) (O : Sorting) (st : State) (l : Label) : Prop :=
  Permitted l ∧ ∀ st' ∈ step fromStr O st l, ∀ r ∈ st.store.bus.rows, st'.store.bus.has r.key = true

lemma invariant_step {l : Label} (h : Invariant fromStr st) (hquiet : Quiet fromStr O st l)
    (hstep : step fromStr O st l = some st') : Invariant fromStr st' := by
  obtain ⟨hpermitted, hkept⟩ := hquiet
  replace hkept := hkept st' hstep
  cases step_moves hstep with
  | groupNew => exact h.silent (silent_register ..)
  | send henq =>
    obtain ⟨row, hrow⟩ := enqueued henq hkept
    exact h.silent (hrow.silent hpermitted)
  | markConsumed => exact h.silent (silent_mark ..)
  | spawn =>
    refine ⟨forall_mem_snoc h.sessions ?_, fun key => (h.distinct key).snoc ?_, fun r hr hkind => ?_,
      h.ordered⟩
    · refine ⟨fun _ hsup => (by cases hsup), fun hc => (by cases hc), fun hc => ?_,
        fun hs => (by cases hs), fun _ hsup => (by cases hsup)⟩
      rcases hc with hc | hc
      · cases hc
      · cases hc
    · rintro ⟨hclaims, -⟩
      cases hclaims
    · obtain ⟨se, hse, hsup, hkey⟩ := h.reported r hr hkind
      exact ⟨se, List.mem_append_left _ hse, hsup, hkey⟩
  | spawnStep hse hspawned => exact h.spawnStep hse hspawned hkept
  | supervisor hse hsup hacts => exact h.acts hse hsup hacts hkept

lemma invariant_initial : Invariant fromStr initial where
  sessions _ hse := by cases hse
  distinct _ _ _ _ _ hi := by cases hi
  reported _ hr := by cases hr
  ordered := List.Pairwise.nil

lemma mem_agentSetStatus {agents : AgentTable} {group name : String} {status : AgentStatus}
    {a : AgentRow} (h : a ∈ (agents.agentSetStatus group name status).rows) :
    a ∈ agents.rows ∨ (a.status = status ∧ a.key = (group, name)) := by
  obtain ⟨o, ho, rfl⟩ := List.mem_map.mp h
  split
  · next hk => exact Or.inr ⟨rfl, of_decide_eq_true hk⟩
  · exact Or.inl ho

lemma mem_agentRegister {agents : AgentTable} {row a : AgentRow}
    (h : a ∈ (agents.agentRegister row).1.rows) : a ∈ agents.rows ∨ a = row := by
  cases hok : (agents.agentRegister row).2 with
  | true =>
    rw [(AgentTable.agentRegister_ok hok).1] at h
    exact (List.mem_append.mp h).imp_right List.mem_singleton.mp
  | false =>
    rw [AgentTable.agentRegister_ignored hok] at h
    exact Or.inl h

lemma Spawned.awaiting {sp sp' : Spawn} (h : Spawned store sp now store' sp') {a : AgentRow}
    (ha : a ∈ store'.agents.rows) (hstatus : a.status = .awaitingInput) : a ∈ store.agents.rows := by
  cases h with
  | move | create | consume => exact ha
  | register =>
    refine (mem_agentRegister ha).resolve_right ?_
    rintro rfl
    cases hstatus
  | status _ _ hne =>
    refine (mem_agentSetStatus ha).resolve_right ?_
    rintro ⟨hs, -⟩
    exact hne (hs.symm.trans hstatus)
  | record _ henq =>
    obtain ⟨bus, row, -, rfl⟩ := Orchestration.Routing.busEnqueue_ok henq
    exact ha

lemma Acts.awaiting (h : Acts fromStr store sup now store' sup') {a : AgentRow}
    (ha : a ∈ store'.agents.rows) (hstatus : a.status = .awaitingInput) :
    a ∈ store.agents.rows ∨ (sup.phase = .setAwaiting ∧ a.key = (sup.group, sup.session)) := by
  cases h with
  | move | mark | read => exact Or.inl ha
  | status _ hne =>
    refine Or.inl ((mem_agentSetStatus ha).resolve_right ?_)
    rintro ⟨hs, -⟩
    exact hne (hs.symm.trans hstatus)
  | await hphase => exact (mem_agentSetStatus ha).imp_right fun hset => ⟨hphase, hset.2⟩
  | notice _ henq | trace _ henq | output _ henq =>
    obtain ⟨bus, row, -, rfl⟩ := Orchestration.Routing.busEnqueue_ok henq
    exact Or.inl ha

/-- A row that comes to show `awaiting_input` does so by the last step of a completed turn. -/
lemma awaiting_step {l : Label} (hstep : step fromStr O st l = some st') {a : AgentRow}
    (ha : a ∈ st'.store.agents.rows) (hstatus : a.status = .awaitingInput) :
    a ∈ st.store.agents.rows ∨
      ∃ k input now se sup, l = .supervisor k input now ∧ st.sessions[k]? = some se ∧
        se.supervisor = some sup ∧ sup.phase = .setAwaiting ∧ a.key = (sup.group, sup.session) := by
  cases step_moves hstep with
  | groupNew =>
    refine Or.inl ((mem_agentRegister ha).resolve_right ?_)
    rintro rfl
    cases hstatus
  | send henq =>
    obtain ⟨bus, row, -, rfl⟩ := Orchestration.Routing.busEnqueue_ok henq
    exact Or.inl ha
  | markConsumed | spawn => exact Or.inl ha
  | spawnStep hse hspawned => exact Or.inl (hspawned.awaiting ha hstatus)
  | @supervisor k input now se sup store sup' hse hsup hacts =>
    refine (hacts.awaiting ha hstatus).imp_right fun hset => ?_
    exact ⟨k, input, now, se, sup, rfl, hse, hsup, hset.1, hset.2⟩

def sessionRows (bus : BusTable) (group session : String) (kind : AgentMsgKind) : List AgentMsgRow :=
  bus.rows.filter fun r => r.inSession group session && r.kind = kind

def results (events : List HarnessEvent) : List String :=
  events.filterMap fun
    | .turnComplete result _ => some result
    | _ => none

def texts (events : List HarnessEvent) : List String :=
  events.filterMap fun
    | .assistantText text => some text
    | _ => none

def addressed (r : AgentMsgRow) : String × String × Bytes := (r.fromAgent, r.toAgent, r.payload)

def Supervisor.addressed (sup : Supervisor) (text : String) : String × String × Bytes :=
  (sup.session, sup.prime, textBytes text)

def ofKind {β : Type} (kind : AgentMsgKind) (x : AgentMsgKind × β) : Option β :=
  if x.1 = kind then some x.2 else none

/-- The rows of one kind are in order, and they are what was to be reported, but for what is in hand. -/
structure Carries (bus : BusTable) (sup : Supervisor) (kind : AgentMsgKind) (reported : List String) :
    Prop where
  ordered : (sessionRows bus sup.group sup.session kind).Pairwise fun r r' => r.seq < r'.seq
  exact : (sessionRows bus sup.group sup.session kind).map addressed ++
    (sup.phase.due.filterMap (ofKind kind)).map sup.addressed = reported.map sup.addressed

lemma ofKind_view (kind : AgentMsgKind) (sup : Supervisor) (xs : List (AgentMsgKind × String)) :
    (xs.map sup.view).filterMap (ofKind kind) = (xs.filterMap (ofKind kind)).map sup.addressed := by
  rw [List.filterMap_map, List.map_filterMap]
  congr 1
  funext x
  by_cases hk : x.1 = kind
  · have hx : ofKind kind x = some x.2 := if_pos hk
    rw [hx]
    exact if_pos hk
  · have hx : ofKind kind x = none := if_neg hk
    rw [hx]
    exact if_neg hk

lemma ofKind_rows (kind : AgentMsgKind) (rows : List AgentMsgRow) :
    (rows.map view).filterMap (ofKind kind) = (rows.filter fun r => r.kind = kind).map addressed := by
  induction rows with
  | nil => rfl
  | cons r rows ih =>
    rw [List.map_cons]
    by_cases hk : r.kind = kind
    · have hone : ofKind kind (view r) = some (addressed r) := if_pos hk
      rw [List.filterMap_cons_some hone, List.filter_cons_of_pos (by simpa using hk), List.map_cons, ih]
    · have hone : ofKind kind (view r) = none := if_neg hk
      rw [List.filterMap_cons_none hone, List.filter_cons_of_neg (by simpa using hk), ih]

lemma filter_reports {kind : AgentMsgKind} (hkind : isReport kind = true) (bus : BusTable)
    (group session : String) : ((reports bus group session).filter fun r => r.kind = kind) =
      sessionRows bus group session kind := by
  rw [reports, List.filter_filter]
  refine List.filter_congr fun r _ => ?_
  by_cases hk : r.kind = kind
  · rw [hk, hkind, decide_eq_true rfl, Bool.true_and, Bool.and_comm]
  · rw [decide_eq_false hk, Bool.false_and, Bool.and_false]

lemma owes_results (sup : Supervisor) (events : List HarnessEvent) :
    (events.filterMap sup.owes).filterMap (ofKind .turnOutput) = results events := by
  rw [List.filterMap_filterMap, results]
  congr 1
  funext ev
  cases ev with
  | assistantText text =>
    simp only [Supervisor.owes]
    split <;> rfl
  | turnComplete result isError => rfl
  | exited code => rfl

lemma owes_texts (sup : Supervisor) (events : List HarnessEvent) :
    (events.filterMap sup.owes).filterMap (ofKind .trace) =
      if sup.trace then texts events else [] := by
  cases htrace : sup.trace with
  | true =>
    rw [List.filterMap_filterMap, if_pos rfl, texts]
    congr 1
    funext ev
    cases ev with
    | assistantText text => simp [Supervisor.owes, htrace, ofKind]
    | turnComplete result isError => rfl
    | exited code => rfl
  | false =>
    rw [List.filterMap_filterMap, if_neg Bool.false_ne_true]
    refine List.filterMap_eq_nil_iff.mpr fun ev _ => ?_
    cases ev with
    | assistantText text => simp [Supervisor.owes, htrace]
    | turnComplete result isError => rfl
    | exited code => rfl

lemma mem_sessionRows {bus : BusTable} {group session : String} {kind : AgentMsgKind}
    {r : AgentMsgRow} (h : r ∈ sessionRows bus group session kind) :
    r.groupName = group ∧ r.sessionName = session :=
  AgentMsgRow.inSession_iff.mp (Bool.and_eq_true_iff.mp (List.mem_filter.mp h).2).1

lemma SupervisorOk.carries {bus : BusTable} (h : SupervisorOk fromStr bus sup)
    (hordered : bus.rows.Pairwise fun r r' => sameSession r r' → r.seq < r'.seq)
    (kind : AgentMsgKind) (hkind : isReport kind = true) :
    Carries bus sup kind ((sup.events.filterMap sup.owes).filterMap (ofKind kind)) where
  ordered := by
    refine (hordered.filter _).imp_of_mem fun {r r'} hr hr' hlt => hlt ?_
    obtain ⟨hgroup, hsession⟩ := mem_sessionRows hr
    obtain ⟨hgroup', hsession'⟩ := mem_sessionRows hr'
    exact ⟨hgroup.trans hgroup'.symm, hsession.trans hsession'.symm⟩
  exact := by
    have hdue := congrArg (List.filterMap (ofKind kind)) h.due
    rw [List.filterMap_append, ofKind_rows, ofKind_view, ofKind_view, filter_reports hkind] at hdue
    exact hdue

/-- The output of the turn for which `awaiting_input` is set is stored. -/
def OutputStored (bus : BusTable) (sup : Supervisor) : Prop :=
  (∃ result isError, sup.events.getLast? = some (.turnComplete result isError)) ∧
    (sessionRows bus sup.group sup.session .turnOutput).map addressed =
      (results sup.events).map sup.addressed

lemma SupervisorOk.outputStored {bus : BusTable} (h : SupervisorOk fromStr bus sup)
    (hordered : bus.rows.Pairwise fun r r' => sameSession r r' → r.seq < r'.seq)
    (hphase : sup.phase = .setAwaiting) : OutputStored bus sup := by
  have hcarries := (h.carries hordered .turnOutput rfl).exact
  have hdue : sup.phase.due = [] := by
    rw [hphase]
    rfl
  rw [hdue, owes_results, List.filterMap_nil, List.map_nil, List.append_nil] at hcarries
  exact ⟨h.awaiting hphase, hcarries⟩

theorem sessions_never_cross {ls : List Label}
    (hrun : Run (Guarded (Quiet fromStr O) (Fires (step fromStr O))) initial ls st) :
    (∀ se ∈ st.sessions, ∀ sup ∈ se.supervisor,
      (∃ s, st.store.sessions.sessionGet sup.group sup.session = some s ∧ s.primeAgent = sup.prime) ∧
      sup.session = se.spawn.session ∧ sup.trace = se.trace ∧
      eventsOf fromStr sup.stdout = sup.events ++ eventsOf fromStr sup.buf ∧
      (sup.eof = true → sup.events = eventsOf fromStr sup.stdout) ∧
      Carries st.store.bus sup .turnOutput (results sup.events) ∧
      Carries st.store.bus sup .trace (if se.trace then texts sup.events else []) ∧
      (sup.phase = .setAwaiting → OutputStored st.store.bus sup)) ∧
    (∀ r ∈ st.store.bus.rows, isReport r.kind = true →
      ∃ se ∈ st.sessions, ∃ sup ∈ se.supervisor, r.inSession sup.group sup.session = true) ∧
    ∀ l st', Quiet fromStr O st l → step fromStr O st l = some st' →
      ∀ a ∈ st'.store.agents.rows, a.status = .awaitingInput → a ∈ st.store.agents.rows ∨
        ∃ k input now se sup, l = .supervisor k input now ∧ st.sessions[k]? = some se ∧
          se.supervisor = some sup ∧ sup.phase = .setAwaiting ∧ a.key = (sup.group, sup.session) := by
  have h : Invariant fromStr st := hrun.invariant
    (fun _ _ _ hi hs => invariant_step hi hs.1 hs.2) invariant_initial
  refine ⟨fun se hse sup hsup => ?_, fun r hr hkind => ?_, fun l st' hquiet hstep a ha hstatus => ?_⟩
  · have hok := h.sessions se hse
    have hsupOk := hok.supervisor sup hsup
    obtain ⟨hgroup, hsession, hprime, htrace⟩ := hok.named sup hsup
    have hsome : se.supervisor = some sup := hsup
    have hrow := hok.created (Or.inl (by rw [hsome]; rfl))
    have htexts := hsupOk.carries h.ordered .trace rfl
    have houts := hsupOk.carries h.ordered .turnOutput rfl
    rw [owes_texts, htrace] at htexts
    rw [owes_results] at houts
    refine ⟨⟨se.spawn.sessionRow, ?_, hprime.symm⟩, hsession, htrace, hsupOk.stdout, fun he => ?_,
      houts, htexts, hsupOk.outputStored h.ordered⟩
    · refine Table.find_eq_some.mpr ⟨hrow, ?_⟩
      rw [hgroup, hsession]
      rfl
    · rw [hsupOk.stdout, (hsupOk.eof he).1, List.append_nil]
  · obtain ⟨se, hse, hsome, hkey⟩ := h.reported r hr hkind
    obtain ⟨sup, hsup⟩ := Option.isSome_iff_exists.mp hsome
    obtain ⟨hgroup, hsession, -⟩ := (h.sessions se hse).named sup hsup
    obtain ⟨hg, hs⟩ := Prod.mk.inj hkey
    exact ⟨se, hse, sup, hsup,
      AgentMsgRow.inSession_iff.mpr ⟨hg.symm.trans hgroup.symm, hs.symm.trans hsession.symm⟩⟩
  · exact awaiting_step hstep ha hstatus

instance (l : Label) : Decidable (Permitted l) :=
  match l with
  | .send out _ => inferInstanceAs (Decidable (isReport out.kind = false))
  | .groupNew .. | .markConsumed .. | .spawn .. | .spawnStep .. | .supervisor .. => isTrue trivial

instance (st : State) (l : Label) : Decidable (Quiet fromStr O st l) :=
  inferInstanceAs (Decidable (Permitted l ∧ ∀ st' ∈ step fromStr O st l, ∀ r ∈ st.store.bus.rows,
    st'.store.bus.has r.key = true))

def resultLine (text : String) : String := "\x7b\"type\":\"result\",\"result\":\"" ++ text ++ "\"\x7d"

def thoughtLine : String :=
  "\x7b\"type\":\"assistant\",\"message\":\x7b\"content\":[\x7b\"type\":\"text\",\"text\":\"hm\"\x7d]\x7d\x7d"

/-- The values of the lines that the harnesses write. -/
def twoHarnesses (line : String) : Option Json :=
  if line = resultLine "hi" then
    some (.object [("type", .string "result"), ("result", .string "hi")])
  else if line = resultLine "yo" then
    some (.object [("type", .string "result"), ("result", .string "yo")])
  else if line = thoughtLine then
    some (.object [("type", .string "assistant"), ("message", .object [("content",
      .array [.object [("type", .string "text"), ("text", .string "hm")]])])])
  else none

def launch (k : ℕ) : List Label :=
  [true, true, false, true, true, true, true, true, true, true].map (.spawnStep k · 1)

def twoSessions : List Label :=
  [.groupNew "team" [1], .spawn "prime" "team" "dev" .new "" false [2] 1 true none,
    .spawn "prime" "team" "ops" .new "" false [3] 1 false none] ++ launch 0 ++ launch 1 ++
  [.supervisor 0 .done 2, .supervisor 1 .done 2, .supervisor 0 .done 2, .supervisor 1 .done 2,
    .supervisor 0 (.read (.chunk (textBytes (thoughtLine ++ "\n" ++ resultLine "hi" ++ "\n")))) 2,
    .supervisor 1 (.read (.chunk (textBytes (resultLine "yo" ++ "\n")))) 2,
    .supervisor 0 (.read .failed) 2, .supervisor 1 (.read .failed) 2, .supervisor 1 .done 3,
    .supervisor 0 .done 3, .supervisor 0 (.read .failed) 3, .supervisor 0 .done 4]

theorem sessions_never_cross_two : ∃ st se sup,
    Run (Fires (step twoHarnesses .stable)) initial twoSessions st ∧ st.sessions[0]? = some se ∧
    se.supervisor = some sup ∧ sup.events = [.assistantText "hm", .turnComplete "hi" false] ∧
    (sessionRows st.store.bus "team" "dev" .turnOutput).map addressed =
      [("dev", "prime", textBytes "hi")] ∧
    (sessionRows st.store.bus "team" "dev" .trace).map addressed =
      [("dev", "prime", textBytes "hm")] := by
  have heval : ((execute (restrict (Quiet twoHarnesses .stable) (step twoHarnesses .stable)) initial
      twoSessions).bind fun st => st.sessions[0]?.bind fun se => se.supervisor.map fun sup =>
        ((sup.group, sup.session, sup.prime), se.trace, sup.phase, sup.events)) =
          some (("team", "dev", "prime"), true, .setAwaiting,
            [.assistantText "hm", .turnComplete "hi" false]) := by
    decide +kernel
  obtain ⟨st, hst, hbind⟩ := Option.bind_eq_some_iff.mp heval
  obtain ⟨se, hse, hmap⟩ := Option.bind_eq_some_iff.mp hbind
  obtain ⟨sup, hsup, hfacts⟩ := Option.map_eq_some_iff.mp hmap
  obtain ⟨hnames, hfacts⟩ := Prod.mk.inj hfacts
  obtain ⟨hgroup, hnames⟩ := Prod.mk.inj hnames
  obtain ⟨hsession, hprime⟩ := Prod.mk.inj hnames
  obtain ⟨htrace, hfacts⟩ := Prod.mk.inj hfacts
  obtain ⟨hphase, hevents⟩ := Prod.mk.inj hfacts
  have hrun := execute_restrict_run hst
  obtain ⟨-, -, -, -, -, houts, htexts, -⟩ :=
    (sessions_never_cross hrun).1 se (List.mem_of_getElem? hse) sup hsup
  have houts := houts.exact
  have htexts := htexts.exact
  have haddressed : sup.addressed = fun text => ("dev", "prime", textBytes text) := by
    funext text
    rw [Supervisor.addressed, hsession, hprime]
  have hdue : sup.phase.due = [] := by
    rw [hphase]
    rfl
  rw [haddressed, hgroup, hsession, hevents, hdue, List.filterMap_nil, List.map_nil,
    List.append_nil] at houts htexts
  rw [htrace] at htexts
  exact ⟨st, se, sup, hrun.forget, hse, hsup, hevents, houts, htexts⟩

end WalkieTalkie.Sessions
