import WalkieTalkie.Gateway.Dashboard

/-! The panels of the dashboard against the log of the bus. A panel holds messages of its session, none
twice; for what was logged since it was built it has others to account, and for what was logged before
it waits for the answer to a query. -/

namespace WalkieTalkie.Gateway.Dashboard

open Proto Store Lib Lib.Runs

def Of (group session : String) (r : AgentMsgRow) : Prop :=
  r.groupName = group ∧ r.sessionName = session

/-- The socket of the page has the row, or will have it. -/
def Coming (st : State) (r : AgentMsgRow) : Prop :=
  ∃ s, st.current = some s ∧ s.attached = true ∧ s.group = r.groupName ∧ r ∈ s.pending

def Accounts (st : State) (r : AgentMsgRow) : Prop :=
  r ∈ st.inFlight ∨ Coming st r ∨ r ∈ st.missed

def Logged (log : List AgentMsgRow) (group session : String) (m : Shown) : Prop :=
  ∃ r ∈ log, Of group session r ∧ shown r = m

structure PanelOk (log : List AgentMsgRow) (accounts : AgentMsgRow → Prop) (group session : String)
    (p : Panel) : Prop where
  since : p.since ≤ log.length
  seen : p.seen = p.transcript.map Shown.seq
  nodup : p.seen.Nodup
  logged : ∀ m ∈ p.transcript, Logged log group session m
  recent : ∀ r ∈ log.drop p.since, Of group session r → shown r ∈ p.transcript ∨ accounts r
  old : p.loaded = true → ∀ r ∈ log.take p.since, Of group session r →
    shown r ∈ p.transcript ∨ Trimmed log r

structure SocketOk (log : List AgentMsgRow) (s : Socket) : Prop where
  pending : ∀ r ∈ s.pending, r ∈ log
  wire : ∀ r ∈ s.wire, r.groupName = s.group

/-- An answer has what the bus had of the session when the log was that long. -/
structure AnswerOk (log : List AgentMsgRow) (group session : String) (n : ℕ) (msgs : List Shown) :
    Prop where
  length : n ≤ log.length
  logged : ∀ m ∈ msgs, Logged log group session m
  complete : ∀ r ∈ log.take n, Of group session r → shown r ∈ msgs ∨ Trimmed log r

def RenderOk (log : List AgentMsgRow) (r : Render) : Prop :=
  ∀ loads, r.phase = .loading loads → ∀ l ∈ loads, ∀ n msgs, l.reply = .answered (n, msgs) →
    AnswerOk log r.group l.session n msgs

def PanelsOk (st : State) : Prop :=
  ∀ session p, st.panels session = some p → ∃ group, st.currentGroup = some group ∧
    PanelOk st.log (Accounts st) group session p

structure Sound (st : State) : Prop where
  ledger : Ledger st.bus st.log
  fits : ∀ r ∈ st.log, 0 < r.seq ∧ r.seq < 2 ^ 63
  inFlight : ∀ r ∈ st.inFlight, r ∈ st.log
  missed : ∀ r ∈ st.missed, r ∈ st.log
  sockets : ∀ s ∈ st.sockets, SocketOk st.log s
  renders : ∀ r ∈ st.renders, RenderOk st.log r
  panels : PanelsOk st

variable {st st' : State} {log : List AgentMsgRow} {accounts accounts' : AgentMsgRow → Prop}
  {group session : String} {p : Panel} {r row : AgentMsgRow}

lemma Logged.grow {m : Shown} (h : Logged log group session m) (row : AgentMsgRow) :
    Logged (log ++ [row]) group session m := by
  obtain ⟨r, hr, hof, hm⟩ := h
  exact ⟨r, List.mem_append_left _ hr, hof, hm⟩

lemma AnswerOk.grow {n : ℕ} {msgs : List Shown} (h : AnswerOk log group session n msgs)
    (row : AgentMsgRow) : AnswerOk (log ++ [row]) group session n msgs := by
  refine ⟨?_, fun m hm => (h.logged m hm).grow row, fun r hr hof => ?_⟩
  · rw [List.length_append]
    exact Nat.le_add_right_of_le h.length
  · rw [List.take_append_of_le_length h.length] at hr
    exact (h.complete r hr hof).imp_right fun htrim => trimmed_grow htrim row

lemma RenderOk.grow {rd : Render} (h : RenderOk log rd) (row : AgentMsgRow) :
    RenderOk (log ++ [row]) rd :=
  fun loads hl l hmem n msgs hreply => (h loads hl l hmem n msgs hreply).grow row

lemma PanelOk.grow (h : PanelOk log accounts group session p) (row : AgentMsgRow)
    (hall : ∀ r, accounts r → accounts' r) (hrow : accounts' row) :
    PanelOk (log ++ [row]) accounts' group session p := by
  refine ⟨?_, h.seen, h.nodup, fun m hm => (h.logged m hm).grow row, fun r hr hof => ?_,
    fun hl r hr hof => ?_⟩
  · rw [List.length_append]
    exact Nat.le_add_right_of_le h.since
  · rw [List.drop_append_of_le_length h.since] at hr
    rcases List.mem_append.mp hr with hold | hnew
    · exact (h.recent r hold hof).imp_right (hall r)
    · rw [List.mem_singleton.mp hnew]
      exact Or.inr hrow
  · rw [List.take_append_of_le_length h.since] at hr
    exact (h.old hl r hr hof).imp_right fun htrim => trimmed_grow htrim row

lemma PanelOk.mono (h : PanelOk log accounts group session p)
    (hall : ∀ r, Of group session r → accounts r → shown r ∈ p.transcript ∨ accounts' r) :
    PanelOk log accounts' group session p :=
  ⟨h.since, h.seen, h.nodup, h.logged,
    fun r hr hof => (h.recent r hr hof).elim Or.inl (hall r hof), h.old⟩

lemma panelOk_new (log : List AgentMsgRow) (accounts : AgentMsgRow → Prop) (group session : String) :
    PanelOk log accounts group session ⟨[], [], log.length, false⟩ where
  since := Nat.le_refl _
  seen := rfl
  nodup := List.nodup_nil
  logged _ hm := by cases hm
  recent r hr _ := by
    rw [List.drop_length] at hr
    cases hr
  old h := by cases h

/-- Of one session the log has one row of a number. -/
lemma Sound.eq_of_seq (h : Sound st) {m m' : Shown} (hm : Logged st.log group session m)
    (hm' : Logged st.log group session m') (hseq : m.seq = m'.seq) : m = m' := by
  obtain ⟨r, hr, ⟨hg, hs⟩, rfl⟩ := hm
  obtain ⟨r', hr', ⟨hg', hs'⟩, rfl⟩ := hm'
  have hseq' : r.seq = r'.seq := by
    rw [← shown_seq (h.fits r hr).2, ← shown_seq (h.fits r' hr').2, hseq]
  have hkey : r.key = r'.key := by
    rw [AgentMsgRow.key, AgentMsgRow.key, hg, hg', hs, hs', hseq']
  rw [h.ledger.eq_of_key hr hr' hkey]

lemma appendMessage_keeps (p : Panel) (m : Shown) {m' : Shown} (h : m' ∈ p.transcript) :
    m' ∈ (p.appendMessage m).transcript := by
  rw [Panel.appendMessage]
  split
  · exact h
  · exact List.mem_append_left _ h

lemma appendMessage_since (p : Panel) (m : Shown) :
    (p.appendMessage m).since = p.since ∧ (p.appendMessage m).loaded = p.loaded := by
  rw [Panel.appendMessage]
  split
  · exact ⟨rfl, rfl⟩
  · exact ⟨rfl, rfl⟩

lemma PanelOk.appendMessage (hs : Sound st) (h : PanelOk st.log accounts group session p) {m : Shown}
    (hm : Logged st.log group session m) :
    PanelOk st.log accounts group session (p.appendMessage m) ∧
      m ∈ (p.appendMessage m).transcript := by
  have hkeeps := @appendMessage_keeps p m
  obtain ⟨hsince, hloaded⟩ := appendMessage_since p m
  have hrest : (p.appendMessage m).since ≤ st.log.length ∧
      (∀ r ∈ st.log.drop (p.appendMessage m).since, Of group session r →
        shown r ∈ (p.appendMessage m).transcript ∨ accounts r) ∧
      ((p.appendMessage m).loaded = true → ∀ r ∈ st.log.take (p.appendMessage m).since,
        Of group session r → shown r ∈ (p.appendMessage m).transcript ∨ Trimmed st.log r) := by
    rw [hsince, hloaded]
    exact ⟨h.since, fun r hr hof => (h.recent r hr hof).imp_left hkeeps,
      fun hl r hr hof => (h.old hl r hr hof).imp_left hkeeps⟩
  obtain ⟨hsince, hrecent, hold⟩ := hrest
  by_cases hseen : m.seq ∈ p.seen
  · have hsame : p.appendMessage m = p := if_pos hseen
    rw [hsame]
    refine ⟨h, ?_⟩
    rw [h.seen] at hseen
    obtain ⟨m', hm', hseq⟩ := List.mem_map.mp hseen
    rwa [hs.eq_of_seq hm (h.logged m' hm') hseq.symm]
  · have hadded : p.appendMessage m =
        { p with seen := p.seen ++ [m.seq], transcript := p.transcript ++ [m] } := if_neg hseen
    refine ⟨⟨hsince, ?_, ?_, ?_, hrecent, hold⟩, ?_⟩
    · rw [hadded, List.map_append, ← h.seen]
      rfl
    · rw [hadded]
      refine List.nodup_append.mpr ⟨h.nodup, List.nodup_singleton _, fun x hx y hy => ?_⟩
      rw [List.mem_singleton.mp hy]
      rintro rfl
      exact hseen hx
    · rw [hadded]
      exact forall_mem_snoc h.logged hm
    · rw [hadded]
      exact List.mem_append_right _ (List.mem_singleton_self _)

lemma PanelOk.appendAll (hs : Sound st) (h : PanelOk st.log accounts group session p)
    {msgs : List Shown} (hm : ∀ m ∈ msgs, Logged st.log group session m) :
    PanelOk st.log accounts group session (msgs.foldl Panel.appendMessage p) ∧
      (∀ m ∈ msgs, m ∈ (msgs.foldl Panel.appendMessage p).transcript) ∧
      ∀ m ∈ p.transcript, m ∈ (msgs.foldl Panel.appendMessage p).transcript := by
  induction msgs generalizing p with
  | nil => exact ⟨h, fun _ hm => (by cases hm), fun _ hm => hm⟩
  | cons m msgs ih =>
    obtain ⟨hstep, hadded⟩ := h.appendMessage hs (hm m (List.mem_cons_self ..))
    obtain ⟨hok, hall, hkept⟩ := ih hstep fun m' hm' => hm m' (List.mem_cons_of_mem _ hm')
    refine ⟨hok, fun m' hm' => ?_, fun m' hm' => hkept m' (appendMessage_keeps p m hm')⟩
    rcases List.mem_cons.mp hm' with rfl | hm'
    · exact hkept m' hadded
    · exact hall m' hm'

lemma foldl_since (msgs : List Shown) (p : Panel) :
    (msgs.foldl Panel.appendMessage p).since = p.since ∧
      (msgs.foldl Panel.appendMessage p).loaded = p.loaded := by
  induction msgs generalizing p with
  | nil => exact ⟨rfl, rfl⟩
  | cons m msgs ih =>
    obtain ⟨hsince, hloaded⟩ := appendMessage_since p m
    obtain ⟨hsince', hloaded'⟩ := ih (p.appendMessage m)
    exact ⟨hsince'.trans hsince, hloaded'.trans hloaded⟩

lemma PanelOk.load (hs : Sound st) (h : PanelOk st.log accounts group session p) {n : ℕ}
    {msgs : List Shown} (hm : AnswerOk st.log group session n msgs) :
    PanelOk st.log accounts group session (p.load n msgs) := by
  obtain ⟨hok, hall, hkept⟩ := h.appendAll hs hm.logged
  obtain ⟨hsince, hloaded⟩ := foldl_since msgs p
  refine ⟨hok.since, hok.seen, hok.nodup, hok.logged, hok.recent, fun hl r hr hof => ?_⟩
  have hcases : p.loaded = true ∨ p.since ≤ n := by
    have hor : ((msgs.foldl Panel.appendMessage p).loaded ||
        decide ((msgs.foldl Panel.appendMessage p).since ≤ n)) = true := hl
    rw [hsince, hloaded, Bool.or_eq_true, decide_eq_true_eq] at hor
    exact hor
  rcases hcases with hold | hle
  · exact hok.old (hloaded.trans hold) r hr hof
  · have hr' : r ∈ st.log.take p.since := by
      rw [← hsince]
      exact hr
    refine (hm.complete r ?_ hof).imp_left (hall _)
    exact (List.take_subset_take_left _ hle) hr'

end WalkieTalkie.Gateway.Dashboard
