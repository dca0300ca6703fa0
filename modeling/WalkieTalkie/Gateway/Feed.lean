import WalkieTalkie.Gateway.Transcript
import WalkieTalkie.Store.Database

/-! The feed of a group. Its cursor is a time stamp, not a sequence number: a client that polls it with
the last time stamp it received misses what is logged later under a stamp that is not above. The clock
is read inside each enqueue and may stand still or go back. -/

namespace WalkieTalkie.Gateway.Feed

open Proto Store Lib Lib.Runs

structure Item where
  session : String
  message : Shown
deriving DecidableEq

def item (m : AgentMsgRow) : Item := ⟨m.sessionName, shown m⟩

/-- `late` has the messages of the group that were logged under a stamp the client has passed. -/
structure State where
  bus : BusTable
  log : List AgentMsgRow
  after : UInt64
  received : List Item
  late : List AgentMsgRow

def initial : State := ⟨Table.empty, [], 0, [], []⟩

inductive Label
  | enqueue (group session fromAgent toAgent : String) (kind : AgentMsgKind) (payload : Bytes)
      (now : UInt64)
  | mark (group session : String) (seq : ℕ) (now : UInt64)
  | poll

def passed (after : UInt64) (m : AgentMsgRow) : Prop := m.enqueuedAtMs.toInt64 ≤ after.toInt64

instance (after : UInt64) (m : AgentMsgRow) : Decidable (passed after m) :=
  inferInstanceAs (Decidable (_ ≤ _))

/-- A poll gets the rows in the order of the query, which the rows determine. -/
inductive Step (group : String) (st : State) : Label → State → Prop
  | enqueue {g s fromAgent toAgent kind payload now bus row}
      (hfits : st.bus.lastSeq g s + 1 < 2 ^ 63)
      (h : st.bus.agentMsgEnqueue g s fromAgent toAgent kind payload now = .ok (bus, row)) :
      Step group st (.enqueue g s fromAgent toAgent kind payload now) { st with
        bus
        log := st.log ++ [row]
        late := if g = group ∧ passed st.after row then st.late ++ [row] else st.late }
  | mark {g s seq now} : Step group st (.mark g s seq now)
      { st with bus := st.bus.agentMsgMarkConsumed g s seq now }
  | poll {rows} (h : OrderedBy feedOrder (feedRows st.bus group st.after) rows) :
      Step group st .poll { st with
        received := st.received ++ rows.map item
        after := (rows.getLast?.map AgentMsgRow.enqueuedAtMs).getD st.after }

variable {group : String} {st st' : State} {r row : AgentMsgRow}

lemma mem_feedRows {t : BusTable} {after : UInt64} :
    r ∈ feedRows t group after ↔ r ∈ t.rows ∧ r.groupName = group ∧ ¬passed after r := by
  rw [feedRows, List.mem_filter, Bool.and_eq_true, decide_eq_true_eq, decide_eq_true_eq, passed,
    Int64.not_le]

lemma item_unconsumed (r : AgentMsgRow) : item r.unconsumed = item r := rfl

/-- The numbers of a group fit, so an item tells its row. -/
lemma key_of_item {log : List AgentMsgRow} (hfits : ∀ r ∈ log, r.seq < 2 ^ 63) {r r' : AgentMsgRow}
    (hr : r ∈ log) (hr' : r' ∈ log) (hg : r.groupName = r'.groupName) (h : item r = item r') :
    r.key = r'.key := by
  obtain ⟨hs, hshown⟩ := Item.mk.inj h
  have hseq : r.seq = r'.seq := by
    rw [← shown_seq (hfits r hr), ← shown_seq (hfits r' hr'), hshown]
  rw [AgentMsgRow.key, AgentMsgRow.key, hg, hs, hseq]

structure Follows (group : String) (st : State) : Prop where
  ledger : Ledger st.bus st.log
  fits : ∀ r ∈ st.log, r.seq < 2 ^ 63
  reached : ∀ m ∈ st.received, m.message.tsMs.toInt64 ≤ st.after.toInt64
  ordered : st.received.Pairwise fun m m' => m.message.tsMs.toInt64 ≤ m'.message.tsMs.toInt64
  nodup : st.received.Nodup
  logged : ∀ m ∈ st.received, ∃ r ∈ st.log, r.groupName = group ∧ item r = m
  late : ∀ r ∈ st.late, r ∈ st.log ∧ r.groupName = group ∧ passed st.after r ∧ item r ∉ st.received
  complete : ∀ r ∈ st.log, r.groupName = group → passed st.after r →
    item r ∈ st.received ∨ r ∈ st.late ∨ Trimmed st.log r

lemma follows_initial : Follows group initial where
  ledger := ledger_initial
  fits _ hr := by cases hr
  reached _ hm := by cases hm
  ordered := List.Pairwise.nil
  nodup := List.nodup_nil
  logged _ hm := by cases hm
  late _ hr := by cases hr
  complete _ hr := by cases hr

lemma Follows.mark (h : Follows group st) (g s : String) (seq : ℕ) (now : UInt64) :
    Follows group { st with bus := st.bus.agentMsgMarkConsumed g s seq now } :=
  ⟨h.ledger.mark g s seq now, h.fits, h.reached, h.ordered, h.nodup, h.logged, h.late, h.complete⟩

lemma Follows.enqueue (h : Follows group st) {g s fromAgent toAgent : String} {kind : AgentMsgKind}
    {payload : Bytes} {now : UInt64} {bus : BusTable} (hfits : st.bus.lastSeq g s + 1 < 2 ^ 63)
    (henq : st.bus.agentMsgEnqueue g s fromAgent toAgent kind payload now = .ok (bus, row)) :
    Follows group { st with
      bus
      log := st.log ++ [row]
      late := if g = group ∧ passed st.after row then st.late ++ [row] else st.late } := by
  have hrow := (BusTable.agentMsgEnqueue_ok henq).1
  have hseq : row.seq = st.bus.lastSeq g s + 1 := by rw [hrow]
  have hgroup : row.groupName = g := by rw [hrow]
  have hfits' : ∀ r ∈ st.log ++ [row], r.seq < 2 ^ 63 := forall_mem_snoc h.fits (by omega)
  have hledger := h.ledger.enqueue henq
  have hrowlog : row ∈ st.log ++ [row] := List.mem_append_right _ (List.mem_singleton_self _)
  have hnew : ∀ r ∈ st.log, r ≠ row := by
    rintro r hr rfl
    exact absurd (h.ledger.seq_lt henq r hr ⟨rfl, rfl⟩) (Nat.lt_irrefl _)
  have hunseen : row.groupName = group → item row ∉ st.received := by
    intro hg hmem
    obtain ⟨r, hr, hrg, hitem⟩ := h.logged _ hmem
    have hkey := key_of_item hfits' (List.mem_append_left _ hr) hrowlog (hrg.trans hg.symm) hitem
    exact hnew r hr (hledger.eq_of_key (List.mem_append_left _ hr) hrowlog hkey)
  refine ⟨hledger, hfits', h.reached, h.ordered, h.nodup, fun m hm => ?_, fun r hr => ?_,
    fun r hr hg hp => ?_⟩
  · obtain ⟨r, hr, hlogged⟩ := h.logged m hm
    exact ⟨r, List.mem_append_left _ hr, hlogged⟩
  · have hcases : r ∈ st.late ∨ ((g = group ∧ passed st.after row) ∧ r = row) := by
      dsimp only at hr
      split at hr
      · next hlate =>
        rcases List.mem_append.mp hr with hold | hself
        · exact Or.inl hold
        · exact Or.inr ⟨hlate, List.mem_singleton.mp hself⟩
      · exact Or.inl hr
    rcases hcases with hold | ⟨⟨rfl, hpassed⟩, rfl⟩
    · obtain ⟨hlog, hlate⟩ := h.late r hold
      exact ⟨List.mem_append_left _ hlog, hlate⟩
    · exact ⟨hrowlog, hgroup, hpassed, hunseen hgroup⟩
  · dsimp only
    rcases List.mem_append.mp hr with hold | hself
    · rcases h.complete r hold hg hp with hseen | hlate | htrim
      · exact Or.inl hseen
      · refine Or.inr (Or.inl ?_)
        split
        · exact List.mem_append_left _ hlate
        · exact hlate
      · exact Or.inr (Or.inr (trimmed_grow htrim row))
    · obtain rfl := List.mem_singleton.mp hself
      refine Or.inr (Or.inl ?_)
      rw [if_pos ⟨hgroup.symm.trans hg, hp⟩]
      exact List.mem_append_right _ (List.mem_singleton_self _)

lemma feedOrder_le (h : feedOrder r row) : r.enqueuedAtMs.toInt64 ≤ row.enqueuedAtMs.toInt64 := by
  rw [Int64.le_iff_toInt_le]
  rcases h with hlt | ⟨heq, _⟩
  · rw [Int64.lt_iff_toInt_lt] at hlt
    omega
  · rw [heq]

lemma cursor_poll {rows : List AgentMsgRow} {after : UInt64} (hrows : rows.Pairwise feedOrder)
    (habove : ∀ r ∈ rows, ¬passed after r) :
    let after' := (rows.getLast?.map AgentMsgRow.enqueuedAtMs).getD after
    after.toInt64 ≤ after'.toInt64 ∧ ∀ r ∈ rows, passed after' r := by
  intro after'
  rcases List.eq_nil_or_concat rows with rfl | ⟨front, last, rfl⟩
  · exact ⟨Int64.le_refl _, fun _ hr => (by cases hr)⟩
  · rw [List.concat_eq_append] at hrows habove
    have hafter : after' = last.enqueuedAtMs := by simp [after']
    have hlast : ¬passed after last :=
      habove last (List.mem_append_right _ (List.mem_singleton_self _))
    rw [passed, Int64.not_le, ← hafter] at hlast
    refine ⟨Int64.le_of_lt hlast, fun r hr => ?_⟩
    rw [passed, hafter]
    rw [List.concat_eq_append] at hr
    rcases List.mem_append.mp hr with hfront | hself
    · exact feedOrder_le ((List.pairwise_append.mp hrows).2.2 r hfront last (List.mem_singleton_self _))
    · rw [List.mem_singleton.mp hself]
      exact Int64.le_refl _

/-- Right after a poll the client has every message of the group that was not late. -/
lemma Follows.poll_complete (h : Follows group st) {rows : List AgentMsgRow}
    (hrows : OrderedBy feedOrder (feedRows st.bus group st.after) rows) (hr : r ∈ st.log)
    (hg : r.groupName = group) :
    item r ∈ st.received ++ rows.map item ∨ r ∈ st.late ∨ Trimmed st.log r := by
  by_cases hp : passed st.after r
  · exact (h.complete r hr hg hp).imp_left (List.mem_append_left _)
  · rcases h.ledger.kept r hr with ⟨o, ho, rfl⟩ | htrim
    · refine Or.inl (List.mem_append_right _ (List.mem_map.mpr ⟨o, ?_, (item_unconsumed o).symm⟩))
      exact hrows.mem_iff.mpr (mem_feedRows.mpr ⟨ho, hg, hp⟩)
    · exact Or.inr (Or.inr htrim)

lemma Follows.poll (h : Follows group st) {rows : List AgentMsgRow}
    (hrows : OrderedBy feedOrder (feedRows st.bus group st.after) rows) :
    Follows group { st with
      received := st.received ++ rows.map item
      after := (rows.getLast?.map AgentMsgRow.enqueuedAtMs).getD st.after } := by
  have habove : ∀ r ∈ rows, r ∈ st.bus.rows ∧ r.groupName = group ∧ ¬passed st.after r :=
    fun r hr => mem_feedRows.mp (hrows.mem_iff.mp hr)
  obtain ⟨hgrows, hreached⟩ := cursor_poll hrows.2 fun r hr => (habove r hr).2.2
  have hlogged : ∀ r ∈ rows, r.unconsumed ∈ st.log := fun r hr => h.ledger.logged r (habove r hr).1
  have hstamp : ∀ m ∈ st.received, ∀ r ∈ rows,
      m.message.tsMs.toInt64 < r.enqueuedAtMs.toInt64 := by
    intro m hm r hr
    have hle := h.reached m hm
    have hlt := (habove r hr).2.2
    rw [passed, Int64.not_le, Int64.lt_iff_toInt_lt] at hlt
    rw [Int64.le_iff_toInt_le] at hle
    rw [Int64.lt_iff_toInt_lt]
    omega
  have hnodup : (rows.map item).Nodup := by
    have hrowsnodup : rows.Nodup :=
      hrows.1.nodup_iff.mpr ((List.Nodup.of_map _ st.bus.nodup).filter _)
    refine List.pairwise_map.mpr (hrowsnodup.imp_of_mem fun {r r'} hr hr' hne hitem => hne ?_)
    have hkey := key_of_item h.fits (hlogged r hr) (hlogged r' hr')
      ((habove r hr).2.1.trans (habove r' hr').2.1.symm) hitem
    exact st.bus.eq_of_key (habove r hr).1 (habove r' hr').1 hkey
  refine ⟨h.ledger, h.fits, fun m hm => ?_, ?_, ?_, fun m hm => ?_, fun r hr => ?_,
    fun r hr hg _ => h.poll_complete hrows hr hg⟩
  · rcases List.mem_append.mp hm with hold | hnew
    · exact Int64.le_trans (h.reached m hold) hgrows
    · obtain ⟨r, hr, rfl⟩ := List.mem_map.mp hnew
      exact hreached r hr
  · refine List.pairwise_append.mpr ⟨h.ordered, ?_, fun m hm m' hm' => ?_⟩
    · exact List.pairwise_map.mpr (hrows.2.imp feedOrder_le)
    · obtain ⟨r, hr, rfl⟩ := List.mem_map.mp hm'
      exact Int64.le_of_lt (hstamp m hm r hr)
  · refine List.nodup_append.mpr ⟨h.nodup, hnodup, fun m hm m' hm' => ?_⟩
    obtain ⟨r, hr, rfl⟩ := List.mem_map.mp hm'
    rintro rfl
    exact Int64.lt_irrefl (hstamp _ hm r hr)
  · rcases List.mem_append.mp hm with hold | hnew
    · exact h.logged m hold
    · obtain ⟨r, hr, rfl⟩ := List.mem_map.mp hnew
      exact ⟨r.unconsumed, hlogged r hr, (habove r hr).2.1, item_unconsumed r⟩
  · obtain ⟨hlog, hg, hpassed, hunseen⟩ := h.late r hr
    refine ⟨hlog, hg, Int64.le_trans hpassed hgrows, fun hmem => ?_⟩
    rcases List.mem_append.mp hmem with hold | hnew
    · exact hunseen hold
    · obtain ⟨o, ho, hitem⟩ := List.mem_map.mp hnew
      have hstamps : o.enqueuedAtMs = r.enqueuedAtMs := congrArg (fun i => i.message.tsMs) hitem
      refine (habove o ho).2.2 ?_
      rw [passed, hstamps]
      exact hpassed

lemma Follows.step {l : Label} (h : Follows group st) (hstep : Step group st l st') :
    Follows group st' := by
  cases hstep with
  | enqueue hfits henq => exact h.enqueue hfits henq
  | mark => exact h.mark ..
  | poll hrows => exact h.poll hrows

/-- What a client that polls the feed has received comes once, in the order of the stamps, and from the
log of its group. After a poll it has all of the log but what was trimmed and what was late, and what
was late it never gets. -/
theorem feed_misses_the_late {labels : List Label} (h : Run (Step group) initial labels st) :
    (st.received.Nodup ∧
      st.received.Pairwise fun m m' => m.message.tsMs.toInt64 ≤ m'.message.tsMs.toInt64) ∧
    (∀ m ∈ st.received, ∃ r ∈ st.log, r.groupName = group ∧ item r = m) ∧
    (∀ r ∈ st.late, item r ∉ st.received) ∧
    ∀ st', Step group st .poll st' → ∀ r ∈ st.log, r.groupName = group →
      item r ∈ st'.received ∨ r ∈ st.late ∨ Trimmed st.log r := by
  have hf : Follows group st := h.invariant (fun _ _ _ hi hs => Follows.step hi hs) follows_initial
  refine ⟨⟨hf.nodup, hf.ordered⟩, hf.logged, fun r hr => (hf.late r hr).2.2.2, fun st' hpoll r hr hg => ?_⟩
  cases hpoll with
  | poll hrows => exact hf.poll_complete hrows hr hg

def sampleRow (seq : ℕ) : AgentMsgRow :=
  ⟨"team", "dev", seq, "prime", "dev", .turnInput, [104, 105], 5, none⟩

def send (t : BusTable) : Option (BusTable × AgentMsgRow) :=
  (t.agentMsgEnqueue "team" "dev" "prime" "dev" .turnInput [104, 105] 5).toOption

lemma send_ok {t : BusTable} {x : BusTable × AgentMsgRow} (h : send t = some x) :
    t.agentMsgEnqueue "team" "dev" "prime" "dev" .turnInput [104, 105] 5 = .ok (x.1, x.2) := by
  cases henq : t.agentMsgEnqueue "team" "dev" "prime" "dev" .turnInput [104, 105] 5 with
  | error e =>
    rw [send, henq] at h
    cases h
  | ok y =>
    rw [send, henq] at h
    rw [Option.some.inj h]

/-- Two messages in one millisecond, with a poll between them. -/
theorem feed_misses_the_late_same_stamp : ∃ labels st, Run (Step "team") initial labels st ∧
    st.received = [item (sampleRow 1)] ∧ st.late = [sampleRow 2] ∧
    ∀ r ∈ st.late, item r ∉ st.received := by
  have heval : (send Table.empty).bind (fun x => (send x.1).map fun y =>
      (x.2, x.1.rows, decide (x.1.lastSeq "team" "dev" + 1 < 2 ^ 63), y.2)) =
      some (sampleRow 1, [sampleRow 1], true, sampleRow 2) := by
    decide +kernel
  obtain ⟨x, hx, hrest⟩ := Option.bind_eq_some_iff.mp heval
  obtain ⟨y, hy, heq⟩ := Option.map_eq_some_iff.mp hrest
  obtain ⟨hfirst, heq⟩ := Prod.mk.inj heq
  obtain ⟨hrows, heq⟩ := Prod.mk.inj heq
  obtain ⟨hfits, hsecond⟩ := Prod.mk.inj heq
  have hanswer : OrderedBy feedOrder (feedRows x.1 "team" 0) [sampleRow 1] := by
    refine ⟨?_, List.pairwise_singleton _ _⟩
    rw [feedRows, hrows]
    exact List.Perm.of_eq (by decide +kernel)
  have hrun : Run (Step "team") initial _ _ := .cons (.enqueue (by decide +kernel) (send_ok hx))
    (.cons (.poll hanswer) (.cons (.enqueue (of_decide_eq_true hfits) (send_ok hy)) .nil))
  refine ⟨_, _, hrun, rfl, ?_, (feed_misses_the_late hrun).2.2.1⟩
  rw [hfirst, hsecond]
  change (if "team" = "team" ∧ passed 5 (sampleRow 2) then
    (if "team" = "team" ∧ passed 0 (sampleRow 1) then [] ++ [sampleRow 1] else []) ++ [sampleRow 2]
    else (if "team" = "team" ∧ passed 0 (sampleRow 1) then [] ++ [sampleRow 1] else [])) = [sampleRow 2]
  rw [if_pos (by decide +kernel), if_neg (by decide +kernel)]
  rfl

end WalkieTalkie.Gateway.Feed
