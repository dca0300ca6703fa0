import WalkieTalkie.Inbox.Filter
import WalkieTalkie.Lib.Signed

/-! What a drain of the inbox answers. Time stamps and cursors are unsigned on the wire and signed in
the query, no cursor is the cursor 0, and the query stops after 10,000 rows, the oldest first. -/

namespace WalkieTalkie.Inbox

open Proto Store Lib Subscription

/-- A message without the name that its sender had when it was read. -/
structure Content where
  sender : NodeId
  channel : String
  payload : Bytes
  tsMs : UInt64
deriving DecidableEq

def contentOf (m : RecvMsg) : Content := ⟨m.sender, m.channel, m.payload, m.tsMs⟩

def rowContent (r : MessageRow) : Content := ⟨r.sender, r.channel, r.payload, r.enqueuedAtMs⟩

def drainRequest (channel : Option String) (sinceMs : Option UInt64) : Request :=
  ⟨none, channel, sinceMs, false⟩

/-- The messages of a channel that were recorded. -/
def recorded (table : MessageTable) (channel : Option String) : List MessageRow :=
  table.rows.filter (inBacklog none channel)

def newer : Option UInt64 → MessageRow → Bool
  | none, _ => true
  | some s, r => s < r.enqueuedAtMs

def wanted (table : MessageTable) (channel : Option String) (sinceMs : Option UInt64) :
    List MessageRow :=
  (recorded table channel).filter (newer sinceMs)

structure DrainsWhole (find : PeerSelectorBytes → Option PeerRow) (table : MessageTable)
    (channel : Option String) (sinceMs : Option UInt64) : Prop where
  answers : ∃ evs, Writes find table (drainRequest channel sinceMs) evs ∧ .recvBacklogEnd ∈ evs
  whole : ∀ evs, Writes find table (drainRequest channel sinceMs) evs → .recvBacklogEnd ∈ evs →
    ((messages evs).map contentOf).Perm ((wanted table channel sinceMs).map rowContent)

/-- All recorded stamps are where the query compares them as the wire does. A cursor from 2^63 on also
takes every stamp below it for newer, which only a full answer hides. -/
def Comparable (table : MessageTable) (channel : Option String) : Option UInt64 → Prop
  | none => ∀ r ∈ recorded table channel, 0 < r.enqueuedAtMs.toNat ∧ r.enqueuedAtMs.toNat < 2 ^ 63
  | some s =>
    if s.toNat < 2 ^ 63 then ∀ r ∈ recorded table channel, r.enqueuedAtMs.toNat < 2 ^ 63
    else (wanted table channel (some s)).length = 10000 ∨
      ∀ r ∈ recorded table channel, 2 ^ 63 ≤ r.enqueuedAtMs.toNat

variable {find : PeerSelectorBytes → Option PeerRow} {table : MessageTable} {channel : Option String}
  {sinceMs : Option UInt64} {evs : List IpcEvent}

lemma drained (h : Writes find table (drainRequest channel sinceMs) evs)
    (hend : .recvBacklogEnd ∈ evs) :
    ∃ rows names, table.InboxBacklog none channel sinceMs 10000 rows ∧
      names.length = rows.length ∧
      evs = List.zipWith backlogMsg names rows ++ [.recvBacklogEnd] := by
  induction h with
  | failed e => simp at hend
  | @served rows hrows names hnames live => exact ⟨rows, names, hrows, hnames, rfl⟩
  | lost h hb ih =>
    obtain ⟨rows, names, hrows, hnames, rfl⟩ := ih (hb.subset hend)
    refine ⟨rows, names, hrows, hnames, ?_⟩
    rcases List.prefix_concat_iff.mp hb with rfl | hb
    · rfl
    · obtain ⟨m, hm⟩ := backlog_msg (hb.subset hend)
      cases hm

lemma messages_append (evs evs' : List IpcEvent) :
    messages (evs ++ evs') = messages evs ++ messages evs' :=
  List.filterMap_append

lemma contents_zipWith {names : List (Option String)} {rows : List MessageRow}
    (h : names.length = rows.length) :
    (messages (List.zipWith backlogMsg names rows)).map contentOf = rows.map rowContent := by
  induction names generalizing rows with
  | nil =>
    rw [List.length_nil] at h
    rw [List.eq_nil_of_length_eq_zero h.symm]
    rfl
  | cons n names ih =>
    cases rows with
    | nil => cases h
    | cons row rows =>
      have ih := ih (Nat.succ.inj h)
      rw [List.map_cons, ← ih]
      rfl

lemma contents_drained {rows : List MessageRow} {names : List (Option String)}
    (hnames : names.length = rows.length) :
    (messages (List.zipWith backlogMsg names rows ++ [.recvBacklogEnd])).map contentOf =
      rows.map rowContent := by
  rw [messages_append, List.map_append, contents_zipWith hnames]
  exact List.append_nil _

lemma writes_of_backlog {rows : List MessageRow}
    (h : table.InboxBacklog none channel sinceMs 10000 rows) :
    Writes find table (drainRequest channel sinceMs)
      (List.zipWith backlogMsg (rows.map fun _ => none) rows ++ [.recvBacklogEnd]) :=
  @Writes.served find table (drainRequest channel sinceMs) rows h _ (List.length_map _) []

lemma drainsWhole_iff : DrainsWhole find table channel sinceMs ↔
    ∀ rows, OrderedBy MessageTable.oldestFirst
      ((recorded table channel).filter (after sinceMs)) rows →
      ((rows.take 10000).map rowContent).Perm ((wanted table channel sinceMs).map rowContent) := by
  have hfilter : (recorded table channel).filter (after sinceMs) =
      table.rows.filter fun row => inBacklog none channel row && after sinceMs row := by
    rw [recorded, List.filter_filter]
    simp only [Bool.and_comm]
  rw [hfilter]
  constructor
  · intro h rows hordered
    have hw := h.whole _ (writes_of_backlog ⟨rows, hordered, rfl⟩) (by simp)
    rwa [contents_drained (List.length_map _)] at hw
  · intro h
    refine ⟨?_, fun evs hw hend => ?_⟩
    · obtain ⟨rows, hrows⟩ := exists_inboxBacklog table none channel sinceMs 10000
      exact ⟨_, writes_of_backlog hrows, by simp⟩
    · obtain ⟨_, names, ⟨rows, hordered, rfl⟩, hnames, rfl⟩ := drained hw hend
      rw [contents_drained hnames]
      exact h rows hordered

lemma after_iff {r : MessageRow} : after sinceMs r = true ↔
    (sinceMs.getD 0).toInt64 < r.enqueuedAtMs.toInt64 :=
  decide_eq_true_iff

lemma after_none_iff {r : MessageRow} : after none r = true ↔
    0 < r.enqueuedAtMs.toNat ∧ r.enqueuedAtMs.toNat < 2 ^ 63 := by
  rw [after_iff, Signed.toInt64_lt]
  have hzero : ((none : Option UInt64).getD 0).toNat = 0 := rfl
  rw [hzero]
  omega

lemma after_some_iff {s : UInt64} {r : MessageRow} : after (some s) r = true ↔
    (s.toNat < r.enqueuedAtMs.toNat ↔ (s.toNat < 2 ^ 63 ↔ r.enqueuedAtMs.toNat < 2 ^ 63)) := by
  rw [after_iff, Option.getD_some, Signed.toInt64_lt]

lemma newer_some_iff {s : UInt64} {r : MessageRow} :
    newer (some s) r = true ↔ s.toNat < r.enqueuedAtMs.toNat :=
  decide_eq_true_iff

lemma perm_of_agree {rows : List MessageRow}
    (h : ∀ r ∈ recorded table channel, after sinceMs r = newer sinceMs r)
    (hlen : (wanted table channel sinceMs).length ≤ 10000)
    (hordered : OrderedBy MessageTable.oldestFirst
      ((recorded table channel).filter (after sinceMs)) rows) :
    (rows.take 10000).Perm (wanted table channel sinceMs) := by
  rw [List.filter_congr h] at hordered
  rw [List.take_of_length_le (hordered.1.length_eq.trans_le hlen)]
  exact hordered.1

/-- The newest stamps come first where they are negative. -/
lemma perm_of_full {s : UInt64} {rows : List MessageRow} (hs : 2 ^ 63 ≤ s.toNat)
    (hlen : (wanted table channel (some s)).length = 10000)
    (hordered : OrderedBy MessageTable.oldestFirst
      ((recorded table channel).filter (after (some s))) rows) :
    (rows.take 10000).Perm (wanted table channel (some s)) := by
  have hwanted : (rows.filter (newer (some s))).Perm (wanted table channel (some s)) := by
    refine (hordered.1.filter _).trans ?_
    rw [List.filter_filter, wanted]
    refine List.Perm.of_eq (List.filter_congr fun r _ => ?_)
    rw [Bool.eq_iff_iff, Bool.and_eq_true, after_some_iff, newer_some_iff]
    omega
  have htake : rows.take (rows.filter (newer (some s))).length = rows.filter (newer (some s)) := by
    refine take_filter_of_pairwise hordered.2 fun a ha b _ hab hb => ?_
    have ha := (List.mem_filter.mp (hordered.mem_iff.mp ha)).2
    have hab := Int64.not_lt.mpr hab
    rw [Signed.toInt64_lt] at hab
    rw [after_some_iff] at ha
    rw [newer_some_iff] at hb ⊢
    omega
  rw [hwanted.length_eq, hlen] at htake
  rw [htake]
  exact hwanted

lemma exists_of_perm {rows : List MessageRow}
    (h : (rows.map rowContent).Perm ((wanted table channel sinceMs).map rowContent))
    {r : MessageRow} (hr : r ∈ wanted table channel sinceMs) :
    ∃ r' ∈ rows, r'.enqueuedAtMs = r.enqueuedAtMs := by
  obtain ⟨r', hr', he⟩ := List.mem_map.mp (h.mem_iff.mpr (List.mem_map_of_mem hr))
  exact ⟨r', hr', congrArg Content.tsMs he⟩

lemma comparable_of_perm {rows : List MessageRow}
    (hordered : OrderedBy MessageTable.oldestFirst
      ((recorded table channel).filter (after sinceMs)) rows)
    (h : ((rows.take 10000).map rowContent).Perm ((wanted table channel sinceMs).map rowContent)) :
    Comparable table channel sinceMs := by
  have hafter : ∀ r ∈ wanted table channel sinceMs, after sinceMs r = true := by
    intro r hr
    obtain ⟨r', hr', he⟩ := exists_of_perm h hr
    have hr' := (List.mem_filter.mp (hordered.mem_iff.mp (List.mem_of_mem_take hr'))).2
    rw [after, he] at hr'
    exact hr'
  cases sinceMs with
  | none =>
    intro r hr
    exact after_none_iff.mp (hafter r (List.mem_filter.mpr ⟨hr, rfl⟩))
  | some s =>
    rw [Comparable]
    split
    · next hs =>
      intro r hr
      by_contra hge
      have hnewer : newer (some s) r = true := newer_some_iff.mpr (by omega)
      have hr := after_some_iff.mp (hafter r (List.mem_filter.mpr ⟨hr, hnewer⟩))
      rw [newer_some_iff] at hnewer
      omega
    · next hs =>
      by_contra hno
      obtain ⟨hlen, hex⟩ := not_or.mp hno
      push Not at hex
      obtain ⟨r, hr, hlt⟩ := hex
      have heq := h.length_eq
      rw [List.length_map, List.length_map, List.length_take] at heq
      rw [List.take_of_length_le (by omega)] at h
      have hselected : r ∈ rows := hordered.mem_iff.mpr
        (List.mem_filter.mpr ⟨hr, after_some_iff.mpr (by omega)⟩)
      obtain ⟨r', hr', he⟩ := List.mem_map.mp (h.mem_iff.mp (List.mem_map_of_mem hselected))
      have hnewer := newer_some_iff.mp (List.mem_filter.mp hr').2
      have hts : r'.enqueuedAtMs = r.enqueuedAtMs := congrArg Content.tsMs he
      rw [hts] at hnewer
      omega

lemma perm_of_comparable {rows : List MessageRow}
    (hlen : (wanted table channel sinceMs).length ≤ 10000)
    (hcomp : Comparable table channel sinceMs)
    (hordered : OrderedBy MessageTable.oldestFirst
      ((recorded table channel).filter (after sinceMs)) rows) :
    (rows.take 10000).Perm (wanted table channel sinceMs) := by
  cases sinceMs with
  | none => exact perm_of_agree (fun r hr => after_none_iff.mpr (hcomp r hr)) hlen hordered
  | some s =>
    rw [Comparable] at hcomp
    split at hcomp
    · next hs =>
      refine perm_of_agree (fun r hr => ?_) hlen hordered
      have hr := hcomp r hr
      rw [Bool.eq_iff_iff, after_some_iff, newer_some_iff]
      omega
    · next hs =>
      rcases hcomp with hfull | hcomp
      · exact perm_of_full (by omega) hfull hordered
      · refine perm_of_agree (fun r hr => ?_) hlen hordered
        have hr := hcomp r hr
        rw [Bool.eq_iff_iff, after_some_iff, newer_some_iff]
        omega

/-- A drain answers what it is asked for exactly when the stamps compare as on the wire and there are
at most 10,000 messages to give. -/
theorem drainsWhole_iff_comparable : DrainsWhole find table channel sinceMs ↔
    (wanted table channel sinceMs).length ≤ 10000 ∧ Comparable table channel sinceMs := by
  rw [drainsWhole_iff]
  constructor
  · intro h
    have hordered := orderBy_orderedBy MessageTable.oldestFirst
      ((recorded table channel).filter (after sinceMs))
    have hperm := h _ hordered
    have hlen := hperm.length_eq
    rw [List.length_map, List.length_map, List.length_take] at hlen
    refine ⟨by omega, comparable_of_perm hordered hperm⟩
  · rintro ⟨hlen, hcomp⟩ rows hordered
    exact (perm_of_comparable hlen hcomp hordered).map _

def earlyTable : MessageTable :=
  (MessageTable.inboxRecord Table.empty Sample.channelId (Sample.node 2) "general"
    ⟨1, 0, [104, 105]⟩ 6).1

theorem stamp_zero_is_never_drained :
    (wanted earlyTable none none).map rowContent = [⟨Sample.node 2, "general", [104, 105], 0⟩] ∧
    Writes (fun _ => none) earlyTable (drainRequest none none) [.recvBacklogEnd] ∧
    ¬ DrainsWhole (fun _ => none) earlyTable none none := by
  have hrows : earlyTable.InboxBacklog none none none 10000 [] :=
    ⟨[], ⟨List.Perm.refl _, List.Pairwise.nil⟩, rfl⟩
  have hwrites : Writes (fun _ => none) earlyTable (drainRequest none none) [.recvBacklogEnd] :=
    @Writes.served (fun _ => none) earlyTable (drainRequest none none) [] hrows [] rfl []
  refine ⟨by decide +kernel, hwrites, fun h => ?_⟩
  have hperm := (h.whole _ hwrites List.mem_cons_self).length_eq
  exact absurd hperm (by decide +kernel)

end WalkieTalkie.Inbox
