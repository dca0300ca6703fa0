import Mathlib.Logic.Function.Basic
import WalkieTalkie.Lib.Tables
import WalkieTalkie.NodeIds

/-! The nodes that are announced on the local network. The loop that keeps their map waits 30 seconds
for an event and ends at the first wait that is in vain, as it does when the channel is closed; from
then on the map stays as it is. -/

namespace WalkieTalkie.Daemon.Discovery

open Proto Lib

inductive IpAddr
  | v4 (octets : Vector UInt8 4)
  | v6 (octets : Vector UInt8 16)
deriving DecidableEq

structure LanPeer where
  nodeid : NodeId
  addresses : List IpAddr
  port : UInt16
  instanceName : String
  lastSeenMs : UInt64
deriving DecidableEq

abbrev LanPeers := Table (NodeId × LanPeer) NodeId Prod.fst

structure ResolvedService where
  txtProperties : List (String × String)
  addresses : List IpAddr
  port : UInt16
  fullname : String

inductive ServiceEvent
  | serviceResolved (svc : ResolvedService) (nowMs : UInt64)
  | serviceRemoved (serviceType fullname : String)
  | other

def insertPeer (peers : LanPeers) (nodeid : NodeId) (lp : LanPeer) : LanPeers :=
  peers.upsert (fun old new => (old.1, new.2)) (fun _ _ => rfl) (nodeid, lp)

def lanPeer (nodeid : NodeId) (svc : ResolvedService) (nowMs : UInt64) : LanPeer :=
  ⟨nodeid, svc.addresses, svc.port, svc.fullname, nowMs⟩

def handle (own : NodeId) (peers : LanPeers) : ServiceEvent → LanPeers
  | .serviceResolved svc nowMs =>
    match svc.txtProperties.find? fun p => p.1 = "nodeid" with
    | none => peers
    | some p =>
      match NodeId.fromStr p.2 with
      | .error _ => peers
      | .ok nodeid =>
        if nodeid = own then peers else insertPeer peers nodeid (lanPeer nodeid svc nowMs)
  | .serviceRemoved _ fullname => peers.delete fun e => e.2.instanceName = fullname
  | .other => peers

def recvTimeoutMs : ℕ := 30000

/-- Every event comes with the time that the loop has waited for it. -/
def browseLoop (own : NodeId) : LanPeers → List (ℕ × ServiceEvent) → LanPeers
  | peers, [] => peers
  | peers, (waited, event) :: rest =>
    if waited < recvTimeoutMs then browseLoop own (handle own peers event) rest else peers

def lookup (peers : LanPeers) (n : NodeId) : Option LanPeer := (peers.find n).map Prod.snd

abbrev View := NodeId → Option LanPeer

def announced (svc : ResolvedService) : Option NodeId :=
  (svc.txtProperties.find? fun p => p.1 = "nodeid").bind fun p => (NodeId.fromStr p.2).toOption

def learn (own : NodeId) (view : View) : ServiceEvent → View
  | .serviceResolved svc nowMs =>
    match announced svc with
    | some n => if n = own then view else Function.update view n (some (lanPeer n svc nowMs))
    | none => view
  | .serviceRemoved _ fullname => fun n => (view n).filter fun lp => lp.instanceName ≠ fullname
  | .other => view

def nothing : View := fun _ => none

def heard (events : List (ℕ × ServiceEvent)) : List ServiceEvent :=
  (events.takeWhile fun e => e.1 < recvTimeoutMs).map Prod.snd

def missed (events : List (ℕ × ServiceEvent)) : List ServiceEvent :=
  (events.dropWhile fun e => e.1 < recvTimeoutMs).map Prod.snd

structure WellKept (own : NodeId) (peers : LanPeers) : Prop where
  foreign : ∀ e ∈ peers.rows, e.1 ≠ own
  keyed : ∀ e ∈ peers.rows, e.2.nodeid = e.1

variable {own n : NodeId} {peers : LanPeers} {lp : LanPeer}

lemma lookup_eq_some : lookup peers n = some lp ↔ (n, lp) ∈ peers.rows := by
  rw [lookup, Option.map_eq_some_iff]
  constructor
  · rintro ⟨e, he, rfl⟩
    obtain ⟨hmem, rfl⟩ := Table.find_eq_some.mp he
    exact hmem
  · intro hmem
    exact ⟨(n, lp), Table.find_eq_some.mpr ⟨hmem, rfl⟩, rfl⟩

lemma mem_insertPeer {nodeid : NodeId} {e : NodeId × LanPeer} :
    e ∈ (insertPeer peers nodeid lp).rows ↔ (e ∈ peers.rows ∧ e.1 ≠ nodeid) ∨ e = (nodeid, lp) := by
  rw [insertPeer, Table.mem_upsert]
  refine or_congr_right ⟨?_, fun he => ?_⟩
  · rintro (⟨o, _, hk, rfl⟩ | ⟨rfl, _⟩)
    · rw [hk]
    · rfl
  · subst he
    by_cases hold : ∃ o ∈ peers.rows, o.1 = nodeid
    · obtain ⟨o, ho, hk⟩ := hold
      exact Or.inl ⟨o, ho, hk, by rw [hk]⟩
    · exact Or.inr ⟨rfl, fun o ho hk => hold ⟨o, ho, hk⟩⟩

lemma lookup_insertPeer (nodeid : NodeId) :
    lookup (insertPeer peers nodeid lp) = Function.update (lookup peers) nodeid (some lp) := by
  funext n
  refine Option.ext fun lp' => ?_
  rw [lookup_eq_some, mem_insertPeer]
  by_cases hn : n = nodeid
  · subst hn
    simp [eq_comm]
  · rw [Function.update_of_ne hn, lookup_eq_some]
    simp [hn]

lemma lookup_delete (fullname : String) (n : NodeId) :
    lookup (peers.delete fun e => e.2.instanceName = fullname) n =
      (lookup peers n).filter fun lp => lp.instanceName ≠ fullname := by
  refine Option.ext fun lp => ?_
  rw [lookup_eq_some, Table.mem_delete, Option.filter_eq_some_iff, lookup_eq_some]
  simp

lemma lookup_handle (own : NodeId) (peers : LanPeers) (event : ServiceEvent) :
    lookup (handle own peers event) = learn own (lookup peers) event := by
  cases event with
  | serviceResolved svc nowMs =>
    simp only [handle, learn, announced]
    cases svc.txtProperties.find? fun p => p.1 = "nodeid" with
    | none => rfl
    | some p =>
      rcases hparse : NodeId.fromStr p.2 with e | nodeid
      · simp [hparse, Except.toOption]
      · simp only [hparse, Option.bind_some, Except.toOption]
        split
        · rfl
        · exact lookup_insertPeer nodeid
  | serviceRemoved serviceType fullname => exact funext fun n => lookup_delete fullname n
  | other => rfl

lemma WellKept.handle (h : WellKept own peers) (event : ServiceEvent) :
    WellKept own (handle own peers event) := by
  cases event with
  | serviceResolved svc nowMs =>
    simp only [Discovery.handle]
    split
    · exact h
    · split
      · exact h
      · next nodeid _ =>
        split
        · exact h
        · next hown =>
          refine ⟨fun e he => ?_, fun e he => ?_⟩
          · rcases mem_insertPeer.mp he with ⟨he, _⟩ | rfl
            · exact h.foreign e he
            · exact hown
          · rcases mem_insertPeer.mp he with ⟨he, _⟩ | rfl
            · exact h.keyed e he
            · rfl
  | serviceRemoved serviceType fullname =>
    exact ⟨fun e he => h.foreign e (Table.mem_delete.mp he).1,
      fun e he => h.keyed e (Table.mem_delete.mp he).1⟩
  | other => exact h

lemma wellKept_browseLoop (h : WellKept own peers) (events : List (ℕ × ServiceEvent)) :
    WellKept own (browseLoop own peers events) := by
  induction events generalizing peers with
  | nil => exact h
  | cons e rest ih =>
    rw [browseLoop]
    split
    · exact ih (h.handle e.2)
    · exact h

lemma lookup_browseLoop (peers : LanPeers) (events : List (ℕ × ServiceEvent)) :
    lookup (browseLoop own peers events) = (heard events).foldl (learn own) (lookup peers) := by
  induction events generalizing peers with
  | nil => rfl
  | cons e rest ih =>
    rw [browseLoop, heard, List.takeWhile_cons]
    by_cases hwaited : e.1 < recvTimeoutMs
    · rw [if_pos hwaited, if_pos (decide_eq_true hwaited), List.map_cons, List.foldl_cons, ih,
        lookup_handle]
      rfl
    · rw [if_neg hwaited, if_neg (by simpa using hwaited)]
      rfl

lemma heard_append_missed (events : List (ℕ × ServiceEvent)) :
    heard events ++ missed events = events.map Prod.snd := by
  rw [heard, missed, ← List.map_append, List.takeWhile_append_dropWhile]

theorem browseLoop_tracks_iff (own : NodeId) (events : List (ℕ × ServiceEvent)) :
    (lookup (browseLoop own Table.empty events) =
        (events.map Prod.snd).foldl (learn own) nothing ↔
      (missed events).foldl (learn own) ((heard events).foldl (learn own) nothing) =
        (heard events).foldl (learn own) nothing) ∧
    WellKept own (browseLoop own Table.empty events) := by
  have hempty : WellKept own Table.empty := ⟨fun _ he => (by cases he), fun _ he => (by cases he)⟩
  refine ⟨?_, wellKept_browseLoop hempty events⟩
  have hnothing : lookup Table.empty = nothing := rfl
  rw [lookup_browseLoop, ← heard_append_missed, List.foldl_append, hnothing]
  exact eq_comm

def laptop : NodeId := ⟨Vector.replicate 32 7⟩

def desk : NodeId := ⟨Vector.replicate 32 8⟩

def announcement : ResolvedService :=
  ⟨[("nodeid", laptop.display), ("v", "0.2")], [.v4 #v[192, 168, 0, 7]], 4433, "wt-07._wt._udp.local."⟩

theorem announcement_after_a_quiet_minute_is_lost :
    lookup (browseLoop desk Table.empty [(60000, .serviceResolved announcement 5)]) laptop = none ∧
      [.serviceResolved announcement 5].foldl (learn desk) nothing laptop =
        some (lanPeer laptop announcement 5) := by
  have hannounced : announced announcement = some laptop := by
    have hparse : NodeId.fromStr laptop.display = .ok laptop := NodeId.fromStr_display laptop
    rw [announced, announcement, List.find?_cons_of_pos (by decide), Option.bind_some, hparse]
    rfl
  have hforeign : laptop ≠ desk := by decide
  refine ⟨rfl, ?_⟩
  rw [List.foldl_cons, List.foldl_nil, learn, hannounced]
  dsimp only
  rw [if_neg hforeign, Function.update_self]

end WalkieTalkie.Daemon.Discovery
