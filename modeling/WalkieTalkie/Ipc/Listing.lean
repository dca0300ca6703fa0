import WalkieTalkie.Daemon.Discovery
import WalkieTalkie.Ipc.InStep

/-! The list of the peers. The rows of the peers table that pass the filter come first, and then what
is discovered on the local network and was not among them; for the local filter no row passes, so that
the second part also names nodes that are in the table. -/

namespace WalkieTalkie.Ipc

open Proto Store Lib Lib.Serve

/-- What the daemon knows of other nodes. Without mDNS there is no map of the local network. -/
structure Network where
  peers : PeerTable
  conns : List ConnInfo
  mdns : Option { lan : Daemon.Discovery.LanPeers // ∀ e ∈ lan.rows, e.2.nodeid = e.1 }

namespace Network

def lanRows (net : Network) : List (NodeId × Daemon.Discovery.LanPeer) :=
  match net.mdns with
  | some lan => lan.val.rows
  | none => []

def lanPeers (net : Network) : List LanPeer :=
  net.lanRows.map fun e => ⟨e.2.nodeid, e.2.instanceName, e.2.lastSeenMs⟩

/-- `SELECT … ORDER BY name`. -/
def peerList (net : Network) : List PeerRow :=
  orderBy (fun r r' => r.name ≤ r'.name) net.peers.table.rows

end Network

/-- A daemon whose reads of the network answer what is known. -/
def Daemon.on {σ : Type} (D : Daemon σ) (net : Network) : Daemon σ :=
  { D with
    peerList := fun s => (.ok net.peerList, s)
    listConns := fun s => (net.conns, s)
    lanPeers := fun s => (net.lanPeers, s) }

def listed (written : List IpcEvent) : List PeerInfo :=
  written.filterMap fun
    | .peerListItem info => some info
    | _ => none

/-- The rows that a filter asks for. -/
def Selected (filter : PeerFilter) (conns : List ConnInfo) (p : PeerRow) : Prop :=
  match filter with
  | .all | .remote => True
  | .local => False
  | .connected => ∃ c ∈ conns, c.nodeid = p.nodeid

structure NamedOnce (net : Network) (filter : PeerFilter) (items : List PeerInfo) : Prop where
  once : (items.map PeerInfo.nodeid).Nodup
  mdns : ∀ info, info ∈ items ∧ info.source = .mdns ↔ (filter = .all ∨ filter = .local) ∧
    ∃ lp ∈ net.lanPeers, info = lanInfo lp ∧ ∀ p ∈ net.peers.table.rows, p.nodeid ≠ lp.nodeid
  manual : ∀ info, info ∈ items ∧ info.source = .manual ↔
    ∃ p ∈ net.peers.table.rows, info = peerInfo net.conns p ∧ Selected filter net.conns p

variable {σ : Type} (D : Daemon σ) {net : Network} {filter : PeerFilter}

def manualItems (net : Network) (filter : PeerFilter) : List PeerInfo :=
  (net.peerList.map (peerInfo net.conns)).filter (filterMatch filter)

def lanItems (net : Network) (filter : PeerFilter) : List PeerInfo :=
  ((if filter = .all ∨ filter = .local then net.lanPeers else []).filter fun lp =>
    (manualItems net filter).all fun info => info.nodeid ≠ lp.nodeid).map lanInfo

lemma listed_items (items : List PeerInfo) (last : List IpcEvent) :
    listed (items.map .peerListItem ++ last) = items ++ listed last := by
  rw [listed, listed, List.filterMap_append, List.filterMap_map]
  congr 1
  exact List.filterMap_some ..

lemma peerList_writes (s : σ) : listed (peerList (D.on net) filter s).2.1 =
    manualItems net filter ++ lanItems net filter := by
  have hend : ∀ lan : List LanPeer, listed ((manualItems net filter).map .peerListItem ++
      (lan.map (fun lp => IpcEvent.peerListItem (lanInfo lp)) ++ [.peerListEnd])) =
      manualItems net filter ++ lan.map lanInfo := by
    intro lan
    have hmap : lan.map (fun lp => IpcEvent.peerListItem (lanInfo lp)) =
        (lan.map lanInfo).map .peerListItem := List.map_map.symm
    rw [hmap, listed_items, listed_items]
    exact congrArg _ (List.append_nil _)
  by_cases hlan : filter = .all ∨ filter = .local
  · rw [lanItems, if_pos hlan]
    simp only [peerList, hlan, Bind.bind, call, ask, each_write, Daemon.on, Pure.pure, write,
      List.nil_append]
    exact hend _
  · rw [lanItems, if_neg hlan]
    simp only [peerList, hlan, Bind.bind, call, ask, each_write, Daemon.on, Pure.pure, write,
      List.nil_append]
    exact hend _

variable {D}

lemma mem_peerList {p : PeerRow} : p ∈ net.peerList ↔ p ∈ net.peers.table.rows :=
  (List.perm_insertionSort ..).mem_iff

lemma nodup_peerList : (net.peerList.map PeerRow.nodeid).Nodup :=
  ((List.perm_insertionSort ..).map _).nodup_iff.mpr net.peers.table.nodup

lemma nodup_lanPeers : (net.lanPeers.map LanPeer.nodeid).Nodup := by
  have hkeys : net.lanPeers.map LanPeer.nodeid = net.lanRows.map fun e => e.2.nodeid := List.map_map
  rw [hkeys, Network.lanRows]
  split
  · next lan _ =>
    rw [List.map_congr_left lan.property]
    exact lan.val.nodup
  · exact List.nodup_nil

lemma peerInfo_connected {conns : List ConnInfo} (p : PeerRow) :
    (∃ n, (peerInfo conns p).state = .connected n) ↔ ∃ c ∈ conns, c.nodeid = p.nodeid := by
  rcases hconn : conns.find? fun c => c.nodeid = p.nodeid with _ | c
  · have hnone : ∀ c ∈ conns, ¬ c.nodeid = p.nodeid := by
      simpa using List.find?_eq_none.mp hconn
    simp only [peerInfo, hconn]
    constructor
    · rintro ⟨n, h⟩
      by_cases hseen : p.lastSeenMs.isSome = true
      · rw [if_pos hseen] at h
        cases h
      · rw [if_neg hseen] at h
        cases h
    · rintro ⟨c, hc, hkey⟩
      exact absurd hkey (hnone c hc)
  · have hfound := List.find?_some hconn
    simp only [peerInfo, hconn]
    exact ⟨fun _ => ⟨c, List.mem_of_find?_eq_some hconn, of_decide_eq_true hfound⟩, fun _ => ⟨_, rfl⟩⟩

lemma filterMatch_connected (info : PeerInfo) :
    filterMatch .connected info = true ↔ ∃ n, info.state = .connected n := by
  rcases info with ⟨_, _, _, _ | _ | _, _⟩
  · exact ⟨fun _ => ⟨_, rfl⟩, fun _ => rfl⟩
  · exact ⟨fun h => (by cases h), fun h => (by cases h.choose_spec)⟩
  · exact ⟨fun h => (by cases h), fun h => (by cases h.choose_spec)⟩

lemma selected_iff (p : PeerRow) :
    filterMatch filter (peerInfo net.conns p) = true ↔ Selected filter net.conns p := by
  cases filter with
  | all | remote => simp [filterMatch, Selected, peerInfo]
  | «local» => simp [filterMatch, Selected, peerInfo]
  | connected => exact (filterMatch_connected _).trans (peerInfo_connected p)

lemma mem_manualItems {info : PeerInfo} : info ∈ manualItems net filter ↔
    ∃ p ∈ net.peers.table.rows, info = peerInfo net.conns p ∧ Selected filter net.conns p := by
  rw [manualItems, List.mem_filter, List.mem_map]
  constructor
  · rintro ⟨⟨p, hp, rfl⟩, hmatch⟩
    exact ⟨p, mem_peerList.mp hp, rfl, (selected_iff p).mp hmatch⟩
  · rintro ⟨p, hp, rfl, hselected⟩
    exact ⟨⟨p, mem_peerList.mpr hp, rfl⟩, (selected_iff p).mpr hselected⟩

lemma mem_lanItems {info : PeerInfo} : info ∈ lanItems net filter ↔
    (filter = .all ∨ filter = .local) ∧ ∃ lp ∈ net.lanPeers, info = lanInfo lp ∧
      ∀ item ∈ manualItems net filter, item.nodeid ≠ lp.nodeid := by
  rw [lanItems]
  simp only [List.mem_map, List.mem_filter, List.all_eq_true, decide_eq_true_eq]
  split
  · next hlan =>
    constructor
    · rintro ⟨lp, ⟨hlp, hnew⟩, rfl⟩
      exact ⟨hlan, lp, hlp, rfl, hnew⟩
    · rintro ⟨_, lp, hlp, rfl, hnew⟩
      exact ⟨lp, ⟨hlp, hnew⟩, rfl⟩
  · next hlan =>
    constructor
    · rintro ⟨lp, ⟨hlp, _⟩, _⟩
      cases hlp
    · exact fun h => absurd h.1 hlan

lemma source_manualItems {info : PeerInfo} (h : info ∈ manualItems net filter) :
    info.source = .manual := by
  obtain ⟨p, _, rfl, _⟩ := mem_manualItems.mp h
  rfl

lemma source_lanItems {info : PeerInfo} (h : info ∈ lanItems net filter) : info.source = .mdns := by
  obtain ⟨_, lp, _, rfl, _⟩ := mem_lanItems.mp h
  rfl

lemma nodup_items (net : Network) (filter : PeerFilter) :
    ((manualItems net filter ++ lanItems net filter).map PeerInfo.nodeid).Nodup := by
  rw [List.map_append, List.nodup_append]
  refine ⟨?_, ?_, ?_⟩
  · have hsub : ((manualItems net filter).map PeerInfo.nodeid).Sublist
        (net.peerList.map PeerRow.nodeid) := by
      have hkeys : (net.peerList.map (peerInfo net.conns)).map PeerInfo.nodeid =
          net.peerList.map PeerRow.nodeid := List.map_map
      rw [← hkeys]
      exact List.filter_sublist.map _
    exact nodup_peerList.sublist hsub
  · rw [lanItems, List.map_map]
    have hkeys : PeerInfo.nodeid ∘ lanInfo = LanPeer.nodeid := rfl
    rw [hkeys]
    split
    · exact nodup_lanPeers.sublist (List.filter_sublist.map _)
    · exact List.nodup_nil
  · intro n hn n' hn' heq
    subst heq
    obtain ⟨item, hitem, hkey⟩ := List.mem_map.mp hn
    obtain ⟨info, hinfo, rfl⟩ := List.mem_map.mp hn'
    obtain ⟨_, lp, _, rfl, hnew⟩ := mem_lanItems.mp hinfo
    exact hnew item hitem hkey

lemma local_selects_none : manualItems net .local = [] := by
  refine List.eq_nil_iff_forall_not_mem.mpr fun info hinfo => ?_
  obtain ⟨_, _, _, hselected⟩ := mem_manualItems.mp hinfo
  exact hselected

/-- The rows that pass the filter are the whole table where the local network is listed too, unless
the filter is the local one. -/
lemma mem_lanItems_of_whole (h : filter = .local → ∀ lp ∈ net.lanPeers,
    ∀ p ∈ net.peers.table.rows, p.nodeid ≠ lp.nodeid) {info : PeerInfo} :
    info ∈ lanItems net filter ↔ (filter = .all ∨ filter = .local) ∧
      ∃ lp ∈ net.lanPeers, info = lanInfo lp ∧ ∀ p ∈ net.peers.table.rows, p.nodeid ≠ lp.nodeid := by
  rw [mem_lanItems]
  refine and_congr_right fun hlan => exists_congr fun lp => and_congr_right fun hlp =>
    and_congr_right fun _ => ?_
  rcases hlan with rfl | rfl
  · constructor
    · exact fun hnew p hp => hnew _ (mem_manualItems.mpr ⟨p, hp, rfl, trivial⟩)
    · intro hnew item hitem
      obtain ⟨p, hp, rfl, _⟩ := mem_manualItems.mp hitem
      exact hnew p hp
  · rw [local_selects_none]
    exact ⟨fun _ => h rfl lp hlp, fun _ item hitem => (by cases hitem)⟩

theorem peer_list_names_once_iff (D : Daemon σ) (net : Network) (filter : PeerFilter) (s : σ) :
    NamedOnce net filter (listed (peerList (D.on net) filter s).2.1) ↔
      (filter = .local → ∀ lp ∈ net.lanPeers, ∀ p ∈ net.peers.table.rows, p.nodeid ≠ lp.nodeid) := by
  rw [peerList_writes]
  constructor
  · rintro h rfl lp hlp p hp hkey
    have hitem : lanInfo lp ∈ manualItems net .local ++ lanItems net .local := by
      refine List.mem_append_right _ (mem_lanItems.mpr ⟨Or.inr rfl, lp, hlp, rfl, ?_⟩)
      rw [local_selects_none]
      exact fun _ hitem => (by cases hitem)
    obtain ⟨_, lp', hlp', heq, hnew⟩ := (h.mdns _).mp ⟨hitem, rfl⟩
    have hsame : lp.nodeid = lp'.nodeid := congrArg PeerInfo.nodeid heq
    exact hnew p hp (hkey.trans hsame)
  · intro h
    refine ⟨nodup_items net filter, fun info => ?_, fun info => ?_⟩
    · rw [← mem_lanItems_of_whole h, List.mem_append]
      constructor
      · rintro ⟨hmanual | hlan, hsource⟩
        · rw [source_manualItems hmanual] at hsource
          cases hsource
        · exact hlan
      · exact fun hlan => ⟨Or.inr hlan, source_lanItems hlan⟩
    · rw [← mem_manualItems, List.mem_append]
      constructor
      · rintro ⟨hmanual | hlan, hsource⟩
        · exact hmanual
        · rw [source_lanItems hlan] at hsource
          cases hsource
      · exact fun hmanual => ⟨Or.inl hmanual, source_manualItems hmanual⟩

def pairedNeighbour : Network where
  peers := ⟨⟨[⟨Sample.node 2, "alice", 5, none, none⟩], by decide⟩, by decide⟩
  conns := []
  mdns := some ⟨⟨[(Sample.node 2, ⟨Sample.node 2, [], 4433, "wt-02", 5⟩)], by decide⟩, by decide⟩

theorem paired_neighbour_is_listed_as_mdns :
    listed (peerList (newborn.on pairedNeighbour) .local ()).2.1 =
        [⟨Sample.node 2, "wt-02", .mdns, .idle, some 5⟩] ∧
      ¬ NamedOnce pairedNeighbour .local (listed (peerList (newborn.on pairedNeighbour) .local ()).2.1) := by
  have hlisted : listed (peerList (newborn.on pairedNeighbour) .local ()).2.1 =
      [⟨Sample.node 2, "wt-02", .mdns, .idle, some 5⟩] := by
    decide +kernel
  refine ⟨hlisted, fun h => ?_⟩
  rw [hlisted] at h
  obtain ⟨_, lp, _, heq, hnew⟩ := (h.mdns _).mp ⟨List.mem_singleton_self _, rfl⟩
  exact hnew _ (List.mem_singleton_self _) (congrArg PeerInfo.nodeid heq)

end WalkieTalkie.Ipc
