import WalkieTalkie.Lib.Tables
import WalkieTalkie.Proto

/-! The first schema step of the store: the registry of peers, keyed by node id and with unique
names, and the capability tokens, keyed by token id. Deletions and revocations also return the
number of rows they touched; `exp` is stored and compared as a signed 64-bit integer. -/

namespace WalkieTalkie.Store

open Proto Lib

structure PeerRow where
  nodeid : NodeId
  name : String
  addedAtMs : UInt64
  lastSeenMs : Option UInt64
  addrBlob : Option Bytes
deriving DecidableEq

inductive PeerSelectorBytes
  | name (n : String)
  | nodeId (n : NodeId)
deriving DecidableEq

def PeerSelectorBytes.selects : PeerSelectorBytes → PeerRow → Bool
  | .name n, p => p.name = n
  | .nodeId n, p => p.nodeid = n

structure PeerTable where
  table : Table PeerRow NodeId PeerRow.nodeid
  names : (table.rows.map PeerRow.name).Nodup

namespace PeerTable

def empty : PeerTable := ⟨Table.empty, List.nodup_nil⟩

def mergePeer (old new : PeerRow) : PeerRow :=
  { old with name := new.name, addrBlob := new.addrBlob <|> old.addrBlob }

lemma eq_of_name (t : PeerTable) {p q : PeerRow} (hp : p ∈ t.table.rows) (hq : q ∈ t.table.rows)
    (h : p.name = q.name) : p = q :=
  List.inj_on_of_nodup_map t.names hp hq h

lemma nodup_rows (t : Table PeerRow NodeId PeerRow.nodeid) : t.rows.Nodup :=
  List.Nodup.of_map _ t.nodup

lemma names_upsert (t : PeerTable) {r : PeerRow}
    (h : ∀ p ∈ t.table.rows, p.name = r.name → p.nodeid = r.nodeid) :
    ((t.table.upsert mergePeer (fun _ _ => rfl) r).rows.map PeerRow.name).Nodup := by
  rw [List.nodup_map_iff_inj_on (nodup_rows _)]
  intro x hx y hy hn
  rcases Table.mem_upsert.mp hx with ⟨hx', hxk⟩ | ⟨o, ho, hok, rfl⟩ | ⟨hx', hno⟩ <;>
    rcases Table.mem_upsert.mp hy with ⟨hy', hyk⟩ | ⟨o', ho', hok', rfl⟩ | ⟨hy', hno'⟩
  · exact t.eq_of_name hx' hy' hn
  · exact (hxk (h x hx' hn)).elim
  · exact (hxk (h x hx' (hn.trans (congrArg _ hy')))).elim
  · exact (hyk (h y hy' hn.symm)).elim
  · rw [t.table.eq_of_key ho ho' (hok.trans hok'.symm)]
  · exact (hno' o ho hok).elim
  · exact (hyk (h y hy' (hn.symm.trans (congrArg _ hx')))).elim
  · exact (hno o' ho' hok').elim
  · exact hx'.trans hy'.symm

def peerAdd (t : PeerTable) (nodeid : NodeId) (name : String) (addrBlob : Option Bytes)
    (nowMs : UInt64) : Except String PeerTable :=
  if h : ∀ p ∈ t.table.rows, p.name = name → p.nodeid = nodeid then
    .ok ⟨t.table.upsert mergePeer (fun _ _ => rfl) ⟨nodeid, name, nowMs, none, addrBlob⟩,
      t.names_upsert h⟩
  else .error "UNIQUE constraint failed: peers.name"

def peerRemove (t : PeerTable) (sel : PeerSelectorBytes) : PeerTable × ℕ :=
  (⟨t.table.delete sel.selects, t.names.sublist (List.filter_sublist.map _)⟩,
    (t.table.rows.filter sel.selects).length)

def peerTouchSeen (t : PeerTable) (nodeid : NodeId) (nowMs : UInt64) : PeerTable :=
  ⟨t.table.update (fun p => p.nodeid = nodeid) (fun p => { p with lastSeenMs := some nowMs })
      (fun _ => rfl), by
    have hsame : ∀ p : PeerRow, (if p.nodeid = nodeid then { p with lastSeenMs := some nowMs }
        else p).name = p.name := by
      intro p
      split <;> rfl
    simpa [Table.update, Function.comp_def, hsame] using t.names⟩

def peerGet (t : PeerTable) (sel : PeerSelectorBytes) : Option PeerRow :=
  t.table.rows.find? sel.selects

lemma mem_peerAdd {t t' : PeerTable} {nodeid : NodeId} {name : String} {addrBlob : Option Bytes}
    {nowMs : UInt64} (h : t.peerAdd nodeid name addrBlob nowMs = .ok t') {p : PeerRow}
    (hp : p ∈ t'.table.rows) : p ∈ t.table.rows ∨
      (∃ o ∈ t.table.rows, o.nodeid = nodeid ∧
        p = mergePeer o ⟨nodeid, name, nowMs, none, addrBlob⟩) ∨
      p = ⟨nodeid, name, nowMs, none, addrBlob⟩ := by
  rw [peerAdd] at h
  split at h
  · obtain rfl := Except.ok.inj h
    rcases Table.mem_upsert.mp hp with ⟨hp, _⟩ | hp | ⟨hp, _⟩
    · exact Or.inl hp
    · exact Or.inr (Or.inl hp)
    · exact Or.inr (Or.inr hp)
  · cases h

end PeerTable

structure TokenRow where
  id : TokenId
  iss : NodeId
  sub : NodeId
  exp : UInt64
  caps : List Cap
  raw : Bytes
  revoked : Bool
deriving DecidableEq

abbrev TokenTable := Table TokenRow TokenId TokenRow.id

namespace TokenTable

def mergeToken (old new : TokenRow) : TokenRow :=
  { old with raw := new.raw, revoked := new.revoked }

def tokenInsert (t : TokenTable) (row : TokenRow) : TokenTable :=
  t.upsert mergeToken (fun _ _ => rfl) row

def tokenFind (t : TokenTable) (id : TokenId) : Option TokenRow :=
  t.find id

def tokenRevoke (t : TokenTable) (id : TokenId) : TokenTable × ℕ :=
  (t.update (fun r => r.id = id) (fun r => { r with revoked := true }) (fun _ => rfl),
    (t.rows.filter fun r => r.id = id).length)

def newestFirst (r r' : TokenRow) : Prop :=
  r'.exp.toInt64 ≤ r.exp.toInt64

instance : DecidableRel newestFirst :=
  fun r r' => inferInstanceAs (Decidable (r'.exp.toInt64 ≤ r.exp.toInt64))

instance : Std.Total newestFirst := ⟨fun _ _ => Int64.le_total _ _⟩

instance : IsTrans TokenRow newestFirst := ⟨fun _ _ _ h h' => Int64.le_trans h' h⟩

def tokenCandidates (t : TokenTable) (iss sub : NodeId) (nowSecs : UInt64) : List TokenRow :=
  t.rows.filter fun r =>
    r.iss = iss && r.sub = sub && !r.revoked && nowSecs.toInt64 < r.exp.toInt64

def firstWithCap (required : Cap) (rows : List TokenRow) : Option TokenRow :=
  rows.find? fun r => r.caps.contains required

/-- The answers `find_token_with_cap` may give: candidates with equal `exp` come in any order. -/
def FindTokenWithCap (t : TokenTable) (iss sub : NodeId) (required : Cap) (nowSecs : UInt64)
    (answer : Option TokenRow) : Prop :=
  ∃ rows, OrderedBy newestFirst (t.tokenCandidates iss sub nowSecs) rows ∧
    answer = firstWithCap required rows

def findTokenWithCap (t : TokenTable) (iss sub : NodeId) (required : Cap) (nowSecs : UInt64) :
    Option TokenRow :=
  firstWithCap required (orderBy newestFirst (t.tokenCandidates iss sub nowSecs))

lemma findTokenWithCap_answer (t : TokenTable) (iss sub : NodeId) (required : Cap)
    (nowSecs : UInt64) :
    t.FindTokenWithCap iss sub required nowSecs (t.findTokenWithCap iss sub required nowSecs) :=
  ⟨_, orderBy_orderedBy _ _, rfl⟩

lemma mem_tokenInsert {t : TokenTable} {row r : TokenRow} : r ∈ (t.tokenInsert row).rows ↔
    (r ∈ t.rows ∧ r.id ≠ row.id) ∨ (∃ o ∈ t.rows, o.id = row.id ∧ r = mergeToken o row) ∨
      (r = row ∧ ∀ o ∈ t.rows, o.id ≠ row.id) :=
  Table.mem_upsert

lemma mem_tokenRevoke {t : TokenTable} {id : TokenId} {r : TokenRow} :
    r ∈ (t.tokenRevoke id).1.rows ↔
      ∃ o ∈ t.rows, r = if o.id = id then { o with revoked := true } else o := by
  simp [tokenRevoke, Table.mem_update]

lemma mem_tokenCandidates {t : TokenTable} {iss sub : NodeId} {nowSecs : UInt64} {r : TokenRow} :
    r ∈ t.tokenCandidates iss sub nowSecs ↔ r ∈ t.rows ∧ r.iss = iss ∧ r.sub = sub ∧
      r.revoked = false ∧ nowSecs.toInt64 < r.exp.toInt64 := by
  simp [tokenCandidates, and_assoc]

lemma FindTokenWithCap.spec {t : TokenTable} {iss sub : NodeId} {required : Cap}
    {nowSecs : UInt64} {r : TokenRow}
    (h : t.FindTokenWithCap iss sub required nowSecs (some r)) :
    r ∈ t.rows ∧ r.iss = iss ∧ r.sub = sub ∧ r.revoked = false ∧
      nowSecs.toInt64 < r.exp.toInt64 ∧ required ∈ r.caps := by
  obtain ⟨rows, ho, hr⟩ := h
  have hm := ho.mem_iff.mp (List.mem_of_find?_eq_some hr.symm)
  obtain ⟨hmem, hiss, hsub, hrev, hexp⟩ := mem_tokenCandidates.mp hm
  exact ⟨hmem, hiss, hsub, hrev, hexp, by simpa using List.find?_some hr.symm⟩

lemma FindTokenWithCap.isSome {t : TokenTable} {iss sub : NodeId} {required : Cap}
    {nowSecs : UInt64} {answer : Option TokenRow} {r : TokenRow}
    (h : t.FindTokenWithCap iss sub required nowSecs answer)
    (hr : r ∈ t.tokenCandidates iss sub nowSecs) (hc : required ∈ r.caps) :
    answer.isSome = true := by
  obtain ⟨rows, ho, rfl⟩ := h
  rw [firstWithCap, List.find?_isSome]
  exact ⟨r, ho.mem_iff.mpr hr, by simpa using hc⟩

end TokenTable

end WalkieTalkie.Store
