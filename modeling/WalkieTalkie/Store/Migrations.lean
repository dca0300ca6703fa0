import Mathlib.Algebra.Group.Int.Defs
import Mathlib.Algebra.Group.Nat.Defs
import WalkieTalkie.Lib.Runs
import WalkieTalkie.Lib.Signed
import WalkieTalkie.Lib.Upgrades
import WalkieTalkie.Lib.Utf8
import WalkieTalkie.Proto

/-! The schema migrations of the store, as any number of processes run them when they open it. The version
pointer is read outside the transaction that applies the steps, so two openers may apply the same steps,
and an opener of an older release may write an older version over a newer one. -/

namespace WalkieTalkie.Store.Migrations

open Proto Lib Lib.Runs Lib.Upgrades

structure TableObject where
  name : String
  columns : List String
deriving DecidableEq

structure IndexObject where
  name : String
  table : String
  columns : List String
  condition : List String
deriving DecidableEq

structure Schema where
  tables : List TableObject
  indexes : List IndexObject
deriving DecidableEq

namespace Schema

def empty : Schema := ⟨[], []⟩

def hasTable (s : Schema) (name : String) : Bool := s.tables.any fun t => t.name = name

def hasIndex (s : Schema) (name : String) : Bool := s.indexes.any fun i => i.name = name

end Schema

/-- `CREATE TABLE IF NOT EXISTS` and `CREATE INDEX IF NOT EXISTS`. -/
inductive Statement
  | createTable (t : TableObject)
  | createIndex (i : IndexObject)
deriving DecidableEq

def Statement.run (s : Schema) : Statement → Except String Schema
  | .createTable t =>
    if s.hasTable t.name then .ok s
    else if s.hasIndex t.name then .error ("there is already an index named " ++ t.name)
    else .ok { s with tables := s.tables ++ [t] }
  | .createIndex i =>
    match s.tables.find? fun t => t.name = i.table with
    | none => .error ("no such table: main." ++ i.table)
    | some t =>
      if s.hasTable i.name then .error ("there is already a table named " ++ i.name)
      else if s.hasIndex i.name then .ok s
      else
        match (i.columns ++ i.condition).find? fun c => c ∉ t.columns with
        | some c => .error ("no such column: " ++ c)
        | none => .ok { s with indexes := s.indexes ++ [i] }

def metaTable : TableObject := ⟨"meta", ["key", "value"]⟩

def migrations : List (List Statement) :=
  [[.createTable metaTable,
    .createTable ⟨"peers", ["nodeid", "name", "added_at_ms", "last_seen_ms", "addr_blob"]⟩,
    .createTable ⟨"tokens", ["id", "iss", "sub", "exp", "caps", "raw", "revoked"]⟩,
    .createIndex ⟨"tokens_iss_sub", "tokens", ["iss", "sub"], []⟩],
  [.createTable ⟨"messages", ["id_sender", "id_channel", "id_seq", "direction", "channel",
      "peer_nodeid", "payload", "enqueued_at_ms", "delivered_at_ms"]⟩,
    .createIndex ⟨"messages_peer_chan_dir", "messages",
      ["peer_nodeid", "channel", "direction", "enqueued_at_ms"], []⟩,
    .createIndex ⟨"messages_outbox_pending", "messages", ["enqueued_at_ms"],
      ["direction", "delivered_at_ms"]⟩],
  [.createTable ⟨"groups", ["name", "created_at_ms"]⟩,
    .createTable ⟨"agents", ["group_name", "name", "token_hash", "role", "dir", "pid", "status",
      "created_at_ms", "last_seen_ms"]⟩,
    .createTable ⟨"sessions", ["group_name", "name", "prime_agent", "child_agent", "fs_mode",
      "base_dir", "workspace_path", "branch", "status", "created_at_ms"]⟩,
    .createTable ⟨"agent_messages", ["group_name", "session_name", "seq", "from_agent", "to_agent",
      "kind", "payload", "enqueued_at_ms", "consumed_at_ms"]⟩,
    .createIndex ⟨"agent_messages_inbox", "agent_messages",
      ["group_name", "to_agent", "enqueued_at_ms"], []⟩]]

/-- The database file: `version` is the row `schema_version` of the table `meta`. -/
structure File (ρ : Type) where
  schema : Schema
  rows : String → List ρ
  version : Option Bytes

variable {ρ : Type}

def File.execute (f : File ρ) (s : Statement) : Except String (File ρ) :=
  match s.run f.schema with
  | .error e => .error e
  | .ok schema =>
    .ok { f with schema := schema, rows := fun n => if f.schema.hasTable n then f.rows n else [] }

def executeBatch (sql : List Statement) (f : File ρ) : Except String (File ρ) :=
  sql.foldlM File.execute f

def unsigned : List Char → List Char
  | '-' :: digits => digits
  | '+' :: digits => digits
  | digits => digits

def parseI64 (text : List Char) : Option Int64 :=
  if unsigned text = [] ∨ (unsigned text).all Char.isDigit = false then none
  else
    let n : ℤ := Nat.ofDigitChars 10 (unsigned text) 0
    let v := if text.head? = some '-' then -n else n
    if Int64.minValue.toInt ≤ v ∧ v ≤ Int64.maxValue.toInt then some (Int64.ofInt v) else none

def current (f : File ρ) : Int64 :=
  match f.version with
  | none => 0
  | some v => (parseI64 (Utf8.fromUtf8Lossy v).toList).getD 0

def decimal (n : ℕ) : Bytes := Utf8.encodeChars (Nat.toDigits 10 n)

/-- The transaction of `run_migrations`, for a binary with `target` steps. -/
def upgrade (steps : List (List Statement)) (target : ℕ) (from_ : Int64) (f : File ρ) :
    Except String (File ρ) :=
  match runSteps (((steps.take target).drop from_.toUInt64.toNat).map executeBatch) f with
  | .error e => .error e
  | .ok f => .ok { f with version := some (decimal target) }

inductive Phase
  | absent
  | started
  | migrating (current : Int64)
  | opened
  | failed
deriving DecidableEq

structure State (ρ : Type) where
  file : File ρ
  openers : ℕ → Phase

def initial (file : File ρ) : State ρ := ⟨file, fun _ => .absent⟩

def State.goto (st : State ρ) (p : ℕ) (phase : Phase) : State ρ :=
  { st with openers := fun q => if q = p then phase else st.openers q }

inductive Label
  | createMeta (p : ℕ)
  | readVersion (p : ℕ)
  | migrate (p : ℕ)
  | fail (p : ℕ)

section

variable (steps : List (List Statement)) (target : ℕ → ℕ)

def step (st : State ρ) : Label → Option (State ρ)
  | .createMeta p =>
    match st.openers p with
    | .absent =>
      match st.file.execute (.createTable metaTable) with
      | .error _ => some (st.goto p .failed)
      | .ok file => some ({ st with file := file }.goto p .started)
    | _ => none
  | .readVersion p =>
    match st.openers p with
    | .started =>
      if (target p : ℤ) ≤ (current st.file).toInt then some (st.goto p .opened)
      else some (st.goto p (.migrating (current st.file)))
    | _ => none
  | .migrate p =>
    match st.openers p with
    | .migrating from_ =>
      match upgrade steps (target p) from_ st.file with
      | .error _ => some (st.goto p .failed)
      | .ok file => some ({ st with file := file }.goto p .opened)
    | _ => none
  | .fail p =>
    match st.openers p with
    | .opened => none
    | .failed => none
    | _ => some (st.goto p .failed)

end

/-- What a statement leaves, and what makes it do nothing the next time. -/
def Present (s : Schema) : Statement → Prop
  | .createTable t => s.hasTable t.name = true
  | .createIndex i =>
    s.hasTable i.table = true ∧ s.hasIndex i.name = true ∧ s.hasTable i.name = false

section

variable {s s' : Schema} {st st' : Statement}

lemma hasTable_iff {name : String} : s.hasTable name = true ↔ ∃ t ∈ s.tables, t.name = name := by
  simp [Schema.hasTable]

lemma run_cases (h : st.run s = .ok s') :
    (s' = s ∧ Present s st) ∨
    (∃ t, st = .createTable t ∧ s.hasTable t.name = false ∧ s.hasIndex t.name = false ∧
      s' = { s with tables := s.tables ++ [t] }) ∨
    (∃ i, st = .createIndex i ∧ s.hasTable i.table = true ∧ s.hasTable i.name = false ∧
      s' = { s with indexes := s.indexes ++ [i] }) := by
  cases st with
  | createTable t =>
    simp only [Statement.run] at h
    split at h
    · next hhas => exact Or.inl ⟨(Except.ok.inj h).symm, hhas⟩
    · next hno =>
      split at h
      · cases h
      · next hidx =>
        refine Or.inr (Or.inl ⟨t, rfl, ?_, ?_, (Except.ok.inj h).symm⟩)
        · exact (Bool.not_eq_true _).mp hno
        · exact (Bool.not_eq_true _).mp hidx
  | createIndex i =>
    simp only [Statement.run] at h
    split at h
    · cases h
    · next t ht =>
      have htable : s.hasTable i.table = true :=
        hasTable_iff.mpr ⟨t, List.mem_of_find?_eq_some ht, by simpa using List.find?_some ht⟩
      split at h
      · cases h
      · next hname =>
        have hname := (Bool.not_eq_true _).mp hname
        split at h
        · next hhas => exact Or.inl ⟨(Except.ok.inj h).symm, htable, hhas, hname⟩
        · split at h
          · cases h
          · exact Or.inr (Or.inr ⟨i, rfl, htable, hname, (Except.ok.inj h).symm⟩)

lemma hasTable_snoc {t : TableObject} {name : String} :
    Schema.hasTable { s with tables := s.tables ++ [t] } name =
      (s.hasTable name || decide (t.name = name)) := by
  simp [Schema.hasTable]

lemma hasIndex_snoc {i : IndexObject} {name : String} :
    Schema.hasIndex { s with indexes := s.indexes ++ [i] } name =
      (s.hasIndex name || decide (i.name = name)) := by
  simp [Schema.hasIndex]

lemma present_run (h : st.run s = .ok s') : Present s' st := by
  rcases run_cases h with ⟨rfl, hp⟩ | ⟨t, rfl, _, _, rfl⟩ | ⟨i, rfl, htable, hname, rfl⟩
  · exact hp
  · simp [Present, hasTable_snoc]
  · exact ⟨htable, by simp [hasIndex_snoc], hname⟩

lemma present_kept (hp : Present s st) (h : st'.run s = .ok s') : Present s' st := by
  rcases run_cases h with ⟨rfl, _⟩ | ⟨t, rfl, _, hidx, rfl⟩ | ⟨i, rfl, _, _, rfl⟩
  · exact hp
  · cases st with
    | createTable t' =>
      have hp : s.hasTable t'.name = true := hp
      simp [Present, hasTable_snoc, hp]
    | createIndex j =>
      obtain ⟨htable, hhas, hname⟩ := hp
      refine ⟨by simp [hasTable_snoc, htable], hhas, ?_⟩
      have hne : t.name ≠ j.name := by
        intro heq
        rw [heq, hhas] at hidx
        cases hidx
      simp [hasTable_snoc, hname, hne]
  · cases st with
    | createTable t' => exact hp
    | createIndex j =>
      obtain ⟨htable, hhas, hname⟩ := hp
      exact ⟨htable, by simp [hasIndex_snoc, hhas], hname⟩

lemma run_present (hp : Present s st) : st.run s = .ok s := by
  cases st with
  | createTable t => exact if_pos hp
  | createIndex i =>
    obtain ⟨htable, hhas, hname⟩ := hp
    obtain ⟨t, ht, heq⟩ := hasTable_iff.mp htable
    cases hfind : s.tables.find? fun t => t.name = i.table with
    | none =>
      have hno := List.find?_eq_none.mp hfind t ht
      simp [heq] at hno
    | some t' => simp [Statement.run, hfind, hhas, hname]

def batch (sql : List Statement) (s : Schema) : Except String Schema :=
  sql.foldlM (fun s st => st.run s) s

lemma present_batch {sql : List Statement} (h : batch sql s = .ok s') :
    (∀ st ∈ sql, Present s' st) ∧ ∀ st, Present s st → Present s' st := by
  induction sql generalizing s with
  | nil =>
    obtain rfl := Except.ok.inj h
    exact ⟨fun st hst => (by cases hst), fun st hp => hp⟩
  | cons st₀ sql ih =>
    rw [batch, List.foldlM_cons] at h
    cases hrun : st₀.run s with
    | error e =>
      rw [hrun] at h
      cases h
    | ok t =>
      rw [hrun] at h
      obtain ⟨hall, hkept⟩ := ih h
      refine ⟨fun st hst => ?_, fun st hp => hkept st (present_kept hp hrun)⟩
      rcases List.mem_cons.mp hst with rfl | hst
      · exact hkept _ (present_run hrun)
      · exact hall st hst

lemma batch_present {sql : List Statement} (h : ∀ st ∈ sql, Present s st) : batch sql s = .ok s := by
  induction sql with
  | nil => rfl
  | cons st sql ih =>
    rw [batch, List.foldlM_cons, run_present (h st (List.mem_cons_self ..))]
    exact ih fun st' hst => h st' (List.mem_cons_of_mem _ hst)

lemma present_runSteps {steps : List (List Statement)} (h : runSteps (steps.map batch) s = .ok s') :
    (∀ sql ∈ steps, ∀ st ∈ sql, Present s' st) ∧ ∀ st, Present s st → Present s' st := by
  induction steps generalizing s with
  | nil =>
    obtain rfl := Except.ok.inj h
    exact ⟨fun sql hsql => (by cases hsql), fun st hp => hp⟩
  | cons sql₀ steps ih =>
    rw [runSteps, List.map_cons, List.foldlM_cons] at h
    cases hrun : batch sql₀ s with
    | error e =>
      rw [hrun] at h
      cases h
    | ok t =>
      rw [hrun] at h
      obtain ⟨hall, hkept⟩ := ih h
      obtain ⟨hfirst, hold⟩ := present_batch hrun
      refine ⟨fun sql hsql st hst => ?_, fun st hp => hkept st (hold st hp)⟩
      rcases List.mem_cons.mp hsql with rfl | hsql
      · exact hkept st (hfirst st hst)
      · exact hall sql hsql st hst

lemma settles (steps : List (List Statement)) (s₀ : Schema) : Settles (steps.map batch) s₀ := by
  intro m s hs f hf
  rw [← List.map_take] at hs hf
  obtain ⟨sql, hsql, rfl⟩ := List.mem_map.mp hf
  exact batch_present ((present_runSteps hs).1 sql hsql)

end

def Tidy (f : File ρ) : Prop := ∀ n, f.schema.hasTable n = false → f.rows n = []

section

variable {f : File ρ}

lemma execute_tidy (ht : Tidy f) (st : Statement) :
    f.execute st = (st.run f.schema).map fun s => { f with schema := s } := by
  rw [File.execute]
  cases st.run f.schema with
  | error e => rfl
  | ok s =>
    have hrows : (fun n => if f.schema.hasTable n then f.rows n else []) = f.rows := by
      funext n
      split
      · rfl
      · next hno => exact (ht n ((Bool.not_eq_true _).mp hno)).symm
    simp only [hrows, Except.map]

lemma Tidy.extend {s : Schema} (ht : Tidy f)
    (h : ∀ st, Present f.schema st → Present s st) : Tidy { f with schema := s } := by
  intro n hn
  refine ht n ((Bool.not_eq_true _).mp fun hhas => ?_)
  have hkept : s.hasTable n = true := h (.createTable ⟨n, []⟩) hhas
  exact Bool.noConfusion (hkept.symm.trans hn)

lemma executeBatch_tidy (ht : Tidy f) (sql : List Statement) :
    executeBatch sql f = (batch sql f.schema).map fun s => { f with schema := s } := by
  induction sql generalizing f with
  | nil => rfl
  | cons st sql ih =>
    rw [executeBatch, batch, List.foldlM_cons, List.foldlM_cons, execute_tidy ht]
    cases hrun : st.run f.schema with
    | error e => rfl
    | ok s => exact ih (ht.extend fun st hp => present_kept hp hrun)

lemma runSteps_tidy (ht : Tidy f) (steps : List (List Statement)) :
    runSteps (steps.map executeBatch) f =
      (runSteps (steps.map batch) f.schema).map fun s => { f with schema := s } := by
  induction steps generalizing f with
  | nil => rfl
  | cons sql steps ih =>
    simp only [runSteps, List.map_cons, List.foldlM_cons]
    rw [executeBatch_tidy ht]
    cases hrun : batch sql f.schema with
    | error e => rfl
    | ok s => exact ih (ht.extend (present_batch hrun).2)

end

section

lemma isDigit_toDigits {n : ℕ} : (Nat.toDigits 10 n).all Char.isDigit = true :=
  List.all_eq_true.mpr fun _ hc => Nat.isDigit_of_mem_toDigits (by decide) (by decide) hc

lemma unsigned_digits {text : List Char} (h : text.all Char.isDigit = true) :
    unsigned text = text ∧ text.head? ≠ some '-' := by
  cases text with
  | nil => exact ⟨rfl, by simp⟩
  | cons c ds =>
    have hc : c.isDigit = true := List.all_eq_true.mp h c (List.mem_cons_self ..)
    have hminus : c ≠ '-' := by
      rintro rfl
      cases hc
    have hplus : c ≠ '+' := by
      rintro rfl
      cases hc
    refine ⟨?_, by simpa using hminus⟩
    rw [unsigned]
    · intro digits heq
      exact hminus (List.cons.inj heq).1
    · intro digits heq
      exact hplus (List.cons.inj heq).1

lemma parseI64_toDigits {n : ℕ} (h : n < 2 ^ 63) :
    parseI64 (Nat.toDigits 10 n) = some (Int64.ofInt n) := by
  obtain ⟨hsame, hsign⟩ := unsigned_digits (@isDigit_toDigits n)
  have hmin : Int64.minValue.toInt = -2 ^ 63 := rfl
  have hmax : Int64.maxValue.toInt = 2 ^ 63 - 1 := rfl
  rw [parseI64, hsame, if_neg (by simp [isDigit_toDigits, Nat.toDigits_ne_nil])]
  simp only [Nat.ofDigitChars_ten_toDigits, if_neg hsign]
  rw [if_pos (by omega)]

lemma current_decimal {f : File ρ} {n : ℕ} (h : n < 2 ^ 63) (hv : f.version = some (decimal n)) :
    (current f).toInt = n ∧ (current f).toUInt64.toNat = n := by
  have htext : (Utf8.fromUtf8Lossy (decimal n)).toList = Nat.toDigits 10 n := by
    rw [decimal, Utf8.fromUtf8Lossy_encodeChars, String.toList_ofList]
  have hvalue : current f = Int64.ofInt n := by
    rw [current, hv]
    simp only [htext, parseI64_toDigits h, Option.getD_some]
  have hint : (Int64.ofInt n).toInt = n := by
    have hmin : Int64.minValue.toInt = -2 ^ 63 := rfl
    have hmax : Int64.maxValue.toInt = 2 ^ 63 - 1 := rfl
    exact Int64.toInt_ofInt_of_le (by omega) (by omega)
  have hcast := Signed.toInt_toInt64 (Int64.ofInt n).toUInt64
  rw [Int64.toInt64_toUInt64, hint] at hcast
  have hlt := (Int64.ofInt n).toUInt64.toNat_lt
  rw [hvalue]
  refine ⟨hint, ?_⟩
  split at hcast
  · omega
  · omega

end

def base : Schema := ⟨[metaTable], []⟩

def UpTo (steps : List (List Statement)) (k : ℕ) (s : Schema) : Prop :=
  runSteps ((steps.map batch).take k) base = .ok s

/-- The steps of all releases run one after another on a new database. -/
structure Sound (steps : List (List Statement)) : Prop where
  runs : ∃ s, UpTo steps steps.length s
  length : steps.length < 2 ^ 63

/-- A file that some release has left: nothing yet, or the schema of a version that the pointer, if
there is one, does not exceed. -/
structure LeftAt (steps : List (List Statement)) (m : Option ℕ) (f : File ρ) : Prop where
  fresh : m = none → f.schema = Schema.empty
  upTo : ∀ k, m = some k → k ≤ steps.length ∧ UpTo steps k f.schema
  version : ∀ v, f.version = some v → ∃ k n, m = some k ∧ n ≤ k ∧ v = decimal n
  tidy : Tidy f

structure Stands (steps : List (List Statement)) (target : ℕ → ℕ) (m : Option ℕ) (st : State ρ) :
    Prop where
  file : LeftAt steps m st.file
  began : ∀ p, st.openers p ≠ .absent → st.openers p ≠ .failed → ∃ k, m = some k
  read : ∀ p c, st.openers p = .migrating c → ∃ k, m = some k ∧ c.toUInt64.toNat ≤ k
  opened : ∀ p, st.openers p = .opened → ∃ k, m = some k ∧ target p ≤ k

section

variable {steps : List (List Statement)} {target : ℕ → ℕ} {f : File ρ} {m : Option ℕ} {k : ℕ}

lemma Sound.upTo (h : Sound steps) (hk : k ≤ steps.length) : ∃ s, UpTo steps k s := by
  obtain ⟨s, hs⟩ := h.runs
  obtain ⟨t, ht, _⟩ := runSteps_take_of_le hs hk
  exact ⟨t, ht⟩

lemma LeftAt.current (h : LeftAt steps m f) (hs : Sound steps) (hk : m = some k) :
    ∃ n, n ≤ k ∧ (current f).toInt = n ∧ (Migrations.current f).toUInt64.toNat = n := by
  cases hv : f.version with
  | none =>
    refine ⟨0, Nat.zero_le _, ?_⟩
    rw [Migrations.current, hv]
    exact ⟨rfl, rfl⟩
  | some v =>
    obtain ⟨k', n, hk', hn, rfl⟩ := h.version v hv
    obtain rfl := Option.some.inj (hk.symm.trans hk')
    have hlt : n < 2 ^ 63 := by
      have hle := (h.upTo k hk).1
      have hlen := hs.length
      omega
    exact ⟨n, hn, current_decimal hlt hv⟩

lemma LeftAt.createMeta (h : LeftAt steps m f) :
    ∃ g k, f.execute (.createTable metaTable) = .ok g ∧ LeftAt steps (some k) g ∧
      g.rows = f.rows ∧ ∀ j, m = some j → j = k := by
  cases hm : m with
  | none =>
    have hrun : Statement.run f.schema (.createTable metaTable) = .ok base := by
      rw [h.fresh hm]
      rfl
    refine ⟨{ f with schema := base }, 0, ?_, ⟨?_, ?_, ?_, ?_⟩, rfl, ?_⟩
    · rw [execute_tidy h.tidy, hrun]
      rfl
    · intro hno
      cases hno
    · intro k hk
      obtain rfl := Option.some.inj hk
      exact ⟨Nat.zero_le _, rfl⟩
    · intro v hv
      obtain ⟨k, _, hk, _⟩ := h.version v hv
      rw [hm] at hk
      cases hk
    · exact h.tidy.extend fun st hp => present_kept hp hrun
    · intro j hj
      cases hj
  | some k =>
    have hmeta : Present f.schema (.createTable metaTable) := by
      have hrun := (h.upTo k hm).2
      rw [UpTo, ← List.map_take] at hrun
      have hbase : base.hasTable metaTable.name = true := rfl
      exact (present_runSteps hrun).2 (.createTable metaTable) hbase
    refine ⟨f, k, ?_, hm ▸ h, rfl, fun j hj => (Option.some.inj hj).symm⟩
    rw [execute_tidy h.tidy, run_present hmeta]
    rfl

lemma LeftAt.upgrade {n : ℕ} {from_ : Int64} (h : LeftAt steps (some k) f) (hs : Sound steps)
    (hn : n ≤ steps.length) (hfrom : from_.toUInt64.toNat ≤ k) :
    ∃ g, upgrade steps n from_ f = .ok g ∧ LeftAt steps (some (max k n)) g ∧ g.rows = f.rows := by
  obtain ⟨hle, hup⟩ := h.upTo k rfl
  have hmax : max k n ≤ steps.length := Nat.max_le.mpr ⟨hle, hn⟩
  obtain ⟨s, hnew⟩ := hs.upTo hmax
  have hrun := catch_up (settles steps base) hup hnew hfrom
  rw [← List.map_take, ← List.map_drop] at hrun
  refine ⟨{ f with schema := s, version := some (decimal n) }, ?_, ⟨?_, ?_, ?_, ?_⟩, rfl⟩
  · rw [Migrations.upgrade, runSteps_tidy h.tidy, hrun]
    rfl
  · intro hno
    cases hno
  · intro j hj
    obtain rfl := Option.some.inj hj
    exact ⟨hmax, hnew⟩
  · intro v hv
    obtain rfl := Option.some.inj hv
    exact ⟨_, n, rfl, Nat.le_max_right .., rfl⟩
  · have hkept := h.tidy.extend (present_runSteps hrun).2
    exact hkept

lemma goto_cases {st : State ρ} {p q : ℕ} {phase phase' : Phase}
    (h : (st.goto p phase).openers q = phase') :
    (q = p ∧ phase = phase') ∨ (q ≠ p ∧ st.openers q = phase') := by
  rw [State.goto] at h
  dsimp only at h
  split at h
  · next hq => exact Or.inl ⟨hq, h⟩
  · next hq => exact Or.inr ⟨hq, h⟩

lemma Stands.goto {st : State ρ} {g : File ρ} {p : ℕ} {phase : Phase} {m' : Option ℕ}
    (h : Stands steps target m st) (hg : LeftAt steps m' g)
    (hmono : ∀ j, m = some j → ∃ k, m' = some k ∧ j ≤ k)
    (hbegan : phase ≠ .failed → ∃ k, m' = some k)
    (hread : ∀ c, phase = .migrating c → ∃ k, m' = some k ∧ c.toUInt64.toNat ≤ k)
    (hopened : phase = .opened → ∃ k, m' = some k ∧ target p ≤ k) :
    Stands steps target m' ({ st with file := g }.goto p phase) where
  file := hg
  began q hq hq' := by
    rcases @goto_cases ρ { st with file := g } p q phase _ rfl with ⟨rfl, hphase⟩ | ⟨_, hphase⟩
    · exact hbegan fun hf => hq' (hphase.symm.trans hf)
    · rw [← hphase] at hq hq'
      obtain ⟨j, hj⟩ := h.began q hq hq'
      obtain ⟨k, hk, _⟩ := hmono j hj
      exact ⟨k, hk⟩
  read q c hc := by
    rcases goto_cases hc with ⟨rfl, hphase⟩ | ⟨_, hphase⟩
    · exact hread c hphase
    · obtain ⟨j, hj, hle⟩ := h.read q c hphase
      obtain ⟨k, hk, hjk⟩ := hmono j hj
      exact ⟨k, hk, hle.trans hjk⟩
  opened q hq := by
    rcases goto_cases hq with ⟨rfl, hphase⟩ | ⟨_, hphase⟩
    · exact hopened hphase
    · obtain ⟨j, hj, hle⟩ := h.opened q hphase
      obtain ⟨k, hk, hjk⟩ := hmono j hj
      exact ⟨k, hk, hle.trans hjk⟩

def Advances (steps : List (List Statement)) (target : ℕ → ℕ) (m : Option ℕ) (a : Label)
    (st st' : State ρ) : Prop :=
  ∃ m', Stands steps target m' st' ∧ (∀ j, m = some j → ∃ k, m' = some k ∧ j ≤ k) ∧
    st'.file.rows = st.file.rows ∧
    ∀ p, st'.openers p = .failed → st.openers p = .failed ∨ a = .fail p

lemma goto_failed {st : State ρ} {g : File ρ} {p q : ℕ} {phase : Phase} {a : Label}
    (hne : phase ≠ .failed) (hq : ({ st with file := g }.goto p phase).openers q = .failed) :
    st.openers q = .failed ∨ a = .fail q := by
  rcases goto_cases hq with ⟨_, hphase⟩ | ⟨_, hphase⟩
  · exact (hne hphase).elim
  · exact Or.inl hphase

section

variable {st st' : State ρ} {p : ℕ}

lemma Stands.createMeta (h : Stands steps target m st)
    (ha : step steps target st (.createMeta p) = some st') :
    Advances steps target m (.createMeta p) st st' := by
  simp only [Migrations.step] at ha
  split at ha
  · obtain ⟨g, k, hg, hleft, hrows, hsame⟩ := h.file.createMeta
    rw [hg] at ha
    obtain rfl := Option.some.inj ha
    have hmono : ∀ j, m = some j → ∃ k', some k = some k' ∧ j ≤ k' :=
      fun j hj => ⟨k, rfl, Nat.le_of_eq (hsame j hj)⟩
    refine ⟨some k, h.goto hleft hmono (fun _ => ⟨k, rfl⟩) ?_ ?_, hmono, hrows,
      fun _ => goto_failed Phase.noConfusion⟩
    · intro c hc
      cases hc
    · intro hc
      cases hc
  · cases ha

lemma Stands.readVersion (h : Stands steps target m st) (hs : Sound steps)
    (ha : step steps target st (.readVersion p) = some st') :
    Advances steps target m (.readVersion p) st st' := by
  simp only [Migrations.step] at ha
  split at ha
  · next hp =>
    obtain ⟨k, hk⟩ := h.began p (by simp [hp]) (by simp [hp])
    obtain ⟨n, hn, hint, hnat⟩ := h.file.current hs hk
    have hmono : ∀ j, m = some j → ∃ k', m = some k' ∧ j ≤ k' := fun j hj => ⟨j, hj, le_rfl⟩
    split at ha
    · next hle =>
      obtain rfl := Option.some.inj ha
      refine ⟨m, h.goto h.file hmono (fun _ => ⟨k, hk⟩) ?_ (fun _ => ⟨k, hk, ?_⟩), hmono, rfl,
        fun _ => goto_failed Phase.noConfusion⟩
      · intro c hc
        cases hc
      · rw [hint] at hle
        omega
    · obtain rfl := Option.some.inj ha
      refine ⟨m, h.goto h.file hmono (fun _ => ⟨k, hk⟩) ?_ ?_, hmono, rfl,
        fun _ => goto_failed Phase.noConfusion⟩
      · intro c hc
        obtain rfl := Phase.migrating.inj hc
        exact ⟨k, hk, by rwa [hnat]⟩
      · intro hc
        cases hc
  · cases ha

lemma Stands.migrate (h : Stands steps target m st) (hs : Sound steps)
    (ht : target p ≤ steps.length) (ha : step steps target st (.migrate p) = some st') :
    Advances steps target m (.migrate p) st st' := by
  simp only [Migrations.step] at ha
  split at ha
  · next c hp =>
    obtain ⟨k, rfl, hle⟩ := h.read p c hp
    obtain ⟨g, hg, hleft, hrows⟩ := h.file.upgrade hs ht hle
    rw [hg] at ha
    obtain rfl := Option.some.inj ha
    have hmono : ∀ j, some k = some j → ∃ k', some (max k (target p)) = some k' ∧ j ≤ k' := by
      intro j hj
      obtain rfl := Option.some.inj hj
      exact ⟨_, rfl, Nat.le_max_left ..⟩
    refine ⟨_, h.goto hleft hmono (fun _ => ⟨_, rfl⟩) ?_ (fun _ => ⟨_, rfl, Nat.le_max_right ..⟩),
      hmono, hrows, fun _ => goto_failed Phase.noConfusion⟩
    intro c' hc
    cases hc
  · cases ha

lemma Stands.fail (h : Stands steps target m st)
    (ha : step steps target st (.fail p) = some st') : Advances steps target m (.fail p) st st' := by
  have hst : st' = { st with file := st.file }.goto p .failed := by
    simp only [Migrations.step] at ha
    split at ha
    · cases ha
    · cases ha
    · exact (Option.some.inj ha).symm
  subst hst
  have hmono : ∀ j, m = some j → ∃ k', m = some k' ∧ j ≤ k' := fun j hj => ⟨j, hj, le_rfl⟩
  refine ⟨m, h.goto h.file hmono (fun hne => (hne rfl).elim) ?_ ?_, hmono, rfl, fun q hq => ?_⟩
  · intro c hc
    cases hc
  · intro hc
    cases hc
  · rcases goto_cases hq with ⟨rfl, _⟩ | ⟨_, hphase⟩
    · exact Or.inr rfl
    · exact Or.inl hphase

end

lemma Stands.step {st st' : State ρ} {a : Label} (h : Stands steps target m st)
    (hs : Sound steps) (ht : ∀ p, target p ≤ steps.length)
    (ha : step steps target st a = some st') : Advances steps target m a st st' := by
  cases a with
  | createMeta p => exact h.createMeta ha
  | readVersion p => exact h.readVersion hs ha
  | migrate p => exact h.migrate hs (ht p) ha
  | fail p => exact h.fail ha

lemma Stands.run {st st' : State ρ} {labels : List Label} (h : Stands steps target m st)
    (hs : Sound steps) (ht : ∀ p, target p ≤ steps.length)
    (hr : Run (Fires (Migrations.step steps target)) st labels st') :
    ∃ m', Stands steps target m' st' ∧ (∀ j, m = some j → ∃ k, m' = some k ∧ j ≤ k) ∧
      st'.file.rows = st.file.rows ∧
      ∀ p, st'.openers p = .failed → st.openers p = .failed ∨ .fail p ∈ labels := by
  induction hr generalizing m with
  | nil => exact ⟨m, h, fun j hj => ⟨j, hj, le_rfl⟩, rfl, fun p hp => Or.inl hp⟩
  | cons ha _ ih =>
    obtain ⟨m₁, h₁, hmono₁, hrows₁, hfail₁⟩ := h.step hs ht ha
    obtain ⟨m₂, h₂, hmono₂, hrows₂, hfail₂⟩ := ih h₁
    refine ⟨m₂, h₂, fun j hj => ?_, hrows₂.trans hrows₁, fun p hp => ?_⟩
    · obtain ⟨j₁, hj₁, hle₁⟩ := hmono₁ j hj
      obtain ⟨j₂, hj₂, hle₂⟩ := hmono₂ j₁ hj₁
      exact ⟨j₂, hj₂, hle₁.trans hle₂⟩
    · rcases hfail₂ p hp with hp | hp
      · rcases hfail₁ p hp with hp | rfl
        · exact Or.inl hp
        · exact Or.inr (List.mem_cons_self ..)
      · exact Or.inr (List.mem_cons_of_mem _ hp)

lemma stands_initial (h : LeftAt steps m f) : Stands steps target m (initial f) where
  file := h
  began p hp := (hp rfl).elim
  read p c hc := by cases hc
  opened p hp := by cases hp

end

section

def laterSteps : List (List Statement) := migrations ++ [[.createTable ⟨"audit", ["entry"]⟩]]

def releases : ℕ → ℕ
  | 0 => 3
  | 1 => 4
  | _ => 0

def newFile : File ℕ := ⟨Schema.empty, fun _ => [], none⟩

def downgrade : List Label :=
  [.createMeta 0, .readVersion 0, .createMeta 1, .readVersion 1, .migrate 1, .migrate 0]

lemma sound_laterSteps : Sound laterSteps where
  runs := by
    have hok : (runSteps ((laterSteps.map batch).take laterSteps.length) base).isOk = true := by
      decide +kernel
    cases hrun : runSteps ((laterSteps.map batch).take laterSteps.length) base with
    | error e =>
      rw [hrun] at hok
      cases hok
    | ok s => exact ⟨s, hrun⟩
  length := by decide

lemma releases_le (p : ℕ) : releases p ≤ laterSteps.length := by
  rcases p with _ | _ | p
  · decide
  · decide
  · exact Nat.zero_le _

lemma leftAt_newFile : LeftAt laterSteps none newFile where
  fresh _ := rfl
  upTo k hk := by cases hk
  version v hv := by cases hv
  tidy _ _ := rfl

end

end WalkieTalkie.Store.Migrations
