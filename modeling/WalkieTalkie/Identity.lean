import WalkieTalkie.Lib.Runs
import WalkieTalkie.Lib.Utf8
import WalkieTalkie.Proto

/-! The key file of an installation, as any number of processes load or create it. The file is created
exclusively and then written, so it may be found while it is still short; the file of the public key is
written after it. A process may fail or be killed between any two writes. -/

namespace WalkieTalkie.Identity

open Proto Lib Lib.Runs

abbrev Seed := Vector UInt8 32

inductive Phase
  | absent
  | loading
  | creating
  | writing (written : ℕ)
  | publishing (written : Option ℕ)
  | done (seed : Seed)
  | failed
deriving DecidableEq

structure State where
  secretKey : Option Bytes
  publicKey : Option Bytes
  procs : ℕ → Phase

def initial : State := ⟨none, none, fun _ => .absent⟩

def State.goto (st : State) (p : ℕ) (phase : Phase) : State :=
  { st with procs := fun q => if q = p then phase else st.procs q }

inductive Label
  | loadOrCreate (p : ℕ)
  | load (p : ℕ)
  | readSeed (p : ℕ)
  | openNew (p : ℕ)
  | writeSeed (p n : ℕ)
  | createPublic (p : ℕ)
  | writePublic (p n : ℕ)
  | fail (p : ℕ)

/-- `read_exact` of 32 bytes, which leaves the rest of a longer file unread. -/
def readSeed (content : Option Bytes) : Option Seed :=
  match content with
  | none => none
  | some bytes =>
    if h : (bytes.take 32).length = 32 then some ⟨(bytes.take 32).toArray, h⟩ else none

section

variable (generate : ℕ → Seed) (pubkey : Seed → NodeId)

def publicText (seed : Seed) : Bytes :=
  Utf8.encodeChars (hexEncode (pubkey seed).bytes.toList ++ "\n").toList

def step (st : State) : Label → Option State
  | .loadOrCreate p =>
    match st.procs p with
    | .absent => some (st.goto p (if st.secretKey.isSome then .loading else .creating))
    | _ => none
  | .load p =>
    match st.procs p with
    | .absent => some (st.goto p .loading)
    | _ => none
  | .readSeed p =>
    match st.procs p with
    | .loading =>
      match readSeed st.secretKey with
      | none => some (st.goto p .failed)
      | some seed => some (st.goto p (.done seed))
    | _ => none
  | .openNew p =>
    match st.procs p with
    | .creating =>
      if st.secretKey.isSome then some (st.goto p .failed)
      else some ({ st with secretKey := some [] }.goto p (.writing 0))
    | _ => none
  | .writeSeed p n =>
    match st.procs p with
    | .writing k =>
      if k + n < 32 then
        some ({ st with secretKey := some ((generate p).toList.take (k + n)) }.goto p (.writing (k + n)))
      else some ({ st with secretKey := some (generate p).toList }.goto p (.publishing none))
    | _ => none
  | .createPublic p =>
    match st.procs p with
    | .publishing none => some ({ st with publicKey := some [] }.goto p (.publishing (some 0)))
    | _ => none
  | .writePublic p n =>
    match st.procs p with
    | .publishing (some k) =>
      let text := publicText pubkey (generate p)
      if k + n < text.length then
        some ({ st with publicKey := some (text.take (k + n)) }.goto p (.publishing (some (k + n))))
      else some ({ st with publicKey := some text }.goto p (.done (generate p)))
    | _ => none
  | .fail p =>
    match st.procs p with
    | .done _ => none
    | .failed => none
    | _ => some (st.goto p .failed)

end

/-- The process that created the file has written `k` bytes of its seed. -/
structure Owned (generate : ℕ → Seed) (pubkey : Seed → NodeId) (st : State) (c k : ℕ) : Prop where
  content : st.secretKey = some ((generate c).toList.take k)
  length : k ≤ 32
  writing : ∀ p n, st.procs p = .writing n → p = c ∧ n = k
  publishing : ∀ p n, st.procs p = .publishing n → p = c ∧ k = 32
  done : ∀ p seed, st.procs p = .done seed → k = 32 ∧ seed = generate c
  text : ∀ text, st.publicKey = some text → k = 32 ∧ text <+: publicText pubkey (generate c)

structure Unowned (st : State) : Prop where
  secret : st.secretKey = none
  text : st.publicKey = none
  idle : ∀ p, st.procs p = .absent ∨ st.procs p = .loading ∨ st.procs p = .creating ∨
    st.procs p = .failed

variable {generate : ℕ → Seed} {pubkey : Seed → NodeId} {st st' : State} {c k : ℕ} {a : Label}

lemma goto_cases {p q : ℕ} {phase phase' : Phase} (h : (st.goto p phase).procs q = phase') :
    (q = p ∧ phase = phase') ∨ (q ≠ p ∧ st.procs q = phase') := by
  rw [State.goto] at h
  dsimp only at h
  split at h
  · next hq => exact Or.inl ⟨hq, h⟩
  · next hq => exact Or.inr ⟨hq, h⟩

lemma readSeed_take {seed : Seed} (hk : k ≤ 32) :
    readSeed (some (seed.toList.take k)) = if k = 32 then some seed else none := by
  have hlen : seed.toList.length = 32 := Vector.length_toList ..
  have htake : (seed.toList.take k).take 32 = seed.toList.take k := by
    rw [List.take_take, Nat.min_eq_right hk]
  simp only [readSeed, htake]
  split
  · next h =>
    rw [List.length_take, hlen, Nat.min_eq_left hk] at h
    subst h
    have hall : seed.toList.take 32 = seed.toList := List.take_of_length_le (Nat.le_of_eq hlen)
    rw [if_pos rfl]
    refine congrArg some (Vector.toArray_inj.mp ?_)
    simp only [hall]
    rfl
  · next h =>
    rw [List.length_take, hlen, Nat.min_eq_left hk] at h
    rw [if_neg h]

lemma Unowned.goto {p : ℕ} {phase : Phase} (h : Unowned st)
    (hphase : phase = .loading ∨ phase = .creating ∨ phase = .failed) :
    Unowned (st.goto p phase) where
  secret := h.secret
  text := h.text
  idle q := by
    rcases @goto_cases st p q phase _ rfl with ⟨_, hq⟩ | ⟨_, hq⟩
    · rw [← hq]
      rcases hphase with rfl | rfl | rfl
      · exact Or.inr (Or.inl rfl)
      · exact Or.inr (Or.inr (Or.inl rfl))
      · exact Or.inr (Or.inr (Or.inr rfl))
    · rw [← hq]
      exact h.idle q

lemma Unowned.openNew {p : ℕ} (h : Unowned st) :
    Owned generate pubkey ({ st with secretKey := some [] }.goto p (.writing 0)) p 0 where
  content := rfl
  length := Nat.zero_le _
  writing q n hq := by
    rcases goto_cases hq with ⟨rfl, hphase⟩ | ⟨_, hphase⟩
    · exact ⟨rfl, (Phase.writing.inj hphase).symm⟩
    · have hidle := h.idle q
      simp_all
  publishing q n hq := by
    rcases goto_cases hq with ⟨_, hphase⟩ | ⟨_, hphase⟩
    · cases hphase
    · have hidle := h.idle q
      simp_all
  done q seed hq := by
    rcases goto_cases hq with ⟨_, hphase⟩ | ⟨_, hphase⟩
    · cases hphase
    · have hidle := h.idle q
      simp_all
  text text htext := by
    have hno := h.text
    simp_all [State.goto]

lemma Unowned.step (h : Unowned st) (ha : step generate pubkey st a = some st') :
    Unowned st' ∨ ∃ c, Owned generate pubkey st' c 0 := by
  have hread : readSeed st.secretKey = none := by
    rw [h.secret]
    rfl
  cases a with
  | loadOrCreate p =>
    simp only [Identity.step] at ha
    split at ha
    · rw [h.secret] at ha
      obtain rfl := Option.some.inj ha
      exact Or.inl (h.goto (Or.inr (Or.inl rfl)))
    · cases ha
  | load p =>
    simp only [Identity.step] at ha
    split at ha
    · obtain rfl := Option.some.inj ha
      exact Or.inl (h.goto (Or.inl rfl))
    · cases ha
  | readSeed p =>
    simp only [Identity.step, hread] at ha
    split at ha
    · obtain rfl := Option.some.inj ha
      exact Or.inl (h.goto (Or.inr (Or.inr rfl)))
    · cases ha
  | openNew p =>
    simp only [Identity.step] at ha
    split at ha
    · rw [h.secret] at ha
      obtain rfl := Option.some.inj ha
      exact Or.inr ⟨p, h.openNew⟩
    · cases ha
  | writeSeed p n | createPublic p | writePublic p n =>
    have hidle := h.idle p
    simp only [Identity.step] at ha
    split at ha
    · next hp => simp_all
    · cases ha
  | fail p =>
    simp only [Identity.step] at ha
    split at ha
    · cases ha
    · cases ha
    · obtain rfl := Option.some.inj ha
      exact Or.inl (h.goto (Or.inr (Or.inr rfl)))

lemma Owned.goto {p : ℕ} {phase : Phase} (h : Owned generate pubkey st c k)
    (hwriting : ∀ n, phase ≠ .writing n) (hpublishing : ∀ n, phase ≠ .publishing n)
    (hdone : ∀ seed, phase = .done seed → k = 32 ∧ seed = generate c) :
    Owned generate pubkey (st.goto p phase) c k where
  content := h.content
  length := h.length
  writing q n hq := by
    rcases goto_cases hq with ⟨_, hphase⟩ | ⟨_, hphase⟩
    · exact (hwriting n hphase).elim
    · exact h.writing q n hphase
  publishing q n hq := by
    rcases goto_cases hq with ⟨_, hphase⟩ | ⟨_, hphase⟩
    · exact (hpublishing n hphase).elim
    · exact h.publishing q n hphase
  done q seed hq := by
    rcases goto_cases hq with ⟨_, hphase⟩ | ⟨_, hphase⟩
    · exact hdone seed hphase
    · exact h.done q seed hphase
  text := h.text

lemma Owned.write {n : ℕ} (h : Owned generate pubkey st c k) (hw : st.procs c = .writing k)
    (hlt : k + n < 32) :
    Owned generate pubkey
      ({ st with secretKey := some ((generate c).toList.take (k + n)) }.goto c (.writing (k + n)))
      c (k + n) where
  content := rfl
  length := Nat.le_of_lt hlt
  writing q m hq := by
    rcases goto_cases hq with ⟨rfl, hphase⟩ | ⟨hne, hphase⟩
    · exact ⟨rfl, (Phase.writing.inj hphase).symm⟩
    · exact (hne (h.writing q m hphase).1).elim
  publishing q m hq := by
    rcases goto_cases hq with ⟨_, hphase⟩ | ⟨_, hphase⟩
    · cases hphase
    · have hfull := (h.publishing q m hphase).2
      omega
  done q seed hq := by
    rcases goto_cases hq with ⟨_, hphase⟩ | ⟨_, hphase⟩
    · cases hphase
    · have hfull := (h.done q seed hphase).1
      omega
  text text htext := by
    have hfull := (h.text text htext).1
    omega

lemma take_seed (seed : Seed) : seed.toList.take 32 = seed.toList :=
  List.take_of_length_le (Nat.le_of_eq (Vector.length_toList ..))

lemma Owned.written (h : Owned generate pubkey st c k) (hw : st.procs c = .writing k) :
    Owned generate pubkey
      ({ st with secretKey := some (generate c).toList }.goto c (.publishing none)) c 32 where
  content := congrArg some (take_seed _).symm
  length := le_rfl
  writing q m hq := by
    rcases goto_cases hq with ⟨_, hphase⟩ | ⟨hne, hphase⟩
    · cases hphase
    · exact (hne (h.writing q m hphase).1).elim
  publishing q m hq := by
    rcases goto_cases hq with ⟨rfl, _⟩ | ⟨_, hphase⟩
    · exact ⟨rfl, rfl⟩
    · exact ⟨(h.publishing q m hphase).1, rfl⟩
  done q seed hq := by
    rcases goto_cases hq with ⟨_, hphase⟩ | ⟨_, hphase⟩
    · cases hphase
    · exact ⟨rfl, (h.done q seed hphase).2⟩
  text text htext := ⟨rfl, (h.text text htext).2⟩

lemma Owned.publish {phase : Phase} {text : Bytes} (h : Owned generate pubkey st c 32)
    (htext : text <+: publicText pubkey (generate c)) (hwriting : ∀ n, phase ≠ .writing n)
    (hdone : ∀ seed, phase = .done seed → seed = generate c) :
    Owned generate pubkey ({ st with publicKey := some text }.goto c phase) c 32 where
  content := h.content
  length := le_rfl
  writing q m hq := by
    rcases goto_cases hq with ⟨_, hphase⟩ | ⟨_, hphase⟩
    · exact (hwriting m hphase).elim
    · exact h.writing q m hphase
  publishing q m hq := by
    rcases goto_cases hq with ⟨rfl, _⟩ | ⟨_, hphase⟩
    · exact ⟨rfl, rfl⟩
    · exact h.publishing q m hphase
  done q seed hq := by
    rcases goto_cases hq with ⟨_, hphase⟩ | ⟨_, hphase⟩
    · exact ⟨rfl, hdone seed hphase⟩
    · exact h.done q seed hphase
  text text' htext' := by
    obtain rfl := Option.some.inj htext'
    exact ⟨rfl, htext⟩

lemma Owned.step (h : Owned generate pubkey st c k) (ha : step generate pubkey st a = some st') :
    ∃ k', k ≤ k' ∧ Owned generate pubkey st' c k' := by
  cases a with
  | loadOrCreate p =>
    simp only [Identity.step] at ha
    split at ha
    · rw [h.content] at ha
      obtain rfl := Option.some.inj ha
      exact ⟨k, le_rfl, h.goto (by simp) (by simp) (by simp)⟩
    · cases ha
  | load p =>
    simp only [Identity.step] at ha
    split at ha
    · obtain rfl := Option.some.inj ha
      exact ⟨k, le_rfl, h.goto (by simp) (by simp) (by simp)⟩
    · cases ha
  | readSeed p =>
    simp only [Identity.step] at ha
    split at ha
    · rw [h.content, readSeed_take h.length] at ha
      split at ha
      · obtain rfl := Option.some.inj ha
        exact ⟨k, le_rfl, h.goto (by simp) (by simp) (by simp)⟩
      · next seed hseed =>
        obtain rfl := Option.some.inj ha
        obtain ⟨hk, hsame⟩ := Option.ite_none_right_eq_some.mp hseed
        refine ⟨k, le_rfl, h.goto (by simp) (by simp) fun seed' hphase => ⟨hk, ?_⟩⟩
        rw [← Phase.done.inj hphase, Option.some.inj hsame]
    · cases ha
  | openNew p =>
    simp only [Identity.step] at ha
    split at ha
    · rw [h.content] at ha
      obtain rfl := Option.some.inj ha
      exact ⟨k, le_rfl, h.goto (by simp) (by simp) (by simp)⟩
    · cases ha
  | writeSeed p n =>
    simp only [Identity.step] at ha
    split at ha
    · next j hp =>
      obtain ⟨rfl, rfl⟩ := h.writing p j hp
      split at ha
      · next hlt =>
        obtain rfl := Option.some.inj ha
        exact ⟨_, Nat.le_add_right .., h.write hp hlt⟩
      · obtain rfl := Option.some.inj ha
        exact ⟨32, h.length, h.written hp⟩
    · cases ha
  | createPublic p =>
    simp only [Identity.step] at ha
    split at ha
    · next hp =>
      obtain ⟨rfl, rfl⟩ := h.publishing p none hp
      obtain rfl := Option.some.inj ha
      exact ⟨32, le_rfl, h.publish List.nil_prefix (by simp) (by simp)⟩
    · cases ha
  | writePublic p n =>
    simp only [Identity.step] at ha
    split at ha
    · next j hp =>
      obtain ⟨rfl, rfl⟩ := h.publishing p (some j) hp
      split at ha
      · obtain rfl := Option.some.inj ha
        exact ⟨32, le_rfl, h.publish (List.take_prefix ..) (by simp) (by simp)⟩
      · obtain rfl := Option.some.inj ha
        refine ⟨32, le_rfl, h.publish (List.prefix_refl _) (by simp) fun seed hphase => ?_⟩
        exact (Phase.done.inj hphase).symm
    · cases ha
  | fail p =>
    simp only [Identity.step] at ha
    split at ha
    · cases ha
    · cases ha
    · obtain rfl := Option.some.inj ha
      exact ⟨k, le_rfl, h.goto (by simp) (by simp) (by simp)⟩

section

variable {labels : List Label}

lemma Owned.run (h : Owned generate pubkey st c k)
    (hr : Run (Fires (Identity.step generate pubkey)) st labels st') :
    ∃ k', k ≤ k' ∧ Owned generate pubkey st' c k' := by
  induction hr generalizing k with
  | nil => exact ⟨k, le_rfl, h⟩
  | cons ha _ ih =>
    obtain ⟨k₁, hle₁, h₁⟩ := h.step ha
    obtain ⟨k₂, hle₂, h₂⟩ := ih h₁
    exact ⟨k₂, hle₁.trans hle₂, h₂⟩

lemma reached (hr : Run (Fires (Identity.step generate pubkey)) initial labels st) :
    Unowned st ∨ ∃ c k, Owned generate pubkey st c k := by
  refine hr.invariant (I := fun st => Unowned st ∨ ∃ c k, Owned generate pubkey st c k)
    (fun s a t hs ha => ?_) (Or.inl ⟨rfl, rfl, fun p => Or.inl rfl⟩)
  rcases hs with hs | ⟨c, k, hs⟩
  · rcases hs.step ha with ht | ⟨c, ht⟩
    · exact Or.inl ht
    · exact Or.inr ⟨c, 0, ht⟩
  · obtain ⟨k', _, ht⟩ := hs.step ha
    exact Or.inr ⟨c, k', ht⟩

/-- Without a process that writes the key, a key file stays as it is. -/
lemma step_quiet (hsome : st.secretKey.isSome) (hquiet : ∀ p n, st.procs p ≠ .writing n)
    (ha : Identity.step generate pubkey st a = some st') :
    st'.secretKey = st.secretKey ∧ ∀ p n, st'.procs p ≠ .writing n := by
  have hgoto : ∀ {text : Option Bytes} {p : ℕ} {phase : Phase}, (∀ n, phase ≠ .writing n) →
      ∀ q n, ({ st with publicKey := text }.goto p phase).procs q ≠ .writing n := by
    intro text p phase hphase q n hq
    rcases goto_cases hq with ⟨_, hq⟩ | ⟨_, hq⟩
    · exact hphase n hq
    · exact hquiet q n hq
  cases a with
  | loadOrCreate p =>
    simp only [Identity.step, hsome, if_true] at ha
    split at ha
    · obtain rfl := Option.some.inj ha
      exact ⟨rfl, hgoto (by simp)⟩
    · cases ha
  | load p =>
    simp only [Identity.step] at ha
    split at ha
    · obtain rfl := Option.some.inj ha
      exact ⟨rfl, hgoto (by simp)⟩
    · cases ha
  | readSeed p =>
    simp only [Identity.step] at ha
    split at ha
    · split at ha
      · obtain rfl := Option.some.inj ha
        exact ⟨rfl, hgoto (by simp)⟩
      · obtain rfl := Option.some.inj ha
        exact ⟨rfl, hgoto (by simp)⟩
    · cases ha
  | openNew p =>
    simp only [Identity.step, hsome, if_true] at ha
    split at ha
    · obtain rfl := Option.some.inj ha
      exact ⟨rfl, hgoto (by simp)⟩
    · cases ha
  | writeSeed p n =>
    simp only [Identity.step] at ha
    split at ha
    · next j hp => exact (hquiet p j hp).elim
    · cases ha
  | createPublic p =>
    simp only [Identity.step] at ha
    split at ha
    · obtain rfl := Option.some.inj ha
      exact ⟨rfl, hgoto (by simp)⟩
    · cases ha
  | writePublic p n =>
    simp only [Identity.step] at ha
    split at ha
    · split at ha
      · obtain rfl := Option.some.inj ha
        exact ⟨rfl, hgoto (by simp)⟩
      · obtain rfl := Option.some.inj ha
        exact ⟨rfl, hgoto (by simp)⟩
    · cases ha
  | fail p =>
    simp only [Identity.step] at ha
    split at ha
    · cases ha
    · cases ha
    · obtain rfl := Option.some.inj ha
      exact ⟨rfl, hgoto (by simp)⟩

lemma run_quiet (hsome : st.secretKey.isSome) (hquiet : ∀ p n, st.procs p ≠ .writing n)
    (hr : Run (Fires (Identity.step generate pubkey)) st labels st') :
    st'.secretKey = st.secretKey := by
  induction hr with
  | nil => rfl
  | cons ha _ ih =>
    obtain ⟨hsame, hstill⟩ := step_quiet hsome hquiet ha
    exact (ih (by rwa [hsame]) hstill).trans hsame

/-- A process that comes to a whole key file is on its way to the identity in it. -/
def OnItsWay (st : State) (q : ℕ) : Prop :=
  st.procs q = .absent ∨ st.procs q = .loading ∨ ∃ seed, st.procs q = .done seed

lemma OnItsWay.step {q : ℕ} (hq : OnItsWay st q) (h : Owned generate pubkey st c 32)
    (hne : a ≠ .fail q) (ha : Identity.step generate pubkey st a = some st') : OnItsWay st' q := by
  have hgoto : ∀ {key text : Option Bytes} {p : ℕ} {phase : Phase},
      (q = p → phase = .loading ∨ ∃ seed, phase = .done seed) →
      OnItsWay ({ st with secretKey := key, publicKey := text }.goto p phase) q := by
    intro key text p phase hphase
    have hcases := @goto_cases { st with secretKey := key, publicKey := text } p q phase _ rfl
    rcases hcases with ⟨rfl, hsame⟩ | ⟨_, hsame⟩
    · rcases hphase rfl with rfl | ⟨seed, rfl⟩
      · exact Or.inr (Or.inl hsame.symm)
      · exact Or.inr (Or.inr ⟨seed, hsame.symm⟩)
    · rw [OnItsWay, ← hsame]
      exact hq
  cases a with
  | loadOrCreate p =>
    simp only [Identity.step, h.content] at ha
    split at ha
    · obtain rfl := Option.some.inj ha
      exact hgoto fun _ => Or.inl rfl
    · cases ha
  | load p =>
    simp only [Identity.step] at ha
    split at ha
    · obtain rfl := Option.some.inj ha
      exact hgoto fun _ => Or.inl rfl
    · cases ha
  | readSeed p =>
    simp only [Identity.step, h.content, readSeed_take h.length, if_true] at ha
    split at ha
    · obtain rfl := Option.some.inj ha
      exact hgoto fun _ => Or.inr ⟨_, rfl⟩
    · cases ha
  | openNew p | writeSeed p n | createPublic p | writePublic p n =>
    have hother : q = p → False := by
      rintro rfl
      simp only [Identity.step] at ha
      rcases hq with hq | hq | ⟨seed, hq⟩ <;> simp [hq] at ha
    simp only [Identity.step] at ha
    split at ha
    · first
      | split at ha
        · obtain rfl := Option.some.inj ha
          exact hgoto fun heq => (hother heq).elim
        · obtain rfl := Option.some.inj ha
          exact hgoto fun heq => (hother heq).elim
      | obtain rfl := Option.some.inj ha
        exact hgoto fun heq => (hother heq).elim
    · cases ha
  | fail p =>
    simp only [Identity.step] at ha
    split at ha
    · cases ha
    · cases ha
    · obtain rfl := Option.some.inj ha
      refine hgoto fun heq => ?_
      subst heq
      exact (hne rfl).elim

lemma OnItsWay.run {q : ℕ} (hq : OnItsWay st q) (h : Owned generate pubkey st c 32)
    (hne : .fail q ∉ labels) (hr : Run (Fires (Identity.step generate pubkey)) st labels st') :
    OnItsWay st' q := by
  induction hr with
  | nil => exact hq
  | cons ha _ ih =>
    rw [List.mem_cons, not_or] at hne
    obtain ⟨k, hk, hnext⟩ := h.step ha
    obtain rfl := Nat.le_antisymm hnext.length hk
    exact ih (hq.step h (Ne.symm hne.1) ha) hnext hne.2

/-- Who returns an identity returns the one that is in the file for ever, and no later start fails by
itself. A key file that its writer left short never becomes an identity. -/
theorem one_identity (h : Run (Fires (Identity.step generate pubkey)) initial labels st)
    {later : List Label} (h' : Run (Fires (Identity.step generate pubkey)) st later st') :
    (∀ p seed, st.procs p = .done seed →
      st'.secretKey = some seed.toList ∧ (∀ q seed', st'.procs q = .done seed' → seed' = seed) ∧
      (∀ text, st'.publicKey = some text → text <+: publicText pubkey seed) ∧
      ∀ q, st.procs q = .absent → .fail q ∉ later → st'.procs q ≠ .failed) ∧
    ∀ content, st.secretKey = some content → content.length < 32 →
      (∀ p n, st.procs p ≠ .writing n) →
      st'.secretKey = some content ∧ ∀ p seed, st'.procs p ≠ .done seed := by
  constructor
  · intro p seed hp
    rcases reached h with hun | ⟨c, k, hown⟩
    · have hidle := hun.idle p
      simp_all
    · obtain ⟨rfl, rfl⟩ := hown.done p seed hp
      obtain ⟨k', hk', hown'⟩ := hown.run h'
      obtain rfl := Nat.le_antisymm hown'.length hk'
      refine ⟨?_, fun q seed' hq => (hown'.done q seed' hq).2, fun text ht => (hown'.text text ht).2,
        fun q hq hne hfail => ?_⟩
      · rw [hown'.content, take_seed]
      · rcases (OnItsWay.run (Or.inl hq) hown hne h') with hq' | hq' | ⟨seed, hq'⟩ <;> simp_all
  · intro content hcontent hshort hquiet
    have hsame := run_quiet (by rw [hcontent]; rfl) hquiet h'
    refine ⟨hsame.trans hcontent, fun p seed hp => ?_⟩
    rcases reached (h.append h') with hun | ⟨c, k, hown⟩
    · have hidle := hun.idle p
      simp_all
    · obtain ⟨rfl, _⟩ := hown.done p seed hp
      have heq := hown.content
      rw [hsame, hcontent, take_seed] at heq
      rw [Option.some.inj heq, Vector.length_toList] at hshort
      omega

end

section

def sampleSeed (p : ℕ) : Seed := Vector.replicate 32 (UInt8.ofNat p)

def samplePubkey (seed : Seed) : NodeId := ⟨seed⟩

/-- Two processes find no key, one of them creates it, and a third one comes too early. -/
def race : List Label :=
  [.loadOrCreate 0, .loadOrCreate 1, .openNew 0, .writeSeed 0 10, .openNew 1, .loadOrCreate 2,
    .readSeed 2, .loadOrCreate 3, .writeSeed 0 22, .readSeed 3]

def restart : List Label := [.fail 0, .loadOrCreate 4, .readSeed 4]

theorem one_identity_race : ∃ st st' : State,
    Run (Fires (Identity.step sampleSeed samplePubkey)) initial race st ∧
      Run (Fires (Identity.step sampleSeed samplePubkey)) st restart st' ∧
      st.procs 1 = .failed ∧ st.procs 2 = .failed ∧ st'.procs 4 = .done (sampleSeed 0) ∧
      st'.secretKey = some (sampleSeed 0).toList := by
  have hrun : ((execute (Identity.step sampleSeed samplePubkey) initial race).bind fun st =>
      (execute (Identity.step sampleSeed samplePubkey) st restart).map fun st' =>
        (st.procs 1, st.procs 2, st.procs 3, st'.procs 4)) =
        some (.failed, .failed, .done (sampleSeed 0), .done (sampleSeed 0)) := by
    decide +kernel
  obtain ⟨st, hst, hshape⟩ := Option.bind_eq_some_iff.mp hrun
  obtain ⟨st', hrest, hshape⟩ := Option.map_eq_some_iff.mp hshape
  obtain ⟨h1, hshape⟩ := Prod.mk.inj hshape
  obtain ⟨h2, hshape⟩ := Prod.mk.inj hshape
  obtain ⟨h3, h4⟩ := Prod.mk.inj hshape
  have hkept := (one_identity (execute_run hst) (execute_run hrest)).1 3 _ h3
  exact ⟨st, st', execute_run hst, execute_run hrest, h1, h2, h4, hkept.1⟩

end

end WalkieTalkie.Identity
