import WalkieTalkie.Cli.Pasting
import WalkieTalkie.Daemon.TokenRows
import Mathlib.Logic.Function.Basic

/-! Installations paired by hand. Each has its own key and its own daemon; what a command prints may be
pasted anywhere, and any other text may be typed as well. `printed` keeps what was printed, by whom and
what it stands for. -/

namespace WalkieTalkie.Cli.Pairing

open Proto Store Auth Lib.Runs Pasting
open Daemon.Trust (Request Event dispatch claimsInfo admitImport)
open Daemon.TokenRows (rowClaims)

inductive Command
  | nodeid
  | ticket (relayUrl : Option String) (directAddrs : List String)
  | peerAdd (idOrTicket name : String)
  | peerRm (peer : String)
  | tokenGrant (peer : String) (caps : List String) (ttl : Option String)
  | tokenImport (token : String)
  | tokenList
  | tokenRevoke (idHex : String)

inductive What
  | nodeid
  | ticket (t : AddrTicket)
  | token (raw : Bytes) (info : TokenInfo)
  | tokenId (id : TokenId)
deriving DecidableEq

structure Paper (ι : Type) where
  author : ι
  what : What
  text : String

structure State (ι : Type) where
  sites : ι → Daemon.Trust.State
  printed : List (Paper ι)

structure Label (ι : Type) where
  site : ι
  command : Command
  nowMs : UInt64
  nowSecs : UInt64
  freshId : TokenId

variable {ι : Type}

def initial : State ι := ⟨fun _ => Daemon.Trust.initial, []⟩

def State.print (st : State ι) (p : Paper ι) : State ι := { st with printed := st.printed ++ [p] }

variable [DecidableEq ι] (lib : Formats) (secret : ι → lib.auth.ed.SecretKey)

def nodeidAt (i : ι) : NodeId := nodeidOf lib.auth (secret i)

def prints (site : ι) : Event → List (Paper ι)
  | .tokenIssued raw info =>
    match lib.auth.signed.decode raw with
    | .error _ => []
    | .ok signed => [⟨site, .tokenId info.id, hexEncode info.id.toList⟩,
        ⟨site, .token raw info, tokenEncodeBase32 lib signed⟩]
  | .tokenListItem info => [⟨site, .tokenId info.id, hexEncode info.id.toList⟩]
  | _ => []

def answer (st : State ι) (l : Label ι) (r : Request) : Daemon.Trust.State × List Event :=
  dispatch lib.auth (secret l.site) (st.sites l.site) ⟨r, l.nowMs, l.nowSecs, l.freshId⟩

def serve (st : State ι) (l : Label ι) (r : Request) : State ι where
  sites := Function.update st.sites l.site (answer lib secret st l r).1
  printed := st.printed ++ (answer lib secret st l r).2.flatMap (prints lib l.site)

def perform (st : State ι) (l : Label ι) : Typed → State ι
  | .abort | .err _ => st
  | .request r => serve lib secret st l r

def enter (st : State ι) (l : Label ι) : State ι :=
  match l.command with
  | .nodeid => st.print ⟨l.site, .nodeid, (nodeidAt lib secret l.site).display⟩
  | .ticket relayUrl directAddrs =>
    let t : AddrTicket := ⟨nodeidAt lib secret l.site, relayUrl, directAddrs⟩
    st.print ⟨l.site, .ticket t, ticketEncode lib t⟩
  | .peerAdd idOrTicket name => perform lib secret st l (cmdPeerAdd lib idOrTicket name)
  | .peerRm peer => perform lib secret st l (cmdPeerRm peer)
  | .tokenGrant peer caps ttl => perform lib secret st l (cmdTokenGrant peer caps ttl)
  | .tokenImport token => perform lib secret st l (cmdTokenImport lib token)
  | .tokenList => perform lib secret st l (.request .tokenList)
  | .tokenRevoke idHex => perform lib secret st l (cmdTokenRevoke idHex)

def Enters (st : State ι) (l : Label ι) (st' : State ι) : Prop := enter lib secret st l = st'

/-- What a pasted text does: it registers a node under its id, with the addresses of its ticket, hands
over the bytes that the issuer's daemon wrote, or revokes the token of an id. -/
def Understood (p : Paper ι) (text : String) : Prop :=
  match p.what with
  | .nodeid => ∀ name,
    cmdPeerAdd lib text name = .request (.peerAdd (nodeidAt lib secret p.author) name none)
  | .ticket t => t.nodeid = nodeidAt lib secret p.author ∧ ∀ name,
    cmdPeerAdd lib text name = .request (.peerAdd t.nodeid name (some (lib.tickets.encode t)))
  | .token raw _ => cmdTokenImport lib text = .request (.tokenImport raw)
  | .tokenId id => text = p.text → cmdTokenRevoke text = .request (.tokenRevoke id)

/-- The import of a token at `j`: only where it was meant for, and only from a peer. -/
def landing (j : ι) (raw : Bytes) (info : TokenInfo) (trust : Daemon.Trust.State) :
    Daemon.Trust.State × List Event :=
  if info.sub ≠ nodeidAt lib secret j then
    (trust, [.err ⟨.badRequest, "token subject is not this install"⟩])
  else if trust.peers.peerGet (.nodeId info.iss) = none then
    (trust, [.err ⟨.badRequest, "token issuer is not a known peer"⟩])
  else
    let row : TokenRow := ⟨info.id, info.iss, info.sub, info.exp, info.caps, raw, false⟩
    ({ trust with tokens := trust.tokens.tokenInsert row }, [.tokenListItem info, .ok])

structure Valid (i : ι) (raw : Bytes) (info : TokenInfo) : Prop where
  issuer : info.iss = nodeidAt lib secret i
  lands : ∀ j trust nowMs nowSecs freshId,
    dispatch lib.auth (secret j) trust ⟨.tokenImport raw, nowMs, nowSecs, freshId⟩ =
      landing lib secret j raw info trust
  honoured : ∃ signed, lib.auth.signed.decode raw = .ok signed ∧
    ∀ j now found, verifyToken lib.auth signed (nodeidAt lib secret i) (nodeidAt lib secret j) .msg now
        (fun _ => .ok found) = .ok ⟨info.iss, info.sub, info.exp, info.caps, info.id⟩ ↔
      info.sub = nodeidAt lib secret j ∧ ¬ now.toInt64 - clockSkewSecs > info.exp.toInt64 ∧
        (∀ row, found = some row → row.revoked = false) ∧ .msg ∈ info.caps

/-- Nobody types a text with a signature of one of the installations but for claims that it signed. -/
def Unforged (st : State ι) (l : Label ι) : Prop :=
  ∀ text signed i, l.command = .tokenImport text → tokenDecodeBase32 lib text = .ok signed →
    lib.auth.ed.verify (lib.auth.ed.publicOf (secret i)) signed.claimsCbor signed.sig = true →
    ∃ p ∈ st.printed, ∃ raw info signed', nodeidAt lib secret p.author = nodeidAt lib secret i ∧
      p.what = .token raw info ∧ lib.auth.signed.decode raw = .ok signed' ∧
      signed'.claimsCbor = signed.claimsCbor

variable {lib secret} {st st' : State ι} {l : Label ι} {i j : ι} {p : Paper ι}

def Written (lib : Formats) (secret : ι → lib.auth.ed.SecretKey) (p : Paper ι) : Prop :=
  match p.what with
  | .nodeid => p.text = (nodeidAt lib secret p.author).display
  | .ticket t => t.nodeid = nodeidAt lib secret p.author ∧ p.text = ticketEncode lib t
  | .token raw info => ∃ claims signed, verifySignedClaims lib.auth signed = .ok claims ∧
    claims.iss = nodeidAt lib secret p.author ∧ raw = lib.auth.signed.encode signed ∧
    info = claimsInfo claims ∧ p.text = tokenEncodeBase32 lib signed
  | .tokenId id => p.text = hexEncode id.toList

omit [DecidableEq ι] in
lemma Written.understood (h : Written lib secret p) {text : String} (hp : Pasted text p.text) :
    Understood lib secret p text := by
  obtain ⟨author, what, printed⟩ := p
  cases what with
  | nodeid =>
    obtain rfl : printed = (nodeidAt lib secret author).display := h
    exact cmdPeerAdd_nodeid hp
  | ticket t =>
    obtain ⟨hid, rfl⟩ : t.nodeid = nodeidAt lib secret author ∧ printed = ticketEncode lib t := h
    exact ⟨hid, cmdPeerAdd_ticket hp⟩
  | token raw info =>
    obtain ⟨claims, signed, -, -, rfl, -, rfl⟩ := h
    exact cmdTokenImport_pasted hp
  | tokenId id =>
    obtain rfl : printed = hexEncode id.toList := h
    rintro rfl
    exact cmdTokenRevoke_hex id

omit [DecidableEq ι] in
lemma Written.valid (h : Written lib secret p) {raw : Bytes} {info : TokenInfo}
    (hw : p.what = .token raw info) : Valid lib secret p.author raw info := by
  rw [Written, hw] at h
  obtain ⟨claims, signed, hv, hiss, rfl, rfl, -⟩ := h
  have hdecode := lib.auth.signed.decode_encode signed
  refine ⟨hiss, ?_, signed, hdecode, ?_⟩
  · intro j trust nowMs nowSecs freshId
    simp only [dispatch, admitImport, hdecode, hv, landing, claimsInfo, nodeidAt]
    by_cases hsub : claims.sub = nodeidOf lib.auth (secret j)
    · by_cases hpeer : trust.peers.peerGet (.nodeId claims.iss) = none
      · simp [hsub, hpeer]
      · simp [hsub, hpeer, tokenRow]
    · simp [hsub]
  · intro j now found
    rw [verifyToken_ok, validateClaims_ok]
    constructor
    · rintro ⟨-, -, hsub, hexp, hrev, hcap⟩
      exact ⟨hsub, hexp, fun row hrow => hrev row (congrArg _ hrow), hcap⟩
    · rintro ⟨hsub, hexp, hrev, hcap⟩
      exact ⟨hv, hiss, hsub, hexp, fun row hrow => hrev row (Except.ok.inj hrow), hcap⟩

omit [DecidableEq ι] in
lemma answer_issued {r : Request} {raw : Bytes} {info : TokenInfo}
    (h : .tokenIssued raw info ∈ (answer lib secret st l r).2) : ∃ claims signed,
      verifySignedClaims lib.auth signed = .ok claims ∧ claims.iss = nodeidAt lib secret l.site ∧
      raw = lib.auth.signed.encode signed ∧ info = claimsInfo claims := by
  rw [answer, dispatch] at h
  cases r with
  | peerAdd nodeid name addrBlob =>
    dsimp only at h
    split at h <;> simp at h
  | peerRm selector =>
    dsimp only at h
    split at h <;> simp at h
  | tokenGrant peer caps ttlSecs =>
    dsimp only at h
    split at h
    · simp at h
    · next row hrow =>
      obtain ⟨rfl, rfl⟩ := by simpa using h
      exact ⟨_, _, verifySignedClaims_signToken .., rfl, rfl, rfl⟩
  | tokenImport raw' =>
    dsimp only at h
    split at h <;> simp at h
  | tokenList => simp at h
  | tokenRevoke id =>
    dsimp only at h
    split at h <;> simp at h

omit [DecidableEq ι] in
lemma prints_written {r : Request} {e : Event} (he : e ∈ (answer lib secret st l r).2)
    (hp : p ∈ prints lib l.site e) : Written lib secret p := by
  cases e with
  | tokenIssued raw info =>
    obtain ⟨claims, signed, hv, hiss, rfl, rfl⟩ := answer_issued he
    simp only [prints, lib.auth.signed.decode_encode, List.mem_cons, List.not_mem_nil, or_false] at hp
    rcases hp with rfl | rfl
    · exact rfl
    · exact ⟨claims, signed, hv, hiss, rfl, rfl, rfl⟩
  | tokenListItem info =>
    obtain rfl := List.mem_singleton.mp hp
    exact rfl
  | ok | err | tokenListEnd => cases hp

def Imports (lib : Formats) (l : Label ι) (raw : Bytes) : Prop :=
  ∃ text signed, l.command = .tokenImport text ∧ tokenDecodeBase32 lib text = .ok signed ∧
    raw = lib.auth.signed.encode signed

def Serves (lib : Formats) (secret : ι → lib.auth.ed.SecretKey) (st : State ι) (l : Label ι)
    (st' : State ι) : Prop :=
  ∃ r, st' = serve lib secret st l r ∧ ∀ raw, r = .tokenImport raw → Imports lib l raw

lemma perform_cases {t : Typed} (h : ∀ raw, t = .request (.tokenImport raw) → Imports lib l raw) :
    perform lib secret st l t = st ∨ Serves lib secret st l (perform lib secret st l t) := by
  cases t with
  | abort | err => exact Or.inl rfl
  | request r => exact Or.inr ⟨r, rfl, fun raw hr => h raw (congrArg _ hr)⟩

variable (lib secret) in
lemma enter_cases (st : State ι) (l : Label ι) :
    (∃ p, Written lib secret p ∧ enter lib secret st l = st.print p) ∨
    enter lib secret st l = st ∨ Serves lib secret st l (enter lib secret st l) := by
  rw [enter]
  cases hl : l.command with
  | nodeid =>
    left
    refine ⟨⟨l.site, .nodeid, (nodeidAt lib secret l.site).display⟩, ?_, rfl⟩
    rfl
  | ticket relayUrl directAddrs =>
    left
    let t : AddrTicket := ⟨nodeidAt lib secret l.site, relayUrl, directAddrs⟩
    refine ⟨⟨l.site, .ticket t, ticketEncode lib t⟩, ?_, rfl⟩
    exact ⟨rfl, rfl⟩
  | peerAdd idOrTicket name =>
    refine Or.inr (perform_cases fun raw h => ?_)
    rw [cmdPeerAdd] at h
    split at h <;> split at h <;> cases h
  | peerRm peer => exact Or.inr (perform_cases fun raw h => by cases h)
  | tokenGrant peer caps ttl =>
    refine Or.inr (perform_cases fun raw h => ?_)
    rw [cmdTokenGrant] at h
    split at h
    · cases h
    · split at h <;> cases h
  | tokenImport token =>
    refine Or.inr (perform_cases fun raw h => ?_)
    rw [cmdTokenImport] at h
    split at h
    · cases h
    · next signed hsigned =>
      obtain rfl := by simpa using h
      exact ⟨token, signed, hl, hsigned, rfl⟩
  | tokenList => exact Or.inr (perform_cases fun raw h => by cases h)
  | tokenRevoke idHex =>
    refine Or.inr (perform_cases fun raw h => ?_)
    rw [cmdTokenRevoke] at h
    split at h
    · cases h
    · split at h <;> cases h

lemma written_step (h : ∀ p ∈ st.printed, Written lib secret p) (hs : Enters lib secret st l st') :
    ∀ p ∈ st'.printed, Written lib secret p := by
  obtain rfl := hs
  rcases enter_cases lib secret st l with ⟨p, hp, heq⟩ | heq | ⟨r, heq, -⟩
  · rw [heq]
    intro q hq
    rcases List.mem_append.mp hq with hq | hq
    · exact h q hq
    · obtain rfl := List.mem_singleton.mp hq
      exact hp
  · rwa [heq]
  · rw [heq]
    intro q hq
    rcases List.mem_append.mp hq with hq | hq
    · exact h q hq
    · obtain ⟨e, he, hq⟩ := List.mem_flatMap.mp hq
      exact prints_written he hq

/-- A row of the tokens at `j`: from its own issuer or to it, and printed by its issuer. -/
def Backed (lib : Formats) (secret : ι → lib.auth.ed.SecretKey) (printed : List (Paper ι)) (j : ι)
    (claims : CapabilityToken) : Prop :=
  (claims.sub = nodeidAt lib secret j ∨ claims.iss = nodeidAt lib secret j) ∧
    ∀ i, claims.iss = nodeidAt lib secret i → ∃ p ∈ printed, ∃ raw,
      nodeidAt lib secret p.author = claims.iss ∧ p.what = .token raw (claimsInfo claims)

def AllBacked (lib : Formats) (secret : ι → lib.auth.ed.SecretKey) (st : State ι) : Prop :=
  ∀ j, ∀ row ∈ (st.sites j).tokens.rows, Backed lib secret st.printed j (rowClaims row)

omit [DecidableEq ι] in
lemma Backed.more {printed more : List (Paper ι)} {claims : CapabilityToken}
    (h : Backed lib secret printed j claims) : Backed lib secret (printed ++ more) j claims := by
  refine ⟨h.1, fun i hi => ?_⟩
  obtain ⟨p, hp, raw, hauthor, hwhat⟩ := h.2 i hi
  exact ⟨p, List.mem_append_left _ hp, raw, hauthor, hwhat⟩

omit [DecidableEq ι] in
lemma granted_or_typed {r : Request} {claims : CapabilityToken} {signed : SignedToken}
    (hw : Daemon.Trust.written lib.auth (secret l.site) (st.sites l.site)
      ⟨r, l.nowMs, l.nowSecs, l.freshId⟩ = some (claims, signed)) :
    (claims.iss = nodeidAt lib secret l.site ∧
      .tokenIssued (lib.auth.signed.encode signed) (claimsInfo claims) ∈ (answer lib secret st l r).2) ∨
    ∃ raw, r = .tokenImport raw ∧ lib.auth.signed.decode raw = .ok signed ∧
      claims.sub = nodeidAt lib secret l.site := by
  rw [Daemon.Trust.written] at hw
  cases r with
  | tokenGrant peer caps ttlSecs =>
    obtain ⟨row, hrow, hsign⟩ := Option.map_eq_some_iff.mp hw
    obtain ⟨rfl, rfl⟩ := Prod.mk.inj hsign
    left
    simp [answer, dispatch, hrow, nodeidAt, signToken]
  | tokenImport raw =>
    dsimp only at hw
    cases hok : admitImport lib.auth (secret l.site) (st.sites l.site) raw with
    | error e => simp [hok, Except.toOption] at hw
    | ok pair =>
      obtain rfl : pair = (claims, signed) := by simpa [hok, Except.toOption] using hw
      obtain ⟨hdecode, -, hsub, -⟩ := Daemon.Trust.admitImport_ok.mp hok
      exact Or.inr ⟨raw, rfl, hdecode, hsub⟩
  | peerAdd | peerRm | tokenList | tokenRevoke => cases hw

lemma issued_printed {r : Request} {signed : SignedToken} {info : TokenInfo}
    (h : .tokenIssued (lib.auth.signed.encode signed) info ∈ (answer lib secret st l r).2) :
    ⟨l.site, .token (lib.auth.signed.encode signed) info, tokenEncodeBase32 lib signed⟩ ∈
      (serve lib secret st l r).printed := by
  apply List.mem_append_right
  apply List.mem_flatMap.mpr
  refine ⟨_, h, ?_⟩
  simp [prints, lib.auth.signed.decode_encode]

omit [DecidableEq ι] in
lemma typed_printed (hw : ∀ p ∈ st.printed, Written lib secret p) (hu : Unforged lib secret st l)
    {raw : Bytes} {claims : CapabilityToken} {signed : SignedToken} (himports : Imports lib l raw)
    (hdecode : lib.auth.signed.decode raw = .ok signed)
    (hv : verifySignedClaims lib.auth signed = .ok claims) (hi : claims.iss = nodeidAt lib secret i) :
    ∃ p ∈ st.printed, ∃ raw, nodeidAt lib secret p.author = claims.iss ∧
      p.what = .token raw (claimsInfo claims) := by
  obtain ⟨text, typed, hl, htyped, rfl⟩ := himports
  obtain rfl : typed = signed := by
    rw [lib.auth.signed.decode_encode] at hdecode
    exact Except.ok.inj hdecode
  obtain ⟨hclaims, pk, hpk, hverify⟩ := verifySignedClaims_ok hv
  obtain rfl : lib.auth.ed.publicOf (secret i) = pk := by
    rw [hi, nodeidAt, nodeidOf, lib.auth.ed.fromBytes_asBytes] at hpk
    exact Option.some.inj hpk
  obtain ⟨p, hp, raw, info, signed, hauthor, hwhat, hdecode, hcbor⟩ := hu text typed i hl htyped hverify
  have hwritten := hw p hp
  rw [Written, hwhat] at hwritten
  obtain ⟨claims', signed', hv', -, rfl, rfl, -⟩ := hwritten
  obtain rfl : signed' = signed := by
    rw [lib.auth.signed.decode_encode] at hdecode
    exact Except.ok.inj hdecode
  obtain rfl : claims' = claims := by
    have hsame := (verifySignedClaims_ok hv').1
    rw [hcbor, hclaims] at hsame
    exact (Except.ok.inj hsame).symm
  exact ⟨p, hp, _, hauthor.trans hi.symm, hwhat⟩

lemma serve_backed (hw : ∀ p ∈ st.printed, Written lib secret p) (hu : Unforged lib secret st l)
    (h : AllBacked lib secret st) {r : Request} (hr : ∀ raw, r = .tokenImport raw → Imports lib l raw) :
    AllBacked lib secret (serve lib secret st l r) := by
  intro j row hrow
  by_cases hj : j = l.site
  · subst hj
    have hrow : row ∈ (answer lib secret st l r).1.tokens.rows := by simpa [serve] using hrow
    rcases Daemon.Trust.tokens_cases lib.auth (secret l.site) (st.sites l.site)
      ⟨r, l.nowMs, l.nowSecs, l.freshId⟩ with ⟨ht, -⟩ | ⟨id, -, ht⟩ | ⟨claims, signed, hwritten, ht⟩
    · rw [answer, ht] at hrow
      exact (h l.site row hrow).more
    · rw [answer, ht] at hrow
      obtain ⟨o, ho, rfl⟩ := TokenTable.mem_tokenRevoke.mp hrow
      split
      · exact (h l.site o ho).more
      · exact (h l.site o ho).more
    · rw [answer, ht] at hrow
      rcases TokenTable.mem_tokenInsert.mp hrow with ⟨ho, -⟩ | ⟨o, ho, -, rfl⟩ | ⟨rfl, -⟩
      · exact (h l.site row ho).more
      · exact (h l.site o ho).more
      · rcases granted_or_typed hwritten with ⟨hiss, hissued⟩ | ⟨raw, hraw, hdecode, hsub⟩
        · exact ⟨Or.inr hiss, fun i hi => ⟨_, issued_printed hissued, _, hiss.symm, rfl⟩⟩
        · refine ⟨Or.inl hsub, fun i hi => ?_⟩
          obtain ⟨p, hp, raw', hauthor, hwhat⟩ := typed_printed hw hu (hr raw hraw) hdecode
            (Daemon.Trust.written_verifies hwritten) hi
          exact ⟨p, List.mem_append_left _ hp, raw', hauthor, hwhat⟩
  · have hrow : row ∈ (st.sites j).tokens.rows := by simpa [serve, hj] using hrow
    exact (h j row hrow).more

lemma backed_step (hw : ∀ p ∈ st.printed, Written lib secret p) (h : AllBacked lib secret st)
    (hs : Guarded (Unforged lib secret) (Enters lib secret) st l st') : AllBacked lib secret st' := by
  obtain ⟨hu, rfl⟩ := hs
  rcases enter_cases lib secret st l with ⟨p, -, heq⟩ | heq | ⟨r, heq, hr⟩
  · rw [heq]
    exact fun j row hrow => (h j row hrow).more
  · rwa [heq]
  · rw [heq]
    exact serve_backed hw hu h hr

def encodeItems : List Bytes → Bytes
  | [] => []
  | item :: items => List.replicate item.length 1 ++ 0 :: (item ++ encodeItems items)

def decodeItems : ℕ → Bytes → List Bytes
  | 0, _ => []
  | _ + 1, [] => []
  | k + 1, b :: bs =>
    let n := ((b :: bs).takeWhile (· = 1)).length
    let rest := (b :: bs).drop (n + 1)
    rest.take n :: decodeItems k (rest.drop n)

lemma decodeItems_cons (k : ℕ) (item rest : Bytes) :
    decodeItems (k + 1) (List.replicate item.length 1 ++ 0 :: (item ++ rest)) =
      item :: decodeItems k rest := by
  obtain ⟨b, bs, hbs⟩ : ∃ b bs, List.replicate item.length 1 ++ 0 :: (item ++ rest) = b :: bs :=
    List.exists_cons_of_ne_nil (by simp)
  have hn : ((b :: bs).takeWhile (· = 1)).length = item.length := by
    rw [← hbs, List.takeWhile_append_of_pos (by simp)]
    simp
  have hd : (b :: bs).drop (item.length + 1) = item ++ rest := by
    rw [← hbs, List.append_cons, List.drop_left' (by simp)]
  rw [hbs, decodeItems]
  simp only [hn, hd, List.take_left, List.drop_left]

lemma decodeItems_encodeItems (items : List Bytes) {k : ℕ} (hk : items.length ≤ k) :
    decodeItems k (encodeItems items) = items := by
  induction items generalizing k with
  | nil => cases k <;> rfl
  | cons item items ih =>
    obtain ⟨k, rfl⟩ : ∃ m, k = m + 1 := ⟨k - 1, by simp at hk; omega⟩
    rw [encodeItems, decodeItems_cons, ih (by simpa using hk)]

lemma length_encodeItems (items : List Bytes) : items.length ≤ (encodeItems items).length := by
  induction items with
  | nil => simp
  | cons item items ih =>
    simp [encodeItems]
    omega

def encodeTicket (t : AddrTicket) : Bytes :=
  t.nodeid.bytes.toList ++ encodeItems ((t.relayUrl.toList.map fun _ => 1) ::
    (t.relayUrl.toList ++ t.directAddrs).map fun s => Sample.encodeText s.toList)

def ticketOf (nodeid : NodeId) : List Bytes → Except String AddrTicket
  | [1] :: relayUrl :: addrs => .ok ⟨nodeid, some (text relayUrl), addrs.map text⟩
  | _ :: addrs => .ok ⟨nodeid, none, addrs.map text⟩
  | [] => .error "unexpected end of input"
where
  text (bytes : Bytes) : String := String.ofList (Sample.decodeText 0 bytes)

def decodeTicket (bytes : Bytes) : Except String AddrTicket := do
  let (nodeid, rest) ← Sample.readVec 32 bytes
  ticketOf ⟨nodeid⟩ (decodeItems rest.length rest)

lemma decodeTicket_encodeTicket (t : AddrTicket) : decodeTicket (encodeTicket t) = .ok t := by
  obtain ⟨nodeid, relayUrl, addrs⟩ := t
  have htexts : (addrs.map fun s => Sample.encodeText s.toList).map ticketOf.text = addrs := by
    simp [ticketOf.text, Sample.decodeText_encodeText, Function.comp_def]
  rw [decodeTicket, encodeTicket, Sample.readVec_append]
  simp only [bind, Except.bind]
  rw [decodeItems_encodeItems _ (length_encodeItems _)]
  cases relayUrl with
  | none => simp [ticketOf, htexts]
  | some url => simp [ticketOf, htexts, ticketOf.text, Sample.decodeText_encodeText]

def formats : Formats := ⟨Sample.libraries, encodeTicket, decodeTicket, decodeTicket_encodeTicket⟩

def key (i : Bool) : NodeId := Sample.node (if i then 2 else 1)

def label (site : Bool) (command : Command) : Label Bool := ⟨site, command, 1000, 1000, Sample.tokenId 7⟩

def introduction (site : Bool) (n : NodeId) (name : String) : Label Bool :=
  label site (.peerAdd (n.display ++ "\n") name)

def granting : Label Bool := label true (.tokenGrant "alice" ["msg"] none)

def granted : SignedToken :=
  (signToken Sample.libraries (Sample.node 2) (Sample.node 1) [.msg] none 1000 (Sample.tokenId 7)).2

def grantedInfo : TokenInfo :=
  ⟨Sample.tokenId 7, Sample.node 2, Sample.node 1, 4102444800, [.msg], false⟩

def importing : Label Bool :=
  label false (.tokenImport (tokenEncodeBase32 formats granted ++ "\n"))

def introduced : State Bool :=
  let st := serve formats key initial (introduction false (Sample.node 2) "bob")
    (.peerAdd (Sample.node 2) "bob" none)
  serve formats key st (introduction true (Sample.node 1) "alice") (.peerAdd (Sample.node 1) "alice" none)

def trusting : State Bool :=
  serve formats key introduced granting (.tokenGrant (.name "alice") [.msg] none)

def paired : State Bool :=
  serve formats key trusting importing (.tokenImport (Sample.libraries.signed.encode granted))

lemma pasted_line (s : String) : Pasted (s ++ "\n") s :=
  ⟨[], ['\n'], by simp, List.forall_mem_singleton.mpr rfl, by simp⟩

lemma enters_introduction (st : State Bool) (site : Bool) (n : NodeId) (name : String) :
    Enters formats key st (introduction site n name)
      (serve formats key st (introduction site n name) (.peerAdd n name none)) := by
  have hrequest : cmdPeerAdd formats (n.display ++ "\n") name = .request (.peerAdd n name none) :=
    cmdPeerAdd_nodeid (pasted_line n.display) name
  simp only [Enters, enter, introduction, label, hrequest, perform]

lemma enters_import (st : State Bool) (site : Bool) (signed : SignedToken) :
    Enters formats key st (label site (.tokenImport (tokenEncodeBase32 formats signed ++ "\n")))
      (serve formats key st (label site (.tokenImport (tokenEncodeBase32 formats signed ++ "\n")))
        (.tokenImport (formats.auth.signed.encode signed))) := by
  have hrequest : cmdTokenImport formats (tokenEncodeBase32 formats signed ++ "\n") =
      .request (.tokenImport (formats.auth.signed.encode signed)) :=
    cmdTokenImport_pasted (pasted_line (tokenEncodeBase32 formats signed))
  simp only [Enters, enter, label, hrequest, perform]

lemma trusting_run : Run (Enters formats key) initial
    [introduction false (Sample.node 2) "bob", introduction true (Sample.node 1) "alice", granting]
    trusting := by
  have hgrant : cmdTokenGrant "alice" ["msg"] none =
      .request (.tokenGrant (.name "alice") [.msg] none) := by decide +kernel
  refine .cons (enters_introduction ..) (.cons (enters_introduction ..) (.single ?_))
  change perform formats key introduced granting (cmdTokenGrant "alice" ["msg"] none) = trusting
  rw [hgrant]
  rfl

lemma trusting_unforged : Run (Guarded (Unforged formats key) (Enters formats key)) initial
    [introduction false (Sample.node 2) "bob", introduction true (Sample.node 1) "alice", granting]
    trusting := by
  refine (trusting_run.guard (p := fun l => ∀ text, l.command ≠ .tokenImport text) ?_).mono ?_
  · simp [introduction, granting, label]
  · rintro st l st' ⟨hl, hs⟩
    exact ⟨fun text _ _ htext => (hl text htext).elim, hs⟩

lemma trusting_printed : ∃ p ∈ trusting.printed, p.author = true ∧
    p.what = .token (Sample.libraries.signed.encode granted) grantedInfo := by
  have hissued : (answer formats key introduced granting (.tokenGrant (.name "alice") [.msg] none)).2 =
      [.tokenIssued (Sample.libraries.signed.encode granted) grantedInfo] := by decide +kernel
  have hmem : .tokenIssued (formats.auth.signed.encode granted) grantedInfo ∈
      (answer formats key introduced granting (.tokenGrant (.name "alice") [.msg] none)).2 := by
    rw [hissued]
    exact List.mem_singleton_self _
  exact ⟨_, issued_printed hmem, rfl, rfl⟩

lemma importing_unforged : Unforged formats key trusting importing := by
  have halice : ¬ Sample.ed.verify (key false) granted.claimsCbor granted.sig = true := by decide +kernel
  intro text signed i hl hdecode hverify
  obtain rfl := Command.tokenImport.inj hl
  rw [tokenDecodeBase32_pasted (pasted_line (tokenEncodeBase32 formats granted))] at hdecode
  obtain rfl := Except.ok.inj hdecode
  cases i with
  | false => exact (halice hverify).elim
  | true =>
    obtain ⟨p, hp, hauthor, hwhat⟩ := trusting_printed
    exact ⟨p, hp, _, _, granted, by rw [hauthor], hwhat, formats.auth.signed.decode_encode granted, rfl⟩

end WalkieTalkie.Cli.Pairing
