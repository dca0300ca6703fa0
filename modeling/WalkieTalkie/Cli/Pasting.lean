import WalkieTalkie.Cli.Duration
import WalkieTalkie.Cli.Selector
import WalkieTalkie.Lib.Radix

/-! The texts that pair two installations: a node id in hex, a ticket with the addresses of a node and
a signed token, each printed by one command and pasted as an argument of another. Blanks around a
pasted text do no harm. -/

namespace WalkieTalkie.Cli.Pasting

open Proto Auth Lib.Radix
open Daemon.Trust (Request)
open Sessions (trim isWhitespace)

structure Formats where
  auth : Auth.Libraries
  tickets : Codec AddrTicket

inductive TicketError
  | wrongPrefix
  | base32
  | decode
deriving DecidableEq

def TicketError.display : TicketError → String
  | .wrongPrefix => "ticket missing `wt1:` prefix"
  | .base32 => "ticket body is not valid base32"
  | .decode => "ticket CBOR decode failed"

def ticketPrefix : List Char := ['w', 't', '1', ':']

variable (lib : Formats)

def ticketEncode (t : AddrTicket) : String :=
  String.ofList (ticketPrefix ++ base32.encode (lib.tickets.encode t))

def ticketDecode (s : String) : Except TicketError AddrTicket :=
  let s := trim s.toList
  if ticketPrefix.isPrefixOf s then
    match base32.decode (s.drop ticketPrefix.length) with
    | none => .error .base32
    | some bytes =>
      match lib.tickets.decode bytes with
      | .error _ => .error .decode
      | .ok t => .ok t
  else .error .wrongPrefix

def tokenEncodeBase32 (t : SignedToken) : String :=
  String.ofList (base32.encode (lib.auth.signed.encode t))

def tokenDecodeBase32 (s : String) : Except String SignedToken :=
  match base32.decode (trim s.toList) with
  | none => .error "token is not valid base32 (no padding)"
  | some bytes =>
    match lib.auth.signed.decode bytes with
    | .error _ => .error "decode signed token"
    | .ok t => .ok t

def capFromStr (s : String) : Except String Cap :=
  if s = "msg" then .ok .msg else .error ("unknown capability: " ++ s)

/-- What a command does before it speaks to the daemon. -/
inductive Typed
  | abort
  | err (message : String)
  | request (r : Request)
deriving DecidableEq

def cmdPeerAdd (idOrTicket name : String) : Typed :=
  let trimmed := trim idOrTicket.toList
  if ticketPrefix.isPrefixOf trimmed then
    match ticketDecode lib (String.ofList trimmed) with
    | .error e => .err ("decode ticket: " ++ e.display)
    | .ok t => .request (.peerAdd t.nodeid name (some (lib.tickets.encode t)))
  else
    match NodeId.fromStr (String.ofList trimmed) with
    | .error _ => .err "parse NodeId hex (or pass a wt1:… ticket)"
    | .ok nid => .request (.peerAdd nid name none)

def cmdPeerRm (peer : String) : Typed := .request (.peerRm (peerSelector peer))

def cmdTokenGrant (peer : String) (caps : List String) (ttl : Option String) : Typed :=
  match caps.mapM capFromStr with
  | .error e => .err e
  | .ok caps =>
    match ttl.map parseDuration with
    | none => .request (.tokenGrant (peerSelector peer) caps none)
    | some (.ok secs) => .request (.tokenGrant (peerSelector peer) caps (some (UInt64.ofNat secs)))
    | some (.err e) => .err e
    | some .abort => .abort

def cmdTokenImport (token : String) : Typed :=
  match tokenDecodeBase32 lib token with
  | .error e => .err e
  | .ok signed => .request (.tokenImport (lib.auth.signed.encode signed))

def cmdTokenRevoke (idHex : String) : Typed :=
  match fromHex idHex.toList with
  | none => .err "token id is not hex"
  | some bytes =>
    if h : bytes.length = 16 then .request (.tokenRevoke ⟨bytes.toArray, h⟩)
    else .err "token id must be 16 bytes (32 hex chars)"

/-- A text that was printed, with blanks around it. -/
def Pasted (text printed : String) : Prop :=
  ∃ before after, (∀ c ∈ before, isWhitespace c = true) ∧ (∀ c ∈ after, isWhitespace c = true) ∧
    text.toList = before ++ printed.toList ++ after

def Solid (cs : List Char) : Prop := ∀ c ∈ cs, isWhitespace c = false

variable {lib}

lemma Solid.dropWhile {cs : List Char} (h : Solid cs) : cs.dropWhile isWhitespace = cs := by
  cases cs with
  | nil => rfl
  | cons c cs => simp [h c List.mem_cons_self]

lemma Solid.trim_pasted {text printed : String} (h : Solid printed.toList) (hp : Pasted text printed) :
    trim text.toList = printed.toList := by
  obtain ⟨before, after, hbefore, hafter, heq⟩ := hp
  have hback : Solid printed.toList.reverse := fun c hc => h c (List.mem_reverse.mp hc)
  rw [heq, trim, List.append_assoc, List.dropWhile_append_of_pos hbefore]
  cases hcs : printed.toList with
  | nil => simp [List.dropWhile_eq_nil_iff.mpr hafter]
  | cons c cs =>
    have hc : isWhitespace c = false := h c (by simp [hcs])
    rw [List.cons_append, List.dropWhile_cons_of_neg (by simp [hc]), ← List.cons_append,
      List.reverse_append, List.dropWhile_append_of_pos fun c hc => hafter c (List.mem_reverse.mp hc),
      ← hcs, hback.dropWhile, List.reverse_reverse]

lemma solid_base32 (bytes : Bytes) : Solid (base32.encode bytes) := by
  have hsymbols : ∀ d < 32, isWhitespace (symbol32 d) = false := by decide
  intro c hc
  obtain ⟨d, hd, rfl⟩ := List.mem_map.mp hc
  exact hsymbols d (digits_lt (by decide) d hd)

lemma solid_hex (bytes : Bytes) : Solid (hexEncode bytes).toList := by
  have hdigits : ∀ n < 16, isWhitespace (hexDigit n) = false := by decide
  intro c hc
  simp only [hexEncode, String.toList_ofList, List.mem_flatMap, List.mem_cons, List.not_mem_nil,
    or_false] at hc
  obtain ⟨b, -, rfl | rfl⟩ := hc
  · have hb := b.toNat_lt
    apply hdigits
    omega
  · apply hdigits
    omega

lemma solid_ticket (t : AddrTicket) : Solid (ticketEncode lib t).toList := by
  have hall : ticketPrefix.all (fun c => !isWhitespace c) = true := by decide
  have hstart : Solid ticketPrefix := by simpa [Solid] using List.all_eq_true.mp hall
  intro c hc
  rw [ticketEncode, String.toList_ofList, List.mem_append] at hc
  exact hc.elim (hstart c) (solid_base32 _ c)

lemma solid_token (t : SignedToken) : Solid (tokenEncodeBase32 lib t).toList := by
  rw [tokenEncodeBase32, String.toList_ofList]
  exact solid_base32 _

lemma decode_base32 {text : List Char} {bytes : Bytes} :
    base32.decode text = some bytes ↔ text = base32.encode bytes :=
  Alphabet.decode_eq_some (by decide) (by decide)

lemma ticketDecode_ok {text : String} {t : AddrTicket} : ticketDecode lib text = .ok t ↔
    ∃ bytes, trim text.toList = ticketPrefix ++ base32.encode bytes ∧ lib.tickets.decode bytes = .ok t := by
  rw [ticketDecode]
  constructor
  · intro h
    split at h
    · next hstart =>
      obtain ⟨rest, hrest⟩ := List.isPrefixOf_iff_prefix.mp hstart
      rw [← hrest, List.drop_left] at h
      split at h
      · cases h
      · next bytes hbytes =>
        split at h
        · cases h
        · next ht =>
          obtain rfl := Except.ok.inj h
          exact ⟨bytes, by rw [← hrest, decode_base32.mp hbytes], ht⟩
    · cases h
  · rintro ⟨bytes, htrim, ht⟩
    have hstart : ticketPrefix.isPrefixOf (ticketPrefix ++ base32.encode bytes) = true :=
      List.isPrefixOf_iff_prefix.mpr (List.prefix_append ..)
    simp only [htrim, hstart, if_true, List.drop_left, decode_base32.mpr rfl, ht]

lemma ticketDecode_pasted {t : AddrTicket} {text : String} (h : Pasted text (ticketEncode lib t)) :
    ticketDecode lib text = .ok t := by
  have htrim := (solid_ticket t).trim_pasted h
  rw [ticketEncode, String.toList_ofList] at htrim
  exact ticketDecode_ok.mpr ⟨_, htrim, lib.tickets.decode_encode t⟩

lemma pasted_self (s : String) : Pasted s s := ⟨[], [], by simp⟩

lemma cmdPeerAdd_ticket {t : AddrTicket} {text : String} (h : Pasted text (ticketEncode lib t))
    (name : String) :
    cmdPeerAdd lib text name = .request (.peerAdd t.nodeid name (some (lib.tickets.encode t))) := by
  have htrim := (solid_ticket t).trim_pasted h
  have hstart : ticketPrefix.isPrefixOf (ticketEncode lib t).toList = true := by
    rw [ticketEncode, String.toList_ofList]
    exact List.isPrefixOf_iff_prefix.mpr (List.prefix_append ..)
  simp [cmdPeerAdd, htrim, hstart, ticketDecode_pasted (pasted_self (ticketEncode lib t))]

lemma hexEncode_no_colon (bytes : Bytes) : ':' ∉ (hexEncode bytes).toList := by
  have hdigits : ∀ n < 16, ':' ≠ hexDigit n := by decide
  intro hc
  simp only [hexEncode, String.toList_ofList, List.mem_flatMap, List.mem_cons, List.not_mem_nil,
    or_false] at hc
  obtain ⟨b, -, hb | hb⟩ := hc
  · have hlt := b.toNat_lt
    exact hdigits (b.toNat / 16) (by omega) hb
  · exact hdigits (b.toNat % 16) (by omega) hb

lemma cmdPeerAdd_nodeid {n : NodeId} {text : String} (h : Pasted text n.display) (name : String) :
    cmdPeerAdd lib text name = .request (.peerAdd n name none) := by
  have htrim := (solid_hex n.bytes.toList).trim_pasted h
  have hstart : ¬ ticketPrefix.isPrefixOf (hexEncode n.bytes.toList).toList = true := by
    intro hp
    obtain ⟨rest, hrest⟩ := List.isPrefixOf_iff_prefix.mp hp
    apply hexEncode_no_colon n.bytes.toList
    rw [← hrest]
    simp [ticketPrefix]
  have hback : String.ofList (hexEncode n.bytes.toList).toList = n.display := String.ofList_toList
  rw [cmdPeerAdd]
  simp only [htrim, hstart, hback, NodeId.fromStr_display]
  rfl

lemma tokenDecodeBase32_ok {text : String} {t : SignedToken} : tokenDecodeBase32 lib text = .ok t ↔
    ∃ bytes, trim text.toList = base32.encode bytes ∧ lib.auth.signed.decode bytes = .ok t := by
  rw [tokenDecodeBase32]
  constructor
  · intro h
    split at h
    · cases h
    · next bytes hbytes =>
      split at h
      · cases h
      · next ht =>
        obtain rfl := Except.ok.inj h
        exact ⟨bytes, decode_base32.mp hbytes, ht⟩
  · rintro ⟨bytes, htrim, ht⟩
    rw [htrim, decode_base32.mpr rfl]
    simp only [ht]

lemma tokenDecodeBase32_pasted {t : SignedToken} {text : String}
    (h : Pasted text (tokenEncodeBase32 lib t)) : tokenDecodeBase32 lib text = .ok t := by
  have htrim := (solid_token t).trim_pasted h
  rw [tokenEncodeBase32, String.toList_ofList] at htrim
  exact tokenDecodeBase32_ok.mpr ⟨_, htrim, lib.auth.signed.decode_encode t⟩

lemma cmdTokenImport_pasted {t : SignedToken} {text : String}
    (h : Pasted text (tokenEncodeBase32 lib t)) :
    cmdTokenImport lib text = .request (.tokenImport (lib.auth.signed.encode t)) := by
  rw [cmdTokenImport, tokenDecodeBase32_pasted h]

lemma cmdTokenRevoke_hex (id : TokenId) :
    cmdTokenRevoke (hexEncode id.toList) = .request (.tokenRevoke id) := by
  have hdecode : fromHex (hexEncode id.toList).toList = some id.toList := by
    rw [hexEncode, String.toList_ofList, fromHex_digits]
  rw [cmdTokenRevoke, hdecode]
  dsimp only
  rw [dif_pos (Vector.length_toList ..)]
  rfl

end WalkieTalkie.Cli.Pasting
