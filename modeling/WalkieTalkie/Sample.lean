import WalkieTalkie.Delivery.Dialling
import WalkieTalkie.Lib.Cbor
import WalkieTalkie.Store.Messages

/-! A concrete choice of the libraries, on which the definitions of the model run: fixed-width
codecs for claims and signed tokens, signatures that repeat the key beside a checksum, a codec for
message frames, a checksum of a channel's name for its hash, and the tickets of two nodes. -/

namespace WalkieTalkie.Sample

open Proto Auth Lib

def readVec (n : ℕ) (bs : Bytes) : Except String (Vector UInt8 n × Bytes) :=
  if h : (bs.take n).length = n then .ok (⟨(bs.take n).toArray, by simpa using h⟩, bs.drop n)
  else .error "unexpected end of input"

lemma readVec_append {n : ℕ} (v : Vector UInt8 n) (bs : Bytes) :
    readVec n (v.toList ++ bs) = .ok (v, bs) := by
  have hl : v.toList.length = n := by simp
  have ht : (v.toList ++ bs).take n = v.toList := List.take_left' hl
  have hd : (v.toList ++ bs).drop n = bs := List.drop_left' hl
  simp only [readVec, ht, hl, dite_true, hd]
  congr 2

def wordBytes (w : UInt64) : Vector UInt8 8 :=
  #v[0, 1, 2, 3, 4, 5, 6, 7].map fun i => UInt8.ofNat (w.toNat / Nat.pow 256 i)

def wordOfBytes (v : Vector UInt8 8) : UInt64 :=
  UInt64.ofNat (v.toList.foldr (fun b n => b.toNat + 256 * n) 0)

lemma wordOfBytes_wordBytes (w : UInt64) : wordOfBytes (wordBytes w) = w := by
  apply UInt64.toNat_inj.mp
  have hw := w.toNat_lt
  simp [wordOfBytes, wordBytes]
  omega

def encodeClaims (c : CapabilityToken) : Bytes :=
  c.iss.bytes.toList ++ (c.sub.bytes.toList ++ (c.id.toList ++ ((wordBytes c.exp).toList ++
    c.caps.map fun _ => 0)))

def decodeClaims (bs : Bytes) : Except String CapabilityToken := do
  let (iss, bs) ← readVec 32 bs
  let (sub, bs) ← readVec 32 bs
  let (id, bs) ← readVec 16 bs
  let (exp, bs) ← readVec 8 bs
  return ⟨⟨iss⟩, ⟨sub⟩, wordOfBytes exp, bs.map fun _ => .msg, id⟩

lemma decodeClaims_encodeClaims (c : CapabilityToken) :
    decodeClaims (encodeClaims c) = .ok c := by
  have hcaps : (c.caps.map fun _ => (0 : UInt8)).map (fun _ => Cap.msg) = c.caps := by
    rw [List.map_map]
    exact (List.map_congr_left fun cap _ => by cases cap; rfl).trans (List.map_id _)
  simp only [decodeClaims, encodeClaims, readVec_append, bind, Except.bind, pure, Except.pure,
    wordOfBytes_wordBytes, hcaps]

def encodeSigned (t : SignedToken) : Bytes :=
  List.replicate t.sig.length 1 ++ 0 :: (t.sig ++ t.claimsCbor)

def decodeSigned (bs : Bytes) : Except String SignedToken :=
  let n := (bs.takeWhile (· = 1)).length
  .ok ⟨(bs.drop (n + 1)).drop n, (bs.drop (n + 1)).take n⟩

lemma decodeSigned_encodeSigned (t : SignedToken) : decodeSigned (encodeSigned t) = .ok t := by
  have hn : ((encodeSigned t).takeWhile (· = 1)).length = t.sig.length := by
    rw [encodeSigned, List.takeWhile_append_of_pos (by simp)]
    simp
  have hd : (encodeSigned t).drop (t.sig.length + 1) = t.sig ++ t.claimsCbor := by
    rw [encodeSigned, List.append_cons, List.drop_left' (by simp)]
  simp [decodeSigned, hn, hd]

def encodeText (text : List Char) : Bytes :=
  text.flatMap fun c => List.replicate c.toNat 1 ++ [0]

def decodeText (n : ℕ) : Bytes → List Char
  | [] => []
  | b :: bs => if b = 1 then decodeText (n + 1) bs else Char.ofNat n :: decodeText 0 bs

lemma decodeText_replicate (n m : ℕ) (bs : Bytes) :
    decodeText n (List.replicate m 1 ++ 0 :: bs) = Char.ofNat (n + m) :: decodeText 0 bs := by
  induction m generalizing n with
  | zero => simp [decodeText]
  | succ m ih =>
    rw [List.replicate_succ, List.cons_append, decodeText, if_pos rfl, ih]
    congr 2
    omega

lemma decodeText_encodeText (text : List Char) : decodeText 0 (encodeText text) = text := by
  induction text with
  | nil => rfl
  | cons c text ih =>
    have hc : encodeText (c :: text) = List.replicate c.toNat 1 ++ 0 :: encodeText text := by
      simp [encodeText]
    rw [hc, decodeText_replicate, ih, Nat.zero_add, Char.ofNat_toNat]

def encodeOpen : StreamOpen → Bytes
  | .msg token channel =>
    List.replicate (encodeSigned token).length 1 ++ 0 :: (encodeSigned token ++
      encodeText channel.toList)

def decodeOpen (bs : Bytes) : Except String StreamOpen := do
  let n := (bs.takeWhile (· = 1)).length
  let token ← decodeSigned ((bs.drop (n + 1)).take n)
  return .msg token (String.ofList (decodeText 0 ((bs.drop (n + 1)).drop n)))

lemma decodeOpen_encodeOpen (o : StreamOpen) : decodeOpen (encodeOpen o) = .ok o := by
  obtain ⟨token, channel⟩ := o
  have hn : ((encodeOpen (.msg token channel)).takeWhile (· = 1)).length =
      (encodeSigned token).length := by
    rw [encodeOpen, List.takeWhile_append_of_pos (by simp)]
    simp
  have hd : (encodeOpen (.msg token channel)).drop ((encodeSigned token).length + 1) =
      encodeSigned token ++ encodeText channel.toList := by
    rw [encodeOpen, List.append_cons, List.drop_left' (by simp)]
  simp [decodeOpen, hn, hd, decodeSigned_encodeSigned, decodeText_encodeText, bind, Except.bind,
    pure, Except.pure]

def claimsCodec : Codec CapabilityToken := ⟨encodeClaims, decodeClaims, decodeClaims_encodeClaims⟩

def signedCodec : Codec SignedToken := ⟨encodeSigned, decodeSigned, decodeSigned_encodeSigned⟩

def openCodec : Codec StreamOpen := ⟨encodeOpen, decodeOpen, decodeOpen_encodeOpen⟩

def checksum (key : NodeId) (m : Bytes) : Bytes :=
  key.bytes.toList ++ (List.replicate 31 0 ++ [m.foldl (· + ·) 0])

def ed : Ed25519 where
  SecretKey := NodeId
  PublicKey := NodeId
  publicOf := id
  asBytes := id
  fromBytes := some
  sign := checksum
  verify key m sig := sig = checksum key m
  fromBytes_asBytes _ := rfl
  sign_length key m := by simp [checksum]
  verify_sign key m := by simp

def libraries : Libraries := ⟨ed, claimsCodec, signedCodec⟩

def encodeFrame (f : MessageFrame) : Bytes :=
  (wordBytes f.seq).toList ++ ((wordBytes f.tsMs).toList ++ f.payload)

def decodeFrame (bs : Bytes) : Except String MessageFrame := do
  let (seq, bs) ← readVec 8 bs
  let (tsMs, bs) ← readVec 8 bs
  return ⟨wordOfBytes seq, wordOfBytes tsMs, bs⟩

lemma length_encodeFrame (f : MessageFrame) : (encodeFrame f).length = 16 + f.payload.length := by
  simp [encodeFrame]
  omega

lemma decodeFrame_encodeFrame (f : MessageFrame) : decodeFrame (encodeFrame f) = .ok f := by
  simp only [decodeFrame, encodeFrame, readVec_append, bind, Except.bind, pure, Except.pure,
    wordOfBytes_wordBytes]

def frameCodec : Codec MessageFrame := ⟨encodeFrame, decodeFrame, decodeFrame_encodeFrame⟩

def channelId (channel : String) : Store.ChannelId :=
  Vector.replicate 16 (channel.toList.foldl (fun b c => 31 * b + UInt8.ofNat c.toNat) 0)

def node (b : UInt8) : NodeId := ⟨Vector.replicate 32 b⟩

def tokenId (b : UInt8) : TokenId := Vector.replicate 16 b

def ticketCbor (owner : NodeId) : Bytes :=
  Cbor.record [("nodeid", Cbor.byteArray owner.bytes.toList), ("relay_url", [0xf6]),
    ("direct_addrs", Cbor.array [])]

def tickets : Delivery.Tickets where
  decode bytes :=
    match [node 2, node 3].find? fun n => ticketCbor n = bytes with
    | some n => .ok ⟨n, none, []⟩
    | none => .error "failed to fill whole buffer"
  isRelayUrl _ := false

end WalkieTalkie.Sample
