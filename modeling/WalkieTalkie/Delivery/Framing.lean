import WalkieTalkie.Delivery.Inbound
import WalkieTalkie.Lib.Cbor
import WalkieTalkie.Lib.Frames

/-! The frames of a stream: a length of four bytes, then the body. A stream that its writer has
finished is a list of bytes; reading more of it than there is takes what is left and tells how much
that was. -/

namespace WalkieTalkie.Delivery.Framing

open Proto Lib

inductive FrameError
  | cleanEof
  | tooLarge (len : ℕ)
  | read (finishedEarly : ℕ)
deriving DecidableEq

def writeCborFrame (sent body : Bytes) : Except String Unit × Bytes :=
  if maxFrameBytes < body.length then
    (.error ("frame too large: " ++ toString body.length ++ " bytes"), sent)
  else (.ok (), sent ++ Cbor.bigEndian 4 body.length ++ body)

def readExact (n : ℕ) (stream : Bytes) : Except ℕ Bytes × Bytes :=
  if n ≤ stream.length then (.ok (stream.take n), stream.drop n) else (.error stream.length, [])

def readCborFrame (stream : Bytes) : Except FrameError Bytes × Bytes :=
  match readExact 4 stream with
  | (.error 0, rest) => (.error .cleanEof, rest)
  | (.error e, rest) => (.error (.read e), rest)
  | (.ok lenBuf, rest) =>
    let len := Cbor.fromBigEndian lenBuf
    if maxFrameBytes < len then (.error (.tooLarge len), rest)
    else
      match readExact len rest with
      | (.error e, rest) => (.error (.read e), rest)
      | (.ok buf, rest) => (.ok buf, rest)

/-- What is sent when the bodies are written one after the other. -/
def written (bodies : List Bytes) : Bytes :=
  bodies.foldl (fun sent body => (writeCborFrame sent body).2) []

def frame (body : Bytes) : Bytes := Cbor.bigEndian 4 body.length ++ body

variable {stream rest header body : Bytes} {bodies : List Bytes}

lemma readExact_append {n : ℕ} (h : header.length = n) :
    readExact n (header ++ rest) = (.ok header, rest) := by
  subst h
  rw [readExact, if_pos (by simp), List.take_left, List.drop_left]

lemma readExact_short {n : ℕ} (h : stream.length < n) :
    readExact n stream = (.error stream.length, []) := by
  rw [readExact, if_neg (Nat.not_le.mpr h)]

lemma readExact_ok {n : ℕ} {buf : Bytes} (h : readExact n stream = (.ok buf, rest)) :
    stream = buf ++ rest ∧ buf.length = n := by
  rw [readExact] at h
  split at h
  · next hle =>
    obtain ⟨hbuf, rfl⟩ := Prod.mk.inj h
    obtain rfl := Except.ok.inj hbuf
    exact ⟨(List.take_append_drop n stream).symm, List.length_take_of_le hle⟩
  · cases (Prod.mk.inj h).1

lemma readCborFrame_header (h : header.length = 4) : readCborFrame (header ++ rest) =
    if maxFrameBytes < Cbor.fromBigEndian header then
      (.error (.tooLarge (Cbor.fromBigEndian header)), rest)
    else
      match readExact (Cbor.fromBigEndian header) rest with
      | (.error e, rest) => (.error (.read e), rest)
      | (.ok buf, rest) => (.ok buf, rest) := by
  rw [readCborFrame, readExact_append h]

lemma readCborFrame_short (h : stream.length < 4) (hne : stream ≠ []) :
    readCborFrame stream = (.error (.read stream.length), []) := by
  rw [readCborFrame, readExact_short h]
  cases stream with
  | nil => exact absurd rfl hne
  | cons b rest => rfl

lemma readCborFrame_shorter (h : readCborFrame stream = (.ok body, rest)) :
    rest.length < stream.length := by
  by_cases hlen : stream.length < 4
  · rw [readCborFrame, readExact_short hlen] at h
    split at h
    · cases (Prod.mk.inj h).1
    · cases (Prod.mk.inj h).1
    · next heq => cases (Prod.mk.inj heq).1
  · obtain ⟨header, tail, rfl, hheader⟩ : ∃ header tail, stream = header ++ tail ∧ header.length = 4 :=
      ⟨stream.take 4, stream.drop 4, (List.take_append_drop 4 stream).symm,
        List.length_take_of_le (Nat.not_lt.mp hlen)⟩
    rw [readCborFrame_header hheader] at h
    split at h
    · cases (Prod.mk.inj h).1
    · split at h
      · cases (Prod.mk.inj h).1
      · next buf left hread =>
        obtain ⟨_, rfl⟩ := Prod.mk.inj h
        obtain ⟨rfl, _⟩ := readExact_ok hread
        simp only [List.length_append]
        omega

def reader : Frames.Reader Bytes UInt8 FrameError where
  read := readCborFrame
  shorter := readCborFrame_shorter

/-- `read_cbor_frame` again and again, up to its first error. -/
def readAll (stream : Bytes) : List Bytes × FrameError := reader.all stream

/-- The reader of a stream that is still open reads the same frames. -/
lemma readCborFrame_agrees : Inbound.readCborFrame stream = .frame body rest ↔
    readCborFrame stream = (.ok body, rest) := by
  match stream with
  | [] => simp [Inbound.readCborFrame, readCborFrame, readExact]
  | [_] => simp [Inbound.readCborFrame, readCborFrame, readExact]
  | [_, _] => simp [Inbound.readCborFrame, readCborFrame, readExact]
  | [_, _, _] => simp [Inbound.readCborFrame, readCborFrame, readExact]
  | a :: b :: c :: d :: tail =>
    have hheader := @readCborFrame_header tail [a, b, c, d] rfl
    have hlen : Cbor.fromBigEndian [a, b, c, d] =
        ((a.toNat * 256 + b.toNat) * 256 + c.toNat) * 256 + d.toNat := by
      simp [Cbor.fromBigEndian]
    rw [hlen] at hheader
    rw [show a :: b :: c :: d :: tail = [a, b, c, d] ++ tail from rfl, hheader]
    simp only [List.cons_append, List.nil_append, Inbound.readCborFrame, gt_iff_lt]
    split
    · simp
    · rw [readExact]
      split
      · next hshort =>
        rw [if_neg (Nat.not_le.mpr hshort)]
        simp
      · next hlong =>
        rw [if_pos (Nat.not_lt.mp hlong)]
        simp

lemma fromBigEndian_length (h : body.length ≤ maxFrameBytes) :
    Cbor.fromBigEndian (Cbor.bigEndian 4 body.length) = body.length := by
  rw [Cbor.fromBigEndian_bigEndian]
  apply Nat.mod_eq_of_lt
  simp only [maxFrameBytes] at h
  omega

lemma readCborFrame_frame (h : body.length ≤ maxFrameBytes) (rest : Bytes) :
    readCborFrame (frame body ++ rest) = (.ok body, rest) := by
  rw [frame, List.append_assoc, readCborFrame_header (Cbor.length_bigEndian 4 _),
    fromBigEndian_length h, if_neg (Nat.not_lt.mpr h), readExact_append rfl]

lemma readCborFrame_nil : readCborFrame [] = (.error .cleanEof, []) := rfl

lemma readCborFrame_part {part : Bytes} (hsize : body.length ≤ maxFrameBytes)
    (hpart : part <+: frame body) (hne : part ≠ frame body) (hsome : part ≠ []) :
    ∃ k, readCborFrame part = (.error (.read k), []) := by
  by_cases hlen : part.length < 4
  · exact ⟨_, readCborFrame_short hlen hsome⟩
  · have hheader : Cbor.bigEndian 4 body.length <+: part := by
      refine List.prefix_of_prefix_length_le (List.prefix_append _ _) hpart ?_
      rw [Cbor.length_bigEndian]
      omega
    obtain ⟨tail, rfl⟩ := hheader
    have htail : tail <+: body := (List.prefix_append_right_inj _).mp hpart
    have hshort : tail.length < body.length := by
      refine Nat.lt_of_le_of_ne htail.length_le fun heq => ?_
      rw [htail.eq_of_length heq] at hne
      exact hne rfl
    refine ⟨tail.length, ?_⟩
    rw [readCborFrame_header (Cbor.length_bigEndian 4 _), fromBigEndian_length hsize,
      if_neg (Nat.not_lt.mpr hsize), readExact_short hshort]

lemma written_snoc (bodies : List Bytes) (body : Bytes) :
    written (bodies ++ [body]) = (writeCborFrame (written bodies) body).2 := by
  rw [written, List.foldl_append]
  rfl

lemma written_eq (h : ∀ body ∈ bodies, body.length ≤ maxFrameBytes) :
    written bodies = bodies.flatMap frame := by
  induction bodies using List.reverseRecOn with
  | nil => rfl
  | append_singleton bodies body ih =>
    have hbody := h body (List.mem_append_right _ (List.mem_singleton_self body))
    rw [written_snoc, ih fun b hb => h b (List.mem_append_left _ hb), writeCborFrame,
      if_neg (Nat.not_lt.mpr hbody), List.flatMap_append, List.flatMap_singleton, frame,
      List.append_assoc]

lemma readAll_append {items : List Bytes} (h : ∀ body ∈ items, body.length ≤ maxFrameBytes)
    (rest : Bytes) : readAll (items.flatMap frame ++ rest) =
      (items ++ (readAll rest).1, (readAll rest).2) :=
  @Frames.Reader.all_flatMap _ _ _ reader rest frame items fun body hbody rest =>
    readCborFrame_frame (h body hbody) rest

lemma frame_ne_nil (body : Bytes) : frame body ≠ [] := by
  apply List.ne_nil_of_length_pos
  rw [frame, List.length_append, Cbor.length_bigEndian]
  omega

lemma readAll_part {part : Bytes} (hpart : part = [] ∨ ∃ body, body.length ≤ maxFrameBytes ∧
      part <+: frame body ∧ part ≠ frame body) :
    (readAll part).1 = [] ∧ (part = [] → (readAll part).2 = .cleanEof) ∧
      (part ≠ [] → ∃ k, (readAll part).2 = .read k) := by
  by_cases hnil : part = []
  · subst hnil
    rw [readAll, Frames.Reader.all_error readCborFrame_nil]
    exact ⟨rfl, fun _ => rfl, fun h => absurd rfl h⟩
  · obtain ⟨body, hsize, hbegins, hne⟩ := hpart.resolve_left hnil
    obtain ⟨k, hk⟩ := readCborFrame_part hsize hbegins hne hnil
    rw [readAll, @Frames.Reader.all_error _ _ _ reader _ _ _ hk]
    exact ⟨rfl, fun h => absurd h hnil, fun _ => ⟨k, rfl⟩⟩

theorem frames_decode_and_cuts_show :
    (∀ bodies, (∀ body ∈ bodies, body.length ≤ maxFrameBytes) →
      readAll (written bodies) = (bodies, .cleanEof)) ∧
    (∀ bodies cut, (∀ body ∈ bodies, body.length ≤ maxFrameBytes) → cut <+: written bodies →
      ∃ front back part, bodies = front ++ back ∧ cut = written front ++ part ∧
        (∀ body later, back = body :: later → ¬ written [body] <+: part) ∧
        (readAll cut).1 = front ∧ (part = [] → (readAll cut).2 = .cleanEof) ∧
        (part ≠ [] → ∃ k, (readAll cut).2 = .read k)) ∧
    (∀ header rest : Bytes, header.length = 4 → maxFrameBytes < Cbor.fromBigEndian header →
      readCborFrame (header ++ rest) = (.error (.tooLarge (Cbor.fromBigEndian header)), rest)) ∧
    ∀ sent body e, (writeCborFrame sent body).1 = .error e → (writeCborFrame sent body).2 = sent := by
  refine ⟨fun bodies h => ?_, fun bodies cut h hcut => ?_, fun header rest hheader hlarge => ?_,
    fun sent body e he => ?_⟩
  · have hall := readAll_append h []
    rw [List.append_nil] at hall
    rw [written_eq h, hall, readAll, Frames.Reader.all_error readCborFrame_nil, List.append_nil]
  · rw [written_eq h] at hcut
    obtain ⟨front, back, part, rfl, rfl, hpart⟩ := Frames.cut_flatMap hcut
    have hfront : ∀ body ∈ front, body.length ≤ maxFrameBytes :=
      fun body hbody => h body (List.mem_append_left _ hbody)
    have hnext : part = [] ∨ ∃ body, body.length ≤ maxFrameBytes ∧ part <+: frame body ∧
        part ≠ frame body := by
      refine hpart.imp_right ?_
      rintro ⟨body, later, rfl, hbegins, hne⟩
      exact ⟨body, h body (List.mem_append_right _ List.mem_cons_self), hbegins, hne⟩
    obtain ⟨hitems, hclean, hread⟩ := readAll_part hnext
    rw [readAll_append hfront, hitems, List.append_nil]
    refine ⟨front, back, part, rfl, by rw [written_eq hfront], fun body later hback hwhole => ?_, rfl,
      hclean, hread⟩
    have hbody : body.length ≤ maxFrameBytes := by
      apply h
      rw [hback]
      exact List.mem_append_right _ List.mem_cons_self
    rw [written_eq (List.forall_mem_singleton.mpr hbody), List.flatMap_singleton] at hwhole
    rcases hpart with rfl | ⟨body', later', hback', hbegins, hne⟩
    · exact frame_ne_nil body (List.prefix_nil.mp hwhole)
    · obtain ⟨rfl, _⟩ := List.cons.inj (hback.symm.trans hback')
      exact hne (hbegins.eq_of_length (Nat.le_antisymm hbegins.length_le hwhole.length_le))
  · rw [readCborFrame_header hheader, if_pos hlarge]
  · rw [writeCborFrame] at he ⊢
    split at he
    · next hlarge => rw [if_pos hlarge]
    · cases he

end WalkieTalkie.Delivery.Framing
