import DarkTower.Media.Codec

/-!
# Decoding inverts encoding, up to the length field and the reserved bytes

`Header` is the header as it stands on the wire: every buffer of at least 42
bytes starts with one (`exists_header`), and what `decode_frame` does on a buffer
is said once in terms of it (`decodeFrame_header`).

* `decodeFrames_encodeFrames`: frames of the protocol version whose payload length
  fits its field are decoded as they were encoded, one after the other, and the
  bytes after them are left.
* `reencode_iff`: encoding an accepted frame again gives the bytes it was decoded
  from iff the reserved bytes were zero, provided that no unknown flag was set.
* `codec_inverse`: the two together; `reserved_and_length_lost` is a frame with a
  reserved byte, and one whose payload has 2^32 bytes.
-/

namespace DarkTower.Media

open DarkTower.Lib.Bytes

/-- A header on the wire. -/
structure Header where
  version : UInt8
  typeByte : UInt8
  userId : UInt64
  streamId : UInt32
  timestamp : UInt64
  sequence : UInt64
  payloadLen : UInt32
  flagBits : UInt16
  reserved : List UInt8
  length_reserved : reserved.length = 6

namespace Header

/-- The 42 bytes. -/
def bytes (H : Header) : List UInt8 :=
  putBE 1 H.version.toNat ++ (putBE 1 H.typeByte.toNat ++ (putBE 8 H.userId.toNat ++
    (putBE 4 H.streamId.toNat ++ (putBE 8 H.timestamp.toNat ++ (putBE 8 H.sequence.toNat ++
      (putBE 4 H.payloadLen.toNat ++ (putBE 2 H.flagBits.toNat ++ H.reserved)))))))

@[simp] theorem length_bytes (H : Header) : H.bytes.length = headerSize := by
  simp [bytes, H.length_reserved, headerSize]

/-- The frame that a header and a payload make. -/
def frame (H : Header) (frameType : FrameType) (payload : List UInt8) : MediaFrame where
  version := H.version
  userId := H.userId
  streamId := H.streamId
  frameType := frameType
  timestamp := H.timestamp
  sequence := H.sequence
  flags := .fromU16 H.flagBits
  payload := payload

end Header

/-- The header that `encode_frame` writes. -/
def MediaFrame.header (f : MediaFrame) : Header where
  version := f.version
  typeByte := f.frameType.toU8
  userId := f.userId
  streamId := f.streamId
  timestamp := f.timestamp
  sequence := f.sequence
  payloadLen := UInt32.ofNat f.payload.length
  flagBits := f.flags.toU16
  reserved := List.replicate 6 0
  length_reserved := by simp

theorem encodeFrame_eq (f : MediaFrame) : encodeFrame f = .ok (f.header.bytes ++ f.payload) := by
  simp [encodeFrame, Header.bytes, MediaFrame.header]

/-! ## Reading the fields -/

theorem getU8_putBE (x : UInt8) : UInt8.ofNat (getBE (putBE 1 x.toNat)) = x := by
  rw [getBE_putBE_of_lt (by have := x.toNat_lt; omega), UInt8.ofNat_toNat]

theorem getU16_putBE (x : UInt16) : UInt16.ofNat (getBE (putBE 2 x.toNat)) = x := by
  rw [getBE_putBE_of_lt (by have := x.toNat_lt; omega), UInt16.ofNat_toNat]

theorem getU32_putBE (x : UInt32) : UInt32.ofNat (getBE (putBE 4 x.toNat)) = x := by
  rw [getBE_putBE_of_lt (by have := x.toNat_lt; omega), UInt32.ofNat_toNat]

theorem getU64_putBE (x : UInt64) : UInt64.ofNat (getBE (putBE 8 x.toNat)) = x := by
  rw [getBE_putBE_of_lt (by have := x.toNat_lt; omega), UInt64.ofNat_toNat]

/-- What `decode_frame` does on a buffer that starts with a header. -/
theorem decodeFrame_header (H : Header) (rest : List UInt8) :
    decodeFrame (H.bytes ++ rest) =
      if H.version ≠ protocolVersion then
        ((H.bytes ++ rest).drop 1, .error (.unsupportedVersion H.version))
      else
        match FrameType.fromU8 H.typeByte with
        | none => ((H.bytes ++ rest).drop 2, .error (.invalidFrameType H.typeByte))
        | some frameType =>
          if rest.length < H.payloadLen.toNat then (rest, .error .insufficientData)
          else
            (rest.drop H.payloadLen.toNat,
              .ok (H.frame frameType (rest.take H.payloadLen.toNat))) := by
  have hlen : ¬ (H.bytes ++ rest).length < headerSize := by simp
  have hreserved : (H.reserved ++ rest).drop 6 = rest := List.drop_left' H.length_reserved
  have htwo : (H.bytes ++ rest).drop 2 = ((H.bytes ++ rest).drop 1).drop 1 := by
    rw [List.drop_drop]
  rw [decodeFrame, if_neg hlen, htwo]
  simp only [Header.bytes, List.append_assoc, take_putBE, drop_putBE, getU8_putBE, getU16_putBE,
    getU32_putBE, getU64_putBE, hreserved]
  rfl

/-- A buffer that is long enough starts with a header. -/
theorem exists_header {data : List UInt8} (h : headerSize ≤ data.length) :
    ∃ H : Header, data = H.bytes ++ data.drop headerSize := by
  unfold headerSize at h
  have number : ∀ {w n : ℕ}, n + w ≤ 42 → data.drop n =
      putBE w (getBE ((data.drop n).take w)) ++ data.drop (n + w) := by
    intro w n hw
    have hle : w ≤ (data.drop n).length := by simp; omega
    have heq := eq_putBE_append hle
    rwa [List.drop_drop] at heq
  have hreserved : ((data.drop 36).take 6).length = 6 := by simp; omega
  have get : ∀ w n, getBE ((data.drop n).take w) < 256 ^ w := fun w n => getBE_take_lt w _
  refine ⟨⟨UInt8.ofNat (getBE ((data.drop 0).take 1)), UInt8.ofNat (getBE ((data.drop 1).take 1)),
    UInt64.ofNat (getBE ((data.drop 2).take 8)), UInt32.ofNat (getBE ((data.drop 10).take 4)),
    UInt64.ofNat (getBE ((data.drop 14).take 8)), UInt64.ofNat (getBE ((data.drop 22).take 8)),
    UInt32.ofNat (getBE ((data.drop 30).take 4)), UInt16.ofNat (getBE ((data.drop 34).take 2)),
    (data.drop 36).take 6, hreserved⟩, ?_⟩
  simp only [Header.bytes, List.append_assoc, headerSize]
  rw [UInt8.toNat_ofNat_of_lt' (get 1 0), UInt8.toNat_ofNat_of_lt' (get 1 1),
    UInt64.toNat_ofNat_of_lt' (get 8 2), UInt32.toNat_ofNat_of_lt' (get 4 10),
    UInt64.toNat_ofNat_of_lt' (get 8 14), UInt64.toNat_ofNat_of_lt' (get 8 22),
    UInt32.toNat_ofNat_of_lt' (get 4 30), UInt16.toNat_ofNat_of_lt' (get 2 34)]
  have hend : (data.drop 36).take 6 ++ data.drop 42 = data.drop 36 := by
    have := List.take_append_drop 6 (data.drop 36)
    rwa [List.drop_drop] at this
  rw [hend, ← number (w := 2) (n := 34) (by omega), ← number (w := 4) (n := 30) (by omega),
    ← number (w := 8) (n := 22) (by omega), ← number (w := 8) (n := 14) (by omega),
    ← number (w := 4) (n := 10) (by omega), ← number (w := 8) (n := 2) (by omega),
    ← number (w := 1) (n := 1) (by omega), ← number (w := 1) (n := 0) (by omega)]
  rfl

/-- The flag word of a buffer. -/
def flagBits (data : List UInt8) : UInt16 := UInt16.ofNat (getBE ((data.drop 34).take 2))

/-- The reserved bytes of a buffer. -/
def reservedBytes (data : List UInt8) : List UInt8 := (data.drop 36).take 6

/-- The bits that `FrameFlags` has no name for. -/
def unknownFlags : UInt16 := 0xFFFC

theorem drop_header (H : Header) (rest : List UInt8) :
    (H.bytes ++ rest).drop 34 = putBE 2 H.flagBits.toNat ++ (H.reserved ++ rest) := by
  simp only [Header.bytes, List.append_assoc]
  rw [drop_putBE_add 1 _ 33, drop_putBE_add 1 _ 32, drop_putBE_add 8 _ 24, drop_putBE_add 4 _ 20,
    drop_putBE_add 8 _ 12, drop_putBE_add 8 _ 4, drop_putBE_add 4 _ 0, List.drop_zero]

theorem flagBits_header (H : Header) (rest : List UInt8) :
    flagBits (H.bytes ++ rest) = H.flagBits := by
  rw [flagBits, drop_header, take_putBE, getU16_putBE]

theorem reservedBytes_header (H : Header) (rest : List UInt8) :
    reservedBytes (H.bytes ++ rest) = H.reserved := by
  have hdrop : (H.bytes ++ rest).drop 36 = H.reserved ++ rest := by
    rw [show 36 = 34 + 2 from rfl, ← List.drop_drop, drop_header, drop_putBE]
  rw [reservedBytes, hdrop]
  exact List.take_left' H.length_reserved

/-! ## Types and flags -/

theorem fromU8_toU8 (t : FrameType) : FrameType.fromU8 t.toU8 = some t := by
  cases t <;> rfl

theorem toU8_of_fromU8 {byte : UInt8} {t : FrameType} (h : FrameType.fromU8 byte = some t) :
    t.toU8 = byte := by
  unfold FrameType.fromU8 at h
  split_ifs at h with h₀ h₁ h₂ <;> simp_all [FrameType.toU8] <;> subst h <;> rfl

theorem fromU16_toU16 (f : FrameFlags) : FrameFlags.fromU16 f.toU16 = f := by
  rcases f with ⟨_ | _, _ | _⟩ <;> rfl

/-- A word without unknown flags is one of four. -/
theorem lt_of_no_unknownFlags {x : UInt16} (h : x &&& unknownFlags = 0) : x.toNat < 4 := by
  have hand : x.toNat &&& 0xFFFC = 0 := by
    have := congrArg UInt16.toNat h
    simpa [unknownFlags] using this
  have hshift : x.toNat >>> 2 &&& (2 ^ 14 - 1) = 0 := by
    have := congrArg (· >>> 2) hand
    simpa [Nat.shiftRight_and_distrib] using this
  rw [Nat.and_two_pow_sub_one_eq_mod, Nat.shiftRight_eq_div_pow] at hshift
  have hlt := x.toNat_lt
  omega

theorem toU16_fromU16 {x : UInt16} (h : x &&& unknownFlags = 0) :
    (FrameFlags.fromU16 x).toU16 = x := by
  have hlt := lt_of_no_unknownFlags h
  rw [← UInt16.ofNat_toNat (x := x)]
  generalize x.toNat = n at hlt
  match n, hlt with
  | 0, _ | 1, _ | 2, _ | 3, _ => rfl

/-! ## Encoding, then decoding -/

/-- The payload is cut to the length that its field can hold. -/
theorem decodeFrame_encode {f : MediaFrame} (hversion : f.version = protocolVersion)
    (tail : List UInt8) :
    decodeFrame (f.header.bytes ++ (f.payload ++ tail)) =
      ((f.payload ++ tail).drop (f.payload.length % 2 ^ 32),
        .ok { f with payload := f.payload.take (f.payload.length % 2 ^ 32) }) := by
  have hlen : f.header.payloadLen.toNat = f.payload.length % 2 ^ 32 := by
    simp [MediaFrame.header]
  have hle : f.payload.length % 2 ^ 32 ≤ f.payload.length := Nat.mod_le _ _
  have hheader : ¬ f.header.version ≠ protocolVersion := not_not.mpr hversion
  have htype : FrameType.fromU8 f.header.typeByte = some f.frameType := fromU8_toU8 _
  have henough : ¬ (f.payload ++ tail).length < f.payload.length % 2 ^ 32 := by
    simp only [List.length_append]
    omega
  rw [decodeFrame_header, if_neg hheader, htype]
  simp only [hlen]
  rw [if_neg henough, List.take_append_of_le_length hle]
  simp [Header.frame, MediaFrame.header, fromU16_toU16]

/-- The frames that the stream of bytes carries unchanged. -/
def Fits (f : MediaFrame) : Prop := f.version = protocolVersion ∧ f.payload.length < 2 ^ 32

theorem decodeFrame_encode_of_fits {f : MediaFrame} (h : Fits f) (tail : List UInt8) :
    decodeFrame (f.header.bytes ++ (f.payload ++ tail)) = (tail, .ok f) := by
  rw [decodeFrame_encode h.1, Nat.mod_eq_of_lt h.2, List.take_length, List.drop_left]

theorem decodeFrames_encodeFrames {frames : List MediaFrame} (h : ∀ f ∈ frames, Fits f)
    (tail : List UInt8) :
    ∃ bytes, encodeFrames frames = .ok bytes ∧
      decodeFrames frames.length (bytes ++ tail) = (tail, .ok frames) := by
  induction frames with
  | nil => exact ⟨[], rfl, rfl⟩
  | cons f frames ih =>
    obtain ⟨rest, hencode, hdecode⟩ := ih fun g hg => h g (List.mem_cons_of_mem _ hg)
    refine ⟨f.header.bytes ++ f.payload ++ rest, ?_, ?_⟩
    · rw [encodeFrames, encodeFrame_eq, hencode]
      rfl
    · have hf := decodeFrame_encode_of_fits (h f List.mem_cons_self) (rest ++ tail)
      rw [List.length_cons, decodeFrames, List.append_assoc, List.append_assoc, hf]
      simp only [hdecode]
      rfl

/-! ## Decoding, then encoding -/

/-- An accepted frame and the header it was read from. -/
theorem exists_of_decodeFrame_ok {data rest : List UInt8} {f : MediaFrame}
    (h : decodeFrame data = (rest, .ok f)) :
    ∃ (H : Header) (t : FrameType), data = H.bytes ++ (f.payload ++ rest) ∧ t.toU8 = H.typeByte ∧
      f = H.frame t f.payload ∧ UInt32.ofNat f.payload.length = H.payloadLen := by
  have hlen : headerSize ≤ data.length := by
    by_contra hshort
    rw [decodeFrame, if_pos (by omega)] at h
    simp at h
  obtain ⟨H, hdata⟩ := exists_header hlen
  generalize data.drop headerSize = body at hdata
  subst hdata
  rw [decodeFrame_header] at h
  cases htype : FrameType.fromU8 H.typeByte with
  | none =>
    simp only [htype] at h
    split_ifs at h <;> simp at h
  | some t =>
    simp only [htype] at h
    split_ifs at h with hversion hshort
    · simp at h
    · simp at h
    · simp only [Prod.mk.injEq, Except.ok.injEq] at h
      obtain ⟨rfl, rfl⟩ := h
      refine ⟨H, t, ?_, toU8_of_fromU8 htype, rfl, ?_⟩
      · simp [Header.frame]
      · show UInt32.ofNat (body.take H.payloadLen.toNat).length = H.payloadLen
        rw [List.length_take_of_le (by omega), UInt32.ofNat_toNat]

theorem reencode_iff {data rest : List UInt8} {f : MediaFrame}
    (h : decodeFrame data = (rest, .ok f)) (hflags : flagBits data &&& unknownFlags = 0) :
    (∃ bytes, encodeFrame f = .ok bytes ∧ data = bytes ++ rest) ↔
      reservedBytes data = List.replicate 6 0 := by
  obtain ⟨H, t, rfl, htype, hf, hpayload⟩ := exists_of_decodeFrame_ok h
  rw [flagBits_header] at hflags
  rw [reservedBytes_header]
  -- the two headers differ in the reserved bytes only
  have hheader : f.header = { H with reserved := List.replicate 6 0, length_reserved := by simp } := by
    rw [hf]
    simp only [MediaFrame.header, Header.frame, htype, hpayload, toU16_fromU16 hflags]
  have hbytes : H.bytes = f.header.bytes ↔ H.reserved = List.replicate 6 0 := by
    rw [hheader]
    simp [Header.bytes]
  rw [encodeFrame_eq, ← hbytes]
  constructor
  · rintro ⟨bytes, hok, heq⟩
    obtain rfl := Except.ok.inj hok
    rw [← List.append_assoc] at heq
    exact List.append_cancel_right (List.append_cancel_right heq)
  · intro heq
    exact ⟨_, rfl, by rw [heq, List.append_assoc]⟩

/-- Streams of frames are decoded as they were encoded, and an accepted frame is
    encoded as it was decoded iff its reserved bytes were zero. -/
theorem codec_inverse (frames : List MediaFrame) (tail data : List UInt8) :
    ((∀ f ∈ frames, f.version = protocolVersion ∧ f.payload.length < 2 ^ 32) →
      ∃ bytes, encodeFrames frames = .ok bytes ∧
        decodeFrames frames.length (bytes ++ tail) = (tail, .ok frames)) ∧
    ∀ rest f, decodeFrame data = (rest, .ok f) → flagBits data &&& unknownFlags = 0 →
      ((∃ bytes, encodeFrame f = .ok bytes ∧ data = bytes ++ rest) ↔
        reservedBytes data = List.replicate 6 0) :=
  ⟨fun h => decodeFrames_encodeFrames h tail, fun _ _ h hflags => reencode_iff h hflags⟩

/-- A frame with all flags and a payload of two bytes. -/
def sampleFrame : MediaFrame :=
  ⟨1, 0x0102030405060708, 7, .videoDelta, 1000, 42, ⟨true, true⟩, [0xAA, 0xBB]⟩

/-- The bytes of a frame without payload, with the reserved bytes `reserved`. -/
def emptyFrameBytes (reserved : List UInt8) : List UInt8 :=
  [1, 0] ++ List.replicate 32 0 ++ [0, 3] ++ reserved

theorem codec_inverse_sample :
    (∃ bytes, encodeFrames [sampleFrame, sampleFrame] = .ok bytes ∧
      decodeFrames 2 (bytes ++ [9]) = ([9], .ok [sampleFrame, sampleFrame])) ∧
    ((∃ bytes, encodeFrame ⟨1, 0, 0, .audio, 0, 0, ⟨true, true⟩, []⟩ = .ok bytes ∧
        emptyFrameBytes (List.replicate 6 0) ++ [5] = bytes ++ [5]) ↔
      reservedBytes (emptyFrameBytes (List.replicate 6 0) ++ [5]) = List.replicate 6 0) := by
  have h := codec_inverse [sampleFrame, sampleFrame] [9]
    (emptyFrameBytes (List.replicate 6 0) ++ [5])
  exact ⟨h.1 (by decide), h.2 _ _ (by decide) (by decide)⟩

/-- A payload of 2^32 bytes is decoded as empty, and left in the buffer. -/
theorem decodeFrames_long {f : MediaFrame} (hversion : f.version = protocolVersion)
    (hlen : f.payload.length = 2 ^ 32) :
    ∃ bytes, encodeFrames [f] = .ok bytes ∧
      decodeFrames 1 (bytes ++ []) = (f.payload, .ok [{ f with payload := [] }]) := by
  have hdecode := decodeFrame_encode hversion []
  rw [hlen, Nat.mod_self, List.take_zero, List.drop_zero, List.append_nil] at hdecode
  refine ⟨f.header.bytes ++ f.payload, ?_, ?_⟩
  · rw [encodeFrames, encodeFrames, encodeFrame_eq]
    simp only [bind, Except.bind, pure, Except.pure, List.append_nil]
  · rw [List.append_nil, decodeFrames, hdecode]
    rfl

/-- A frame with a payload of 2^32 zero bytes. -/
def longFrame : MediaFrame := { sampleFrame with payload := List.replicate (2 ^ 32) 0 }

/-- A frame with a reserved byte is accepted and encoded without it, and
    `longFrame` is not decoded as it was encoded. -/
theorem reserved_and_length_lost :
    (∃ f, decodeFrame (emptyFrameBytes [1, 0, 0, 0, 0, 0]) = ([], .ok f) ∧
      flagBits (emptyFrameBytes [1, 0, 0, 0, 0, 0]) &&& unknownFlags = 0 ∧
      encodeFrame f ≠ .ok (emptyFrameBytes [1, 0, 0, 0, 0, 0])) ∧
    ∃ bytes, longFrame.version = protocolVersion ∧ encodeFrames [longFrame] = .ok bytes ∧
      decodeFrames 1 (bytes ++ []) ≠ ([], .ok [longFrame]) := by
  refine ⟨⟨⟨1, 0, 0, .audio, 0, 0, ⟨true, true⟩, []⟩, by decide, by decide, by decide⟩, ?_⟩
  have hlen : longFrame.payload.length = 2 ^ 32 := List.length_replicate
  obtain ⟨bytes, hencode, hdecode⟩ := decodeFrames_long (f := longFrame) rfl hlen
  refine ⟨bytes, rfl, hencode, fun heq => ?_⟩
  rw [hdecode] at heq
  have hnil := congrArg List.length (Prod.mk.inj heq).1
  rw [hlen, List.length_nil] at hnil
  omega

end DarkTower.Media
