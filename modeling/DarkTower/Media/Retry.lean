import DarkTower.Media.RoundTrip

/-!
# Decoding a stream that arrives in chunks

A caller that calls `decode_frame` on its buffer and appends the next chunk
whenever it gets `InsufficientData` (`receive`). `decode_frame` returns that error
in two places (codec.rs:82, codec.rs:118): before it has read anything, and after
it has taken the header from the buffer.

`StopsInPayload` and `StopsInFrame` say on the bytes where a stream stops.

* `decodeFrame_cases`: what one call does on a buffer and on whatever is appended
  to it.
* `retry_iff`: the buffer survives every `InsufficientData`, and the frames are
  those of the stream in one piece, iff no chunk ends within a payload.
* `header_lost`: a chunk that ends with the header of a frame loses the frame.
-/

namespace DarkTower.Media

open DarkTower.Lib.Bytes

/-- What a caller has obtained when its stream is over. -/
structure Received where
  frames : List MediaFrame
  /-- The buffer before and after each `InsufficientData`. -/
  shortCalls : List (List UInt8 × List UInt8)
  error : Option CodecError
deriving DecidableEq

/-- The length field of a buffer. -/
def payloadLength (data : List UInt8) : ℕ := getBE ((data.drop 30).take 4)

/-- The buffer starts with a header of the protocol's version and a known type. -/
def StartsFrame (data : List UInt8) : Prop :=
  headerSize ≤ data.length ∧ data.head? = some protocolVersion ∧
    (((data.drop 1).head?).bind FrameType.fromU8).isSome = true

/-- A header and a whole payload. -/
def WholeFrame (data : List UInt8) : Prop :=
  StartsFrame data ∧ data.length = headerSize + payloadLength data

/-- A header and less than its payload. -/
def StopsInPayload (data : List UInt8) : Prop :=
  StartsFrame data ∧ data.length < headerSize + payloadLength data

/-- Whole frames, then a header and less than its payload. -/
inductive StopsInFrame : List UInt8 → Prop
  | payload {data : List UInt8} (h : StopsInPayload data) : StopsInFrame data
  | next {frame data : List UInt8} (hframe : WholeFrame frame) (h : StopsInFrame data) :
      StopsInFrame (frame ++ data)

/-! ## The bytes of a frame -/

variable {data : List UInt8}

theorem startsFrame_append (h : headerSize ≤ data.length) (more : List UInt8) :
    StartsFrame (data ++ more) ↔ StartsFrame data := by
  unfold headerSize at h
  have hhead : (data ++ more).head? = data.head? := by
    cases data with
    | nil => simp at h
    | cons b data => rfl
  have htail : ((data ++ more).drop 1).head? = (data.drop 1).head? := by
    cases data with
    | nil => simp at h
    | cons b data =>
      cases data with
      | nil => simp at h
      | cons b' data => rfl
  have hlen : headerSize ≤ (data ++ more).length ↔ headerSize ≤ data.length := by
    simp only [headerSize, List.length_append]
    omega
  rw [StartsFrame, StartsFrame, hhead, htail, hlen]

theorem payloadLength_append (h : headerSize ≤ data.length) (more : List UInt8) :
    payloadLength (data ++ more) = payloadLength data := by
  unfold headerSize at h
  unfold payloadLength
  rw [List.drop_append_of_le_length (by omega), List.take_append_of_le_length]
  simp
  omega

theorem not_startsFrame_of_short (h : data.length < headerSize) : ¬ StartsFrame data :=
  fun hstart => absurd hstart.1 (Nat.not_le.mpr h)

theorem StopsInFrame.startsFrame (h : StopsInFrame data) : StartsFrame data := by
  cases h with
  | payload h => exact h.1
  | next hframe h => exact (startsFrame_append hframe.1.1 _).mpr hframe.1

/-- Two whole frames in front of the same bytes are the same. -/
theorem wholeFrame_unique {frame frame' data' : List UInt8} (hframe : WholeFrame frame)
    (hframe' : WholeFrame frame') (heq : frame ++ data = frame' ++ data') :
    frame = frame' ∧ data = data' := by
  have hlen : frame.length = frame'.length := by
    rw [hframe.2, hframe'.2, ← payloadLength_append hframe.1.1 data, heq,
      payloadLength_append hframe'.1.1]
  exact List.append_inj heq hlen

/-- Whole frames in front do not matter. -/
theorem stopsInFrame_append {frame : List UInt8} (hframe : WholeFrame frame) :
    StopsInFrame (frame ++ data) ↔ StopsInFrame data := by
  refine ⟨fun h => ?_, .next hframe⟩
  generalize hall : frame ++ data = all at h
  cases h with
  | payload h =>
    have hlong := h.2
    rw [← hall, payloadLength_append hframe.1.1, List.length_append, hframe.2] at hlong
    omega
  | next hframe' h =>
    obtain ⟨-, rfl⟩ := wholeFrame_unique hframe hframe' hall
    exact h

theorem putBE_one (x : UInt8) : putBE 1 x.toNat = [x] := by simp [putBE]

theorem startsFrame_header (H : Header) (rest : List UInt8) :
    StartsFrame (H.bytes ++ rest) ↔
      H.version = protocolVersion ∧ (FrameType.fromU8 H.typeByte).isSome = true := by
  have hlen : headerSize ≤ (H.bytes ++ rest).length := by simp
  rw [StartsFrame, and_iff_right hlen]
  simp [Header.bytes, putBE_one]

theorem payloadLength_header (H : Header) (rest : List UInt8) :
    payloadLength (H.bytes ++ rest) = H.payloadLen.toNat := by
  have hdrop : (H.bytes ++ rest).drop 30 =
      putBE 4 H.payloadLen.toNat ++ (putBE 2 H.flagBits.toNat ++ (H.reserved ++ rest)) := by
    simp only [Header.bytes, List.append_assoc]
    rw [drop_putBE_add 1 _ 29, drop_putBE_add 1 _ 28, drop_putBE_add 8 _ 20, drop_putBE_add 4 _ 16,
      drop_putBE_add 8 _ 8, drop_putBE_add 8 _ 0, List.drop_zero]
  rw [payloadLength, hdrop, take_putBE,
    getBE_putBE_of_lt (by have := H.payloadLen.toNat_lt; omega)]

/-! ## One call -/

/-- What a call does on a buffer and on whatever is appended to it: the header is not
    there, or it is refused, or it is read and the payload is not there, or a whole
    frame is decoded. -/
inductive DecodeCase (data : List UInt8) : List UInt8 × Except CodecError MediaFrame → Prop
  | short (hshort : data.length < headerSize) : DecodeCase data (data, .error .insufficientData)
  | refused (rest : List UInt8) (e : CodecError) (he : e ≠ .insufficientData)
      (hnot : ∀ more, ¬ StartsFrame (data ++ more))
      (hmore : ∀ more, decodeFrame (data ++ more) = (rest ++ more, .error e)) :
      DecodeCase data (rest, .error e)
  | cut (hcut : StopsInPayload data) :
      DecodeCase data (data.drop headerSize, .error .insufficientData)
  | whole (frame rest : List UInt8) (f : MediaFrame) (hframe : WholeFrame frame)
      (hdata : data = frame ++ rest)
      (hmore : ∀ more, decodeFrame (frame ++ more) = (more, .ok f)) :
      DecodeCase data (rest, .ok f)

theorem DecodeCase.of_refused (rest : List UInt8) (e : CodecError)
    (hlong : headerSize ≤ data.length) (he : e ≠ .insufficientData) (hnot : ¬ StartsFrame data)
    (hmore : ∀ more, decodeFrame (data ++ more) = (rest ++ more, .error e)) :
    DecodeCase data (decodeFrame data) := by
  have hself := hmore []
  rw [List.append_nil, List.append_nil] at hself
  rw [hself]
  exact .refused rest e he (fun more hstart => hnot ((startsFrame_append hlong more).mp hstart)) hmore

theorem decodeFrame_cases (data : List UInt8) : DecodeCase data (decodeFrame data) := by
  by_cases hshort : data.length < headerSize
  · rw [decodeFrame, if_pos hshort]
    exact .short hshort
  obtain ⟨H, hdata⟩ := exists_header (Nat.not_lt.mp hshort)
  generalize data.drop headerSize = body at hdata
  subst hdata
  have hlong : headerSize ≤ (H.bytes ++ body).length := Nat.not_lt.mp hshort
  have hdrop : ∀ n, n ≤ headerSize → ∀ more,
      (H.bytes ++ body ++ more).drop n = (H.bytes ++ body).drop n ++ more := by
    intro n hn more
    rw [List.drop_append_of_le_length]
    omega
  by_cases hversion : H.version = protocolVersion
  · cases htype : FrameType.fromU8 H.typeByte with
    | none =>
      refine .of_refused ((H.bytes ++ body).drop 2) (.invalidFrameType H.typeByte) hlong (by simp)
        (fun hstart => ?_) fun more => ?_
      · rw [startsFrame_header, htype] at hstart
        exact absurd hstart.2 (by decide)
      · rw [← hdrop 2 (by decide), List.append_assoc, decodeFrame_header,
          if_neg (not_not.mpr hversion), htype]
    | some frameType =>
      have hstart : ∀ more, StartsFrame (H.bytes ++ more) := fun more =>
        (startsFrame_header H more).mpr ⟨hversion, by rw [htype]; rfl⟩
      rw [decodeFrame_header, if_neg (not_not.mpr hversion), htype]
      dsimp only
      split_ifs with hcut
      · have hrest : body = (H.bytes ++ body).drop headerSize :=
          (List.drop_left' H.length_bytes).symm
        nth_rewrite 2 [hrest]
        refine .cut ⟨hstart body, ?_⟩
        rw [payloadLength_header, List.length_append, H.length_bytes]
        omega
      · have hpayload : (body.take H.payloadLen.toNat).length = H.payloadLen.toNat :=
          List.length_take_of_le (by omega)
        refine .whole (H.bytes ++ body.take H.payloadLen.toNat) _ _ ⟨hstart _, ?_⟩ ?_ fun more => ?_
        · rw [payloadLength_header, List.length_append, H.length_bytes, hpayload]
        · rw [List.append_assoc, List.take_append_drop]
        · rw [List.append_assoc, decodeFrame_header, if_neg (not_not.mpr hversion), htype]
          dsimp only
          rw [if_neg (by rw [List.length_append, hpayload]; omega), List.drop_left' hpayload,
            List.take_left' hpayload]
  · refine .of_refused ((H.bytes ++ body).drop 1) (.unsupportedVersion H.version) hlong (by simp)
      (fun hstart => ?_) fun more => ?_
    · rw [startsFrame_header] at hstart
      exact hversion hstart.1
    · rw [← hdrop 1 (by decide), List.append_assoc, decodeFrame_header, if_pos hversion]

/-! ## The caller -/

/-- A decoded frame is gone from the buffer. -/
theorem length_lt_of_decodeFrame_ok {rest : List UInt8} {f : MediaFrame}
    (h : decodeFrame data = (rest, .ok f)) : rest.length < data.length := by
  have hcase := decodeFrame_cases data
  rw [h] at hcase
  cases hcase with
  | whole frame rest f hframe hdata hmore =>
    have hlen := hframe.2
    unfold headerSize at hlen
    rw [hdata, List.length_append]
    omega

/-- `decode_frame` on the buffer, again after each frame and, with the next chunk
    appended, after each `InsufficientData`. -/
def receive (buffer : List UInt8) (chunks : List (List UInt8)) : Received :=
  match _h : decodeFrame buffer with
  | (rest, .ok frame) =>
    let r := receive rest chunks
    { r with frames := frame :: r.frames }
  | (rest, .error .insufficientData) =>
    match chunks with
    | [] => ⟨[], [(buffer, rest)], none⟩
    | chunk :: chunks =>
      let r := receive (rest ++ chunk) chunks
      { r with shortCalls := (buffer, rest) :: r.shortCalls }
  | (_, .error e) => ⟨[], [], some e⟩
termination_by (chunks.length, buffer.length)
decreasing_by
  · exact .right _ (length_lt_of_decodeFrame_ok _h)
  · exact .left _ _ (by simp)

/-- Every `InsufficientData` leaves the buffer as it was, and the frames are those of
    all the bytes in one piece. -/
def RetryRight (buffer : List UInt8) (chunks : List (List UInt8)) : Prop :=
  (∀ call ∈ (receive buffer chunks).shortCalls, call.2 = call.1) ∧
    (receive buffer chunks).frames = (receive (buffer ++ chunks.flatten) []).frames

variable {buffer rest : List UInt8} {chunk : List UInt8} {chunks : List (List UInt8)}

theorem receive_eq (buffer : List UInt8) (chunks : List (List UInt8)) :
    receive buffer chunks =
      match decodeFrame buffer, chunks with
      | (rest, .ok frame), chunks =>
        { receive rest chunks with frames := frame :: (receive rest chunks).frames }
      | (rest, .error .insufficientData), [] => ⟨[], [(buffer, rest)], none⟩
      | (rest, .error .insufficientData), chunk :: chunks =>
        { receive (rest ++ chunk) chunks with
          shortCalls := (buffer, rest) :: (receive (rest ++ chunk) chunks).shortCalls }
      | (_, .error e), _ => ⟨[], [], some e⟩ := by
  rw [receive]
  split
  · rename_i rest frame h
    rw [h]
  · rename_i rest h
    rw [h]
    cases chunks <;> rfl
  · rename_i rest e hne h
    rw [h]
    cases e with
    | insufficientData => exact absurd rfl hne
    | unsupportedVersion version => rfl
    | invalidFrameType frameType => rfl

theorem receive_ok {f : MediaFrame} (h : decodeFrame buffer = (rest, .ok f)) :
    receive buffer chunks =
      { receive rest chunks with frames := f :: (receive rest chunks).frames } := by
  rw [receive_eq, h]

theorem receive_short_nil (h : decodeFrame buffer = (rest, .error .insufficientData)) :
    receive buffer [] = ⟨[], [(buffer, rest)], none⟩ := by
  rw [receive_eq, h]

theorem receive_short_cons (h : decodeFrame buffer = (rest, .error .insufficientData)) :
    receive buffer (chunk :: chunks) = { receive (rest ++ chunk) chunks with
      shortCalls := (buffer, rest) :: (receive (rest ++ chunk) chunks).shortCalls } := by
  rw [receive_eq, h]

theorem receive_refused {e : CodecError} (he : e ≠ .insufficientData)
    (h : decodeFrame buffer = (rest, .error e)) : receive buffer chunks = ⟨[], [], some e⟩ := by
  rw [receive_eq, h]
  cases e with
  | insufficientData => exact absurd rfl he
  | unsupportedVersion version => rfl
  | invalidFrameType frameType => rfl

theorem not_retryRight_of_cut (hcut : StopsInPayload buffer)
    (h : decodeFrame buffer = (buffer.drop headerSize, .error .insufficientData)) :
    ¬ RetryRight buffer chunks := by
  rintro ⟨hsame, -⟩
  have hcall : (buffer, buffer.drop headerSize) ∈ (receive buffer chunks).shortCalls := by
    cases chunks with
    | nil =>
      rw [receive_short_nil h]
      exact List.mem_singleton_self _
    | cons chunk chunks =>
      rw [receive_short_cons h]
      exact List.mem_cons_self
  have hlen := congrArg List.length (hsame _ hcall)
  have hlong := hcut.1.1
  simp only [List.length_drop] at hlen
  unfold headerSize at hlen hlong
  omega

/-- No chunk ends within a payload. -/
def NeverStops (buffer : List UInt8) (chunks : List (List UInt8)) : Prop :=
  ∀ k, ¬ StopsInFrame (buffer ++ (chunks.take k).flatten)

theorem neverStops_nil (h : ¬ StopsInFrame buffer) : NeverStops buffer [] := by
  intro k
  rwa [List.take_nil, List.flatten_nil, List.append_nil]

theorem neverStops_cons (h : ¬ StopsInFrame buffer) :
    NeverStops buffer (chunk :: chunks) ↔ NeverStops (buffer ++ chunk) chunks := by
  constructor
  · intro hstops k
    have hnext := hstops (k + 1)
    rwa [List.take_succ_cons, List.flatten_cons, ← List.append_assoc] at hnext
  · intro hstops k
    cases k with
    | zero => rwa [List.take_zero, List.flatten_nil, List.append_nil]
    | succ k =>
      rw [List.take_succ_cons, List.flatten_cons, ← List.append_assoc]
      exact hstops k

theorem not_neverStops_of_cut (hcut : StopsInPayload buffer) : ¬ NeverStops buffer chunks := by
  intro hstops
  refine hstops 0 ?_
  rw [List.take_zero, List.flatten_nil, List.append_nil]
  exact .payload hcut

theorem retryRight_whole {frame rest : List UInt8} {f : MediaFrame}
    (h : decodeFrame (frame ++ rest) = (rest, .ok f))
    (hmore : ∀ more, decodeFrame (frame ++ more) = (more, .ok f)) :
    RetryRight (frame ++ rest) chunks ↔ RetryRight rest chunks := by
  have hone : receive (frame ++ rest ++ chunks.flatten) [] =
      { receive (rest ++ chunks.flatten) [] with
        frames := f :: (receive (rest ++ chunks.flatten) []).frames } := by
    apply receive_ok
    rw [List.append_assoc]
    exact hmore _
  unfold RetryRight
  rw [receive_ok h, hone]
  simp

theorem retryRight_nil (h : decodeFrame buffer = (buffer, .error .insufficientData)) :
    RetryRight buffer [] := by
  unfold RetryRight
  rw [receive_short_nil h]
  simp
  rw [receive_short_nil h]

theorem retryRight_cons (h : decodeFrame buffer = (buffer, .error .insufficientData)) :
    RetryRight buffer (chunk :: chunks) ↔ RetryRight (buffer ++ chunk) chunks := by
  unfold RetryRight
  rw [receive_short_cons h, List.flatten_cons, ← List.append_assoc]
  simp

/-- By induction on the calls: what the buffer has in front of a whole frame is decoded
    as in one piece, and a call changes the buffer where it is cut within a payload. -/
theorem retryRight_iff (buffer : List UInt8) (chunks : List (List UInt8)) :
    RetryRight buffer chunks ↔ NeverStops buffer chunks := by
  induction buffer, chunks using receive.induct with
  | case1 buffer chunks rest f h ih =>
    have hcase := decodeFrame_cases buffer
    rw [h] at hcase
    cases hcase with
    | whole frame rest f hframe hdata hmore =>
      subst hdata
      rw [retryRight_whole h hmore, ih]
      simp only [NeverStops, List.append_assoc, stopsInFrame_append hframe]
  | case2 buffer rest h =>
    have hcase := decodeFrame_cases buffer
    rw [h] at hcase
    cases hcase with
    | short hshort =>
      exact iff_of_true (retryRight_nil h) (neverStops_nil fun hstops =>
        not_startsFrame_of_short hshort hstops.startsFrame)
    | refused rest e he hnot hmore => exact absurd rfl he
    | cut hcut => exact iff_of_false (not_retryRight_of_cut hcut h) (not_neverStops_of_cut hcut)
  | case3 buffer rest h chunk chunks ih =>
    have hcase := decodeFrame_cases buffer
    rw [h] at hcase
    cases hcase with
    | short hshort =>
      rw [retryRight_cons h, ih, neverStops_cons]
      exact fun hstops => not_startsFrame_of_short hshort hstops.startsFrame
    | refused rest e he hnot hmore => exact absurd rfl he
    | cut hcut => exact iff_of_false (not_retryRight_of_cut hcut h) (not_neverStops_of_cut hcut)
  | case4 buffer chunks rest e hne h =>
    have hcase := decodeFrame_cases buffer
    rw [h] at hcase
    cases hcase with
    | short hshort => exact absurd rfl hne
    | cut hcut => exact absurd rfl hne
    | refused rest e he hnot hmore =>
      have hright : RetryRight buffer chunks := by
        unfold RetryRight
        rw [receive_refused he h, receive_refused he (hmore chunks.flatten)]
        simp
      exact iff_of_true hright fun k hstops => hnot _ hstops.startsFrame

/-- From an empty buffer on, every `InsufficientData` leaves the buffer as it was and the
    frames are those of the stream in one piece iff no chunk ends within a payload. -/
theorem retry_iff (chunks : List (List UInt8)) :
    (∀ call ∈ (receive [] chunks).shortCalls, call.2 = call.1) ∧
        (receive [] chunks).frames = (receive chunks.flatten []).frames ↔
      ∀ k, ¬ StopsInFrame (chunks.take k).flatten :=
  retryRight_iff [] chunks

/-- The header of a frame with a payload of one byte. -/
def oneByteHeader : List UInt8 := [1, 0] ++ List.replicate 31 0 ++ [1] ++ List.replicate 8 0

/-- Its frame. -/
def oneByteFrame : MediaFrame := ⟨1, 0, 0, .audio, 0, 0, ⟨false, false⟩, [0xAA]⟩

/-- The first call takes the header from the buffer; the payload alone is no frame. -/
theorem header_lost :
    (receive (oneByteHeader ++ [0xAA]) []).frames = [oneByteFrame] ∧
      ¬ ((∀ call ∈ (receive [] [oneByteHeader, [0xAA]]).shortCalls, call.2 = call.1) ∧
        (receive [] [oneByteHeader, [0xAA]]).frames =
          (receive [oneByteHeader, [0xAA]].flatten []).frames) := by
  have hwhole : decodeFrame (oneByteHeader ++ [0xAA]) = ([], .ok oneByteFrame) := by decide
  have hempty : decodeFrame [] = ([], .error .insufficientData) := by decide
  have hheader : decodeFrame ([] ++ oneByteHeader) = ([], .error .insufficientData) := by decide
  have hpayload : decodeFrame ([] ++ [0xAA]) = ([0xAA], .error .insufficientData) := by decide
  refine ⟨by rw [receive_ok hwhole, receive_short_nil hempty], fun h => ?_⟩
  rw [receive_short_cons hempty, receive_short_cons hheader, receive_short_nil hpayload] at h
  exact absurd (h.1 (oneByteHeader, []) (by simp)) (by decide)

end DarkTower.Media
