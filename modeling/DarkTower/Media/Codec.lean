import DarkTower.Lib.Bytes

/-!
# Media frames and their codec (`media-protocol/src/frame.rs`, `codec.rs`)

A frame is sent as a header of 42 bytes and its payload. `decode_frame` takes a
buffer by reference and reads from its front, so the model returns the buffer it
leaves, also with an error.
-/

namespace DarkTower.Media

open DarkTower.Lib.Bytes

/-- `FrameType` (frame.rs:8). -/
inductive FrameType
  | audio
  | videoKey
  | videoDelta
deriving DecidableEq, Repr

/-- `frame_type as u8`. -/
def FrameType.toU8 : FrameType → UInt8
  | .audio => 0x00
  | .videoKey => 0x01
  | .videoDelta => 0x02

/-- The `match` of `decode_frame` on the type byte (codec.rs:93). -/
def FrameType.fromU8 (byte : UInt8) : Option FrameType :=
  if byte = 0x00 then some .audio
  else if byte = 0x01 then some .videoKey
  else if byte = 0x02 then some .videoDelta
  else none

/-- `FrameFlags` (frame.rs:19). -/
structure FrameFlags where
  endOfFrame : Bool
  discardable : Bool
deriving DecidableEq, Repr

/-- `to_u16` (frame.rs:29). -/
def FrameFlags.toU16 (f : FrameFlags) : UInt16 :=
  let flags : UInt16 := 0
  let flags := if f.endOfFrame then flags ||| 0x0001 else flags
  if f.discardable then flags ||| 0x0002 else flags

/-- `from_u16` (frame.rs:42). -/
def FrameFlags.fromU16 (value : UInt16) : FrameFlags where
  endOfFrame := value &&& 0x0001 != 0
  discardable := value &&& 0x0002 != 0

/-- `MediaFrame` (frame.rs:65). -/
structure MediaFrame where
  version : UInt8
  userId : UInt64
  streamId : UInt32
  frameType : FrameType
  timestamp : UInt64
  sequence : UInt64
  flags : FrameFlags
  payload : List UInt8
deriving DecidableEq, Repr

/-- `MediaFrame::HEADER_SIZE`. -/
def headerSize : ℕ := 42

/-- `MediaFrame::VERSION`. -/
def protocolVersion : UInt8 := 1

/-- `CodecError` (codec.rs:8), the variants the codec returns. -/
inductive CodecError
  | insufficientData
  | unsupportedVersion (version : UInt8)
  | invalidFrameType (frameType : UInt8)
deriving DecidableEq, Repr

/-- `encode_frame` (codec.rs:31). The payload length is cast to `u32`. -/
def encodeFrame (frame : MediaFrame) : Except CodecError (List UInt8) :=
  .ok (putBE 1 frame.version.toNat ++
    putBE 1 frame.frameType.toU8.toNat ++
    putBE 8 frame.userId.toNat ++
    putBE 4 frame.streamId.toNat ++
    putBE 8 frame.timestamp.toNat ++
    putBE 8 frame.sequence.toNat ++
    putBE 4 (UInt32.ofNat frame.payload.length).toNat ++
    putBE 2 frame.flags.toU16.toNat ++
    List.replicate 6 0 ++
    frame.payload)

/-- `decode_frame` (codec.rs:76): the rest of the buffer and the result. -/
def decodeFrame (data : List UInt8) : List UInt8 × Except CodecError MediaFrame :=
  if data.length < headerSize then (data, .error .insufficientData)
  else
    let version := UInt8.ofNat (getBE (data.take 1))
    let data := data.drop 1
    if version ≠ protocolVersion then (data, .error (.unsupportedVersion version))
    else
      let typeByte := UInt8.ofNat (getBE (data.take 1))
      let data := data.drop 1
      match FrameType.fromU8 typeByte with
      | none => (data, .error (.invalidFrameType typeByte))
      | some frameType =>
        let userId := UInt64.ofNat (getBE (data.take 8))
        let data := data.drop 8
        let streamId := UInt32.ofNat (getBE (data.take 4))
        let data := data.drop 4
        let timestamp := UInt64.ofNat (getBE (data.take 8))
        let data := data.drop 8
        let sequence := UInt64.ofNat (getBE (data.take 8))
        let data := data.drop 8
        let payloadLen := (UInt32.ofNat (getBE (data.take 4))).toNat
        let data := data.drop 4
        let flags := FrameFlags.fromU16 (UInt16.ofNat (getBE (data.take 2)))
        let data := data.drop 2
        -- the reserved bytes are skipped, whatever they are
        let data := data.drop 6
        if data.length < payloadLen then (data, .error .insufficientData)
        else
          (data.drop payloadLen,
            .ok
              { version := version
                userId := userId
                streamId := streamId
                frameType := frameType
                timestamp := timestamp
                sequence := sequence
                flags := flags
                payload := data.take payloadLen })

/-! ## Streams of frames -/

/-- The frames, encoded one after the other. -/
def encodeFrames : List MediaFrame → Except CodecError (List UInt8)
  | [] => .ok []
  | frame :: frames => do
    let bytes ← encodeFrame frame
    let rest ← encodeFrames frames
    return bytes ++ rest

/-- `n` frames, decoded one after the other. -/
def decodeFrames : ℕ → List UInt8 → List UInt8 × Except CodecError (List MediaFrame)
  | 0, data => (data, .ok [])
  | n + 1, data =>
    match decodeFrame data with
    | (data, .error e) => (data, .error e)
    | (data, .ok frame) =>
      let rest := decodeFrames n data
      (rest.1, rest.2.map (frame :: ·))

end DarkTower.Media
