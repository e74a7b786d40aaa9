import DarkTower.Common.Time
import DarkTower.Lib.Hex

/-!
# Session binding tokens (`mc-service/src/actors/session.rs`)

A binding token is the hex text of
`HMAC-SHA256(meeting_key, correlation_id || participant_id || nonce)`, with
`meeting_key = HKDF-SHA256(master_secret, salt = meeting_id,
info = "session-binding")`. The two primitives come from the `ring` crate and
are parameters of the model; nothing is assumed about them.

* Rust `Instant`s are nanoseconds since an arbitrary origin, so `elapsed` and
  `duration_since` (which saturate at zero) are subtraction on `ℕ`.
* The random nonce of `generate_token` is an argument.

`validateToken_iff`: a text is accepted iff it decodes to the bytes of the
token that `generate_token` returned for the same session, so the accepted
texts are that token up to the case of its hex digits.
-/

namespace DarkTower.Mc

open DarkTower.Common DarkTower.Lib

/-- The keyed primitives of `ring` on byte strings and UTF-8 texts. -/
structure Ring where
  /-- `Salt::new(HKDF_SHA256, salt).extract(ikm).expand(info)`, 32 bytes. -/
  hkdfSha256 : (ikm : List UInt8) → (salt info : String) → List UInt8
  /-- `hmac::sign` under `HMAC_SHA256`. -/
  hmacSha256 : (key : List UInt8) → (message : String) → List UInt8

/-- `BINDING_TOKEN_TTL` (session.rs:22). -/
def bindingTokenTtl : ℕ := fromSecs 30

/-- `SessionBindingManager`; `new` (session.rs:42) panics on a shorter secret. -/
structure SessionBindingManager where
  masterSecret : List UInt8
  length_masterSecret : 32 ≤ masterSecret.length

namespace SessionBindingManager

/-- `derive_meeting_key` (session.rs:156). -/
def deriveMeetingKey (R : Ring) (mgr : SessionBindingManager) (meetingId : String) : List UInt8 :=
  R.hkdfSha256 mgr.masterSecret meetingId "session-binding"

/-- The HMAC tag both operations compute. -/
def bindingTag (R : Ring) (mgr : SessionBindingManager)
    (meetingId correlationId participantId nonce : String) : List UInt8 :=
  R.hmacSha256 (deriveMeetingKey R mgr meetingId) (correlationId ++ participantId ++ nonce)

/-- `generate_token` (session.rs:71): the token and the nonce, both in hex. -/
def generateToken (R : Ring) (mgr : SessionBindingManager)
    (meetingId correlationId participantId : String) (nonceBytes : List UInt8) : String × String :=
  let nonce := Hex.encode nonceBytes
  (Hex.encode (bindingTag R mgr meetingId correlationId participantId nonce), nonce)

/-- `validate_token` (session.rs:113). `hmac::verify` recomputes the tag and
    compares it with the decoded bytes. -/
def validateToken (R : Ring) (mgr : SessionBindingManager)
    (meetingId correlationId participantId nonce bindingToken : String) : Bool :=
  match Hex.decode bindingToken with
  | none => false
  | some providedBytes =>
    decide (bindingTag R mgr meetingId correlationId participantId nonce = providedBytes)

end SessionBindingManager

/-- Two texts of one token: they decode to the same bytes. -/
def SameToken (presented issued : String) : Prop :=
  ∃ bytes, Hex.decode presented = some bytes ∧ Hex.decode issued = some bytes

/-- `StoredBinding` (session.rs:182). -/
structure StoredBinding where
  correlationId : String
  participantId : String
  userId : String
  nonce : String
  bindingToken : String
  createdAt : ℕ
deriving DecidableEq

/-- `is_expired` (session.rs:220). -/
def StoredBinding.isExpired (b : StoredBinding) (now : ℕ) : Bool :=
  decide (bindingTokenTtl < now - b.createdAt)

section Tokens

variable (R : Ring) (mgr : SessionBindingManager) (meetingId correlationId participantId : String)
  (nonceBytes : List UInt8)

theorem decode_generateToken :
    Hex.decode (mgr.generateToken R meetingId correlationId participantId nonceBytes).1 =
      some (mgr.bindingTag R meetingId correlationId participantId (Hex.encode nonceBytes)) :=
  Hex.decode_encode _

/-- A text is accepted for a session iff it is, up to the case of its digits,
    the token that was generated for it. -/
theorem validateToken_iff (presented : String) :
    mgr.validateToken R meetingId correlationId participantId
        (mgr.generateToken R meetingId correlationId participantId nonceBytes).2 presented = true ↔
      SameToken presented
        (mgr.generateToken R meetingId correlationId participantId nonceBytes).1 := by
  rw [SameToken, decode_generateToken, SessionBindingManager.validateToken,
    SessionBindingManager.generateToken]
  cases Hex.decode presented with
  | none => simp
  | some providedBytes => simp [eq_comm]

theorem sameToken_generateToken :
    SameToken (mgr.generateToken R meetingId correlationId participantId nonceBytes).1
      (mgr.generateToken R meetingId correlationId participantId nonceBytes).1 :=
  ⟨_, decode_generateToken .., decode_generateToken ..⟩

end Tokens

/-! ## Values of the primitives

The values the real primitives take on the inputs of the concrete runs of this
development: the secret of the source's tests (`test_secret`, 32 zero bytes),
`"meeting-1"` and the first two sessions of `"part-1"`. -/

/-- HKDF and HMAC on those inputs. -/
def Ring.sample : Ring where
  hkdfSha256 ikm salt info :=
    if ikm = List.replicate 32 0 ∧ salt = "meeting-1" ∧ info = "session-binding" then
      [0xe1, 0xbd, 0x31, 0xda, 0x9e, 0x72, 0x26, 0x55, 0x99, 0x17, 0xd0, 0xbf, 0x7a, 0xcc, 0x7a,
        0x76, 0x6f, 0x45, 0x8b, 0x62, 0xda, 0x17, 0x67, 0x0e, 0x2b, 0xe7, 0x22, 0x97, 0xf2, 0x79,
        0x36, 0x9d]
    else []
  hmacSha256 _ message :=
    if message =
        "6f0c2b1e-9a4d-4c57-8f3e-2d1b7a90c4e5part-1000102030405060708090a0b0c0d0e0f" then
      [0x8e, 0x64, 0x07, 0x35, 0x7e, 0x48, 0x99, 0xfc, 0xe0, 0xb8, 0xa8, 0x7f, 0x57, 0xfd, 0x92,
        0x47, 0xd4, 0xf6, 0x04, 0x45, 0x89, 0xbb, 0x2d, 0x6c, 0x09, 0x98, 0xb9, 0x70, 0x50, 0xbb,
        0xf4, 0x34]
    else if message =
        "b3d9e8f2-5c61-4a0b-9e77-41f6c8d2a013part-1101112131415161718191a1b1c1d1e1f" then
      [0xb9, 0xec, 0xa5, 0x2a, 0x23, 0x99, 0x8e, 0x97, 0xc9, 0x9b, 0x62, 0x71, 0xc3, 0xe1, 0x03,
        0xd7, 0xd3, 0x68, 0xed, 0x4a, 0x6a, 0x85, 0xb3, 0x7c, 0x95, 0x47, 0x10, 0x77, 0x82, 0x3e,
        0x03, 0x75]
    else []

/-- The manager with the secret of the source's tests. -/
def SessionBindingManager.sample : SessionBindingManager where
  masterSecret := List.replicate 32 0
  length_masterSecret := by decide

end DarkTower.Mc
