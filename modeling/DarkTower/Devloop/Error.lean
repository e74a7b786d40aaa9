import DarkTower.Lib.ByteChars
import DarkTower.Lib.Text

/-!
# The errors of the devloop helper, and its slug

`HelperError` of `devloop-helper/src/error.rs` with its `Display` and the kind that a
response over the socket carries. The texts of I/O and JSON errors are those of the
libraries.

* `kind_eq_cancelled_iff`: only a cancelled command has the kind `cancelled`.
* `ValidSlug` is a slug that `ValidSlug::new` accepts; `ValidSlug.chars`: it is made of lowercase
  letters, digits and hyphens.
-/

namespace DarkTower.Devloop

open DarkTower.Lib.ByteChars (byteChars charBytes)

/-- `HelperError` (error.rs:11). -/
inductive HelperError
  | invalidCommand (detail : String)
  | invalidService (detail : String)
  | portAllocation (detail : String)
  | commandFailed (cmd detail : String)
  | io (detail : String)
  | json (detail : String)
  | authFailed
  | requestTooLarge
  | invalidRequest (detail : String)
  | invalidSlug (detail : String)
  | alreadyRunning (pid : Nat)
  | busy (op : String) (args : List String)
  | cancelled (escalated : Bool)
deriving DecidableEq

namespace HelperError

/-- `format_busy_op` (error.rs:69). -/
def formatBusyOp (op : String) (args : List String) : String :=
  if args = [] then op else op ++ " " ++ " ".intercalate args

/-- `Display` (error.rs:12–65). -/
def display : HelperError → String
  | invalidCommand detail => "invalid command: " ++ detail
  | invalidService detail => "invalid service: " ++ detail
  | portAllocation detail => "port allocation failed: " ++ detail
  | commandFailed cmd detail => "command failed: " ++ cmd ++ ": " ++ detail
  | io detail => "I/O error: " ++ detail
  | json detail => "JSON error: " ++ detail
  | authFailed => "authentication failed"
  | requestTooLarge => "request too large"
  | invalidRequest detail => "invalid request: " ++ detail
  | invalidSlug detail => "invalid slug: " ++ detail
  | alreadyRunning pid => "helper already running (pid " ++ toString pid ++ ")"
  | busy op args =>
    "helper busy with " ++ formatBusyOp op args ++ "; run dev-cluster cancel to abort it"
  | cancelled escalated =>
    if escalated then "cancelled (sigterm timeout, escalated to sigkill)"
    else "cancelled by client request"

/-- `kind` (error.rs:79). -/
def kind : HelperError → String
  | invalidCommand _ => "invalid_command"
  | invalidService _ => "invalid_service"
  | portAllocation _ => "port_allocation"
  | commandFailed _ _ => "command_failed"
  | io _ => "io_error"
  | json _ => "json_error"
  | authFailed => "auth_failed"
  | requestTooLarge => "request_too_large"
  | invalidRequest _ => "invalid_request"
  | invalidSlug _ => "invalid_slug"
  | alreadyRunning _ => "already_running"
  | busy _ _ => "busy"
  | cancelled _ => "cancelled"

/-- Only a cancelled command has the kind `cancelled`. -/
theorem kind_eq_cancelled_iff (e : HelperError) : e.kind = "cancelled" ↔ ∃ b, e = cancelled b := by
  cases e with
  | cancelled b => exact ⟨fun _ => ⟨b, rfl⟩, fun _ => rfl⟩
  | _ => simp [kind]

end HelperError

/-! ## The slug -/

/-- `is_ascii_lowercase` or `is_ascii_digit`. -/
def isSlugEnd (b : Char) : Bool := b.isLower || b.isDigit

/-- The checks of `ValidSlug::new` (error.rs:109), over the bytes of the text. -/
def checkSlug (s : List Char) : Except HelperError Unit :=
  let bytes := byteChars s
  if bytes.isEmpty || 63 < bytes.length then
    .error (.invalidSlug ("slug must be 1-63 characters, got " ++ toString bytes.length))
  else
    match bytes.head?, bytes.getLast? with
    | some first, some last =>
      if !isSlugEnd first then
        .error (.invalidSlug
          ("slug must start with lowercase alphanumeric, got '" ++ first.toString ++ "'"))
      else if !isSlugEnd last then
        .error (.invalidSlug
          ("slug must end with lowercase alphanumeric, got '" ++ last.toString ++ "'"))
      else
        match bytes.find? fun b => !(isSlugEnd b || b = '-') with
        | some b =>
          .error (.invalidSlug ("slug contains invalid character '" ++ b.toString ++
            "' (allowed: a-z, 0-9, -)"))
        | none => .ok ()
    | _, _ => .error (.invalidSlug "slug must not be empty")

/-- `ValidSlug` (error.rs:103). -/
def ValidSlug : Type := { s : List Char // checkSlug s = .ok () }

theorem toNat_lt_of_isSlugEnd {b : Char} (h : isSlugEnd b = true) : b.toNat < 128 := by
  rw [isSlugEnd, Bool.or_eq_true] at h
  obtain h | h := h
  · exact (DarkTower.Lib.Text.toNat_le_of_isLower h).trans_lt (by decide)
  · exact (Char.isDigit_iff_toNat.mp h).2.trans_lt (by decide)

/-- A slug is made of lowercase letters, digits and hyphens. -/
theorem ValidSlug.chars (slug : ValidSlug) : ∀ c ∈ slug.1, isSlugEnd c = true ∨ c = '-' := by
  obtain ⟨s, hs⟩ := slug
  intro c hc
  have hbytes : ∀ b ∈ byteChars s, isSlugEnd b = true ∨ b = '-' := by
    unfold checkSlug at hs
    dsimp only at hs
    split_ifs at hs
    split at hs
    · split_ifs at hs
      split at hs
      · cases hs
      next hnone =>
        intro b hb
        have hvalid := List.find?_eq_none.mp hnone b hb
        simpa only [Bool.not_eq_true, Bool.not_eq_false', Bool.or_eq_true, decide_eq_true_eq]
          using hvalid
    · cases hs
  have hchar : ∀ b ∈ charBytes c, isSlugEnd b = true ∨ b = '-' := fun b hb =>
    hbytes b (List.mem_flatMap.mpr ⟨c, hc, hb⟩)
  obtain hascii | hwide := Nat.lt_or_ge c.toNat 128
  · exact hchar c (by simp [hascii])
  · -- the bytes of any other character are not of ASCII
    obtain ⟨b, _, _, hsplit, hb, -⟩ := DarkTower.Lib.ByteChars.exists_charBytes hwide
    obtain hend | rfl := hchar b (by simp [hsplit])
    · exact absurd (toNat_lt_of_isSlugEnd hend) (Nat.not_lt.mpr hb)
    · exact absurd hb (by decide)

end DarkTower.Devloop
