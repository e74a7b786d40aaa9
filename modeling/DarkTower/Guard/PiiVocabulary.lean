import DarkTower.Lib.Text

/-!
# Names of secrets and of personal data (`dt-guard/src/common/pii_vocabulary.rs`)

The vocabulary, and how a label key is classified by it
(`dt-guard/src/metric_labels.rs:518-587`): the denylisted prefixes first, then Category A,
then Category B with its exemptions.

* `token_hit_in_set_isSome`: what a hit is, for any set of tokens.
* `pii_token_hit_prefix`: a key with one of the denylisted prefixes is classified by it.
* `pii_token_hit_secret`: any other key is of Category A when it hits that set and is not in
  its allowlist.
-/

namespace DarkTower.Guard

open DarkTower.Lib

/-- `PII_TOKENS_CATEGORY_A` (pii_vocabulary.rs:47). -/
def piiTokensCategoryA : List (List Char) :=
  ["password", "passwd", "api_key", "apikey", "secret", "token", "bearer_token", "access_token",
    "refresh_token", "session_token", "id_token", "private_key", "privkey", "signing_key", "jwt",
    "auth_header", "authorization", "pwd", "cred", "bearer", "auth_code"].map String.toList

/-- `CATEGORY_A_ALLOWLIST` (pii_vocabulary.rs:76). -/
def categoryAAllowlist : List (List Char) := ["token_type".toList]

/-- `PII_TOKENS_CATEGORY_B` (pii_vocabulary.rs:82). -/
def piiTokensCategoryB : List (List Char) :=
  ["email", "phone", "phone_number", "display_name", "user_id", "name", "username", "nickname",
    "handle", "ip_address", "email_address", "mac_address", "postal_code", "zip", "zipcode", "ip",
    "ip_addr", "ipv4", "ipv6", "device_id", "user_agent", "fingerprint", "ssn", "dob", "passport",
    "driver_license", "credit_card", "card_number", "cvv", "latitude", "longitude", "geolocation",
    "geoip", "full_name", "first_name", "last_name", "real_name", "user_name"].map String.toList

/-- `PII_PREFIX_DENYLIST` (pii_vocabulary.rs:132). -/
def piiPrefixDenylist : List (List Char) := ["raw_".toList]

/-- `HASHED_SUFFIXES` (pii_vocabulary.rs:136). -/
def hashedSuffixes : List (List Char) :=
  ["_hash", "_hashed", "_id_hash", "_sha256", "_digest"].map String.toList

/-- `LABEL_ALLOWLIST` (pii_vocabulary.rs:140). -/
def labelAllowlist : List (List Char) :=
  ["hostname", "filename", "pathname", "typename", "nameservice"].map String.toList

/-- `PiiCategory` (metric_labels.rs:523). -/
inductive PiiCategory
  | a
  | b
  | denyPrefix
deriving DecidableEq

/-- `to_ascii_lowercase`. -/
def toAsciiLowercase (label : List Char) : List Char := label.map Char.toLower

/-- `is_hashed_label` (metric_labels.rs:529). -/
def isHashedLabel (label : List Char) : Bool := hashedSuffixes.any (·.isSuffixOf label)

/-- `token_hit_in_set` (metric_labels.rs:533). -/
def tokenHitInSet (lower : List Char) (set : List (List Char)) : Option (List Char) :=
  if lower ∈ set then some lower
  else
    -- tokens of several words are looked for anywhere, the others among the words
    (set.find? fun tok => '_' ∈ tok && Text.contains lower tok).or
      (set.find? fun tok => '_' ∉ tok && tok ∈ lower.splitOn '_')

/-- `pii_token_hit` (metric_labels.rs:556). -/
def piiTokenHit (label : List Char) : Option (List Char × PiiCategory) :=
  let lower := toAsciiLowercase label
  if label = [] then none
  else
    match piiPrefixDenylist.find? (·.isPrefixOf lower) with
    | some pre => some (pre, .denyPrefix)
    | none =>
      match if lower ∈ categoryAAllowlist then none else tokenHitInSet lower piiTokensCategoryA with
      | some tok => some (tok, .a)
      | none =>
        if label ∈ labelAllowlist then none
        else if isHashedLabel label then none
        else (tokenHitInSet lower piiTokensCategoryB).map fun tok => (tok, .b)

/-! ## Hits -/

/-- The key is a token, has one as a word between underscores or contains one of several
    words. -/
def Hits (set : List (List Char)) (lower : List Char) : Prop :=
  ∃ tok ∈ set, tok = lower ∨ tok ∈ lower.splitOn '_' ∨ '_' ∈ tok ∧ tok <:+: lower

/-- The key has one of the denylisted prefixes. -/
def HasDenyPrefix (label : List Char) : Prop :=
  ∃ pre ∈ piiPrefixDenylist, pre <+: toAsciiLowercase label

/-- The key hits Category A and is not in its allowlist. -/
def IsSecretKey (label : List Char) : Prop :=
  Hits piiTokensCategoryA (toAsciiLowercase label) ∧ toAsciiLowercase label ∉ categoryAAllowlist

instance (label : List Char) : Decidable (HasDenyPrefix label) :=
  inferInstanceAs (Decidable (∃ pre ∈ piiPrefixDenylist, pre <+: toAsciiLowercase label))

instance (set : List (List Char)) (lower : List Char) : Decidable (Hits set lower) :=
  inferInstanceAs (Decidable (∃ tok ∈ set,
    tok = lower ∨ tok ∈ lower.splitOn '_' ∨ '_' ∈ tok ∧ tok <:+: lower))

instance (label : List Char) : Decidable (IsSecretKey label) :=
  inferInstanceAs (Decidable (_ ∧ _))

theorem token_hit_in_set_isSome (set : List (List Char)) (lower : List Char) :
    (tokenHitInSet lower set).isSome = true ↔ Hits set lower := by
  rw [tokenHitInSet, Hits]
  split
  case isTrue hmem => exact iff_of_true rfl ⟨lower, hmem, .inl rfl⟩
  case isFalse hmem =>
    simp only [Option.isSome_or, Bool.or_eq_true, List.find?_isSome, Bool.and_eq_true,
      decide_eq_true_eq, Text.contains_iff]
    constructor
    · rintro (⟨tok, htok, hword, hinfix⟩ | ⟨tok, htok, -, hpart⟩)
      · exact ⟨tok, htok, .inr (.inr ⟨hword, hinfix⟩)⟩
      · exact ⟨tok, htok, .inr (.inl hpart)⟩
    · rintro ⟨tok, htok, rfl | hpart | ⟨hword, hinfix⟩⟩
      · exact absurd htok hmem
      · exact .inr ⟨tok, htok, Text.not_mem_of_mem_splitOn hpart, hpart⟩
      · exact .inl ⟨tok, htok, hword, hinfix⟩

theorem find_denyPrefix_isSome (label : List Char) :
    (piiPrefixDenylist.find? (·.isPrefixOf (toAsciiLowercase label))).isSome = true ↔
      HasDenyPrefix label := by
  simp only [List.find?_isSome, List.isPrefixOf_iff_prefix, HasDenyPrefix]

/-- No token of Category A is empty, so no hit is. -/
theorem ne_nil_of_isSecretKey {label : List Char} (h : IsSecretKey label) : label ≠ [] := by
  rintro rfl
  revert h
  decide +kernel

theorem pii_token_hit_secret {label : List Char} (h : IsSecretKey label)
    (hpre : ¬ HasDenyPrefix label) : ∃ tok, piiTokenHit label = some (tok, .a) := by
  rw [← find_denyPrefix_isSome, Option.not_isSome_iff_eq_none] at hpre
  obtain ⟨tok, htok⟩ := Option.isSome_iff_exists.mp ((token_hit_in_set_isSome _ _).mpr h.1)
  exact ⟨tok, by simp only [piiTokenHit, if_neg (ne_nil_of_isSecretKey h), hpre, if_neg h.2, htok]⟩

theorem hasDenyPrefix_of_hit {label tok : List Char}
    (h : piiTokenHit label = some (tok, .denyPrefix)) : HasDenyPrefix label := by
  rw [← find_denyPrefix_isSome]
  by_contra hnone
  rw [Option.not_isSome_iff_eq_none] at hnone
  simp only [piiTokenHit, hnone] at h
  split at h
  case isTrue => cases h
  case isFalse =>
    split at h
    case h_1 => cases h
    case h_2 =>
      split_ifs at h
      obtain ⟨_, -, h⟩ := Option.map_eq_some_iff.mp h
      cases h

/-- A denylisted prefix is looked for before anything else. -/
theorem pii_token_hit_prefix {label : List Char} (h : HasDenyPrefix label) :
    ∃ pre, piiTokenHit label = some (pre, .denyPrefix) := by
  have hne : label ≠ [] := by
    rintro rfl
    revert h
    decide +kernel
  obtain ⟨pre, hpre⟩ := Option.isSome_iff_exists.mp ((find_denyPrefix_isSome label).mpr h)
  exact ⟨pre, by simp only [piiTokenHit, if_neg hne, hpre]⟩

end DarkTower.Guard
