import DarkTower.Guard.CrossBoundary
import DarkTower.Lib.Pattern

/-!
# The list of guarded paths and the ownership manifest

Model of `check_yaml_mirror` (`dt-guard/src/gsa_sync.rs:165`), which compares the keys of the
ownership manifest with `CANON`. It has its own reader of the manifest: a line that it does not
recognise is skipped, where `Manifest::parse` refuses the text.

* `yamlKey_of_parseLine`: the two read the same key from a line that both read.
* `guarded_iff_canon`: in a text that `Manifest::parse` accepts they read the same keys, and if
  there is no hit, the manifest guards the paths that `CANON` names.
-/

namespace DarkTower.Guard

open DarkTower.Lib

namespace GsaSync

/-- The `rule_id`s of a `Hit`. -/
inductive SyncRule
  | canonMissing
  | strayYamlKey
deriving DecidableEq

/-- `Hit` (line 53). -/
structure SyncHit where
  ruleId : SyncRule
  detail : List Char
deriving DecidableEq

/-- `CANON` (line 27). -/
def canon : List (List Char) :=
  ["proto/**", "proto-gen/**", "build.rs", "crates/media-protocol/**", "crates/common/src/jwt.rs",
    "crates/common/src/meeting_token.rs", "crates/common/src/token_manager.rs",
    "crates/common/src/secret.rs", "crates/common/src/webtransport/**",
    "crates/ac-service/src/jwks/**", "crates/ac-service/src/token/**",
    "crates/ac-service/src/crypto/**", "crates/ac-service/src/audit/**",
    "db/migrations/**"].map String.toList

/-- `INTERSECTION_SUBPATHS` (line 45). -/
def intersectionSubpaths : List (List Char) :=
  ["proto/dark_tower/internal/v1/internal.proto".toList]

/-- The key that a line holds. -/
def yamlKey (line : List Char) : Option (List Char) :=
  match Text.stripPrefix (Text.trimStart line) ['"'] with
  | none => none
  | some stripped =>
    match Text.cutAt '"' stripped with
    | none => none
    | some (key, after) => if (Text.trimStart after).head? = some ':' then some key else none

/-- The keys, sorted and without duplicates. -/
def yamlKeys (content : List Char) : List (List Char) :=
  sortDedup ((Text.lines content).filterMap yamlKey)

/-- `check_yaml_mirror` (line 165). -/
def checkYamlMirror (content : List Char) : List SyncHit :=
  ((canon.filter (· ∉ yamlKeys content)).map fun c =>
    ⟨.canonMissing,
      "canon `".toList ++ c ++ "` missing from cross-boundary-ownership.yaml".toList⟩) ++
  ((yamlKeys content).filter fun key => key ∉ canon ∧ key ∉ intersectionSubpaths).map fun key =>
    ⟨.strayYamlKey, "cross-boundary-ownership.yaml has stray key `".toList ++ key ++
      "` — not in CANON or INTERSECTION_SUBPATHS".toList⟩

variable {content line key path : List Char} {entry : List Char × List (List Char)} {lineNo : ℕ}

/-! ## One line -/

/-- A quoted key with a colon behind it, at the start of a text. -/
def KeyAt (key cs : List Char) : Prop :=
  ∃ after, cs = '"' :: (key ++ '"' :: after) ∧ '"' ∉ key ∧
    (Text.trimStart after).head? = some ':'

theorem yamlKey_eq_some_iff : yamlKey line = some key ↔ KeyAt key (Text.trimStart line) := by
  unfold yamlKey KeyAt
  constructor
  · intro h
    split at h
    · cases h
    · next stripped hquote =>
      split at h
      · cases h
      · next found after hcut =>
        obtain ⟨hcolon, hfound⟩ := Option.ite_none_right_eq_some.mp h
        obtain rfl := Option.some.inj hfound
        obtain ⟨hstripped, hkey⟩ := Text.cutAt_eq_some_iff.mp hcut
        refine ⟨after, ?_, hkey, hcolon⟩
        rw [Pattern.stripPrefix_eq_some_iff.mp hquote, hstripped]
        rfl
  · rintro ⟨after, hline, hkey, hcolon⟩
    have hquote : Text.stripPrefix (Text.trimStart line) ['"'] = some (key ++ '"' :: after) :=
      Pattern.stripPrefix_eq_some_iff.mpr hline
    rw [hquote]
    dsimp only
    rw [Text.cutAt_eq_some_iff.mpr ⟨rfl, hkey⟩]
    exact if_pos hcolon

theorem keyAt_of_parseLine (h : Manifest.parseLine lineNo line = .ok entry) :
    KeyAt entry.1 line := by
  unfold Manifest.parseLine at h
  split at h
  · cases h
  next rest hquote =>
  split at h
  · cases h
  next glob after hcut =>
  split at h
  · cases h
  next behind hcolon =>
  split at h
  · cases h
  split at h
  · cases h
  obtain rfl := Except.ok.inj h
  obtain ⟨hrest, hglob⟩ := Text.cutAt_eq_some_iff.mp hcut
  refine ⟨after, ?_, hglob, ?_⟩
  · rw [Pattern.stripPrefix_eq_some_iff.mp hquote, hrest]
    rfl
  · rw [Pattern.stripPrefix_eq_some_iff.mp hcolon]
    rfl

theorem KeyAt.append (h : KeyAt key line) (rest : List Char) : KeyAt key (line ++ rest) := by
  obtain ⟨after, rfl, hkey, hcolon⟩ := h
  refine ⟨after ++ rest, by simp, hkey, ?_⟩
  have hne : Text.trimStart after ≠ [] := fun hnil => by rw [hnil] at hcolon; cases hcolon
  rw [Text.trimStart] at hne hcolon ⊢
  rw [List.dropWhile_append, if_neg (by simpa using hne), List.head?_append, hcolon]
  rfl

theorem yamlKey_of_parseLine (h : Manifest.parseLine lineNo (Text.trim line) = .ok entry) :
    yamlKey line = some entry.1 := by
  obtain ⟨spaces, hspaces⟩ := List.rdropWhile_prefix Text.isWhitespace (Text.trimStart line)
  rw [yamlKey_eq_some_iff, ← hspaces]
  exact (keyAt_of_parseLine h).append spaces

/-- A line that `Manifest::parse` skips has no key. -/
theorem yamlKey_of_skipped (h : Text.trim line = [] ∨ (Text.trim line).head? = some '#') :
    yamlKey line = none := by
  refine Option.eq_none_iff_forall_ne_some.mpr fun key hkey => ?_
  obtain ⟨after, hline, -⟩ := yamlKey_eq_some_iff.mp hkey
  rw [Text.trim, hline] at h
  have htrim := Text.trimEnd_append (c := '"') (by decide) [] (key ++ '"' :: after)
  rw [List.nil_append] at htrim
  rw [htrim] at h
  simp at h

/-! ## The whole text -/

theorem filterMap_yamlKey {lines : List (List Char)} {entries : List (List Char × List (List Char))}
    (h : Manifest.parseLines lineNo lines = .ok entries) :
    lines.filterMap yamlKey = entries.map (·.1) := by
  induction lines generalizing lineNo entries with
  | nil =>
    obtain rfl := Except.ok.inj h
    rfl
  | cons raw lines ih =>
    unfold Manifest.parseLines at h
    dsimp only at h
    split_ifs at h with hskip
    · rw [List.filterMap_cons_none (yamlKey_of_skipped hskip)]
      exact ih h
    · split at h
      · cases h
      · cases h
      · next entry entries hentry hentries =>
        obtain rfl := Except.ok.inj h
        rw [List.filterMap_cons_some (yamlKey_of_parseLine hentry), ih hentries]
        rfl

theorem mem_yamlKeys {m : Manifest} (h : Manifest.parse content = .ok m) :
    key ∈ yamlKeys content ↔ key ∈ m.entries.map (·.1) := by
  unfold Manifest.parse at h
  cases hlines : Manifest.parseLines 1 (Text.lines content) with
  | error e => rw [hlines] at h; cases h
  | ok entries =>
    rw [hlines] at h
    obtain rfl := Except.ok.inj h
    rw [yamlKeys, mem_sortDedup, filterMap_yamlKey hlines]

/-! ## The guarded paths -/

theorem checkYamlMirror_eq_nil_iff : checkYamlMirror content = [] ↔
    (∀ c ∈ canon, c ∈ yamlKeys content) ∧
      ∀ key ∈ yamlKeys content, key ∈ canon ∨ key ∈ intersectionSubpaths := by
  unfold checkYamlMirror
  rw [List.append_eq_nil_iff, List.map_eq_nil_iff, List.map_eq_nil_iff, List.filter_eq_nil_iff,
    List.filter_eq_nil_iff]
  simp only [decide_eq_true_eq, not_not, not_and_or]

/-- The paths of the intersection rule are guarded by `CANON` as well. -/
theorem exists_canon_of_subpath {sub : List Char} (hsub : sub ∈ intersectionSubpaths)
    (h : pathMatchesGlob path sub = true) : ∃ c ∈ canon, pathMatchesGlob path c = true := by
  obtain rfl := List.mem_singleton.mp hsub
  obtain rfl := (pathMatchesGlob_of_plain (by decide +kernel) (by decide +kernel)).mp h
  exact ⟨"proto/**".toList, by decide +kernel, by decide +kernel⟩

/-- The two readers of an accepted manifest read the same keys. Without a hit, the manifest
    guards exactly the paths that an entry of `CANON` matches. -/
theorem guarded_iff_canon {m : Manifest} (hparse : Manifest.parse content = .ok m) :
    (∀ key, key ∈ yamlKeys content ↔ key ∈ m.entries.map (·.1)) ∧
      (checkYamlMirror content = [] → ∀ path,
        m.isGsa path = true ↔ ∃ c ∈ canon, pathMatchesGlob path c = true) := by
  refine ⟨fun key => mem_yamlKeys hparse, fun hhits path => ?_⟩
  obtain ⟨hcanon, hkeys⟩ := checkYamlMirror_eq_nil_iff.mp hhits
  rw [Manifest.isGsa, List.any_eq_true]
  constructor
  · rintro ⟨entry, hentry, hmatch⟩
    obtain hc | hsub := hkeys entry.1 ((mem_yamlKeys hparse).mpr (List.mem_map_of_mem hentry))
    · exact ⟨entry.1, hc, hmatch⟩
    · exact exists_canon_of_subpath hsub hmatch
  · rintro ⟨c, hc, hmatch⟩
    obtain ⟨entry, hentry, rfl⟩ := List.mem_map.mp ((mem_yamlKeys hparse).mp (hcanon c hc))
    exact ⟨entry, hentry, hmatch⟩

/-- A manifest with a comment and one line for each entry. -/
def sampleYaml : List Char :=
  "# owners\n\n".toList ++ canon.flatMap fun c => '"' :: c ++ "\": [protocol]\n".toList

theorem guarded_iff_canon_sample : ∃ m, Manifest.parse sampleYaml = .ok m ∧
    ∀ path, m.isGsa path = true ↔ ∃ c ∈ canon, pathMatchesGlob path c = true := by
  have hparse : Manifest.parse sampleYaml = .ok ⟨canon.map fun c => (c, ["protocol".toList])⟩ := by
    with_unfolding_all rfl
  exact ⟨_, hparse, (guarded_iff_canon hparse).2 (by decide +kernel)⟩

end GsaSync

end DarkTower.Guard
