import DarkTower.Guard.KustomizeTools
import DarkTower.Lib.YamlBlock
import Mathlib.Data.Char
import Mathlib.Data.List.Lex

/-!
# What the manifest checks see of rendered objects

Kubernetes objects, their lines as kustomize prints them, and the findings of
`check_security_context` and `check_empty_secret_data` on a stream of them. The checks work on
lines and text, not on the parsed manifests (`dt-guard/src/kustomize_tools.rs:132`): a setting
counts wherever it stands in the object, and a line of a block scalar like any other.

* `checks_see_objects`: the findings, object by object, for objects whose kind and name the
  checks read off the right line (`Legible`).
* `checks_read_lines`: streams on which the findings are not those of the objects.
-/

namespace DarkTower.Guard.Kustomize

open DarkTower.Lib DarkTower.Lib.YamlBlock

/-! ## Objects -/

/-- The fields of a Secret that hold its values. -/
def dataFields : List (List Char) := ["data".toList, "stringData".toList]

/-- A key of a Secret as printed. -/
def IsDataKey (key : List Char) : Prop :=
  key ≠ [] ∧ key.head? ≠ some '#' ∧ ':' ∉ key ∧ ∀ c ∈ key, Text.isWhitespace c = false

instance (key : List Char) : Decidable (IsDataKey key) := inferInstanceAs (Decidable (_ ∧ _))

/-- The string values of a Secret: a line, or a block scalar. -/
def IsStringNode : Node → Prop
  | .scalar _ => True
  | .block header _ => header.head? = some '|' ∨ header.head? = some '>'
  | .map _ | .seq _ => False

instance : DecidablePred IsStringNode
  | .scalar _ => inferInstanceAs (Decidable True)
  | .block _ _ => inferInstanceAs (Decidable (_ ∨ _))
  | .map _ | .seq _ => inferInstanceAs (Decidable False)

/-- The values under `data` or `stringData`; none are printed as `{}`. -/
def IsDataNode : Node → Prop
  | .scalar text => text = "\x7b\x7d".toList
  | .map entries => ∀ e ∈ entries, IsDataKey e.1 ∧ IsStringNode e.2
  | .block _ _ | .seq _ => False

instance : DecidablePred IsDataNode
  | .scalar _ => inferInstanceAs (Decidable (_ = _))
  | .map entries => inferInstanceAs (Decidable (∀ e ∈ entries, _))
  | .block _ _ | .seq _ => inferInstanceAs (Decidable False)

/-- A field name at the top. -/
def IsTopKey (key : List Char) : Prop := key.head?.any Char.isAlpha = true ∧ ':' ∉ key

instance (key : List Char) : Decidable (IsTopKey key) := inferInstanceAs (Decidable (_ ∧ _))

/-- The fields of an object with this kind, metadata and name, as they are printed. -/
structure WellPrinted (fields metadata : Fields) (kind name : List Char) : Prop where
  sorted : (fields.map (·.1)).Pairwise (· < ·)
  metadataSorted : (metadata.map (·.1)).Pairwise (· < ·)
  topKeys : ∀ f ∈ fields, IsTopKey f.1
  kindText : kind ≠ [] ∧ Text.trim kind = kind
  nameText : name ≠ [] ∧ Text.trim name = name
  dataNodes : kind = "Secret".toList → ∀ f ∈ fields, f.1 ∈ dataFields → IsDataNode f.2
  onOneLine : ∀ line ∈ mapLines 0 fields, OnOneLine line

/-- A Kubernetes object. -/
structure KObject where
  fields : Fields
  metadata : Fields
  kind : List Char
  name : List Char
  printed : WellPrinted fields metadata kind name
  hasKind : ("kind".toList, .scalar kind) ∈ fields
  hasMetadata : ("metadata".toList, .map metadata) ∈ fields
  hasName : ("name".toList, .scalar name) ∈ metadata

namespace KObject

variable (obj : KObject)

/-- The lines of the object. -/
def lines : List Line := mapLines 0 obj.fields

/-- `{kind}/{name} ({source_label})`. -/
def resource (sourceLabel : List Char) : List Char := resourceLabel obj.kind obj.name sourceLabel

end KObject

/-- The stream of some objects. -/
def renderStream (objs : List KObject) : List Char := docText (streamLines (objs.map KObject.lines))

/-! ## The objects themselves -/

/-- The node below some keys. -/
def nodeAt (path : List String) (node : Node) : Option Node :=
  path.foldlM (fun node key => node.get key.toList) node

/-- A scalar below some keys is printed so. -/
def saysAt (path : List String) (text : String) (node : Node) : Bool :=
  (nodeAt path node).any (Node.isScalar text.toList)

namespace KObject

variable (obj : KObject)

/-- The specification of the pods. -/
def podSpec : Node :=
  (nodeAt ["spec", "template", "spec"] (.map obj.fields)).getD (.map [])

/-- The container lacks a required setting; `runAsNonRoot` may be set for the pod. -/
def lacks (container : Node) : Bool :=
  !(saysAt ["securityContext", "runAsNonRoot"] "true" container ||
      saysAt ["securityContext", "runAsNonRoot"] "true" obj.podSpec) ||
    !saysAt ["securityContext", "allowPrivilegeEscalation"] "false" container ||
    !((nodeAt ["securityContext", "capabilities", "drop"] container).any fun drop =>
      drop.items.any (Node.isScalar "ALL".toList)) ||
    !(isExempt obj.name || saysAt ["securityContext", "readOnlyRootFilesystem"] "true" container)

/-- A container lacks a required setting. -/
def isInsecure : Bool :=
  ((nodeAt ["containers"] obj.podSpec).elim [] Node.items).any obj.lacks

/-- The keys of a Secret whose value is the empty string. -/
def emptyKeys : List (List Char) :=
  (obj.fields.filter (·.1 ∈ dataFields)).flatMap fun f =>
    match f.2 with
    | .map entries =>
      (entries.filter fun e =>
        e.2.isScalar "\"\"".toList || e.2.isScalar "''".toList).map (·.1)
    | _ => []

/-- The findings for the empty values of a Secret. -/
def emptyPairs (sourceLabel : List Char) : List YamlFinding :=
  if obj.kind ≠ "Secret".toList then []
  else obj.emptyKeys.map (emptyFinding obj.name sourceLabel)

end KObject

/-- The findings are those of the objects: the empty values of the Secrets, and the workloads
    with an insecure container. -/
def SeesObjects (objs : List KObject) (sourceLabel : List Char) : Prop :=
  (∀ f ∈ checkEmptySecretData (renderStream objs) sourceLabel,
    f ∈ objs.flatMap (·.emptyPairs sourceLabel)) ∧
  (∀ f ∈ objs.flatMap (·.emptyPairs sourceLabel),
    f ∈ checkEmptySecretData (renderStream objs) sourceLabel) ∧
  ∀ obj ∈ objs, obj.kind ∈ securityContextKinds →
    ((checkSecurityContext (renderStream objs) sourceLabel).any
      (·.resource = obj.resource sourceLabel) = true ↔ obj.isInsecure = true)

instance (objs : List KObject) (sourceLabel : List Char) :
    Decidable (SeesObjects objs sourceLabel) := inferInstanceAs (Decidable (_ ∧ _ ∧ _))

/-- A text as a scalar. -/
def word (text : String) : Node := .scalar text.toList

/-- A mapping with fields in the given order. -/
def mapping (fields : List (String × Node)) : Node := .map (fields.map fun f => (f.1.toList, f.2))

/-- All settings of a container. -/
def secureContext : Node :=
  mapping [("allowPrivilegeEscalation", word "false"),
    ("capabilities", mapping [("drop", .seq [word "ALL"])]),
    ("readOnlyRootFilesystem", word "true"), ("runAsNonRoot", word "true")]

/-- A container. -/
def secureContainer : Node := mapping [("name", word "app"), ("securityContext", secureContext)]

instance (fields metadata : Fields) (kind name : List Char) :
    Decidable (WellPrinted fields metadata kind name) :=
  decidable_of_iff ((fields.map (·.1)).Pairwise (· < ·) ∧ (metadata.map (·.1)).Pairwise (· < ·) ∧
      (∀ f ∈ fields, IsTopKey f.1) ∧ (kind ≠ [] ∧ Text.trim kind = kind) ∧
      (name ≠ [] ∧ Text.trim name = name) ∧
      (kind = "Secret".toList → ∀ f ∈ fields, f.1 ∈ dataFields → IsDataNode f.2) ∧
      ∀ line ∈ mapLines 0 fields, OnOneLine line)
    ⟨fun ⟨h₁, h₂, h₃, h₄, h₅, h₆, h₇⟩ => ⟨h₁, h₂, h₃, h₄, h₅, h₆, h₇⟩,
      fun ⟨h₁, h₂, h₃, h₄, h₅, h₆, h₇⟩ => ⟨h₁, h₂, h₃, h₄, h₅, h₆, h₇⟩⟩

/-- An object with fields before and after its kind and metadata, and with metadata before its
    name. -/
def object (kind name : String) (before labels after : List (String × Node))
    (h : WellPrinted
      (before.map (fun f => (f.1.toList, f.2)) ++ ("kind".toList, word kind) ::
        ("metadata".toList, mapping (labels ++ [("name", word name)])) ::
          after.map fun f => (f.1.toList, f.2))
      ((labels ++ [("name", word name)]).map fun f => (f.1.toList, f.2)) kind.toList name.toList) :
    KObject where
  fields := before.map (fun f => (f.1.toList, f.2)) ++ ("kind".toList, word kind) ::
    ("metadata".toList, mapping (labels ++ [("name", word name)])) ::
      after.map fun f => (f.1.toList, f.2)
  metadata := (labels ++ [("name", word name)]).map fun f => (f.1.toList, f.2)
  kind := kind.toList
  name := name.toList
  printed := h
  hasKind := List.mem_append_right _ List.mem_cons_self
  hasMetadata := List.mem_append_right _ (List.mem_cons_of_mem _ List.mem_cons_self)
  hasName := List.mem_map.mpr ⟨_, List.mem_append_right _ List.mem_cons_self, rfl⟩

/-- The specification of a Deployment with these containers. -/
abbrev deploymentFields (containers : List Node) : List (String × Node) :=
  [("spec", mapping [("template", mapping [("spec", mapping [("containers", .seq containers)])])])]

/-- Two containers, one without a security context. -/
def twoContainers : KObject :=
  object "Deployment" "api" [("apiVersion", word "apps/v1")] []
    (deploymentFields [secureContainer, mapping [("name", word "side")]]) (by decide +kernel)

/-- The name of an exempt workload as a label, and no read-only file system. -/
def namedLabel : KObject :=
  object "Deployment" "api" [("apiVersion", word "apps/v1")]
    [("labels", mapping [("name", word "loki-client")])]
    (deploymentFields [mapping [("securityContext", mapping
      [("allowPrivilegeEscalation", word "false"),
        ("capabilities", mapping [("drop", .seq [word "ALL"])]), ("runAsNonRoot", word "true")])]])
    (by decide +kernel)

/-- A script that prints `---`. -/
def separatorInScript : KObject :=
  object "Deployment" "api" [("apiVersion", word "apps/v1")] []
    (deploymentFields [mapping [("args", .seq [.block "|".toList ["---".toList]]),
      ("securityContext", secureContext)]]) (by decide +kernel)

/-- A ConfigMap with a manifest in it. -/
def manifestInConfigMap : KObject :=
  object "ConfigMap" "env" [("apiVersion", word "v1"),
    ("data", mapping [("a.yaml", .block "|".toList ["kind: Secret".toList]),
      ("b", word "\"\"")])] [] [] (by decide +kernel)

/-- A Secret with a file in it. -/
def fileInSecret : KObject :=
  object "Secret" "db" [("apiVersion", word "v1"),
    ("data", mapping [("db.conf", .block "|".toList ["replica:".toList])])] [] []
    (by decide +kernel)

/-- A Secret with a key that starts with a dash. -/
def dashedKey : KObject :=
  object "Secret" "db" [("apiVersion", word "v1"), ("data", mapping [("-token", word "\"\"")])] []
    [] (by decide +kernel)

/-- A setting counts for all containers of its object, and a line of a block scalar counts as a
    separator, a kind, a name or an empty key. -/
theorem checks_read_lines : ¬SeesObjects [twoContainers] "x".toList ∧
    ¬SeesObjects [namedLabel] "x".toList ∧ ¬SeesObjects [separatorInScript] "x".toList ∧
    ¬SeesObjects [manifestInConfigMap] "x".toList ∧ ¬SeesObjects [fileInSecret] "x".toList ∧
    ¬SeesObjects [dashedKey] "x".toList := by
  decide +kernel

/-! ## What the checks see -/

/-- No line says the field. -/
def Silent (field : List Char) (lines : List Line) : Prop :=
  ∀ line ∈ lines, fieldValue field line = none

instance (field : List Char) (lines : List Line) : Decidable (Silent field lines) :=
  inferInstanceAs (Decidable (∀ line ∈ lines, _))

/-- No line reads `---`, and none says the kind or the name before the object does. -/
structure KObject.Legible (obj : KObject) : Prop where
  noSeparator : ∀ line ∈ obj.lines, isSeparator line = false
  kindFirst : Silent "kind".toList (mapLines 0 (obj.fields.takeWhile (·.1 ≠ "kind".toList)))
  nameFirst : Silent "name".toList (mapLines 0 (obj.fields.takeWhile (·.1 ≠ "metadata".toList)))
  nameFirstInside : Silent "name".toList (mapLines 2 (obj.metadata.takeWhile (·.1 ≠ "name".toList)))

/-- The keys that an entry of a Secret is reported for: its own, if its value is empty, and what
    looks like one in a block scalar. A key that starts with a dash is taken for an item. -/
def entryKeys : Line × Node → List (List Char)
  | (key, .scalar text) => if key.head? ≠ some '-' ∧ isEmptyValue text then [key] else []
  | (_, .block _ content) => content.filterMap fun line => emptyKey (contentLine 4 line)
  | _ => []

/-- The keys that a field of a Secret is reported for. -/
def fieldKeys (field : Line × Node) : List (List Char) :=
  if field.1 ∈ dataFields then
    match field.2 with
    | .map entries => entries.flatMap entryKeys
    | _ => []
  else []

namespace KObject

variable (obj : KObject)

/-- The token stands somewhere in the object. -/
def mentions (token : String) : Bool := obj.lines.any fun line => Text.contains line token.toList

/-- The findings for a workload: a setting that stands nowhere in it. -/
def securityFindings (sourceLabel : List Char) : List YamlFinding :=
  if obj.kind ∉ securityContextKinds then []
  else
    missing (obj.resource sourceLabel) "runAsNonRoot: true" (obj.mentions "runAsNonRoot: true") ++
    missing (obj.resource sourceLabel) "allowPrivilegeEscalation: false"
      (obj.mentions "allowPrivilegeEscalation: false") ++
    missing (obj.resource sourceLabel) "capabilities.drop: [ALL]"
      (obj.mentions "drop:" && obj.lines.any isAllCapability) ++
    missing (obj.resource sourceLabel) "readOnlyRootFilesystem: true"
      (isExempt obj.name || obj.mentions "readOnlyRootFilesystem: true")

/-- The findings for a Secret. -/
def secretFindings (sourceLabel : List Char) : List YamlFinding :=
  if obj.kind ≠ "Secret".toList then []
  else (obj.fields.flatMap fieldKeys).map (emptyFinding obj.name sourceLabel)

end KObject

variable {obj : KObject} {objs : List KObject} {key value text rest : Line} {node : Node}
  {fields entries : Fields} {indent : ℕ}

/-! ## Kind and name -/

/-- A key parts a sorted mapping. -/
theorem eq_takeWhile_append (hsorted : (fields.map (·.1)).Pairwise (· < ·))
    (hmem : (key, node) ∈ fields) :
    ∃ after, fields = fields.takeWhile (·.1 ≠ key) ++ (key, node) :: after := by
  induction fields with
  | nil => cases hmem
  | cons f fields ih =>
    obtain ⟨hfirst, hsorted⟩ := List.pairwise_cons.mp hsorted
    obtain rfl | hmem := List.mem_cons.mp hmem
    · exact ⟨fields, by rw [List.takeWhile_cons_of_neg (by simp)]; rfl⟩
    · have hne : f.1 ≠ key := ne_of_lt (hfirst key (List.mem_map_of_mem hmem))
      obtain ⟨after, hafter⟩ := ih hsorted hmem
      refine ⟨after, ?_⟩
      rw [List.takeWhile_cons_of_pos (by simpa using hne), List.cons_append, ← hafter]

theorem trimStart_margin {c : Char} (hc : Text.isWhitespace c = false) (indent : ℕ) (rest : Line) :
    Text.trimStart (margin indent ++ c :: rest) = c :: rest :=
  Text.trimStart_append_cons (fun d hd => by rw [List.eq_of_mem_replicate hd]; decide) hc

theorem trim_blank_cons (text : Line) : Text.trim (' ' :: text) = Text.trim text := rfl

/-- The line of a field says it. -/
theorem fieldValue_line {field : Line} (hfield : field.head?.any (!Text.isWhitespace ·) = true)
    (hvalue : value ≠ [] ∧ Text.trim value = value) (indent : ℕ) :
    fieldValue field (margin indent ++ (field ++ ':' :: ' ' :: value)) = some value := by
  cases field with
  | nil => cases hfield
  | cons c field =>
    have hc : Text.isWhitespace c = false := by simpa using hfield
    have hstrip : Text.stripPrefix (c :: field ++ ':' :: ' ' :: value) (c :: field ++ [':']) =
        some (' ' :: value) := Pattern.stripPrefix_eq_some_iff.mpr (by simp)
    unfold fieldValue
    rw [List.cons_append, trimStart_margin hc, ← List.cons_append, hstrip]
    dsimp only
    rw [trim_blank_cons, hvalue.2, if_neg hvalue.1]

theorem findSome?_of_silent {lines : List Line} (h : Silent key lines) (rest : List Line) :
    (lines ++ rest).findSome? (fieldValue key) = rest.findSome? (fieldValue key) := by
  rw [List.findSome?_append, List.findSome?_eq_none_iff.mpr h, Option.none_or]

/-- The first line that says a field is that of the mapping. -/
theorem findSome?_mapLines (hsorted : (fields.map (·.1)).Pairwise (· < ·))
    (hmem : (key, .scalar value) ∈ fields)
    (hsilent : Silent key (mapLines indent (fields.takeWhile (·.1 ≠ key))))
    (hkey : key.head?.any (!Text.isWhitespace ·) = true)
    (hvalue : value ≠ [] ∧ Text.trim value = value) (rest : List Line) :
    (mapLines indent fields ++ rest).findSome? (fieldValue key) = some value := by
  obtain ⟨after, hfields⟩ := eq_takeWhile_append hsorted hmem
  rw [hfields, mapLines_append, List.append_assoc, findSome?_of_silent hsilent, mapLines,
    List.cons_append, List.findSome?_cons, Node.inlineText, fieldValue_line hkey hvalue]

theorem kind_seen (h : obj.Legible) :
    obj.lines.findSome? (fieldValue "kind".toList) = some obj.kind := by
  rw [← List.append_nil obj.lines]
  exact findSome?_mapLines obj.printed.sorted obj.hasKind h.kindFirst (by decide)
    obj.printed.kindText []

theorem name_seen (h : obj.Legible) :
    obj.lines.findSome? (fieldValue "name".toList) = some obj.name := by
  obtain ⟨after, hfields⟩ := eq_takeWhile_append obj.printed.sorted obj.hasMetadata
  have hheader : fieldValue "name".toList
      (margin 0 ++ ("metadata".toList ++ ':' :: (Node.map obj.metadata).inlineText)) = none := by
    rw [Node.inlineText]
    decide
  rw [KObject.lines, hfields, mapLines_append, findSome?_of_silent h.nameFirst, mapLines,
    List.findSome?_cons, hheader, bodyLines]
  exact findSome?_mapLines obj.printed.metadataSorted obj.hasName h.nameFirstInside (by decide)
    obj.printed.nameText _

/-! ## The text of an object -/

theorem KObject.onOneLine (obj : KObject) : ∀ line ∈ obj.lines, OnOneLine line :=
  obj.printed.onOneLine

theorem KObject.isDoc (h : obj.Legible) : IsDoc obj.lines where
  onOneLine := obj.onOneLine
  noSeparator := h.noSeparator
  notBlank := by
    obtain ⟨line, hline, hvalue⟩ := List.exists_of_findSome?_eq_some (kind_seen h)
    refine ⟨line, hline, fun hnil => ?_⟩
    have hstart : Text.trimStart line = [] :=
      List.dropWhile_eq_nil_iff.mpr fun c hc => Text.trim_eq_nil_iff.mp hnil c hc
    rw [fieldValue, hstart] at hvalue
    cases hvalue

theorem contains_lines (obj : KObject) (token : String)
    (h : token.toList ≠ [] ∧ '\n' ∉ token.toList) :
    Text.contains (docText obj.lines) token.toList = obj.mentions token :=
  contains_docText_iff h.1 h.2 obj.lines

theorem securityContextOfDoc_lines (h : obj.Legible) (sourceLabel : List Char) :
    securityContextOfDoc sourceLabel (docText obj.lines) = obj.securityFindings sourceLabel := by
  unfold securityContextOfDoc KObject.securityFindings
  rw [fieldOneLine_docText obj.onOneLine, fieldOneLine_docText obj.onOneLine, kind_seen h,
    name_seen h]
  dsimp only
  rw [contains_lines obj _ (by decide), contains_lines obj _ (by decide),
    contains_lines obj _ (by decide), contains_lines obj _ (by decide),
    containsAllCapabilityLine, lines_docText obj.onOneLine]
  rfl

/-! ## The keys of a Secret -/

theorem startsSection_iff {line : Line} :
    startsSection line = true ↔ ∃ key ∈ dataFields, Text.trimEnd line = key ++ [':'] := by
  rw [startsSection, Bool.or_eq_true, decide_eq_true_iff, decide_eq_true_iff]
  constructor
  · rintro (h | h)
    · exact ⟨_, List.mem_cons_self, h⟩
    · exact ⟨_, List.mem_cons_of_mem _ List.mem_cons_self, h⟩
  · rintro ⟨key, hkey, h⟩
    obtain rfl | hkey := List.mem_cons.mp hkey
    · exact .inl h
    · obtain rfl := List.mem_singleton.mp hkey
      exact .inr h

/-- A line below a key neither starts a section nor ends one. -/
theorem inner_kept {line : Line} (h : Inner line) :
    startsSection line = false ∧ line.head?.any Char.isAlpha = false := by
  cases line with
  | nil => decide
  | cons c line =>
    have hc : c ≠ 'd' ∧ c ≠ 's' ∧ c.isAlpha = false := by
      obtain rfl | rfl := h c rfl <;> decide
    refine ⟨?_, hc.2.2⟩
    rw [← Bool.not_eq_true, startsSection_iff]
    rintro ⟨key, hkey, hline⟩
    have hpre : key ++ [':'] <+: c :: line := hline ▸ List.rdropWhile_prefix _ _
    obtain rfl | hkey := List.mem_cons.mp hkey
    · exact hc.1 (List.cons_prefix_cons.mp hpre).1.symm
    · obtain rfl := List.mem_singleton.mp hkey
      exact hc.2.1 (List.cons_prefix_cons.mp hpre).1.symm

/-- The line of another field starts no section. -/
theorem startsSection_of_notMem (hcolon : ':' ∉ key) (hkey : key ∉ dataFields) (rest : Line) :
    startsSection (key ++ ':' :: rest) = false := by
  rw [← Bool.not_eq_true, startsSection_iff]
  rintro ⟨name, hname, hline⟩
  have hcolon' : ':' ∉ name := by
    have hall : ∀ name ∈ dataFields, ':' ∉ name := by decide
    exact hall name hname
  have hcut : Text.cutAt ':' (key ++ ':' :: Text.trimEnd rest) = some (key, Text.trimEnd rest) :=
    Text.cutAt_eq_some_iff.mpr ⟨rfl, hcolon⟩
  rw [Text.trimEnd_append (by decide)] at hline
  rw [hline, Text.cutAt_eq_some_iff.mpr ⟨rfl, hcolon'⟩] at hcut
  exact hkey ((Prod.mk.inj (Option.some.inj hcut)).1 ▸ hname)

theorem head?_topKey (h : IsTopKey key) (rest : Line) :
    (key ++ rest).head?.any Char.isAlpha = true := by
  cases key with
  | nil => cases h.1
  | cons c key => exact h.1

/-- The line of an entry. A key that starts with a dash is taken for an item. -/
theorem parseIndentedYamlKv_line (hkey : IsDataKey key) (rest : Line) :
    parseIndentedYamlKv (margin 2 ++ (key ++ ':' :: rest)) =
      if key.head? = some '-' then none else some (key, rest) := by
  obtain ⟨hne, hmark, hcolon, hspace⟩ := hkey
  have hhead : (key ++ ':' :: rest).head? = key.head? := by
    obtain ⟨c, key, rfl⟩ := List.exists_cons_of_ne_nil hne
    rfl
  have hstart : Text.trimStart (margin 2 ++ (key ++ ':' :: rest)) = key ++ ':' :: rest := by
    obtain ⟨c, key, rfl⟩ := List.exists_cons_of_ne_nil hne
    exact trimStart_margin (hspace c List.mem_cons_self) 2 _
  have hcut : Text.cutAt ':' (key ++ ':' :: rest) = some (key, rest) :=
    Text.cutAt_eq_some_iff.mpr ⟨rfl, hcolon⟩
  have hany : ¬(key = [] ∨ key.any Text.isWhitespace = true) := by simpa [hne] using hspace
  have hblank : (margin 2 ++ (key ++ ':' :: rest)).head?.any Text.isWhitespace = true := rfl
  unfold parseIndentedYamlKv
  rw [hblank, hstart]
  dsimp only
  rw [hhead, hcut]
  dsimp only
  rw [Text.trim_eq_self hspace, if_neg hany]
  simp [hmark]

theorem emptyKey_line (hkey : IsDataKey key) (value : Line) :
    emptyKey (margin 2 ++ (key ++ ':' :: value)) =
      if key.head? ≠ some '-' ∧ isEmptyValue value then some key else none := by
  rw [emptyKey, parseIndentedYamlKv_line hkey]
  by_cases hdash : key.head? = some '-'
  · simp [hdash]
  · simp [hdash]

/-- The header of a block scalar is not empty. -/
theorem isEmptyValue_header {header : Line}
    (h : header.head? = some '|' ∨ header.head? = some '>') :
    isEmptyValue (' ' :: header) = false := by
  cases header with
  | nil => exact absurd h (by decide)
  | cons c header =>
    have hc : Text.isWhitespace c = false ∧ c ≠ '"' ∧ c ≠ '\'' := by
      obtain h | h := h <;> obtain rfl := Option.some.inj h <;> decide
    have htrim : Text.trim (c :: header) = c :: Text.trimEnd header := by
      rw [Text.trim, Text.trimStart, List.dropWhile_cons_of_neg (by simp [hc.1])]
      exact Text.trimEnd_append hc.1 [] header
    simp [isEmptyValue, trim_blank_cons, htrim, hc.2]

theorem filterMap_entry (hkey : IsDataKey key) (hnode : IsStringNode node) :
    (mapLines 2 [(key, node)]).filterMap emptyKey = entryKeys (key, node) := by
  rw [mapLines, mapLines, List.append_nil, List.filterMap_cons, emptyKey_line hkey]
  cases node with
  | scalar text =>
    have hvalue : isEmptyValue (Node.scalar text).inlineText = isEmptyValue text := rfl
    rw [bodyLines, entryKeys, hvalue]
    split_ifs <;> rfl
  | block header content =>
    have hvalue : isEmptyValue (Node.block header content).inlineText = false :=
      isEmptyValue_header hnode
    rw [bodyLines, entryKeys, hvalue, if_neg (by simp), List.filterMap_map]
    rfl
  | map | seq => cases hnode

theorem filterMap_entries (h : ∀ e ∈ entries, IsDataKey e.1 ∧ IsStringNode e.2) :
    (mapLines 2 entries).filterMap emptyKey = entries.flatMap entryKeys := by
  induction entries with
  | nil => rw [mapLines, List.filterMap_nil, List.flatMap_nil]
  | cons e entries ih =>
    obtain ⟨⟨hkey, hnode⟩, hentries⟩ := List.forall_mem_cons.mp h
    rw [← List.singleton_append, mapLines_append, List.filterMap_append, ih hentries,
      filterMap_entry hkey hnode, List.flatMap_append, List.flatMap_singleton]

/-- A field, whatever section stands before it. -/
theorem secretKeys_field (hkey : IsTopKey key) (hnode : key ∈ dataFields → IsDataNode node)
    (fields : Fields) (inDataSection : Bool)
    (ih : ∀ inDataSection, secretKeys inDataSection (mapLines 0 fields) =
      fields.flatMap fieldKeys) :
    secretKeys inDataSection (mapLines 0 ((key, node) :: fields)) =
      fieldKeys (key, node) ++ fields.flatMap fieldKeys := by
  have hkept : ∀ line ∈ bodyLines 0 node,
      startsSection line = false ∧ line.head?.any Char.isAlpha = false := fun line hline =>
    inner_kept (bodyLines_inner 0 node line hline)
  have hheader : margin 0 ++ (key ++ ':' :: node.inlineText) = key ++ ':' :: node.inlineText := rfl
  rw [mapLines, hheader]
  by_cases hdata : key ∈ dataFields
  · have hnode := hnode hdata
    cases node with
    | scalar text =>
      obtain rfl : text = "\x7b\x7d".toList := hnode
      have hplain : startsSection (key ++ ':' :: (' ' :: "\x7b\x7d".toList)) = false := by
        have hall : ∀ key ∈ dataFields,
            startsSection (key ++ ':' :: (' ' :: "\x7b\x7d".toList)) = false := by decide
        exact hall key hdata
      rw [Node.inlineText, secretKeys_cons_of_alpha hplain (head?_topKey hkey _), bodyLines,
        List.nil_append, ih, fieldKeys, if_pos hdata]
      rfl
    | map entries =>
      have hsection : startsSection (key ++ [':']) = true :=
        startsSection_iff.mpr ⟨key, hdata, Text.trimEnd_append (by decide) key []⟩
      rw [Node.inlineText, secretKeys_cons_of_section hsection, secretKeys_append hkept, ih,
        bodyLines, if_pos rfl, filterMap_entries hnode, fieldKeys, if_pos hdata]
    | block | seq => cases hnode
  · rw [secretKeys_cons_of_alpha (startsSection_of_notMem hkey.2 hdata _) (head?_topKey hkey _),
      secretKeys_append hkept, ih, fieldKeys, if_neg hdata]
    rfl

theorem secretKeys_mapLines
    (h : ∀ f ∈ fields, IsTopKey f.1 ∧ (f.1 ∈ dataFields → IsDataNode f.2)) (inDataSection : Bool) :
    secretKeys inDataSection (mapLines 0 fields) = fields.flatMap fieldKeys := by
  induction fields generalizing inDataSection with
  | nil =>
    rw [mapLines, List.flatMap_nil]
    unfold secretKeys
    rfl
  | cons f fields ih =>
    obtain ⟨⟨hkey, hnode⟩, hfields⟩ := List.forall_mem_cons.mp h
    exact secretKeys_field hkey hnode fields inDataSection (ih hfields)

theorem emptySecretDataOfDoc_lines (h : obj.Legible) (sourceLabel : List Char) :
    emptySecretDataOfDoc sourceLabel (docText obj.lines) = obj.secretFindings sourceLabel := by
  unfold emptySecretDataOfDoc KObject.secretFindings
  rw [fieldOneLine_docText obj.onOneLine, fieldOneLine_docText obj.onOneLine, kind_seen h,
    name_seen h, lines_docText obj.onOneLine]
  dsimp only
  by_cases hkind : obj.kind = "Secret".toList
  · have hfields : ∀ f ∈ obj.fields, IsTopKey f.1 ∧ (f.1 ∈ dataFields → IsDataNode f.2) :=
      fun f hf => ⟨obj.printed.topKeys f hf, obj.printed.dataNodes hkind f hf⟩
    rw [if_neg (not_not.mpr hkind), if_neg (not_not.mpr hkind), KObject.lines,
      secretKeys_mapLines hfields]
    rfl
  · rw [if_pos hkind, if_pos hkind]

/-! ## A stream of objects -/

/-- What the checks see of objects that can be read line by line. A Secret is reported for its
    empty values and for the lines of its block scalars that look like one, a workload for each
    setting that stands nowhere in it; other objects change nothing. -/
theorem checks_see_objects (h : ∀ obj ∈ objs, obj.Legible) (sourceLabel : List Char) :
    checkEmptySecretData (renderStream objs) sourceLabel =
        objs.flatMap (·.secretFindings sourceLabel) ∧
      checkSecurityContext (renderStream objs) sourceLabel =
        objs.flatMap (·.securityFindings sourceLabel) := by
  have hdocs : splitYamlDocs (renderStream objs) =
      (objs.map KObject.lines).map docText :=
    splitYamlDocs_docText (List.forall_mem_map.mpr fun obj hobj => KObject.isDoc (h obj hobj))
  unfold checkEmptySecretData checkSecurityContext
  rw [hdocs, List.map_map, List.flatMap_map, List.flatMap_map]
  constructor
  · exact List.flatMap_congr fun obj hobj => emptySecretDataOfDoc_lines (h obj hobj) sourceLabel
  · exact List.flatMap_congr fun obj hobj => securityContextOfDoc_lines (h obj hobj) sourceLabel

theorem legible_twoContainers : twoContainers.Legible :=
  ⟨by decide +kernel, by decide +kernel, by decide +kernel, by decide +kernel⟩

theorem legible_fileInSecret : fileInSecret.Legible :=
  ⟨by decide +kernel, by decide +kernel, by decide +kernel, by decide +kernel⟩

theorem checks_see_two :
    checkEmptySecretData (renderStream [twoContainers, fileInSecret]) "x".toList =
        [twoContainers, fileInSecret].flatMap (·.secretFindings "x".toList) ∧
      checkSecurityContext (renderStream [twoContainers, fileInSecret]) "x".toList =
        [twoContainers, fileInSecret].flatMap (·.securityFindings "x".toList) :=
  checks_see_objects (List.forall_mem_cons.mpr ⟨legible_twoContainers,
    List.forall_mem_singleton.mpr legible_fileInSecret⟩) _

end DarkTower.Guard.Kustomize
