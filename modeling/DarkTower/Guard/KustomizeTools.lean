import DarkTower.Lib.Lines
import DarkTower.Lib.Pattern

/-!
# Policy checks on rendered manifests

Model of `check_security_context` and `check_empty_secret_data`
(`dt-guard/src/kustomize_tools.rs:135`, 185). Both read the rendered stream line by line: the
documents are split at lines that read `---`, a field is found at the first line that starts
with its name, and the settings of a workload are looked for in the text of its document.

* `splitYamlDocs_docText`: the documents of a stream, when no line of a document separates.
* `contains_docText_iff`: what the text of a document contains, one of its lines contains.
* `secretKeys_append`: the keys of a document, piece by piece.
-/

namespace DarkTower.Guard.Kustomize

open DarkTower.Lib

/-- A line of a file. -/
abbrev Line := List Char

/-- `YamlFinding` (line 107). -/
structure YamlFinding where
  resource : List Char
  detail : List Char
deriving DecidableEq

/-- `SECURITY_CONTEXT_KINDS` (line 119). -/
def securityContextKinds : List (List Char) := ["Deployment".toList, "StatefulSet".toList]

/-- `READ_ONLY_ROOT_FS_EXEMPT_SUBSTRINGS` (line 123). -/
def readOnlyRootFsExemptSubstrings : List (List Char) :=
  ["postgres", "prometheus", "loki", "grafana"].map String.toList

/-- The line separates two documents. -/
def isSeparator (line : Line) : Bool := Text.trim line = "---".toList

/-- The loop of `split_yaml_docs`. -/
def splitLoop (current : List Char) : List Line → List (List Char)
  | [] => if Text.trim current ≠ [] then [current] else []
  | line :: lines =>
    if isSeparator line then
      if Text.trim current ≠ [] then current :: splitLoop [] lines else splitLoop [] lines
    else splitLoop (current ++ line ++ ['\n']) lines

/-- `split_yaml_docs` (line 232). -/
def splitYamlDocs (rendered : List Char) : List (List Char) := splitLoop [] (Text.lines rendered)

/-- The value of the field, if the line starts with it and has one. -/
def fieldValue (field line : List Char) : Option (List Char) :=
  match Text.stripPrefix (Text.trimStart line) (field ++ [':']) with
  | none => none
  | some rest => if Text.trim rest = [] then none else some (Text.trim rest)

/-- `field_one_line` (line 256). -/
def fieldOneLine (doc field : List Char) : Option (List Char) :=
  (Text.lines doc).findSome? (fieldValue field)

/-- A line of `drop: [ALL]`. -/
def isAllCapability (line : Line) : Bool :=
  Text.trim line = "- ALL".toList || Text.trim line = "- \"ALL\"".toList ||
    Text.trim line = "- 'ALL'".toList

/-- `contains_all_capability_line` (line 272). -/
def containsAllCapabilityLine (doc : List Char) : Bool := (Text.lines doc).any isAllCapability

/-- `parse_indented_yaml_kv` (line 285). -/
def parseIndentedYamlKv (line : Line) : Option (List Char × List Char) :=
  if !line.head?.any Text.isWhitespace then none
  else
    let trimmed := Text.trimStart line
    if trimmed.head? = some '#' ∨ trimmed.head? = some '-' then none
    else
      match Text.cutAt ':' trimmed with
      | none => none
      | some (key, rest) =>
        let key := Text.trim key
        if key = [] ∨ key.any Text.isWhitespace then none else some (key, rest)

/-! ## The checks -/

/-- `{kind}/{name} ({source_label})`. -/
def resourceLabel (kind name sourceLabel : List Char) : List Char :=
  kind ++ '/' :: name ++ " (".toList ++ sourceLabel ++ [')']

/-- The findings for a setting that is not there. -/
def missing (resource : List Char) (setting : String) (present : Bool) : List YamlFinding :=
  if present then [] else [⟨resource, ("missing " ++ setting).toList⟩]

/-- The name is exempt from `readOnlyRootFilesystem: true`. -/
def isExempt (name : List Char) : Bool := readOnlyRootFsExemptSubstrings.any (Text.contains name)

/-- The body of the loop of `check_security_context`. -/
def securityContextOfDoc (sourceLabel doc : List Char) : List YamlFinding :=
  match fieldOneLine doc "kind".toList with
  | none => []
  | some kind =>
    if kind ∉ securityContextKinds then []
    else
      let name := (fieldOneLine doc "name".toList).getD "<unknown>".toList
      let resource := resourceLabel kind name sourceLabel
      missing resource "runAsNonRoot: true" (Text.contains doc "runAsNonRoot: true".toList) ++
      missing resource "allowPrivilegeEscalation: false"
        (Text.contains doc "allowPrivilegeEscalation: false".toList) ++
      missing resource "capabilities.drop: [ALL]"
        (Text.contains doc "drop:".toList && containsAllCapabilityLine doc) ++
      missing resource "readOnlyRootFilesystem: true"
        (isExempt name || Text.contains doc "readOnlyRootFilesystem: true".toList)

/-- `check_security_context` (line 135). -/
def checkSecurityContext (rendered sourceLabel : List Char) : List YamlFinding :=
  (splitYamlDocs rendered).flatMap (securityContextOfDoc sourceLabel)

/-- The value is empty. -/
def isEmptyValue (value : List Char) : Bool :=
  Text.trim value = [] || Text.trim value = "\"\"".toList || Text.trim value = "''".toList

/-- The key that a line of a section leaves empty. -/
def emptyKey (line : Line) : Option (List Char) :=
  match parseIndentedYamlKv line with
  | none => none
  | some (key, value) => if isEmptyValue value then some key else none

/-- The line starts a section. -/
def startsSection (line : Line) : Bool :=
  Text.trimEnd line = "data:".toList || Text.trimEnd line = "stringData:".toList

/-- The loop of `check_empty_secret_data` over the lines of a Secret: the keys it reports. -/
def secretKeys : Bool → List Line → List (List Char)
  | _, [] => []
  | inDataSection, line :: lines =>
    if startsSection line then secretKeys true lines
    else if inDataSection ∧ line.head?.any Char.isAlpha then secretKeys false lines
    else if !inDataSection then secretKeys inDataSection lines
    else (emptyKey line).toList ++ secretKeys inDataSection lines

/-- The finding for an empty value. -/
def emptyFinding (name sourceLabel key : List Char) : YamlFinding :=
  ⟨resourceLabel "Secret".toList name sourceLabel,
    "empty value for key '".toList ++ key ++ ['\'']⟩

/-- The body of the loop of `check_empty_secret_data`. -/
def emptySecretDataOfDoc (sourceLabel doc : List Char) : List YamlFinding :=
  match fieldOneLine doc "kind".toList with
  | none => []
  | some kind =>
    if kind ≠ "Secret".toList then []
    else
      let name := (fieldOneLine doc "name".toList).getD "<unknown>".toList
      (secretKeys false (Text.lines doc)).map (emptyFinding name sourceLabel)

/-- `check_empty_secret_data` (line 185). -/
def checkEmptySecretData (rendered sourceLabel : List Char) : List YamlFinding :=
  (splitYamlDocs rendered).flatMap (emptySecretDataOfDoc sourceLabel)

/-! ## Documents of lines -/

/-- The text of some lines. -/
def docText (lines : List Line) : List Char := lines.flatMap (· ++ ['\n'])

/-- Documents with a separator between any two. -/
def streamLines : List (List Line) → List Line
  | [] => []
  | [doc] => doc
  | doc :: docs => doc ++ "---".toList :: streamLines docs

/-- A text on one line. -/
def OnOneLine (line : Line) : Prop := '\n' ∉ line ∧ '\r' ∉ line

instance (line : Line) : Decidable (OnOneLine line) := inferInstanceAs (Decidable (_ ∧ _))

/-- Lines that do not separate, and one that is not blank. -/
structure IsDoc (doc : List Line) : Prop where
  onOneLine : ∀ line ∈ doc, OnOneLine line
  noSeparator : ∀ line ∈ doc, isSeparator line = false
  notBlank : ∃ line ∈ doc, Text.trim line ≠ []

variable {line field token : Line} {doc lines rest : List Line} {docs : List (List Line)}

theorem lines_docText (h : ∀ line ∈ lines, OnOneLine line) :
    Text.lines (docText lines) = lines := by
  have hlines := Text.lines_flatMap_newline (fun line hline => (h line hline).1) []
  rw [List.append_nil] at hlines
  rw [docText, hlines]
  have hcr : lines.map Text.stripCr = lines :=
    (List.map_congr_left fun line hline => Text.stripCr_of_not_mem (h line hline).2).trans
      (List.map_id lines)
  rw [hcr]
  exact List.append_nil lines

theorem trim_docText_ne_nil (h : ∃ line ∈ doc, Text.trim line ≠ []) :
    Text.trim (docText doc) ≠ [] := by
  obtain ⟨line, hline, hne⟩ := h
  intro hnil
  refine hne (Text.trim_eq_nil_iff.mpr fun c hc => Text.trim_eq_nil_iff.mp hnil c ?_)
  exact List.mem_flatMap.mpr ⟨line, hline, List.mem_append_left _ hc⟩

theorem splitLoop_append (h : ∀ line ∈ lines, isSeparator line = false) (current : List Char)
    (rest : List Line) : splitLoop current (lines ++ rest) =
      splitLoop (current ++ docText lines) rest := by
  induction lines generalizing current with
  | nil => rw [docText, List.flatMap_nil, List.append_nil, List.nil_append]
  | cons line lines ih =>
    obtain ⟨hline, hlines⟩ := List.forall_mem_cons.mp h
    rw [List.cons_append, splitLoop, hline, if_neg Bool.false_ne_true, ih hlines]
    simp only [docText, List.flatMap_cons, List.append_assoc]

theorem splitLoop_streamLines (h : ∀ doc ∈ docs, IsDoc doc) :
    splitLoop [] (streamLines docs) = docs.map docText := by
  induction docs with
  | nil => rfl
  | cons doc docs ih =>
    obtain ⟨hdoc, hdocs⟩ := List.forall_mem_cons.mp h
    have hblank := trim_docText_ne_nil hdoc.notBlank
    cases docs with
    | nil =>
      have hloop := splitLoop_append hdoc.noSeparator [] []
      rw [List.append_nil, List.nil_append] at hloop
      rw [streamLines, hloop, splitLoop, if_pos hblank]
      rfl
    | cons doc' docs =>
      have hsep : isSeparator "---".toList = true := by decide
      have hstream : streamLines (doc :: doc' :: docs) =
        doc ++ "---".toList :: streamLines (doc' :: docs) := rfl
      rw [hstream, splitLoop_append hdoc.noSeparator, List.nil_append, splitLoop, if_pos hsep,
        if_pos hblank, ih hdocs]
      rfl

theorem onOneLine_streamLines (h : ∀ doc ∈ docs, IsDoc doc) :
    ∀ line ∈ streamLines docs, OnOneLine line := by
  induction docs with
  | nil => exact nofun
  | cons doc docs ih =>
    obtain ⟨hdoc, hdocs⟩ := List.forall_mem_cons.mp h
    cases docs with
    | nil => exact hdoc.onOneLine
    | cons doc' docs =>
      exact List.forall_mem_append.mpr
        ⟨hdoc.onOneLine, List.forall_mem_cons.mpr ⟨by decide, ih hdocs⟩⟩

/-- The documents of a stream. -/
theorem splitYamlDocs_docText (h : ∀ doc ∈ docs, IsDoc doc) :
    splitYamlDocs (docText (streamLines docs)) = docs.map docText := by
  rw [splitYamlDocs, lines_docText (onOneLine_streamLines h), splitLoop_streamLines h]

theorem fieldOneLine_docText (h : ∀ line ∈ doc, OnOneLine line) (field : List Char) :
    fieldOneLine (docText doc) field = doc.findSome? (fieldValue field) := by
  rw [fieldOneLine, lines_docText h]

theorem contains_docText_iff (hne : token ≠ []) (hnewline : '\n' ∉ token) (doc : List Line) :
    Text.contains (docText doc) token = doc.any fun line => Text.contains line token := by
  rw [Bool.eq_iff_iff, Text.contains_iff, List.any_eq_true]
  simp only [Text.contains_iff]
  induction doc with
  | nil => simp [docText, hne]
  | cons line doc ih =>
    have hcons : docText (line :: doc) = line ++ '\n' :: docText doc := by
      rw [docText, List.flatMap_cons, List.append_assoc]
      rfl
    rw [hcons, Text.infix_append_cons_iff hnewline, ih, List.exists_mem_cons_iff]

/-! ## Sections of a Secret -/

theorem secretKeys_cons_of_section (h : startsSection line = true) (inDataSection : Bool) :
    secretKeys inDataSection (line :: lines) = secretKeys true lines := by
  rw [secretKeys, if_pos h]

theorem secretKeys_cons_of_alpha (h : startsSection line = false)
    (halpha : line.head?.any Char.isAlpha = true) (inDataSection : Bool) :
    secretKeys inDataSection (line :: lines) = secretKeys false lines := by
  rw [secretKeys, if_neg (by simp [h])]
  cases inDataSection with
  | false => rfl
  | true => exact if_pos ⟨rfl, halpha⟩

/-- Lines that neither start a section nor end one. -/
theorem secretKeys_append
    (h : ∀ line ∈ lines, startsSection line = false ∧ line.head?.any Char.isAlpha = false)
    (inDataSection : Bool) :
    secretKeys inDataSection (lines ++ rest) =
      (if inDataSection then lines.filterMap emptyKey else []) ++
        secretKeys inDataSection rest := by
  induction lines with
  | nil => cases inDataSection <;> rfl
  | cons line lines ih =>
    obtain ⟨⟨hstart, halpha⟩, hlines⟩ := List.forall_mem_cons.mp h
    rw [List.cons_append, secretKeys, if_neg (by simp [hstart]), if_neg (by simp [halpha]),
      ih hlines]
    cases inDataSection with
    | false => rfl
    | true =>
      rw [if_neg (by decide), if_pos rfl, if_pos rfl, List.filterMap_cons]
      cases emptyKey line <;> rfl

end DarkTower.Guard.Kustomize
