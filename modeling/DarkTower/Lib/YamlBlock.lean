import Mathlib.Tactic.Common

/-!
# Trees printed as YAML in block style

A tree of mappings, sequences, scalars that fit a line, and block scalars, and its lines: two
columns for a level, a sequence in the columns of its key. Scalars, keys and the headers of
block scalars are the texts as printed. A mapping or sequence without entries is printed as a
scalar.

`bodyLines_inner`: the lines below a key start with a blank or a dash, or are empty.
-/

namespace DarkTower.Lib.YamlBlock

/-- A line of a document, without its end. -/
abbrev Line := List Char

/-- A node of a document. -/
inductive Node
  | scalar (text : Line)
  | block (header : Line) (content : List Line)
  | map (fields : List (Line × Node))
  | seq (items : List Node)

/-- The fields of a mapping. -/
abbrev Fields := List (Line × Node)

/-- The blanks before a line. -/
def margin (indent : ℕ) : Line := List.replicate indent ' '

/-- A line of a block scalar. -/
def contentLine (indent : ℕ) (line : Line) : Line := if line = [] then [] else margin indent ++ line

/-- The dash of an item stands in the margin of its first line. -/
def dash (indent : ℕ) : List Line → List Line
  | [] => [margin indent ++ ['-']]
  | first :: lines => (margin indent ++ '-' :: ' ' :: first.drop (indent + 2)) :: lines

namespace Node

/-- What stands on the line of the key, behind the colon. -/
def inlineText : Node → Line
  | scalar text => ' ' :: text
  | block header _ => ' ' :: header
  | map _ | seq _ => []

/-- The value of a key. -/
def get (key : Line) : Node → Option Node
  | map fields => (fields.find? (·.1 = key)).map (·.2)
  | _ => none

/-- The items of a sequence. -/
def items : Node → List Node
  | seq items => items
  | _ => []

/-- The node is a scalar that is printed so. -/
def isScalar (text : Line) : Node → Bool
  | scalar text' => text' = text
  | _ => false

end Node

mutual

/-- The lines below the key of a node. -/
def bodyLines (indent : ℕ) : Node → List Line
  | .scalar _ => []
  | .block _ content => content.map (contentLine (indent + 2))
  | .map fields => mapLines (indent + 2) fields
  | .seq items => seqLines indent items

/-- The lines of a mapping. -/
def mapLines (indent : ℕ) : List (Line × Node) → List Line
  | [] => []
  | (key, node) :: fields =>
    (margin indent ++ (key ++ ':' :: node.inlineText)) ::
      (bodyLines indent node ++ mapLines indent fields)

/-- The lines of a sequence. -/
def seqLines (indent : ℕ) : List Node → List Line
  | [] => []
  | item :: items => itemLines indent item ++ seqLines indent items

/-- The lines of an item. -/
def itemLines (indent : ℕ) : Node → List Line
  | .scalar text => [margin indent ++ '-' :: ' ' :: text]
  | .block header content =>
    (margin indent ++ '-' :: ' ' :: header) :: content.map (contentLine (indent + 2))
  | .map fields => dash indent (mapLines (indent + 2) fields)
  | .seq items => dash indent (seqLines (indent + 2) items)

end

variable {indent : ℕ} {line rest : Line} {lines : List Line}

theorem mapLines_append (indent : ℕ) (fields fields' : Fields) :
    mapLines indent (fields ++ fields') = mapLines indent fields ++ mapLines indent fields' := by
  induction fields with
  | nil => rw [List.nil_append, mapLines, List.nil_append]
  | cons field fields ih =>
    obtain ⟨key, node⟩ := field
    rw [List.cons_append, mapLines, mapLines, ih, List.cons_append, List.append_assoc]

/-! ## Lines below a key -/

/-- The line starts with a blank or a dash, or is empty. -/
def Inner (line : Line) : Prop := ∀ c ∈ line.head?, c = ' ' ∨ c = '-'

theorem inner_margin (h : 0 < indent) : Inner (margin indent ++ rest) := by
  cases indent with
  | zero => exact absurd h (Nat.lt_irrefl 0)
  | succ indent =>
    rintro c ⟨⟩
    exact .inl rfl

theorem inner_margin_dash (indent : ℕ) (rest : Line) : Inner (margin indent ++ '-' :: rest) := by
  obtain rfl | h := Nat.eq_zero_or_pos indent
  · rintro c ⟨⟩
    exact .inr rfl
  · exact inner_margin h

theorem inner_contentLine (h : 0 < indent) : Inner (contentLine indent line) := by
  unfold contentLine
  split_ifs
  · exact nofun
  · exact inner_margin h

theorem inner_content (h : 0 < indent) (content : List Line) :
    ∀ line ∈ content.map (contentLine indent), Inner line :=
  List.forall_mem_map.mpr fun _ _ => inner_contentLine h

theorem inner_dash (h : ∀ line ∈ lines, Inner line) : ∀ line ∈ dash indent lines, Inner line := by
  cases lines with
  | nil => exact List.forall_mem_singleton.mpr (inner_margin_dash indent [])
  | cons first lines =>
    exact List.forall_mem_cons.mpr ⟨inner_margin_dash indent _, (List.forall_mem_cons.mp h).2⟩

mutual

theorem bodyLines_inner (indent : ℕ) : ∀ node, ∀ line ∈ bodyLines indent node, Inner line
  | .scalar _ => by rw [bodyLines]; exact nofun
  | .block _ content => by rw [bodyLines]; exact inner_content (Nat.succ_pos _) content
  | .map fields => by rw [bodyLines]; exact mapLines_inner (Nat.succ_pos _) fields
  | .seq items => by rw [bodyLines]; exact seqLines_inner indent items

theorem mapLines_inner {indent : ℕ} (h : 0 < indent) :
    ∀ fields, ∀ line ∈ mapLines indent fields, Inner line
  | [] => by rw [mapLines]; exact nofun
  | (_, node) :: fields => by
    rw [mapLines]
    exact List.forall_mem_cons.mpr ⟨inner_margin h, List.forall_mem_append.mpr
      ⟨bodyLines_inner indent node, mapLines_inner h fields⟩⟩

theorem seqLines_inner (indent : ℕ) : ∀ items, ∀ line ∈ seqLines indent items, Inner line
  | [] => by rw [seqLines]; exact nofun
  | item :: items => by
    rw [seqLines]
    exact List.forall_mem_append.mpr ⟨itemLines_inner indent item, seqLines_inner indent items⟩

theorem itemLines_inner (indent : ℕ) : ∀ node, ∀ line ∈ itemLines indent node, Inner line
  | .scalar text => by
    rw [itemLines]
    exact List.forall_mem_singleton.mpr (inner_margin_dash indent _)
  | .block _ content => by
    rw [itemLines]
    exact List.forall_mem_cons.mpr
      ⟨inner_margin_dash indent _, inner_content (Nat.succ_pos _) content⟩
  | .map fields => by rw [itemLines]; exact inner_dash (mapLines_inner (Nat.succ_pos _) fields)
  | .seq items => by rw [itemLines]; exact inner_dash (seqLines_inner _ items)

end

end DarkTower.Lib.YamlBlock
