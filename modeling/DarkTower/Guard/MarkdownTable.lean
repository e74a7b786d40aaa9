import DarkTower.Lib.Text

/-!
# Pipe tables in Markdown (`dt-guard/src/common/markdown_table.rs`)

The table under a heading, as the two cross-boundary guards read it. A row has at least
one cell; the first one is a path, without backticks and without one annotation in
parentheses at its end, and a directory `foo/` is read as `foo/**`.
-/

namespace DarkTower.Guard

open DarkTower.Lib

/-- `TableRow` (markdown_table.rs:25). -/
structure TableRow where
  cells : List (List Char)
  lineNo : ℕ
  nonempty : cells ≠ []
deriving DecidableEq

/-- The cell of a column, or nothing. -/
def TableRow.cell (row : TableRow) (i : ℕ) : List Char := row.cells.getD i []

/-- The cell is `:?-+:?`. -/
def isSeparatorCell (cell : List Char) : Bool :=
  let cell := if cell.head? = some ':' then cell.tail else cell
  let rest := cell.dropWhile (· = '-')
  rest.length < cell.length && (rest = [] || rest = [':'])

/-- `is_separator_row` (markdown_table.rs:108). -/
def isSeparatorRow (line : List Char) : Bool :=
  let stripped := Text.trim line
  stripped.head? = some '|' &&
    (((stripped.splitOn '|').map Text.trim).filter (· ≠ [])).all isSeparatorCell

/-- `split_pipe_row` (markdown_table.rs:145). -/
def splitPipeRow (line : List Char) : List (List Char) :=
  match Text.trim line with
  | '|' :: rest => (((Text.stripSuffix rest ['|']).getD rest).splitOn '|').map Text.trim
  | _ => []

/-- The text before the last ` (`. -/
def beforeLastParenthesis : List Char → Option (List Char)
  | [] => none
  | c :: cs =>
    match beforeLastParenthesis cs with
    | some before => some (c :: before)
    | none => if [' ', '('] <+: c :: cs then some [] else none

/-- `canonicalize_path_cell` (markdown_table.rs:164) on the first cell. -/
def canonicalizePath (cell : List Char) : List Char :=
  let path := cell.filter (· ≠ '\x60')
  let path := if path.getLast? = some ')' then (beforeLastParenthesis path).getD path else path
  let path := Text.trim path
  if path.getLast? = some '/' then path.rdropWhile (· = '/') ++ "/**".toList else path

theorem canonicalized_ne_nil (first : List Char) (cells : List (List Char)) :
    canonicalizePath first :: cells ≠ [] :=
  List.cons_ne_nil _ _

/-- Where `parse_table_under_heading` is. -/
structure TableScan where
  inSection : Bool
  inTable : Bool
  headerSeen : Bool

/-- The loop of `parse_table_under_heading`; `lineNo` is the number of the first line. -/
def scanTable (heading : List Char) (lineNo : ℕ) (s : TableScan) :
    List (List Char) → List TableRow
  | [] => []
  | raw :: lines =>
    let trimmed := Text.trimEnd raw
    let stripped := Text.trimStart trimmed
    if stripped = "## ".toList ++ heading then
      scanTable heading (lineNo + 1) ⟨true, false, false⟩ lines
    else if ¬ s.inSection then scanTable heading (lineNo + 1) s lines
    else if "## ".toList <+: trimmed then []
    else if stripped.head? ≠ some '|' then
      scanTable heading (lineNo + 1) { s with inTable := s.inTable && stripped.isEmpty } lines
    else if isSeparatorRow stripped then
      scanTable heading (lineNo + 1) { s with inTable := true, headerSeen := true } lines
    else if ¬ s.headerSeen ∨ ¬ s.inTable then scanTable heading (lineNo + 1) s lines
    else
      match splitPipeRow stripped with
      | [] => scanTable heading (lineNo + 1) s lines
      | first :: cells =>
        ⟨canonicalizePath first :: cells, lineNo, canonicalized_ne_nil first cells⟩ ::
          scanTable heading (lineNo + 1) s lines

/-- `parse_table_under_heading` (markdown_table.rs:42). -/
def parseTableUnderHeading (content heading : List Char) : List TableRow :=
  scanTable heading 1 ⟨false, false, false⟩ (Text.lines content)

/-- `is_template_placeholder_row` (markdown_table.rs:191). -/
def isTemplatePlaceholderRow (row : TableRow) : Bool :=
  let s := Text.trim (row.cell 0)
  s.isEmpty || s = "{path}".toList || s = "TBD".toList ||
    Text.contains s "during planning".toList || s = "Path".toList

example :
    (parseTableUnderHeading
      "## H\n\n| Path | C |\n|---|---|\n| `crates/foo/ (all)` | Mine |\n".toList "H".toList).map
        (·.cells) = ["crates/foo/**".toList, "Mine".toList] :: [] := by
  decide +kernel

end DarkTower.Guard
