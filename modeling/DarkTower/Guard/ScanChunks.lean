import DarkTower.Guard.MetricScan

/-!
# How the scanners read code and strings (`dt-guard/src/metric_labels.rs`)

A source without comments is a list of chunks: characters of code, and strings with their
quotes. Over chunks the scanners can be said without what they remember:

* `closingParen_chunks`: the parenthesis is found behind chunks whose own parentheses match.
* `splitTopLevelArgs_chunks`: the arguments are the pieces that `cut` makes at the commas
  outside brackets.
* `fatarrowFrom_chunks`: an arrow is found behind chunks that have none outside brackets.
-/

namespace DarkTower.Guard

open DarkTower.Lib

/-- What the scanners read at once: a character of code, or a string. -/
inductive Chunk
  | code (c : Char)
  /-- A string, its quotes not counted. -/
  | quoted (body : List Char)
deriving DecidableEq

/-- The text that is read. -/
def Chunk.text : Chunk → List Char
  | code c => [c]
  | quoted body => '"' :: body ++ ['"']

/-- The text of chunks. -/
def chunkText (cks : List Chunk) : List Char := cks.flatMap Chunk.text

@[simp] theorem chunkText_nil : chunkText [] = [] := rfl

@[simp] theorem chunkText_cons (ck : Chunk) (cks : List Chunk) :
    chunkText (ck :: cks) = ck.text ++ chunkText cks := rfl

@[simp] theorem chunkText_append (cks dks : List Chunk) :
    chunkText (cks ++ dks) = chunkText cks ++ chunkText dks := List.flatMap_append

/-- Read as a string, the text ends at the quote that follows it. `escaped` says that a
    backslash stands before it. -/
def quotable : (escaped : Bool) → List Char → Bool
  | escaped, [] => !escaped
  | true, _ :: cs => quotable false cs
  | false, c :: cs => c ≠ '"' && quotable (c = '\\') cs

/-- A character of code is no quote, and a string ends where it says. -/
def Chunk.Formed : Chunk → Prop
  | code c => c ≠ '"'
  | quoted body => quotable false body = true

/-- In a string, behind a backslash or not. -/
def Reading.inString (escaped : Bool) : Reading := if escaped then .escaped else .str

theorem Reading.inStr_eq {c : Char} (h : c ≠ '"') :
    Reading.inStr c = Reading.inString (c = '\\') := by
  rw [Reading.inStr, Reading.inString, if_neg h]
  by_cases hc : c = '\\' <;> simp [hc]

/-- The scanners read the rest of a string in one way: `next` is what one of them does with
    a character in a string. -/
theorem read_string {α : Type} (scan : Reading → List Char → α) (next : Char → α → α)
    (hstr : ∀ c cs, scan .str (c :: cs) = next c (scan (.inStr c) cs))
    (hescaped : ∀ c cs, scan .escaped (c :: cs) = next c (scan .str cs))
    (escaped : Bool) {body : List Char} (hbody : quotable escaped body = true)
    (rest : List Char) :
    scan (Reading.inString escaped) (body ++ '"' :: rest) =
      (body ++ ['"']).foldr next (scan .code rest) := by
  induction body generalizing escaped with
  | nil =>
    cases escaped with
    | true => simp [quotable] at hbody
    | false => exact hstr '"' rest
  | cons c cs ih =>
    cases escaped with
    | true =>
      have hcs := ih false hbody
      rw [Reading.inString, if_pos rfl, List.cons_append, hescaped]
      exact congrArg (next c) hcs
    | false =>
      rw [quotable, Bool.and_eq_true, decide_eq_true_eq] at hbody
      have hcs := ih (c = '\\') hbody.2
      rw [Reading.inString, if_neg Bool.false_ne_true, List.cons_append, hstr,
        Reading.inStr_eq hbody.1]
      exact congrArg (next c) hcs

theorem read_quoted {α : Type} (scan : Reading → List Char → α) (next : Char → α → α)
    (hquote : ∀ cs, scan .code ('"' :: cs) = next '"' (scan .str cs))
    (hstr : ∀ c cs, scan .str (c :: cs) = next c (scan (.inStr c) cs))
    (hescaped : ∀ c cs, scan .escaped (c :: cs) = next c (scan .str cs))
    {body : List Char} (hbody : quotable false body = true) (rest : List Char) :
    scan .code ((Chunk.quoted body).text ++ rest) =
      (Chunk.quoted body).text.foldr next (scan .code rest) := by
  have hread := read_string scan next hstr hescaped false hbody rest
  have htext : (Chunk.quoted body).text ++ rest = '"' :: (body ++ '"' :: rest) := by
    simp [Chunk.text]
  rw [htext, hquote]
  exact congrArg (next '"') hread

/-! ## Closing parentheses -/

/-- The parentheses that are open behind chunks, `depth` being open before them. -/
def depthAfter : ℕ → List Chunk → Option ℕ
  | depth, [] => some depth
  | depth, .quoted _ :: cks => depthAfter depth cks
  | depth, .code c :: cks =>
    if c = '(' then depthAfter (depth + 1) cks
    else if c = ')' then if depth = 0 then none else depthAfter (depth - 1) cks
    else depthAfter depth cks

/-- No line comment starts in the code. -/
def NoSlashes : List Chunk → Prop
  | [] => True
  | ck :: cks => ¬ (ck = .code '/' ∧ cks.head? = some (.code '/')) ∧ NoSlashes cks

theorem head?_chunkText {c : Char} (hc : c ≠ '"') {cks : List Chunk} {rest : List Char}
    (h : (chunkText cks ++ rest).head? = some c) :
    cks.head? = some (.code c) ∨ cks = [] ∧ rest.head? = some c := by
  cases cks with
  | nil => exact .inr ⟨rfl, h⟩
  | cons ck cks =>
    cases ck with
    | code d =>
      have hd : d = c := by simpa [Chunk.text] using h
      exact .inl (by rw [hd]; rfl)
    | quoted body =>
      have hq : '"' = c := by simpa [Chunk.text] using h
      exact absurd hq.symm hc

theorem foldr_map_cons (cs : List Char) (x : Option (List Char)) :
    cs.foldr (fun c x => x.map (c :: ·)) x = x.map (cs ++ ·) := by
  induction cs with
  | nil => cases x <;> rfl
  | cons c cs ih =>
    rw [List.foldr_cons, ih, Option.map_map]
    rfl

theorem closingParen_quoted {body : List Char} (hbody : quotable false body = true) (depth : ℕ)
    (rest : List Char) :
    closingParen .code depth ((Chunk.quoted body).text ++ rest) =
      (closingParen .code depth rest).map ((Chunk.quoted body).text ++ ·) := by
  have hread := read_quoted (fun r cs => closingParen r depth cs) (fun c x => x.map (c :: ·))
    (fun _ => rfl) (fun _ _ => rfl) (fun _ _ => rfl) hbody rest
  exact hread.trans (foldr_map_cons _ _)

/-- Behind chunks whose parentheses match as far as they are closed, the scan goes on. -/
theorem closingParen_chunks {cks : List Chunk} {depth depth' : ℕ} {rest : List Char}
    (hformed : ∀ ck ∈ cks, ck.Formed) (hslash : NoSlashes cks) (hrest : rest.head? ≠ some '/')
    (hdepth : depthAfter depth cks = some depth') :
    closingParen .code depth (chunkText cks ++ rest) =
      (closingParen .code depth' rest).map (chunkText cks ++ ·) := by
  induction cks generalizing depth with
  | nil =>
    obtain rfl : depth = depth' := Option.some_inj.mp hdepth
    simp
  | cons ck cks ih =>
    obtain ⟨hck, hcks⟩ := List.forall_mem_cons.mp hformed
    have hmap (x : Option (List Char)) :
        (x.map (chunkText cks ++ ·)).map (ck.text ++ ·) = x.map (chunkText (ck :: cks) ++ ·) := by
      rw [Option.map_map]
      simp [Function.comp_def]
    rw [chunkText_cons, List.append_assoc]
    cases ck with
    | quoted body =>
      rw [closingParen_quoted hck, ih hcks hslash.2 hdepth]
      exact hmap _
    | code c =>
      have hnoslash : ¬ (c = '/' ∧ (chunkText cks ++ rest).head? = some '/') := by
        rintro ⟨rfl, hhead⟩
        obtain hnext | ⟨-, hnext⟩ := head?_chunkText (by decide) hhead
        · exact hslash.1 ⟨rfl, hnext⟩
        · exact hrest hnext
      simp only [Chunk.text, List.singleton_append, closingParen, if_neg hck, if_neg hnoslash]
      simp only [depthAfter] at hdepth
      split at hdepth
      case isTrue hopen =>
        rw [if_pos hopen, ih hcks hslash.2 hdepth]
        exact hmap _
      case isFalse hopen =>
        rw [if_neg hopen]
        split at hdepth
        case isTrue hclose =>
          split at hdepth
          case isTrue => cases hdepth
          case isFalse hpos =>
            rw [if_pos hclose, if_neg hpos, ih hcks hslash.2 hdepth]
            exact hmap _
        case isFalse hclose =>
          rw [if_neg hclose, ih hcks hslash.2 hdepth]
          exact hmap _

/-! ## Commas -/

/-- The open brackets behind chunks, `d` being open before them. -/
def depthsAfter : Depths → List Chunk → Depths
  | d, [] => d
  | d, .quoted _ :: cks => depthsAfter d cks
  | d, .code c :: cks => depthsAfter (d.step c) cks

theorem depthsAfter_append (d : Depths) (cks dks : List Chunk) :
    depthsAfter d (cks ++ dks) = depthsAfter (depthsAfter d cks) dks := by
  induction cks generalizing d with
  | nil => rfl
  | cons ck cks ih =>
    cases ck with
    | code c => exact ih (d.step c)
    | quoted body => exact ih d

/-- The pieces between the commas outside brackets, at least one. -/
def cut : Depths → List Chunk → List (List Chunk)
  | _, [] => [[]]
  | d, ck :: cks =>
    if ck = .code ',' ∧ d = .zero then [] :: cut .zero cks
    else (cut (depthsAfter d [ck]) cks).modifyHead (ck :: ·)

/-- What becomes of the pieces: an empty one at the end is no argument. -/
def finish : List (List Char) → List (List Char)
  | [] => []
  | [piece] => if piece = [] then [] else [piece]
  | piece :: pieces => piece :: finish pieces

@[simp] theorem finish_cons_cons (piece next : List Char) (pieces : List (List Char)) :
    finish (piece :: next :: pieces) = piece :: finish (next :: pieces) := rfl

theorem cut_ne_nil (d : Depths) (cks : List Chunk) : cut d cks ≠ [] := by
  induction cks generalizing d with
  | nil => simp [cut]
  | cons ck cks ih =>
    rw [cut]
    split
    · exact List.cons_ne_nil _ _
    · intro hnil
      exact ih _ (List.modifyHead_eq_nil_iff.mp hnil)

theorem foldr_accumulate (cs : List Char) (f : List Char → List (List Char)) (cur : List Char) :
    cs.foldr (fun c f cur => f (cur ++ [c])) f cur = f (cur ++ cs) := by
  induction cs generalizing cur with
  | nil => simp
  | cons c cs ih => simp [ih]

theorem splitFrom_quoted {body : List Char} (hbody : quotable false body = true) (d : Depths)
    (cur rest : List Char) :
    splitFrom .code d cur ((Chunk.quoted body).text ++ rest) =
      splitFrom .code d (cur ++ (Chunk.quoted body).text) rest := by
  have hread := read_quoted (fun r cs cur => splitFrom r d cur cs)
    (fun c f cur => f (cur ++ [c])) (fun _ => rfl) (fun _ _ => rfl) (fun _ _ => rfl) hbody rest
  exact (congrFun hread cur).trans (foldr_accumulate _ _ cur)

/-- The arguments as the trimmed pieces, the first of them behind what was read before. -/
theorem splitFrom_chunks {cks : List Chunk} (hformed : ∀ ck ∈ cks, ck.Formed) (d : Depths)
    (cur : List Char) :
    splitFrom .code d cur (chunkText cks) =
      finish (((cut d cks).map chunkText).modifyHead (cur ++ ·) |>.map Text.trim) := by
  induction cks generalizing d cur with
  | nil => simp [splitFrom, cut, finish]
  | cons ck cks ih =>
    obtain ⟨hck, hcks⟩ := List.forall_mem_cons.mp hformed
    obtain ⟨first, pieces, hcut⟩ := List.exists_cons_of_ne_nil (cut_ne_nil (depthsAfter d [ck]) cks)
    have hih (cur : List Char) := ih hcks (depthsAfter d [ck]) cur
    rw [chunkText_cons, cut]
    split
    case isTrue hcomma =>
      obtain ⟨rfl, rfl⟩ := hcomma
      obtain ⟨first, pieces, hcut⟩ := List.exists_cons_of_ne_nil (cut_ne_nil .zero cks)
      have hsplit := ih hcks .zero []
      rw [hcut] at hsplit ⊢
      simp only [Chunk.text, List.singleton_append, splitFrom]
      rw [if_neg (by decide), if_pos ⟨trivial, trivial⟩, hsplit]
      simp
    case isFalse hcomma =>
      rw [hcut] at hih ⊢
      cases ck with
      | quoted body =>
        rw [splitFrom_quoted hck, show d = depthsAfter d [.quoted body] from rfl, hih]
        simp
      | code c =>
        have hno : ¬ (c = ',' ∧ d = .zero) := fun h => hcomma ⟨by rw [h.1], h.2⟩
        simp only [Chunk.text, List.singleton_append, splitFrom, if_neg hck, if_neg hno]
        rw [show d.step c = depthsAfter d [.code c] from rfl, hih]
        simp [Chunk.text]

/-- `split_top_level_args` cuts at the commas outside brackets. -/
theorem splitTopLevelArgs_chunks {cks : List Chunk} (hformed : ∀ ck ∈ cks, ck.Formed) :
    splitTopLevelArgs (chunkText cks) =
      finish ((cut .zero cks).map fun piece => Text.trim (chunkText piece)) := by
  obtain ⟨first, pieces, hcut⟩ := List.exists_cons_of_ne_nil (cut_ne_nil .zero cks)
  rw [splitTopLevelArgs, splitFrom_chunks hformed, hcut]
  simp [Function.comp_def]

theorem cut_append_comma {cks : List Chunk} {d : Depths} (h : depthsAfter d cks = .zero)
    (dks : List Chunk) : cut d (cks ++ .code ',' :: dks) = cut d cks ++ cut .zero dks := by
  induction cks generalizing d with
  | nil =>
    obtain rfl : d = .zero := h
    simp [cut]
  | cons ck cks ih =>
    have hafter : depthsAfter (depthsAfter d [ck]) cks = .zero := by
      rw [← depthsAfter_append]
      exact h
    rw [List.cons_append, cut, cut]
    split
    case isTrue hcomma =>
      obtain ⟨rfl, rfl⟩ := hcomma
      rw [ih (by simpa [depthsAfter, Depths.step] using h)]
      rfl
    case isFalse hcomma =>
      obtain ⟨first, pieces, hcut⟩ :=
        List.exists_cons_of_ne_nil (cut_ne_nil (depthsAfter d [ck]) cks)
      rw [ih hafter, hcut]
      rfl

theorem cut_append_of_no_comma {cks : List Chunk} (h : .code ',' ∉ cks) (d : Depths)
    (dks : List Chunk) :
    cut d (cks ++ dks) = (cut (depthsAfter d cks) dks).modifyHead (cks ++ ·) := by
  induction cks generalizing d with
  | nil =>
    obtain ⟨first, pieces, hcut⟩ := List.exists_cons_of_ne_nil (cut_ne_nil d dks)
    rw [List.nil_append, depthsAfter, hcut]
    rfl
  | cons ck cks ih =>
    rw [List.mem_cons, not_or] at h
    have hno : ¬ (ck = .code ',' ∧ d = .zero) := fun hcomma => h.1 hcomma.1.symm
    obtain ⟨first, pieces, hcut⟩ :=
      List.exists_cons_of_ne_nil (cut_ne_nil (depthsAfter d (ck :: cks)) dks)
    have hafter : depthsAfter (depthsAfter d [ck]) cks = depthsAfter d (ck :: cks) := by
      rw [← depthsAfter_append]
      rfl
    rw [List.cons_append, cut, if_neg hno, ih h.2, hafter, hcut]
    rfl

theorem cut_of_no_comma {cks : List Chunk} (h : .code ',' ∉ cks) (d : Depths) :
    cut d cks = [cks] := by
  have hcut := cut_append_of_no_comma h d []
  rw [List.append_nil] at hcut
  simpa [cut] using hcut

theorem mem_of_mem_cut {cks piece : List Chunk} {d : Depths} (h : piece ∈ cut d cks) :
    ∀ ck ∈ piece, ck ∈ cks := by
  induction cks generalizing d piece with
  | nil =>
    rw [List.mem_singleton.mp h]
    exact List.forall_mem_nil _
  | cons dk cks ih =>
    rw [cut] at h
    split at h
    case isTrue =>
      obtain rfl | hmem := List.mem_cons.mp h
      · exact List.forall_mem_nil _
      · exact fun ck hck => List.mem_cons_of_mem _ (ih hmem ck hck)
    case isFalse =>
      obtain ⟨first, pieces, hcut⟩ :=
        List.exists_cons_of_ne_nil (cut_ne_nil (depthsAfter d [dk]) cks)
      rw [hcut] at h
      obtain rfl | hmem := List.mem_cons.mp h
      · have hfirst : first ∈ cut (depthsAfter d [dk]) cks := by
          rw [hcut]
          exact List.mem_cons_self
        intro ck hck
        obtain rfl | hck := List.mem_cons.mp hck
        · exact List.mem_cons_self
        · exact List.mem_cons_of_mem _ (ih hfirst ck hck)
      · have hpiece : piece ∈ cut (depthsAfter d [dk]) cks := by
          rw [hcut]
          exact List.mem_cons_of_mem _ hmem
        exact fun ck hck => List.mem_cons_of_mem _ (ih hpiece ck hck)

/-- Segments with matching brackets are cut one by one. -/
theorem cut_segments {segs : List (List Chunk)} (h : ∀ seg ∈ segs, depthsAfter .zero seg = .zero)
    {first : List Chunk} (hfirst : depthsAfter .zero first = .zero) :
    cut .zero (first ++ segs.flatMap (.code ',' :: ·)) =
      cut .zero first ++ segs.flatMap (cut .zero) := by
  induction segs generalizing first with
  | nil => simp
  | cons seg segs ih =>
    obtain ⟨hseg, hsegs⟩ := List.forall_mem_cons.mp h
    rw [List.flatMap_cons, List.flatMap_cons, List.cons_append, cut_append_comma hfirst,
      ih hsegs hseg]

theorem filterMap_finish {α : Type} {f : List Char → Option α} (hf : f [] = none)
    (pieces : List (List Char)) : (finish pieces).filterMap f = pieces.filterMap f := by
  induction pieces with
  | nil => rfl
  | cons piece pieces ih =>
    cases pieces with
    | nil =>
      rw [finish]
      split
      case isTrue hnil => rw [hnil, List.filterMap_cons, hf, List.filterMap_nil]
      case isFalse => rfl
    | cons next pieces =>
      rw [finish_cons_cons, List.filterMap_cons, List.filterMap_cons, ih]

/-- The keys behind a name: those of the pieces, an empty one having none. -/
theorem filterMap_tail_finish {α : Type} {f : List Char → Option α} (hf : f [] = none)
    (name : List Char) (pieces : List (List Char)) :
    (finish (name :: pieces)).tail.filterMap f = pieces.filterMap f := by
  cases pieces with
  | nil =>
    rw [finish]
    split <;> rfl
  | cons piece pieces => rw [finish_cons_cons, List.tail_cons, filterMap_finish hf]

/-! ## Arrows -/

/-- No arrow stands outside brackets. -/
def NoTopArrow : Depths → List Chunk → Prop
  | _, [] => True
  | d, .quoted _ :: cks => NoTopArrow d cks
  | d, .code c :: cks =>
    ¬ (c = '=' ∧ cks.head? = some (.code '>') ∧ d = .zero) ∧ NoTopArrow (d.step c) cks

theorem foldr_map_fst (cs : List Char) (x : Option (List Char × List Char)) :
    cs.foldr (fun c x => x.map fun y => (c :: y.1, y.2)) x = x.map fun y => (cs ++ y.1, y.2) := by
  induction cs with
  | nil => cases x <;> rfl
  | cons c cs ih =>
    rw [List.foldr_cons, ih, Option.map_map]
    rfl

theorem fatarrowFrom_quoted {body : List Char} (hbody : quotable false body = true) (d : Depths)
    (rest : List Char) :
    fatarrowFrom .code d ((Chunk.quoted body).text ++ rest) =
      (fatarrowFrom .code d rest).map fun x => ((Chunk.quoted body).text ++ x.1, x.2) := by
  have hread := read_quoted (fun r cs => fatarrowFrom r d cs)
    (fun c x => x.map fun y => (c :: y.1, y.2)) (fun _ => rfl) (fun _ _ => rfl) (fun _ _ => rfl)
    hbody rest
  exact hread.trans (foldr_map_fst _ _)

/-- Behind chunks without an arrow outside brackets, the search goes on. -/
theorem fatarrowFrom_chunks {cks : List Chunk} {d : Depths} {rest : List Char}
    (hformed : ∀ ck ∈ cks, ck.Formed) (harrow : NoTopArrow d cks) (hrest : rest.head? ≠ some '>') :
    fatarrowFrom .code d (chunkText cks ++ rest) =
      (fatarrowFrom .code (depthsAfter d cks) rest).map fun x => (chunkText cks ++ x.1, x.2) := by
  induction cks generalizing d with
  | nil => simp [depthsAfter]
  | cons ck cks ih =>
    obtain ⟨hck, hcks⟩ := List.forall_mem_cons.mp hformed
    have hmap (x : Option (List Char × List Char)) :
        (x.map fun y => (chunkText cks ++ y.1, y.2)).map (fun y => (ck.text ++ y.1, y.2)) =
          x.map fun y => (chunkText (ck :: cks) ++ y.1, y.2) := by
      rw [Option.map_map]
      simp [Function.comp_def]
    rw [chunkText_cons, List.append_assoc]
    cases ck with
    | quoted body =>
      rw [fatarrowFrom_quoted hck, ih hcks harrow]
      exact hmap _
    | code c =>
      have hno : ¬ (c = '=' ∧ (chunkText cks ++ rest).head? = some '>' ∧ d = .zero) := by
        rintro ⟨rfl, hhead, rfl⟩
        obtain hnext | ⟨-, hnext⟩ := head?_chunkText (by decide) hhead
        · exact harrow.1 ⟨rfl, hnext, rfl⟩
        · exact hrest hnext
      simp only [Chunk.text, List.singleton_append, fatarrowFrom, if_neg hck, if_neg hno]
      rw [ih hcks harrow.2]
      exact hmap _

theorem noTopArrow_append {cks : List Chunk} (h : .code '=' ∉ cks) {d : Depths} {dks : List Chunk}
    (hdks : NoTopArrow (depthsAfter d cks) dks) : NoTopArrow d (cks ++ dks) := by
  induction cks generalizing d with
  | nil => exact hdks
  | cons ck cks ih =>
    rw [List.mem_cons, not_or] at h
    cases ck with
    | quoted body => exact ih h.2 hdks
    | code c => exact ⟨fun heq => h.1 (by rw [heq.1]), ih h.2 hdks⟩

theorem head?_cut {cks first : List Chunk} {d : Depths} {ck : Chunk}
    (hfirst : (cut d cks).head? = some first) (hck : first.head? = some ck) :
    cks.head? = some ck := by
  cases cks with
  | nil =>
    obtain rfl : [] = first := Option.some_inj.mp hfirst
    cases hck
  | cons dk cks =>
    rw [cut] at hfirst
    split at hfirst
    · obtain rfl : [] = first := Option.some_inj.mp hfirst
      cases hck
    · rw [List.head?_modifyHead] at hfirst
      obtain ⟨more, -, rfl⟩ := Option.map_eq_some_iff.mp hfirst
      exact hck

/-- The pieces between the commas have no arrow when the whole has none. -/
theorem noTopArrow_of_mem_cut {cks : List Chunk} {d : Depths} (h : NoTopArrow d cks) :
    (∀ first, (cut d cks).head? = some first → NoTopArrow d first) ∧
      ∀ piece ∈ (cut d cks).tail, NoTopArrow .zero piece := by
  induction cks generalizing d with
  | nil => simp [cut, NoTopArrow]
  | cons ck cks ih =>
    rw [cut]
    split
    case isTrue hcomma =>
      obtain ⟨rfl, rfl⟩ := hcomma
      obtain ⟨first, pieces, hcut⟩ := List.exists_cons_of_ne_nil (cut_ne_nil .zero cks)
      have hpieces := ih h.2
      rw [show Depths.zero.step ',' = .zero from rfl, hcut] at hpieces
      rw [hcut]
      simpa [NoTopArrow] using hpieces
    case isFalse =>
      obtain ⟨first, pieces, hcut⟩ :=
        List.exists_cons_of_ne_nil (cut_ne_nil (depthsAfter d [ck]) cks)
      have hfirst : (cut (depthsAfter d [ck]) cks).head? = some first := by rw [hcut]; rfl
      have hpieces : (∀ first, (cut (depthsAfter d [ck]) cks).head? = some first →
          NoTopArrow (depthsAfter d [ck]) first) ∧
          ∀ piece ∈ (cut (depthsAfter d [ck]) cks).tail, NoTopArrow .zero piece := by
        cases ck with
        | quoted body => exact ih h
        | code c => exact ih h.2
      refine ⟨fun piece hpiece => ?_, ?_⟩
      · rw [hcut] at hpiece
        obtain rfl : ck :: first = piece := Option.some_inj.mp hpiece
        have hrest := hpieces.1 first hfirst
        cases ck with
        | quoted body => exact hrest
        | code c => exact ⟨fun heq => h.1 ⟨heq.1, head?_cut hfirst heq.2.1, heq.2.2⟩, hrest⟩
      · rw [hcut] at hpieces ⊢
        exact hpieces.2

end DarkTower.Guard
