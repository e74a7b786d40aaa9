import DarkTower.Lib.Hex
import Mathlib.Data.List.TakeWhile

/-!
# Texts of IP addresses

`parse` is `str::parse::<IpAddr>` of Rust. Each reader either reads something at the start of
the text and returns it with what follows, or reads nothing.

`parse_front`: the text of an address consists of hexadecimal digits, dots and colons, and has
a dot or a colon.
-/

namespace DarkTower.Lib.IpText

/-- The octets of an IPv4 address, or the groups of an IPv6 address. -/
inductive IpAddr
  | v4 (octets : List ℕ)
  | v6 (groups : List ℕ)
deriving DecidableEq

/-- `is_unspecified`. -/
def IpAddr.isUnspecified : IpAddr → Bool
  | v4 octets => octets.all (· = 0)
  | v6 groups => groups.all (· = 0)

/-- What is read, and what follows. -/
abbrev Reader (β : Type) := List Char → Option (β × List Char)

/-- `char::to_digit`, for a radix up to 16. -/
def toDigit (radix : ℕ) (c : Char) : Option ℕ := (Hex.value c).filter (· < radix)

/-- `read_number`: up to so many digits, and a value up to the limit. -/
def readNumber (radix maxDigits limit : ℕ) (allowZeroPrefix : Bool) : Reader ℕ := fun cs =>
  let digits := cs.takeWhile fun c => (toDigit radix c).isSome
  let result := digits.foldl (fun n c => n * radix + (toDigit radix c).getD 0) 0
  if maxDigits < digits.length ∨ digits = [] then none
  else if !allowZeroPrefix ∧ cs.head? = some '0' ∧ 1 < digits.length then none
  else if limit < result then none
  else some (result, cs.drop digits.length)

/-- `read_separator`: there is none before the first. -/
def readSeparator {β : Type} (sep : Char) (index : ℕ) (inner : Reader β) : Reader β := fun cs =>
  if 0 < index then
    match cs with
    | [] => none
    | c :: cs => if c = sep then inner cs else none
  else inner cs

/-- The loop of `read_ipv4_addr`, from an index on. -/
def readOctets : ℕ → ℕ → Reader (List ℕ)
  | _, 0, cs => some ([], cs)
  | i, left + 1, cs => do
    let (octet, rest) ← readSeparator '.' i (readNumber 10 3 255 false) cs
    let (octets, rest) ← readOctets (i + 1) left rest
    return (octet :: octets, rest)

/-- `read_ipv4_addr`. -/
def readIpv4Addr : Reader (List ℕ) := readOctets 0 4

/-- The octets of an embedded IPv4 address, two to a group. -/
def pairOctets : List ℕ → List ℕ
  | one :: two :: octets => (256 * one + two) :: pairOctets octets
  | _ => []

/-- `read_groups`, from an index on: the groups, and whether an IPv4 address was read at
    their end. -/
def readGroups : ℕ → ℕ → List Char → List ℕ × Bool × List Char
  | _, 0, cs => ([], false, cs)
  | i, left + 1, cs =>
    match if 0 < left then readSeparator ':' i readIpv4Addr cs else none with
    | some (octets, rest) => (pairOctets octets, true, rest)
    | none =>
      match readSeparator ':' i (readNumber 16 4 65535 true) cs with
      | some (group, rest) =>
        let (groups, ipv4, rest) := readGroups (i + 1) left rest
        (group :: groups, ipv4, rest)
      | none => ([], false, cs)

/-- `read_ipv6_addr`: all groups, or those before and after `::`. -/
def readIpv6Addr : Reader (List ℕ) := fun cs =>
  match readGroups 0 8 cs with
  | (head, headIpv4, rest) =>
    if head.length = 8 then some (head, rest)
    else if headIpv4 then none
    else
      match rest with
      | ':' :: ':' :: rest =>
        let (tail, _, rest) := readGroups 0 (8 - (head.length + 1)) rest
        some (head ++ List.replicate (8 - head.length - tail.length) 0 ++ tail, rest)
      | _ => none

/-- `read_ip_addr`. -/
def readIpAddr : Reader IpAddr := fun cs =>
  match readIpv4Addr cs with
  | some (octets, rest) => some (.v4 octets, rest)
  | none => (readIpv6Addr cs).map fun (groups, rest) => (.v6 groups, rest)

/-- `IpAddr::from_str`: nothing may follow. -/
def parse (text : List Char) : Option IpAddr :=
  match readIpAddr text with
  | some (addr, []) => some addr
  | _ => none

/-! ## What addresses are made of -/

/-- A hexadecimal digit, a dot or a colon. -/
def isAddressChar (c : Char) : Bool := (Hex.value c).isSome || c = '.' || c = ':'

/-- A dot or a colon. -/
def HasMark (cs : List Char) : Prop := '.' ∈ cs ∨ ':' ∈ cs

/-- Characters of addresses were read. -/
structure Front (cs read rest : List Char) : Prop where
  eq : cs = read ++ rest
  chars : ∀ c ∈ read, isAddressChar c = true

variable {cs read read' rest rest' : List Char} {sep : Char} {i left n : ℕ} {octets groups : List ℕ}

theorem Front.nil (cs : List Char) : Front cs [] cs := ⟨rfl, nofun⟩

theorem Front.cons (h : Front cs read rest) (hsep : isAddressChar sep = true) :
    Front (sep :: cs) (sep :: read) rest :=
  ⟨congrArg (sep :: ·) h.eq, List.forall_mem_cons.mpr ⟨hsep, h.chars⟩⟩

theorem Front.append (h : Front cs read rest) (h' : Front rest read' rest') :
    Front cs (read ++ read') rest' where
  eq := by rw [h.eq, h'.eq, List.append_assoc]
  chars := List.forall_mem_append.mpr ⟨h.chars, h'.chars⟩

theorem HasMark.append_left (h : HasMark cs) : HasMark (cs ++ rest) :=
  h.imp (List.mem_append_left rest) (List.mem_append_left rest)

theorem HasMark.append_right (h : HasMark rest) : HasMark (cs ++ rest) :=
  h.imp (List.mem_append_right cs) (List.mem_append_right cs)

theorem front_readNumber {radix maxDigits limit : ℕ} {allowZeroPrefix : Bool}
    (h : readNumber radix maxDigits limit allowZeroPrefix cs = some (n, rest)) :
    ∃ read, Front cs read rest := by
  unfold readNumber at h
  dsimp only at h
  split_ifs at h
  obtain ⟨-, rfl⟩ := Prod.mk.inj (Option.some.inj h)
  refine ⟨cs.takeWhile fun c => (toDigit radix c).isSome, ?_, fun c hc => ?_⟩
  · exact (List.prefix_iff_eq_append.mp (List.takeWhile_prefix _)).symm
  · have hdigit := List.mem_takeWhile_imp (p := fun c => (toDigit radix c).isSome) hc
    obtain ⟨v, hv⟩ := Option.isSome_iff_exists.mp hdigit
    have hvalue := (Option.filter_eq_some_iff.mp hv).1
    simp [isAddressChar, hvalue]

/-- A reader behind a separator. -/
theorem readSeparator_cases {β : Type} {inner : Reader β} {value : β}
    (h : readSeparator sep i inner cs = some (value, rest)) :
    i = 0 ∧ inner cs = some (value, rest) ∨
      ∃ behind, cs = sep :: behind ∧ inner behind = some (value, rest) := by
  unfold readSeparator at h
  split_ifs at h with hi
  · cases cs with
    | nil => cases h
    | cons c cs =>
      dsimp only at h
      split_ifs at h with hc
      exact .inr ⟨cs, hc ▸ rfl, h⟩
  · exact .inl ⟨Nat.eq_zero_of_not_pos hi, h⟩

theorem front_separated {radix maxDigits limit : ℕ} {allowZeroPrefix : Bool}
    (hsep : isAddressChar sep = true)
    (h : readSeparator sep i (readNumber radix maxDigits limit allowZeroPrefix) cs =
      some (n, rest)) :
    ∃ read, Front cs read rest ∧ (0 < i → sep ∈ read) := by
  obtain ⟨rfl, hinner⟩ | ⟨behind, rfl, hinner⟩ := readSeparator_cases h
  · obtain ⟨read, hread⟩ := front_readNumber hinner
    exact ⟨read, hread, fun hpos => absurd hpos (lt_irrefl 0)⟩
  · obtain ⟨read, hread⟩ := front_readNumber hinner
    exact ⟨sep :: read, hread.cons hsep, fun _ => List.mem_cons_self⟩

theorem front_readOctets (h : readOctets i left cs = some (octets, rest)) :
    ∃ read, Front cs read rest ∧ (0 < i → 0 < left → '.' ∈ read) := by
  induction left generalizing i cs octets with
  | zero =>
    obtain ⟨-, rfl⟩ := Prod.mk.inj (Option.some.inj h)
    exact ⟨[], .nil cs, fun _ hpos => absurd hpos (lt_irrefl 0)⟩
  | succ left ih =>
    rw [readOctets, Option.bind_eq_bind, Option.bind_eq_some_iff] at h
    obtain ⟨⟨octet, middle⟩, hfirst, h⟩ := h
    rw [Option.bind_eq_bind, Option.bind_eq_some_iff] at h
    obtain ⟨⟨octets, after⟩, hothers, h⟩ := h
    obtain ⟨-, rfl⟩ := Prod.mk.inj (Option.some.inj h)
    obtain ⟨read, hread, hdot⟩ := front_separated (by decide) hfirst
    obtain ⟨read', hread', -⟩ := ih hothers
    exact ⟨read ++ read', hread.append hread', fun hi _ => List.mem_append_left _ (hdot hi)⟩

theorem front_readIpv4Addr (h : readIpv4Addr cs = some (octets, rest)) :
    ∃ read, Front cs read rest ∧ '.' ∈ read := by
  rw [readIpv4Addr, readOctets, Option.bind_eq_bind, Option.bind_eq_some_iff] at h
  obtain ⟨⟨octet, middle⟩, hfirst, h⟩ := h
  rw [Option.bind_eq_bind, Option.bind_eq_some_iff] at h
  obtain ⟨⟨octets, after⟩, hothers, h⟩ := h
  obtain ⟨-, rfl⟩ := Prod.mk.inj (Option.some.inj h)
  obtain ⟨read, hread, -⟩ := front_separated (by decide) hfirst
  obtain ⟨read', hread', hdot⟩ := front_readOctets hothers
  exact ⟨read ++ read', hread.append hread', List.mem_append_right _ (hdot Nat.one_pos (by decide))⟩

/-- A second group stands behind a colon, or an IPv4 address was read. -/
theorem front_readGroups (i left : ℕ) (cs : List Char) :
    ∃ read, Front cs read (readGroups i left cs).2.2 ∧
      (0 < i ∧ (readGroups i left cs).1 ≠ [] ∨ 2 ≤ (readGroups i left cs).1.length →
        HasMark read) := by
  induction left generalizing i cs with
  | zero => exact ⟨[], .nil cs, fun h => absurd h (by simp [readGroups])⟩
  | succ left ih =>
    rw [readGroups]
    split
    · next octets rest hipv4 =>
      split_ifs at hipv4
      obtain ⟨-, hinner⟩ | ⟨behind, rfl, hinner⟩ := readSeparator_cases hipv4
      · obtain ⟨read, hread, hdot⟩ := front_readIpv4Addr hinner
        exact ⟨read, hread, fun _ => .inl hdot⟩
      · obtain ⟨read, hread, -⟩ := front_readIpv4Addr hinner
        exact ⟨':' :: read, hread.cons (by decide), fun _ => .inr List.mem_cons_self⟩
    · split
      · next group middle hgroup =>
        obtain ⟨read, hread, hcolon⟩ := front_separated (by decide) hgroup
        obtain ⟨read', hread', hmark⟩ := ih (i + 1) middle
        refine ⟨read ++ read', hread.append hread', ?_⟩
        rintro (⟨hi, -⟩ | htwo)
        · exact HasMark.append_left (.inr (hcolon hi))
        · refine HasMark.append_right (hmark (.inl ⟨Nat.succ_pos i, fun hnil => ?_⟩))
          rw [List.length_cons, hnil] at htwo
          exact absurd htwo (by decide)
      · exact ⟨[], .nil cs, fun h => absurd h (by simp)⟩

theorem front_readIpv6Addr (h : readIpv6Addr cs = some (groups, rest)) :
    ∃ read, Front cs read rest ∧ HasMark read := by
  obtain ⟨read, hread, hmark⟩ := front_readGroups 0 8 cs
  unfold readIpv6Addr at h
  generalize readGroups 0 8 cs = r at hread hmark h
  obtain ⟨head, headIpv4, behind⟩ := r
  dsimp only at h hread hmark
  split_ifs at h with height
  · obtain ⟨-, rfl⟩ := Prod.mk.inj (Option.some.inj h)
    exact ⟨read, hread, hmark (.inr (by rw [height]; decide))⟩
  · split at h
    · next behind =>
      obtain ⟨-, rfl⟩ := Prod.mk.inj (Option.some.inj h)
      obtain ⟨read', hread', -⟩ := front_readGroups 0 (8 - (head.length + 1)) behind
      have hcolon : isAddressChar ':' = true := by decide
      exact ⟨read ++ ':' :: ':' :: read', hread.append ((hread'.cons hcolon).cons hcolon),
        HasMark.append_right (.inr List.mem_cons_self)⟩
    · cases h

/-- The text of an address. -/
theorem parse_front {text : List Char} {addr : IpAddr} (h : parse text = some addr) :
    (∀ c ∈ text, isAddressChar c = true) ∧ HasMark text := by
  have hread {read : List Char} (h : Front text read []) (hmark : HasMark read) :
      (∀ c ∈ text, isAddressChar c = true) ∧ HasMark text := by
    obtain rfl : text = read := h.eq.trans (List.append_nil read)
    exact ⟨h.chars, hmark⟩
  unfold parse readIpAddr at h
  cases hipv4 : readIpv4Addr text with
  | some r =>
    obtain ⟨octets, rest⟩ := r
    rw [hipv4] at h
    cases rest with
    | cons c rest => cases h
    | nil =>
      obtain ⟨read, hfront, hdot⟩ := front_readIpv4Addr hipv4
      exact hread hfront (.inl hdot)
  | none =>
    rw [hipv4] at h
    cases hipv6 : readIpv6Addr text with
    | none => rw [hipv6] at h; cases h
    | some r =>
      obtain ⟨groups, rest⟩ := r
      rw [hipv6] at h
      cases rest with
      | cons c rest => cases h
      | nil =>
        obtain ⟨read, hfront, hmark⟩ := front_readIpv6Addr hipv6
        exact hread hfront hmark

end DarkTower.Lib.IpText
