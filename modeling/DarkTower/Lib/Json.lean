import DarkTower.Lib.Hex

/-!
# JSON values, their text, and how a struct is read from one

Values, with numbers that are integers, and the compact text of `serde_json`.
The readers follow a derived `Deserialize`:

* `required`: a field that is missing, or there twice, is an error;
* `optional`: a missing field and `null` are `None`;
* a field that no reader asks for is ignored.

`utf8ByteSize_render_obj` and `utf8ByteSize_render_strings` give the length of
the text of an object and of a list of strings, and `asStrings_arr_str` reads
such a list back.
-/

namespace DarkTower.Lib

/-- A JSON value. The fields of an object are in the order of the text. -/
inductive Json
  | null
  | bool (b : Bool)
  | num (n : ℤ)
  | str (text : String)
  | arr (items : List Json)
  | obj (fields : List (String × Json))

namespace Json

/-! ## Text -/

/-- The characters for one character of a string. -/
def escapeChar (c : Char) : List Char :=
  if c = '"' then ['\\', '"']
  else if c = '\\' then ['\\', '\\']
  else if c.toNat = 8 then ['\\', 'b']
  else if c.toNat = 9 then ['\\', 't']
  else if c.toNat = 10 then ['\\', 'n']
  else if c.toNat = 12 then ['\\', 'f']
  else if c.toNat = 13 then ['\\', 'r']
  else if c.toNat < 32 then
    ['\\', 'u', '0', '0', Hex.digit (c.toNat / 16), Hex.digit (c.toNat % 16)]
  else [c]

/-- A string between quotes. -/
def quote (text : String) : String :=
  String.ofList ('"' :: (text.toList.flatMap escapeChar ++ ['"']))

mutual

/-- `serde_json::to_string`. -/
def render : Json → String
  | .null => "null"
  | .bool b => if b then "true" else "false"
  | .num n => toString n
  | .str text => quote text
  | .arr items => "[" ++ ",".intercalate (renderItems items) ++ "]"
  | .obj fields => "\x7b" ++ ",".intercalate (renderFields fields) ++ "\x7d"

/-- The texts of items. -/
def renderItems : List Json → List String
  | [] => []
  | item :: items => render item :: renderItems items

/-- The texts of fields. -/
def renderFields : List (String × Json) → List String
  | [] => []
  | (name, value) :: fields => (quote name ++ ":" ++ render value) :: renderFields fields

end

/-- The bytes of the text. -/
def bytes (value : Json) : List UInt8 := value.render.toByteArray.data.toList

theorem length_bytes (value : Json) : value.bytes.length = value.render.utf8ByteSize := by
  simp [bytes]

/-! ### Lengths -/

/-- The bytes of a text as a string between quotes. -/
def quotedBytes (text : String) : ℕ := (quote text).utf8ByteSize

/-- Texts joined by commas: their bytes, and one for each comma. -/
theorem utf8ByteSize_intercalate (texts : List String) :
    (",".intercalate texts).utf8ByteSize =
      (texts.map String.utf8ByteSize).sum + (texts.length - 1) := by
  induction texts with
  | nil => rfl
  | cons text texts ih =>
    cases texts with
    | nil => simp
    | cons next texts =>
      have hcomma : ",".utf8ByteSize = 1 := by decide
      rw [String.intercalate_cons_cons, String.utf8ByteSize_append, String.utf8ByteSize_append, ih,
        hcomma]
      simp only [List.map_cons, List.sum_cons, List.length_cons]
      omega

theorem utf8ByteSize_render_str (text : String) :
    (str text).render.utf8ByteSize = quotedBytes text := by
  rw [render, quotedBytes]

theorem utf8ByteSize_render_num (n : ℤ) :
    (num n).render.utf8ByteSize = (toString n).utf8ByteSize := by
  rw [render]

theorem renderItems_map_str (texts : List String) :
    renderItems (texts.map .str) = texts.map quote := by
  induction texts with
  | nil => rfl
  | cons text texts ih => rw [List.map_cons, renderItems, render, ih, List.map_cons]

/-- An array of strings: brackets, strings and commas. -/
theorem utf8ByteSize_render_strings (texts : List String) :
    (arr (texts.map .str)).render.utf8ByteSize =
      2 + (texts.map quotedBytes).sum + (texts.length - 1) := by
  have hopen : "[".utf8ByteSize = 1 := by decide
  have hclose : "]".utf8ByteSize = 1 := by decide
  have hquoted : String.utf8ByteSize ∘ quote = quotedBytes := rfl
  rw [render, renderItems_map_str, String.utf8ByteSize_append, String.utf8ByteSize_append,
    utf8ByteSize_intercalate, List.map_map, List.length_map, hopen, hclose, hquoted]
  omega

theorem renderFields_eq_map (fields : List (String × Json)) :
    renderFields fields = fields.map fun field => quote field.1 ++ ":" ++ field.2.render := by
  induction fields with
  | nil => rfl
  | cons field fields ih => rw [renderFields, ih, List.map_cons]

/-- An object: braces, the quoted names with their colons, the values and the
    commas. -/
theorem utf8ByteSize_render_obj (fields : List (String × Json)) :
    (obj fields).render.utf8ByteSize =
      2 + (fields.map fun field => quotedBytes field.1 + 1 + field.2.render.utf8ByteSize).sum +
        (fields.length - 1) := by
  have hopen : "\x7b".utf8ByteSize = 1 := by decide
  have hclose : "\x7d".utf8ByteSize = 1 := by decide
  have hcolon : ":".utf8ByteSize = 1 := by decide
  rw [render, renderFields_eq_map, String.utf8ByteSize_append, String.utf8ByteSize_append,
    utf8ByteSize_intercalate, List.map_map, List.length_map, hopen, hclose]
  simp only [Function.comp_def, String.utf8ByteSize_append, hcolon, quotedBytes]
  omega

/-! ## Reading -/

variable {α : Type}

/-- A `String`. -/
def asString : Json → Option String
  | .str text => some text
  | _ => none

/-- A `bool`. -/
def asBool : Json → Option Bool
  | .bool b => some b
  | _ => none

/-- An `i64`. -/
def asInt : Json → Option ℤ
  | .num n => if -2 ^ 63 ≤ n ∧ n < 2 ^ 63 then some n else none
  | _ => none

/-- A `Vec<String>`. -/
def asStrings : Json → Option (List String)
  | .arr items => items.mapM asString
  | _ => none

/-- A variant without data, by its name: a string, or an object with the name
    as its only field and `null` under it. -/
def asVariant (variants : List (String × α)) : Json → Option α
  | .str name => variants.lookup name
  | .obj [(name, .null)] => variants.lookup name
  | _ => none

/-- A field of a struct. -/
def required (read : Json → Option α) (fields : List (String × Json)) (name : String) :
    Option α :=
  match fields.filter fun field => field.1 = name with
  | [(_, value)] => read value
  | _ => none

/-- A field of a struct of type `Option`. -/
def optional (read : Json → Option α) (fields : List (String × Json)) (name : String) :
    Option (Option α) :=
  match fields.filter fun field => field.1 = name with
  | [] => some none
  | [(_, .null)] => some none
  | [(_, value)] => (read value).map some
  | _ => none

theorem mapM_asString (texts : List String) : (texts.map .str).mapM asString = some texts := by
  induction texts with
  | nil => rfl
  | cons text texts ih =>
    rw [List.map_cons, List.mapM_cons, ih]
    rfl

theorem asStrings_arr_str (texts : List String) :
    asStrings (.arr (texts.map .str)) = some texts :=
  mapM_asString texts

example : render (.obj [("a", .arr [.num (-1), .bool true]), ("b\"", .str "\t")]) =
    "\x7b\"a\":[-1,true],\"b\\\"\":\"\\t\"\x7d" := by decide

example : required asInt [("a", .num 1), ("b", .num 2)] "b" = some 2 ∧
    required asInt [("a", .num 1), ("a", .num 2)] "a" = none ∧
    optional asInt [("a", .null)] "a" = some none ∧ optional asInt [] "a" = some none := by decide

end Json

end DarkTower.Lib
