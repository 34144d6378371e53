import FormLetter.Json.Number

namespace FormLetter.Json

inductive Value where
  | null
  | bool (value : Bool)
  | number (value : Number)
  | string (value : String)
  | array (items : List Value)
  | object (members : List (String × Value))

/-- A character inside a string: only the quote, the backslash and control characters are
escaped. -/
def escapeChar (c : Char) : List Char :=
  if c = '"' then ['\\', '"']
  else if c = '\\' then ['\\', '\\']
  else if c = '\x08' then ['\\', 'b']
  else if c = '\t' then ['\\', 't']
  else if c = '\n' then ['\\', 'n']
  else if c = '\x0c' then ['\\', 'f']
  else if c = '\r' then ['\\', 'r']
  else if c.toNat < 0x20 then
    ['\\', 'u', '0', '0', Nat.digitChar (c.toNat / 16), Nat.digitChar (c.toNat % 16)]
  else [c]

def quote (text : String) : List Char :=
  '"' :: (text.toList.flatMap escapeChar ++ ['"'])

mutual

/-- The value in compact form, members in the order in which it lists them. -/
def Value.chars : Value → List Char
  | .null => ['n', 'u', 'l', 'l']
  | .bool true => ['t', 'r', 'u', 'e']
  | .bool false => ['f', 'a', 'l', 's', 'e']
  | .number value => value.chars
  | .string value => quote value
  | .array items => '[' :: (itemsChars items ++ [']'])
  | .object members => '{' :: (membersChars members ++ ['}'])

def itemsChars : List Value → List Char
  | [] => []
  | [item] => item.chars
  | item :: items => item.chars ++ ',' :: itemsChars items

def membersChars : List (String × Value) → List Char
  | [] => []
  | [(name, value)] => quote name ++ ':' :: value.chars
  | (name, value) :: members => quote name ++ ':' :: (value.chars ++ ',' :: membersChars members)

end

def Value.text (value : Value) : String :=
  String.ofList value.chars

theorem itemsChars_eq_intercalate :
    ∀ items, itemsChars items = [','].intercalate (items.map Value.chars)
  | [] => rfl
  | [item] => by simp [itemsChars]
  | item :: next :: items => by
    rw [itemsChars, itemsChars_eq_intercalate (next :: items)]
    · simp
    · exact List.cons_ne_nil _ _

theorem membersChars_eq_intercalate :
    ∀ members, membersChars members =
      [','].intercalate (members.map fun member => quote member.1 ++ ':' :: member.2.chars)
  | [] => rfl
  | [member] => by simp [membersChars]
  | member :: next :: members => by
    rw [membersChars, membersChars_eq_intercalate (next :: members)]
    · simp
    · exact List.cons_ne_nil _ _

theorem Value.text_array (items : List Value) :
    (Value.array items).text = "[" ++ ",".intercalate (items.map Value.text) ++ "]" := by
  apply String.toList_inj.mp
  simp [Value.text, Value.chars, itemsChars_eq_intercalate, String.toList_intercalate,
    Function.comp_def]

theorem Value.text_object (members : List (String × Value)) :
    (Value.object members).text =
      "\x7b" ++ ",".intercalate
        (members.map fun member => String.ofList (quote member.1) ++ ":" ++ member.2.text) ++
          "\x7d" := by
  apply String.toList_inj.mp
  simp [Value.text, Value.chars, membersChars_eq_intercalate, String.toList_intercalate,
    Function.comp_def]

end FormLetter.Json
