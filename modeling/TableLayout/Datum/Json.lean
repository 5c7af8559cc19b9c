import TableLayout.Datum.Printed

/-!
# Values as JSON

- `Datum.jsonText`: the text of a value as JSON, indented by two blanks a level and in ASCII. Values
  without a form of their own are written as their text. The keys of a map are written as texts,
  which fails for keys other than texts, numbers, truth values and null.
-/

namespace TableLayout.Datum

/-- An escape of a UTF-16 unit. -/
def jsonEscape (unit : Nat) : List Char :=
  '\\' :: 'u' :: Text.hexDigits 4 unit

/-- A character of a text in JSON. -/
def jsonChar (c : Char) : List Char :=
  if c = Text.doubleQuote ∨ c = '\\' then ['\\', c]
  else if c = '\n' then ['\\', 'n']
  else if c = '\r' then ['\\', 'r']
  else if c = '\t' then ['\\', 't']
  else if c = '\x08' then ['\\', 'b']
  else if c = '\x0c' then ['\\', 'f']
  else if 0x20 ≤ c.toNat ∧ c.toNat < 0x7F then [c]
  else if c.toNat < 0x10000 then jsonEscape c.toNat
  else jsonEscape (0xD800 + (c.toNat - 0x10000) / 0x400) ++
    jsonEscape (0xDC00 + (c.toNat - 0x10000) % 0x400)

/-- A text in JSON. -/
def jsonQuoted (s : String) : String :=
  String.ofList (Text.doubleQuote :: s.toList.flatMap jsonChar ++ [Text.doubleQuote])

/-- The text of a key in JSON. -/
def jsonKey : Datum → Except Kind String
  | .text s => .ok s
  | .null => .ok "null"
  | .bool b => .ok (if b then "true" else "false")
  | .int n => .ok (toString n)
  | .float x => .ok x.jsonText
  | key => .error key.kind

/-- Parts between brackets, each on a line of its own at the given level. -/
def jsonBlock (opening closing : String) (level : Nat) (parts : List String) : String :=
  let line := fun level : Nat => "\n" ++ String.ofList (List.replicate (2 * level) ' ')
  if parts.isEmpty then opening ++ closing
  else opening ++ line (level + 1) ++ String.intercalate ("," ++ line (level + 1)) parts
    ++ line level ++ closing

mutual

/-- The text of a value as JSON, at a level of indentation, or the kind of a key that has none. -/
def jsonAt (level : Nat) : Datum → Except Kind String
  | .null => .ok "null"
  | .bool b => .ok (if b then "true" else "false")
  | .int n => .ok (toString n)
  | .float x => .ok x.jsonText
  | .text s => .ok (jsonQuoted s)
  | .list ds | .tuple ds => jsonBlock "[" "]" level <$> jsonItems (level + 1) ds
  | .map es => jsonBlock "\x7b" "\x7d" level <$> jsonEntries (level + 1) es
  | .bytes bs => .ok (jsonQuoted (Datum.bytes bs).quoted)
  | .buffer bs => .ok (jsonQuoted (Datum.buffer bs).quoted)
  | .moment _ written => .ok (jsonQuoted written)
  | .set ds => .ok (jsonQuoted (Datum.set ds).quoted)

/-- The texts of the items of a list. -/
def jsonItems (level : Nat) : List Datum → Except Kind (List String)
  | [] => .ok []
  | d :: ds => do
    let item ← d.jsonAt level
    let items ← jsonItems level ds
    return item :: items

/-- The texts of the entries of a map. -/
def jsonEntries (level : Nat) : List (Datum × Datum) → Except Kind (List String)
  | [] => .ok []
  | (k, v) :: es => do
    let key ← jsonKey k
    let value ← v.jsonAt level
    let entries ← jsonEntries level es
    return (jsonQuoted key ++ ": " ++ value) :: entries

end

/-- The text of a value as JSON, or the kind of a key that has none. -/
def jsonText (d : Datum) : Except Kind String :=
  d.jsonAt 0

end TableLayout.Datum
