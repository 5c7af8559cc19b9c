import TableLayout.Text.Digits

/-!
# Texts in TOML

A text stands between quotes of four sorts: double quotes with escapes or single quotes without, and
either once for a line or three times for several lines. A reader gives what it finds at the
beginning of characters, with the characters after it.

- `Toml.afterComment?`, `Toml.afterSpace?`: the characters after a comment, and after blanks, line
  ends and comments.
- `Toml.escaped?`: what an escape stands for.
- `Toml.line?`, `Toml.text?`: a text of one line, and a text of any sort.
-/

namespace TableLayout.Toml

/-! ## Between values -/

/-- A blank within a line. -/
def isBlank (c : Char) : Bool :=
  c == ' ' || c == '\t'

/-- A blank or the end of a line. -/
def isSpace (c : Char) : Bool :=
  isBlank c || c == '\n'

/-- A control character that has no place in texts and comments, or in texts of several lines. -/
def isControl (lines : Bool) (c : Char) : Bool :=
  (c.toNat < 0x20 || c.toNat == 0x7F) && c != '\t' && !(lines && c == '\n')

/-- The characters after a comment, if one stands at the beginning. -/
def afterComment? : List Char → Option (List Char)
  | '#' :: cs =>
    let (comment, rest) := cs.span (· != '\n')
    if comment.any (isControl false) then none else some rest
  | cs => some cs

/-- The characters after blanks, line ends and comments, from outside or inside of a comment. -/
def afterSpace? (comment : Bool) : List Char → Option (List Char)
  | [] => some []
  | c :: cs =>
    if isSpace c then afterSpace? (comment && c != '\n') cs
    else if comment then if isControl false c then none else afterSpace? true cs
    else if c = '#' then afterSpace? true cs
    else some (c :: cs)

/-! ## Escapes -/

/-- What stands for a character after a backslash. -/
def escapes : List (Char × Char) :=
  [('b', '\x08'), ('t', '\t'), ('n', '\n'), ('f', '\x0c'), ('r', '\r'), ('\x22', '\x22'),
    ('\\', '\\')]

/-- The character whose number is written in digits after a letter, and how long that is. -/
def numbered? (width : Nat) (cs : List Char) : Option (List Char × Nat) :=
  let digits := cs.take width
  let n := Text.ofDigits 16 digits
  if digits.length = width ∧ digits.all (Text.isDigitOf 16) ∧ n.isValidChar then
    some ([Char.ofNat n], width + 1)
  else none

/-- An end of a line with the blanks around it, which stands for nothing, and how long that is. -/
def lineEnd? (cs : List Char) : Option (List Char × Nat) :=
  match cs.dropWhile isBlank with
  | '\n' :: rest =>
    some ([], (cs.takeWhile isBlank).length + 1 + (rest.takeWhile isSpace).length)
  | _ => none

/-- What an escape stands for and how long it is, after its backslash. -/
def escaped? (lines : Bool) : List Char → Option (List Char × Nat)
  | [] => none
  | 'u' :: cs => numbered? 4 cs
  | 'U' :: cs => numbered? 8 cs
  | c :: cs => match escapes.lookup c with
    | some c => some ([c], 1)
    | none => if lines then lineEnd? (c :: cs) else none

/-! ## Texts -/

/-- Whether two quotes of the same sort follow. -/
def twoQuotes (quote : Char) (cs : List Char) : Bool :=
  [quote, quote].isPrefixOf cs

/-- A text between double quotes behind the first of them; `skip` characters of an escape are still
to be passed over. -/
def basic? (lines : Bool) (skip : Nat) : List Char → Option (List Char × List Char)
  | [] => none
  | c :: cs =>
    match skip with
    | skip + 1 => basic? lines skip cs
    | 0 =>
      if c = '\x22' then
        if !lines then some ([], cs)
        else if twoQuotes c cs then some ([], cs.drop 2)
        else (basic? lines 0 cs).map fun (text, rest) => (c :: text, rest)
      else if c = '\\' then
        match escaped? lines cs with
        | some (meant, length) =>
          (basic? lines length cs).map fun (text, rest) => (meant ++ text, rest)
        | none => none
      else if isControl lines c then none
      else (basic? lines 0 cs).map fun (text, rest) => (c :: text, rest)

/-- A text between single quotes behind the first of them. -/
def literal? (lines : Bool) : List Char → Option (List Char × List Char)
  | [] => none
  | c :: cs =>
    if c = '\'' ∧ !lines then some ([], cs)
    else if c = '\'' ∧ twoQuotes c cs then some ([], cs.drop 2)
    else if isControl lines c then none
    else (literal? lines cs).map fun (text, rest) => (c :: text, rest)

/-- A text of one line. -/
def line? : List Char → Option (String × List Char)
  | '\x22' :: cs => (basic? false 0 cs).map fun (text, rest) => (String.ofList text, rest)
  | '\'' :: cs => (literal? false cs).map fun (text, rest) => (String.ofList text, rest)
  | _ => none

/-- A text of several lines behind its first three quotes: it does not begin with the end of a line,
and one or two quotes more at its end belong to it. -/
def lines? (quote : Char) (read : List Char → Option (List Char × List Char)) (cs : List Char) :
    Option (String × List Char) :=
  (read (if cs.head? = some '\n' then cs.tail else cs)).map fun (text, rest) =>
    let more := (rest.take 2).takeWhile (· == quote)
    (String.ofList (text ++ more), rest.drop more.length)

/-- A text of any sort. -/
def text? : List Char → Option (String × List Char)
  | '\x22' :: '\x22' :: '\x22' :: cs => lines? '\x22' (basic? true 0) cs
  | '\'' :: '\'' :: '\'' :: cs => lines? '\'' (literal? true) cs
  | cs => line? cs

end TableLayout.Toml
