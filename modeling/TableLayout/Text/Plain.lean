/-!
# Plain text

Text that goes to a file has no use for the sequences by which a terminal is told to change its
colours or to move about.

- `sequenceLength?`: how long a sequence is: an opening bracket after the escape character, numbers
  with marks between them, and a letter.
- `plain`: a text without sequences.
- `plainAfter_of_no_escape`: a text without escape characters is left alone.
-/

namespace TableLayout.Text

/-- The character that begins a sequence. -/
def sequenceStart : Char := '\x1b'

/-- A character of the numbers in a sequence. -/
def isParameter (c : Char) : Bool :=
  c.isDigit || c == ';' || c == '?'

/-- The length of a sequence behind its escape character. -/
def sequenceLength? : List Char → Option Nat
  | '[' :: cs =>
    match cs.dropWhile isParameter with
    | c :: _ => if c.isAlpha then some ((cs.takeWhile isParameter).length + 2) else none
    | [] => none
  | _ => none

/-- Characters without sequences; the first `skip` of them belong to a sequence before them. -/
def plainAfter (skip : Nat) : List Char → List Char
  | [] => []
  | c :: cs =>
    match skip with
    | skip + 1 => plainAfter skip cs
    | 0 =>
      match if c = sequenceStart then sequenceLength? cs else none with
      | some length => plainAfter length cs
      | none => c :: plainAfter 0 cs

/-- A text without sequences. -/
def plain (s : String) : String :=
  String.ofList (plainAfter 0 s.toList)

theorem plainAfter_of_no_escape {cs : List Char} (h : sequenceStart ∉ cs) :
    plainAfter 0 cs = cs := by
  induction cs with
  | nil => rfl
  | cons c cs ih =>
    simp only [List.mem_cons, not_or] at h
    simp [plainAfter, Ne.symm h.1, ih h.2]

end TableLayout.Text
