import PayGraph.Data

/-!
# Texts in TOML

A text stands between single or double quotes, one of each or three.  Single quotes keep everything
literally; double quotes allow escapes, and between three of them a backslash at the end of a line
drops the line break with the blanks around it.
-/

namespace PayGraph
namespace Toml

/-- Characters that separate the parts of a line. -/
def isBlank (character : Char) : Bool :=
  character = ' ' || character = '\t'

/-- Characters that may not stand unescaped in a comment or a text of one line. -/
def isControl (character : Char) : Bool :=
  (character.toNat < 0x20 && character ≠ '\t') || character.toNat = 0x7F

/-- Characters that may not stand unescaped in a text of several lines. -/
def isControlBesidesBreak (character : Char) : Bool :=
  isControl character && character ≠ '\n'

/-- Character written by a simple escape. -/
def escaped? : Char → Option Char
  | 'b' => some '\x08'
  | 't' => some '\t'
  | 'n' => some '\n'
  | 'f' => some '\x0c'
  | 'r' => some '\r'
  | '"' => some '"'
  | '\\' => some '\\'
  | _ => none

/-- Character with a code point written in hexadecimal digits. -/
def codeCharacter? (digits : List Char) : Option Char :=
  (hexNumber? digits).bind fun code =>
    if code < 0xD800 ∨ (0xE000 ≤ code ∧ code < 0x110000) then some (Char.ofNat code) else none

/-- Character written by an escape after its backslash, and what follows it. -/
def escape : Scan Char
  | 'u' :: a :: b :: c :: d :: rest =>
    match codeCharacter? [a, b, c, d] with
    | some character => .ok (character, rest)
    | none => .error .malformed
  | 'U' :: a :: b :: c :: d :: e :: f :: g :: h :: rest =>
    match codeCharacter? [a, b, c, d, e, f, g, h] with
    | some character => .ok (character, rest)
    | none => .error .malformed
  | letter :: rest =>
    match escaped? letter with
    | some character => .ok (character, rest)
    | none => .error .malformed
  | [] => .error .malformed

theorem escape_length {input rest : List Char} {character : Char}
    (read : escape input = .ok (character, rest)) : rest.length < input.length := by
  unfold escape at read
  split at read
  · split at read <;> simp at read
    simp [← read.2]
    omega
  · split at read <;> simp at read
    simp [← read.2]
    omega
  · split at read <;> simp at read
    simp [← read.2]
  · simp at read

/-- Rest of a text between double quotes on one line.  The characters read so far are in
reverse. -/
def basicBody (reversed : List Char) : Scan String
  | [] => .error .malformed
  | '"' :: rest => .ok (String.ofList reversed.reverse, rest)
  | '\\' :: rest =>
    match read : escape rest with
    | .error fault => .error fault
    | .ok (character, after) =>
      have := escape_length read
      basicBody (character :: reversed) after
  | character :: rest =>
    if isControl character then .error .malformed else basicBody (character :: reversed) rest
termination_by input => input.length

/-- Rest of a text between single quotes on one line. -/
def literalBody (reversed : List Char) : Scan String
  | [] => .error .malformed
  | '\'' :: rest => .ok (String.ofList reversed.reverse, rest)
  | character :: rest =>
    if isControl character then .error .malformed else literalBody (character :: reversed) rest

/-- End of a text between three quotes: up to two more of them belong to the text. -/
def closing (quote : Char) (reversed : List Char) : List Char → String × List Char
  | first :: second :: rest =>
    if first = quote then
      if second = quote then (String.ofList (quote :: quote :: reversed).reverse, rest)
      else (String.ofList (quote :: reversed).reverse, second :: rest)
    else (String.ofList reversed.reverse, first :: second :: rest)
  | [first] =>
    if first = quote then (String.ofList (quote :: reversed).reverse, [])
    else (String.ofList reversed.reverse, [first])
  | [] => (String.ofList reversed.reverse, [])

/-- What may follow a backslash that joins lines. -/
inductive Joining where
  /-- No lines are being joined. -/
  | none
  /-- Only blanks may stand before the end of the line. -/
  | line
  /-- The blanks and line breaks at the start of the next lines are dropped. -/
  | start
  deriving DecidableEq, Repr

/-- Rest of a text between three double quotes. -/
def longBasicBody (joining : Joining) (reversed : List Char) : Scan String
  | [] => .error .malformed
  | character :: rest =>
    if joining = .line ∧ isBlank character then longBasicBody .line reversed rest
    else if joining = .line ∧ character = '\n' then longBasicBody .start reversed rest
    else if joining = .line then .error .malformed
    else if joining = .start ∧ (isBlank character ∨ character = '\n') then
      longBasicBody .start reversed rest
    else if character = '"' then
      if rest.take 2 = ['"', '"'] then .ok (closing '"' reversed (rest.drop 2))
      else longBasicBody .none (character :: reversed) rest
    else if character = '\\' then
      match rest with
      | [] => .error .malformed
      | next :: after =>
        if isBlank next then longBasicBody .line reversed after
        else if next = '\n' then longBasicBody .start reversed after
        else
          match read : escape (next :: after) with
          | .error fault => .error fault
          | .ok (written, remaining) =>
            have := escape_length read
            longBasicBody .none (written :: reversed) remaining
    else if isControlBesidesBreak character then .error .malformed
    else longBasicBody .none (character :: reversed) rest
termination_by input => input.length
decreasing_by all_goals (simp_all; try omega)

/-- Rest of a text between three single quotes. -/
def longLiteralBody (reversed : List Char) : Scan String
  | [] => .error .malformed
  | '\'' :: '\'' :: '\'' :: rest => .ok (closing '\'' reversed rest)
  | character :: rest =>
    if isControlBesidesBreak character then .error .malformed
    else longLiteralBody (character :: reversed) rest

/-- Text without the line break that may open a text between three quotes. -/
def dropBreak : List Char → List Char
  | '\n' :: rest => rest
  | input => input

/-- A text of any sort. -/
def text : Scan String
  | '"' :: '"' :: '"' :: rest => longBasicBody .none [] (dropBreak rest)
  | '"' :: rest => basicBody [] rest
  | '\'' :: '\'' :: '\'' :: rest => longLiteralBody [] (dropBreak rest)
  | '\'' :: rest => literalBody [] rest
  | _ => .error .malformed

/-- Characters of a key without quotes. -/
def isBare (character : Char) : Bool :=
  character.isAlphanum || character = '-' || character = '_'

/-- One part of a key. -/
def keyPart : Scan String
  | '"' :: rest => basicBody [] rest
  | '\'' :: rest => literalBody [] rest
  | input =>
    match input.takeWhile isBare with
    | [] => .error .malformed
    | written => .ok (String.ofList written, input.dropWhile isBare)

end Toml
end PayGraph
