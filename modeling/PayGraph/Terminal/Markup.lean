import PayGraph.Terminal.Argument
import PayGraph.Terminal.Emoji
import PayGraph.Terminal.Style

/-!
# Console markup

A tag in square brackets styles the text up to the tag that closes it.  On a console without styles
the tags only vanish.  Backslashes before a bracket keep it literal, and `escape` puts them where a
text would otherwise be taken for a tag.  Outside of tags, names of emoji give way to the emoji.
-/

namespace PayGraph
namespace Terminal

/-- A part of marked-up text. -/
inductive Piece where
  /-- Text outside of tags. -/
  | plain (characters : List Char)
  /-- A bracketed tag with the number of backslashes before it. -/
  | tag (backslashes : Nat) (content : List Char)
  deriving DecidableEq, Repr

/-- What is wrong with tags. -/
inductive MarkupError where
  /-- A closing tag that closes nothing. -/
  | unmatched (tag : String)
  /-- What a tag gives its handler is no literal. -/
  | noLiteral (argument : String)
  /-- A colour lacks the number of one of its components. -/
  | noComponent (definition : String)
  deriving DecidableEq, Repr

/-- A tag by its parts. -/
structure Tag where
  /-- What comes before the first equals sign, in normal form. -/
  name : List Char
  /-- What comes after it, if there is one. -/
  argument? : Option (List Char)

namespace Markup

/-- A character that may begin the content of a tag. -/
def opensTag (character : Char) : Bool :=
  character.isLower || character = '#' || character = '/' || character = '@'

/-- Content of a tag after its opening bracket, and what follows the closing one. -/
def content? : List Char → Option (List Char × List Char)
  | [] => none
  | first :: rest =>
    if opensTag first then
      match rest.dropWhile fun character => character ≠ ']' && character ≠ '[' with
      | ']' :: after =>
        some (first :: rest.takeWhile fun character => character ≠ ']' && character ≠ '[', after)
      | _ => none
    else none

/-- A tag with the backslashes before it at the front of a text, and what follows it. -/
def tag? (input : List Char) : Option (Piece × List Char) :=
  let backslashes := (input.takeWhile (· = '\\')).length
  match input.dropWhile (· = '\\') with
  | '[' :: rest => (content? rest).map fun (content, after) => (.tag backslashes content, after)
  | _ => none

theorem content?_length {input content rest : List Char}
    (found : content? input = some (content, rest)) : rest.length < input.length := by
  cases input with
  | nil => simp [content?] at found
  | cons first tail =>
      rw [content?] at found
      split at found
      · split at found
        · rename_i after split_eq
          simp only [Option.some.injEq, Prod.mk.injEq] at found
          have shorter := (List.dropWhile_suffix
            (fun character => character ≠ ']' && character ≠ '[') (l := tail)).length_le
          rw [split_eq, found.2, List.length_cons] at shorter
          rw [List.length_cons]
          omega
        · cases found
      · cases found

theorem tag?_length {input rest : List Char} {piece : Piece}
    (found : tag? input = some (piece, rest)) : rest.length < input.length := by
  unfold tag? at found
  split at found
  · rename_i tail split_eq
    rw [Option.map_eq_some_iff] at found
    obtain ⟨⟨content, after⟩, content_eq, same⟩ := found
    have shorter := content?_length content_eq
    have dropped :=
      (List.dropWhile_suffix (fun character => character = '\\') (l := input)).length_le
    rw [split_eq, List.length_cons] at dropped
    simp only [Prod.mk.injEq] at same
    rw [← same.2]
    omega
  · cases found

/-- Parts of marked-up text.  The plain characters read so far are in reverse. -/
def pieces (reversed : List Char) (input : List Char) : List Piece :=
  match found : tag? input with
  | some (piece, rest) =>
    have := tag?_length found
    .plain reversed.reverse :: piece :: pieces [] rest
  | none =>
    match input with
    | [] => [.plain reversed.reverse]
    | character :: rest => pieces (character :: reversed) rest
termination_by input.length

/-- Text that shows as it is when it is rendered. -/
def escape (content : String) : String :=
  let escaped := (pieces [] content.toList).flatMap fun piece =>
    match piece with
    | .plain characters => characters
    | .tag backslashes inner =>
      List.replicate (2 * backslashes + 1) '\\' ++ '[' :: inner ++ [']']
  let final := escaped.reverse
  if final.head? = some '\\' ∧ final.tail.head? ≠ some '\\' then
    String.ofList (escaped ++ ['\\'])
  else String.ofList escaped

/-- Plain characters with the backslash before a bracket dropped. -/
def unescape : List Char → List Char
  | '\\' :: '[' :: rest => '[' :: unescape rest
  | character :: rest => character :: unescape rest
  | [] => []

/-- Text of plain characters. -/
def shown (characters : List Char) : List Char :=
  Emoji.replace (unescape characters)

/-- Normal form of a definition. -/
def normalize (definition : List Char) : Except MarkupError (List Char) :=
  (Style.normalize definition).mapError fun _ => .noComponent (String.ofList definition)

/-- What a tag holds before the first equals sign. -/
def nameOf (content : List Char) : List Char :=
  content.takeWhile (· ≠ '=')

/-- What a tag holds after the first equals sign, if there is one. -/
def argumentOf? (content : List Char) : Option (List Char) :=
  match content.dropWhile (· ≠ '=') with
  | '=' :: argument => some argument
  | _ => none

/-- Open a tag with a content. -/
def openTag (content : List Char) : Except MarkupError Tag :=
  (normalize (nameOf content)).map fun name => ⟨name, argumentOf? content⟩

/-- End a tag; one that names a handler has to give it a literal. -/
def endTag (tag : Tag) : Except MarkupError Unit :=
  match tag.name, tag.argument? with
  | '@' :: _, some argument =>
    if argument.isEmpty || Argument.isValid (trim argument) then .ok ()
    else .error (.noLiteral (String.ofList argument))
  | _, _ => .ok ()

/-- Open tags without the one that a closing tag names: the innermost, or the innermost of a
name. -/
def closeTag (opened : List Tag) (content : List Char) : Except MarkupError (List Tag) := do
  let written := trim (nameOf content).tail
  let tag? ←
    if written.isEmpty then pure opened.head?
    else (normalize written).map fun name => opened.find? fun tag => tag.name = name
  match tag? with
  | none => .error (.unmatched (String.ofList content))
  | some tag =>
    endTag tag
    return opened.eraseP fun one => one.name = tag.name

/-- Text of the pieces, given the open tags, the innermost first. -/
def renderPieces (opened : List Tag) : List Piece → Except MarkupError (List Char)
  | [] => .ok []
  | .plain characters :: rest => (renderPieces opened rest).map (shown characters ++ ·)
  | .tag backslashes content :: rest =>
    let literal := List.replicate (backslashes / 2) '\\'
    if backslashes % 2 = 1 then
      (renderPieces opened rest).map (literal ++ shown ('[' :: content ++ [']']) ++ ·)
    else do
      let remaining ←
        if content.head? = some '/' then closeTag opened content
        else (openTag content).map (· :: opened)
      (renderPieces remaining rest).map (literal ++ ·)

/-- Definition of the style that a piece asks for, if it opens a tag. -/
def definition? : Piece → Option (List Char)
  | .plain _ => none
  | .tag backslashes content =>
    if backslashes % 2 = 1 ∨ content.head? = some '/' then none
    else some (nameOf content ++ ((argumentOf? content).map (' ' :: ·)).getD [])

/-- Characters that pieces show.  Every tag has to name a style that a console can look up. -/
def showPieces (found : List Piece) : Except MarkupError (List Char) := do
  let characters ← renderPieces [] found
  let _ ← (found.filterMap definition?).mapM normalize
  return characters

/-- Control characters that a console drops. -/
def isDropped (character : Char) : Bool :=
  let code := character.toNat
  code = 7 || code = 8 || code = 11 || code = 12 || code = 13

/-- Text that marked-up text shows. -/
def render (markup : String) : Except MarkupError String :=
  let characters := markup.toList
  let found :=
    if characters.contains '[' then showPieces (pieces [] characters)
    else .ok (Emoji.replace characters)
  found.map fun visible => String.ofList (visible.filter fun one => !isDropped one)

end Markup
end Terminal
end PayGraph
