import PayGraph.Files.Access
import PayGraph.Json.Reader
import PayGraph.Text.Breaks
import PayGraph.Toml.Reader

/-!
# Data in files

A file of data that is not what it should be is refused with a message of its reader.  A file that
cannot be opened, bytes that are no text, and numbers or nestings beyond all bounds are faults of
their own.
-/

namespace PayGraph

/-- Why loading a file ends without a result. -/
inductive LoadFault (Refusal : Type) where
  | refused (cause : Refusal)
  | inaccessible (cause : FileError)
  | undecodable
  | digits (cause : DigitOverflow)
  | nesting
  deriving DecidableEq, Repr

namespace LoadFault

/-- Fault of a text that is no document of its format. -/
def ofParse {Refusal : Type} (malformed : Refusal) : ParseFault → LoadFault Refusal
  | .malformed => .refused malformed
  | .digits cause => .digits cause
  | .nesting => .nesting

end LoadFault

/-- Data in a text of a format. -/
def Data.ofText [Host] (format : Format) (text : List Char) : Except ParseFault Data :=
  match format with
  | .json => Json.read (unifyBreaks text)
  | .toml => (Toml.read text).map .table

/-- What a reader finds in the content of a file. -/
def readContent {Refusal Value : Type} (reader : List Char → Except ParseFault Value)
    (malformed : Refusal) (content : ByteArray) : Except (LoadFault Refusal) Value :=
  match String.fromUTF8? content with
  | some text => (reader text.toList).mapError (.ofParse malformed)
  | none => .error .undecodable

end PayGraph
