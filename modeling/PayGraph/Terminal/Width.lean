import PayGraph.Terminal.Cells

/-!
# Widths of texts

A text is as wide as its characters together, with two exceptions.  A joiner merges the character
after it into the one before it, and a selector turns the character before it into a picture, which
may be wider.  A cluster is a part of a text that no line break or cut may divide.
-/

namespace PayGraph
namespace Terminal

/-- The character that merges its neighbours. -/
def joiner : Char := '\u200D'

/-- The character that turns the one before it into a picture. -/
def selector : Char := '\uFE0F'

/-- Cells that a selector adds after the last character with cells. -/
def gain (last? : Option Char) : Nat :=
  if (last?.map hasPicture).getD false then 1 else 0

/-- Width of a text after a last character with cells. -/
def widthAfter (last? : Option Char) : List Char → Nat
  | [] => 0
  | character :: rest =>
    if character = joiner then
      match rest with
      | [] => 0
      | _ :: after => widthAfter last? after
    else if character = selector then gain last? + widthAfter none rest
    else if cells character = 0 then widthAfter last? rest
    else cells character + widthAfter (some character) rest

/-- Number of cells of a text. -/
def width (characters : List Char) : Nat :=
  widthAfter none characters

/-- Characters that stay together, with the number of cells they fill. -/
structure Cluster where
  /-- The characters in order. -/
  characters : List Char
  /-- Number of cells. -/
  cells : Nat

namespace Cluster

/-- A cluster with further characters that fill further cells. -/
def grow (cluster : Cluster) (further : List Char) (cells : Nat) : Cluster :=
  ⟨cluster.characters ++ further, cluster.cells + cells⟩

/-- Clusters of a text after one that may still grow and a last character with cells. -/
def split (open? : Option Cluster) (last? : Option Char) : List Char → List Cluster
  | [] => open?.toList
  | character :: rest =>
    match open? with
    | none =>
      let special := character = joiner || character = selector
      let own := if special then 0 else Terminal.cells character
      split (some ⟨[character], own⟩) (if own = 0 then last? else some character) rest
    | some cluster =>
      if character = joiner then
        match rest with
        | [] => [cluster.grow [character] 0]
        | next :: after => split (some (cluster.grow [character, next] 0)) last? after
      else if character = selector then
        split (some (cluster.grow [character] (gain last?)))
          (if gain last? = 0 then last? else none) rest
      else if Terminal.cells character = 0 then
        split (some (cluster.grow [character] 0)) last? rest
      else
        cluster :: split (some ⟨[character], Terminal.cells character⟩) (some character) rest

end Cluster

/-- Clusters of a text. -/
def clusters (characters : List Char) : List Cluster :=
  Cluster.split none none characters

end Terminal
end PayGraph
