import Bracket.Text.Bytes
import Bracket.Text.Cluster

/-!
Backspaces in typed text: each one takes back the cluster typed before it, and does nothing when
there is none.
-/

namespace Bracket.Text.Backspace

def backspace : Char := Char.ofNat 0x8

/-- Text typed so far, last character first, and the bytes that every cluster of it takes up, last
cluster first. -/
structure Typed where
  text : List Char := []
  widths : List Nat := []

/-- The width that a cluster is remembered by, which is kept in a single byte. -/
def width (cluster : List Char) : Nat := byteLength cluster % 256

/-- Types one cluster, which may be a backspace. -/
def Typed.type (t : Typed) (cluster : List Char) : Typed :=
  if cluster = [backspace] then
    match t.widths with
    | [] => t
    | last :: widths => ⟨dropBytes last t.text, widths⟩
  else ⟨cluster.reverse ++ t.text, width cluster :: t.widths⟩

end Bracket.Text.Backspace

namespace Bracket.Text

/-- The text that remains when all its backspaces have been carried out. -/
def applyBackspaces (cs : List Char) : List Char :=
  ((clusters cs).foldl Backspace.Typed.type {}).text.reverse

end Bracket.Text
