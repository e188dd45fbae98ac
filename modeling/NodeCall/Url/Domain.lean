import NodeCall.Text.Form
import NodeCall.Url.Domain.Label

/-!
# Domain names

Host names in the form in which they are looked up: lower case and ASCII only.
-/

namespace NodeCall.Url.Domain

def isForbidden (c : Char) : Bool :=
  c.toNat ≤ 0x20 || c.toNat = 0x7F ||
    ['%', '#', '/', ':', '<', '>', '?', '@', '[', '\\', ']', '^', '|'].contains c

def labels? (name : List Char) : Option (List Label) := do
  let mapped ← mapped? name
  (Text.Form.splitOn '.' (Text.Composed.composed mapped)).mapM Label.ofLetters?

def toAscii? (name : List Char) : Option (List Char) := do
  let labels ← labels? name
  if (labels.any fun l => isTurned l.letters) && !labels.all fun l => directionsFit l.letters then
    none
  else
    let ascii := ['.'].intercalate (labels.map Label.ascii)
    if ascii.any isForbidden then none else some ascii

end NodeCall.Url.Domain
