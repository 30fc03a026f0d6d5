import ResourceAudit.Culture.Name
import ResourceAudit.Markup.Encoding
import ResourceAudit.Text.Pieces

/-!
# The platform

What a run relies on and has no say in: which locales there are, which codecs there are, and
where in a document that is not well formed the fault is said to be.
-/

namespace ResourceAudit

structure Platform where
  locales : Culture.Locales
  codecs : Markup.Codecs
  /-- The line and the column of the fault of a document. -/
  faultAt : Markup.Source → Nat × Nat

namespace Markup.Source

/-- What a document is decoded by, as far as its declaration tells. -/
def decoder (codecs : Codecs) (source : Source) : Decoder :=
  let (initial, _) := source.opening
  match source.declared?.map (initial.named codecs) with
  | some (.ok (.ok decoder)) => decoder
  | _ => .known initial

/-- The line and the column at which a document ends, and with it one that is cut short. A byte
order mark takes up a column. -/
def finish (codecs : Codecs) (source : Source) : Nat × Nat :=
  let (_, body) := source.opening
  let chars := ((source.decoder codecs).decode body).chars
  let lines := Text.pieces '\n' (normalizeLines chars)
  let marked := if body.length < source.toBytes.length && lines.length = 1 then 1 else 0
  (lines.length, marked + (lines.getLast?.getD []).length)

end Markup.Source

/-- The platform without locales and codecs, on which a document with a fault is wrong where it
ends. -/
def Platform.bare : Platform where
  locales := fun _ => false
  codecs := fun _ => .unknown
  faultAt := Markup.Source.finish fun _ => .unknown

end ResourceAudit
