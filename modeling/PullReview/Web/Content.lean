import PullReview.Bytes.Wrapped
import PullReview.Text.Percent
import PullReview.Text.Blank
import PullReview.Text.Letters

/-!
# Encoded content

The content of a message may be packed for its way. Its headers name the packings in the order in which
they were applied; they are undone in the opposite order, and a packing that is not known is passed
over. A text after the end of packed content is left alone, and content that breaks off holds what can
be read of it.

| here | there |
| --- | --- |
| `unpacked?` | the content decoders of `httpx.Response` |
-/

namespace PullReview.Web

inductive Packing where
  | gzip | deflate
  deriving DecidableEq, Repr

namespace Packing

def ofName? (name : List Char) : Option Packing :=
  if name = "gzip".toList then some gzip
  else if name = "deflate".toList then some deflate
  else none

/-- The packings that a header names, with commas between them. -/
def ofHeader (value : String) : List Packing :=
  (Text.splitOn ',' value.toList).filterMap fun name =>
    ofName? ((Text.strip Text.isBlank name).map Text.lowered)

/-- Undoes a packing, unless the content is corrupt. -/
def undo : Packing → List UInt8 → Option (List UInt8)
  | gzip => Bytes.gunzip
  | deflate => Bytes.undeflate

end Packing

/-- The content of a body that was packed in the given ways, one after the other. -/
def unpacked? (packings : List Packing) (body : List UInt8) : Option (List UInt8) :=
  packings.foldr (fun packing content => content.bind packing.undo) (some body)

end PullReview.Web
