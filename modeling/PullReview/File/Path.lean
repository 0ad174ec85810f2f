import PullReview.Text.Letters

/-!
# Paths

The last part of a path and its extension. Dots at the start of the last part begin a name, not an
extension, so `.env` and `..env` have none; the extension runs from the last dot.

| here | there |
| --- | --- |
| `baseName` | `os.path.basename` (file_analyzer:84) |
| `loweredExtension` | `FileAnalyzer._extension` (file_analyzer:111-112) |
-/

namespace PullReview.Path

/-- What follows the last slash. -/
def baseName (path : List Char) : List Char := (path.reverse.takeWhile (· ≠ '/')).reverse

/-- The extension with its dot, or nothing. -/
def suffix (path : List Char) : List Char :=
  let reversed := (baseName path).reverse
  match reversed.dropWhile (· ≠ '.') with
  | [] => []
  | _ :: stem => if stem.any (· ≠ '.') then '.' :: (reversed.takeWhile (· ≠ '.')).reverse else []

/-- The extension in lower case. -/
def loweredExtension (path : List Char) : List Char := (suffix path).map Text.lowered

end PullReview.Path
