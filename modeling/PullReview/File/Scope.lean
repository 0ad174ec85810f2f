import PullReview.File.Path
import PullReview.Text.Pattern

/-!
# Scope

Which changed files are reviewed, and in which language. A removed file is out of scope; so is one
with a binary extension, and one whose path holds a pattern of the deny list. Of the others, those
with the extension of a known language, those without an extension and the configuration files are
in scope.

| here | there |
| --- | --- |
| `languageExtensions`, `binaryExtensions` | `LANGUAGES`, `BINARY_EXTENSIONS` (file_analyzer:10-33) |
| `denyList`, `configNames` | `IGNORE_PATTERNS`, `CONFIG_FILES` (file_analyzer:35-57) |
| `inScope` | `FileAnalyzer.should_review` (file_analyzer:71-81) |
| `isConfiguration`, `languageOf` | `is_config_file`, `language_for` (file_analyzer:83-88) |
-/

namespace PullReview

open Text (Pattern Piece)

/-- The language that each extension stands for. -/
def languageExtensions : List (String × String) :=
  [(".js", "javascript"), (".jsx", "javascript"), (".ts", "typescript"), (".tsx", "typescript"),
    (".py", "python"), (".java", "java"), (".go", "go"), (".rs", "rust"), (".php", "php"), (".rb", "ruby"),
    (".swift", "swift"), (".kt", "kotlin"), (".scala", "scala"), (".cpp", "cpp"), (".c", "c"),
    (".cs", "csharp"), (".dart", "dart")]

/-- The extensions of files without text. -/
def binaryExtensions : List String :=
  [".png", ".jpg", ".jpeg", ".gif", ".svg", ".ico", ".pdf", ".zip", ".tar", ".gz", ".exe", ".dll", ".so",
    ".dylib"]

/-- The configuration files known by name. -/
def configNames : List String :=
  ["Dockerfile", "Makefile", "package.json", "tsconfig.json", "webpack.config.js", ".eslintrc", ".babelrc",
    "docker-compose.yml"]

/-- The pattern that is the word itself. -/
def fixedPattern (s : String) : Pattern := { pieces := Piece.word s }

/-- What no path in scope may hold: places of built, vendored and generated files. The last pattern
is a library folder somewhere below `packages`, within one line. -/
def denyList : List Pattern :=
  ["node_modules", ".min.", ".bundle.", ".generated.", "dist/", "build/", "coverage/", ".git/", "vendor/"].map
    fixedPattern ++
  [{ pieces := Piece.word "packages/" ++ [(Piece.noneOf ['\n']).many] ++ Piece.word "/lib/" }]

/-- Whether a path holds a pattern of the deny list. -/
def isDenied (path : List Char) : Bool := denyList.any (·.occursIn path)

/-- The language of the path's extension, if it is a known one. -/
def knownLanguage? (path : List Char) : Option String :=
  languageExtensions.lookup (String.ofList (Path.loweredExtension path))

/-- The language of a file. -/
def languageOf (path : List Char) : String := (knownLanguage? path).getD "unknown"

/-- Whether the last part of the path names a configuration file or starts with a dot. -/
def isConfiguration (path : List Char) : Bool :=
  configNames.contains (String.ofList (Path.baseName path)) || (Path.baseName path).head? == some '.'

/-- Whether a file with this path and status is reviewed (file_analyzer:71-81). -/
def inScope (path : List Char) (status : String) : Bool :=
  if status = "removed" then false
  else if binaryExtensions.contains (String.ofList (Path.loweredExtension path)) then false
  else if isDenied path then false
  else if (knownLanguage? path).isSome then true
  else (Path.loweredExtension path).isEmpty || isConfiguration path

end PullReview
