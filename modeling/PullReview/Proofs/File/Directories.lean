import PullReview.File.Scope
import PullReview.Proofs.Text.Spelling

/-!
# Directories

A file in a directory. What it is, a text in some language or a configuration file, hangs on the last part of its
path alone, and so it is the same file in every directory. Whether it is reviewed may hang on the directories above
it too, but only one way: they can take a file out of scope, by what the deny list looks for, and never put one in
(`scope_in_directory`).
-/

namespace PullReview

open Text (Holds Pattern Piece)
open Text.Pattern

/-! ## The last part of a path -/

namespace Path

variable (dir path : List Char)

theorem baseName_inside : baseName (dir ++ '/' :: path) = baseName path := by
  have hreverse : (dir ++ '/' :: path).reverse = path.reverse ++ '/' :: dir.reverse := by simp
  rw [baseName, baseName, hreverse, List.takeWhile_append]
  split
  · rename_i hwhole
    -- no slash stands in the path, and so what is taken ends at the one put before it
    rw [List.takeWhile_cons_of_neg (by simp), List.append_nil, (List.takeWhile_prefix _).eq_of_length hwhole]
  · rfl

theorem loweredExtension_inside : loweredExtension (dir ++ '/' :: path) = loweredExtension path := by
  unfold loweredExtension suffix
  rw [baseName_inside]

end Path

theorem knownLanguage?_inside (dir path : List Char) : knownLanguage? (dir ++ '/' :: path) = knownLanguage? path := by
  rw [knownLanguage?, knownLanguage?, Path.loweredExtension_inside]

theorem isConfiguration_inside (dir path : List Char) :
    isConfiguration (dir ++ '/' :: path) = isConfiguration path := by
  rw [isConfiguration, isConfiguration, Path.baseName_inside]

/-! ## The deny list -/

/-- A path that is denied: it holds one of the fixed words, or `packages/` and somewhere after it `/lib/`, with no
line feed between the two. -/
def Denied (path : List Char) : Prop :=
  (∃ word ∈ ["node_modules", ".min.", ".bundle.", ".generated.", "dist/", "build/", "coverage/", ".git/", "vendor/"],
    word.toList <:+: path) ∨
  ∃ between, '\n' ∉ between ∧ "packages/".toList ++ between ++ "/lib/".toList <:+: path

theorem holds_iff_isInfix {stretch path : List Char} : Holds (· = stretch) path ↔ stretch <:+: path := by
  constructor
  · rintro ⟨before, _, after, rfl, rfl⟩
    exact ⟨before, after, by simp⟩
  · rintro ⟨before, after, rfl⟩
    exact ⟨before, stretch, after, by simp, rfl⟩

theorem fixedPattern_occursIn_iff {word : String} {path : List Char} :
    (fixedPattern word).occursIn path = true ↔ word.toList <:+: path :=
  (occursIn_iff_holds rfl fun _ => spells_word).trans holds_iff_isInfix

/-- The pieces of the last pattern, a library folder below `packages`. -/
def libraryPieces : List Piece := Piece.word "packages/" ++ [(Piece.noneOf ['\n']).many] ++ Piece.word "/lib/"

theorem spells_libraryPieces {cs : List Char} : Spells libraryPieces cs ↔
    ∃ between, '\n' ∉ between ∧ cs = "packages/".toList ++ between ++ "/lib/".toList := by
  have hfree (between : List Char) : (Piece.noneOf ['\n']).many.Accepts between ↔ '\n' ∉ between := by
    simp only [Piece.Accepts, Piece.many, Piece.noneOf, and_true, List.contains_cons, List.contains_nil, Bool.or_false,
      Bool.not_eq_true', beq_eq_false_iff_ne]
    constructor
    · intro h hmem
      exact h '\n' hmem rfl
    · rintro h c hc rfl
      exact h hc
  rw [libraryPieces, List.append_assoc, spells_append]
  simp only [List.singleton_append, Spells, spells_word, hfree]
  constructor
  · rintro ⟨_, _, rfl, rfl, between, _, rfl, hbetween, rfl⟩
    exact ⟨between, hbetween, by simp⟩
  · rintro ⟨between, hbetween, rfl⟩
    exact ⟨_, _, List.append_assoc .., rfl, between, _, rfl, hbetween, rfl⟩

theorem isDenied_iff {path : List Char} : isDenied path = true ↔ Denied path := by
  have hlibrary : ({ pieces := libraryPieces } : Pattern).occursIn path = true ↔
      ∃ between, '\n' ∉ between ∧ "packages/".toList ++ between ++ "/lib/".toList <:+: path := by
    rw [occursIn_iff_holds rfl fun _ => spells_libraryPieces]
    constructor
    · rintro ⟨before, _, after, rfl, between, hbetween, rfl⟩
      exact ⟨between, hbetween, before, after, by simp⟩
    · rintro ⟨between, hbetween, before, after, rfl⟩
      exact ⟨before, _, after, by simp, between, hbetween, rfl⟩
  rw [isDenied, denyList, List.any_append, Bool.or_eq_true, List.any_map, List.any_eq_true, List.any_cons, List.any_nil,
    Bool.or_false, Denied, ← hlibrary]
  simp only [Function.comp_apply, fixedPattern_occursIn_iff]
  rfl

theorem Denied.inside {path : List Char} (h : Denied path) (dir : List Char) : Denied (dir ++ '/' :: path) := by
  have hpath : path <:+: dir ++ '/' :: path := ⟨dir ++ ['/'], [], by simp⟩
  rcases h with ⟨word, hword, hin⟩ | ⟨between, hbetween, hin⟩
  · exact .inl ⟨word, hword, hin.trans hpath⟩
  · exact .inr ⟨between, hbetween, hin.trans hpath⟩

/-! ## Scope -/

/-- A file is in scope if it is not denied, and its status and the last part of its path admit it. -/
theorem inScope_iff {path : List Char} {status : String} : inScope path status = true ↔
    (status ≠ "removed" ∧ binaryExtensions.contains (String.ofList (Path.loweredExtension path)) = false ∧
      ((knownLanguage? path).isSome = true ∨ Path.loweredExtension path = [] ∨ isConfiguration path = true)) ∧
      ¬ Denied path := by
  rw [inScope, ← isDenied_iff]
  grind

/-- **Scope in a directory.** A file has the same language in every directory, and it is a configuration file in all
of them or in none. It is in scope there exactly if it is in scope by itself and its whole path is not denied; so no
directory puts a file in scope. -/
theorem scope_in_directory (dir path : List Char) (status : String) :
    languageOf (dir ++ '/' :: path) = languageOf path ∧
      isConfiguration (dir ++ '/' :: path) = isConfiguration path ∧
      (inScope (dir ++ '/' :: path) status = true ↔
        inScope path status = true ∧ ¬ Denied (dir ++ '/' :: path)) ∧
      (inScope path status = false → inScope (dir ++ '/' :: path) status = false) := by
  have hscope : inScope (dir ++ '/' :: path) status = true ↔
      inScope path status = true ∧ ¬ Denied (dir ++ '/' :: path) := by
    rw [inScope_iff, inScope_iff, knownLanguage?_inside, Path.loweredExtension_inside, isConfiguration_inside]
    constructor
    · rintro ⟨hkind, hdenied⟩
      exact ⟨⟨hkind, fun h => hdenied (h.inside dir)⟩, hdenied⟩
    · rintro ⟨⟨hkind, -⟩, hdenied⟩
      exact ⟨hkind, hdenied⟩
  refine ⟨?_, isConfiguration_inside dir path, hscope, ?_⟩
  · rw [languageOf, languageOf, knownLanguage?_inside]
  · intro hout
    by_contra hin
    rw [Bool.not_eq_false, hscope, hout] at hin
    exact Bool.false_ne_true hin.1

/-! A directory of packages puts their library folders out of scope, and leaves a picture where it was. -/

theorem scope_in_directory_packages :
    inScope "lib/x.js".toList "added" = true ∧
      inScope ("packages/core".toList ++ '/' :: "lib/x.js".toList) "added" = false ∧
      languageOf ("packages/core".toList ++ '/' :: "lib/x.js".toList) = "javascript" ∧
      inScope "x.png".toList "added" = false ∧
      inScope ("packages/core".toList ++ '/' :: "x.png".toList) "added" = false := by
  obtain ⟨hlanguage, -, hscope, -⟩ := scope_in_directory "packages/core".toList "lib/x.js".toList "added"
  have hdenied : Denied ("packages/core".toList ++ '/' :: "lib/x.js".toList) :=
    .inr ⟨"core".toList, by decide, [], "x.js".toList, by decide⟩
  have hpicture : inScope "x.png".toList "added" = false := by decide +kernel
  refine ⟨by decide +kernel, ?_, hlanguage.trans (by decide +kernel), hpicture, ?_⟩
  · exact Bool.eq_false_iff.2 fun hin => (hscope.1 hin).2 hdenied
  · exact (scope_in_directory "packages/core".toList "x.png".toList "added").2.2.2 hpicture

end PullReview
