import Mathlib.Data.List.TakeWhile
import PullReview.Proofs.Diff.Numbering

/-!
# Reading the lines of a patch

What a line does to the count, for every line that a patch may hold. A header either has a start, and then
it can be cut there in one way (`StartedHeader`) and sets the count, or it has none and leaves the count
where it was; every other line moves the count by one at most (`addedFrom_body`). A patch is read unless one
of its starts has more digits than a numeral may have (`added_isOk_iff`).
-/

namespace PullReview.Diff

/-! ## Headers with a start -/

/-- A header with a start, cut there: at the first plus sign that has a digit right after it. The start is
all the digits from there on. -/
structure StartedHeader where
  before : List Char
  digits : List Char
  after : List Char
  opens : "@@".toList <+: before
  first : ∀ a c b, before = a ++ '+' :: c :: b → Text.isDigit c = false
  ne_nil : digits ≠ []
  isDigit : ∀ c ∈ digits, Text.isDigit c = true
  whole : ∀ c ∈ after.head?, Text.isDigit c = false

theorem leadingDigits_of_head {cs : List Char} (h : ∀ c ∈ cs.head?, Text.isDigit c = false) :
    leadingDigits cs = [] := by
  cases cs with
  | nil => rfl
  | cons c cs =>
    have hc : Text.isDigit c = false := h c rfl
    rw [leadingDigits, List.takeWhile_cons_of_neg (by simp [hc])]
    rfl

theorem leadingDigits_ne_nil {c : Char} (h : Text.isDigit c = true) (cs : List Char) :
    leadingDigits (c :: cs) ≠ [] := by
  obtain ⟨d, hd⟩ := Option.isSome_iff_exists.1 h
  rw [leadingDigits, List.takeWhile_cons_of_pos h, List.filterMap_cons_some hd]
  exact List.cons_ne_nil _ _

/-- Before the first plus sign there is none with a digit after it. -/
theorem first_of_no_plus {before : List Char} (h : '+' ∉ before) (a : List Char) (c : Char) (b : List Char)
    (hab : before = a ++ '+' :: c :: b) : Text.isDigit c = false :=
  absurd (by simp [hab]) h

namespace StartedHeader

/-- The whole line. -/
def text (h : StartedHeader) : List Char := h.before ++ '+' :: (h.digits ++ h.after)

/-- The number that the digits denote. -/
def start (h : StartedHeader) : Nat := Text.ofDigits (h.digits.filterMap Text.digitValue?)

variable (h : StartedHeader)

theorem isHeader_text : isHeader h.text = true :=
  isHeader_iff.2 (h.opens.trans (List.prefix_append _ _))

theorem length_values : (h.digits.filterMap Text.digitValue?).length = h.digits.length :=
  List.filterMap_length_eq_length.2 h.isDigit

theorem leadingDigits_digits : leadingDigits (h.digits ++ h.after) = h.digits.filterMap Text.digitValue? := by
  have hafter : h.after.takeWhile Text.isDigit = [] := by
    cases hc : h.after with
    | nil => rfl
    | cons c cs => exact List.takeWhile_cons_of_neg (by simp [h.whole c (by simp [hc])])
  rw [leadingDigits, List.takeWhile_append_of_pos h.isDigit, hafter, List.append_nil]

theorem leadingDigits_digits_ne_nil : leadingDigits (h.digits ++ h.after) ≠ [] := by
  obtain ⟨c, cs, hcs⟩ := List.exists_cons_of_ne_nil h.ne_nil
  rw [hcs, List.cons_append]
  exact leadingDigits_ne_nil (h.isDigit c (by simp [hcs])) _

end StartedHeader

/-- A plus sign without a digit right after it is passed over. -/
theorem startDigits?_of_first {before : List Char}
    (h : ∀ a c b, before = a ++ '+' :: c :: b → Text.isDigit c = false) (rest : List Char) :
    startDigits? (before ++ '+' :: rest) = startDigits? ('+' :: rest) := by
  induction before with
  | nil => rfl
  | cons c cs ih =>
    have hskip : c = '+' → leadingDigits (cs ++ '+' :: rest) = [] := by
      rintro rfl
      refine leadingDigits_of_head fun d hd => ?_
      cases cs with
      | nil =>
        cases hd
        decide
      | cons e cs =>
        cases hd
        exact h [] _ _ rfl
    rw [List.cons_append, startDigits?, if_neg fun hc => by simp [hskip hc.1] at hc]
    exact ih fun a d b hab => h (c :: a) d b (by rw [hab, List.cons_append])

theorem StartedHeader.startDigits?_text (h : StartedHeader) :
    startDigits? h.text = some (h.digits.filterMap Text.digitValue?) := by
  have hsome : (leadingDigits (h.digits ++ h.after)).isEmpty = false := by
    simpa using h.leadingDigits_digits_ne_nil
  rw [text, startDigits?_of_first h.first, startDigits?, if_pos ⟨rfl, hsome⟩, h.leadingDigits_digits]

/-- A line that has a start can be cut there. -/
theorem exists_cut_of_startDigits? {line : List Char} {values : List Nat} (h : startDigits? line = some values) :
    ∃ before digits after, line = before ++ '+' :: (digits ++ after) ∧
      (∀ a c b, before = a ++ '+' :: c :: b → Text.isDigit c = false) ∧ digits ≠ [] ∧
      (∀ c ∈ digits, Text.isDigit c = true) ∧ ∀ c ∈ after.head?, Text.isDigit c = false := by
  induction line with
  | nil => cases h
  | cons c cs ih =>
    rw [startDigits?] at h
    split at h
    · rename_i hc
      obtain ⟨rfl, hsome⟩ := hc
      refine ⟨[], cs.takeWhile Text.isDigit, cs.dropWhile Text.isDigit, by simp, by simp, ?_, ?_, ?_⟩
      · intro hnil
        simp [leadingDigits, hnil] at hsome
      · exact fun d hd => List.mem_takeWhile_imp hd
      · intro d hd
        have hhead := List.head?_dropWhile_not Text.isDigit cs
        rwa [Option.mem_def.1 hd] at hhead
    · rename_i hc
      obtain ⟨before, digits, after, rfl, hfirst, hne, hdigits, hwhole⟩ := ih h
      refine ⟨c :: before, digits, after, rfl, ?_, hne, hdigits, hwhole⟩
      intro a d b hab
      cases a with
      | nil =>
        obtain ⟨rfl, rfl⟩ := List.cons.inj hab
        exact Bool.eq_false_iff.2 fun hd => hc ⟨rfl, by simpa using leadingDigits_ne_nil hd _⟩
      | cons e a => exact hfirst a d b (List.cons.inj hab).2

/-- The mark that opens a header stands before the start. -/
theorem opens_of_append {before rest : List Char} (h : "@@".toList <+: before ++ '+' :: rest) :
    "@@".toList <+: before := by
  change ['@', '@'] <+: _ at h ⊢
  match before with
  | [] => simp [List.cons_prefix_cons] at h
  | [c] => simp [List.cons_prefix_cons] at h
  | c :: d :: before => simpa [List.cons_prefix_cons] using h

/-- A header has a start if and only if it can be cut at one. -/
theorem startDigits?_eq_none_iff {line : List Char} (hheader : isHeader line = true) :
    startDigits? line = none ↔ ∀ h : StartedHeader, h.text ≠ line := by
  constructor
  · rintro hnone h rfl
    rw [h.startDigits?_text] at hnone
    cases hnone
  · intro hno
    cases hs : startDigits? line with
    | none => rfl
    | some values =>
      obtain ⟨before, digits, after, rfl, hfirst, hne, hdigits, hwhole⟩ := exists_cut_of_startDigits? hs
      exact absurd rfl (hno ⟨before, digits, after, opens_of_append (isHeader_iff.1 hheader), hfirst, hne, hdigits,
        hwhole⟩)

/-! ## What a line does to the count -/

theorem StartedHeader.afterHeader_text (h : StartedHeader) (hshort : h.digits.length ≤ Text.numeralLimit)
    (current : Int) : afterHeader current h.text = .ok ((h.start : Int) - 1) := by
  rw [← h.length_values] at hshort
  rw [afterHeader, h.startDigits?_text]
  simp only [Text.readNumeral, if_neg (Nat.not_lt.2 hshort)]
  rfl

/-- A header with a start sets the count. -/
theorem StartedHeader.addedFrom_text (h : StartedHeader) (hshort : h.digits.length ≤ Text.numeralLimit) (current : Int)
    (rest : List (List Char)) : addedFrom current (h.text :: rest) = addedFrom ((h.start : Int) - 1) rest := by
  rw [addedFrom_header h.isHeader_text, h.afterHeader_text hshort]
  rfl

/-- A header without one leaves the count where it was. -/
theorem addedFrom_of_no_start {header : List Char} (hheader : isHeader header = true)
    (hno : ∀ h : StartedHeader, h.text ≠ header) (current : Int) (rest : List (List Char)) :
    addedFrom current (header :: rest) = addedFrom current rest := by
  rw [addedFrom_header hheader, afterHeader, (startDigits?_eq_none_iff hheader).2 hno]
  rfl

/-- A line that takes a number of the new file: an added one, one of the context, or an empty one. -/
def IsCounted (line : List Char) : Prop := line = [] ∨ line.head? = some ' ' ∨ line.head? = some '+'

instance : DecidablePred IsCounted := fun line =>
  inferInstanceAs (Decidable (line = [] ∨ line.head? = some ' ' ∨ line.head? = some '+'))

/-- How many of the lines take a number. -/
def counted (lines : List (List Char)) : Nat := lines.countP (IsCounted ·)

@[simp] theorem counted_append (ls ms : List (List Char)) : counted (ls ++ ms) = counted ls + counted ms :=
  List.countP_append

/-- What a line adds under the number `number`. -/
def addition (number : Int) : List Char → List NumberedLine
  | '+' :: content => [⟨number, content⟩]
  | _ => []

theorem addition_of_head {line : List Char} (h : line.head? ≠ some '+') (number : Int) : addition number line = [] := by
  unfold addition
  split
  · exact absurd rfl h
  · rfl

theorem isHeader_head {line : List Char} (h : isHeader line = true) : line.head? = some '@' := by
  obtain ⟨rest, rfl⟩ := isHeader_iff.1 h
  rfl

theorem addition_header {line : List Char} (h : isHeader line = true) (number : Int) : addition number line = [] :=
  addition_of_head (by simp [isHeader_head h]) number

theorem counted_header {line : List Char} (h : isHeader line = true) : counted [line] = 0 := by
  obtain ⟨rest, rfl⟩ := isHeader_iff.1 h
  rfl

theorem map_nil_append (x : Except Text.LongNumeral (List NumberedLine)) : x.map ([] ++ ·) = x := by
  cases x <;> rfl

/-- A line that opens no hunk moves the count by one if it takes a number, and adds itself if it is added. -/
theorem addedFrom_body {line : List Char} (h : isHeader line = false) (current : Int) (rest : List (List Char)) :
    addedFrom current (line :: rest) =
      (addedFrom (current + counted [line]) rest).map (addition (current + counted [line]) line ++ ·) := by
  have hno : ¬ isHeader line = true := by simp [h]
  match line with
  | [] => exact (if_neg hno).trans (map_nil_append _).symm
  | c :: content =>
    by_cases hplus : c = '+'
    · subst hplus
      exact if_neg hno
    · by_cases hspace : c = ' '
      · subst hspace
        exact (if_neg hno).trans (map_nil_append _).symm
      · have hcount : counted [c :: content] = 0 := by simp [counted, IsCounted, hplus, hspace]
        rw [hcount, addition_of_head (by simpa using hplus), map_nil_append, Int.natCast_zero, Int.add_zero, addedFrom,
          if_neg hno]
        · exact fun _ h => hplus (List.cons.inj h).1
        · exact fun _ h => hspace (List.cons.inj h).1
        · exact fun h => nomatch h

/-! ## Which patches are read -/

/-- A hunk header has a start that can be read, or none. -/
def ReadableHeader (header : List Char) : Prop :=
  ∀ digits ∈ startDigits? header, digits.length ≤ Text.numeralLimit

instance : DecidablePred ReadableHeader := fun header =>
  inferInstanceAs (Decidable (∀ digits ∈ startDigits? header, digits.length ≤ Text.numeralLimit))

/-- All hunk headers of a patch are readable. -/
def Readable (patch : List Char) : Prop := ∀ line ∈ Text.lines patch, isHeader line = true → ReadableHeader line

instance : DecidablePred Readable := fun patch =>
  inferInstanceAs (Decidable (∀ line ∈ Text.lines patch, isHeader line = true → ReadableHeader line))

theorem afterHeader_isOk_iff (current : Int) {header : List Char} :
    (∃ n, afterHeader current header = .ok n) ↔ ReadableHeader header := by
  unfold afterHeader ReadableHeader Text.readNumeral
  cases startDigits? header with
  | none => simp
  | some digits =>
    by_cases hlong : Text.numeralLimit < digits.length
    · simp [Except.map, hlong]
    · simp [Except.map, hlong]
      omega

theorem addedFrom_isOk_iff (current : Int) {lines : List (List Char)} :
    (∃ added, addedFrom current lines = .ok added) ↔ ∀ line ∈ lines, isHeader line = true → ReadableHeader line := by
  induction lines generalizing current with
  | nil => simp [addedFrom]
  | cons line rest ih =>
    rw [List.forall_mem_cons]
    cases hheader : isHeader line with
    | true =>
      rw [addedFrom_header hheader, ← afterHeader_isOk_iff current]
      cases afterHeader current line with
      | error e => simp [Except.bind]
      | ok n => simp [Except.bind, ih]
    | false =>
      rw [addedFrom_body hheader, ← ih (current + counted [line])]
      cases addedFrom (current + counted [line]) rest <;> simp [Except.map]

/-- No header stands before the first. -/
theorem mem_dropWhile_of_isHeader {lines : List (List Char)} {line : List Char} (h : isHeader line = true) :
    line ∈ lines.dropWhile (fun line => !isHeader line) ↔ line ∈ lines := by
  induction lines with
  | nil => rfl
  | cons first rest ih =>
    by_cases hfirst : isHeader first = true
    · simp [hfirst]
    · have hne : line ≠ first := by
        rintro rfl
        exact hfirst h
      simp [hfirst, ih, hne]

/-- **Which patches are read.** -/
theorem added_isOk_iff {patch : List Char} : (∃ added, Diff.added patch = .ok added) ↔ Readable patch := by
  rw [Diff.added, addedFrom_isOk_iff]
  unfold Readable
  constructor
  · exact fun h line hline hheader => h line ((mem_dropWhile_of_isHeader hheader).2 hline) hheader
  · exact fun h line hline hheader => h line ((mem_dropWhile_of_isHeader hheader).1 hline) hheader

/-- The starts of a patch are those at which its headers can be cut. -/
theorem readable_iff {patch : List Char} :
    Readable patch ↔ ∀ h : StartedHeader, h.text ∈ Text.lines patch → h.digits.length ≤ Text.numeralLimit := by
  constructor
  · intro hread h hline
    have := hread _ hline h.isHeader_text _ h.startDigits?_text
    rwa [h.length_values] at this
  · intro hshort line hline hheader values hvalues
    by_cases hstarted : ∃ h : StartedHeader, h.text = line
    · obtain ⟨h, rfl⟩ := hstarted
      rw [h.startDigits?_text, Option.mem_some_iff] at hvalues
      rw [← hvalues, h.length_values]
      exact hshort h hline
    · rw [(startDigits?_eq_none_iff hheader).2 (not_exists.1 hstarted)] at hvalues
      cases hvalues

end PullReview.Diff
