import PullReview.Proofs.Text.Spelling
import PullReview.Rule.Basic

/-!
# What the rules recognise

Each rule against the form of code it is about. A form is said here by how a stretch of text is put together,
with no search: a call is a name, blanks and an opening parenthesis. The rules report exactly the lines that
hold a stretch of their form, wherever it stands (`rules_recognise`). The rule on loose equality is the one
that does not: it reports an operator only where the line has a character on either side of it
(`looseEquality_reports_inner`), and so misses it at both ends (`looseEquality_misses_ends`).
-/

namespace PullReview

open Text (Holds HoldsAtWordStart IsAlike IsBlanks Pattern Piece)
open Text.Pattern

/-! ## Forms -/

def IsQuote (c : Char) : Prop := c = '"' ∨ c = '\x27'

/-- What a secret goes by. -/
inductive Secret where
  | password | apiKey | secret | token
  deriving DecidableEq, Repr

namespace Secret

def all : List Secret := [password, apiKey, secret, token]

/-- The keyword of a secret. The two words of an API key may be joined by an underscore or a hyphen. -/
def IsKeyword : Secret → List Char → Prop
  | password, cs => IsAlike "password" cs
  | apiKey, cs => ∃ api joint key, cs = api ++ joint ++ key ∧ IsAlike "api" api ∧
    (joint = [] ∨ joint = ['_'] ∨ joint = ['-']) ∧ IsAlike "key" key
  | secret, cs => IsAlike "secret" cs
  | token, cs => IsAlike "token" cs

/-- A keyword that is set to a quoted text. The text is not empty, and its quotes need not be alike. -/
def IsSet (s : Secret) (cs : List Char) : Prop :=
  ∃ keyword blanks sign blanks' opening value closing,
    cs = keyword ++ blanks ++ [sign] ++ blanks' ++ [opening] ++ value ++ [closing] ∧ s.IsKeyword keyword ∧
    IsBlanks blanks ∧ (sign = '=' ∨ sign = ':') ∧ IsBlanks blanks' ∧ IsQuote opening ∧ value ≠ [] ∧
    (∀ c ∈ value, ¬ IsQuote c) ∧ IsQuote closing

end Secret

/-- One of the words that mark unfinished work. -/
def IsReminder (cs : List Char) : Prop := ∃ word ∈ ["todo", "fixme", "hack"], IsAlike word cs

/-- A name, and the parenthesis that opens its arguments. -/
def IsCall (name : String) (cs : List Char) : Prop := ∃ blanks, cs = name.toList ++ blanks ++ ['('] ∧ IsBlanks blanks

/-- The word `var`, and the first character of a name. -/
def IsVariable (cs : List Char) : Prop :=
  ∃ blanks c, cs = "var".toList ++ blanks ++ [c] ∧ blanks ≠ [] ∧ IsBlanks blanks ∧ Text.isWord c = true

/-- An exception clause without an exception. -/
def IsBareExcept (cs : List Char) : Prop := ∃ blanks, cs = "except".toList ++ blanks ++ [':'] ∧ IsBlanks blanks

/-- A call of one of the console's methods that write. -/
def IsConsoleCall (method : String) (cs : List Char) : Prop :=
  method ∈ ["log", "debug", "trace"] ∧ IsCall ("console." ++ method) cs

/-- The leftmost console call of the text is one of this method: it stands there, and no console call begins
before it. -/
def IsFirstConsoleCall (method : String) (text : List Char) : Prop :=
  ∃ before call after, text = before ++ (call ++ after) ∧ IsConsoleCall method call ∧
    ∀ other earlier call' after', text = earlier ++ (call' ++ after') → IsConsoleCall other call' →
      before.length ≤ earlier.length

/-- Two equals signs that are part of no longer operator: what stands next to them on either side, if anything
does, is no equals sign, and before them no exclamation mark. -/
structure LooseAt (before after text : List Char) : Prop where
  text_eq : text = before ++ '=' :: '=' :: after
  before_ne : ∀ c ∈ before.getLast?, c ≠ '=' ∧ c ≠ '!'
  after_ne : ∀ c ∈ after.head?, c ≠ '='

theorem IsFirstConsoleCall.holds {method : String} {text : List Char} (h : IsFirstConsoleCall method text) :
    Holds (IsConsoleCall method) text := by
  obtain ⟨before, call, after, heq, hcall, -⟩ := h
  exact ⟨before, call, after, heq, hcall⟩

/-- Calls of two methods never begin at one place. -/
theorem IsConsoleCall.method_unique {method other : String} {call call' after after' : List Char}
    (h : IsConsoleCall method call) (h' : IsConsoleCall other call') (heq : call ++ after = call' ++ after') :
    method = other := by
  obtain ⟨hmethod, blanks, rfl, -⟩ := h
  obtain ⟨hother, blanks', rfl, -⟩ := h'
  simp only [String.toList_append, List.append_assoc, List.append_cancel_left_eq] at heq
  have hhead := congrArg List.head? heq
  simp only [List.mem_cons, List.not_mem_nil, or_false] at hmethod hother
  rcases hmethod with rfl | rfl | rfl <;> rcases hother with rfl | rfl | rfl <;> first | rfl | simp at hhead

theorem IsFirstConsoleCall.unique {method other : String} {text : List Char} (h : IsFirstConsoleCall method text)
    (h' : IsFirstConsoleCall other text) : method = other := by
  obtain ⟨before, call, after, rfl, hcall, hfirst⟩ := h
  obtain ⟨before', call', after', heq, hcall', hfirst'⟩ := h'
  have hlength := Nat.le_antisymm (hfirst _ _ _ _ heq hcall') (hfirst' _ _ _ _ rfl hcall)
  exact hcall.method_unique hcall' (List.append_inj heq hlength).2

/-! ## Shapes spell forms -/

namespace Shape

variable {cs : List Char}

theorem spells_quote_cons {pieces : List Piece} :
    Spells (quote :: pieces) cs ↔ ∃ c rest, cs = c :: rest ∧ IsQuote c ∧ Spells pieces rest := by
  simp [quote, Piece.oneOf, spells_once, IsQuote]

/-- The pieces of a secret's keyword. -/
def keyword : Secret → List Piece
  | .password => Piece.anyCase "password"
  | .apiKey => Piece.anyCase "api" ++ [(Piece.oneOf ['_', '-']).optional] ++ Piece.anyCase "key"
  | .secret => Piece.anyCase "secret"
  | .token => Piece.anyCase "token"

theorem secrets_eq : secrets = Secret.all.map fun s => assigned (keyword s) := rfl

theorem spells_keyword (s : Secret) : Spells (keyword s) cs ↔ s.IsKeyword cs := by
  cases s with
  | password | secret | token => exact spells_anyCase
  | apiKey =>
    rw [keyword, List.append_assoc, spells_append]
    simp only [spells_anyCase, Piece.oneOf, List.singleton_append, spells_optional]
    constructor
    · rintro ⟨api, _, rfl, hapi, hkey | ⟨c, key, rfl, hc, hkey⟩⟩
      · exact ⟨api, [], _, by simp, hapi, .inl rfl, hkey⟩
      · exact ⟨api, [c], key, by simp, hapi, .inr (by simpa using hc), hkey⟩
    · rintro ⟨api, joint, key, rfl, hapi, hjoint, hkey⟩
      rw [List.append_assoc]
      refine ⟨api, _, rfl, hapi, ?_⟩
      rcases hjoint with rfl | rfl | rfl
      · exact .inl hkey
      · exact .inr ⟨_, key, rfl, rfl, hkey⟩
      · exact .inr ⟨_, key, rfl, rfl, hkey⟩

theorem spells_quotedText : Spells quotedText cs ↔
    ∃ opening value closing, cs = opening :: (value ++ [closing]) ∧ IsQuote opening ∧ value ≠ [] ∧
      (∀ c ∈ value, ¬ IsQuote c) ∧ IsQuote closing := by
  have hvalue (value : List Char) :
      (∀ c ∈ value, (!(['"', '\x27'].contains c)) = true) ↔ ∀ c ∈ value, ¬ IsQuote c := by
    simp [IsQuote]
  rw [quotedText, spells_quote_cons]
  simp only [Piece.noneOf, spells_some, spells_quote_cons, spells_nil, hvalue]
  constructor
  · rintro ⟨opening, _, rfl, hopening, value, _, rfl, hne, hvalue, closing, _, rfl, hclosing, rfl⟩
    exact ⟨opening, value, closing, rfl, hopening, hne, hvalue, hclosing⟩
  · rintro ⟨opening, value, closing, rfl, hopening, hne, hvalue, hclosing⟩
    exact ⟨opening, _, rfl, hopening, value, _, rfl, hne, hvalue, closing, [], rfl, hclosing, rfl⟩

theorem spells_assigned (s : Secret) : Spells (assigned (keyword s)).pieces cs ↔ s.IsSet cs := by
  rw [assigned, List.append_assoc, spells_append]
  simp only [spells_keyword, List.cons_append, List.nil_append, spells_blanks, Piece.oneOf, spells_once,
    spells_quotedText]
  constructor
  · rintro ⟨keyword, _, rfl, hkeyword, blanks, _, rfl, hblanks, sign, _, rfl, hsign, blanks', _, rfl, hblanks',
      opening, value, closing, rfl, hopening, hne, hvalue, hclosing⟩
    exact ⟨keyword, blanks, sign, blanks', opening, value, closing, by simp, hkeyword, hblanks, by simpa using hsign,
      hblanks', hopening, hne, hvalue, hclosing⟩
  · rintro ⟨keyword, blanks, sign, blanks', opening, value, closing, rfl, hkeyword, hblanks, hsign, hblanks', hopening,
      hne, hvalue, hclosing⟩
    exact ⟨keyword, _, by simp, hkeyword, blanks, _, rfl, hblanks, sign, _, rfl, by simpa using hsign, blanks', _, rfl,
      hblanks', opening, value, closing, rfl, hopening, hne, hvalue, hclosing⟩

/-- A word, blanks and one more character. -/
theorem spells_word_blanks {word : String} {accepts : Char → Bool} :
    Spells (Piece.word word ++ [.blanks, ({ accepts } : Piece)]) cs ↔
      ∃ blanks c, cs = word.toList ++ blanks ++ [c] ∧ IsBlanks blanks ∧ accepts c = true := by
  rw [spells_append]
  simp only [spells_word, spells_blanks, spells_once, spells_nil]
  constructor
  · rintro ⟨_, _, rfl, rfl, blanks, _, rfl, hblanks, c, _, rfl, hc, rfl⟩
    exact ⟨blanks, c, by simp, hblanks, hc⟩
  · rintro ⟨blanks, c, rfl, hblanks, hc⟩
    exact ⟨_, _, List.append_assoc .., rfl, blanks, _, rfl, hblanks, c, [], rfl, hc, rfl⟩

theorem spells_call {name : String} : Spells (Piece.word name ++ [.blanks, .char '(']) cs ↔ IsCall name cs := by
  rw [Piece.char, spells_word_blanks]
  simp [IsCall, and_comm]

theorem spells_bareExcept : Spells bareExcept.pieces cs ↔ IsBareExcept cs := by
  rw [bareExcept, Piece.char, spells_word_blanks]
  simp [IsBareExcept, and_comm]

theorem spells_varDeclaration : Spells varDeclaration.pieces cs ↔ IsVariable cs := by
  rw [varDeclaration, spells_append]
  simp only [spells_word, spells_some, spells_once, spells_nil]
  constructor
  · rintro ⟨_, _, rfl, rfl, blanks, _, rfl, hne, hblanks, c, _, rfl, hc, rfl⟩
    exact ⟨blanks, c, by simp, hne, hblanks, hc⟩
  · rintro ⟨blanks, c, rfl, hne, hblanks, hc⟩
    exact ⟨_, _, List.append_assoc .., rfl, blanks, _, rfl, hne, hblanks, c, [], rfl, hc, rfl⟩

theorem spells_looseEquality : Spells looseEquality.pieces cs ↔
    ∃ l r, cs = [l, '=', '=', r] ∧ (l ≠ '=' ∧ l ≠ '!') ∧ r ≠ '=' := by
  simp only [looseEquality, Piece.noneOf, Piece.char, spells_once, spells_nil]
  constructor
  · rintro ⟨l, _, rfl, hl, c, _, rfl, hc, d, _, rfl, hd, r, _, rfl, hr, rfl⟩
    rw [eq_of_beq hc, eq_of_beq hd]
    exact ⟨l, r, rfl, by simpa using hl, by simpa using hr⟩
  · rintro ⟨l, r, rfl, hl, hr⟩
    exact ⟨l, _, rfl, by simpa using hl, '=', _, rfl, rfl, '=', _, rfl, rfl, r, [], rfl, by simpa using hr, rfl⟩

theorem exists_occursIn_reminders {text : List Char} :
    (∃ p ∈ reminders, p.occursIn text = true) ↔ Holds IsReminder text := by
  have hoccurs (word : String) : ({ pieces := Piece.anyCase word } : Pattern).occursIn text = true ↔
      Holds (IsAlike word) text := occursIn_iff_holds rfl fun _ => spells_anyCase
  constructor
  · rintro ⟨p, hp, hfound⟩
    obtain ⟨word, hword, rfl⟩ := List.mem_map.1 hp
    obtain ⟨before, stretch, after, heq, halike⟩ := (hoccurs word).1 hfound
    exact ⟨before, stretch, after, heq, word, hword, halike⟩
  · rintro ⟨before, stretch, after, heq, word, hword, halike⟩
    exact ⟨_, List.mem_map.2 ⟨word, hword, rfl⟩, (hoccurs word).2 ⟨before, stretch, after, heq, halike⟩⟩

theorem mem_consoleCalls {method : String} {p : Pattern} (h : (method, p) ∈ consoleCalls) :
    method ∈ consoleMethods ∧ p = { pieces := Piece.word ("console." ++ method) ++ [.blanks, .char '('] } := by
  obtain ⟨method, hmethod, heq⟩ := List.mem_map.1 h
  cases heq
  exact ⟨hmethod, by simp [Piece.word, String.toList_append]⟩

/-- What stands at a place is a call of the method that is found there. -/
theorem call_of_standing {method : String} {before : Option Char}
    (h : standing consoleCalls before cs = some method) :
    ∃ call after, cs = call ++ after ∧ IsConsoleCall method call := by
  obtain ⟨p, hp, -, call, after, rfl, hspells⟩ := standing_eq_some h
  obtain ⟨hmethod, rfl⟩ := mem_consoleCalls hp
  exact ⟨call, after, rfl, hmethod, spells_call.1 hspells⟩

theorem standing_of_call {method : String} {call : List Char} (before : Option Char) (h : IsConsoleCall method call)
    (after : List Char) : (standing consoleCalls before (call ++ after)).isSome = true := by
  refine standing_isSome_iff.2 ⟨(method, _), List.mem_map.2 ⟨method, h.1, rfl⟩, rfl, call, after, rfl, ?_⟩
  have hspells := spells_call.2 h.2
  rwa [Piece.word, String.toList_append, List.map_append] at hspells

theorem leftmost_isSome_of_holds {method : String} (h : Holds (IsConsoleCall method) cs) :
    (leftmost consoleCalls none cs).isSome = true := by
  obtain ⟨before, call, after, rfl, hcall⟩ := h
  exact leftmost_isSome_iff.2 ⟨before, call ++ after, rfl, standing_of_call _ hcall after⟩

theorem firstConsoleCall_of_leftmost {method : String} (h : leftmost consoleCalls none cs = some method) :
    IsFirstConsoleCall method cs := by
  obtain ⟨before, rest, rfl, hstands, hearlier⟩ := leftmost_eq_some h
  obtain ⟨call, after, rfl, hcall⟩ := call_of_standing hstands
  refine ⟨before, call, after, rfl, hcall, fun other earlier call' after' heq hcall' => ?_⟩
  refine Nat.le_of_not_lt fun hlt => ?_
  have hsome := standing_of_call (earlier.getLast?.or none) hcall' after'
  rw [hearlier earlier _ heq hlt] at hsome
  cases hsome

theorem leftmost_eq_some_iff {method : String} :
    leftmost consoleCalls none cs = some method ↔ IsFirstConsoleCall method cs := by
  refine ⟨firstConsoleCall_of_leftmost, fun h => ?_⟩
  obtain ⟨found, hfound⟩ := Option.isSome_iff_exists.1 (leftmost_isSome_of_holds h.holds)
  rw [hfound, (firstConsoleCall_of_leftmost hfound).unique h]

theorem leftmost_eq_none_iff :
    leftmost consoleCalls none cs = none ↔ ∀ method, ¬ Holds (IsConsoleCall method) cs := by
  constructor
  · intro hnone method hholds
    have hsome := leftmost_isSome_of_holds hholds
    rw [hnone] at hsome
    cases hsome
  · intro hno
    cases hfound : leftmost consoleCalls none cs with
    | none => rfl
    | some method => exact absurd (firstConsoleCall_of_leftmost hfound).holds (hno method)

end Shape

/-! ## Reports -/

namespace Rule

/-- The rule reports the line, with one issue, exactly where `p` holds. -/
def Reports (rule : Rule) (line : Int) (text : List Char) (p : Prop) : Prop :=
  (p → rule.check line text = [rule.issue line]) ∧ (¬ p → rule.check line text = [])

variable {rule : Rule} {line : Int} {text : List Char}

theorem reports_of_any {patterns : List Pattern} {p : Prop}
    (hcheck : rule.check line text = rule.reportAny patterns line text)
    (hp : (∃ q ∈ patterns, q.occursIn text = true) ↔ p) : rule.Reports line text p := by
  have hany : patterns.any (·.occursIn text) = true ↔ p := List.any_eq_true.trans hp
  rw [Reports, hcheck, reportAny]
  exact ⟨fun h => if_pos (hany.2 h), fun h => if_neg fun hc => h (hany.1 hc)⟩

theorem reports_of_one {pattern : Pattern} {p : Prop}
    (hcheck : rule.check line text = rule.reportAny [pattern] line text)
    (hp : pattern.occursIn text = true ↔ p) : rule.Reports line text p :=
  reports_of_any hcheck (by simpa using hp)

/-- The keywords of the issues found are those that the text sets, each once. -/
theorem credential_check (line : Int) (text : List Char) : ∃ found : List Secret, found.Nodup ∧
    (∀ s, s ∈ found ↔ Holds s.IsSet text) ∧ credential.check line text = found.map fun _ => credential.issue line := by
  have hoccurs (s : Secret) : (Shape.assigned (Shape.keyword s)).occursIn text = true ↔ Holds s.IsSet text :=
    Text.Pattern.occursIn_iff_holds rfl fun _ => Shape.spells_assigned s
  refine ⟨Secret.all.filter fun s => (Shape.assigned (Shape.keyword s)).occursIn text, ?_, fun s => ?_, ?_⟩
  · exact List.Pairwise.filter _ (by decide : Secret.all.Nodup)
  · rw [List.mem_filter, hoccurs]
    exact and_iff_right (by cases s <;> decide)
  · rw [check, Shape.secrets_eq, List.filter_map, List.map_map]
    rfl

/-- The method of the issue found is that of the leftmost call. -/
theorem consoleCall_check (line : Int) (text : List Char) : ∃ found : Option String,
    (∀ method, found = some method ↔ IsFirstConsoleCall method text) ∧
    (found = none ↔ ∀ method, ¬ Holds (IsConsoleCall method) text) ∧
    consoleCall.check line text = found.toList.map fun method => consoleCall.issue line method := by
  refine ⟨leftmost Shape.consoleCalls none text, fun _ => Shape.leftmost_eq_some_iff, Shape.leftmost_eq_none_iff, ?_⟩
  rw [check]
  cases leftmost Shape.consoleCalls none text <;> rfl

end Rule

/-- **What the rules recognise.** Every rule but the one on loose equality reports exactly the lines that hold
its form. Credentials are reported once for each keyword that is set, and a console call under the method of the
leftmost one. -/
theorem rules_recognise (line : Int) (text : List Char) :
    (∃ found : List Secret, found.Nodup ∧ (∀ s, s ∈ found ↔ Holds s.IsSet text) ∧
      Rule.credential.check line text = found.map fun _ => Rule.credential.issue line) ∧
    Rule.reminder.Reports line text (Holds IsReminder text) ∧
    (∃ found : Option String, (∀ method, found = some method ↔ IsFirstConsoleCall method text) ∧
      (found = none ↔ ∀ method, ¬ Holds (IsConsoleCall method) text) ∧
      Rule.consoleCall.check line text = found.toList.map fun method => Rule.consoleCall.issue line method) ∧
    Rule.evalCall.Reports line text (HoldsAtWordStart (IsCall "eval") text) ∧
    Rule.printCall.Reports line text (HoldsAtWordStart (IsCall "print") text) ∧
    Rule.varDeclaration.Reports line text (HoldsAtWordStart IsVariable text) ∧
    Rule.bareExcept.Reports line text (HoldsAtWordStart IsBareExcept text) := by
  refine ⟨Rule.credential_check line text, Rule.reports_of_any rfl Shape.exists_occursIn_reminders,
    Rule.consoleCall_check line text, ?_, ?_, ?_, ?_⟩
  · exact Rule.reports_of_one rfl (occursIn_iff_holdsAtWordStart rfl fun _ => Shape.spells_call)
  · exact Rule.reports_of_one rfl (occursIn_iff_holdsAtWordStart rfl fun _ => Shape.spells_call)
  · exact Rule.reports_of_one rfl (occursIn_iff_holdsAtWordStart rfl fun _ => Shape.spells_varDeclaration)
  · exact Rule.reports_of_one rfl (occursIn_iff_holdsAtWordStart rfl fun _ => Shape.spells_bareExcept)

/-! A keyword that is set to another keyword is set to no text: the line is reported once, for the second. -/

example : Rule.credential.check 1 "api_key = token = 'x'".toList = [Rule.credential.issue 1] := by decide +kernel

/-! ## Loose equality -/

/-- **Loose equality.** The operator is reported where the line has a character before it and one after it, and
nowhere else. -/
theorem looseEquality_reports_inner (line : Int) (text : List Char) :
    Rule.looseEquality.Reports line text (∃ before after, LooseAt before after text ∧ before ≠ [] ∧ after ≠ []) := by
  refine Rule.reports_of_one rfl
    ((occursIn_iff_holds rfl fun _ => Shape.spells_looseEquality).trans ⟨?_, ?_⟩)
  · rintro ⟨before, _, after, rfl, l, r, rfl, hl, hr⟩
    exact ⟨before ++ [l], r :: after, ⟨by simp, by simpa using hl, by simpa using hr⟩, by simp, by simp⟩
  · rintro ⟨before, after, h, hbefore, hafter⟩
    obtain ⟨before, l, rfl⟩ := (List.eq_nil_or_concat before).resolve_left hbefore
    obtain ⟨r, after, rfl⟩ := List.exists_cons_of_ne_nil hafter
    exact ⟨before, [l, '=', '=', r], after, by simp [h.text_eq], l, r, rfl, h.before_ne l (by simp),
      h.after_ne r (by simp)⟩

/-- At the beginning of a line and at its end the operator is not seen. -/
theorem looseEquality_misses_ends :
    (LooseAt [] " b".toList "== b".toList ∧ Rule.looseEquality.check 1 "== b".toList = []) ∧
      LooseAt "a ".toList [] "a ==".toList ∧ Rule.looseEquality.check 1 "a ==".toList = [] := by
  constructor
  · exact ⟨⟨rfl, by simp, by simp⟩, rfl⟩
  · exact ⟨⟨rfl, by simp, by simp⟩, rfl⟩

end PullReview
