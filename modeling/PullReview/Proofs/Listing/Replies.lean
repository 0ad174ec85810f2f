import Mathlib.Data.List.Forall2
import PullReview.Listing.Pages

/-!
# What replies hold

A reply to a request is lost, or its content arrives, or it is odd and fails the client (`Reply.take_cases`). A reply
that arrives denies the request by its status or says a JSON value, if its content is one. `Reply.settle` is the way
from a reply to what is taken of that value, for tokens and for pages alike; `Reply.settle_cases` says all that can
become of it. A page is taken of a list of records, each of them a file, or of nothing at all (`pageOf_eq_ok_iff`).
-/

namespace PullReview.Listing

variable {request : Outgoing} {unreachable rejection : Rejection} {reply : Reply} {r taken : Response}
  {content : List UInt8} {room : Nat}

/-- The refusal that an error is, if it is one. -/
def Error.rejection? : Error → Option Rejection
  | .rejected rejection => some rejection
  | _ => none

theorem Error.rejection?_eq_some_iff {e : Error} : e.rejection? = some rejection ↔ e = .rejected rejection := by
  cases e <;> simp [rejection?]

/-- Whether a step never ends in a refusal. -/
def NeverRefuses (x : Except Error α) : Prop := ∀ rejection, x ≠ .error (.rejected rejection)

theorem neverRefuses_ok (a : α) : NeverRefuses (.ok a) := by
  rintro _ ⟨⟩

theorem NeverRefuses.bind {x : Except Error α} {next : α → Except Error β} (hx : NeverRefuses x)
    (hnext : ∀ a, NeverRefuses (next a)) : NeverRefuses (x >>= next) := by
  cases x with
  | error e =>
    intro rejection h
    cases h
    exact hx rejection rfl
  | ok a => exact hnext a

theorem NeverRefuses.rejection?_eq_none {x : Except Error α} (h : NeverRefuses x) {e : Error} (he : x = .error e) :
    e.rejection? = none := by
  rw [Option.eq_none_iff_forall_ne_some]
  intro rejection hsome
  exact h rejection (Error.rejection?_eq_some_iff.1 hsome ▸ he)

/-! ## Arriving -/

/-- The content of a response to a request arrives: its packings can be undone, and the address to which it refers, if
it does, could be asked for. -/
structure Response.Arrives (r : Response) (request : Outgoing) (content : List UInt8) : Prop where
  unpacked : r.content? = some content
  scheme : request.address.scheme ≠ []
  referral : ∀ location ∈ r.referral?, request.address.checkReferral location.toList = .ok ()

/-- A reply is lost: the network failed, its content is corrupt, or the address to which it refers cannot be read. -/
inductive Reply.IsLost (request : Outgoing) : Reply → Prop
  | unreachable : IsLost request .unreachable
  | corrupt {r : Response} (hcontent : r.content? = none) : IsLost request (.response r)
  | misreferred {r : Response} {content : List UInt8} {location : String} (hcontent : r.content? = some content)
      (hscheme : request.address.scheme ≠ []) (hlocation : r.referral? = some location)
      (hunreadable : request.address.checkReferral location.toList = .error .unreadable) :
      IsLost request (.response r)

theorem Reply.IsLost.take_eq (h : reply.IsLost request) (unreachable : Rejection) :
    reply.take request unreachable = .error (.rejected unreachable) := by
  cases h with
  | unreachable => rfl
  | corrupt hcontent => simp [take, hcontent]
  | misreferred hcontent hscheme hlocation hunreadable =>
    simp [take, hcontent, hscheme, Response.checkReferral, hlocation, hunreadable, Except.mapError, Except.map]

theorem Response.Arrives.take_eq (h : r.Arrives request content) (unreachable : Rejection) :
    (Reply.response r).take request unreachable = .ok { r with body := content } := by
  have hreferral : r.checkReferral request unreachable = .ok () := by
    unfold checkReferral
    cases hlocation : r.referral? with
    | none => rfl
    | some location => simp [h.referral location hlocation, Except.mapError]
  simp [Reply.take, h.unpacked, h.scheme, hreferral, Except.map]

/-- A reply is lost or arrives, or else it fails the client without a refusal. -/
theorem Reply.take_cases (request : Outgoing) (unreachable : Rejection) (reply : Reply) :
    reply.IsLost request ∨ (∃ r content, reply = .response r ∧ r.Arrives request content) ∨
      ∃ e : Error, e.rejection? = none ∧ reply.take request unreachable = .error e := by
  cases reply with
  | unreachable => exact .inl .unreachable
  | response r =>
    cases hcontent : r.content? with
    | none => exact .inl (.corrupt hcontent)
    | some content =>
      by_cases hscheme : request.address.scheme = []
      · exact .inr (.inr ⟨.relativeAddress, rfl, by simp [take, hcontent, hscheme]⟩)
      · -- What is left is the referral, if there is one.
        cases hlocation : r.referral? with
        | none => exact .inr (.inl ⟨r, content, rfl, hcontent, hscheme, by simp [hlocation]⟩)
        | some location =>
          cases hcheck : request.address.checkReferral location.toList with
          | ok _ => exact .inr (.inl ⟨r, content, rfl, hcontent, hscheme, by simpa [hlocation] using hcheck⟩)
          | error e =>
            have htake : (response r).take request unreachable = (r.checkReferral request unreachable).map fun () =>
                { r with body := content } := by simp [take, hcontent, hscheme]
            simp only [Response.checkReferral, hlocation, hcheck] at htake
            cases e with
            | unreadable => exact .inl (.misreferred hcontent hscheme hlocation hcheck)
            | unusable => exact .inr (.inr ⟨.unusableAddress, rfl, htake⟩)
            | unsendable => exact .inr (.inr ⟨.unusableHeader, rfl, htake⟩)
            | badHost fault => exact .inr (.inr ⟨.badHost fault, rfl, htake⟩)

/-! ## Settling -/

/-- The way from a reply to what is taken of the value that it says: a reply with status 400 or more is denied. -/
def Reply.settle (room : Nat) (unreachable : Rejection) (denial : Int → List (String × String) → Rejection)
    (take : Json → Except Error α) (request : Outgoing) (reply : Reply) : Except Error α := do
  let r ← reply.take request unreachable
  if 400 ≤ r.status then .error (.rejected (denial r.status r.headers))
  else take (← bodyValue room r.body)

/-- A reply says a JSON value, having a status below 400. There must be room for what the value nests. -/
inductive Reply.Says (room : Nat) (request : Outgoing) : Reply → Json → Prop
  | intro {r : Response} {content : List UInt8} {value : Json} (h : r.Arrives request content)
      (hstatus : r.status < 400) (hvalue : bodyValue room content = .ok value) : Says room request (.response r) value

/-- A reply refuses: it is lost, or it denies the request. -/
inductive Reply.Refuses (unreachable : Rejection) (denial : Int → List (String × String) → Rejection)
    (request : Outgoing) : Reply → Rejection → Prop
  | lost {reply : Reply} (h : reply.IsLost request) : Refuses unreachable denial request reply unreachable
  | denied {r : Response} {content : List UInt8} (h : r.Arrives request content) (hstatus : 400 ≤ r.status) :
      Refuses unreachable denial request (.response r) (denial r.status r.headers)

theorem bodyValue_cases (room : Nat) (content : List UInt8) :
    (∃ value, bodyValue room content = .ok value) ∨
      ∃ e : Error, e.rejection? = none ∧ bodyValue room content = .error e := by
  unfold bodyValue
  cases Json.ofBytes room content with
  | ok value => exact .inl ⟨value, rfl⟩
  | error e =>
    cases e with
    | undecodable => exact .inr ⟨_, rfl, rfl⟩
    | unreadable cause => cases cause <;> exact .inr ⟨_, rfl, rfl⟩

section Settle

variable {denial : Int → List (String × String) → Rejection} {take : Json → Except Error α} {value : Json}

theorem Reply.Says.settle_eq (h : reply.Says room request value) :
    reply.settle room unreachable denial take request = take value := by
  cases h with
  | intro harrives hstatus hvalue =>
    simp [settle, harrives.take_eq, Int.not_le.2 hstatus, hvalue, bind, Except.bind]

theorem Reply.Refuses.settle_eq (h : reply.Refuses unreachable denial request rejection) :
    reply.settle room unreachable denial take request = .error (.rejected rejection) := by
  cases h with
  | lost h => simp [settle, h.take_eq, bind, Except.bind]
  | denied h hstatus => simp [settle, h.take_eq, hstatus, bind, Except.bind]

/-- Something is taken of the value that a reply says, or the reply refuses, or else it fails the client without a
refusal. -/
theorem Reply.settle_cases (room : Nat) (unreachable : Rejection) (denial : Int → List (String × String) → Rejection)
    (htake : ∀ value, NeverRefuses (take value)) (request : Outgoing) (reply : Reply) :
    (∃ value a, reply.Says room request value ∧ take value = .ok a) ∨
      (∃ rejection, reply.Refuses unreachable denial request rejection) ∨
        ∃ e : Error, e.rejection? = none ∧ reply.settle room unreachable denial take request = .error e := by
  obtain hlost | ⟨r, content, rfl, harrives⟩ | ⟨e, hodd, he⟩ := reply.take_cases request unreachable
  · exact .inr (.inl ⟨unreachable, .lost hlost⟩)
  · by_cases hstatus : 400 ≤ r.status
    · exact .inr (.inl ⟨_, .denied harrives hstatus⟩)
    · obtain ⟨value, hvalue⟩ | ⟨e, hodd, he⟩ := bodyValue_cases room content
      · have hgives : (Reply.response r).Says room request value := .intro harrives (Int.not_le.1 hstatus) hvalue
        cases htaken : take value with
        | ok a => exact .inl ⟨value, a, hgives, htaken⟩
        | error e => exact .inr (.inr ⟨e, (htake value).rejection?_eq_none htaken, hgives.settle_eq.trans htaken⟩)
      · exact .inr (.inr ⟨e, hodd, by simp [settle, harrives.take_eq, hstatus, he, bind, Except.bind]⟩)
  · exact .inr (.inr ⟨e, hodd, by simp [settle, he, bind, Except.bind]⟩)

end Settle

/-! ## Pages -/

section Pages

variable {value element : Json} {elements : List Json} {file : ChangedFile} {files : List ChangedFile} {size : Nat}

theorem countOf_neverRefuses (value : Json) : NeverRefuses (countOf value) := by
  intro rejection h
  unfold countOf at h
  split at h
  case h_4 x _ => cases hx : x.truncate? <;> rw [hx] at h <;> cases h
  case h_5 s => cases hs : Text.readInteger s.visible <;> rw [hs] at h <;> cases h
  all_goals cases h

theorem fileOf_neverRefuses (element : Json) : NeverRefuses (fileOf element) := by
  unfold fileOf
  split
  · refine (countOf_neverRefuses _).bind fun additions => (countOf_neverRefuses _).bind fun deletions => ?_
    intro rejection h
    dsimp only at h
    split at h <;> cases h
  · rintro _ ⟨⟩

theorem filesOf_neverRefuses (elements : List Json) : NeverRefuses (filesOf elements) := by
  induction elements with
  | nil => exact neverRefuses_ok _
  | cons element elements ih =>
    exact (fileOf_neverRefuses element).bind fun file => ih.bind fun files => neverRefuses_ok _

theorem pageOf_neverRefuses (value : Json) : NeverRefuses (pageOf value) := by
  unfold pageOf
  split
  · exact (filesOf_neverRefuses _).bind fun files => neverRefuses_ok _
  · exact neverRefuses_ok _
  · rintro _ ⟨⟩
  · split
    · exact neverRefuses_ok _
    · rintro _ ⟨⟩
  · rintro _ ⟨⟩

theorem filesOf_eq_ok_iff :
    filesOf elements = .ok files ↔ List.Forall₂ (fun element file => fileOf element = .ok file) elements files := by
  induction elements generalizing files with
  | nil => simp [filesOf, eq_comm]
  | cons element elements ih =>
    constructor
    · intro h
      cases hfile : fileOf element with
      | error e =>
        rw [filesOf, hfile] at h
        cases h
      | ok file =>
        cases hmore : filesOf elements with
        | error e =>
          rw [filesOf, hfile, hmore] at h
          cases h
        | ok more =>
          rw [filesOf, hfile, hmore] at h
          cases h
          exact .cons hfile (ih.1 hmore)
    · rintro (_ | ⟨hfile, hmore⟩)
      rw [filesOf, hfile, ih.2 hmore]
      rfl

/-- What a page is taken of: a list of records, each of them a file, or an object or a text without anything in it. -/
inductive IsPage : Json → List ChangedFile → Nat → Prop
  | listing {elements : List Json} {files : List ChangedFile}
      (h : List.Forall₂ (fun element file => fileOf element = .ok file) elements files) :
      IsPage (.arr elements) files elements.length
  | emptyObject : IsPage (.obj []) [] 0
  | emptyText : IsPage (.str "") [] 0

theorem pageOf_eq_ok_iff : pageOf value = .ok (files, size) ↔ IsPage value files size := by
  constructor
  · intro h
    unfold pageOf at h
    split at h
    · rename_i elements
      cases hfiles : filesOf elements with
      | error e => rw [hfiles] at h; cases h
      | ok found =>
        rw [hfiles] at h
        cases h
        exact .listing (filesOf_eq_ok_iff.1 hfiles)
    · cases h
      exact .emptyObject
    · cases h
    · split at h
      · rename_i hempty
        cases h
        exact hempty ▸ .emptyText
      · cases h
    · cases h
  · rintro (hfiles | _ | _)
    · rw [pageOf, filesOf_eq_ok_iff.2 hfiles]
      rfl
    · rfl
    · rfl

end Pages

/-- A reply holds the files of a page, a list of records each of which is a file. -/
def Reply.Holds (room : Nat) (reply : Reply) (request : Outgoing) (files : List ChangedFile) : Prop :=
  ∃ elements, reply.Says room request (.arr elements) ∧
    List.Forall₂ (fun element file => fileOf element = .ok file) elements files

theorem pageOfReply_eq_settle (room : Nat) (target : Target) :
    pageOfReply room target = Reply.settle room listingUnreachable (refusal target) pageOf :=
  rfl

theorem Reply.Holds.pageOfReply_eq {files : List ChangedFile} (h : Holds room reply request files) (target : Target) :
    pageOfReply room target request reply = .ok (files, files.length) := by
  obtain ⟨elements, hgives, hfiles⟩ := h
  rw [pageOfReply_eq_settle, hgives.settle_eq, pageOf_eq_ok_iff, ← hfiles.length_eq]
  exact .listing hfiles

/-! ## Tokens -/

theorem tokenOf_eq_settle (room : Nat) (installation : Int) :
    tokenOf room installation =
      Reply.settle room tokenUnreachable (fun status _ => tokenRefused installation status) tokenIn :=
  rfl

theorem tokenIn_neverRefuses (value : Json) : NeverRefuses (tokenIn value) := by
  unfold tokenIn
  split
  · split
    · exact neverRefuses_ok _
    · rintro _ ⟨⟩
  · rintro _ ⟨⟩

theorem tokenIn_eq_ok_iff {value token : Json} :
    tokenIn value = .ok token ↔ ∃ m : Members, value = .obj m ∧ m.get? "token" = some token := by
  unfold tokenIn
  constructor
  · intro h
    split at h
    · rename_i m
      split at h
      · rename_i found hfound
        cases h
        exact ⟨m, rfl, hfound⟩
      · cases h
    · cases h
  · rintro ⟨m, rfl, htoken⟩
    simp only [htoken]

end PullReview.Listing
