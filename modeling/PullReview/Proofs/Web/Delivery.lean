import PullReview.Proofs.Event.Reading
import PullReview.Web.Site
import PullReview.Json.Printer

/-!
# Answers to deliveries

What a request to the webhook is answered and what it changes. Whether a request carries the signature of
its body, whether its payload has a topic that is handled, and which answer it is due are said apart from
the order in which a delivery is checked. A request that is not accepted leaves the site as it is, and an
accepted one leaves what the handling of its event makes of it (`Site.delivery_effect`); every request is
given the answer it is due unless it breaks the check of its signature or of its action
(`Site.delivery_answered`).
-/

namespace PullReview

/-! ## Signatures -/

namespace Bytes

theorem isAscii_hexDigit {n : Nat} (h : n < 16) : Text.isAscii (hexDigit n) = true := by
  revert n
  decide

theorem isAscii_of_mem_toHex {bytes : List UInt8} {c : Char} (h : c ∈ toHex bytes) :
    Text.isAscii c = true := by
  obtain ⟨b, -, hc⟩ := List.mem_flatMap.1 h
  have hb := b.toNat_lt
  simp only [List.mem_cons, List.not_mem_nil, or_false] at hc
  rcases hc with rfl | rfl
  · exact isAscii_hexDigit (by omega)
  · exact isAscii_hexDigit (by omega)

end Bytes

section

variable {secret signature : String} {payload : List UInt8}

theorem toList_signatureOf (secret : String) (payload : List UInt8) :
    (signatureOf secret payload).toList =
      "sha256=".toList ++ Bytes.toHex (Bytes.Hmac.code secret.toUTF8.toList payload) := by
  simp only [signatureOf, String.toList_append, String.toList_ofList]

theorem signatureOf_ne_empty : signatureOf secret payload ≠ "" := by
  intro h
  have := toList_signatureOf secret payload
  rw [h] at this
  cases this

theorem all_isAscii_signatureOf : (signatureOf secret payload).toList.all Text.isAscii = true := by
  rw [toList_signatureOf, List.all_append, Bool.and_eq_true]
  exact ⟨by decide, List.all_eq_true.2 fun c hc => Bytes.isAscii_of_mem_toHex hc⟩

theorem verify_eq_accepted_iff :
    verify secret payload signature = .accepted ↔ secret = "" ∨ signature = signatureOf secret payload := by
  unfold verify
  by_cases hs : secret = ""
  · simp [hs]
  · by_cases hsig : signature = signatureOf secret payload
    · subst hsig
      simp [hs, signatureOf_ne_empty, all_isAscii_signatureOf]
    · grind

theorem verify_eq_incomparable_iff :
    verify secret payload signature = .incomparable ↔
      secret ≠ "" ∧ ∃ c ∈ signature.toList, Text.isAscii c = false := by
  unfold verify
  by_cases hs : secret = ""
  · simp [hs]
  · by_cases hsig : signature = ""
    · simp [hs, hsig]
    · by_cases ha : signature.toList.all Text.isAscii = true
      · have hnone : ¬ ∃ c ∈ signature.toList, Text.isAscii c = false := by
          rintro ⟨c, hc, hfalse⟩
          rw [List.all_eq_true.1 ha c hc] at hfalse
          cases hfalse
        grind
      · simp only [Bool.not_eq_true] at ha
        simpa [hs, hsig, ha] using List.all_eq_false.1 ha

end

/-! ## What a delivery is due -/

namespace Web

/-- Whether a request is for the webhook. -/
structure Incoming.IsDelivery (i : Incoming) : Prop where
  method : i.method = "POST"
  endpoint : Endpoint.ofPath? i.path = some .webhook

/-- Whether the body of a request nests deeper than can be read. -/
def Incoming.IsTooDeep (room : Nat) (i : Incoming) : Prop := Json.ofBytes room i.body = .error (.unreadable .tooDeep)

namespace Delivery

/-- Whether a request carries the signature of its body, if one is asked for. -/
def IsSigned (secret : String) (i : Incoming) : Prop :=
  secret = "" ∨ i.header? "x-hub-signature-256" = some (signatureOf secret i.body)

/-- Whether a request brings a payload that is to be read. -/
structure Brings (room : Nat) (secret : String) (i : Incoming) (payload : Json) : Prop where
  signed : IsSigned secret i
  name_ne : eventName i ≠ "ping"
  body : Json.ofBytes room i.body = .ok payload

/-- The answers that a request is due. -/
inductive IsDue (room : Nat) (secret : String) (i : Incoming) : Answer → Prop
  | unsigned (hs : ¬ IsSigned secret i) : IsDue room secret i badSignature
  | ping (hs : IsSigned secret i) (hn : eventName i = "ping") : IsDue room secret i (statusOnly "pong")
  | unreadable {cause : Json.BytesError} (hs : IsSigned secret i) (hn : eventName i ≠ "ping")
      (hb : Json.ofBytes room i.body = .error cause) (hc : cause ≠ .unreadable .tooDeep) : IsDue room secret i badBody
  | unhandled {payload : Json} (hp : Brings room secret i payload)
      (ht : ∀ t : Topic, ¬ t.IsOf (eventName i) payload) : IsDue room secret i (statusOnly "ignored")
  | invalid {payload : Json} {m : Members} {t : Topic} {refusals : List Refusal} (hp : Brings room secret i payload)
      (hm : payload.members? = some m) (ht : t.IsOf (eventName i) payload)
      (h : Event.ofMembers m t = .refused refusals) : IsDue room secret i (badPayload t.event)
  | accepted {payload : Json} {m : Members} {t : Topic} {event : Event} (hp : Brings room secret i payload)
      (hm : payload.members? = some m) (ht : t.IsOf (eventName i) payload)
      (h : Event.ofMembers m t = .ok event) : IsDue room secret i (acceptance event)

/-- What a request breaks the webhook with: a character beyond ASCII in a signature that is to be
checked, a body that is to be read and nests too deep for it, or an action that is a list or an object
with something in it. -/
inductive Breaks (room : Nat) (secret : String) (i : Incoming) : Prop
  | signature {signature : String} {c : Char} (hs : secret ≠ "")
      (hh : i.header? "x-hub-signature-256" = some signature) (hc : c ∈ signature.toList)
      (ha : Text.isAscii c = false)
  | depth (hs : IsSigned secret i) (hn : eventName i ≠ "ping") (hd : i.IsTooDeep room)
  | action {payload action : Json} (hp : Brings room secret i payload) (ha : payload.action? = some action)
      (h : action.IsFilled)

/-- The answer to a delivery, or its crash. -/
def outcome : Delivery → Except Crash Answer
  | settled answer => .ok answer
  | accepted event => .ok (acceptance event)
  | crashed crash => .error crash

variable {room : Nat} {secret : String} {i : Incoming} {payload : Json} {event : Event} {answer : Answer}

theorem IsDue.status_mem (h : IsDue room secret i answer) : answer.status ∈ [200, 202, 400, 401] := by
  cases h <;> simp [badSignature, statusOnly, badBody, badPayload, acceptance, Answer.ofCode, Answer.ofJson]

/-- Every request is due an answer, unless its body nests deeper than can be read. -/
theorem exists_isDue (secret : String) (hdeep : ¬ i.IsTooDeep room) : ∃ answer, IsDue room secret i answer := by
  by_cases hs : IsSigned secret i
  · by_cases hn : eventName i = "ping"
    · exact ⟨_, .ping hs hn⟩
    · cases hb : Json.ofBytes room i.body with
      | error cause => exact ⟨_, .unreadable hs hn hb fun hcause => hdeep (hb.trans (congrArg _ hcause))⟩
      | ok payload =>
        have hp : Brings room secret i payload := ⟨hs, hn, hb⟩
        have hreads := Event.reads_read (eventName i) payload
        generalize Event.read (eventName i) payload = r at hreads
        cases hreads with
        | event hm ht h => exact ⟨_, .accepted hp hm ht h⟩
        | refused hm ht h => exact ⟨_, .invalid hp hm ht h⟩
        | unusableAction ha h => exact ⟨_, .unhandled hp fun t ht => ht.not_isFilled ha h⟩
        | ignored ht ha => exact ⟨_, .unhandled hp ht⟩
  · exact ⟨_, .unsigned hs⟩

/-- A request that breaks the webhook, and not by its depth, is due to be turned away for its signature, or else to be
ignored. -/
theorem Breaks.isDue (h : Breaks room secret i) (hdeep : ¬ i.IsTooDeep room) :
    ¬ IsSigned secret i ∧ IsDue room secret i badSignature ∨
      IsSigned secret i ∧ IsDue room secret i (statusOnly "ignored") := by
  cases h with
  | @signature signature c hs hh hc ha =>
    have hsigned : ¬ IsSigned secret i := by
      rintro (h | h)
      · exact hs h
      · cases hh.symm.trans h
        rw [List.all_eq_true.1 all_isAscii_signatureOf c hc] at ha
        cases ha
    exact .inl ⟨hsigned, .unsigned hsigned⟩
  | depth hs hn hd => exact absurd hd hdeep
  | action hp ha h => exact .inr ⟨hp.signed, .unhandled hp fun t ht => ht.not_isFilled ha h⟩

/-! ## What becomes of a delivery -/

theorem isSigned_iff :
    IsSigned secret i ↔ secret = "" ∨ (i.header? "x-hub-signature-256").getD "" = signatureOf secret i.body := by
  unfold IsSigned
  cases i.header? "x-hub-signature-256" with
  | none => simp [signatureOf_ne_empty.symm]
  | some signature => simp

theorem IsSigned.ofIncoming_eq (hs : IsSigned secret i) :
    ofIncoming room secret i = ofBody room (eventName i) i.body := by
  unfold ofIncoming
  rw [verify_eq_accepted_iff.2 (isSigned_iff.1 hs)]

theorem ofIncoming_of_not_isSigned (hs : ¬ IsSigned secret i) :
    ofIncoming room secret i = settled badSignature ∨
      ofIncoming room secret i = crashed .incomparableSignature ∧ Breaks room secret i := by
  unfold ofIncoming
  cases h : verify secret i.body ((i.header? "x-hub-signature-256").getD "") with
  | accepted => exact absurd (isSigned_iff.2 (verify_eq_accepted_iff.1 h)) hs
  | rejected => exact .inl rfl
  | incomparable =>
    obtain ⟨hsecret, c, hc, ha⟩ := verify_eq_incomparable_iff.1 h
    cases hh : i.header? "x-hub-signature-256" with
    | none => simp [hh] at hc
    | some signature => exact .inr ⟨rfl, .signature hsecret hh (by simpa [hh] using hc) ha⟩

theorem Brings.ofIncoming_eq (hp : Brings room secret i payload) :
    ofIncoming room secret i = ofPayload (eventName i) payload := by
  rw [hp.signed.ofIncoming_eq, ofBody, if_neg hp.name_ne, hp.body]

/-- A request that breaks the webhook crashes. -/
theorem Breaks.ofIncoming_eq (h : Breaks room secret i) : ∃ crash, ofIncoming room secret i = crashed crash := by
  cases h with
  | signature hs hh hc ha =>
    have hverify : verify secret i.body ((i.header? "x-hub-signature-256").getD "") = .incomparable :=
      verify_eq_incomparable_iff.2 ⟨hs, _, by simpa [hh] using hc, ha⟩
    exact ⟨.incomparableSignature, by rw [ofIncoming, hverify]⟩
  | depth hs hn hd =>
    have hbody : Json.ofBytes room i.body = .error (.unreadable .tooDeep) := hd
    exact ⟨.deepBody, by rw [hs.ofIncoming_eq, ofBody, if_neg hn, hbody]⟩
  | action hp ha h =>
    have hread : Event.read (eventName i) _ = .unusableAction := Event.reads_iff.1 (.unusableAction ha h)
    exact ⟨.unusableAction, by rw [hp.ofIncoming_eq, ofPayload, hread]⟩

/-- A request that does not break the webhook is given the answer it is due. -/
theorem IsDue.outcome_eq (h : IsDue room secret i answer) (hb : ¬ Breaks room secret i) :
    (ofIncoming room secret i).outcome = .ok answer := by
  cases h with
  | unsigned hs =>
    rcases ofIncoming_of_not_isSigned hs with h | ⟨-, h⟩
    · rw [h, outcome]
    · exact absurd h hb
  | ping hs hn => rw [hs.ofIncoming_eq, ofBody, if_pos hn, outcome]
  | @unreadable cause hs hn hbody hcause =>
    have hsettled : ofBody room (eventName i) i.body = settled badBody := by
      rw [ofBody, if_neg hn, hbody]
      cases cause with
      | undecodable => rfl
      | unreadable cause => cases cause <;> first | rfl | exact absurd rfl hcause
    rw [hs.ofIncoming_eq, hsettled, outcome]
  | unhandled hp ht =>
    have hread := Event.reads_iff.1 (.ignored ht fun _ ha h => hb (.action hp ha h))
    rw [hp.ofIncoming_eq, ofPayload, hread, outcome]
  | invalid hp hm ht h =>
    rw [hp.ofIncoming_eq, ofPayload, Event.reads_iff.1 (.refused hm ht h), outcome, ht.event]
  | accepted hp hm ht h =>
    rw [hp.ofIncoming_eq, ofPayload, Event.reads_iff.1 (.event hm ht h), outcome]

/-- A delivery is accepted exactly if it brings a payload that makes an event. -/
theorem ofIncoming_eq_accepted_iff :
    ofIncoming room secret i = accepted event ↔
      ∃ payload, Brings room secret i payload ∧ Event.read (eventName i) payload = .event event := by
  constructor
  · intro h
    by_cases hs : IsSigned secret i
    · rw [hs.ofIncoming_eq, ofBody] at h
      split at h
      · cases h
      · rename_i hn
        split at h
        · cases h
        · cases h
        · rename_i payload hb
          unfold ofPayload at h
          split at h
          all_goals cases h
          exact ⟨payload, ⟨hs, hn, hb⟩, ‹_›⟩
    · rcases ofIncoming_of_not_isSigned hs with h' | ⟨h', -⟩ <;> cases h'.symm.trans h
  · rintro ⟨payload, hp, hread⟩
    rw [hp.ofIncoming_eq, ofPayload, hread]

/-- The answer to a delivery that is settled is not the one to an accepted delivery. -/
theorem status_of_settled (h : ofIncoming room secret i = settled answer) : answer.status ≠ 202 := by
  unfold ofIncoming ofBody ofPayload at h
  repeat' split at h
  all_goals cases h
  all_goals simp [badSignature, statusOnly, badBody, badPayload, Answer.ofCode, Answer.ofJson]

end Delivery

/-! ## The site after a delivery -/

namespace Site

open Delivery

variable {site : Site} {fetch : Fetcher} {i : Incoming}

theorem deliver_fst : (site.deliver fetch i).1 = (ofIncoming site.room site.settings.webhookSecret i).outcome := by
  unfold deliver
  split <;> rename_i h <;> rw [h, outcome]

theorem deliver_of_accepted {event : Event} (h : ofIncoming site.room site.settings.webhookSecret i = accepted event) :
    site.deliver fetch i =
      (.ok (acceptance event), { site with service := (event.process.run fetch 0 site.service).2 }) := by
  rw [deliver, h]

theorem deliver_of_not_accepted (fetch : Fetcher)
    (h : ∀ event, ofIncoming site.room site.settings.webhookSecret i ≠ accepted event) :
    (site.finish i (site.deliver fetch i).1).status ≠ 202 ∧ (site.deliver fetch i).2 = site := by
  unfold deliver
  split
  · rename_i answer hs
    have hstatus : answer.status ≠ 202 := status_of_settled hs
    exact ⟨hstatus, rfl⟩
  · exact ⟨by simp [finish, Answer.crashed], rfl⟩
  · rename_i ha
    exact absurd ha (h _)

theorem respond_of_isDelivery (hi : i.IsDelivery) :
    site.respond fetch i = (site.finish i (site.deliver fetch i).1, (site.deliver fetch i).2) :=
  respond_of_path fetch hi.endpoint hi.method nofun nofun

/-- **What a delivery changes.** A request to the webhook that is not answered with 202 leaves the site as
it is. One that is answered with 202 carries the signature of its body, where a secret is set, is no ping,
and has JSON in its body that makes an event; it leaves the site with what the handling of that event
makes of the service. -/
theorem delivery_effect (site : Site) (fetch : Fetcher) {i : Incoming} (hi : i.IsDelivery) :
    ((site.respond fetch i).1.status ≠ 202 → (site.respond fetch i).2 = site) ∧
      ((site.respond fetch i).1.status = 202 ↔
        ∃ payload event, Brings site.room site.settings.webhookSecret i payload ∧
          Event.read (eventName i) payload = .event event) ∧
      ∀ payload event, Brings site.room site.settings.webhookSecret i payload →
        Event.read (eventName i) payload = .event event →
          (site.respond fetch i).2 = { site with service := (event.process.run fetch 0 site.service).2 } := by
  rw [respond_of_isDelivery hi]
  by_cases h : ∃ event, ofIncoming site.room site.settings.webhookSecret i = accepted event
  · obtain ⟨event, h⟩ := h
    obtain ⟨payload, hp, hread⟩ := ofIncoming_eq_accepted_iff.1 h
    rw [deliver_of_accepted h]
    refine ⟨fun hs => absurd rfl hs, ⟨fun _ => ⟨payload, event, hp, hread⟩, fun _ => rfl⟩, ?_⟩
    intro payload' event' hp' hread'
    cases h.symm.trans (ofIncoming_eq_accepted_iff.2 ⟨payload', hp', hread'⟩)
    rfl
  · have hnone : ∀ payload event, Brings site.room site.settings.webhookSecret i payload →
        Event.read (eventName i) payload ≠ .event event :=
      fun payload event hp hread => h ⟨event, ofIncoming_eq_accepted_iff.2 ⟨payload, hp, hread⟩⟩
    obtain ⟨hstatus, hafter⟩ := deliver_of_not_accepted fetch fun event he => h ⟨event, he⟩
    refine ⟨fun _ => hafter, ⟨fun hs => absurd hs hstatus, ?_⟩, ?_⟩
    · rintro ⟨payload, event, hp, hread⟩
      exact absurd hread (hnone payload event hp)
    · intro payload event hp hread
      exact absurd hread (hnone payload event hp)

/-- A request to the webhook. -/
def posting (name : String) (payload : Json) (signature : String) : Incoming where
  method := "POST"
  address := { path := "/webhooks/github".toList }
  headers := [("X-GitHub-Event", name), ("X-Hub-Signature-256", signature)]
  body := Bytes.utf8 payload.print

theorem isDelivery_posting (name : String) (payload : Json) (signature : String) :
    (posting name payload signature).IsDelivery :=
  have hpath : Endpoint.ofPath? (Text.percentDecode "/webhooks/github".toList) = some .webhook := by
    decide +kernel
  ⟨rfl, hpath⟩

/-- A new site with a secret. -/
def guarded (secret : String) : Site where
  settings := { webhookSecret := secret }
  service := { now := 0 }
  limiter := fixedWindow
  room := 1000

/-- An installation is deleted, under a signature by the secret `key`. -/
def uninstalling : Incoming :=
  posting "installation" (Event.installationDeleted { id := 7 }).toJson
    "sha256=d7006fd072914a3530f611ac6098fe0a9143aed586b6e7881fac6cd9290d8e1d"

theorem uninstalling_effect :
    uninstalling.IsDelivery ∧ ∃ payload event, Brings 1000 "key" uninstalling payload ∧
      Event.read (eventName uninstalling) payload = .event event ∧
      ((guarded "key").respond (fun _ _ _ _ => .ok []) uninstalling).2 =
        { guarded "key" with
          service := (event.process.run (fun _ _ _ _ => .ok []) 0 (guarded "key").service).2 } := by
  have hi : uninstalling.IsDelivery := isDelivery_posting ..
  obtain ⟨-, haccepted, hafter⟩ := delivery_effect (guarded "key") (fun _ _ _ _ => .ok []) hi
  obtain ⟨payload, event, hp, hread⟩ := haccepted.1 (by decide +kernel)
  exact ⟨hi, payload, event, hp, hread, hafter payload event hp hread⟩

theorem respond_of_isDue (hi : i.IsDelivery) {answer : Answer}
    (h : IsDue site.room site.settings.webhookSecret i answer) (hb : ¬ Breaks site.room site.settings.webhookSecret i) :
    (site.respond fetch i).1 = site.finish i (.ok answer) := by
  rw [respond_of_isDelivery hi, deliver_fst, h.outcome_eq hb]

theorem respond_crashes_iff (hi : i.IsDelivery) :
    (site.respond fetch i).1.status = 500 ↔ Breaks site.room site.settings.webhookSecret i := by
  constructor
  · intro hs
    refine Classical.byContradiction fun hb => ?_
    rw [respond_of_isDelivery hi, deliver_fst] at hs
    by_cases hdeep : i.IsTooDeep site.room
    · -- Signed and no ping, the body would be read, so the request is due one of the other two answers.
      by_cases hsigned : IsSigned site.settings.webhookSecret i
      · by_cases hname : eventName i = "ping"
        · rw [(IsDue.ping hsigned hname).outcome_eq hb] at hs
          cases hs
        · exact hb (.depth hsigned hname hdeep)
      · rw [(IsDue.unsigned hsigned).outcome_eq hb] at hs
        cases hs
    · obtain ⟨answer, h⟩ := exists_isDue site.settings.webhookSecret hdeep
      rw [h.outcome_eq hb] at hs
      have hanswer : answer.status = 500 := hs
      simpa [hanswer] using h.status_mem
  · intro hb
    obtain ⟨crash, h⟩ := hb.ofIncoming_eq
    rw [respond_of_isDelivery hi, deliver_fst, h]
    rfl

/-- **What a delivery is answered.** Every request to the webhook whose body does not nest too deep is due an answer
with one of the four statuses. A request is given each answer that it is due unless it breaks the webhook; one that
does is answered with 500. -/
theorem delivery_answered (site : Site) (fetch : Fetcher) {i : Incoming} (hi : i.IsDelivery) :
    (¬ i.IsTooDeep site.room → ∃ answer, IsDue site.room site.settings.webhookSecret i answer) ∧
      (∀ answer, IsDue site.room site.settings.webhookSecret i answer → answer.status ∈ [200, 202, 400, 401] ∧
        ((site.respond fetch i).1 = site.finish i (.ok answer) ↔ ¬ Breaks site.room site.settings.webhookSecret i)) ∧
      ((site.respond fetch i).1.status = 500 ↔ Breaks site.room site.settings.webhookSecret i) := by
  refine ⟨exists_isDue _, fun answer h => ⟨h.status_mem, fun he hb => ?_, respond_of_isDue hi h⟩,
    respond_crashes_iff hi⟩
  have hanswer : answer.status = 500 := (congrArg Answer.status he).symm.trans ((respond_crashes_iff hi).2 hb)
  simpa [hanswer] using h.status_mem

/-- A delivery whose action is a list. -/
def listedAction : Incoming := posting "pull_request" (.obj [("action", .arr [.str "opened"])]) ""

theorem listedAction_status : ((guarded "").respond (fun _ _ _ _ => .ok []) listedAction).1.status = 500 := by
  decide +kernel

/-- A request that is due to be ignored can crash. -/
theorem listedAction_crashes :
    listedAction.IsDelivery ∧ IsDue 1000 "" listedAction (statusOnly "ignored") ∧
      ((guarded "").respond (fun _ _ _ _ => .ok []) listedAction).1.status = 500 := by
  have hi : listedAction.IsDelivery := isDelivery_posting ..
  have hread : ¬ listedAction.IsTooDeep 1000 := by
    intro h
    have hread : (Json.ofBytes 1000 listedAction.body).toOption.isSome = true := by decide +kernel
    rw [h] at hread
    cases hread
  obtain ⟨hs, -⟩ | ⟨-, hdue⟩ := ((respond_crashes_iff hi).1 listedAction_status).isDue hread
  · exact absurd (.inl rfl) hs
  · exact ⟨hi, hdue, listedAction_status⟩

theorem listedAction_breaks :
    listedAction.IsDelivery ∧ Breaks 1000 "" listedAction :=
  have hi : listedAction.IsDelivery := isDelivery_posting ..
  ⟨hi, (delivery_answered (guarded "") (fun _ _ _ _ => .ok []) hi).2.2.1 listedAction_status⟩

end Site

end Web

end PullReview
