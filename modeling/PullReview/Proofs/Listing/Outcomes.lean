import PullReview.Proofs.Listing.Fetching

/-!
# What a listing comes to

A call that lists the changed files gives the files, or ends in a refusal with its message, status and code, or
fails in some other way. Which replies give a token (`Grants`) and files (`Lists`), and which come to a refusal
(`DeniesToken`, `Denies`), is said apart from the client. A call conforms to the interface if it fails in refusals
only and gives files only out of successful replies that hold lists of them; `changedFiles_conforms_iff` says which
calls do. Others fail without a refusal, as over a response without content (`changedFiles_empty`), or take for a page
what is none, as a list that has moved (`changedFiles_moved`).
-/

namespace PullReview.Listing

variable {settings : Settings} {around : Surroundings} {now installation : Int} {target : Target} {token : Json}
  {request : Outgoing} {rejection : Rejection} {page : Nat} {reply : Reply} {files : List ChangedFile}
  {replies used rest : List Reply} {sent : List Outgoing} {s t : Session} {room : Nat}

/-! ## Requests -/

theorem checkHost_neverRefuses (address : Web.Address) : NeverRefuses (checkHost address) := by
  unfold checkHost
  refine NeverRefuses.bind ?_ fun _ => ?_
  · intro rejection h
    cases hhost : address.shownHost <;> rw [hhost] at h <;> cases h
  · split
    · exact neverRefuses_ok _
    · rintro _ ⟨⟩

theorem Outgoing.prepare_neverRefuses (settings : Settings) (method : Method) (address : String)
    (query : Option (List Char)) (token : Json) : NeverRefuses (prepare settings method address query token) := by
  unfold prepare
  split
  · rintro _ ⟨⟩
  · split
    · rintro _ ⟨⟩
    · split
      · rintro _ ⟨⟩
      · rename_i asked _
        intro rejection h
        cases hhost : checkHost asked with
        | ok _ =>
          rw [hhost] at h
          cases h
        | error e =>
          rw [hhost] at h
          cases h
          exact checkHost_neverRefuses asked rejection hhost

/-! ## Pages -/

/-- The replies of which a listing from a page on is made, and the files that they hold. The last page is not full. -/
inductive Lists (settings : Settings) (room : Nat) (target : Target) (token : Json) :
    Nat → List Reply → List ChangedFile → Prop
  | last {page : Nat} {request : Outgoing} {reply : Reply} {value : Json} {files : List ChangedFile} {size : Nat}
      (hrequest : pageRequest settings target token page = .ok request) (hgives : reply.Says room request value)
      (hpage : IsPage value files size) (hshort : size < pageSize) : Lists settings room target token page [reply] files
  | more {page : Nat} {request : Outgoing} {reply : Reply} {value : Json} {files more : List ChangedFile} {size : Nat}
      {used : List Reply} (hrequest : pageRequest settings target token page = .ok request)
      (hgives : reply.Says room request value) (hpage : IsPage value files size) (hfull : pageSize ≤ size)
      (hmore : Lists settings room target token (page + 1) used more) :
      Lists settings room target token page (reply :: used) (files ++ more)

/-- The replies at which a listing from a page on ends in a refusal: after full pages, one that refuses or none. -/
inductive Denies (settings : Settings) (room : Nat) (target : Target) (token : Json) :
    Nat → List Reply → Rejection → Prop
  | silent {page : Nat} {request : Outgoing} (hrequest : pageRequest settings target token page = .ok request) :
      Denies settings room target token page [] listingUnreachable
  | refused {page : Nat} {request : Outgoing} {reply : Reply} {rejection : Rejection} {replies : List Reply}
      (hrequest : pageRequest settings target token page = .ok request)
      (hrefuses : reply.Refuses listingUnreachable (refusal target) request rejection) :
      Denies settings room target token page (reply :: replies) rejection
  | more {page : Nat} {request : Outgoing} {reply : Reply} {value : Json} {files : List ChangedFile} {size : Nat}
      {rejection : Rejection} {replies : List Reply}
      (hrequest : pageRequest settings target token page = .ok request) (hgives : reply.Says room request value)
      (hpage : IsPage value files size) (hfull : pageSize ≤ size)
      (hmore : Denies settings room target token (page + 1) replies rejection) :
      Denies settings room target token page (reply :: replies) rejection

theorem pageOfReply_of_isPage {value : Json} {size : Nat} (hgives : reply.Says room request value)
    (hpage : IsPage value files size) : pageOfReply room target request reply = .ok (files, size) :=
  hgives.settle_eq.trans (pageOf_eq_ok_iff.2 hpage)

theorem pagesFrom_nil (h : pageRequest settings target token page = .ok request) :
    pagesFrom settings room target token page [] sent =
      (.error (.rejected listingUnreachable), [], sent ++ [request]) := by
  unfold pagesFrom
  rw [h]

theorem pagesFrom_error {e : Error} (h : pageRequest settings target token page = .error e) :
    e.rejection? = none ∧ (pagesFrom settings room target token page replies sent).1 = .error e := by
  have hnever : NeverRefuses (pageRequest settings target token page) := by
    rw [pageRequest_eq_prepare]
    exact Outgoing.prepare_neverRefuses _ _ _ _ _
  refine ⟨hnever.rejection?_eq_none h, ?_⟩
  unfold pagesFrom
  cases replies <;> simp only [h]

theorem Lists.pagesFrom_eq (h : Lists settings room target token page used files) (rest : List Reply)
    (sent : List Outgoing) :
    ∃ all, pagesFrom settings room target token page (used ++ rest) sent = (.ok files, rest, all) := by
  induction h generalizing sent with
  | last hrequest hgives hpage hshort =>
    rw [List.singleton_append, pagesFrom_reply hrequest, pageOfReply_of_isPage hgives hpage]
    exact ⟨_, if_pos hshort⟩
  | more hrequest hgives hpage hfull _ ih =>
    obtain ⟨all, hall⟩ := ih (sent ++ [_])
    rw [List.cons_append, pagesFrom_reply hrequest, pageOfReply_of_isPage hgives hpage]
    dsimp only
    rw [if_neg (Nat.not_lt.2 hfull), hall]
    exact ⟨all, rfl⟩

theorem Denies.pagesFrom_eq (h : Denies settings room target token page replies rejection) (sent : List Outgoing) :
    (pagesFrom settings room target token page replies sent).1 = .error (.rejected rejection) := by
  induction h generalizing sent with
  | silent hrequest => rw [pagesFrom_nil hrequest]
  | refused hrequest hrefuses => rw [pagesFrom_reply hrequest, pageOfReply_eq_settle, hrefuses.settle_eq]
  | more hrequest hgives hpage hfull _ ih =>
    rw [pagesFrom_reply hrequest, pageOfReply_of_isPage hgives hpage]
    dsimp only
    rw [if_neg (Nat.not_lt.2 hfull), prepend, ih]
    rfl

/-- A listing gives files, ends in a refusal, or fails in some other way. -/
theorem pagesFrom_cases (settings : Settings) (room : Nat) (target : Target) (token : Json) (page : Nat)
    (replies : List Reply) (sent : List Outgoing) :
    (∃ used rest files all, replies = used ++ rest ∧ Lists settings room target token page used files ∧
      pagesFrom settings room target token page replies sent = (.ok files, rest, all)) ∨
    (∃ rejection, Denies settings room target token page replies rejection) ∨
    ∃ e : Error, e.rejection? = none ∧ (pagesFrom settings room target token page replies sent).1 = .error e := by
  induction replies generalizing page sent with
  | nil =>
    cases hrequest : pageRequest settings target token page with
    | error e => exact .inr (.inr ⟨e, pagesFrom_error hrequest⟩)
    | ok request => exact .inr (.inl ⟨_, .silent hrequest⟩)
  | cons reply replies ih =>
    cases hrequest : pageRequest settings target token page with
    | error e => exact .inr (.inr ⟨e, pagesFrom_error hrequest⟩)
    | ok request =>
      rw [pagesFrom_reply hrequest, pageOfReply_eq_settle]
      obtain ⟨value, ⟨files, size⟩, hgives, hvalue⟩ | ⟨rejection, hrefuses⟩ | ⟨e, hodd, he⟩ :=
        reply.settle_cases room listingUnreachable (refusal target) pageOf_neverRefuses request
      · have hpage := pageOf_eq_ok_iff.1 hvalue
        rw [hgives.settle_eq, hvalue]
        dsimp only
        by_cases hshort : size < pageSize
        · rw [if_pos hshort]
          exact .inl ⟨[reply], replies, files, _, rfl, .last hrequest hgives hpage hshort, rfl⟩
        · have hfull : pageSize ≤ size := Nat.not_lt.1 hshort
          rw [if_neg hshort, prepend]
          obtain ⟨used, rest, more, all, rfl, hmore, heq⟩ | ⟨rejection, hmore⟩ | ⟨e, hodd, he⟩ :=
            ih (page + 1) (sent ++ [request])
          · rw [heq]
            exact .inl ⟨reply :: used, rest, files ++ more, all, rfl, .more hrequest hgives hpage hfull hmore, rfl⟩
          · exact .inr (.inl ⟨rejection, .more hrequest hgives hpage hfull hmore⟩)
          · rw [he]
            exact .inr (.inr ⟨e, hodd, rfl⟩)
      · exact .inr (.inl ⟨rejection, .refused hrequest hrefuses⟩)
      · rw [he]
        exact .inr (.inr ⟨e, hodd, rfl⟩)

/-! ## Tokens -/

/-- The service runs as an app, and a key of its own signs a token of the app. -/
structure Signs (settings : Settings) (around : Surroundings) (now : Int) (appToken : String) : Prop where
  app : settings.githubAppId ≠ ""
  signed : ∃ key, signingKey settings around = .ok key ∧ around.sign (signing settings now key) = some appToken

/-- The replies for which a token is given, and the token. Only an app exchanges its own for one. -/
inductive Grants (settings : Settings) (around : Surroundings) (now installation : Int) : List Reply → Json → Prop
  | configured (hnone : settings.githubAppId = "") :
      Grants settings around now installation [] (.str (Text.trimmed settings.githubToken))
  | exchanged {appToken : String} {request : Outgoing} {reply : Reply} {m : Members} {token : Json}
      (hsigns : Signs settings around now appToken)
      (hrequest : tokenRequest settings installation appToken = .ok request)
      (hgives : reply.Says around.room request (.obj m)) (htoken : m.get? "token" = some token) :
      Grants settings around now installation [reply] token

/-- The replies at which the exchange of a token ends in a refusal: an app without a key has none at all. -/
inductive DeniesToken (settings : Settings) (around : Surroundings) (now installation : Int) :
    List Reply → Rejection → Prop
  | misconfigured {replies : List Reply} (happ : settings.githubAppId ≠ "") (hkey : settings.githubPrivateKey = "")
      (hpath : settings.githubPrivateKeyPath = "") : DeniesToken settings around now installation replies misconfigured
  | silent {appToken : String} {request : Outgoing} (hsigns : Signs settings around now appToken)
      (hrequest : tokenRequest settings installation appToken = .ok request) :
      DeniesToken settings around now installation [] tokenUnreachable
  | refused {appToken : String} {request : Outgoing} {reply : Reply} {rejection : Rejection} {replies : List Reply}
      (hsigns : Signs settings around now appToken)
      (hrequest : tokenRequest settings installation appToken = .ok request)
      (hrefuses : reply.Refuses tokenUnreachable (fun status _ => tokenRefused installation status) request rejection) :
      DeniesToken settings around now installation (reply :: replies) rejection

theorem signingKey_eq_rejected_iff : signingKey settings around = .error (.rejected rejection) ↔
    settings.githubPrivateKey = "" ∧ settings.githubPrivateKeyPath = "" ∧ rejection = misconfigured := by
  unfold signingKey
  constructor
  · intro h
    split at h
    · cases h
    · rename_i hkey
      split at h
      · split at h
        · cases h
        · split at h <;> cases h
      · rename_i hpath
        cases h
        exact ⟨not_not.1 hkey, not_not.1 hpath, rfl⟩
  · rintro ⟨hkey, hpath, rfl⟩
    rw [if_neg (not_not.2 hkey), if_neg (not_not.2 hpath)]

theorem tokenFor_configured (h : settings.githubAppId = "") :
    tokenFor settings around now installation s = (.ok (.str (Text.trimmed settings.githubToken)), s) :=
  if_pos h

section Signed

variable {appToken : String} {e : Error}

/-- An app whose key signs asks for a token once, and the next reply decides. -/
theorem Signs.tokenFor_asked (hsigns : Signs settings around now appToken)
    (hrequest : tokenRequest settings installation appToken = .ok request) :
    (tokenFor settings around now installation s).1 =
        tokenOf around.room installation request (s.replies.headD .unreachable) ∧
      (tokenFor settings around now installation s).2.replies = s.replies.tail := by
  obtain ⟨key, hkey, hsigned⟩ := hsigns.signed
  unfold tokenFor
  rw [if_neg hsigns.app, hkey]
  dsimp only
  rw [hsigned]
  dsimp only
  rw [hrequest]
  unfold Session.send
  cases s.replies <;> exact ⟨rfl, rfl⟩

theorem Signs.tokenFor_unasked (hsigns : Signs settings around now appToken)
    (hrequest : tokenRequest settings installation appToken = .error e) :
    e.rejection? = none ∧ (tokenFor settings around now installation s).1 = .error e := by
  have hnever : NeverRefuses (tokenRequest settings installation appToken) :=
    Outgoing.prepare_neverRefuses _ _ _ _ _
  refine ⟨hnever.rejection?_eq_none hrequest, ?_⟩
  obtain ⟨key, hkey, hsigned⟩ := hsigns.signed
  unfold tokenFor
  rw [if_neg hsigns.app, hkey]
  dsimp only
  rw [hsigned]
  dsimp only
  rw [hrequest]

theorem tokenFor_unsigned {key : String} (happ : settings.githubAppId ≠ "")
    (hkey : signingKey settings around = .ok key) (hunsigned : around.sign (signing settings now key) = none) :
    (tokenFor settings around now installation s).1 = .error .unusableKey := by
  unfold tokenFor
  rw [if_neg happ, hkey]
  dsimp only
  rw [hunsigned]

theorem tokenFor_keyless (happ : settings.githubAppId ≠ "") (hkey : signingKey settings around = .error e) :
    (tokenFor settings around now installation s).1 = .error e := by
  unfold tokenFor
  rw [if_neg happ, hkey]

end Signed

theorem Grants.tokenFor_eq (h : Grants settings around now installation used token)
    (hreplies : s.replies = used ++ rest) :
    ∃ t, tokenFor settings around now installation s = (.ok token, t) ∧ t.replies = rest := by
  cases h with
  | configured hnone => exact ⟨s, tokenFor_configured hnone, hreplies⟩
  | @exchanged appToken request reply m token hsigns hrequest hgives htoken =>
    obtain ⟨hresult, hleft⟩ := hsigns.tokenFor_asked hrequest
    have hgiven : tokenOf around.room installation request reply = .ok token := by
      rw [tokenOf_eq_settle, hgives.settle_eq, tokenIn_eq_ok_iff]
      exact ⟨m, rfl, htoken⟩
    rw [hreplies] at hresult hleft
    exact ⟨_, Prod.ext (hresult.trans hgiven) rfl, hleft⟩

theorem DeniesToken.tokenFor_eq (h : DeniesToken settings around now installation s.replies rejection) :
    (tokenFor settings around now installation s).1 = .error (.rejected rejection) := by
  generalize hreplies : s.replies = replies at h
  cases h with
  | misconfigured happ hkey hpath => exact tokenFor_keyless happ (signingKey_eq_rejected_iff.2 ⟨hkey, hpath, rfl⟩)
  | silent hsigns hrequest =>
    rw [(hsigns.tokenFor_asked hrequest).1, hreplies]
    rfl
  | refused hsigns hrequest hrefuses =>
    rw [(hsigns.tokenFor_asked hrequest).1, hreplies, tokenOf_eq_settle]
    exact hrefuses.settle_eq

/-- A token is given, or it is refused, or the exchange fails in some other way. -/
theorem tokenFor_cases (settings : Settings) (around : Surroundings) (now installation : Int) (s : Session) :
    (∃ exchanged token rest, s.replies = exchanged ++ rest ∧
      Grants settings around now installation exchanged token) ∨
    (∃ rejection, DeniesToken settings around now installation s.replies rejection) ∨
    ∃ e : Error, e.rejection? = none ∧ (tokenFor settings around now installation s).1 = .error e := by
  by_cases happ : settings.githubAppId = ""
  · exact .inl ⟨[], _, s.replies, rfl, .configured happ⟩
  cases hkey : signingKey settings around with
  | error e =>
    cases he : e.rejection? with
    | none => exact .inr (.inr ⟨e, he, tokenFor_keyless happ hkey⟩)
    | some rejection =>
      rw [Error.rejection?_eq_some_iff.1 he, signingKey_eq_rejected_iff] at hkey
      obtain ⟨hkey, hpath, rfl⟩ := hkey
      exact .inr (.inl ⟨_, .misconfigured happ hkey hpath⟩)
  | ok key =>
    cases hsign : around.sign (signing settings now key) with
    | none => exact .inr (.inr ⟨.unusableKey, rfl, tokenFor_unsigned happ hkey hsign⟩)
    | some appToken =>
      have hsigns : Signs settings around now appToken := ⟨happ, key, hkey, hsign⟩
      cases hrequest : tokenRequest settings installation appToken with
      | error e => exact .inr (.inr ⟨e, hsigns.tokenFor_unasked hrequest⟩)
      | ok request =>
        cases hreplies : s.replies with
        | nil => exact .inr (.inl ⟨_, .silent hsigns hrequest⟩)
        | cons reply replies =>
          obtain ⟨value, token, hgives, hvalue⟩ | ⟨rejection, hrefuses⟩ | ⟨e, hodd, he⟩ :=
            reply.settle_cases around.room tokenUnreachable (fun status _ => tokenRefused installation status)
              tokenIn_neverRefuses request
          · obtain ⟨m, rfl, hget⟩ := tokenIn_eq_ok_iff.1 hvalue
            exact .inl ⟨[reply], token, replies, rfl, .exchanged hsigns hrequest hgives hget⟩
          · exact .inr (.inl ⟨rejection, .refused hsigns hrequest hrefuses⟩)
          · refine .inr (.inr ⟨e, hodd, ?_⟩)
            rw [(hsigns.tokenFor_asked hrequest).1, hreplies, List.headD_cons, tokenOf_eq_settle, he]

/-! ## Calls -/

/-- The replies at which a call ends in a refusal, of a token or of the files. -/
def IsDenied (settings : Settings) (around : Surroundings) (now installation : Int) (target : Target)
    (replies : List Reply) (rejection : Rejection) : Prop :=
  DeniesToken settings around now installation replies rejection ∨
    ∃ exchanged token rest, replies = exchanged ++ rest ∧ Grants settings around now installation exchanged token ∧
      Denies settings around.room target token 1 rest rejection

theorem changedFiles_of_error {e : Error} (h : (tokenFor settings around now installation s).1 = .error e) :
    (changedFiles settings around now installation target s).1 = .error e := by
  unfold changedFiles
  have htoken : tokenFor settings around now installation s = (.error e, _) := Prod.ext h rfl
  rw [htoken]

theorem IsDenied.changedFiles_eq (h : IsDenied settings around now installation target s.replies rejection) :
    (changedFiles settings around now installation target s).1 = .error (.rejected rejection) := by
  obtain htoken | ⟨exchanged, token, rest, hreplies, hgrants, hdenies⟩ := h
  · exact changedFiles_of_error htoken.tokenFor_eq
  · obtain ⟨t, htoken, rfl⟩ := hgrants.tokenFor_eq hreplies
    rw [Listing.changedFiles_eq htoken]
    exact hdenies.pagesFrom_eq t.sent

theorem Lists.changedFiles_eq (hlists : Lists settings around.room target token 1 used files) {exchanged : List Reply}
    (hgrants : Grants settings around now installation exchanged token)
    (hreplies : s.replies = exchanged ++ (used ++ rest)) :
    (tokenFor settings around now installation s).2.replies = used ++ rest ∧
      (changedFiles settings around now installation target s).1 = .ok files ∧
      (changedFiles settings around now installation target s).2.replies = rest := by
  obtain ⟨t, htoken, hleft⟩ := hgrants.tokenFor_eq hreplies
  obtain ⟨all, hall⟩ := hlists.pagesFrom_eq rest t.sent
  rw [Listing.changedFiles_eq htoken, hleft, hall, htoken]
  exact ⟨hleft, rfl, rfl⟩

/-- A call gives files, ends in a refusal, or fails in some other way. -/
theorem changedFiles_cases (settings : Settings) (around : Surroundings) (now installation : Int) (target : Target)
    (s : Session) :
    (∃ exchanged token used rest files, s.replies = exchanged ++ (used ++ rest) ∧
      Grants settings around now installation exchanged token ∧ Lists settings around.room target token 1 used files) ∨
    (∃ rejection, IsDenied settings around now installation target s.replies rejection) ∨
    ∃ e : Error, e.rejection? = none ∧ (changedFiles settings around now installation target s).1 = .error e := by
  obtain ⟨exchanged, token, rest, hreplies, hgrants⟩ | ⟨rejection, hdenies⟩ | ⟨e, hodd, he⟩ :=
    tokenFor_cases settings around now installation s
  · obtain ⟨t, htoken, rfl⟩ := hgrants.tokenFor_eq hreplies
    obtain ⟨used, rest, files, -, hused, hlists, -⟩ | ⟨rejection, hdenies⟩ | ⟨e, hodd, he⟩ :=
      pagesFrom_cases settings around.room target token 1 t.replies t.sent
    · exact .inl ⟨exchanged, token, used, rest, files, hused ▸ hreplies, hgrants, hlists⟩
    · exact .inr (.inl ⟨rejection, .inr ⟨exchanged, token, t.replies, hreplies, hgrants, hdenies⟩⟩)
    · exact .inr (.inr ⟨e, hodd, by rw [changedFiles_eq htoken]; exact he⟩)
  · exact .inr (.inl ⟨rejection, .inl hdenies⟩)
  · exact .inr (.inr ⟨e, hodd, changedFiles_of_error he⟩)

/-! ## The interface -/

/-- A reply is successful: a response with a status in the two hundreds. -/
def Reply.IsSuccess : Reply → Prop
  | .response r => 200 ≤ r.status ∧ r.status < 300
  | .unreachable => False

/-- A reply holds a list of records, each of which is a file. -/
def Reply.HoldsList (room : Nat) (reply : Reply) : Prop :=
  ∃ r content elements, reply = .response r ∧ r.content? = some content ∧ bodyValue room content = .ok (.arr elements) ∧
    ∀ element ∈ elements, ∃ file, fileOf element = .ok file

/-- A call conforms to the interface: it fails in refusals only, and gives files only if all replies that it used are
successful, those for the pages holding lists of files. -/
def Conforms (settings : Settings) (around : Surroundings) (now installation : Int) (target : Target) (s : Session) :
    Prop :=
  let afterToken := (tokenFor settings around now installation s).2.replies
  let (result, left) := changedFiles settings around now installation target s
  (∃ rejection, result = .error (.rejected rejection)) ∨
    (∃ files, result = .ok files) ∧
      (∀ exchanged, s.replies = exchanged ++ afterToken → ∀ reply ∈ exchanged, reply.IsSuccess) ∧
      ∀ used, afterToken = used ++ left.replies → ∀ reply ∈ used, reply.IsSuccess ∧ reply.HoldsList around.room

/-- **Which calls conform.** A call conforms to the interface exactly if the replies come to a refusal, or else give a
token and hold all pages and are successful, those for the pages holding lists of files. -/
theorem changedFiles_conforms_iff (settings : Settings) (around : Surroundings) (now installation : Int)
    (target : Target) (s : Session) :
    Conforms settings around now installation target s ↔
      (∃ rejection, IsDenied settings around now installation target s.replies rejection) ∨
        ∃ exchanged token used rest files, s.replies = exchanged ++ (used ++ rest) ∧
          Grants settings around now installation exchanged token ∧
          Lists settings around.room target token 1 used files ∧
          (∀ reply ∈ exchanged, reply.IsSuccess) ∧ ∀ reply ∈ used, reply.IsSuccess ∧ reply.HoldsList around.room := by
  unfold Conforms
  dsimp only
  constructor
  · intro hconforms
    obtain ⟨exchanged, token, used, rest, files, hreplies, hgrants, hlists⟩ | hdenied | ⟨e, hodd, he⟩ :=
      changedFiles_cases settings around now installation target s
    · obtain ⟨htoken, hresult, hleft⟩ := hlists.changedFiles_eq hgrants hreplies
      rw [hresult, htoken, hleft] at hconforms
      obtain ⟨_, ⟨⟩⟩ | ⟨-, hexchanged, hused⟩ := hconforms
      exact .inr ⟨exchanged, token, used, rest, files, hreplies, hgrants, hlists, hexchanged _ hreplies, hused _ rfl⟩
    · exact .inl hdenied
    · rw [he] at hconforms
      obtain ⟨_, ⟨⟩⟩ | ⟨⟨_, ⟨⟩⟩, -⟩ := hconforms
      cases hodd
  · rintro (⟨rejection, hdenied⟩ | ⟨exchanged, token, used, rest, files, hreplies, hgrants, hlists, hexchanged, hused⟩)
    · exact .inl ⟨rejection, hdenied.changedFiles_eq⟩
    · obtain ⟨htoken, hresult, hleft⟩ := hlists.changedFiles_eq hgrants hreplies
      rw [hresult, htoken, hleft, hreplies]
      refine .inr ⟨⟨files, rfl⟩, fun other hother => ?_, fun other hother => ?_⟩
      · exact List.append_cancel_right hother ▸ hexchanged
      · exact List.append_cancel_right hother ▸ hused

/-! ## Calls that do not conform -/

/-- A successful response without content. -/
def emptyReply : Reply := .response { status := 200, headers := [], body := [] }

/-- A list of one record that has moved. -/
def movedReply : Reply := .response { status := 301, headers := [], body := recordsText 1 }

theorem changedFiles_empty :
    (changedFiles {} keyless 0 77 widgets { replies := [emptyReply] }).1 = .error .malformedReply := by
  rfl

theorem changedFiles_moved :
    changedFiles {} keyless 0 77 widgets { replies := [movedReply] } =
      (.ok [namelessFile], { replies := [], sent := [{ firstAsked with headers := fixedHeaders }] }) := by
  rfl

/-- A response without content fails the call without a refusal, and what has moved is given as the files. -/
theorem changedFiles_not_conforms :
    ¬ Conforms {} keyless 0 77 widgets { replies := [emptyReply] } ∧
      ¬ Conforms {} keyless 0 77 widgets { replies := [movedReply] } := by
  constructor
  · unfold Conforms
    dsimp only
    rw [changedFiles_empty]
    rintro (⟨_, ⟨⟩⟩ | ⟨⟨_, ⟨⟩⟩, -⟩)
  · unfold Conforms
    dsimp only
    rw [changedFiles_moved]
    rintro (⟨_, ⟨⟩⟩ | ⟨-, -, hused⟩)
    have hsuccess := (hused [movedReply] rfl movedReply List.mem_cons_self).1
    exact absurd hsuccess.2 (by decide)

end PullReview.Listing
