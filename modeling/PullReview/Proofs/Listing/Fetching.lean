import PullReview.Proofs.Pieces
import PullReview.Proofs.Listing.Requests
import PullReview.Proofs.Listing.Replies
import PullReview.Proofs.Json.Nesting

/-!
# Listing all pages

A listing goes on for as long as the pages are full: it puts their files before those of the pages that follow
(`CanAsk.pagesFrom_full`). So it is settled by the first reply that holds no full page, and by it alone: a page that
is not full ends the listing with all files, a reply that fails leaves none (`changedFiles_all_or_nothing`). A service
that replies to each page with its part of a list is listed whole (`changedFiles_complete`). In both there must be room
for what the replies nest: a page that nests deeper fails the listing without a refusal, though its records are files
(`changedFiles_all_or_nothing_deep`, `changedFiles_complete_deep`).
-/

namespace PullReview.Listing

variable {settings : Settings} {target : Target} {token : Json} {first : Outgoing} {page last : Nat} {reply : Reply}
  {files : List ChangedFile} {replies : List Reply} {sent : List Outgoing} {room : Nat}

/-- The outcome of a listing, with more files before those that it gives. -/
def prepend (files : List ChangedFile) (outcome : Except Error (List ChangedFile) × List Reply × List Outgoing) :
    Except Error (List ChangedFile) × List Reply × List Outgoing :=
  (outcome.1.map (files ++ ·), outcome.2)

theorem prepend_nil (outcome : Except Error (List ChangedFile) × List Reply × List Outgoing) :
    prepend [] outcome = outcome := by
  obtain ⟨_ | _, _⟩ := outcome <;> rfl

theorem prepend_prepend (files others : List ChangedFile)
    (outcome : Except Error (List ChangedFile) × List Reply × List Outgoing) :
    prepend files (prepend others outcome) = prepend (files ++ others) outcome := by
  obtain ⟨_ | _, _⟩ := outcome <;> simp [prepend, Except.map]

/-! ## One page -/

/-- What becomes of a listing depends on the page that the next reply holds. -/
theorem pagesFrom_reply {request : Outgoing} (h : pageRequest settings target token page = .ok request) :
    pagesFrom settings room target token page (reply :: replies) sent =
      match pageOfReply room target request reply with
      | .error e => (.error e, replies, sent ++ [request])
      | .ok (files, size) =>
        if size < pageSize then (.ok files, replies, sent ++ [request])
        else prepend files (pagesFrom settings room target token (page + 1) replies (sent ++ [request])) := by
  conv_lhs => unfold pagesFrom
  rw [h]
  rfl

/-- A reply counts the same whatever page is asked for. -/
theorem pageOfReply_atPage (room : Nat) (target : Target) (request : Outgoing) (page : Nat) (reply : Reply) :
    pageOfReply room target (request.atPage page) reply = pageOfReply room target request reply := by
  cases reply <;> rfl

/-- A reply to a request holds a full page. -/
structure Reply.HoldsFull (room : Nat) (request : Outgoing) (reply : Reply) (files : List ChangedFile) : Prop where
  holds : reply.Holds room request files
  full : pageSize ≤ files.length

/-- After a full page the listing goes on, and the files of the page come first. -/
theorem CanAsk.pagesFrom_fullPage (h : CanAsk settings target token first last) (hpage : page ≤ last)
    (hfull : reply.HoldsFull room first files) :
    pagesFrom settings room target token page (reply :: replies) sent =
      prepend files (pagesFrom settings room target token (page + 1) replies (sent ++ [first.atPage page])) := by
  rw [pagesFrom_reply (h.pageRequest_eq hpage), pageOfReply_atPage, hfull.holds.pageOfReply_eq]
  exact if_neg (Nat.not_lt.2 hfull.full)

/-- A page that is not full ends the listing. -/
theorem CanAsk.pagesFrom_shortPage (h : CanAsk settings target token first last) (hpage : page ≤ last)
    (hholds : reply.Holds room first files) (hshort : files.length < pageSize) :
    pagesFrom settings room target token page (reply :: replies) sent =
      (.ok files, replies, sent ++ [first.atPage page]) := by
  rw [pagesFrom_reply (h.pageRequest_eq hpage), pageOfReply_atPage, hholds.pageOfReply_eq]
  exact if_pos hshort

/-- A reply fails the listing: nothing came back, or a response with status 400 or more. -/
inductive Reply.Fails : Reply → Prop
  | unreachable : Fails .unreachable
  | status {r : Response} (h : 400 ≤ r.status) : Fails (.response r)

/-- The refusal in which a failing reply ends a listing. A response whose content is corrupt counts as none. -/
def Reply.rejection (target : Target) : Reply → Rejection
  | .unreachable => listingUnreachable
  | .response r => if r.content?.isSome then refusal target r.status r.headers else listingUnreachable

theorem Response.referral?_eq_none {r : Response} (h : 400 ≤ r.status) : r.referral? = none := by
  have hno : r.status ∉ referrals := by
    simp only [referrals, List.mem_cons, List.not_mem_nil, or_false]
    omega
  simp [referral?, hno]

theorem Reply.Fails.refuses (h : reply.Fails) {request : Outgoing} (hscheme : request.address.scheme ≠ []) :
    reply.Refuses listingUnreachable (refusal target) request (reply.rejection target) := by
  cases h with
  | unreachable => exact .lost .unreachable
  | @status r hstatus =>
    cases hcontent : r.content? with
    | none =>
      have hrejection : (response r).rejection target = listingUnreachable := by simp [rejection, hcontent]
      rw [hrejection]
      exact .lost (.corrupt hcontent)
    | some content =>
      have hrejection : (response r).rejection target = refusal target r.status r.headers := by
        simp [rejection, hcontent]
      rw [hrejection]
      exact .denied ⟨hcontent, hscheme, by simp [Response.referral?_eq_none hstatus]⟩ hstatus

/-- A reply that fails ends the listing without files. -/
theorem CanAsk.pagesFrom_fails (h : CanAsk settings target token first last) (hpage : page ≤ last)
    (hfails : reply.Fails) :
    pagesFrom settings room target token page (reply :: replies) sent =
      (.error (.rejected (reply.rejection target)), replies, sent ++ [first.atPage page]) := by
  rw [pagesFrom_reply (h.pageRequest_eq hpage), pageOfReply_atPage, pageOfReply_eq_settle,
    (hfails.refuses h.scheme).settle_eq]

/-! ## All pages -/

/-- **Full pages.** As long as the pages are full the listing goes on: one request for each, in order, and their files
before those of the pages that follow. -/
theorem CanAsk.pagesFrom_full (h : CanAsk settings target token first last) {full : List Reply}
    {pages : List (List ChangedFile)}
    (hfull : List.Forall₂ (Reply.HoldsFull room first) full pages) (hlast : page + full.length ≤ last + 1) :
    pagesFrom settings room target token page (full ++ replies) sent =
      prepend pages.flatten (pagesFrom settings room target token (page + full.length) replies
        (sent ++ (List.range' page full.length).map first.atPage)) := by
  induction hfull generalizing page sent with
  | nil => simp [prepend_nil]
  | @cons reply files full pages hreply hfull ih =>
    rw [List.length_cons] at hlast
    have hnumber : page + 1 + full.length = page + (full.length + 1) := by omega
    rw [List.cons_append, h.pagesFrom_fullPage (by omega) hreply, ih (by omega), prepend_prepend, hnumber,
      List.flatten_cons, List.length_cons, List.range'_succ, List.map_cons, List.append_assoc, List.singleton_append]

section Ends

variable {full : List Reply} {pages : List (List ChangedFile)}

theorem map_atPage_concat (first : Outgoing) (sent : List Outgoing) (n : Nat) :
    sent ++ (List.range' 1 n).map first.atPage ++ [first.atPage (1 + n)] =
      sent ++ (List.range' 1 (n + 1)).map first.atPage := by
  rw [List.range'_1_concat, List.map_append, List.map_singleton, List.append_assoc]

/-- Full pages and one that is not full are listed whole. -/
theorem CanAsk.pagesFrom_ends (h : CanAsk settings target token first (full.length + 1))
    (hfull : List.Forall₂ (Reply.HoldsFull room first) full pages)
    (hholds : reply.Holds room first files) (hshort : files.length < pageSize) :
    pagesFrom settings room target token 1 (full ++ reply :: replies) sent =
      (.ok (pages.flatten ++ files), replies, sent ++ (List.range' 1 (full.length + 1)).map first.atPage) := by
  rw [h.pagesFrom_full hfull (by omega), h.pagesFrom_shortPage (by omega) hholds hshort, map_atPage_concat]
  rfl

/-- Full pages and a reply that fails come to nothing. -/
theorem CanAsk.pagesFrom_full_fails (h : CanAsk settings target token first (full.length + 1))
    (hfull : List.Forall₂ (Reply.HoldsFull room first) full pages) (hfails : reply.Fails) :
    pagesFrom settings room target token 1 (full ++ reply :: replies) sent =
      (.error (.rejected (reply.rejection target)), replies,
        sent ++ (List.range' 1 (full.length + 1)).map first.atPage) := by
  rw [h.pagesFrom_full hfull (by omega), h.pagesFrom_fails (by omega) hfails, map_atPage_concat]
  rfl

end Ends

/-! ## The listing -/

variable {around : Surroundings} {now installation : Int} {s t : Session} {rest : List Reply}

theorem changedFiles_eq (htoken : tokenFor settings around now installation s = (.ok token, t)) :
    changedFiles settings around now installation target s =
      ((pagesFrom settings around.room target token 1 t.replies t.sent).1,
        { t with
          replies := (pagesFrom settings around.room target token 1 t.replies t.sent).2.1
          sent := (pagesFrom settings around.room target token 1 t.replies t.sent).2.2 }) := by
  unfold changedFiles
  rw [htoken]

/-! A list of a hundred empty records, each of which is a file without a name, fills a page. -/

def recordsText (n : Nat) : List UInt8 :=
  0x5B :: ((List.replicate n [(0x7B : UInt8), 0x7D]).intersperse [0x2C]).flatten ++ [0x5D]

def recordsReply (n : Nat) : Reply := .response { status := 200, headers := [], body := recordsText n }

def namelessFile : ChangedFile := { filename := "" }

/-- What a listing of the pull request 12 asks for first. -/
def firstAsked : Outgoing where
  method := .get
  address := { scheme := "https".toList, host := "api.github.com".toList
               path := "/repos/acme/widgets/pulls/12/files".toList, query := some (pageQuery 1) }
  headers := fixedHeaders ++ authorization ("Bearer secret" : String)
  timeout := 25

def widgets : Target := { owner := "acme", name := "widgets", number := 12 }

theorem canAsk_widgets : CanAsk { githubToken := "secret" } widgets (.str "secret") firstAsked 2 :=
  ⟨rfl, by decide, by decide⟩

/-- Surroundings in which no key signs and a thousand arrays and objects may nest. -/
def keyless : Surroundings := { sign := fun _ => none, room := 1000 }

set_option maxRecDepth 4000 in
theorem bodyValue_hundred : bodyValue keyless.room (recordsText 100) = .ok (.arr (List.replicate 100 (.obj []))) :=
  rfl

theorem recordsReply_says {n : Nat} {elements : List Json} (h : bodyValue room (recordsText n) = .ok (.arr elements)) :
    (recordsReply n).Says room firstAsked (.arr elements) :=
  .intro ⟨rfl, by decide, by simp [Response.referral?, Response.referrals]⟩ (show (200 : Int) < 400 by decide) h

theorem nameless_files (n : Nat) : List.Forall₂ (fun element file => fileOf element = .ok file)
    (List.replicate n (.obj [])) (List.replicate n namelessFile) := by
  induction n with
  | zero => exact .nil
  | succ n ih => exact .cons rfl ih

/-- **All or nothing.** Let all replies before one hold full pages, and that one hold a page that is not full or fail
the listing, and let there be room for what the pages nest. Then there is one request for each reply up to it and no
more, and it settles the listing: with its page, all files of all pages are given in order, and without one none is.
Why there are none depends on that reply and on the pull request alone. -/
theorem changedFiles_all_or_nothing {full : List Reply} {pages : List (List ChangedFile)} {deciding : Reply}
    (htoken : tokenFor settings around now installation s = (.ok token, t))
    (hask : CanAsk settings target token first (full.length + 1)) (hreplies : t.replies = full ++ deciding :: rest)
    (hfull : List.Forall₂ (Reply.HoldsFull around.room first) full pages)
    (hdeciding : deciding.Fails ∨ ∃ files, deciding.Holds around.room first files ∧ files.length < pageSize) :
    (changedFiles settings around now installation target s).2 =
        { t with replies := rest, sent := t.sent ++ (List.range' 1 (full.length + 1)).map first.atPage } ∧
      (∀ files, deciding.Holds around.room first files → files.length < pageSize →
        (changedFiles settings around now installation target s).1 = .ok (pages.flatten ++ files)) ∧
      (deciding.Fails →
        (changedFiles settings around now installation target s).1 =
          .error (.rejected (deciding.rejection target))) := by
  rw [changedFiles_eq htoken, hreplies]
  refine ⟨?_, fun files hholds hshort => ?_, fun hfails => ?_⟩
  · obtain hfails | ⟨files, hholds, hshort⟩ := hdeciding
    · rw [hask.pagesFrom_full_fails hfull hfails]
    · rw [hask.pagesFrom_ends hfull hholds hshort]
  · rw [hask.pagesFrom_ends hfull hholds hshort]
  · rw [hask.pagesFrom_full_fails hfull hfails]

/-- A response that the limit of requests is used up. -/
def limited : Reply :=
  .response { status := 403, headers := [("X-RateLimit-Remaining", "0")], body := recordsText 0 }

theorem changedFiles_all_or_nothing_limited :
    (changedFiles { githubToken := "secret" } keyless 0 77 widgets
        { replies := [recordsReply 100, limited, recordsReply 0] }).1 =
      .error (.rejected
        { message := "GitHub API rate limit exhausted", statusCode := 429, code := "github_rate_limited" }) := by
  have hlimited : limited.Fails := .status (by decide)
  have hfull : List.Forall₂ (Reply.HoldsFull keyless.room firstAsked) [recordsReply 100]
      [List.replicate 100 namelessFile] :=
    .cons ⟨⟨_, recordsReply_says bodyValue_hundred, nameless_files 100⟩, by decide⟩ .nil
  have htoken : tokenFor { githubToken := "secret" } keyless 0 77
      { replies := [recordsReply 100, limited, recordsReply 0] } =
        (.ok (.str "secret"), { replies := [recordsReply 100, limited, recordsReply 0] }) := rfl
  have hrejection : limited.rejection widgets =
      { message := "GitHub API rate limit exhausted", statusCode := 429, code := "github_rate_limited" } := by
    decide +kernel
  exact hrejection ▸ (changedFiles_all_or_nothing htoken canAsk_widgets rfl hfull (.inl hlimited)).2.2 hlimited

/-- A list of one record, a file without a name, in which more arrays nest than there is room for. -/
def nestedReply : Reply := .response { status := 200, headers := [], body := Json.asciiBytes (Json.nestedText 1000) }

/-- With more room the reply would hold a page. -/
theorem bodyValue_nested :
    bodyValue 1003 (Json.asciiBytes (Json.nestedText 1000)) = .ok (.arr [Json.nestedRecord 1000]) := by
  rw [bodyValue, Json.ofBytes_nestedText, Json.read_nestedText (by decide)]
  rfl

theorem says_nestedReply : nestedReply.Says 1003 firstAsked (.arr [Json.nestedRecord 1000]) :=
  .intro ⟨rfl, by decide, by simp [Response.referral?, Response.referrals]⟩ (show (200 : Int) < 400 by decide)
    bodyValue_nested

theorem fileOf_nestedRecord (depth : Nat) : fileOf (Json.nestedRecord depth) = .ok namelessFile := rfl

/-- A reply whose content cannot be read for its depth fails a listing. -/
theorem pageOfReply_deep {content : List UInt8} (h : bodyValue room content = .error .deepReply) :
    pageOfReply room widgets firstAsked (.response { status := 200, headers := [], body := content }) =
      .error .deepReply := by
  show bodyValue room content >>= pageOf = _
  rw [h]
  rfl

theorem pageOfReply_nested (page : Nat) :
    pageOfReply keyless.room widgets (firstAsked.atPage page) nestedReply = .error .deepReply := by
  have hread : Json.read keyless.room ((Json.nestedText 1000).map .char) = .error .tooDeep :=
    @Json.read_nestedText_tooDeep 1000 998 (by decide)
  rw [pageOfReply_atPage]
  refine pageOfReply_deep ?_
  rw [bodyValue, Json.ofBytes_nestedText, hread]
  rfl

/-- A last page of one file fails the listing without a refusal, as it nests deeper than there is room for. -/
theorem changedFiles_all_or_nothing_deep :
    (recordsReply 100).HoldsFull keyless.room firstAsked (List.replicate 100 namelessFile) ∧
      (nestedReply.Says 1003 firstAsked (.arr [Json.nestedRecord 1000]) ∧
        fileOf (Json.nestedRecord 1000) = .ok namelessFile) ∧
      (changedFiles { githubToken := "secret" } keyless 0 77 widgets
        { replies := [recordsReply 100, nestedReply] }).1 = .error .deepReply := by
  have hfull : (recordsReply 100).HoldsFull keyless.room firstAsked (List.replicate 100 namelessFile) :=
    ⟨⟨_, recordsReply_says bodyValue_hundred, nameless_files 100⟩, by decide⟩
  refine ⟨hfull, ⟨says_nestedReply, fileOf_nestedRecord 1000⟩, ?_⟩
  have htoken : tokenFor { githubToken := "secret" } keyless 0 77 { replies := [recordsReply 100, nestedReply] } =
      (.ok (.str "secret"), { replies := [recordsReply 100, nestedReply] }) := rfl
  rw [changedFiles_eq htoken, canAsk_widgets.pagesFrom_fullPage (by decide) hfull,
    pagesFrom_reply (canAsk_widgets.pageRequest_eq (by decide)), pageOfReply_nested]
  rfl

/-- The pages of a service that replies to each with its piece of a list are full as long as the list goes on. -/
theorem holdsFull_pieces {server : Nat → Reply} {count : Nat}
    (hpieces : ∀ page, (server (page + 1)).Holds room first ((files.drop (page * pageSize)).take pageSize))
    (hcount : count * pageSize ≤ files.length) :
    List.Forall₂ (Reply.HoldsFull room first) ((List.range' 1 count).map server)
      ((List.range count).map fun page => (files.drop (page * pageSize)).take pageSize) := by
  rw [List.range'_eq_map_range, List.map_map, List.forall₂_map_left_iff, List.forall₂_map_right_iff,
    List.forall₂_same]
  intro page hpage
  refine ⟨?_, ?_⟩
  · rw [Function.comp_apply, Nat.add_comm 1 page]
    exact hpieces page
  · have hle : (page + 1) * pageSize ≤ count * pageSize := Nat.mul_le_mul_right _ (List.mem_range.1 hpage)
    rw [Nat.succ_mul] at hle
    rw [List.length_take, List.length_drop]
    omega

/-- **All files.** Let the replies be those of a service that has a list of records, each of them a file, and replies
to each page with the records of that page, and let there be room for what they nest. Then all files are given, in
order and each of them once, after one request for each full page and one more; the requests ask for the pages in
order, at one address under one token. -/
theorem changedFiles_complete {elements : List Json} {server : Nat → Reply}
    (htoken : tokenFor settings around now installation s = (.ok token, t))
    (hask : CanAsk settings target token first (elements.length / pageSize + 1))
    (hfiles : List.Forall₂ (fun element file => fileOf element = .ok file) elements files)
    (hserver : ∀ page,
      (server (page + 1)).Says around.room first (.arr ((elements.drop (page * pageSize)).take pageSize)))
    (hreplies : t.replies = (List.range' 1 (elements.length / pageSize + 1)).map server ++ rest) :
    changedFiles settings around now installation target s =
      (.ok files,
        { t with
          replies := rest
          sent := t.sent ++ (List.range' 1 (elements.length / pageSize + 1)).map first.atPage }) := by
  have hlength : files.length = files.length / pageSize * pageSize + files.length % pageSize :=
    (Nat.div_add_mod' ..).symm
  have hmod : files.length % pageSize < pageSize := Nat.mod_lt _ (by decide)
  rw [hfiles.length_eq] at hask hreplies ⊢
  generalize files.length / pageSize = count at *
  -- The replies are those to the full pages and one more, which holds what is left.
  have hpieces (page : Nat) :
      (server (page + 1)).Holds around.room first ((files.drop (page * pageSize)).take pageSize) :=
    ⟨_, hserver page, List.forall₂_take _ (List.forall₂_drop _ hfiles)⟩
  have hleft : (server (count + 1)).Holds around.room first (files.drop (count * pageSize)) := by
    have htake : (files.drop (count * pageSize)).take pageSize = files.drop (count * pageSize) := by
      rw [List.take_of_length_le]
      rw [List.length_drop]
      omega
    exact htake ▸ hpieces count
  have hshort : (files.drop (count * pageSize)).length < pageSize := by
    rw [List.length_drop]
    omega
  have hle : count * pageSize ≤ files.length := by omega
  have hfull := holdsFull_pieces hpieces hle
  have hcount : ((List.range' 1 count).map server).length = count := by simp
  have hends : pagesFrom settings around.room target token 1 _ t.sent = (_, rest, _) :=
    CanAsk.pagesFrom_ends (hcount.symm ▸ hask) hfull hleft hshort
  rw [Report.flatten_take_pieces, List.take_append_drop, hcount] at hends
  rw [List.range'_1_concat, List.map_append, List.map_singleton, List.append_assoc, List.singleton_append,
    Nat.add_comm 1 count] at hreplies
  rw [changedFiles_eq htoken, hreplies, hends]

/-- A service that has a hundred empty records, on the first page. -/
def hundredServed (page : Nat) : Reply := if page = 1 then recordsReply 100 else recordsReply 0

theorem changedFiles_complete_hundred :
    changedFiles { githubToken := "secret" } keyless 0 77 widgets
        { replies := [recordsReply 100, recordsReply 0, .unreachable] } =
      (.ok (List.replicate 100 namelessFile),
        { replies := [.unreachable], sent := [firstAsked.atPage 1, firstAsked.atPage 2] }) := by
  have htoken : tokenFor { githubToken := "secret" } keyless 0 77
      { replies := [recordsReply 100, recordsReply 0, .unreachable] } =
        (.ok (.str "secret"), { replies := [recordsReply 100, recordsReply 0, .unreachable] }) := rfl
  have hserver (page : Nat) : (hundredServed (page + 1)).Says keyless.room firstAsked
      (.arr (((List.replicate 100 (Json.obj [])).drop (page * pageSize)).take pageSize)) := by
    cases page with
    | zero => exact recordsReply_says bodyValue_hundred
    | succ page =>
      have hnone : (List.replicate 100 (Json.obj [])).drop ((page + 1) * pageSize) = [] := by
        rw [List.drop_eq_nil_iff, List.length_replicate, Nat.succ_mul]
        exact Nat.le_add_left ..
      rw [hnone]
      exact recordsReply_says rfl
  exact changedFiles_complete htoken canAsk_widgets (nameless_files 100) hserver rfl

/-- A list of one file is not given, as it nests deeper than there is room for. -/
theorem changedFiles_complete_deep :
    fileOf (Json.nestedRecord 1000) = .ok namelessFile ∧
      nestedReply.Says 1003 firstAsked (.arr [Json.nestedRecord 1000]) ∧
      (changedFiles { githubToken := "secret" } keyless 0 77 widgets { replies := [nestedReply] }).1 =
        .error .deepReply := by
  refine ⟨fileOf_nestedRecord 1000, says_nestedReply, ?_⟩
  have htoken : tokenFor { githubToken := "secret" } keyless 0 77 { replies := [nestedReply] } =
      (.ok (.str "secret"), { replies := [nestedReply] }) := rfl
  rw [changedFiles_eq htoken, pagesFrom_reply (canAsk_widgets.pageRequest_eq (by decide)), pageOfReply_nested]

end PullReview.Listing
