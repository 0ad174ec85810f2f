import PullReview.Listing.Pages

/-!
# The requests of a listing

The requests for the pages of a listing differ in their query alone, and there in the number of the page. So a
listing whose first page can be asked for can be asked for every page whose number fits into an address
(`CanAsk.pageRequest_eq`).
-/

namespace PullReview

/-! ## Other queries -/

theorem Text.percentEncode_of_forall {keep : Char → Bool} {cs : List Char} (h : ∀ c ∈ cs, keep c = true) :
    percentEncode keep cs = cs := by
  induction cs with
  | nil => rfl
  | cons c cs ih =>
    have hrest := ih fun d hd => h d (List.mem_cons_of_mem c hd)
    unfold percentEncode at hrest ⊢
    rw [List.flatMap_cons, hrest, if_pos (h c List.mem_cons_self), List.singleton_append]

namespace Web.Address

theorem inQuery_of_isDigit {c : Char} (h : c.isDigit = true) : inQuery c = true := by
  have hbounds : 48 ≤ c.toNat ∧ c.toNat ≤ 57 := by
    simpa [Char.isDigit, UInt32.le_iff_toNat_le] using h
  have hne {d : Char} (hd : d.toNat < 48 ∨ 57 < d.toNat) : (c == d) = false := by
    rw [beq_eq_false_iff_ne]
    rintro rfl
    omega
  have hlow : 0x20 < c.toNat := by omega
  have hhigh : c.toNat < 0x7F := by omega
  simp only [inQuery, printableBut, List.contains_cons, List.contains_nil, hlow, hhigh, hne (d := '"') (by decide),
    hne (d := '#') (by decide), hne (d := '<') (by decide), hne (d := '>') (by decide)]
  rfl

variable {a b : Address} {query other : List Char}

/-- An address that is read with one query is read with any other that fits, and the other is all that differs. -/
theorem withQuery?_other (h : a.withQuery? query = some b) (hkept : ∀ c ∈ other, inQuery c = true)
    (hlength : other.length ≤ lengthLimit) : a.withQuery? other = some { b with query := some other } := by
  simp only [withQuery?, ofParts?, Option.bind_eq_bind, Option.bind_eq_some_iff] at h ⊢
  obtain ⟨host, hhost, port, hport, h⟩ := h
  refine ⟨host, hhost, port, hport, ?_⟩
  split at h
  · cases h
  · rename_i hwritten
    cases h
    simp only [Option.getD_some, List.any_cons, List.any_nil, Bool.or_eq_true, decide_eq_true_eq, Bool.or_false,
      not_or] at hwritten ⊢
    obtain ⟨hfits, hscheme, hauthority, hpath, -, hfragment⟩ := hwritten
    rw [if_neg]
    · simp [Text.percentEncode_of_forall hkept]
    · simp only [not_or]
      exact ⟨hfits, hscheme, hauthority, hpath, Nat.not_lt.2 hlength, hfragment⟩

end Web.Address

namespace Listing

/-! ## The query of a page -/

/-- The query that asks for a page. -/
def pageQuery (page : Nat) : List Char := s!"per_page={pageSize}&page={page}".toList

theorem pageQuery_eq (page : Nat) : pageQuery page = "per_page=100&page=".toList ++ Nat.toDigits 10 page := by
  have hdigits : (toString page).toList = Nat.toDigits 10 page := Nat.toList_repr
  have hquery : s!"per_page={pageSize}&page={page}" = "per_page=100&page=" ++ toString page := rfl
  rw [pageQuery, hquery, String.toList_append, hdigits]

theorem inQuery_of_mem_pageQuery {page : Nat} {c : Char} (h : c ∈ pageQuery page) : Web.Address.inQuery c = true := by
  rw [pageQuery_eq, List.mem_append] at h
  rcases h with h | h
  · have hfixed : "per_page=100&page=".toList.all Web.Address.inQuery = true := rfl
    exact List.all_eq_true.1 hfixed c h
  · exact Web.Address.inQuery_of_isDigit (Nat.isDigit_of_mem_toDigits (by decide) (by decide) h)

theorem length_pageQuery_le {page last : Nat} (h : page ≤ last) :
    (pageQuery page).length ≤ (pageQuery last).length := by
  have hlast : last < 10 ^ (Nat.toDigits 10 last).length :=
    (Nat.length_toDigits_le_iff (by decide) Nat.length_toDigits_pos).1 (Nat.le_refl _)
  have hpage : (Nat.toDigits 10 page).length ≤ (Nat.toDigits 10 last).length :=
    (Nat.length_toDigits_le_iff (by decide) Nat.length_toDigits_pos).2 (Nat.lt_of_le_of_lt h hlast)
  rw [pageQuery_eq, pageQuery_eq, List.length_append, List.length_append]
  omega

/-! ## The requests -/

/-- A request that can be prepared with one query can be prepared with any other that fits, and the other is all that
differs. -/
theorem Outgoing.prepare_other {settings : Settings} {method : Method} {address : String} {query other : List Char}
    {token : Json} {request : Outgoing} (h : prepare settings method address (some query) token = .ok request)
    (hkept : ∀ c ∈ other, Web.Address.inQuery c = true) (hlength : other.length ≤ Web.Address.lengthLimit) :
    prepare settings method address (some other) token =
      .ok { request with address := { request.address with query := some other } } := by
  unfold prepare at h ⊢
  split at h
  · cases h
  · rename_i whole hwhole
    split at h
    · cases h
    · rename_i hplain
      split at h
      · cases h
      · rename_i asked hasked
        have hother : askedAddress? whole (some other) = some { asked with query := some other } :=
          Web.Address.withQuery?_other hasked hkept hlength
        have hhost : checkHost { asked with query := some other } = checkHost asked := rfl
        rw [if_neg hplain, hother]
        dsimp only
        rw [hhost]
        cases hcheck : checkHost asked with
        | error e =>
          rw [hcheck] at h
          cases h
        | ok _ =>
          rw [hcheck] at h
          cases h
          rfl

theorem pageRequest_eq_prepare (settings : Settings) (target : Target) (token : Json) (page : Nat) :
    pageRequest settings target token page =
      Outgoing.prepare settings .get
        s!"{baseAddress settings}/repos/{target.owner}/{target.name}/pulls/{target.number}/files"
        (some (pageQuery page)) token :=
  rfl

/-- The same request for another page. -/
def Outgoing.atPage (request : Outgoing) (page : Nat) : Outgoing :=
  { request with address := { request.address with query := some (pageQuery page) } }

/-- The changed files of a pull request can be asked for under a token: `first` is the request for the first page, and
the number of the page `last` fits into an address. -/
structure CanAsk (settings : Settings) (target : Target) (token : Json) (first : Outgoing) (last : Nat) : Prop where
  request : pageRequest settings target token 1 = .ok first
  /-- Without a scheme nothing can be replied. -/
  scheme : first.address.scheme ≠ []
  fits : (pageQuery last).length ≤ Web.Address.lengthLimit

/-- **The requests of a listing.** Every page is asked for at the same address with the same headers. -/
theorem CanAsk.pageRequest_eq {settings : Settings} {target : Target} {token : Json} {first : Outgoing}
    {page last : Nat} (h : CanAsk settings target token first last) (hpage : page ≤ last) :
    pageRequest settings target token page = .ok (first.atPage page) := by
  have hfirst := h.request
  rw [pageRequest_eq_prepare] at hfirst ⊢
  exact Outgoing.prepare_other hfirst (fun _ => inQuery_of_mem_pageQuery)
    (Nat.le_trans (length_pageQuery_le hpage) h.fits)

end Listing

end PullReview
