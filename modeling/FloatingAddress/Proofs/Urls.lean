import FloatingAddress.Proofs.Secrecy
import Mathlib.Data.List.TakeDrop

/-!
# Why a URL is refused

A URL is taken apart before its parts are encoded, so that a part holds no code point that
the whole does not hold. Hence a text without surrogates that is no URL is refused for its
form, which is one kind of problem; other kinds come up with surrogates only.

* `Text.IsEncodable.mono`: parts of a text that can be encoded;
* `Url.RefusesForm`: a check that refuses for the form only, with rules for composed checks;
* `Url.kind_of_requested`: the kind of problem of a text that can be encoded.
-/

namespace FloatingAddress

/-! ## Parts of a text -/

namespace Text

variable {t part : Text}

theorem IsEncodable.mono
    (h : t.IsEncodable)
    (hpart : part ⊆ t) :
    part.IsEncodable :=
  fun c hc => h c (hpart hc)

end Text

namespace Url

variable {t : Text}

/-! ## Parts of a URL -/

theorem subset_of_cutScheme
    {scheme rest : Text}
    (h : cutScheme t = (scheme, rest)) :
    rest ⊆ t := by
  unfold cutScheme at h
  split at h
  · cases h
    exact List.Subset.refl t
  · next front after hcut =>
    have hafter := (Text.subset_of_cutAround hcut).2
    split at h
    · cases h
      exact hafter
    · split at h
      · cases h
        exact hafter
      · cases h
        exact List.Subset.refl t

theorem subset_of_cutAuthority
    {authority rest : Text}
    (h : cutAuthority t = (authority, rest)) :
    authority ⊆ t ∧ rest ⊆ t := by
  unfold cutAuthority at h
  split at h
  · cases h
    exact ⟨List.nil_subset t, List.Subset.refl t⟩
  · next after hafter =>
    have hsubset := Text.subset_of_after? hafter
    rw [List.span_eq_takeWhile_dropWhile] at h
    cases h
    exact
      ⟨List.Subset.trans (List.takeWhile_subset _) hsubset,
        List.Subset.trans (List.dropWhile_subset _) hsubset⟩

theorem subset_of_cutAt
    {mark : CodePoint}
    {front : Text}
    {rest : Option Text}
    (h : cutAt mark t = (front, rest)) :
    front ⊆ t ∧ ∀ after ∈ rest, after ⊆ t := by
  unfold cutAt at h
  split at h
  · cases h
    exact ⟨List.Subset.refl t, by simp⟩
  · next before after hcut =>
    cases h
    obtain ⟨hbefore, hafter⟩ := Text.subset_of_cutAround hcut
    exact ⟨hbefore, by simpa using hafter⟩

theorem subset_of_cutUserinfo
    {userinfo rest : Text}
    (h : cutUserinfo t = (userinfo, rest)) :
    userinfo ⊆ t := by
  unfold cutUserinfo at h
  dsimp only at h
  split at h
  · cases h
    exact List.nil_subset t
  · cases h
    exact List.take_subset _ t

theorem subset_intercalate
    {α : Type}
    {separator part : List α}
    {parts : List (List α)}
    (h : part ∈ parts) :
    part ⊆ separator.intercalate parts := by
  induction parts with
  | nil =>
      cases h
  | cons first parts ih =>
      rcases parts with _ | ⟨next, rest⟩
      · rw [List.intercalate_singleton, List.mem_singleton.mp h]
        exact List.Subset.refl first
      · rw [List.intercalate_cons_cons]
        rcases List.mem_cons.mp h with rfl | hrest
        · exact List.subset_append_of_subset_left _ (List.subset_append_left _ separator)
        · exact List.subset_append_of_subset_right _ (ih hrest)

theorem foldl_subset
    {α : Type}
    {keep : List α → α → List α}
    (hkeep : ∀ kept a, keep kept a ⊆ a :: kept)
    (as kept : List α) :
    as.foldl keep kept ⊆ as ++ kept := by
  induction as generalizing kept with
  | nil =>
      exact List.Subset.refl kept
  | cons a as ih =>
      refine List.Subset.trans (ih (keep kept a)) (List.append_subset.mpr ⟨?_, ?_⟩)
      · exact List.subset_cons_of_subset a (List.subset_append_left as kept)
      · refine List.Subset.trans (hkeep kept a) (List.cons_subset.mpr ⟨by simp, ?_⟩)
        exact List.subset_cons_of_subset a (List.subset_append_right as kept)

theorem resolveDots_subset
    (segments : List Text) :
    resolveDots segments ⊆ segments := by
  unfold resolveDots
  intro segment hsegment
  have hkept := List.mem_reverse.mp hsegment
  have hall := foldl_subset (fun kept a => ?_) segments [] hkept
  · simpa using hall
  · split
    · exact List.subset_cons_self a kept
    · split
      · split
        · exact List.subset_cons_self a kept
        · exact List.subset_cons_of_subset a (List.drop_subset 1 kept)
      · exact List.Subset.refl _

/-- Resolving the dot segments of a path brings no code point but slashes in. -/
theorem isEncodable_normalPath
    (h : t.IsEncodable) :
    (normalPath t).IsEncodable := by
  refine forall_mem_intercalate (by decide) fun segment hsegment => ?_
  have hjoined : List.intercalate [('/' : CodePoint)] (t.splitOn ('/' : CodePoint)) = t :=
    List.intercalate_splitOn _
  refine h.mono ?_
  rw [← hjoined]
  exact subset_intercalate (resolveDots_subset _ hsegment)

/-! ## Refusals -/

section Refusals

variable {α β : Type}

/-- Whatever is refused is refused for its form. -/
def RefusesForm (check : Except Problem α) : Prop :=
  ∀ problem, check = .error problem → problem.kind = "InvalidURL"

namespace RefusesForm

theorem ok
    (v : α) :
    RefusesForm (.ok v) := by
  intro problem h
  cases h

theorem error
    {problem : Problem}
    (h : problem.kind = "InvalidURL") :
    RefusesForm (.error problem : Except Problem α) := by
  intro problem' h'
  cases h'
  exact h

theorem bind
    {check : Except Problem α}
    {f : α → Except Problem β}
    (hcheck : RefusesForm check)
    (hf : ∀ v, RefusesForm (f v)) :
    RefusesForm (check >>= f) := by
  cases check with
  | error problem =>
      exact .error (hcheck problem rfl)
  | ok v =>
      exact hf v

theorem map
    {check : Except Problem α}
    (f : α → β)
    (h : RefusesForm check) :
    RefusesForm (check.map f) := by
  cases check with
  | error problem =>
      exact .error (h problem rfl)
  | ok v =>
      exact .ok (f v)

theorem mapM
    {check : α → Except Problem β}
    {as : List α}
    (h : ∀ a ∈ as, RefusesForm (check a)) :
    RefusesForm (as.mapM check) := by
  induction as with
  | nil =>
      exact .ok []
  | cons a as ih =>
      obtain ⟨ha, has⟩ := List.forall_mem_cons.mp h
      rw [List.mapM_cons]
      exact ha.bind fun b => (ih has).bind fun bs => .ok (b :: bs)

end RefusesForm
end Refusals

variable {isPlain : CodePoint → Bool}

/-- What can be encoded is quoted. -/
theorem refusesForm_quotePart
    (h : t.IsEncodable) :
    RefusesForm (quotePart isPlain t) := by
  refine .map _ (.mapM fun c hc => ?_)
  unfold quotePoint
  rw [h c hc]
  split
  · exact .ok _
  · exact .ok _

theorem isEncodable_toLower_of_isAscii
    (h : t.all CodePoint.isAscii) :
    t.toLower.IsEncodable := by
  intro c hc
  obtain ⟨d, hd, rfl⟩ := List.mem_map.mp hc
  have hascii := List.all_eq_true.mp h d hd
  simp only [CodePoint.isAscii, decide_eq_true_eq] at hascii
  unfold CodePoint.toLower CodePoint.isSurrogate
  split <;> simp <;> omega

theorem refusesForm_readHost
    (host : Text) :
    RefusesForm (readHost host) := by
  unfold readHost
  split
  · exact .ok []
  · split
    · split
      · exact .ok host
      · exact .error rfl
    · split
      · dsimp only
        split
        · exact .ok _
        · exact .error rfl
      · split
        · next hascii =>
          exact refusesForm_quotePart (isEncodable_toLower_of_isAscii hascii)
        · cases Hostname.encode host with
          | error problem =>
              exact .error rfl
          | ok encoded =>
              exact .ok encoded

theorem refusesForm_readPort
    (scheme port : Text) :
    RefusesForm (readPort scheme port) := by
  unfold readPort
  split
  · exact .ok _
  · split
    · exact .error rfl
    · exact .ok _

theorem refusesForm_checkPath
    (path : Text)
    (hasScheme hasAuthority : Bool) :
    RefusesForm (checkPath path hasScheme hasAuthority) := by
  unfold checkPath
  split
  · exact .error rfl
  · split
    · exact .error rfl
    · split
      · exact .error rfl
      · exact .ok ()

theorem refusesForm_mapM_quotePart
    {part? : Option Text}
    (h : ∀ part ∈ part?, part.IsEncodable) :
    RefusesForm (part?.mapM (quotePart isPlain)) := by
  cases part? with
  | none =>
      exact .ok none
  | some part =>
      exact .map some (refusesForm_quotePart (h part rfl))

theorem refusesForm_read
    (h : t.IsEncodable) :
    RefusesForm (read t) := by
  unfold read
  by_cases hlong : maxLength < t.length
  · rw [if_pos hlong]
    exact .error rfl
  · rw [if_neg hlong]
    dsimp only
    split
    · exact .error rfl
    · rcases hscheme : cutScheme t with ⟨scheme, afterScheme⟩
      rcases hauthority : cutAuthority afterScheme with ⟨authority, afterAuthority⟩
      rcases hfragment : cutAt '#' afterAuthority with ⟨front, fragment⟩
      rcases hquery : cutAt '?' front with ⟨path, query⟩
      rcases huserinfo : cutUserinfo authority with ⟨userinfo, hostport⟩
      rcases cutHost hostport with ⟨host, port⟩
      -- each part can be encoded, as it is cut out of the text
      have hafter := h.mono (subset_of_cutScheme hscheme)
      have hrest := hafter.mono (subset_of_cutAuthority hauthority).2
      have hfront := hrest.mono (subset_of_cutAt hfragment).1
      have hpath := hfront.mono (subset_of_cutAt hquery).1
      have huser :=
        (hafter.mono (subset_of_cutAuthority hauthority).1).mono
          (subset_of_cutUserinfo huserinfo)
      refine (refusesForm_quotePart huser).bind fun userinfo => ?_
      refine (refusesForm_readHost host).bind fun host => ?_
      refine (refusesForm_readPort scheme port).bind fun port => ?_
      refine (refusesForm_checkPath path _ _).bind fun _ => ?_
      refine .bind (refusesForm_quotePart ?_) fun path => ?_
      · split
        · exact isEncodable_normalPath hpath
        · exact hpath
      · refine .bind (refusesForm_mapM_quotePart ?_) fun query => ?_
        · exact fun part hpart => hfront.mono ((subset_of_cutAt hquery).2 part hpart)
        · refine .bind (refusesForm_mapM_quotePart ?_) fun fragment => .ok _
          exact fun part hpart => hrest.mono ((subset_of_cutAt hfragment).2 part hpart)

theorem refusesForm_fromRoot
    (u : Url) :
    RefusesForm u.fromRoot := by
  unfold fromRoot
  dsimp only
  split
  · exact .error rfl
  · split
    · exact .error rfl
    · exact .ok _

/-- A text that can be encoded and cannot be asked for is refused for its form. -/
theorem kind_of_requested
    (ht : t.IsEncodable)
    {problem : Problem}
    (h : requested t = .error problem) :
    problem.kind = "InvalidURL" := by
  have hrefuses : RefusesForm (requested t) := by
    refine (refusesForm_read ht).bind fun u => ?_
    split
    · exact .ok u
    · exact refusesForm_fromRoot u
  exact hrefuses problem h

end Url
end FloatingAddress
