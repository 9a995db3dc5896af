import WalletEvents.Proofs.Text.Split
import WalletEvents.Proofs.Url.Form
import WalletEvents.Url.Parser
import Mathlib.Data.List.Basic

/-!
# Endpoints below a URL

An endpoint is plain if its segments are made of letters, digits and hyphens. Read
relative to a URL it takes the place of the last segment, and nothing in it is encoded,
left out or taken for something else.

The segments may also have letters of other scripts, which are written in bytes:
`Url.join_of_words` says it of both. So written, a segment still tells what it was:
`Url.decode_normalSegment`.

A URL that was read has a list of segments if its scheme always has an authority:
`Url.exists_segments_of_read`.
-/

namespace WalletEvents

/-- A letter, a digit or a hyphen. -/
def IsPlainChar (c : Char) : Prop := c.isAlphanum = true ∨ c = '-'

instance : DecidablePred IsPlainChar := fun c =>
  inferInstanceAs (Decidable (c.isAlphanum = true ∨ c = '-'))

/-- A text of letters, digits and hyphens. -/
def IsPlainText (text : List Char) : Prop := ∀ c ∈ text, IsPlainChar c

/-- Plain segments behind one another. -/
def IsEndpoint (text : List Char) : Prop := ∀ c ∈ text, IsPlainChar c ∨ c = '/'

/-- A letter, a digit or a hyphen, or any character beyond ASCII. -/
def IsWordChar (c : Char) : Prop := IsPlainChar c ∨ 127 < c.toNat

instance : DecidablePred IsWordChar := fun c =>
  inferInstanceAs (Decidable (IsPlainChar c ∨ 127 < c.toNat))

/-- A text of letters of any script, digits and hyphens. -/
def IsWord (text : List Char) : Prop := ∀ c ∈ text, IsWordChar c

/-- Words behind one another. -/
def IsWordPath (text : List Char) : Prop := ∀ c ∈ text, IsWordChar c ∨ c = '/'

theorem IsPlainText.isWord {text : List Char} (h : IsPlainText text) :
    IsWord text :=
  fun c hc => .inl (h c hc)

theorem IsEndpoint.isWordPath {text : List Char} (h : IsEndpoint text) :
    IsWordPath text :=
  fun c hc => (h c hc).imp_left .inl

/-- Plain labels behind one another. -/
def IsDotted (text : List Char) : Prop := ∀ c ∈ text, IsPlainChar c ∨ c = '.'

instance (text : List Char) : Decidable (IsPlainText text) :=
  List.decidableBAll IsPlainChar text

instance (text : List Char) : Decidable (IsWord text) :=
  List.decidableBAll IsWordChar text

instance (text : List Char) : Decidable (IsEndpoint text) :=
  List.decidableBAll (fun c => IsPlainChar c ∨ c = '/') text

instance (text : List Char) : Decidable (IsDotted text) :=
  List.decidableBAll (fun c => IsPlainChar c ∨ c = '.') text

namespace IsPlainChar

variable {c : Char}

theorem not_mem_signs
    (h : IsPlainChar c) (signs : List Char)
    (hsigns : signs.any (fun sign => decide (IsPlainChar sign)) = false) :
    c ∉ signs := by
  intro hmem
  have hnot := List.any_eq_false.mp hsigns c hmem
  exact hnot (decide_eq_true h)

theorem toNat_bounds (h : IsPlainChar c) :
    32 < c.toNat ∧ c.toNat < 127 := by
  rcases h with h | rfl
  · have hranges : ((decide ('A'.val ≤ c.val ∧ c.val ≤ 'Z'.val) ||
        decide ('a'.val ≤ c.val) && decide (c.val ≤ 'z'.val)) ||
        decide ('0'.val ≤ c.val) && decide (c.val ≤ '9'.val)) = true := h
    simp only [Bool.or_eq_true, Bool.and_eq_true, decide_eq_true_eq, UInt32.le_iff_toNat_le]
      at hranges
    have hval : c.val.toNat = c.toNat := rfl
    rw [hval] at hranges
    rcases hranges with (⟨hlow, hhigh⟩ | ⟨hlow, hhigh⟩) | ⟨hlow, hhigh⟩
    all_goals
      simp at hlow hhigh
      omega
  · decide

theorem inPath (h : IsPlainChar c) :
    Percent.inPath c = true := by
  have hbounds := h.toNat_bounds
  have hfragment : c ∉ " \"<>`".toList := h.not_mem_signs _ (by decide)
  have hpath : c ∉ "#?\x7b\x7d".toList := h.not_mem_signs _ (by decide)
  simp only [Percent.inPath, Percent.inFragment, Percent.isPlain, String.contains_char_eq,
    hfragment, hpath]
  simp
  omega

end IsPlainChar

namespace Url

theorem withoutMargins_of_visible {text : List Char} (h : ∀ c ∈ text, 32 < c.toNat) :
    withoutMargins text = text := by
  have hkept : ∀ text : List Char, (∀ c ∈ text, 32 < c.toNat) → text.dropWhile isMargin = text := by
    intro text h
    cases text with
    | nil => rfl
    | cons c rest =>
        have hc := h c List.mem_cons_self
        rw [List.dropWhile_cons_of_neg]
        simp [isMargin]
        omega
  unfold withoutMargins
  rw [hkept text h, hkept text.reverse (by simpa using h), List.reverse_reverse]

theorem significant_of_visible {text : List Char} (h : ∀ c ∈ text, 32 < c.toNat) :
    significant text = text := by
  rw [significant, List.filter_eq_self]
  intro c hc
  have hvisible := h c hc
  simp only [isBreak, Bool.not_eq_true', Bool.or_eq_false_iff, beq_eq_false_iff_ne]
  refine ⟨⟨?_, ?_⟩, ?_⟩ <;> rintro rfl <;> revert hvisible <;> decide

theorem splitRest_of_path {text : List Char} (h : ∀ sign ∈ ['#', '?'], sign ∉ text) :
    splitRest text = (text, none, none) := by
  unfold splitRest
  rw [cutFirst?_of_not_mem (h '#' (by simp))]
  dsimp only
  rw [cutFirst?_of_not_mem (h '?' (by simp))]

section Endpoints

variable {text : List Char} {scheme : String}

theorem visible_of_wordPath (h : IsWordPath text) :
    ∀ c ∈ text, 32 < c.toNat := by
  intro c hc
  rcases h c hc with (hplain | hbeyond) | rfl
  · exact hplain.toNat_bounds.1
  · omega
  · decide

theorem not_mem_wordPath
    {sign : Char} (h : IsWordPath text) (hsign : ¬ IsWordChar sign) (hslash : sign ≠ '/') :
    sign ∉ text :=
  fun hmem => (h sign hmem).elim hsign hslash

theorem plainDots_of_no_percent (h : '%' ∉ text) :
    plainDots text = text := by
  fun_induction plainDots text with
  | case1 e rest hdot ih => simp at h
  | case2 e rest hdot ih => simp at h
  | case3 c rest hnot ih => rw [ih fun hmem => h (List.mem_cons_of_mem _ hmem)]
  | case4 => rfl

theorem normalSegment_of_plain (h : IsPlainText text) :
    normalSegment text = String.ofList text := by
  have hencode : Percent.encode Percent.inPath text = text := by
    induction text with
    | nil => rfl
    | cons c rest ih =>
        obtain ⟨hc, hrest⟩ := List.forall_mem_cons.mp h
        have ih := ih hrest
        unfold Percent.encode at ih ⊢
        rw [List.flatMap_cons, if_pos hc.inPath, ih]
        rfl
  rw [normalSegment, hencode]

theorem pushSegments_of_words
    (hscheme : scheme ≠ "file") {parts : List (List Char)} (h : ∀ part ∈ parts, IsWord part)
    (segments : List String) :
    pushSegments scheme segments parts = segments ++ parts.map normalSegment := by
  induction parts generalizing segments with
  | nil => simp [pushSegments]
  | cons part rest ih =>
      obtain ⟨hpart, hrest⟩ := List.forall_mem_cons.mp h
      have hdot : '.' ∉ part := fun hmem => absurd (hpart '.' hmem) (by decide)
      have hpercent : '%' ∉ part := fun hmem => absurd (hpart '%' hmem) (by decide)
      have hplain : plainDots part = part := plainDots_of_no_percent hpercent
      have hnotTwo : part ≠ ['.', '.'] := by
        rintro rfl
        simp at hdot
      have hnotOne : part ≠ ['.'] := by
        rintro rfl
        simp at hdot
      have hpush : pushSegment scheme segments part = segments ++ [normalSegment part] := by
        rw [pushSegment, if_neg fun hfile => hscheme hfile.1]
      rw [pushSegments, hplain, if_neg hnotTwo, if_neg hnotOne, hpush, ih hrest]
      simp

theorem appendPath_of_words
    (hscheme : scheme ≠ "file") (h : IsWordPath text) (segments : List String) :
    appendPath scheme segments text =
      segments ++ (splitAll '/' text).map normalSegment := by
  have hslashes : text.map (fun c => if isSlash (isSpecial scheme) c then '/' else c) = text := by
    refine (List.map_congr_left fun c hc => ?_).trans (List.map_id text)
    split
    · next hslash =>
      simp only [isSlash, Bool.or_eq_true, beq_iff_eq, Bool.and_eq_true] at hslash
      rcases hslash with rfl | ⟨-, rfl⟩
      · rfl
      · exact absurd hc (not_mem_wordPath h (by decide) (by decide))
    · rfl
  have hparts : ∀ part ∈ splitAll '/' text, IsWord part := by
    intro part hpart c hc
    obtain ⟨hmem, hslash⟩ := mem_of_mem_splitAll hpart hc
    exact (h c hmem).resolve_right hslash
  rw [appendPath, hslashes, pushSegments_of_words hscheme hparts]

/-- The segments of a plain endpoint stand for themselves. -/
theorem normalSegments_of_endpoint (h : IsEndpoint text) :
    (splitAll '/' text).map normalSegment = (splitAll '/' text).map String.ofList := by
  refine List.map_congr_left fun part hpart => normalSegment_of_plain fun c hc => ?_
  obtain ⟨hmem, hslash⟩ := mem_of_mem_splitAll hpart hc
  exact (h c hmem).resolve_right hslash

theorem appendPath_of_endpoint
    (hscheme : scheme ≠ "file") (h : IsEndpoint text) (segments : List String) :
    appendPath scheme segments text =
      segments ++ (splitAll '/' text).map String.ofList := by
  rw [appendPath_of_words hscheme h.isWordPath, normalSegments_of_endpoint h]

/-- **An endpoint of words is appended**, with their letters written in bytes where they are not in ASCII. -/
theorem join_of_words
    {base : Url} {segments : List String} {endpoint : String}
    (hpath : base.path = .segments segments) (hscheme : base.scheme ≠ "file")
    (h : IsWordPath endpoint.toList) :
    base.join endpoint = .ok { base with
      path := .segments
        (segments.dropLast ++ (splitAll '/' endpoint.toList).map normalSegment)
      query := none
      fragment := none } := by
  have hvisible := visible_of_wordPath h
  have hrest : splitRest endpoint.toList = (endpoint.toList, none, none) := by
    refine splitRest_of_path fun sign hsign => not_mem_wordPath h ?_ ?_ <;>
    · simp only [List.mem_cons, List.not_mem_nil, or_false] at hsign
      rcases hsign with rfl | rfl <;> decide
  rw [join, hpath]
  dsimp only
  rw [withoutMargins_of_visible hvisible, significant_of_visible hvisible, hrest]
  dsimp only
  rw [appendPath_of_words hscheme h, finish]
  rfl

end Endpoints

section Plain

variable {host path : List Char} {name : Host}

/-- The signs that mean something in an authority are not in a host of plain characters and dots. -/
theorem not_mem_host
    {sign : Char} (h : IsDotted host) (hsign : ¬ IsPlainChar sign) (hdot : sign ≠ '.') :
    sign ∉ host :=
  fun hmem => (h sign hmem).elim hsign hdot

theorem splitHost_of_plain (h : ∀ sign ∈ [':', '[', ']'], sign ∉ host) :
    splitHost false host = (host, []) := by
  induction host with
  | nil => rfl
  | cons c rest ih =>
      have hne : ∀ sign ∈ [':', '[', ']'], c ≠ sign := by
        rintro sign hsign rfl
        exact h c hsign List.mem_cons_self
      have hrest := ih fun sign hsign hmem => h sign hsign (List.mem_cons_of_mem _ hmem)
      rw [splitHost, if_neg fun hcolon => hne ':' (by simp) hcolon.1,
        if_neg (hne '[' (by simp)), if_neg (hne ']' (by simp))]
      dsimp only
      rw [hrest]

theorem hostAndPort_of_plain
    {scheme : String} (hscheme : isSpecial scheme = true) (hsome : host ≠ [])
    (h : ∀ sign ∈ [':', '[', ']'], sign ∉ host) (hname : Host.domain host = .ok name) :
    hostAndPort scheme host = .ok (name, none, []) := by
  have hnotEmpty : host.isEmpty = false := List.isEmpty_eq_false_iff.mpr hsome
  rw [hostAndPort, splitHost_of_plain h]
  simp only [hscheme, hnotEmpty, hname]
  rfl

theorem behindSlashes_of_plain
    (hsome : host ≠ []) (hhost : IsDotted host)
    (hname : Host.domain host = .ok name) (hpath : IsEndpoint path) :
    behindSlashes "http" (host ++ '/' :: path) = .ok {
      scheme := "http"
      authority := some ⟨"", "", name, none⟩
      path := .segments ((splitAll '/' path).map String.ofList)
      query := none
      fragment := none } := by
  have hends : ∀ c ∈ host, (!(c == '?' || c == '#' || isSlash (isSpecial "http") c)) = true := by
    intro c hc
    have hne : ∀ sign ∈ ['?', '#', '/', '\\'], c ≠ sign := by
      rintro sign hsign rfl
      revert hc
      simp only [List.mem_cons, List.not_mem_nil, or_false] at hsign
      rcases hsign with rfl | rfl | rfl | rfl <;>
        exact not_mem_host hhost (by decide) (by decide)
    simp [isSlash, hne]
  have hsigns : ∀ sign ∈ [':', '[', ']'], sign ∉ host := by
    intro sign hsign
    simp only [List.mem_cons, List.not_mem_nil, or_false] at hsign
    rcases hsign with rfl | rfl | rfl <;> exact not_mem_host hhost (by decide) (by decide)
  have hat : '@' ∉ host := not_mem_host hhost (by decide) (by decide)
  have hcut : cutAtLastAt? host = none := by
    rw [cutAtLastAt?, if_neg (by simpa using hat)]
  have hone : host ≠ ['@'] := by
    rintro rfl
    simp at hat
  have hrest : splitRest ('/' :: path) = ('/' :: path, none, none) := by
    refine splitRest_of_path fun sign hsign hmem => ?_
    simp only [List.mem_cons, List.not_mem_nil, or_false] at hsign
    rcases List.mem_cons.mp hmem with hslash | hmem
    · rcases hsign with rfl | rfl <;> cases hslash
    · rcases hsign with rfl | rfl <;> exact not_mem_wordPath hpath.isWordPath (by decide) (by decide) hmem
  have hroot : rootPath "http" ('/' :: path) = (splitAll '/' path).map String.ofList := by
    rw [rootPath, if_pos (by decide), appendPath_of_endpoint (by decide) hpath, List.nil_append]
  have hnobody : ¬ (name.isEmpty = true ∧
      (!decide ((userInfo []).1.isEmpty = true ∧ (userInfo []).2.isEmpty = true)) = true) := by
    have huser : userInfo [] = ("", "") := rfl
    simp [huser]
  rw [behindSlashes]
  dsimp only
  rw [List.takeWhile_append_of_pos hends, List.dropWhile_append_of_pos hends,
    List.takeWhile_cons_of_neg (by decide), List.dropWhile_cons_of_neg (by decide),
    List.append_nil, if_neg fun hboth => hone hboth.1, hcut, Option.getD_none,
    hostAndPort_of_plain (by decide) hsome hsigns hname]
  dsimp only [bind, Except.bind]
  rw [if_neg hnobody, List.nil_append, hrest, hroot]
  rfl

/-- **A plain URL is read as it stands.** -/
theorem read_of_plain
    (hsome : host ≠ []) (hhost : IsDotted host)
    (hname : Host.domain host = .ok name) (hpath : IsEndpoint path) :
    read (String.ofList ("http://".toList ++ (host ++ '/' :: path))) = .ok {
      scheme := "http"
      authority := some ⟨"", "", name, none⟩
      path := .segments ((splitAll '/' path).map String.ofList)
      query := none
      fragment := none } := by
  have hvisible : ∀ c ∈ "http://".toList ++ (host ++ '/' :: path), 32 < c.toNat := by
    intro c hc
    rcases List.mem_append.mp hc with hscheme | hc
    · have hall : "http://".toList.all (fun c => decide (32 < c.toNat)) = true := by
        decide
      exact of_decide_eq_true (List.all_eq_true.mp hall c hscheme)
    · rcases List.mem_append.mp hc with hc | hc
      · rcases hhost c hc with hplain | rfl
        · exact hplain.toNat_bounds.1
        · decide
      · rcases List.mem_cons.mp hc with rfl | hc
        · decide
        · exact visible_of_wordPath hpath.isWordPath c hc
  have hscheme : takeScheme? ("http://".toList ++ (host ++ '/' :: path)) =
      some ("http", '/' :: '/' :: (host ++ '/' :: path)) := by
    simp [takeScheme?, inScheme, String.contains_char_eq]
  have hdrop : ('/' :: '/' :: (host ++ '/' :: path)).dropWhile (isSlash true) =
      host ++ '/' :: path := by
    obtain ⟨c, rest, rfl⟩ := List.exists_cons_of_ne_nil hsome
    have hslash : isSlash true c = false := by
      rcases hhost c List.mem_cons_self with hplain | rfl
      · have hnot := hplain.not_mem_signs ['/', '\\'] (by decide)
        simpa [isSlash] using hnot
      · decide
    rw [List.dropWhile_cons_of_pos (by decide), List.dropWhile_cons_of_pos (by decide),
      List.cons_append, List.dropWhile_cons_of_neg (by simp [hslash])]
  rw [read, String.toList_ofList, withoutMargins_of_visible hvisible,
    significant_of_visible hvisible, hscheme]
  dsimp only
  rw [if_neg (by decide), if_pos (by decide), hdrop]
  exact behindSlashes_of_plain hsome hhost hname hpath

end Plain

theorem exists_of_bind_eq_ok
    {ε α β : Type} {x : Except ε α} {f : α → Except ε β} {b : β} (h : x >>= f = .ok b) :
    ∃ a, x = .ok a ∧ f a = .ok b := by
  cases x with
  | error fault => cases h
  | ok a => exact ⟨a, rfl, h⟩

theorem exists_segments_of_behindSlashes
    {scheme : String} {text : List Char} {u : Url} (h : behindSlashes scheme text = .ok u) :
    ∃ segments, u.path = .segments segments := by
  unfold behindSlashes at h
  dsimp only at h
  split at h
  · cases h
  · obtain ⟨place, -, h⟩ := exists_of_bind_eq_ok h
    split at h
    · cases h
    · cases h
      exact ⟨_, rfl⟩

theorem exists_segments_of_file
    {text : List Char} {u : Url} (h : file text = .ok u) :
    ∃ segments, u.path = .segments segments := by
  unfold file at h
  dsimp only at h
  split at h
  · cases h
    exact ⟨_, rfl⟩
  · split at h
    · cases h
      exact ⟨_, rfl⟩
    · obtain ⟨place, -, h⟩ := exists_of_bind_eq_ok h
      cases h
      exact ⟨_, rfl⟩

/-- A URL has segments if its scheme always has an authority. -/
theorem exists_segments_of_read
    {text : String} {u : Url} (h : read text = .ok u) (hscheme : isSpecial u.scheme = true) :
    ∃ segments, u.path = .segments segments := by
  unfold read at h
  dsimp only at h
  split at h
  · cases h
  · next scheme rest =>
    split at h
    · exact exists_segments_of_file h
    · split at h
      · exact exists_segments_of_behindSlashes h
      · next hgeneral =>
        unfold general at h
        split at h
        · exact exists_segments_of_behindSlashes h
        · dsimp only at h
          split at h
          · cases h
            exact ⟨_, rfl⟩
          · cases h
            exact absurd hscheme hgeneral

end Url

end WalletEvents
