import WalletEvents.Proofs.Json.Canonical
import WalletEvents.Proofs.Text.Split
import WalletEvents.Webhook.Route

/-!
# Paths of routes

A path is plain if it has no parameter and nothing that could be taken for one.
Plain paths make sense if they begin with a slash, and they can be told from one
another if they are different; `RoutePath.readAll?_isSome_iff_of_plain` says that
nothing else is asked of them.
-/

namespace WalletEvents

/-- A path has no braces, and none of its segments begins with a colon or an asterisk. -/
structure IsPlainPath (text : String) : Prop where
  braceless : ∀ c ∈ text.toList, c ≠ '\x7b' ∧ c ≠ '\x7d'
  unmarked : ∀ segment ∈ splitAll '/' text.toList,
    segment.head? ≠ some ':' ∧ segment.head? ≠ some '*'

namespace RoutePath

variable {β : Type} {text : String}

theorem ofText_of_braceless
    {text : List Char} (h : ∀ c ∈ text, c ≠ '\x7b' ∧ c ≠ '\x7d') :
    RouteSign.ofText text = text.map .plain := by
  fun_induction RouteSign.ofText text with
  | case1 => rfl
  | case2 rest ih => simp at h
  | case3 rest ih => simp at h
  | case4 c rest hnotopening hnotclosing ih =>
      obtain ⟨⟨hopening, hclosing⟩, hrest⟩ := List.forall_mem_cons.mp h
      rw [if_neg hopening, if_neg hclosing, ih hrest, List.map_cons]

theorem ofSigns?_plain (text : List Char) :
    ofSigns? (text.map .plain) = some (text.map .literal) := by
  induction text with
  | nil => simp [ofSigns?]
  | cons c rest ih => simp [ofSigns?, ih]

/-- The path of a plain route is made of its characters. -/
theorem read?_of_plain (h : IsPlainPath text) :
    read? text = if text.toList.head? = some '/' then some (text.toList.map .literal) else none := by
  have hunmarked : (splitAll '/' text.toList).any
      (fun segment => segment.head? == some ':' || segment.head? == some '*') = false := by
    rw [List.any_eq_false]
    intro segment hsegment
    simp [h.unmarked segment hsegment]
  have hcount : (text.toList.map RouteStep.literal).count .parameter = 0 := by
    rw [List.count_eq_zero]
    simp
  unfold read?
  by_cases hbegins : text.toList.head? = some '/'
  · rw [if_pos hbegins]
    rw [begins_iff_splitAll] at hbegins
    simp only [hbegins, hunmarked, ofText_of_braceless h.braceless, ofSigns?_plain, if_false,
      Bool.false_eq_true, Option.bind_eq_bind, Option.bind_some, hcount]
    rfl
  · rw [if_neg hbegins]
    rw [begins_iff_splitAll, not_not] at hbegins
    simp only [hbegins, if_true]
    rfl

/-- Routes without parameters clash only if they are the same. -/
theorem clashes_literal (text other : List Char) :
    clashes (text.map .literal) (other.map .literal) = true ↔ text = other := by
  induction text generalizing other with
  | nil => cases other <;> simp [clashes]
  | cons c rest ih =>
      cases other with
      | nil => simp [clashes]
      | cons d others =>
          by_cases hc : c = d
          · simp [clashes, hc, ih]
          · simp [clashes, hc]

/-- **Which plain paths are accepted**: those that begin with a slash and are different. -/
theorem readAll?_isSome_iff_of_plain
    {paths : List (String × β)} (h : ∀ entry ∈ paths, IsPlainPath entry.1) :
    (readAll? paths).isSome = true ↔
      (∀ entry ∈ paths, entry.1.toList.head? = some '/') ∧ (paths.map Prod.fst).Nodup := by
  by_cases hbegin : ∀ entry ∈ paths, entry.1.toList.head? = some '/'
  · have hread : paths.mapM (fun entry => (read? entry.1).map (·, entry.2)) =
        some (paths.map fun entry => (entry.1.toList.map .literal, entry.2)) := by
      rw [mapM_eq_some_iff, List.forall₂_map_right_iff, List.forall₂_same]
      intro entry hentry
      rw [read?_of_plain (h entry hentry), if_pos (hbegin entry hentry)]
      rfl
    have hpairwise : ((paths.map fun entry => (entry.1.toList.map RouteStep.literal, entry.2)).map
        Prod.fst).Pairwise (fun route other => !clashes route other) ↔
          (paths.map Prod.fst).Nodup := by
      rw [List.map_map, List.pairwise_map, List.Nodup, List.pairwise_map]
      refine List.Pairwise.iff fun entry other => ?_
      have hclashes := clashes_literal entry.1.toList other.1.toList
      simp only [Function.comp_apply, Bool.not_eq_true', ← Bool.not_eq_true, hclashes, ne_eq,
        String.toList_inj]
    unfold readAll?
    simp only [hread, Option.bind_eq_bind, Option.bind_some, hpairwise]
    split
    · next hnodup => exact ⟨fun _ => ⟨hbegin, hnodup⟩, fun _ => rfl⟩
    · next hnodup => exact ⟨nofun, fun hboth => absurd hboth.2 hnodup⟩
  · refine ⟨fun hsome => absurd ?_ hbegin, fun hboth => absurd hboth.1 hbegin⟩
    obtain ⟨routes, hroutes⟩ := Option.isSome_iff_exists.mp hsome
    obtain ⟨read, hread, -⟩ := Option.bind_eq_some_iff.mp hroutes
    intro entry hentry
    obtain ⟨route, -, hroute⟩ := exists_of_forall₂ (mapM_eq_some_iff.mp hread).flip hentry
    obtain ⟨steps, hsteps, -⟩ := Option.map_eq_some_iff.mp hroute
    rw [read?_of_plain (h entry hentry)] at hsteps
    by_contra hnot
    simp [hnot] at hsteps

end RoutePath

end WalletEvents
