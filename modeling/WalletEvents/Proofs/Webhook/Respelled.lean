import WalletEvents.Proofs.Json.Meaning
import WalletEvents.Proofs.Json.Rewritten
import WalletEvents.Proofs.Webhook.Authenticity

/-!
# Notices that are spelled differently

A sender may send a notice again with other blanks, other escapes, another order
of members, or members that are overruled later on. The body is then another one,
but it denotes the same value.

**Result.** The text that a fingerprint digests is the same for two bodies exactly
when they denote the same value: `fingerprint_text_eq_iff`. A receiver cannot tell
such bodies from one another at all: what it does with a request is one and the
same activity, so from every state it answers alike, hands the same event over and
ends in the same state (`endpoint_of_parse?_eq`, and `respond_of_parse?_eq` for the
router in front of it). `respelled_body_changes_nothing` puts both together.
-/

namespace WalletEvents

/-- Bodies with one canonical text denote the same, and the other way round. -/
theorem fingerprint_text_eq_iff
    {a b : List UInt8} {v w : Json} (ha : Json.parse? a = some v) (hb : Json.parse? b = some w) :
    Fingerprint.text v = Fingerprint.text w ↔ JsonValue.parse? a = JsonValue.parse? b := by
  rw [← Json.eq_iff_denotes_eq ha hb]
  constructor
  · intro htext
    exact Json.compress_injective (Utf8.encode_injective htext)
  · rintro rfl
    rfl

/-- What a router does with a request depends on the endpoints alone once the rest is fixed. -/
theorem Router.respond_of_endpoints_eq
    {m : Type → Type} [Monad m] {router : Router m} {q : Http.Request} {a b : List UInt8}
    (h : ∀ route ∈ router.routes, route.2 { q with body := a } = route.2 { q with body := b }) :
    router.respond { q with body := a } = router.respond { q with body := b } := by
  have hadmits : router.admits { q with body := a } = router.admits { q with body := b } := rfl
  unfold Router.respond
  rw [hadmits]
  cases hendpoint : router.endpoint? q.target with
  | none => rfl
  | some endpoint =>
      obtain ⟨route, hmem, -⟩ := RoutePath.mem_of_lead? hendpoint
      have hsame : endpoint { q with body := a } = endpoint { q with body := b } :=
        h (route, endpoint) hmem
      dsimp only
      rw [hsame]

namespace Receiver

variable {σ : Type} (r : Receiver σ) {a b : List UInt8}

/-- The receiver does the same with bodies of one value. -/
theorem endpoint_of_parse?_eq
    (ha : a.length ≤ maxBodyLength) (hb : b.length ≤ maxBodyLength)
    (hvalue : Json.parse? a = Json.parse? b) (kind : NoticeKind) (q : Http.Request) :
    r.endpoint kind { q with body := a } = r.endpoint kind { q with body := b } := by
  have hread : Arrival.read? kind q.headers a = Arrival.read? kind q.headers b := by
    unfold Arrival.read?
    rw [hvalue]
  unfold endpoint receive
  simp only [Nat.not_lt.mpr ha, Nat.not_lt.mpr hb, if_false, hread]

/-- The routers that an application can be built with: of a configuration, or with the usual paths. -/
def Builds (router : Router (Activity (Reception σ))) : Prop :=
  r.usualRouter? = some router ∨ ∃ c, r.router? c = some router

/-- Behind each route of a router there is the receiver. -/
theorem Builds.endpoint_of_mem
    {r : Receiver σ} {router : Router (Activity (Reception σ))} (h : r.Builds router)
    {route : RoutePath × Endpoint (Activity (Reception σ))} (hmem : route ∈ router.routes) :
    ∃ kind, route.2 = r.endpoint kind := by
  rcases h with husual | ⟨c, hconfig⟩
  · obtain ⟨routes, hroutes, rfl⟩ := Option.map_eq_some_iff.mp husual
    obtain ⟨path, hpath, -⟩ := RoutePath.mem_of_readAll? hroutes hmem
    simp only [List.mem_cons, Prod.mk.injEq, List.not_mem_nil, or_false] at hpath
    rcases hpath with ⟨-, hkind⟩ | ⟨-, hkind⟩
    · exact ⟨.transaction, hkind⟩
    · exact ⟨.bill, hkind⟩
  · obtain ⟨routes, hroutes, rfl⟩ := Option.map_eq_some_iff.mp hconfig
    obtain ⟨path, hpath, -⟩ := RoutePath.mem_of_readAll? hroutes hmem
    obtain ⟨⟨_, kind⟩, -, hkind⟩ := List.mem_map.mp hpath
    exact ⟨kind, (Prod.mk.inj hkind).2.symm⟩

/-- A router in front of the receiver does the same with bodies of one value. -/
theorem respond_of_parse?_eq
    {router : Router (Activity (Reception σ))} (hrouter : r.Builds router)
    (ha : a.length ≤ maxBodyLength) (hb : b.length ≤ maxBodyLength)
    (hvalue : Json.parse? a = Json.parse? b) (q : Http.Request) :
    router.respond { q with body := a } = router.respond { q with body := b } := by
  refine Router.respond_of_endpoints_eq fun route hmem => ?_
  obtain ⟨kind, hkind⟩ := hrouter.endpoint_of_mem hmem
  rw [hkind]
  exact r.endpoint_of_parse?_eq ha hb hvalue kind q

end Receiver

/--
**A body counts as the value that it denotes.** Two bodies that are read have one canonical text, the
one that their fingerprints digest, exactly when they denote the same value; and then no endpoint and
no router of a receiver does anything else when the one body is put in the place of the other.
-/
theorem respelled_body_changes_nothing
    {a b : List UInt8} {v w : Json} (ha : Json.parse? a = some v) (hb : Json.parse? b = some w) :
    ∃ x y, JsonValue.parse? a = some x ∧ JsonValue.parse? b = some y ∧
      (Fingerprint.text v = Fingerprint.text w ↔ x = y) ∧
      (x = y → a.length ≤ maxBodyLength → b.length ≤ maxBodyLength →
        ∀ {σ : Type} (r : Receiver σ) (q : Http.Request),
          (∀ kind, r.endpoint kind { q with body := a } = r.endpoint kind { q with body := b }) ∧
          ∀ router, r.Builds router →
            router.respond { q with body := a } = router.respond { q with body := b }) := by
  have hx := Json.meaning_of_parse? ha
  have hy := Json.meaning_of_parse? hb
  have htext := fingerprint_text_eq_iff ha hb
  rw [hx, hy, Option.some.injEq] at htext
  refine ⟨v.meaning, w.meaning, hx, hy, htext, fun hsame hlen hlen' σ r q => ?_⟩
  have hvalue : Json.parse? a = Json.parse? b := by
    rw [ha, hb, (Json.eq_iff_denotes_eq ha hb).mpr (by rw [hx, hy, hsame])]
  constructor
  · intro kind
    exact r.endpoint_of_parse?_eq hlen hlen' hvalue kind q
  · intro router hrouter
    exact r.respond_of_parse?_eq hrouter hlen hlen' hvalue q

/-- A body with blanks, an escape, and a member that is overruled. -/
def ornateBody : List UInt8 :=
  Utf8.encode "\x7b \"sum\": 9, \"\\u0069d\": \"7\", \"sum\": 10 \x7d"

/-- The value of the ornate body. -/
def ornateValue : Json := .object [("id", .string "7"), ("sum", .number (.integer 10 (by decide)))]

/-- The same value without any ornament. -/
def plainBody : List UInt8 := Utf8.encode ornateValue.compress

theorem parse?_ornateBody :
    Json.parse? ornateBody = some ornateValue := by
  have htree : JsonText.parse? ornateBody = some (.object [
      (Json.pieces "sum", .number ⟨false, ['9'], none, none⟩),
      ([.unit 0x69, .byte 100], .string (Json.pieces "7")),
      (Json.pieces "sum", .number ⟨false, ['1', '0'], none, none⟩)]) := by
    with_unfolding_all rfl
  have hname : Json.Piece.text? [.unit 0x69, .byte 100] = some "id" := by rfl
  have hsort : Json.sortMembers
      [("sum", Json.number (.integer 9 (by decide))), ("id", .string "7"),
        ("sum", .number (.integer 10 (by decide)))] =
        [("id", .string "7"), ("sum", .number (.integer 10 (by decide)))] := by
    simp [Json.sortMembers, Json.lastOfEach, List.mergeSort]
  have hnine : Json.Numeral.value? ⟨false, ['9'], none, none⟩ =
      some (.integer 9 (by decide)) := by rfl
  have hten : Json.Numeral.value? ⟨false, ['1', '0'], none, none⟩ =
      some (.integer 10 (by decide)) := by rfl
  unfold Json.parse?
  rw [htree]
  simp [JsonText.depthLimit, JsonText.value?, Json.text?_pieces, hname, hnine, hten, Json.objectOf,
    hsort, ornateValue]

theorem parse?_plainBody :
    Json.parse? plainBody = some ornateValue := by
  refine Json.Regular.parse?_compress ⟨?_, ?_⟩ ?_
  · simp [Json.Ascending]
  · simp [Json.Nested]
  · simp [ornateValue, Json.doubles, Json.memberDoubles]

/-- The ornate body in the place of the plain one. -/
theorem ornate_body_changes_nothing :
    Json.parse? ornateBody = some ornateValue ∧ Json.parse? plainBody = some ornateValue ∧
      ornateBody ≠ plainBody ∧ JsonValue.parse? ornateBody = JsonValue.parse? plainBody ∧
      ∀ {σ : Type} (r : Receiver σ) (q : Http.Request),
        (∀ kind,
          r.endpoint kind { q with body := ornateBody } =
            r.endpoint kind { q with body := plainBody }) ∧
        ∀ router, r.Builds router →
          router.respond { q with body := ornateBody } =
            router.respond { q with body := plainBody } := by
  obtain ⟨x, y, hx, hy, htext, hsame⟩ :=
    respelled_body_changes_nothing parse?_ornateBody parse?_plainBody
  obtain rfl : x = y := htext.mp rfl
  refine ⟨parse?_ornateBody, parse?_plainBody, by decide +kernel, hx.trans hy.symm,
    fun r q => hsame rfl ?_ ?_ r q⟩
  · decide +kernel
  · decide +kernel

end WalletEvents
