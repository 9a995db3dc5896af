import WalletEvents.Proofs.Webhook.Authenticity

/-!
# Rejected requests leave no trace

A request is rejected when its response has a status from 400 to 499: its body
is no notice, its signature is missing or wrong, its sender is not allowed, or
nothing is behind its path and method.

**Input.** Requests that a router of notices answers one after another, each
with a number and at a time of its own, from any state on.

**Result.** `Receiver.rejected_requests_inert` compares two runs. If any rejected
requests are taken out of the first one, all the others get the same responses in
the second, and the same state is reached. The state holds the fingerprints, the
world of the handlers, and the events that were handed over with the numbers of
their requests.
-/

namespace WalletEvents

/-- The response refuses the request for what the sender has done. -/
def Http.Response.IsRejection (response : Http.Response) : Prop :=
  400 ≤ response.status ∧ response.status < 500

/-- A notice that was processed, well or not, is not rejected. -/
theorem NoticeKind.not_isRejection_of_processed
    (kind : NoticeKind) (result : Except DispatchError Unit) :
    ¬ (kind.response (result.mapError .handler)).IsRejection := by
  cases result with
  | ok value => cases kind <;> simp [Http.Response.IsRejection, Except.mapError, NoticeKind.response,
      NoticeKind.taken, Http.Response.plain, Http.Response.json]
  | error fault => simp [Http.Response.IsRejection, Except.mapError, NoticeKind.response,
      NoticeFault.response, NoticeFault.status, Http.Response.json]

theorem NoticeKind.not_isRejection_taken (kind : NoticeKind) :
    ¬ kind.taken.IsRejection :=
  kind.not_isRejection_of_processed (.ok ())

/-- A missing signature, which counts as an empty one, signs nothing. -/
theorem Signature.verify_empty (key : List UInt8) (text : String) :
    verify key text "" = false := by
  have hdecoded : Hex.decode? (trimText "") = some [] := by
    decide
  have hcode : Hmac.code key (Utf8.encode text) ≠ [] := by
    unfold Hmac.code Sha256.digest Sha256.State.bytes
    simp [Sha256.wordBytes]
  simp [verify, hdecoded, hcode]

namespace Receiver

variable {σ : Type} {r : Receiver σ} {kind : NoticeKind} {q : Http.Request}
variable {t t' : Nat} {response : Http.Response}

section Alone

variable {s s' : Reception σ} {a : Arrival}

/-- From the step on in which its fingerprint is remembered, a notice is not rejected. -/
theorem not_isRejection_of_remembered
    {fresh : Bool} (h : (r.afterRemember kind a fresh).run t s = (some response, t', s')) :
    ¬ response.IsRejection := by
  cases fresh with
  | false =>
      obtain ⟨rfl, -⟩ : kind.taken = response ∧ _ := by
        simpa [afterRemember, Activity.run] using h
      exact kind.not_isRejection_taken
  | true =>
      simp only [afterRemember, if_true, Activity.run_bind] at h
      rcases hrun : (within (r.process a.event)).run t s with ⟨_ | result, t'', s''⟩
      · simp [hrun] at h
      · obtain ⟨rfl, -⟩ : kind.response (result.mapError .handler) = response ∧ _ := by
          simpa [hrun, Activity.run] using h
        exact kind.not_isRejection_of_processed result

theorem run_lookAndGoOn_of_rejected
    (h : (r.lookAndGoOn kind a).run t s = (some response, t', s'))
    (hrejected : response.IsRejection) :
    t' = t ∧ s' = s := by
  simp only [lookAndGoOn, Activity.run] at h
  cases hknown : s.seen.contains a.fingerprint with
  | true =>
      obtain ⟨rfl, -⟩ : kind.taken = response ∧ _ := by
        simpa [hknown, afterLook, Activity.run] using h
      exact absurd hrejected kind.not_isRejection_taken
  | false =>
      cases hsigned : (r.secrets.key? kind).any a.signedBy with
      | false =>
          obtain ⟨-, rfl, rfl⟩ : _ ∧ t = t' ∧ s = s' := by
            simpa [hknown, hsigned, afterLook, Activity.run] using h
          exact ⟨rfl, rfl⟩
      | true =>
          simp only [hknown, hsigned, afterLook, Bool.false_eq_true, if_false, if_true,
            rememberAndProcess, Activity.run] at h
          exact absurd hrejected (not_isRejection_of_remembered h)

/-- A notice that is rejected takes no time and changes nothing. -/
theorem run_endpoint_of_rejected
    (h : (r.endpoint kind q).run t s = (some response, t', s'))
    (hrejected : response.IsRejection) :
    t' = t ∧ s' = s := by
  have hended : ∀ answer : Http.Response,
      (Activity.done answer : Activity (Reception σ) Http.Response).run t s =
        (some response, t', s') → t' = t ∧ s' = s := by
    intro answer hrun
    obtain ⟨-, rfl, rfl⟩ : answer = response ∧ t = t' ∧ s = s' := by
      simpa [Activity.run] using hrun
    exact ⟨rfl, rfl⟩
  by_cases hlen : maxBodyLength < q.body.length
  · rw [endpoint_of_tooLong hlen] at h
    exact hended _ h
  · cases hread : Arrival.read? kind q.headers q.body with
    | none =>
        rw [endpoint_of_unread hlen hread] at h
        exact hended _ h
    | some a =>
        rw [endpoint_of_arrival hlen hread] at h
        exact run_lookAndGoOn_of_rejected h hrejected

end Alone

/-- A request with a number and the time at which it is answered. -/
structure Delivery where
  number : Nat
  time : Nat
  request : Http.Request

variable {c : WebhookConfig} {s s' : Reception (Logbook σ)}

/-- A request that the router of a configuration rejects changes nothing. -/
theorem run_respondLogged_of_rejected
    {i : Nat} (h : (r.respondLogged c i q).run t s = (some response, t', s'))
    (hrejected : response.IsRejection) :
    s' = s := by
  unfold respondLogged at h
  cases hrouter : (r.logged i).router? c with
  | none => simp [hrouter, Activity.run] at h
  | some router =>
      obtain ⟨routes, hroutes⟩ := routes_of_built (Option.isSome_of_eq_some hrouter)
      simp only [hrouter, respond_eq hrouter hroutes] at h
      cases haim : aimOf c routes q with
      | error answer =>
          obtain ⟨-, -, rfl⟩ : answer = response ∧ t = t' ∧ s = s' := by
            simpa [haim, Activity.run] using h
          rfl
      | ok notice =>
          simp only [haim] at h
          exact (run_endpoint_of_rejected h hrejected).2

/-- The requests with their responses, and the state after them. A request whose work breaks off gets
no response. -/
def respondInTurn (r : Receiver σ) (c : WebhookConfig) :
    List Delivery → Reception (Logbook σ) →
      List (Delivery × Option Http.Response) × Reception (Logbook σ)
  | [], s => ([], s)
  | d :: rest, s =>
    let (response, _, s') := (r.respondLogged c d.number d.request).run d.time s
    let (answers, last) := r.respondInTurn c rest s'
    ((d, response) :: answers, last)

theorem respondInTurn_cons
    {d : Delivery} {answered : Option Http.Response}
    (h : (r.respondLogged c d.number d.request).run d.time s = (answered, t', s'))
    (rest : List Delivery) :
    r.respondInTurn c (d :: rest) s =
      ((d, answered) :: (r.respondInTurn c rest s').1, (r.respondInTurn c rest s').2) := by
  simp only [respondInTurn, h]

/-- **Rejected requests leave no trace.** Without them, all other requests get the same responses,
hand over the same events, and lead to the same state. -/
theorem rejected_requests_inert
    (r : Receiver σ) (c : WebhookConfig) (deliveries : List Delivery)
    (s : Reception (Logbook σ)) (keep : Delivery → Bool)
    (hrejected : ∀ d response, (d, response) ∈ (r.respondInTurn c deliveries s).1 →
      keep d = false → ∃ answer, response = some answer ∧ answer.IsRejection) :
    (r.respondInTurn c (deliveries.filter keep) s).1 =
        (r.respondInTurn c deliveries s).1.filter (fun answered => keep answered.1) ∧
      (r.respondInTurn c (deliveries.filter keep) s).2 = (r.respondInTurn c deliveries s).2 := by
  induction deliveries generalizing s with
  | nil => exact ⟨rfl, rfl⟩
  | cons d rest ih =>
      rcases hrun : (r.respondLogged c d.number d.request).run d.time s with ⟨response, t', s'⟩
      rw [respondInTurn_cons hrun] at hrejected ⊢
      obtain ⟨hanswers, hlast⟩ := ih s' fun d response hmem =>
        hrejected d response (List.mem_cons_of_mem _ hmem)
      cases hkeep : keep d with
      | true =>
          rw [List.filter_cons_of_pos hkeep, List.filter_cons_of_pos (by exact hkeep)]
          rw [respondInTurn_cons hrun]
          exact ⟨congrArg _ hanswers, hlast⟩
      | false =>
          obtain ⟨answer, rfl, hanswer⟩ := hrejected d response List.mem_cons_self hkeep
          obtain rfl := run_respondLogged_of_rejected hrun hanswer
          rw [List.filter_cons_of_neg (by simp [hkeep]), List.filter_cons_of_neg (by simp [hkeep])]
          exact ⟨hanswers, hlast⟩

/-- The small notice, sent by somebody who cannot sign it. -/
def unsignedBill : Http.Request := { smallBill with headers := [] }

/-- The unsigned notice comes before the signed one. -/
def forestalledDeliveries : List Delivery := [⟨0, 0, unsignedBill⟩, ⟨1, 5, smallBill⟩]

/-- Nothing has been received so far. -/
def firstState : Reception (Logbook Unit) := ⟨.empty, ⟨[], ()⟩⟩

theorem respondLogged_unsignedBill (i : Nat) :
    ∃ answer, answer.IsRejection ∧
      (small.respondLogged .usual i unsignedBill).run 0 firstState =
        (some answer, 0, firstState) := by
  obtain ⟨routes, hroutes, hlead⟩ := smallBill_routed
  have hmethod : unsignedBill.method = "POST" := rfl
  have hallows : allows .usual unsignedBill = true := rfl
  have haim : aimOf .usual routes unsignedBill = .ok (.bill, unsignedBill) := by
    have hlead' : RoutePath.lead? routes (Router.requestedPath unsignedBill.target) = some .bill :=
      hlead
    simp [aimOf, hlead', hmethod, hallows]
  obtain ⟨router, hrouter⟩ : ∃ router, (small.logged i).router? .usual = some router := by
    rw [router?_eq]
    exact ⟨_, congrArg (Option.map _) hroutes⟩
  have hlen : ¬ maxBodyLength < unsignedBill.body.length :=
    Nat.not_lt.mpr (authentic_small BillRoute.usual.path).length_le
  have hread : Arrival.read? .bill unsignedBill.headers unsignedBill.body =
      some ⟨.bill smallNotice, .of smallValue, fun secret => smallNotice.bill.verify secret ""⟩ := by
    have hvalue : BillNotice.read? smallValue = some smallNotice := rfl
    have hheader : billSignature unsignedBill.headers = "" := rfl
    have hparsed : Json.parse? unsignedBill.body = some smallValue := parse?_smallValue
    rw [Arrival.read?, hparsed, Option.bind_some, Arrival.ofJson?, hvalue, hheader]
    rfl
  have hunsigned : smallNotice.bill.verify [115, 51] "" = false := Signature.verify_empty _ _
  refine ⟨(NoticeFault.wrongSignature .bill).response, ⟨by decide, by decide⟩, ?_⟩
  unfold respondLogged
  simp only [hrouter]
  rw [respond_eq hrouter hroutes, haim]
  simp only [endpoint_of_arrival hlen hread]
  have hsecret : (small.logged i).secrets.key? .bill = some [115, 51] := rfl
  simp [lookAndGoOn, Activity.run, firstState, SeenNotices.contains, SeenNotices.empty, afterLook,
    hsecret, hunsigned, NoticeKind.response]

theorem rejected_requests_inert_of_unsigned :
    (∀ d response,
      (d, response) ∈ (small.respondInTurn .usual forestalledDeliveries firstState).1 →
      (d.number == 1) = false → ∃ answer, response = some answer ∧ answer.IsRejection) ∧
    (small.respondInTurn .usual [⟨1, 5, smallBill⟩] firstState).2 =
      (small.respondInTurn .usual forestalledDeliveries firstState).2 := by
  obtain ⟨answer, hanswer, hrun⟩ := respondLogged_unsignedBill 0
  have hrejected : ∀ d response,
      (d, response) ∈ (small.respondInTurn .usual forestalledDeliveries firstState).1 →
      (d.number == 1) = false → ∃ answer, response = some answer ∧ answer.IsRejection := by
    intro d response hmem hnumber
    rcases hsecond : (small.respondLogged .usual 1 smallBill).run 5 firstState with ⟨last, t', s'⟩
    rw [forestalledDeliveries, respondInTurn_cons (d := ⟨0, 0, unsignedBill⟩) hrun,
      respondInTurn_cons (d := ⟨1, 5, smallBill⟩) hsecond] at hmem
    rcases List.mem_cons.mp hmem with hfirst | hlast
    · cases hfirst
      exact ⟨answer, rfl, hanswer⟩
    · cases List.mem_singleton.mp hlast
      cases hnumber
  have hkept : forestalledDeliveries.filter (fun d => d.number == 1) = [⟨1, 5, smallBill⟩] := rfl
  have hinert := (rejected_requests_inert small .usual forestalledDeliveries firstState
    (fun d => d.number == 1) hrejected).2
  rw [hkept] at hinert
  exact ⟨hrejected, hinert⟩

end Receiver

end WalletEvents
