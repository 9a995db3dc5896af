import WalletEvents.Proofs.Webhook.Authenticity

/-!
# Notices that come again

A sender that is told of a failure sends its notice again, and whoever has seen
a notice can send it once more, or one that looks like it. What becomes of such
a request is settled by its fingerprint alone:

* if the fingerprint is unknown, the event is handed over, whatever else is
  known of the notice;
* if it is known, the notice is taken and nothing is handed over, whatever
  became of the event that was handed over for it.

**Results.** A fingerprint is remembered before the event is processed and is
never forgotten. `Receiver.failed_notice_stays_known` says what that means for a
notice whose event could not be processed, and
`Receiver.fingerprints_handed_over_differ` what it means for two events that are
handed over.
-/

namespace WalletEvents

/-- A notice that is taken is a success. -/
theorem NoticeKind.taken_status (kind : NoticeKind) :
    kind.taken.status = 200 := by
  cases kind <;> rfl

namespace Receiver

section Requests

variable {σ ι : Type} {r : Receiver σ} {target : ι → Aim} {world : σ}
variable {turns : List (Turn ι)} {i j : Nat} {f : Fingerprint}
variable {crowd : Crowd ι (Reception (Logbook σ)) Http.Response}
variable {thread : Thread ι (Reception (Logbook σ)) Http.Response}
variable {kind : NoticeKind} {q : Http.Request} {raw : Json} {e : Event}

theorem BringsIn.append
    (h : r.BringsIn target world turns i f) (more : List (Turn ι)) :
    r.BringsIn target world (turns ++ more) i f := by
  obtain ⟨before, t, after, rfl, hnew, hin⟩ := h
  exact ⟨before, t, after ++ more, by simp, hnew, hin⟩

theorem BringsIn.seen
    (hstatus : ∀ q response, target q = .error response → response.status ≠ 200)
    (h : r.BringsIn target world turns i f) :
    f ∈ (r.serving target world turns).state.seen.fingerprints := by
  obtain ⟨before, t, after, rfl, -, hin⟩ := h
  have hlater := seen_append hstatus hin after
  simpa using hlater

/-- An authentic request either brings in its fingerprint and hands over its event, or it hands
over nothing and is told that its notice is taken. -/
theorem Standing.first_or_taken
    (h : Standing r target world turns crowd) (hthread : crowd.threads[i]? = some thread)
    (haim : target thread.request = .ok (kind, q))
    (hauthentic : r.secrets.Authentic kind q raw e) :
    (r.BringsIn target world turns i (.of raw) ∧
      (thread.rest.hasEnded = true → crowd.state.inner.eventsOf i = [e])) ∨
    (crowd.state.inner.eventsOf i = [] ∧
      (thread.rest.hasEnded = true → thread.rest = .done kind.taken)) := by
  rcases h.stage i thread hthread with ⟨hunchosen, hnone⟩ | ⟨a, hchosen, hbrings⟩
  · exact Or.inr ⟨hnone, fun hended =>
      (hunchosen.taken_of_authentic haim hauthentic hended).1⟩
  · obtain ⟨hfingerprint, -, hend⟩ := hchosen.of_authentic haim hauthentic
    exact Or.inl ⟨hfingerprint ▸ hbrings, hend⟩

/-- Who hands over an event has brought in the fingerprint of its value. -/
theorem Standing.brings_of_handed
    (h : Standing r target world turns crowd)
    (he : (i, e) ∈ crowd.state.inner.handed) :
    ∃ thread kind q raw, crowd.threads[i]? = some thread ∧
      target thread.request = .ok (kind, q) ∧ r.secrets.Authentic kind q raw e ∧
      r.BringsIn target world turns i (.of raw) := by
  obtain ⟨thread, kind, q, raw, hthread, haim, hauthentic⟩ := h.authentic_of_handed he
  refine ⟨thread, kind, q, raw, hthread, haim, hauthentic, ?_⟩
  rcases h.first_or_taken hthread haim hauthentic with ⟨hbrings, -⟩ | ⟨hnone, -⟩
  · exact hbrings
  · have hevent := Logbook.mem_eventsOf_iff.mpr he
    simp [hnone] at hevent

/-- No request hands over two events. -/
theorem Standing.handed_once
    (h : Standing r target world turns crowd) :
    crowd.state.inner.handed.Pairwise fun x y => x.1 ≠ y.1 := by
  refine Logbook.pairwise_handed fun i => ?_
  by_cases hlt : i < crowd.threads.length
  · rcases h.stage i _ (List.getElem?_eq_getElem hlt) with ⟨-, hnone⟩ | ⟨a, hchosen, -⟩
    · simp [hnone]
    · obtain ⟨kind, q, raw, haim, hauthentic, -⟩ := hchosen.exists_authentic
      rcases (hchosen.of_authentic haim hauthentic).2.1 with hnone | hone
      · simp [hnone]
      · simp [hone]
  · have hnone : crowd.state.inner.eventsOf i = [] := by
      refine List.eq_nil_iff_forall_not_mem.mpr fun e he => ?_
      exact hlt (h.present i e (Logbook.mem_eventsOf_iff.mp he))
    simp [hnone]

/-- What is left of the processing of an event for a request. -/
def processing (r : Receiver σ) (kind : NoticeKind) (e : Event) :
    Activity (Reception (Logbook σ)) Http.Response :=
  (within ((r.process e).zoom Logbook.world fun world book => { book with world := world })).bind
    fun result => .done (kind.response (result.mapError .handler))

theorem serve_of_authentic
    {a : ι} (haim : target a = .ok (kind, q)) (hauthentic : r.secrets.Authentic kind q raw e) :
    ∃ arrival : Arrival, arrival.event = e ∧ arrival.fingerprint = .of raw ∧
      (r.secrets.key? kind).any arrival.signedBy = true ∧
      ∀ i, r.serve target i a = (r.logged i).lookAndGoOn kind arrival := by
  obtain ⟨arrival, hread, hevent, hfingerprint, hsigned⟩ := hauthentic.exists_arrival
  refine ⟨arrival, hevent, hfingerprint, hsigned, fun i => ?_⟩
  rw [serve, haim]
  exact endpoint_of_arrival (Nat.not_lt.mpr hauthentic.length_le) hread

theorem serving_append (turns more : List (Turn ι)) :
    r.serving target world (turns ++ more) =
      more.foldl (Crowd.turn (r.serve target)) (r.serving target world turns) := by
  simp [serving, Crowd.run]

variable {a : ι} {s : Reception (Logbook σ)}
variable {threads : List (Thread ι (Reception (Logbook σ)) Http.Response)}

/-- An authentic request whose fingerprint is known is told that its notice is taken. -/
theorem serving_of_known
    (hserving : r.serving target world turns = ⟨s, threads⟩)
    (haim : target a = .ok (kind, q)) (hauthentic : r.secrets.Authentic kind q raw e)
    (hknown : Fingerprint.of raw ∈ s.seen.fingerprints) (t : Nat) :
    r.serving target world (turns ++ [.arrive a, .advance threads.length t]) =
      ⟨s, threads ++ [⟨a, 1, .done kind.taken⟩]⟩ := by
  obtain ⟨arrival, -, hfingerprint, -, hserve⟩ := serve_of_authentic haim hauthentic
  have hcontains : s.seen.contains arrival.fingerprint = true := by
    rw [hfingerprint]
    exact SeenNotices.contains_iff.mpr hknown
  have hlook : ((r.logged threads.length).lookAndGoOn kind arrival).step? t s =
      some (s, .done kind.taken) := by
    simp [lookAndGoOn, Activity.step?, hcontains, afterLook]
  rw [serving_append, hserving]
  simp only [List.foldl_cons, List.foldl_nil]
  rw [Crowd.turn, hserve]
  exact Crowd.turn_advance_last hlook

/-- An authentic request whose fingerprint is unknown remembers it and hands over its event. -/
theorem serving_of_unknown
    (hserving : r.serving target world turns = ⟨s, threads⟩)
    (haim : target a = .ok (kind, q)) (hauthentic : r.secrets.Authentic kind q raw e)
    (hunknown : Fingerprint.of raw ∉ s.seen.fingerprints) (t t' t'' : Nat) :
    r.serving target world (turns ++ [.arrive a, .advance threads.length t,
        .advance threads.length t', .advance threads.length t'']) =
      ⟨⟨(s.seen.remember (.of raw)).2, s.inner.enter threads.length e⟩,
        threads ++ [⟨a, 3, r.processing kind e⟩]⟩ := by
  obtain ⟨arrival, rfl, hfingerprint, hsigned, hserve⟩ := serve_of_authentic haim hauthentic
  have hlook : ((r.logged threads.length).lookAndGoOn kind arrival).step? t s =
      some (s, (r.logged threads.length).rememberAndProcess kind arrival) := by
    have hcontains : s.seen.contains arrival.fingerprint = false := by
      rw [hfingerprint]
      exact Bool.eq_false_iff.mpr fun h => hunknown (SeenNotices.contains_iff.mp h)
    have hsigned' : ((r.logged threads.length).secrets.key? kind).any arrival.signedBy = true :=
      hsigned
    simp [lookAndGoOn, Activity.step?, hcontains, afterLook, hsigned']
  have hremember : ((r.logged threads.length).rememberAndProcess kind arrival).step? t' s =
      some ({ s with seen := (s.seen.remember (.of raw)).2 },
        (r.logged threads.length).afterRemember kind arrival true) := by
    have hfresh := (SeenNotices.remember_of_not_mem hunknown).1
    simp [rememberAndProcess, Activity.step?, hfingerprint, hfresh]
  rw [serving_append, hserving]
  simp only [List.foldl_cons, List.foldl_nil]
  rw [Crowd.turn, hserve, Crowd.turn_advance_last hlook, Crowd.turn_advance_last hremember]
  exact Crowd.turn_advance_last rfl

end Requests

section Router

variable {σ : Type} {r : Receiver σ} {c : WebhookConfig} {world : σ}
variable {turns more : List (Turn Http.Request)} {i : Nat} {kind : NoticeKind} {raw : Json} {e : Event}

theorem standing_servingRouter
    {routes : List (RoutePath × NoticeKind)} (hroutes : routes? c r.secrets = some routes)
    (world : σ) (turns : List (Turn Http.Request)) :
    Standing r (aimOf c routes) world turns (r.servingRouter c world turns) := by
  rw [servingRouter_eq hroutes]
  exact standing (fun _ _ h => aimOf_status h) turns

/-- **A notice whose event could not be processed stays known.**

An authentic request that is told of a failure has handed over its event and has itself brought its
fingerprint in. The fingerprint is still known after any further turns, so whoever sends the notice
again is told that it is taken, and nothing is handed over for it. -/
theorem failed_notice_stays_known
    (r : Receiver σ) (c : WebhookConfig) (world : σ) (turns more : List (Turn Http.Request))
    {thread : Thread Http.Request (Reception (Logbook σ)) Http.Response} {response : Http.Response}
    (hgenuine : r.IsGenuine c (r.servingRouter c world turns) i thread kind raw e)
    (hanswered : thread.rest = .done response) (hfailed : response.status ≠ 200) :
    (r.servingRouter c world turns).state.inner.eventsOf i = [e] ∧
    (∃ before t after, turns = before ++ .advance i t :: after ∧
      Fingerprint.of raw ∉ (r.servingRouter c world before).state.seen.fingerprints ∧
      Fingerprint.of raw ∈
        (r.servingRouter c world (before ++ [.advance i t])).state.seen.fingerprints) ∧
    Fingerprint.of raw ∈ (r.servingRouter c world (turns ++ more)).state.seen.fingerprints ∧
    ∀ j other kind' e', j ≠ i →
      r.IsGenuine c (r.servingRouter c world (turns ++ more)) j other kind' raw e' →
      (r.servingRouter c world (turns ++ more)).state.inner.eventsOf j = [] ∧
      (other.rest.hasEnded = true → other.rest = .done kind'.taken) := by
  obtain ⟨routes, hroutes, -⟩ := hgenuine.routed
  have hstatus : ∀ q response, aimOf c routes q = .error response → response.status ≠ 200 :=
    fun _ _ h => aimOf_status h
  have hended : thread.rest.hasEnded = true := by
    rw [hanswered]
    rfl
  obtain ⟨hbrings, hevents⟩ : r.BringsIn (aimOf c routes) world turns i (.of raw) ∧
      (r.servingRouter c world turns).state.inner.eventsOf i = [e] := by
    rcases (standing_servingRouter hroutes world turns).first_or_taken hgenuine.present
      (hgenuine.aim hroutes) hgenuine.authentic with ⟨hbrings, hend⟩ | ⟨-, hend⟩
    · exact ⟨hbrings, hend hended⟩
    · have htaken : response = kind.taken :=
        Activity.done.inj (hanswered.symm.trans (hend hended))
      exact absurd (htaken ▸ kind.taken_status) hfailed
  have hlater := hbrings.append more
  refine ⟨hevents, ?_, ?_, ?_⟩
  · simp only [servingRouter_eq hroutes]
    exact hbrings
  · rw [servingRouter_eq hroutes]
    exact hlater.seen hstatus
  · intro j other kind' e' hj hagain
    rcases (standing_servingRouter hroutes world (turns ++ more)).first_or_taken hagain.present
      (hagain.aim hroutes) hagain.authentic with ⟨hbrings', -⟩ | htaken
    · exact absurd (bringsIn_unique hstatus hbrings' hlater) hj
    · exact htaken

/-- One handler of bills, which fails on its first call; the world counts the calls. -/
def shakyHandlers : Dispatcher (Activity Nat) :=
  Dispatcher.empty.register .bill ⟨[], fun _ => .modifyGet fun _ calls =>
    (if calls = 0 then .failed ⟨"database is down"⟩ else .handled, calls + 1)⟩

/-- A receiver of small notices with these handlers. -/
def shaky : Receiver Nat := ⟨smallSecrets, shakyHandlers.processEvent⟩

/-- What the sender is told when the first call has failed. -/
def shakyFailure : Http.Response :=
  (NoticeFault.handler (.unhandled .bill ⟨"database is down"⟩)).response

/-- The small notice comes, is remembered and is handed over. -/
def handedTurns : List (Turn Http.Request) :=
  [.arrive smallBill, .advance 0 0, .advance 0 0, .advance 0 0]

/-- And then the handler is called. -/
def failedTurns : List (Turn Http.Request) := handedTurns ++ [.advance 0 0]

/-- The small notice comes again. -/
def againTurns : List (Turn Http.Request) := [.arrive smallBill, .advance 1 0]

theorem exists_smallRoutes :
    ∃ routes, routes? .usual smallSecrets = some routes ∧
      ∀ body, aimOf .usual routes { smallBill with body := body } =
        .ok (.bill, { smallBill with body := body }) := by
  obtain ⟨routes, hroutes, hlead⟩ := smallBill_routed
  refine ⟨routes, hroutes, fun body => ?_⟩
  have hmethod : smallBill.method = "POST" := rfl
  have hallows : ∀ q, allows .usual q = true := fun _ => rfl
  simp [aimOf, hlead, hmethod, hallows]

/-- The small notice is handed over by any receiver with its secret. -/
theorem serving_handedTurns
    {σ : Type} (r : Receiver σ) {routes : List (RoutePath × NoticeKind)}
    (hsecrets : r.secrets = smallSecrets)
    (haim : aimOf .usual routes smallBill = .ok (.bill, smallBill)) (world : σ) :
    r.serving (aimOf .usual routes) world handedTurns =
      ⟨⟨(SeenNotices.empty.remember (.of smallValue)).2, ⟨[(0, .bill smallNotice)], world⟩⟩,
        [⟨smallBill, 3, r.processing .bill (.bill smallNotice)⟩]⟩ := by
  have hstart : r.serving (aimOf .usual routes) world [] = ⟨⟨.empty, ⟨[], world⟩⟩, []⟩ := rfl
  have hauthentic : r.secrets.Authentic .bill smallBill smallValue (.bill smallNotice) := by
    rw [hsecrets]
    exact authentic_small BillRoute.usual.path
  exact serving_of_unknown hstart haim hauthentic List.not_mem_nil 0 0 0

/-- The first call fails, and the notice is remembered. -/
theorem shaky_failed :
    shaky.servingRouter .usual 0 failedTurns =
      ⟨⟨(SeenNotices.empty.remember (.of smallValue)).2, ⟨[(0, .bill smallNotice)], 1⟩⟩,
        [⟨smallBill, 4, .done shakyFailure⟩]⟩ := by
  obtain ⟨routes, hroutes, haim⟩ := exists_smallRoutes
  rw [servingRouter_eq hroutes, failedTurns, serving_snoc,
    serving_handedTurns shaky rfl (haim smallBill.body)]
  rfl

/-- The notice that comes again is taken, and the handler is not called again. -/
theorem shaky_again :
    shaky.servingRouter .usual 0 (failedTurns ++ againTurns) =
      ⟨⟨(SeenNotices.empty.remember (.of smallValue)).2, ⟨[(0, .bill smallNotice)], 1⟩⟩,
        [⟨smallBill, 4, .done shakyFailure⟩, ⟨smallBill, 1, .done NoticeKind.bill.taken⟩]⟩ := by
  obtain ⟨routes, hroutes, haim⟩ := exists_smallRoutes
  have hfailed := shaky_failed
  rw [servingRouter_eq hroutes] at hfailed ⊢
  exact serving_of_known hfailed (haim smallBill.body) (authentic_small BillRoute.usual.path)
    List.mem_cons_self 0

theorem shaky_genuine :
    shaky.IsGenuine .usual (shaky.servingRouter .usual 0 failedTurns) 0
      ⟨smallBill, 4, .done shakyFailure⟩ .bill smallValue (.bill smallNotice) := by
  obtain ⟨routes, hroutes, haim⟩ := exists_smallRoutes
  refine isGenuine_of_aim hroutes ?_ (haim smallBill.body) (authentic_small BillRoute.usual.path)
  rw [shaky_failed]
  rfl

theorem failed_notice_stays_known_of_shaky :
    shaky.IsGenuine .usual (shaky.servingRouter .usual 0 failedTurns) 0
      ⟨smallBill, 4, .done shakyFailure⟩ .bill smallValue (.bill smallNotice) ∧
    shakyFailure.status ≠ 200 ∧
    Fingerprint.of smallValue ∈
      (shaky.servingRouter .usual 0 (failedTurns ++ againTurns)).state.seen.fingerprints := by
  have hfailed : shakyFailure.status ≠ 200 := NoticeFault.status_response_ne _
  exact ⟨shaky_genuine, hfailed,
    (failed_notice_stays_known shaky .usual 0 failedTurns againTurns shaky_genuine rfl
      hfailed).2.2.1⟩

/-- The sender is told of a failure, so it sends the notice again, and is told that it is taken. No
handler has handled the notice, and none is called for it a second time. -/
theorem failed_bill_is_swallowed :
    shaky.IsGenuine .usual (shaky.servingRouter .usual 0 failedTurns) 0
      ⟨smallBill, 4, .done shakyFailure⟩ .bill smallValue (.bill smallNotice) ∧
    shakyFailure.status = 500 ∧
    (shaky.servingRouter .usual 0 [.arrive smallBill]).state.seen.fingerprints = [] ∧
    (shaky.servingRouter .usual 0 failedTurns).state.seen.fingerprints = [.of smallValue] ∧
    (shaky.servingRouter .usual 0 (failedTurns ++ againTurns)).threads[1]? =
      some ⟨smallBill, 1, .done NoticeKind.bill.taken⟩ ∧
    (shaky.servingRouter .usual 0 (failedTurns ++ againTurns)).state.inner.eventsOf 1 = [] ∧
    (shaky.servingRouter .usual 0 (failedTurns ++ againTurns)).state.inner.world = 1 := by
  refine ⟨shaky_genuine, rfl, rfl, ?_, ?_, ?_, ?_⟩
  · rw [shaky_failed]
    rfl
  · rw [shaky_again]
    rfl
  · rw [shaky_again]
    rfl
  · rw [shaky_again]

/-- **Any two events that are handed over have different fingerprints.**

So they come from bodies with different values. A request whose body has the fingerprint of an event
that another one has handed over hands over nothing, however the body is spelt, whatever stands in
the headers, and on whichever route it comes. -/
theorem fingerprints_handed_over_differ
    (r : Receiver σ) (c : WebhookConfig) (hbuilt : (r.router? c).isSome = true)
    (world : σ) (turns : List (Turn Http.Request)) :
    ((r.servingRouter c world turns).state.inner.handed.Pairwise fun x y =>
      ∃ thread kind raw other kind' raw',
        r.IsGenuine c (r.servingRouter c world turns) x.1 thread kind raw x.2 ∧
        r.IsGenuine c (r.servingRouter c world turns) y.1 other kind' raw' y.2 ∧
        Fingerprint.of raw ≠ Fingerprint.of raw' ∧ raw ≠ raw') ∧
    ∀ i thread kind raw e,
      r.IsGenuine c (r.servingRouter c world turns) i thread kind raw e →
      (i, e) ∈ (r.servingRouter c world turns).state.inner.handed →
      ∀ (j : Nat) other raw', j ≠ i →
        (r.servingRouter c world turns).threads[j]? = some other →
        Json.parse? other.request.body = some raw' → Fingerprint.of raw' = Fingerprint.of raw →
        (r.servingRouter c world turns).state.inner.eventsOf j = [] := by
  obtain ⟨routes, hroutes⟩ := routes_of_built hbuilt
  have hstatus : ∀ q response, aimOf c routes q = .error response → response.status ≠ 200 :=
    fun _ _ h => aimOf_status h
  have hstanding := standing_servingRouter hroutes world turns
  have hbrings : ∀ i e, (i, e) ∈ (r.servingRouter c world turns).state.inner.handed →
      ∃ thread kind raw,
        r.IsGenuine c (r.servingRouter c world turns) i thread kind raw e ∧
        r.BringsIn (aimOf c routes) world turns i (.of raw) := by
    intro i e he
    obtain ⟨thread, kind, q, raw, hthread, haim, hauthentic, hbrings⟩ :=
      hstanding.brings_of_handed he
    exact ⟨thread, kind, raw, isGenuine_of_aim hroutes hthread haim hauthentic, hbrings⟩
  constructor
  · refine hstanding.handed_once.imp_of_mem fun {x y} hx hy hne => ?_
    obtain ⟨thread, kind, raw, hgenuine, hfirst⟩ := hbrings x.1 x.2 hx
    obtain ⟨other, kind', raw', hgenuine', hfirst'⟩ := hbrings y.1 y.2 hy
    have hdiffer : Fingerprint.of raw ≠ Fingerprint.of raw' := by
      intro heq
      rw [heq] at hfirst
      exact hne (bringsIn_unique hstatus hfirst hfirst')
    exact ⟨thread, kind, raw, other, kind', raw', hgenuine, hgenuine', hdiffer,
      fun heq => hdiffer (congrArg Fingerprint.of heq)⟩
  · intro i thread kind raw e hgenuine he j other raw' hj hother hparsed hsame
    refine List.eq_nil_iff_forall_not_mem.mpr fun e' he' => hj ?_
    obtain ⟨thread', kind', raw₁, hgenuine₁, hfirst⟩ := hbrings i e he
    obtain ⟨other', kind'', raw₂, hgenuine₂, hagain⟩ :=
      hbrings j e' (Logbook.mem_eventsOf_iff.mp he')
    obtain rfl : raw₁ = raw := hgenuine₁.value_unique hgenuine.present hgenuine.authentic.parsed
    obtain rfl : raw₂ = raw' := hgenuine₂.value_unique hother hparsed
    rw [hsame] at hagain
    exact bringsIn_unique hstatus hagain hfirst

theorem router?_small :
    (small.router? .usual).isSome = true := by
  decide +kernel

/-- The value of the small notice with a comment. -/
def commentedValue : Json :=
  .array [.array [.string "shop", .string "7", .array [.string "1.00", .string "RUB"],
    .array [.string "PAID", .null], .null, .null, .string "again", .null, .null], .string "1"]

/-- The small notice with a comment. -/
def commentedNotice : BillNotice :=
  ⟨⟨"shop", "7", ⟨"1.00", "RUB"⟩, ⟨.paid, none⟩, none, none, some "again", none, none⟩, "1"⟩

/-- The request with the small notice, in whose body a comment has been added. -/
def commentedBill : Http.Request := { smallBill with body := Utf8.encode commentedValue.compress }

theorem authentic_commented :
    smallSecrets.Authentic .bill commentedBill commentedValue (.bill commentedNotice) := by
  have hparsed : Json.parse? (Utf8.encode commentedValue.compress) = some commentedValue := by
    unfold Json.parse?
    rw [JsonText.parse?_compress]
    simp [commentedValue, Json.tree, Json.itemTrees, JsonText.depthLimit, JsonText.value?,
      Json.text?_pieces]
  have hrequest : commentedBill =
      billRequest BillRoute.usual.path [115, 51] commentedValue commentedNotice.bill := rfl
  rw [hrequest]
  exact WebhookSecrets.authentic_billRequest rfl (by decide +kernel) hparsed rfl _

/-- The small notice comes and is handed over, and then the one with the comment. -/
def commentedTurns : List (Turn Http.Request) :=
  handedTurns ++ [.arrive commentedBill, .advance 1 0, .advance 1 0, .advance 1 0]

theorem commented_handed :
    (small.servingRouter .usual () commentedTurns).state.inner.handed =
      [(0, .bill smallNotice), (1, .bill commentedNotice)] := by
  obtain ⟨routes, hroutes, haim⟩ := exists_smallRoutes
  have hother : Fingerprint.of commentedValue ∉
      (SeenNotices.empty.remember (.of smallValue)).2.fingerprints := by
    have hdiffer : Fingerprint.of commentedValue ≠ Fingerprint.of smallValue := by
      decide +kernel
    exact fun h => hdiffer (List.mem_singleton.mp h)
  have hhanded := serving_handedTurns small rfl (haim smallBill.body) ()
  have hagain := serving_of_unknown hhanded (haim commentedBill.body) authentic_commented hother
    0 0 0
  rw [servingRouter_eq hroutes, commentedTurns]
  exact congrArg (fun crowd => crowd.state.inner.handed) hagain

theorem fingerprints_handed_over_differ_of_commented :
    (small.router? .usual).isSome = true ∧
    ∃ thread kind raw other kind' raw',
      small.IsGenuine .usual (small.servingRouter .usual () commentedTurns) 0 thread kind raw
        (.bill smallNotice) ∧
      small.IsGenuine .usual (small.servingRouter .usual () commentedTurns) 1 other kind' raw'
        (.bill commentedNotice) ∧
      Fingerprint.of raw ≠ Fingerprint.of raw' ∧ raw ≠ raw' := by
  have hdiffer := (fingerprints_handed_over_differ small .usual router?_small () commentedTurns).1
  rw [commented_handed, List.pairwise_pair] at hdiffer
  exact ⟨router?_small, hdiffer⟩

/-- A comment that is added to an observed notice has the handlers called again under the old
signature, although no signed field has changed. -/
theorem commented_bill_is_handed_over :
    (small.router? .usual).isSome = true ∧
    commentedBill.headers = smallBill.headers ∧
    (small.servingRouter .usual () commentedTurns).state.inner.handed =
      [(0, .bill smallNotice), (1, .bill commentedNotice)] ∧
    smallNotice.bill.amount.currency = commentedNotice.bill.amount.currency ∧
    smallNotice.bill.amount.value = commentedNotice.bill.amount.value ∧
    smallNotice.bill.billId = commentedNotice.bill.billId ∧
    smallNotice.bill.siteId = commentedNotice.bill.siteId ∧
    smallNotice.bill.status.value = commentedNotice.bill.status.value :=
  ⟨router?_small, rfl, commented_handed, rfl, rfl, rfl, rfl, rfl⟩

end Router

end Receiver

end WalletEvents
