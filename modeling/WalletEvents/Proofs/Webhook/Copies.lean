import WalletEvents.Proofs.Webhook.Stages

/-!
# Copies of a notice

Authentic requests whose values have one fingerprint are copies of one notice.
They may come on different routes and be under way at the same time, and all of
them may find the fingerprint missing before one of them remembers it.

**Result.** `Receiver.one_copy_handed_over` says, for all schedules, that the copy
whose fingerprint is remembered first hands over its event, and that all the
others are told that their notice is taken and hand over nothing. If the digest
does not collide on the texts of the values that were sent, copies have one value.
-/

namespace WalletEvents

namespace Receiver

variable {ι σ : Type} {r : Receiver σ} {target : ι → Aim} {world : σ} {turns more : List (Turn ι)}
variable {i j : Nat} {f : Fingerprint}

/-- No turn takes a fingerprint out of the set. -/
theorem seen_snoc
    (hstatus : ∀ q response, target q = .error response → response.status ≠ 200)
    {next : Turn ι} (h : f ∈ (r.serving target world turns).state.seen.fingerprints) :
    f ∈ (r.serving target world (turns ++ [next])).state.seen.fingerprints := by
  rw [serving_snoc]
  rcases Crowd.turn_cases (r.serve target) (r.serving target world turns) next with
    ⟨q, -, hafter⟩ | ⟨i, t, thread, s, rest, -, hthread, hstep, hafter⟩ | hsame
  · rw [hafter]
    exact h
  · rw [hafter]
    rcases (standing hstatus turns).stage i thread hthread with
      ⟨hunchosen, hnone⟩ | ⟨a, hchosen, -⟩
    · rcases hunchosen.step hnone hstep with ⟨rfl, -⟩ | ⟨-, a, -, hmore, -⟩
      · exact h
      · simp [hmore, h]
    · obtain ⟨hseen, -, -⟩ := hchosen.step hstep
      simpa [hseen] using h
  · rw [hsame]
    exact h

theorem seen_append
    (hstatus : ∀ q response, target q = .error response → response.status ≠ 200)
    (h : f ∈ (r.serving target world turns).state.seen.fingerprints) (more : List (Turn ι)) :
    f ∈ (r.serving target world (turns ++ more)).state.seen.fingerprints := by
  induction more using List.reverseRecOn with
  | nil => simpa using h
  | append_singleton more last ih =>
      rw [← List.append_assoc]
      exact seen_snoc hstatus ih

/-- Only one request brings in a fingerprint. -/
theorem bringsIn_unique
    (hstatus : ∀ q response, target q = .error response → response.status ≠ 200)
    (hi : r.BringsIn target world turns i f) (hj : r.BringsIn target world turns j f) :
    i = j := by
  obtain ⟨before, t, after, hturns, hnew, hin⟩ := hi
  obtain ⟨before', t', after', hturns', hnew', hin'⟩ := hj
  rcases List.append_eq_append_iff.mp (hturns.symm.trans hturns') with
    ⟨between, hbefore, hafter⟩ | ⟨between, hbefore, hafter⟩
  · cases between with
    | nil =>
        obtain ⟨hturn, -⟩ := List.cons.inj hafter
        exact (Turn.advance.inj hturn).1
    | cons first between =>
        obtain ⟨rfl, -⟩ := List.cons.inj hafter
        refine absurd ?_ hnew'
        have hlater := seen_append hstatus hin between
        simpa [hbefore] using hlater
  · cases between with
    | nil =>
        obtain ⟨hturn, -⟩ := List.cons.inj hafter
        exact (Turn.advance.inj hturn).1.symm
    | cons first between =>
        obtain ⟨rfl, -⟩ := List.cons.inj hafter
        refine absurd ?_ hnew
        have hlater := seen_append hstatus hin' between
        simpa [hbefore] using hlater

section Genuine

variable {s : Reception (Logbook σ)} {aim : Aim} {n : Nat} {a : Arrival}
variable {rest : Activity (Reception (Logbook σ)) Http.Response}
variable {kind : NoticeKind} {q : Http.Request} {raw : Json} {e : Event}

/-- The notice that an authentic request brings. -/
theorem arrival_of_authentic
    {kind' : NoticeKind} {q' : Http.Request}
    (haim : aim = .ok (kind, q)) (haim' : aim = .ok (kind', q')) (hbrings : q'.Brings kind' a)
    (hauthentic : r.secrets.Authentic kind q raw e) :
    kind = kind' ∧ a.event = e ∧ a.fingerprint = .of raw := by
  obtain ⟨rfl, rfl⟩ : kind = kind' ∧ q = q' := by
    simpa [haim] using haim'
  obtain ⟨a', hread, hevent, hfingerprint, -⟩ := hauthentic.exists_arrival
  obtain rfl : a = a' := Option.some.inj (hbrings.2.symm.trans hread)
  exact ⟨rfl, hevent, hfingerprint⟩

/-- An authentic request that has ended without adding its fingerprint was told that its notice is
taken, since its fingerprint was known. -/
theorem Unchosen.taken_of_authentic
    (h : Unchosen r i s aim n rest) (haim : aim = .ok (kind, q))
    (hauthentic : r.secrets.Authentic kind q raw e) (hended : rest.hasEnded = true) :
    rest = .done kind.taken ∧ Fingerprint.of raw ∈ s.seen.fingerprints := by
  cases h with
  | arrived haim' hbrings => simp [lookAndGoOn, Activity.hasEnded] at hended
  | verified haim' hbrings hsigned => simp [rememberAndProcess, Activity.hasEnded] at hended
  | known haim' hbrings hseen =>
      obtain ⟨rfl, -, hfingerprint⟩ := arrival_of_authentic haim haim' hbrings hauthentic
      rw [← hfingerprint]
      exact ⟨rfl, hseen⟩
  | refused hstatus hnot => exact absurd hauthentic (hnot kind q raw e haim)

/-- A chosen request that is authentic is chosen for the fingerprint of its value, and has handed
over its own event or nothing. -/
theorem Chosen.of_authentic
    (h : Chosen r i s aim a n rest) (haim : aim = .ok (kind, q))
    (hauthentic : r.secrets.Authentic kind q raw e) :
    a.fingerprint = .of raw ∧
      (s.inner.eventsOf i = [] ∨ s.inner.eventsOf i = [e]) ∧
      (rest.hasEnded = true → s.inner.eventsOf i = [e]) := by
  obtain ⟨-, -, kind', q', haim', hbrings, -⟩ := h.genuine
  obtain ⟨-, rfl, hfingerprint⟩ := arrival_of_authentic haim haim' hbrings hauthentic
  refine ⟨hfingerprint, ?_⟩
  cases h with
  | remembered haim'' hbrings' hsigned hseen hevents =>
      refine ⟨Or.inl hevents, fun hended => ?_⟩
      simp [afterRemember, within_logged_process, Activity.hasEnded] at hended
  | handed haim'' hbrings' hsigned hseen hevents hn hrest =>
      exact ⟨Or.inr hevents, fun _ => hevents⟩

/-- A chosen request is authentic. -/
theorem Chosen.exists_authentic
    (h : Chosen r i s aim a n rest) :
    ∃ kind q raw, aim = .ok (kind, q) ∧ r.secrets.Authentic kind q raw a.event ∧
      a.fingerprint = .of raw := by
  obtain ⟨-, -, kind, q, haim, hbrings, hsigned⟩ := h.genuine
  obtain ⟨raw, hauthentic, hfingerprint⟩ :=
    WebhookSecrets.authentic_of_arrival hbrings.1 hbrings.2 hsigned
  exact ⟨kind, q, raw, haim, hauthentic, hfingerprint⟩

end Genuine

section Invariant

variable {c : Crowd ι (Reception (Logbook σ)) Http.Response}
variable {thread : Thread ι (Reception (Logbook σ)) Http.Response}
variable {kind : NoticeKind} {q : Http.Request} {raw : Json} {e : Event}

/-- An authentic request that has ended, or has got past its signature, has a known fingerprint. -/
theorem Standing.seen_of_authentic
    (h : Standing r target world turns c) (hthread : c.threads[i]? = some thread)
    (haim : target thread.request = .ok (kind, q))
    (hauthentic : r.secrets.Authentic kind q raw e)
    (hpast : thread.rest.hasEnded = true ∨ 2 ≤ thread.steps) :
    Fingerprint.of raw ∈ c.state.seen.fingerprints := by
  rcases h.stage i thread hthread with ⟨hunchosen, -⟩ | ⟨a, hchosen, -⟩
  · rcases hpast with hended | hsteps
    · exact (hunchosen.taken_of_authentic haim hauthentic hended).2
    · generalize hn : thread.steps = n at hunchosen hsteps
      generalize hrest : thread.rest = rest at hunchosen
      cases hunchosen with
      | arrived haim' hbrings => omega
      | verified haim' hbrings hsigned => omega
      | known haim' hbrings hseen =>
          rw [← (arrival_of_authentic haim haim' hbrings hauthentic).2.2]
          exact hseen
      | refused hstatus hnot => exact absurd hauthentic (hnot kind q raw e haim)
  · rw [← (hchosen.of_authentic haim hauthentic).1]
    exact hchosen.genuine.2.1

/-- A known fingerprint was brought in by an authentic request. -/
theorem Standing.exists_first
    (h : Standing r target world turns c) (hf : f ∈ c.state.seen.fingerprints) :
    ∃ i thread a kind q raw, c.threads[i]? = some thread ∧
      r.BringsIn target world turns i f ∧
      Chosen r i c.state (target thread.request) a thread.steps thread.rest ∧
      target thread.request = .ok (kind, q) ∧ r.secrets.Authentic kind q raw a.event ∧
      Fingerprint.of raw = f := by
  obtain ⟨i, hbrings⟩ := h.brought f hf
  obtain ⟨thread, a, hthread, hchosen, rfl⟩ := h.chosen i f hbrings
  obtain ⟨kind, q, raw, haim, hauthentic, hraw⟩ := hchosen.exists_authentic
  exact ⟨i, thread, a, kind, q, raw, hthread, hbrings, hchosen, haim, hauthentic, hraw.symm⟩

end Invariant

/-- Requests to the routes of both kinds, which take their steps as the turns say. -/
def servingNotices (r : Receiver σ) (world : σ) (turns : List (Turn (NoticeKind × Http.Request))) :
    Crowd (NoticeKind × Http.Request) (Reception (Logbook σ)) Http.Response :=
  r.serving .ok world turns

/-- A request in a crowd is an authentic copy of the notice with a fingerprint. -/
structure IsCopy (r : Receiver σ)
    (c : Crowd (NoticeKind × Http.Request) (Reception (Logbook σ)) Http.Response)
    (f : Fingerprint) (i : Nat)
    (thread : Thread (NoticeKind × Http.Request) (Reception (Logbook σ)) Http.Response)
    (raw : Json) (e : Event) : Prop where
  present : c.threads[i]? = some thread
  authentic : r.secrets.Authentic thread.request.1 thread.request.2 raw e
  fingerprint : Fingerprint.of raw = f

/-- The values that the requests in a crowd have sent. -/
def sentValues {α : Type} (request : ι → Http.Request) (c : Crowd ι α Http.Response) : Set Json :=
  {raw | ∃ thread ∈ c.threads, Json.parse? (request thread.request).body = some raw}

theorem IsCopy.mem_sentValues
    {c : Crowd (NoticeKind × Http.Request) (Reception (Logbook σ)) Http.Response}
    {thread : Thread (NoticeKind × Http.Request) (Reception (Logbook σ)) Http.Response}
    {raw : Json} {e : Event} (h : r.IsCopy c f i thread raw e) :
    raw ∈ sentValues Prod.snd c :=
  ⟨thread, List.mem_of_getElem? h.present, h.authentic.parsed⟩

/-- **One copy of a notice hands over its event, and all the others are told that it is taken.**

As soon as some copy has ended, there is a first copy, the one that has brought in the fingerprint.
It hands over its own event once; every other copy hands over nothing and ends with the success of
its route. If the digest does not collide on what was sent, they all have the value of the first. -/
theorem one_copy_handed_over
    (r : Receiver σ) (world : σ) (turns : List (Turn (NoticeKind × Http.Request)))
    (f : Fingerprint)
    (hended : ∃ i thread raw e, r.IsCopy (r.servingNotices world turns) f i thread raw e ∧
      thread.rest.hasEnded = true) :
    ∃ first thread raw e,
      r.IsCopy (r.servingNotices world turns) f first thread raw e ∧
      r.BringsIn .ok world turns first f ∧
      ((r.servingNotices world turns).state.inner.eventsOf first = [] ∨
        (r.servingNotices world turns).state.inner.eventsOf first = [e]) ∧
      (thread.rest.hasEnded = true →
        (r.servingNotices world turns).state.inner.eventsOf first = [e]) ∧
      ∀ j other raw' e',
        j ≠ first → r.IsCopy (r.servingNotices world turns) f j other raw' e' →
        (r.servingNotices world turns).state.inner.eventsOf j = [] ∧
        (other.rest.hasEnded = true → other.rest = .done other.request.1.taken) ∧
        (Set.InjOn Sha256.digest
          (Fingerprint.text '' sentValues Prod.snd (r.servingNotices world turns)) → raw' = raw) := by
  have hstatus : ∀ (q : NoticeKind × Http.Request) (response : Http.Response),
      (.ok q : Aim) = .error response → response.status ≠ 200 := by
    rintro q response ⟨⟩
  have hstanding : Standing r .ok world turns (r.servingNotices world turns) :=
    standing hstatus turns
  have hseen : f ∈ (r.servingNotices world turns).state.seen.fingerprints := by
    obtain ⟨i, thread, raw, e, hcopy, hend⟩ := hended
    rw [← hcopy.fingerprint]
    exact hstanding.seen_of_authentic hcopy.present rfl hcopy.authentic (Or.inl hend)
  obtain ⟨first, thread, a, kind, q, raw, hthread, hfirst, hchosen, haim, hauthentic, hraw⟩ :=
    hstanding.exists_first hseen
  have hrequest : thread.request = (kind, q) := Except.ok.inj haim
  have hcopy : r.IsCopy (r.servingNotices world turns) f first thread raw a.event := by
    refine ⟨hthread, ?_, hraw⟩
    rw [hrequest]
    exact hauthentic
  obtain ⟨-, hevents, hend⟩ := hchosen.of_authentic haim hauthentic
  refine ⟨first, thread, raw, a.event, hcopy, hfirst, hevents, hend, ?_⟩
  intro j other raw' e' hj hother
  have hunchosen : Unchosen r j (r.servingNotices world turns).state (.ok other.request)
      other.steps other.rest ∧ (r.servingNotices world turns).state.inner.eventsOf j = [] := by
    rcases hstanding.stage j other hother.present with h | ⟨a', hchosen', hbrings'⟩
    · exact h
    · rw [(hchosen'.of_authentic rfl hother.authentic).1, hother.fingerprint] at hbrings'
      exact absurd (bringsIn_unique hstatus hbrings' hfirst) hj
  refine ⟨hunchosen.2, ?_, ?_⟩
  · intro hend'
    exact (hunchosen.1.taken_of_authentic rfl hother.authentic hend').1
  · intro hdigest
    exact Fingerprint.of_injOn hdigest hother.mem_sentValues hcopy.mem_sentValues
      (hother.fingerprint.trans hcopy.fingerprint.symm)

/-- A receiver of small notices, with nothing to do for an event. -/
def small : Receiver Unit := ⟨smallSecrets, fun _ => .done (.ok ())⟩

/-- The request with the small notice. -/
def smallRequest : Http.Request := billRequest "/" [115, 51] smallValue smallNotice.bill

/-- Two copies look for their fingerprint, and then both of them remember it. -/
def smallTurns : List (Turn (NoticeKind × Http.Request)) :=
  [.arrive (.bill, smallRequest), .arrive (.bill, smallRequest),
    .advance 0 0, .advance 1 0, .advance 0 0, .advance 1 0]

theorem second_small_ended :
    (small.servingNotices () smallTurns).threads[1]? =
      some ⟨(.bill, smallRequest), 2, .done NoticeKind.bill.taken⟩ := by
  obtain ⟨a, hread, -, -, hsigned⟩ := (authentic_small "/").exists_arrival
  have hlen : ¬ maxBodyLength < smallRequest.body.length :=
    Nat.not_lt.mpr (authentic_small "/").length_le
  have hendpoint : ∀ i, (small.logged i).endpoint .bill smallRequest =
      (small.logged i).lookAndGoOn .bill a :=
    fun i => endpoint_of_arrival hlen hread
  have hsigned' : ∀ i, ((small.logged i).secrets.key? .bill).any a.signedBy = true :=
    fun _ => hsigned
  simp [smallTurns, servingNotices, serving, Crowd.run, Crowd.turn, serve, hendpoint, lookAndGoOn,
    Activity.step?, afterLook, hsigned', rememberAndProcess, SeenNotices.contains,
    SeenNotices.empty, SeenNotices.remember, afterRemember]

theorem one_copy_handed_over_of_small :
    (∃ i thread raw e,
      small.IsCopy (small.servingNotices () smallTurns) (.of smallValue) i thread raw e ∧
      thread.rest.hasEnded = true) ∧
    ∃ first thread raw e,
      small.IsCopy (small.servingNotices () smallTurns) (.of smallValue) first thread raw e ∧
      small.BringsIn .ok () smallTurns first (.of smallValue) := by
  have hended : ∃ i thread raw e,
      small.IsCopy (small.servingNotices () smallTurns) (.of smallValue) i thread raw e ∧
      thread.rest.hasEnded = true :=
    ⟨1, _, smallValue, .bill smallNotice,
      ⟨second_small_ended, authentic_small "/", rfl⟩, rfl⟩
  obtain ⟨first, thread, raw, e, hcopy, hbrings, -⟩ :=
    one_copy_handed_over small () smallTurns (.of smallValue) hended
  exact ⟨hended, first, thread, raw, e, hcopy, hbrings⟩

end Receiver

end WalletEvents
