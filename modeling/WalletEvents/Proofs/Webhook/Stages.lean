import WalletEvents.Proofs.Activity.Crowd
import WalletEvents.Proofs.Webhook.Authentic
import WalletEvents.Proofs.Webhook.Logbook

/-!
# The stages of a request among others

Many requests work on one set of fingerprints, in any order of their steps. A
request is *chosen* from the step on in which it adds its fingerprint to the
set; only then is its event handed over. Every other request is on its way to a
response that needs nobody else, as `Unchosen` says.

The invariant of all schedules is `Receiver.standing`:

* a request is chosen for a fingerprint exactly when it was its turn that
  brought the fingerprint into the set;
* the fingerprints in the set are those for which some request is chosen;
* only chosen requests hand over events, each its own one and only once.
-/

namespace WalletEvents

variable {ι σ : Type}

/-- What a request asks for: work on a notice of a kind, or a response that is known beforehand. -/
abbrev Aim := Except Http.Response (NoticeKind × Http.Request)

/-- The request carries a notice that can be read. -/
def Http.Request.Brings (q : Http.Request) (kind : NoticeKind) (a : Arrival) : Prop :=
  ¬ maxBodyLength < q.body.length ∧ Arrival.read? kind q.headers q.body = some a

/-- No refusal looks like a success. -/
theorem NoticeFault.status_response_ne (fault : NoticeFault) :
    fault.response.status ≠ 200 := by
  have hstatus : fault.status ≠ 200 := by
    cases fault <;> simp [NoticeFault.status]
  exact hstatus

namespace Receiver

/-- What is read off the state of the notices: the fingerprints and the events handed over. -/
def traces (s : Reception (Logbook σ)) : SeenNotices × List (Nat × Event) :=
  (s.seen, s.inner.handed)

/-- The stages of a request that has not added its fingerprint. -/
inductive Unchosen (r : Receiver σ) (i : Nat) (s : Reception (Logbook σ)) (aim : Aim) :
    Nat → Activity (Reception (Logbook σ)) Http.Response → Prop
  | arrived
      {kind : NoticeKind} {q : Http.Request} {a : Arrival}
      (haim : aim = .ok (kind, q)) (hbrings : q.Brings kind a) :
      Unchosen r i s aim 0 ((r.logged i).lookAndGoOn kind a)
  | verified
      {kind : NoticeKind} {q : Http.Request} {a : Arrival}
      (haim : aim = .ok (kind, q)) (hbrings : q.Brings kind a)
      (hsigned : (r.secrets.key? kind).any a.signedBy = true) :
      Unchosen r i s aim 1 ((r.logged i).rememberAndProcess kind a)
  | known
      {kind : NoticeKind} {q : Http.Request} {a : Arrival} {n : Nat}
      (haim : aim = .ok (kind, q)) (hbrings : q.Brings kind a)
      (hseen : a.fingerprint ∈ s.seen.fingerprints) :
      Unchosen r i s aim n (.done kind.taken)
  | refused
      {n : Nat} {response : Http.Response}
      (hstatus : response.status ≠ 200)
      (hnot : ∀ kind q raw e, aim = .ok (kind, q) → ¬ r.secrets.Authentic kind q raw e) :
      Unchosen r i s aim n (.done response)

/-- The stages of a request that has added its fingerprint. -/
inductive Chosen (r : Receiver σ) (i : Nat) (s : Reception (Logbook σ)) (aim : Aim) (a : Arrival) :
    Nat → Activity (Reception (Logbook σ)) Http.Response → Prop
  | remembered
      {kind : NoticeKind} {q : Http.Request}
      (haim : aim = .ok (kind, q)) (hbrings : q.Brings kind a)
      (hsigned : (r.secrets.key? kind).any a.signedBy = true)
      (hseen : a.fingerprint ∈ s.seen.fingerprints)
      (hevents : s.inner.eventsOf i = []) :
      Chosen r i s aim a 2 ((r.logged i).afterRemember kind a true)
  | handed
      {kind : NoticeKind} {q : Http.Request} {n : Nat}
      {rest : Activity (Reception (Logbook σ)) Http.Response}
      (haim : aim = .ok (kind, q)) (hbrings : q.Brings kind a)
      (hsigned : (r.secrets.key? kind).any a.signedBy = true)
      (hseen : a.fingerprint ∈ s.seen.fingerprints)
      (hevents : s.inner.eventsOf i = [a.event])
      (hn : 3 ≤ n) (hrest : rest.Keeps traces) :
      Chosen r i s aim a n rest

variable {r : Receiver σ} {i : Nat} {s s' : Reception (Logbook σ)} {aim : Aim} {n : Nat}
variable {rest rest' : Activity (Reception (Logbook σ)) Http.Response} {a : Arrival}

theorem Unchosen.mono
    (h : Unchosen r i s aim n rest)
    (hseen : ∀ f, f ∈ s.seen.fingerprints → f ∈ s'.seen.fingerprints) :
    Unchosen r i s' aim n rest := by
  cases h with
  | arrived haim hbrings => exact .arrived haim hbrings
  | verified haim hbrings hsigned => exact .verified haim hbrings hsigned
  | known haim hbrings hknown => exact .known haim hbrings (hseen _ hknown)
  | refused hstatus hnot => exact .refused hstatus hnot

theorem Chosen.mono
    (h : Chosen r i s aim a n rest)
    (hseen : ∀ f, f ∈ s.seen.fingerprints → f ∈ s'.seen.fingerprints)
    (hevents : s'.inner.eventsOf i = s.inner.eventsOf i) :
    Chosen r i s' aim a n rest := by
  cases h with
  | remembered haim hbrings hsigned hknown hnone =>
      exact .remembered haim hbrings hsigned (hseen _ hknown) (hevents.trans hnone)
  | handed haim hbrings hsigned hknown hone hn hrest =>
      exact .handed haim hbrings hsigned (hseen _ hknown) (hevents.trans hone) hn hrest

theorem Chosen.genuine
    (h : Chosen r i s aim a n rest) :
    2 ≤ n ∧ a.fingerprint ∈ s.seen.fingerprints ∧
      ∃ kind q, aim = .ok (kind, q) ∧ q.Brings kind a ∧
        (r.secrets.key? kind).any a.signedBy = true := by
  cases h with
  | remembered haim hbrings hsigned hseen hevents =>
      exact ⟨Nat.le_refl 2, hseen, _, _, haim, hbrings, hsigned⟩
  | handed haim hbrings hsigned hseen hevents hn hrest =>
      exact ⟨by omega, hseen, _, _, haim, hbrings, hsigned⟩

/-- A notice that no key has signed makes no request authentic. -/
theorem not_authentic_of_unsigned
    {kind : NoticeKind} {q : Http.Request}
    (haim : aim = .ok (kind, q)) (hbrings : q.Brings kind a)
    (hunsigned : (r.secrets.key? kind).any a.signedBy = false) :
    ∀ kind q raw e, aim = .ok (kind, q) → ¬ r.secrets.Authentic kind q raw e := by
  rintro kind' q' raw e haim' hauthentic
  obtain ⟨rfl, rfl⟩ : kind = kind' ∧ q = q' := by
    simpa [haim] using haim'
  obtain ⟨a', hread, -, -, hsigned⟩ := hauthentic.exists_arrival
  obtain rfl : a = a' := Option.some.inj (hbrings.2.symm.trans hread)
  simp [hunsigned] at hsigned

/-- A step of an unchosen request leaves the state alone, or it adds the fingerprint and the
request is chosen. -/
theorem Unchosen.step
    {t : Nat}
    (h : Unchosen r i s aim n rest) (hevents : s.inner.eventsOf i = [])
    (hstep : rest.step? t s = some (s', rest')) :
    (s' = s ∧ Unchosen r i s aim (n + 1) rest') ∨
    (s'.inner = s.inner ∧ ∃ a, a.fingerprint ∉ s.seen.fingerprints ∧
      s'.seen.fingerprints = a.fingerprint :: s.seen.fingerprints ∧
      Chosen r i s' aim a (n + 1) rest') := by
  cases h with
  | @arrived kind q a haim hbrings =>
      obtain ⟨rfl, rfl⟩ :
          s = s' ∧
            (r.logged i).afterLook kind a (s.seen.contains a.fingerprint) = rest' := by
        simpa [lookAndGoOn, Activity.step?] using hstep
      refine Or.inl ⟨rfl, ?_⟩
      cases hknown : s.seen.contains a.fingerprint with
      | true => exact .known haim hbrings (SeenNotices.contains_iff.mp hknown)
      | false =>
          cases hsigned : (r.secrets.key? kind).any a.signedBy with
          | true =>
              have hrest : (r.logged i).afterLook kind a false =
                  (r.logged i).rememberAndProcess kind a := by
                simp [afterLook, logged, hsigned]
              rw [hrest]
              exact .verified haim hbrings hsigned
          | false =>
              have hrest : (r.logged i).afterLook kind a false =
                  .done (kind.response (.error (.wrongSignature kind))) := by
                simp [afterLook, logged, hsigned]
              rw [hrest]
              exact .refused (NoticeFault.status_response_ne _)
                (not_authentic_of_unsigned haim hbrings hsigned)
  | @verified kind q a haim hbrings hsigned =>
      obtain ⟨rfl, rfl⟩ :
          { s with seen := (s.seen.remember a.fingerprint).2 } = s' ∧
            (r.logged i).afterRemember kind a (s.seen.remember a.fingerprint).1 = rest' := by
        simpa [rememberAndProcess, Activity.step?] using hstep
      by_cases hseen : a.fingerprint ∈ s.seen.fingerprints
      · left
        rw [SeenNotices.remember_of_mem hseen]
        exact ⟨rfl, .known haim hbrings hseen⟩
      · right
        obtain ⟨hfresh, hmore⟩ := SeenNotices.remember_of_not_mem hseen
        refine ⟨rfl, a, hseen, hmore, ?_⟩
        rw [hfresh]
        exact .remembered haim hbrings hsigned (by simp [hmore]) hevents
  | known haim hbrings hseen => simp [Activity.step?] at hstep
  | refused hstatus hnot => simp [Activity.step?] at hstep

/-- A step of a chosen request adds no fingerprint, and no event but its own one. -/
theorem Chosen.step
    {t : Nat}
    (h : Chosen r i s aim a n rest)
    (hstep : rest.step? t s = some (s', rest')) :
    s'.seen = s.seen ∧
      (s'.inner.handed = s.inner.handed ∨
        s'.inner.handed = s.inner.handed ++ [(i, a.event)]) ∧
      Chosen r i s' aim a (n + 1) rest' := by
  cases h with
  | @remembered kind q haim hbrings hsigned hseen hevents =>
      obtain ⟨rfl, rfl⟩ :
          { s with inner := s.inner.enter i a.event } = s' ∧
            (within ((r.process a.event).zoom Logbook.world
                fun world book => { book with world := world })).bind
              (fun result => .done (kind.response (result.mapError .handler))) = rest' := by
        simpa [afterRemember, within_logged_process, Activity.step?] using hstep
      refine ⟨rfl, Or.inr rfl, .handed haim hbrings hsigned hseen ?_ (Nat.le_refl 3) ?_⟩
      · rw [Logbook.eventsOf_enter_self, hevents]
        rfl
      · refine Activity.keeps_bind ?_ fun _ => trivial
        have hworld : ((r.process a.event).zoom Logbook.world
            fun world (book : Logbook σ) => { book with world := world }).Keeps Logbook.handed :=
          Activity.keeps_zoom (Activity.keeps_unit (r.process a.event)) (fun _ _ _ => rfl)
        exact Activity.keeps_zoom hworld fun inner x hinner => by
          simp only [traces, hinner]
  | handed haim hbrings hsigned hseen hevents hn hrest =>
      obtain ⟨hsame, hrest'⟩ := hrest.step hstep
      have hseen' : s'.seen = s.seen := congrArg Prod.fst hsame
      have hhanded : s'.inner.handed = s.inner.handed := congrArg Prod.snd hsame
      refine ⟨hseen', Or.inl hhanded, .handed haim hbrings hsigned ?_ ?_ (by omega) hrest'⟩
      · rw [hseen']
        exact hseen
      · rw [Logbook.eventsOf_congr hhanded]
        exact hevents

/-- The work of a request with a number. -/
def serve (r : Receiver σ) (target : ι → Aim) (i : Nat) (q : ι) :
    Activity (Reception (Logbook σ)) Http.Response :=
  match target q with
  | .ok (kind, request) => (r.logged i).endpoint kind request
  | .error response => .done response

/-- The requests and the state after some turns, where at first no notice is known. -/
def serving (r : Receiver σ) (target : ι → Aim) (world : σ) (turns : List (Turn ι)) :
    Crowd ι (Reception (Logbook σ)) Http.Response :=
  Crowd.run (r.serve target) ⟨.empty, ⟨[], world⟩⟩ turns

variable {target : ι → Aim} {world : σ} {turns : List (Turn ι)} {f : Fingerprint} {j : Nat}

/-- A request starts unchosen, whatever it asks for, if what it is told at once is no success. -/
theorem unchosen_start {q : ι}
    (hstatus : ∀ response, target q = .error response → response.status ≠ 200) :
    Unchosen r i s (target q) 0 (r.serve target i q) := by
  unfold serve
  cases haim : target q with
  | error response => exact .refused (hstatus response haim) (by simp)
  | ok notice =>
      obtain ⟨kind, request⟩ := notice
      dsimp only
      by_cases hlen : maxBodyLength < request.body.length
      · rw [endpoint_of_tooLong hlen]
        refine .refused (by decide) ?_
        rintro _ _ raw e ⟨⟩ hauthentic
        exact absurd hauthentic.length_le (by omega)
      · cases hread : Arrival.read? kind request.headers request.body with
        | none =>
            rw [endpoint_of_unread hlen hread]
            refine .refused (NoticeFault.status_response_ne _) ?_
            rintro _ _ raw e ⟨⟩ hauthentic
            obtain ⟨a, hsome, -⟩ := hauthentic.exists_arrival
            simp [hread] at hsome
        | some a =>
            rw [endpoint_of_arrival hlen hread]
            exact .arrived rfl ⟨hlen, hread⟩

/-- Among the turns there is one of the request that brings the fingerprint into the set. -/
def BringsIn (r : Receiver σ) (target : ι → Aim) (world : σ) (turns : List (Turn ι))
    (i : Nat) (f : Fingerprint) : Prop :=
  ∃ before t after, turns = before ++ .advance i t :: after ∧
    f ∉ (r.serving target world before).state.seen.fingerprints ∧
    f ∈ (r.serving target world (before ++ [.advance i t])).state.seen.fingerprints

theorem serving_snoc (turns : List (Turn ι)) (next : Turn ι) :
    r.serving target world (turns ++ [next]) =
      (r.serving target world turns).turn (r.serve target) next :=
  Crowd.run_snoc turns next

theorem BringsIn.snoc
    (h : r.BringsIn target world turns i f) (next : Turn ι) :
    r.BringsIn target world (turns ++ [next]) i f := by
  obtain ⟨before, t, after, rfl, hnew, hin⟩ := h
  exact ⟨before, t, after ++ [next], by simp, hnew, hin⟩

theorem bringsIn_last
    {t : Nat}
    (hnew : f ∉ (r.serving target world turns).state.seen.fingerprints)
    (hin : f ∈ (r.serving target world (turns ++ [.advance i t])).state.seen.fingerprints) :
    r.BringsIn target world (turns ++ [.advance i t]) i f :=
  ⟨turns, t, [], rfl, hnew, hin⟩

/-- What brings a fingerprint in by the last turn does so then, or has done so before. -/
theorem bringsIn_snoc_cases
    {next : Turn ι}
    (h : r.BringsIn target world (turns ++ [next]) i f) :
    r.BringsIn target world turns i f ∨
    ((∃ t, next = .advance i t) ∧
      f ∉ (r.serving target world turns).state.seen.fingerprints ∧
      f ∈ (r.serving target world (turns ++ [next])).state.seen.fingerprints) := by
  obtain ⟨before, t, after, hturns, hnew, hin⟩ := h
  cases after using List.reverseRecOn with
  | nil =>
      obtain ⟨rfl, hlast⟩ := List.append_inj' hturns rfl
      obtain rfl : next = .advance i t := by simpa using hlast
      exact Or.inr ⟨⟨t, rfl⟩, hnew, hin⟩
  | append_singleton after last _ =>
      have hsplit : turns ++ [next] = (before ++ .advance i t :: after) ++ [last] := by
        simpa using hturns
      obtain ⟨rfl, -⟩ := List.append_inj' hsplit rfl
      exact Or.inl ⟨before, t, after, rfl, hnew, hin⟩

/-- The invariant of all schedules. -/
structure Standing (r : Receiver σ) (target : ι → Aim) (world : σ) (turns : List (Turn ι))
    (c : Crowd ι (Reception (Logbook σ)) Http.Response) : Prop where
  /-- A request is unchosen and has handed over nothing, or is chosen by a turn of its own. -/
  stage : ∀ i thread, c.threads[i]? = some thread →
    (Unchosen r i c.state (target thread.request) thread.steps thread.rest ∧
      c.state.inner.eventsOf i = []) ∨
    ∃ a, Chosen r i c.state (target thread.request) a thread.steps thread.rest ∧
      r.BringsIn target world turns i a.fingerprint
  /-- Who brings in a fingerprint is chosen for it. -/
  chosen : ∀ i f, r.BringsIn target world turns i f →
    ∃ thread a, c.threads[i]? = some thread ∧
      Chosen r i c.state (target thread.request) a thread.steps thread.rest ∧ a.fingerprint = f
  /-- Every fingerprint in the set was brought in. -/
  brought : ∀ f, f ∈ c.state.seen.fingerprints → ∃ i, r.BringsIn target world turns i f
  /-- Events are handed over by requests that are there. -/
  present : ∀ i e, (i, e) ∈ c.state.inner.handed → i < c.threads.length

theorem standing_start :
    Standing r target world [] ⟨⟨.empty, ⟨[], world⟩⟩, []⟩ := by
  refine ⟨?_, ?_, ?_, ?_⟩
  · intro i thread hthread
    simp at hthread
  · rintro i f ⟨before, t, after, hturns, -, -⟩
    simp at hturns
  · intro f hf
    simp [SeenNotices.empty] at hf
  · intro i e he
    simp at he

variable {c : Crowd ι (Reception (Logbook σ)) Http.Response} {next : Turn ι}

/-- A request that is not concerned by a turn stays what it is. -/
theorem Standing.stage_of_other
    (h : Standing r target world turns c) {thread : Thread ι (Reception (Logbook σ)) Http.Response}
    (hthread : c.threads[j]? = some thread)
    (hseen : ∀ f, f ∈ c.state.seen.fingerprints → f ∈ s'.seen.fingerprints)
    (hevents : s'.inner.eventsOf j = c.state.inner.eventsOf j) :
    (Unchosen r j s' (target thread.request) thread.steps thread.rest ∧
      s'.inner.eventsOf j = []) ∨
    ∃ a, Chosen r j s' (target thread.request) a thread.steps thread.rest ∧
      r.BringsIn target world (turns ++ [next]) j a.fingerprint := by
  rcases h.stage j thread hthread with ⟨hunchosen, hnone⟩ | ⟨a, hchosen, hbrings⟩
  · exact Or.inl ⟨hunchosen.mono hseen, hevents.trans hnone⟩
  · exact Or.inr ⟨a, hchosen.mono hseen hevents, hbrings.snoc next⟩

theorem Standing.brought_snoc
    (h : Standing r target world turns c) (hf : f ∈ c.state.seen.fingerprints)
    (next : Turn ι) :
    ∃ j, r.BringsIn target world (turns ++ [next]) j f := by
  obtain ⟨j, hbrings⟩ := h.brought f hf
  exact ⟨j, hbrings.snoc next⟩

/-- If the set of fingerprints stays the same, nobody new has brought in one. -/
theorem bringsIn_of_same_seen
    (hc : r.serving target world turns = c)
    (hsame : (r.serving target world (turns ++ [next])).state.seen = c.state.seen)
    (h : r.BringsIn target world (turns ++ [next]) i f) :
    r.BringsIn target world turns i f := by
  rcases bringsIn_snoc_cases h with h | ⟨-, hnew, hin⟩
  · exact h
  · rw [hsame, ← hc] at hin
    exact absurd hin hnew

theorem Standing.arrive
    (h : Standing r target world turns c) (hc : r.serving target world turns = c)
    (hstatus : ∀ q response, target q = .error response → response.status ≠ 200)
    (q : ι) :
    Standing r target world (turns ++ [.arrive q]) (c.turn (r.serve target) (.arrive q)) := by
  have hturn : r.serving target world (turns ++ [.arrive q]) =
      c.turn (r.serve target) (.arrive q) := by
    rw [serving_snoc, hc]
  refine ⟨?_, ?_, ?_, ?_⟩
  · intro j thread hthread
    rcases Nat.lt_trichotomy j c.threads.length with hlt | rfl | hgt
    · have hold : c.threads[j]? = some thread := by
        simpa [Crowd.turn, List.getElem?_append, hlt] using hthread
      exact h.stage_of_other hold (fun _ hf => hf) rfl
    · obtain rfl : ⟨q, 0, r.serve target c.threads.length q⟩ = thread := by
        simpa [Crowd.turn, List.getElem?_append] using hthread
      refine Or.inl ⟨unchosen_start (hstatus q), ?_⟩
      refine List.eq_nil_iff_forall_not_mem.mpr fun e he => ?_
      exact absurd (h.present _ e (Logbook.mem_eventsOf_iff.mp he)) (Nat.lt_irrefl _)
    · have hlt : j < c.threads.length + 1 := by
        simpa [Crowd.turn] using (List.getElem?_eq_some_iff.mp hthread).1
      omega
  · intro j f hbrings
    obtain ⟨thread, a, hthread, hchosen, hf⟩ :=
      h.chosen j f (bringsIn_of_same_seen hc (by rw [hturn]; rfl) hbrings)
    refine ⟨thread, a, ?_, hchosen, hf⟩
    have hlt : j < c.threads.length := (List.getElem?_eq_some_iff.mp hthread).1
    simpa [Crowd.turn, List.getElem?_append, hlt] using hthread
  · exact fun f hf => h.brought_snoc hf _
  · intro j e he
    have hlt := h.present j e he
    simp only [Crowd.turn, List.length_append, List.length_singleton]
    omega

/-- A request brings only one notice. -/
theorem Chosen.unique
    {a' : Arrival}
    (h : Chosen r i s aim a n rest) (h' : Chosen r i s aim a' n rest) :
    a = a' := by
  obtain ⟨-, -, kind, q, haim, hbrings, -⟩ := h.genuine
  obtain ⟨-, -, kind', q', haim', hbrings', -⟩ := h'.genuine
  obtain ⟨rfl, rfl⟩ : kind = kind' ∧ q = q' := by
    simpa [haim] using haim'
  exact Option.some.inj (hbrings.2.symm.trans hbrings'.2)

/-- A request that has handed over nothing is not both unchosen and chosen. -/
theorem Unchosen.not_chosen
    (h : Unchosen r i s aim n rest) (hnone : s.inner.eventsOf i = []) :
    ¬ Chosen r i s aim a n rest := by
  intro hchosen
  have hn := hchosen.genuine.1
  cases hchosen with
  | handed haim hbrings hsigned hseen hevents hlen hrest =>
      rw [hnone] at hevents
      simp at hevents
  | remembered haim hbrings hsigned hseen hevents =>
      generalize hrest : (r.logged i).afterRemember _ a true = rest at h
      cases h with
      | known haim' hbrings' hseen' =>
          simp [afterRemember, within_logged_process] at hrest
      | refused hstatus hnot =>
          simp [afterRemember, within_logged_process] at hrest

/-- What has to be said about the request that took a step, for the invariant to go on. -/
theorem Standing.replace
    (h : Standing r target world turns c)
    {thread : Thread ι (Reception (Logbook σ)) Http.Response}
    (hthread : c.threads[i]? = some thread)
    (hseen : ∀ f, f ∈ c.state.seen.fingerprints → f ∈ s'.seen.fingerprints)
    (hevents : ∀ j, j ≠ i → s'.inner.eventsOf j = c.state.inner.eventsOf j)
    (hpresent : ∀ j e, (j, e) ∈ s'.inner.handed → (j, e) ∈ c.state.inner.handed ∨ j = i)
    (hstage :
      (Unchosen r i s' (target thread.request) (thread.steps + 1) rest ∧
        s'.inner.eventsOf i = []) ∨
      ∃ a, Chosen r i s' (target thread.request) a (thread.steps + 1) rest ∧
        r.BringsIn target world (turns ++ [next]) i a.fingerprint)
    (hchosen : ∀ j f, r.BringsIn target world (turns ++ [next]) j f →
      (j ≠ i ∧ r.BringsIn target world turns j f) ∨
      (j = i ∧ ∃ a, Chosen r i s' (target thread.request) a (thread.steps + 1) rest ∧
        a.fingerprint = f))
    (hbrought : ∀ f, f ∈ s'.seen.fingerprints →
      ∃ j, r.BringsIn target world (turns ++ [next]) j f) :
    Standing r target world (turns ++ [next])
      ⟨s', c.threads.set i ⟨thread.request, thread.steps + 1, rest⟩⟩ := by
  have hlt : i < c.threads.length := (List.getElem?_eq_some_iff.mp hthread).1
  refine ⟨?_, ?_, hbrought, ?_⟩
  · intro j other hother
    by_cases hj : i = j
    · subst hj
      obtain rfl : ⟨thread.request, thread.steps + 1, rest⟩ = other := by
        simpa [hlt] using hother
      exact hstage
    · have hold : c.threads[j]? = some other := by
        simpa [List.getElem?_set, hj] using hother
      exact h.stage_of_other hold hseen (hevents j (Ne.symm hj))
  · intro j f hbrings
    rcases hchosen j f hbrings with ⟨hj, hbrings⟩ | ⟨rfl, a, ha, hf⟩
    · obtain ⟨other, a, hother, ha, hf⟩ := h.chosen j f hbrings
      refine ⟨other, a, ?_, ha.mono hseen (hevents j hj), hf⟩
      simpa [List.getElem?_set, Ne.symm hj] using hother
    · exact ⟨⟨thread.request, thread.steps + 1, rest⟩, a, by simp [hlt], ha, hf⟩
  · intro j e he
    rw [List.length_set]
    rcases hpresent j e he with he | rfl
    · exact h.present j e he
    · exact hlt

/-- A turn that changes nothing. -/
theorem Standing.idle
    (h : Standing r target world turns c) (hc : r.serving target world turns = c)
    (hturn : r.serving target world (turns ++ [next]) = c) :
    Standing r target world (turns ++ [next]) c := by
  refine ⟨?_, ?_, ?_, h.present⟩
  · intro j thread hthread
    exact h.stage_of_other hthread (fun _ hf => hf) rfl
  · intro j f hbrings
    exact h.chosen j f (bringsIn_of_same_seen hc (by rw [hturn]) hbrings)
  · exact fun f hf => h.brought_snoc hf next

/-- A request that is still unchosen has never brought in anything. -/
theorem Standing.not_bringsIn_of_unchosen
    (h : Standing r target world turns c)
    {thread : Thread ι (Reception (Logbook σ)) Http.Response}
    (hthread : c.threads[i]? = some thread)
    (hunchosen : Unchosen r i c.state (target thread.request) thread.steps thread.rest)
    (hnone : c.state.inner.eventsOf i = []) (f : Fingerprint) :
    ¬ r.BringsIn target world turns i f := by
  intro hbrings
  obtain ⟨thread', a, hthread', ha, -⟩ := h.chosen i f hbrings
  obtain rfl : thread = thread' := Option.some.inj (hthread.symm.trans hthread')
  exact hunchosen.not_chosen hnone ha

/-- What a chosen request has brought in is the fingerprint of its notice. -/
theorem Standing.fingerprint_of_bringsIn
    (h : Standing r target world turns c)
    {thread : Thread ι (Reception (Logbook σ)) Http.Response}
    (hthread : c.threads[i]? = some thread)
    (hchosen : Chosen r i c.state (target thread.request) a thread.steps thread.rest)
    (hbrings : r.BringsIn target world turns i f) :
    a.fingerprint = f := by
  obtain ⟨thread', a', hthread', ha', hf⟩ := h.chosen i f hbrings
  obtain rfl : thread = thread' := Option.some.inj (hthread.symm.trans hthread')
  obtain rfl : a = a' := hchosen.unique ha'
  exact hf

section Advance

variable {t : Nat} {thread : Thread ι (Reception (Logbook σ)) Http.Response}

/-- The state is as before, so nobody has brought in anything. -/
theorem Standing.advance_unnoticed
    (h : Standing r target world turns c) (hc : r.serving target world turns = c)
    (hthread : c.threads[i]? = some thread)
    (hunchosen : Unchosen r i c.state (target thread.request) thread.steps thread.rest)
    (hnone : c.state.inner.eventsOf i = [])
    (hafter : Unchosen r i c.state (target thread.request) (thread.steps + 1) rest)
    (hturn : r.serving target world (turns ++ [.advance i t]) =
      ⟨c.state, c.threads.set i ⟨thread.request, thread.steps + 1, rest⟩⟩) :
    Standing r target world (turns ++ [.advance i t])
      ⟨c.state, c.threads.set i ⟨thread.request, thread.steps + 1, rest⟩⟩ := by
  refine h.replace hthread (fun _ hf => hf) (fun _ _ => rfl) (fun _ _ he => Or.inl he)
    (Or.inl ⟨hafter, hnone⟩) ?_ (fun f hf => h.brought_snoc hf _)
  intro j f hbrings
  have hbefore := bringsIn_of_same_seen hc (by rw [hturn]) hbrings
  refine Or.inl ⟨?_, hbefore⟩
  rintro rfl
  exact h.not_bringsIn_of_unchosen hthread hunchosen hnone f hbefore

/-- This very turn brings in the fingerprint of the request. -/
theorem Standing.advance_remembering
    (h : Standing r target world turns c) (hc : r.serving target world turns = c)
    (hthread : c.threads[i]? = some thread)
    (hunchosen : Unchosen r i c.state (target thread.request) thread.steps thread.rest)
    (hnone : c.state.inner.eventsOf i = [])
    (hinner : s'.inner = c.state.inner)
    (hnew : a.fingerprint ∉ c.state.seen.fingerprints)
    (hmore : s'.seen.fingerprints = a.fingerprint :: c.state.seen.fingerprints)
    (hafter : Chosen r i s' (target thread.request) a (thread.steps + 1) rest)
    (hturn : r.serving target world (turns ++ [.advance i t]) =
      ⟨s', c.threads.set i ⟨thread.request, thread.steps + 1, rest⟩⟩) :
    Standing r target world (turns ++ [.advance i t])
      ⟨s', c.threads.set i ⟨thread.request, thread.steps + 1, rest⟩⟩ := by
  have hin : r.BringsIn target world (turns ++ [.advance i t]) i a.fingerprint := by
    refine bringsIn_last ?_ ?_
    · rw [hc]
      exact hnew
    · rw [hturn]
      simp [hmore]
  refine h.replace hthread ?_ (fun _ _ => by rw [hinner])
    (fun _ _ he => Or.inl (hinner ▸ he)) (Or.inr ⟨a, hafter, hin⟩) ?_ ?_
  · intro f hf
    rw [hmore]
    exact List.mem_cons_of_mem _ hf
  · intro j f hbrings
    rcases bringsIn_snoc_cases hbrings with hbefore | ⟨⟨t', ht'⟩, hnew', hin'⟩
    · refine Or.inl ⟨?_, hbefore⟩
      rintro rfl
      exact h.not_bringsIn_of_unchosen hthread hunchosen hnone f hbefore
    · obtain ⟨rfl, -⟩ : i = j ∧ t = t' := by simpa using ht'
      refine Or.inr ⟨rfl, a, hafter, ?_⟩
      rw [hturn, hmore] at hin'
      rw [hc] at hnew'
      rcases List.mem_cons.mp hin' with hf | hf
      · exact hf.symm
      · exact absurd hf hnew'
  · intro f hf
    rw [hmore] at hf
    rcases List.mem_cons.mp hf with rfl | hf
    · exact ⟨i, hin⟩
    · exact h.brought_snoc hf _

/-- A chosen request brings in nothing more, and hands over no event but its own one. -/
theorem Standing.advance_chosen
    (h : Standing r target world turns c) (hc : r.serving target world turns = c)
    (hthread : c.threads[i]? = some thread)
    (hchosen : Chosen r i c.state (target thread.request) a thread.steps thread.rest)
    (hbrings : r.BringsIn target world turns i a.fingerprint)
    (hstep : thread.rest.step? t c.state = some (s', rest))
    (hturn : r.serving target world (turns ++ [.advance i t]) =
      ⟨s', c.threads.set i ⟨thread.request, thread.steps + 1, rest⟩⟩) :
    Standing r target world (turns ++ [.advance i t])
      ⟨s', c.threads.set i ⟨thread.request, thread.steps + 1, rest⟩⟩ := by
  obtain ⟨hsame, hhanded, hafter⟩ := hchosen.step hstep
  refine h.replace hthread (fun f hf => by rw [hsame]; exact hf) ?_ ?_
    (Or.inr ⟨a, hafter, hbrings.snoc _⟩) ?_ ?_
  · intro j hj
    rcases hhanded with heq | heq
    · exact Logbook.eventsOf_congr heq j
    · have hskip : (c.state.inner.enter i a.event).eventsOf j = c.state.inner.eventsOf j :=
        Logbook.eventsOf_enter_of_ne (Ne.symm hj) _ _
      rw [← hskip]
      exact Logbook.eventsOf_congr heq j
  · intro j e he
    rcases hhanded with heq | heq
    · exact Or.inl (heq ▸ he)
    · rw [heq, List.mem_append, List.mem_singleton] at he
      rcases he with he | he
      · exact Or.inl he
      · exact Or.inr (congrArg Prod.fst he)
  · intro j f hagain
    have hbefore := bringsIn_of_same_seen hc (by rw [hturn]; exact hsame) hagain
    by_cases hj : j = i
    · subst hj
      exact Or.inr ⟨rfl, a, hafter, h.fingerprint_of_bringsIn hthread hchosen hbefore⟩
    · exact Or.inl ⟨hj, hbefore⟩
  · intro f hf
    rw [hsame] at hf
    exact h.brought_snoc hf _

/-- Whatever step a request takes, the invariant goes on. -/
theorem Standing.advance
    (h : Standing r target world turns c) (hc : r.serving target world turns = c)
    (hthread : c.threads[i]? = some thread)
    (hstep : thread.rest.step? t c.state = some (s', rest))
    (hturn : r.serving target world (turns ++ [.advance i t]) =
      ⟨s', c.threads.set i ⟨thread.request, thread.steps + 1, rest⟩⟩) :
    Standing r target world (turns ++ [.advance i t])
      ⟨s', c.threads.set i ⟨thread.request, thread.steps + 1, rest⟩⟩ := by
  rcases h.stage i thread hthread with ⟨hunchosen, hnone⟩ | ⟨a, hchosen, hbrings⟩
  · rcases hunchosen.step hnone hstep with ⟨rfl, hafter⟩ | ⟨hinner, a, hnew, hmore, hafter⟩
    · exact h.advance_unnoticed hc hthread hunchosen hnone hafter hturn
    · exact h.advance_remembering hc hthread hunchosen hnone hinner hnew hmore hafter hturn
  · exact h.advance_chosen hc hthread hchosen hbrings hstep hturn

end Advance

/-- **The invariant of all schedules.** It holds after any turns, if what is told at once is never
a success. -/
theorem standing
    (hstatus : ∀ q response, target q = .error response → response.status ≠ 200)
    (turns : List (Turn ι)) :
    Standing r target world turns (r.serving target world turns) := by
  induction turns using List.reverseRecOn with
  | nil => exact standing_start
  | append_singleton turns last ih =>
      have hturn : r.serving target world (turns ++ [last]) =
          (r.serving target world turns).turn (r.serve target) last := serving_snoc turns last
      rcases Crowd.turn_cases (r.serve target) (r.serving target world turns) last with
        ⟨q, rfl, -⟩ | ⟨i, t, thread, s, rest, rfl, hthread, hstep, hafter⟩ | hsame
      · rw [hturn]
        exact ih.arrive rfl hstatus q
      · rw [hafter] at hturn
        rw [hturn]
        exact ih.advance rfl hthread hstep hturn
      · rw [hsame] at hturn
        rw [hturn]
        exact ih.idle rfl hturn

end Receiver

end WalletEvents
