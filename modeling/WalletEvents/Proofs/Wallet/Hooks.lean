import WalletEvents.Proofs.Wallet.Requests

/-!
# A service of hooks

The other end of a wallet's requests about hooks: a service that keeps one hook at most.

**Laws.** `HookKeeper.Lawful` says what such a service does with the four kinds of
requests, told by their method and their path below a directory, and how it answers.
The address of a new hook is the one that stands in the form of the request.

**Steps.** Over the link to a lawful service each of the four requests of a wallet does
what it is made for. The link puts down the requests that it carries, so that a step
can be told from what was sent in it.
-/

namespace WalletEvents

/-- A hook with its key. -/
structure KeptHook where
  id : String
  url : String
  key : String

/-- A service of hooks: the hook that is active in a state, and what becomes of a request. -/
structure HookKeeper (σ : Type) where
  active : σ → Option KeptHook
  answer : WalletRequest → σ → WalletResponse × σ

/-- Where the paths of hooks begin. -/
def hookPath : List String := ["payment-notifier", "v1", "hooks"]

/-- An endpoint is a place among the hooks. -/
structure IsPlace (endpoint : String) (place : List String) : Prop where
  plain : IsEndpoint endpoint.toList
  parts : (splitAll '/' endpoint.toList).map String.ofList = hookPath ++ place

/-- A request by a method for a place among the hooks below a directory. -/
structure WalletRequest.IsFor
    (q : WalletRequest) (directory : List String) (method : String) (place : List String) : Prop where
  method : q.method = method
  path : q.url.path = .segments (directory ++ hookPath ++ place)

/-- The form in the query of a request has a field. -/
def WalletRequest.HasField (q : WalletRequest) (name value : String) : Prop :=
  ∃ query fields, q.url.query = some query ∧ Form.read? query.toList = some fields ∧
    fields.lookup name = some value

/-- A response of success with a JSON body that a reader understands. -/
structure WalletResponse.Brings
    {α : Type} (r : WalletResponse) (read : Json.Unread → Option α) (a : α) : Prop where
  success : Http.isSuccess r.status = true
  body : (Json.unread? r.body).bind read = some a

/-- A response of success that describes a hook. -/
def WalletResponse.Describes (r : WalletResponse) (hook : KeptHook) : Prop :=
  ∃ info : Hook, r.Brings Hook.read? info ∧ info.hookId = hook.id ∧
    info.hookParameters.url = hook.url

/-- The service does what it is asked for, in every state. -/
structure HookKeeper.Lawful {σ : Type} (k : HookKeeper σ) (directory : List String) : Prop where
  id_plain : ∀ s hook, k.active s = some hook → IsPlainText hook.id.toList
  get_active : ∀ q s, q.IsFor directory "GET" ["active"] →
    k.active (k.answer q s).2 = k.active s ∧
      match k.active s with
      | none => (k.answer q s).1.status = 404
      | some hook => (k.answer q s).1.Describes hook
  get_key : ∀ q s hook, k.active s = some hook → q.IsFor directory "GET" [hook.id, "key"] →
    k.active (k.answer q s).2 = some hook ∧ (k.answer q s).1.Brings HookKey.read? ⟨hook.key⟩
  delete : ∀ q s hook, k.active s = some hook → q.IsFor directory "DELETE" [hook.id] →
    k.active (k.answer q s).2 = none ∧ Http.isSuccess (k.answer q s).1.status = true
  put : ∀ q s url, k.active s = none → q.IsFor directory "PUT" [] → q.HasField "param" url →
    ∃ hook, k.active (k.answer q s).2 = some hook ∧ hook.url = url ∧ (k.answer q s).1.Describes hook

/-- The link to a service, which puts down the requests. -/
def HookKeeper.link {σ : Type} (k : HookKeeper σ) : Link (StateM (σ × List WalletRequest)) :=
  fun q => modifyGet fun (s, sent) => (some (k.answer q s).1, (k.answer q s).2, sent ++ [q])

theorem isPlace_active : IsPlace "payment-notifier/v1/hooks/active" ["active"] :=
  ⟨by decide, by decide⟩

theorem isPlace_hooks : IsPlace "payment-notifier/v1/hooks" [] :=
  ⟨by decide, by decide⟩

/-- An endpoint behind the path of hooks. -/
theorem isPlace_behind {rest : String} (hplain : IsEndpoint rest.toList) :
    IsPlace ("payment-notifier/v1/hooks/" ++ rest)
      ((splitAll '/' rest.toList).map String.ofList) := by
  have hbefore : IsEndpoint "payment-notifier/v1/hooks/".toList := by
    decide
  have hparts : "payment-notifier/v1/hooks/".toList = "payment-notifier".toList ++ '/' ::
      ("v1".toList ++ '/' :: ("hooks".toList ++ ['/'])) := by
    decide
  constructor
  · rw [String.toList_append]
    intro c hc
    exact (List.mem_append.mp hc).elim (hbefore c) (hplain c)
  · rw [String.toList_append, hparts]
    simp only [List.append_assoc, List.cons_append, List.nil_append]
    rw [splitAll_append (by decide), splitAll_append (by decide), splitAll_append (by decide)]
    simp [hookPath]

section Ids

variable {id : String}

theorem slash_not_mem_of_plain (hid : IsPlainText id.toList) :
    '/' ∉ id.toList :=
  fun hmem => (hid '/' hmem).elim (by decide) (by decide)

theorem isPlace_hook (hid : IsPlainText id.toList) :
    IsPlace ("payment-notifier/v1/hooks/" ++ id) [id] := by
  have hplace := isPlace_behind fun c hc => .inl (hid c hc)
  rw [splitAll_of_not_mem (slash_not_mem_of_plain hid)] at hplace
  simpa using hplace

theorem isPlace_key (hid : IsPlainText id.toList) :
    IsPlace ("payment-notifier/v1/hooks/" ++ id ++ "/key") [id, "key"] := by
  have hkey : IsEndpoint "/key".toList := by
    decide
  have hplain : IsEndpoint (id ++ "/key").toList := by
    rw [String.toList_append]
    intro c hc
    exact (List.mem_append.mp hc).elim (fun hc => .inl (hid c hc)) (hkey c)
  have hparts : (id ++ "/key").toList = id.toList ++ '/' :: "key".toList := by
    rw [String.toList_append]
    rfl
  have hplace := isPlace_behind hplain
  rw [hparts, splitAll_append (slash_not_mem_of_plain hid), splitAll_of_not_mem (by decide),
    ← String.append_assoc] at hplace
  simpa using hplace

end Ids

/-- A place among the hooks is below the directory of the service. -/
theorem IsPlace.isEndpointOf {endpoint : String} {place : List String} (h : IsPlace endpoint place) :
    IsEndpointOf endpoint (hookPath ++ place) :=
  ⟨h.plain.isWordPath, (Url.normalSegments_of_endpoint h.plain).trans h.parts⟩

/-- The URL of a request is short enough to be sent. -/
def Wallet.Reaches (w : Wallet) (endpoint : String) (fields : List (String × String)) : Prop :=
  ∀ url, w.requestUrl endpoint fields = .ok url → url.text.length ≤ Url.longestRequested

namespace Wallet

variable {σ : Type} {k : HookKeeper σ} {w : Wallet} {base : Url} {s : σ}
variable {sent : List WalletRequest} {session : Session}
variable {method endpoint : String} {fields : List (String × String)} {place : List String}

theorem requestFor_isFor :
    (w.requestFor base method (hookPath ++ place) fields).IsFor base.directory method place := by
  refine ⟨rfl, ?_⟩
  rw [List.append_assoc]
  unfold requestFor Url.withForm
  split <;> rfl

theorem requestFor_hasField
    {segments : List String} {name value : String} (h : fields.lookup name = some value) :
    (w.requestFor base method segments fields).HasField name value := by
  have hfields : fields ≠ [] := by
    rintro rfl
    cases h
  obtain ⟨query, hquery, hread⟩ : ∃ query,
      (w.requestFor base method segments fields).url.query = some query ∧
        Form.read? query.toList = some fields := query_requestFor hfields
  exact ⟨query, fields, hquery, hread, h⟩

/-- What a request comes to over the link to a service. -/
theorem outcome_send
    (hready : w.IsReady base) (hplace : IsPlace endpoint place)
    (hreach : w.Reaches endpoint fields) :
    let q := w.requestFor base method (hookPath ++ place) fields
    WalletM.outcome (w.send k.link method endpoint fields) session (s, sent) =
      (.ok (k.answer q s).1, true, (k.answer q s).2, sent ++ [q]) := by
  exact outcome_send_of_link hready hplace.isEndpointOf
    (hreach _ (requestUrl_of_endpoint hready hplace.isEndpointOf)) rfl

/-- A request for a URL that is too long is not sent. -/
theorem outcome_send_of_overlong
    (hready : w.IsReady base) (hplace : IsPlace endpoint place)
    (hlong : Url.longestRequested <
      (w.requestFor base method (hookPath ++ place) fields).url.text.length) :
    WalletM.outcome (w.send k.link method endpoint fields) session (s, sent) =
      (.error (.exchange .request), true, s, sent) :=
  outcome_send_unsent hready hplace.isEndpointOf hlong

theorem lt_length_of_not_reaches
    (hready : w.IsReady base) (hplace : IsPlace endpoint place)
    (h : ¬ w.Reaches endpoint fields) (method : String) :
    Url.longestRequested < (w.requestFor base method (hookPath ++ place) fields).url.text.length := by
  have hurl : w.requestUrl endpoint fields =
      .ok (w.requestFor base method (hookPath ++ place) fields).url :=
    requestUrl_of_endpoint hready hplace.isEndpointOf
  by_contra hshort
  refine h fun url hsame => ?_
  obtain rfl := Except.ok.inj (hurl.symm.trans hsame)
  exact Nat.not_lt.mp hshort

theorem content_of_brings
    {α : Type} {r : WalletResponse} {read : Json.Unread → Option α} {a : α} (h : r.Brings read a) :
    content read r = .ok a := by
  rw [content, if_pos h.success, h.body]

/-- A request whose response brings what was asked for. -/
theorem outcome_ask
    {α : Type} {read : Json.Unread → Option α} {a : α}
    (hready : w.IsReady base) (hplace : IsPlace endpoint place)
    (hreach : w.Reaches endpoint fields)
    (hbrings : (k.answer (w.requestFor base method (hookPath ++ place) fields) s).1.Brings read a) :
    let q := w.requestFor base method (hookPath ++ place) fields
    WalletM.outcome (w.ask k.link read method endpoint fields) session (s, sent) =
      (.ok a, true, (k.answer q s).2, sent ++ [q]) := by
  intro q
  rw [ask, WalletM.outcome_bind_of_ok (outcome_send hready hplace hreach), content_of_brings hbrings]
  rfl

section Requests

variable {hook : KeptHook} {url : Url}

/-- No hook is active. -/
theorem outcome_activeWebhook_none
    (hready : w.IsReady base) (hlawful : k.Lawful base.directory)
    (hreach : w.Reaches "payment-notifier/v1/hooks/active" []) (hactive : k.active s = none) :
    ∃ q s', WalletM.outcome (w.activeWebhook k.link) session (s, sent) =
        (.ok none, true, s', sent ++ [q]) ∧
      q.method = "GET" ∧ k.active s' = none := by
  let q := w.requestFor base "GET" (hookPath ++ ["active"]) []
  obtain ⟨hsame, hstatus⟩ := hlawful.get_active q s requestFor_isFor
  rw [hactive] at hsame hstatus
  have hcontent : content Hook.read? (k.answer q s).1 = .error (refusal (k.answer q s).1) := by
    rw [content, if_neg (by rw [hstatus]; decide)]
  have hmissing : (refusal (k.answer q s).1).isNotFound = true := by
    rw [refusal, Failure.isNotFound, hstatus]
    rfl
  have hasked : WalletM.outcome
      (some <$> w.ask k.link Hook.read? "GET" "payment-notifier/v1/hooks/active" []) session
        (s, sent) = (.error (refusal (k.answer q s).1), true, (k.answer q s).2, sent ++ [q]) := by
    rw [map_eq_pure_bind, WalletM.outcome_bind, ask,
      WalletM.outcome_bind_of_ok (outcome_send hready isPlace_active hreach), hcontent]
    rfl
  refine ⟨q, (k.answer q s).2, ?_, rfl, hsame⟩
  rw [activeWebhook, WalletM.outcome_tryCatch, hasked]
  dsimp only
  rw [if_pos hmissing]
  rfl

theorem outcome_activeWebhook_some
    (hready : w.IsReady base) (hlawful : k.Lawful base.directory)
    (hreach : w.Reaches "payment-notifier/v1/hooks/active" []) (hactive : k.active s = some hook) :
    ∃ info q s', WalletM.outcome (w.activeWebhook k.link) session (s, sent) =
        (.ok (some info), true, s', sent ++ [q]) ∧
      q.method = "GET" ∧ k.active s' = some hook ∧ info.hookId = hook.id ∧
      info.hookParameters.url = hook.url := by
  let q := w.requestFor base "GET" (hookPath ++ ["active"]) []
  obtain ⟨hsame, hdescribed⟩ := hlawful.get_active q s requestFor_isFor
  rw [hactive] at hsame hdescribed
  obtain ⟨info, hbrings, hid, hurl⟩ := hdescribed
  refine ⟨info, q, (k.answer q s).2, ?_, rfl, hsame, hid, hurl⟩
  rw [activeWebhook, WalletM.outcome_tryCatch, map_eq_pure_bind,
    WalletM.outcome_bind_of_ok (outcome_ask hready isPlace_active hreach hbrings)]
  rfl

/-- The new hook has the address as it is written. -/
theorem outcome_registerWebhook
    (hready : w.IsReady base) (hlawful : k.Lawful base.directory)
    (hreach : w.Reaches "payment-notifier/v1/hooks"
      [("hookType", "1"), ("param", url.text), ("txnType", "2")])
    (hactive : k.active s = none) :
    ∃ info hook q s', WalletM.outcome (w.registerWebhook k.link url) session (s, sent) =
        (.ok info, true, s', sent ++ [q]) ∧
      k.active s' = some hook ∧ hook.url = url.text ∧ info.hookId = hook.id := by
  let q := w.requestFor base "PUT" hookPath [("hookType", "1"), ("param", url.text), ("txnType", "2")]
  obtain ⟨hook, hstored, hurl, info, hbrings, hid, -⟩ := hlawful.put q s url.text hactive
    requestFor_isFor (requestFor_hasField rfl)
  exact ⟨info, hook, q, (k.answer q s).2, outcome_ask hready isPlace_hooks hreach hbrings,
    hstored, hurl, hid⟩

theorem outcome_deleteWebhook
    (hready : w.IsReady base) (hlawful : k.Lawful base.directory)
    (hactive : k.active s = some hook)
    (hreach : w.Reaches ("payment-notifier/v1/hooks/" ++ hook.id) []) :
    ∃ q s', WalletM.outcome (w.deleteWebhook k.link hook.id) session (s, sent) =
        (.ok (), true, s', sent ++ [q]) ∧
      k.active s' = none := by
  let q := w.requestFor base "DELETE" (hookPath ++ [hook.id]) []
  obtain ⟨hnone, hsuccess⟩ := hlawful.delete q s hook hactive requestFor_isFor
  have hplace := isPlace_hook (hlawful.id_plain s hook hactive)
  refine ⟨q, (k.answer q s).2, ?_, hnone⟩
  rw [deleteWebhook, WalletM.outcome_bind_of_ok (outcome_send hready hplace hreach), hsuccess]
  rfl

/-- The result is the key of the hook, unless the request cannot be sent. -/
theorem outcome_webhookKey
    (hready : w.IsReady base) (hlawful : k.Lawful base.directory)
    (hactive : k.active s = some hook) :
    ∃ result requests s', WalletM.outcome (w.webhookKey k.link hook.id) session (s, sent) =
        (result, true, s', sent ++ requests) ∧
      k.active s' = some hook ∧ (∀ q ∈ requests, q.method = "GET") ∧
      (w.Reaches ("payment-notifier/v1/hooks/" ++ hook.id ++ "/key") [] → result = .ok hook.key) := by
  have hplace := isPlace_key (hlawful.id_plain s hook hactive)
  by_cases hreach : w.Reaches ("payment-notifier/v1/hooks/" ++ hook.id ++ "/key") []
  · let q := w.requestFor base "GET" (hookPath ++ [hook.id, "key"]) []
    obtain ⟨hsame, hbrings⟩ := hlawful.get_key q s hook hactive requestFor_isFor
    refine ⟨.ok hook.key, [q], (k.answer q s).2, ?_, hsame, ?_, fun _ => rfl⟩
    · rw [webhookKey, WalletM.outcome_bind_of_ok (outcome_ask hready hplace hreach hbrings)]
      rfl
    · intro request hrequest
      rw [List.mem_singleton.mp hrequest]
      rfl
  · have hlong := lt_length_of_not_reaches hready hplace hreach "GET"
    refine ⟨.error (.exchange .request), [], s, ?_, hactive, nofun, fun h => absurd h hreach⟩
    rw [webhookKey, WalletM.outcome_bind, ask, WalletM.outcome_bind,
      outcome_send_of_overlong hready hplace hlong, List.append_nil]

end Requests

end Wallet

end WalletEvents
