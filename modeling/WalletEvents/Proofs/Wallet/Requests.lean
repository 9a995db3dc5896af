import WalletEvents.Proofs.Url.Endpoint
import WalletEvents.Proofs.Url.Form
import WalletEvents.Wallet

/-!
# Requests of a wallet

What a wallet sends over a link, whoever is at the other end of it.

**Requests.** `Wallet.requestFor` is the request for what has certain segments below the
directory of the service. `Wallet.requestUrl_of_endpoint`: it is made for every endpoint
whose segments are words.

**Sending.** A request is carried by the link, once, if its URL is not too long. Otherwise
the link is not used.

**Servers.** `Server.link` is the link to a server of which nothing is known. It puts down
each request with its response, so that it can be told what was sent.
-/

namespace WalletEvents

namespace WalletM

variable {τ α β : Type}

/-- What work of a wallet comes to: its result, whether the session is open, and the state of the link. -/
def outcome (p : WalletM (StateM τ) α) (session : Session) (world : τ) :
    Except Failure α × Session × τ :=
  let ((result, session), world) := ((p.run.run session).run world).run
  (result, session, world)

theorem outcome_bind
    (p : WalletM (StateM τ) α) (f : α → WalletM (StateM τ) β) (session : Session) (world : τ) :
    outcome (p >>= f) session world =
      match outcome p session world with
      | (.ok a, session', world') => outcome (f a) session' world'
      | (.error failure, session', world') => (.error failure, session', world') := by
  simp only [outcome, ExceptT.run_bind, StateT.run_bind]
  rcases h : ((p.run.run session).run world).run with ⟨⟨_ | a, session'⟩, world'⟩
  · have hrun : (p.run.run session).run world = pure ((Except.error _, session'), world') := h
    simp [hrun]
  · have hrun : (p.run.run session).run world = pure ((Except.ok _, session'), world') := h
    simp [hrun]

theorem outcome_bind_of_ok
    {p : WalletM (StateM τ) α} {a : α} {session session' : Session} {world world' : τ}
    (h : outcome p session world = (.ok a, session', world')) (f : α → WalletM (StateM τ) β) :
    outcome (p >>= f) session world = outcome (f a) session' world' := by
  rw [outcome_bind, h]

theorem outcome_tryCatch
    (p : WalletM (StateM τ) α) (handle : Failure → WalletM (StateM τ) α) (session : Session)
    (world : τ) :
    outcome (tryCatch p handle) session world =
      match outcome p session world with
      | (.ok a, session', world') => (.ok a, session', world')
      | (.error failure, session', world') => outcome (handle failure) session' world' := by
  simp only [outcome, tryCatch, tryCatchThe, MonadExceptOf.tryCatch, ExceptT.tryCatch, ExceptT.run,
    ExceptT.mk, StateT.run_bind]
  rcases h : ((p.run.run session).run world).run with ⟨⟨_ | a, session'⟩, world'⟩
  · have hrun : (StateT.run p session).run world = pure ((Except.error _, session'), world') := h
    simp [hrun]
  · have hrun : (StateT.run p session).run world = pure ((Except.ok _, session'), world') := h
    simp [hrun]

/-- Work that the link does on its own neither fails nor touches the session. -/
theorem outcome_liftM (x : StateM τ α) (session : Session) (world : τ) :
    outcome (liftM x : WalletM (StateM τ) α) session world = (.ok (x world).1, session, (x world).2) :=
  rfl

end WalletM

/-- What stands before the last segment of a URL. -/
def Url.directory (u : Url) : List String :=
  match u.path with
  | .segments segments => segments.dropLast
  | .opaquePath _ => []

/-- Requests can be sent to the host of a URL. -/
structure Url.IsAskable (u : Url) : Prop where
  scheme : u.scheme = "http" ∨ u.scheme = "https"
  host : ((u.authority.elim "" fun a => a.host.text).toList.any fun c =>
    "\"`\x7b\x7d".contains c) = false

theorem Url.isWeb_iff {u : Url} :
    u.isWeb = true ↔ u.IsAskable ∧ u.text.length ≤ longestRequested := by
  rw [isWeb, Bool.and_eq_true, Bool.and_eq_true, Bool.or_eq_true, beq_iff_eq, beq_iff_eq,
    Bool.not_eq_true', decide_eq_true_eq]
  constructor
  · rintro ⟨⟨hscheme, hhost⟩, hlength⟩
    exact ⟨⟨hscheme, hhost⟩, hlength⟩
  · rintro ⟨⟨hscheme, hhost⟩, hlength⟩
    exact ⟨⟨hscheme, hhost⟩, hlength⟩

/-- The URL of the service and the token of a wallet are valid. -/
structure Wallet.IsReady (w : Wallet) (base : Url) : Prop where
  read : Url.read w.baseUrl = .ok base
  askable : base.IsAskable
  token : Http.isHeaderValue w.token = true

/-- An endpoint has these segments below the directory of the service. -/
structure IsEndpointOf (endpoint : String) (segments : List String) : Prop where
  words : IsWordPath endpoint.toList
  parts : (splitAll '/' endpoint.toList).map Url.normalSegment = segments

/-- Words behind one another are an endpoint. -/
theorem isEndpointOf_of_words
    {endpoint : String} {parts : List (List Char)} (htext : endpoint.toList = ['/'].intercalate parts)
    (hsome : parts ≠ []) (hwords : ∀ part ∈ parts, IsWord part) :
    IsEndpointOf endpoint (parts.map Url.normalSegment) := by
  have hslash : ∀ part ∈ parts, '/' ∉ part :=
    fun part hpart hmem => absurd (hwords part hpart '/' hmem) (by decide)
  constructor
  · intro c hc
    rw [htext] at hc
    rcases mem_of_mem_intercalate hc with rfl | ⟨part, hpart, hmem⟩
    · exact .inr rfl
    · exact .inl (hwords part hpart c hmem)
  · rw [htext, splitAll_intercalate hsome hslash]

namespace Wallet

variable {w : Wallet} {base : Url} {method endpoint : String} {segments : List String}
variable {fields : List (String × String)}

/-- The request of a wallet for what has these segments below the directory of the service. -/
def requestFor (w : Wallet) (base : Url) (method : String) (segments : List String)
    (fields : List (String × String)) : WalletRequest where
  method := method
  url := Url.withForm { base with
    path := .segments (base.directory ++ segments), query := none, fragment := none } fields
  authorization := "Bearer " ++ w.token

theorem requestUrl_of_endpoint
    (hready : w.IsReady base) (hendpoint : IsEndpointOf endpoint segments) :
    w.requestUrl endpoint fields = .ok (w.requestFor base method segments fields).url := by
  have hspecial : Url.isSpecial base.scheme = true ∧ base.scheme ≠ "file" := by
    rcases hready.askable.scheme with h | h <;> rw [h] <;> decide
  obtain ⟨path, hpath⟩ := Url.exists_segments_of_read hready.read hspecial.1
  have hdirectory : base.directory = path.dropLast := by
    rw [Url.directory, hpath]
  rw [requestUrl, hready.read]
  change (base.join endpoint >>= fun url => pure (url.withForm fields)) = _
  rw [Url.join_of_words hpath hspecial.2 hendpoint.words, hendpoint.parts, ← hdirectory]
  rfl

/-- A request is for the host of the service. -/
theorem requestFor_isAskable (h : base.IsAskable) :
    (w.requestFor base method segments fields).url.IsAskable := by
  have hsame : (w.requestFor base method segments fields).url.scheme = base.scheme ∧
      (w.requestFor base method segments fields).url.authority = base.authority := by
    unfold requestFor Url.withForm
    split <;> exact ⟨rfl, rfl⟩
  constructor
  · rw [hsame.1]
    exact h.scheme
  · rw [hsame.2]
    exact h.host

/-- The form in a request is read as its fields. -/
theorem query_requestFor (hfields : fields ≠ []) :
    ∃ query, (w.requestFor base method segments fields).url.query = some query ∧
      Form.read? query.toList = some fields := by
  refine ⟨String.ofList (Form.append [] fields), ?_, ?_⟩
  · cases fields with
    | nil => exact absurd rfl hfields
    | cons field rest => rfl
  · rw [String.toList_ofList, Form.read?_append]

section Sending

variable {τ : Type} {link : Link (StateM τ)} {session : Session} {world world' : τ}

/-- A request whose URL is not too long is carried by the link. -/
theorem outcome_send_of_link
    {r : WalletResponse} (hready : w.IsReady base) (hendpoint : IsEndpointOf endpoint segments)
    (hshort : (w.requestFor base method segments fields).url.text.length ≤ Url.longestRequested)
    (hlink : link (w.requestFor base method segments fields) world = (some r, world')) :
    WalletM.outcome (w.send link method endpoint fields) session world = (.ok r, true, world') := by
  let q := w.requestFor base method segments fields
  have hurl : w.requestUrl endpoint fields = .ok q.url :=
    requestUrl_of_endpoint hready hendpoint
  have hweb : q.url.isWeb = true :=
    Url.isWeb_iff.mpr ⟨requestFor_isAskable hready.askable, hshort⟩
  have hsendable : (!Http.isHeaderValue w.token || !q.url.isWeb) = false := by
    rw [hready.token, hweb]
    rfl
  have hcarried : WalletM.outcome (liftM (link q)) true world = (.ok (some r), true, world') := by
    rw [WalletM.outcome_liftM, hlink]
  have hopened : WalletM.outcome (ensureReady : WalletM (StateM τ) Unit) session world =
      (.ok (), true, world) := rfl
  unfold send
  rw [WalletM.outcome_bind_of_ok hopened, hurl]
  dsimp only
  rw [hsendable, if_neg Bool.false_ne_true]
  exact WalletM.outcome_bind_of_ok hcarried _

/-- A request for a URL that is too long is not sent. -/
theorem outcome_send_unsent
    (hready : w.IsReady base) (hendpoint : IsEndpointOf endpoint segments)
    (hlong : Url.longestRequested <
      (w.requestFor base method segments fields).url.text.length) :
    WalletM.outcome (w.send link method endpoint fields) session world =
      (.error (.exchange .request), true, world) := by
  let q := w.requestFor base method segments fields
  have hurl : w.requestUrl endpoint fields = .ok q.url :=
    requestUrl_of_endpoint hready hendpoint
  have hweb : q.url.isWeb = false := by
    rw [← Bool.not_eq_true, Url.isWeb_iff]
    exact fun h => Nat.not_le.mpr hlong h.2
  have hsendable : (!Http.isHeaderValue w.token || !q.url.isWeb) = true := by
    rw [hweb, Bool.not_false, Bool.or_true]
  unfold send
  rw [hurl]
  dsimp only
  rw [hsendable]
  rfl

section Asking

variable {α : Type} {read : Json.Unread → Option α}

/-- What is asked for is the content of the response. -/
theorem outcome_ask_of_link
    {r : WalletResponse} (hready : w.IsReady base) (hendpoint : IsEndpointOf endpoint segments)
    (hshort : (w.requestFor base method segments fields).url.text.length ≤ Url.longestRequested)
    (hlink : link (w.requestFor base method segments fields) world = (some r, world')) :
    WalletM.outcome (w.ask link read method endpoint fields) session world =
      (content read r, true, world') := by
  rw [ask, WalletM.outcome_bind_of_ok (outcome_send_of_link hready hendpoint hshort hlink)]
  cases content read r <;> rfl

theorem outcome_ask_unsent
    (hready : w.IsReady base) (hendpoint : IsEndpointOf endpoint segments)
    (hlong : Url.longestRequested <
      (w.requestFor base method segments fields).url.text.length) :
    WalletM.outcome (w.ask link read method endpoint fields) session world =
      (.error (.exchange .request), true, world) := by
  rw [ask, WalletM.outcome_bind, outcome_send_unsent hready hendpoint hlong]

end Asking

end Sending

end Wallet

/-- A server answers every request, in a way that may depend on what was asked before. -/
abbrev Server (σ : Type) := WalletRequest → σ → WalletResponse × σ

/-- A request with its response. -/
abbrev Exchange := WalletRequest × WalletResponse

/-- The link to a server, which puts down the requests with their responses. -/
def Server.link {σ : Type} (server : Server σ) : Link (StateM (σ × List Exchange)) :=
  fun q => modifyGet fun (s, record) =>
    (some (server q s).1, (server q s).2, record ++ [(q, (server q s).1)])

end WalletEvents
