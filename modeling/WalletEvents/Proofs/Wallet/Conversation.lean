import WalletEvents.Proofs.Wallet.Hooks

/-!
# Conversations about hooks

A wallet that is bound to an address makes calls to the service of hooks, one after the
other. A response is accepted by the call that it answers, or it is not. An accepted one
leads to the next call: `HookCall.Leads`.

A conversation is a `Course` of calls with their responses. It ends with a key, with a
response that is not accepted, or before a request that is too long to be sent. From the
call for the active hook it takes one of three ways: `Course.shape`.
-/

namespace WalletEvents

/-- What a wallet asks of the service of hooks. -/
inductive HookCall where
  | active
  | delete (id : String)
  | register
  | key (id : String)

/-- The failure that a response stands for which is not accepted. -/
inductive WalletResponse.FailsWith (r : WalletResponse) : Failure → Prop
  | refused (h : Http.isSuccess r.status = false) :
      r.FailsWith (.refused r.status (Utf8.decodeLossy r.body)
        ((Json.unread? (Utf8.encode (Utf8.decodeLossy r.body))).bind Fault.read?))
  | unread (h : Http.isSuccess r.status = true) : r.FailsWith (.exchange .body)

namespace HookCall

def method : HookCall → String
  | .active | .key _ => "GET"
  | .delete _ => "DELETE"
  | .register => "PUT"

/-- The segments behind those of all hooks. -/
def place : HookCall → List String
  | .active => ["active"]
  | .delete id => [Url.normalSegment id.toList]
  | .register => []
  | .key id => [Url.normalSegment id.toList, "key"]

/-- The fields of the form, for an address. -/
def fields (url : Url) : HookCall → List (String × String)
  | .register => [("hookType", "1"), ("param", url.text), ("txnType", "2")]
  | _ => []

/-- The request of a wallet. -/
def request (w : Wallet) (base url : Url) (call : HookCall) : WalletRequest :=
  w.requestFor base call.method (hookPath ++ call.place) (call.fields url)

/-- The hook that a call names. -/
def id? : HookCall → Option String
  | .delete id | .key id => some id
  | .active | .register => none

/-- A response that is no failure of the call. That no hook is active is no failure of asking for it, and what
a response of success to a deletion holds does not matter. -/
def Accepts : HookCall → WalletResponse → Prop
  | .active, r => r.status = 404 ∨ ∃ hook, r.Brings Hook.read? hook
  | .delete _, r => Http.isSuccess r.status = true
  | .register, r => ∃ hook, r.Brings Hook.read? hook
  | .key _, r => ∃ key, r.Brings HookKey.read? key

/-- The call that an accepted response leads to. -/
inductive Leads (url : Url) : HookCall → WalletResponse → HookCall → Prop
  | kept {r : WalletResponse} {hook : Hook} (h : r.Brings Hook.read? hook)
      (hurl : hook.hookParameters.url = url.text) : Leads url .active r (.key hook.hookId)
  | replaced {r : WalletResponse} {hook : Hook} (h : r.Brings Hook.read? hook)
      (hurl : hook.hookParameters.url ≠ url.text) : Leads url .active r (.delete hook.hookId)
  | missing {r : WalletResponse} (h : r.status = 404) : Leads url .active r .register
  | deleted {r : WalletResponse} {id : String} (h : Http.isSuccess r.status = true) :
      Leads url (.delete id) r .register
  | registered {r : WalletResponse} {hook : Hook} (h : r.Brings Hook.read? hook) :
      Leads url .register r (.key hook.hookId)

variable {call next : HookCall} {url : Url} {r : WalletResponse}

theorem Leads.accepts (h : call.Leads url r next) :
    call.Accepts r := by
  cases h with
  | kept h _ => exact .inr ⟨_, h⟩
  | replaced h _ => exact .inr ⟨_, h⟩
  | missing h => exact .inl h
  | deleted h => exact h
  | registered h => exact ⟨_, h⟩

end HookCall

/-- A call with its response. -/
abbrev HookExchange := HookCall × WalletResponse

/-- How a conversation that begins with a call may go on, and its result. -/
inductive Course (w : Wallet) (base url : Url) :
    HookCall → List HookExchange → Except Failure String → Prop
  | unsent {call : HookCall}
      (hlong : Url.longestRequested < (call.request w base url).url.text.length) :
      Course w base url call [] (.error (.exchange .request))
  | fails {call : HookCall} {r : WalletResponse} {failure : Failure}
      (hnot : ¬ call.Accepts r) (h : r.FailsWith failure) :
      Course w base url call [(call, r)] (.error failure)
  | ends {id : String} {r : WalletResponse} {key : HookKey} (h : r.Brings HookKey.read? key) :
      Course w base url (.key id) [(.key id, r)] (.ok key.key)
  | goesOn {call next : HookCall} {r : WalletResponse} {rest : List HookExchange}
      {result : Except Failure String} (h : call.Leads url r next)
      (hrest : Course w base url next rest result) :
      Course w base url call ((call, r) :: rest) result

namespace Course

variable {w : Wallet} {base url : Url} {call : HookCall} {exchanges : List HookExchange}
variable {result : Except Failure String}

/-- A response that is not accepted is the last, and the result is its failure. -/
theorem stops
    (h : Course w base url call exchanges result) {before after : List HookExchange}
    {e : HookExchange} (hsplit : exchanges = before ++ e :: after) (hnot : ¬ e.1.Accepts e.2) :
    after = [] ∧ ∃ failure, e.2.FailsWith failure ∧ result = .error failure := by
  induction h generalizing before with
  | unsent _ => simp at hsplit
  | @fails call r failure _ hfails =>
      obtain ⟨rfl, rfl, rfl⟩ : before = [] ∧ e = (call, r) ∧ after = [] := by
        simpa [List.singleton_eq_append_iff] using hsplit
      exact ⟨rfl, failure, hfails, rfl⟩
  | @ends id r key hbrings =>
      obtain ⟨rfl, rfl, rfl⟩ : before = [] ∧ e = (HookCall.key id, r) ∧ after = [] := by
        simpa [List.singleton_eq_append_iff] using hsplit
      exact absurd ⟨key, hbrings⟩ hnot
  | goesOn hleads _ ih =>
      cases before with
      | nil =>
          obtain ⟨rfl, -⟩ := List.cons.inj hsplit
          exact absurd hleads.accepts hnot
      | cons first before => exact ih (List.cons.inj hsplit).2

theorem shape_of_key {id : String} (h : Course w base url (.key id) exchanges result) :
    exchanges.map Prod.fst <+: [.key id] := by
  cases h with
  | unsent _ => simp
  | fails _ _ => simp
  | ends _ => simp
  | goesOn hleads _ => cases hleads

theorem shape_of_register (h : Course w base url .register exchanges result) :
    ∃ id, exchanges.map Prod.fst <+: [.register, .key id] := by
  cases h with
  | unsent _ => exact ⟨"", by simp⟩
  | fails _ _ => exact ⟨"", by simp⟩
  | goesOn hleads hrest =>
      cases hleads with
      | registered _ => exact ⟨_, (List.prefix_cons_inj _).mpr hrest.shape_of_key⟩

theorem shape_of_delete {old : String} (h : Course w base url (.delete old) exchanges result) :
    ∃ id, exchanges.map Prod.fst <+: [.delete old, .register, .key id] := by
  cases h with
  | unsent _ => exact ⟨"", by simp⟩
  | fails _ _ => exact ⟨"", by simp⟩
  | goesOn hleads hrest =>
      cases hleads with
      | deleted _ =>
          obtain ⟨id, hprefix⟩ := hrest.shape_of_register
          exact ⟨id, (List.prefix_cons_inj _).mpr hprefix⟩

/-- A conversation about an address has one of three shapes, or it is the beginning of one. -/
theorem shape (h : Course w base url .active exchanges result) :
    (∃ id, exchanges.map Prod.fst <+: [.active, .key id]) ∨
      (∃ old id, exchanges.map Prod.fst <+: [.active, .delete old, .register, .key id]) ∨
      ∃ id, exchanges.map Prod.fst <+: [.active, .register, .key id] := by
  cases h with
  | unsent _ => exact .inl ⟨"", by simp⟩
  | fails _ _ => exact .inl ⟨"", by simp⟩
  | goesOn hleads hrest =>
      cases hleads with
      | kept _ _ => exact .inl ⟨_, (List.prefix_cons_inj _).mpr hrest.shape_of_key⟩
      | replaced _ _ =>
          obtain ⟨id, hprefix⟩ := hrest.shape_of_delete
          exact .inr (.inl ⟨_, id, (List.prefix_cons_inj _).mpr hprefix⟩)
      | missing _ =>
          obtain ⟨id, hprefix⟩ := hrest.shape_of_register
          exact .inr (.inr ⟨id, (List.prefix_cons_inj _).mpr hprefix⟩)

end Course

end WalletEvents
