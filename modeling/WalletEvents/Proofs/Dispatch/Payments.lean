import WalletEvents.Proofs.Dispatch.Evaluation
import WalletEvents.Proofs.Dispatch.Report
import WalletEvents.Proofs.Text.Digits

/-!
# Two events for one payment

A payment is found in the history, or a notice tells of it. The record of the history and
the notice hold the same data in different types: a notice has the identifier as a text,
and a record may lack the other side of the payment, which a notice always names.

**Input.** A record and a notice of the same payment (`SamePayment`). The text of the
identifier may have a plus sign and zeros in front.

**Results.**

* `readInt64?_eq_some_iff`: which numbers are read from which texts.
* `SamePayment.sameView`: the two events answer all questions alike.
* `Dispatcher.processEvent_calling_eq`: dispatchers whose chains match call the same
  handlers.
* `SamePayment.indistinguishable`: filters that are made of ready conditions have one value
  for both events, so a dispatcher with such filters takes them to the same handlers.
-/

namespace WalletEvents

/-- The text is a decimal numeral of the number, with a sign or without one. -/
inductive IsDecimal : List Char → Int → Prop
  | plain {digits : List Char} (hne : digits ≠ []) (hdigits : ∀ c ∈ digits, c.isDigit = true) :
      IsDecimal digits (digitsValue digits)
  | plus {digits : List Char} (hne : digits ≠ []) (hdigits : ∀ c ∈ digits, c.isDigit = true) :
      IsDecimal ('+' :: digits) (digitsValue digits)
  | minus {digits : List Char} (hne : digits ≠ []) (hdigits : ∀ c ∈ digits, c.isDigit = true) :
      IsDecimal ('-' :: digits) (-(digitsValue digits : Int))

/-- Whether there is a minus sign, and what is behind the sign. -/
def signAndRest : List Char → Bool × List Char
  | '-' :: rest => (true, rest)
  | '+' :: rest => (false, rest)
  | rest => (false, rest)

theorem signAndRest_of_digits {digits : List Char} (h : ∀ c ∈ digits, c.isDigit = true) :
    signAndRest digits = (false, digits) := by
  rw [signAndRest]
  · rintro rest rfl
    exact absurd (h '-' List.mem_cons_self) (by decide)
  · rintro rest rfl
    exact absurd (h '+' List.mem_cons_self) (by decide)

/-- A number with a sign of its own. -/
def signed (negative : Bool) (magnitude : Nat) : Int :=
  if negative then -(magnitude : Int) else magnitude

theorem isDecimal_iff {text : List Char} {i : Int} :
    IsDecimal text i ↔ (signAndRest text).2 ≠ [] ∧
      (∀ c ∈ (signAndRest text).2, c.isDigit = true) ∧
      i = signed (signAndRest text).1 (digitsValue (signAndRest text).2) := by
  constructor
  · intro h
    cases h with
    | plain hne hdigits =>
        rw [signAndRest_of_digits hdigits]
        exact ⟨hne, hdigits, rfl⟩
    | plus hne hdigits => exact ⟨hne, hdigits, rfl⟩
    | minus hne hdigits => exact ⟨hne, hdigits, rfl⟩
  · rintro ⟨hne, hdigits, rfl⟩
    revert hne hdigits
    fun_cases signAndRest text with
    | case1 rest => exact fun hne hdigits => .minus hne hdigits
    | case2 rest => exact fun hne hdigits => .plus hne hdigits
    | case3 => exact fun hne hdigits => .plain hne hdigits

/-- **A number is read** from its decimal numerals and from no other text. -/
theorem readInt64?_eq_some_iff {text : String} {i : Int64} :
    readInt64? text = some i ↔ IsDecimal text.toList i.toInt := by
  have hread : readInt64? text =
      if (signAndRest text.toList).2.isEmpty || !(signAndRest text.toList).2.all Char.isDigit then none
      else
        let i := signed (signAndRest text.toList).1
          (digitsValueUpTo (2 ^ 64) (signAndRest text.toList).2)
        if -2 ^ 63 ≤ i ∧ i < 2 ^ 63 then some (Int64.ofInt i) else none := rfl
  rw [hread, isDecimal_iff, digitsValueUpTo_eq]
  generalize signAndRest text.toList = parts
  obtain ⟨negative, digits⟩ := parts
  simp only [Option.ite_none_left_eq_some, Option.ite_none_right_eq_some, Option.some.injEq,
    Bool.or_eq_true, List.isEmpty_iff, Bool.not_eq_true', not_or, Bool.not_eq_false,
    List.all_eq_true]
  constructor
  · rintro ⟨⟨hne, hdigits⟩, ⟨hlow, hhigh⟩, rfl⟩
    refine ⟨hne, hdigits, ?_⟩
    rw [Int64.toInt_ofInt_of_le hlow hhigh]
    cases negative <;> simp only [signed, Bool.false_eq_true, if_true, if_false] at hlow hhigh ⊢ <;> omega
  · rintro ⟨hne, hdigits, hvalue⟩
    have hlow := i.le_toInt
    have hhigh := i.toInt_lt
    have hmin : signed negative (min (2 ^ 64) (digitsValue digits)) = i.toInt := by
      rw [hvalue] at hlow hhigh ⊢
      cases negative <;> simp only [signed, Bool.false_eq_true, if_true, if_false] at hlow hhigh ⊢ <;> omega
    rw [hmin]
    exact ⟨⟨hne, hdigits⟩, ⟨hlow, hhigh⟩, Int64.ofInt_toInt i⟩

/-- A record of the history and a notice tell of the same payment. -/
structure SamePayment (t : Transaction) (n : PaymentNotice) : Prop where
  identifier : IsDecimal n.payment.txnId.toList t.txnId.toInt
  type : n.payment.type = t.type
  sum : n.payment.sum = t.sum
  comment : n.payment.comment = t.comment
  account : t.account = some n.payment.account
  /-- The dates may be given at different places. -/
  date : n.payment.date.instant = t.date.instant

namespace Event

/-- Two events answer all questions alike. -/
structure SameView (e e' : Event) : Prop where
  kind : e.kind = e'.kind
  transactionId : e.transactionId = e'.transactionId
  billId : e.billId = e'.billId
  sum : e.sum = e'.sum
  amount : e.amount = e'.amount
  account : e.account = e'.account
  comment : e.comment = e'.comment
  timestamp : e.timestamp.map Moment.instant = e'.timestamp.map Moment.instant
  transactionType : e.transactionType = e'.transactionType
  billStatus : e.billStatus = e'.billStatus

end Event

theorem SamePayment.sameView {t : Transaction} {n : PaymentNotice} (h : SamePayment t n) :
    (Event.transaction t).SameView (.notice n) where
  kind := rfl
  transactionId := (readInt64?_eq_some_iff.mpr h.identifier).symm
  billId := rfl
  sum := congrArg some h.sum.symm
  amount := congrArg (fun sum : Money => some (Extended.finite sum.value)) h.sum.symm
  account := h.account
  comment := h.comment.symm
  timestamp := congrArg some h.date.symm
  transactionType := congrArg some h.type.symm
  billStatus := rfl

section Conditions

variable {m : Type → Type} [Monad m]

namespace Condition

/-- Asks an event for a ready condition. -/
def ask (c : Condition) (e : Event) : m Bool := pure (c.holds e)

theorem holds_eq {e e' : Event} (h : e.SameView e') :
    Condition.holds e = Condition.holds e' := by
  funext c
  cases c with
  | transactionType type => rw [holds, holds, h.transactionType]
  | amountAtLeast minimum => rw [holds, holds, h.amount]
  | currency code => rw [holds, holds, h.sum]
  | billStatus status => rw [holds, holds, h.billStatus]
  | commentEquals text => rw [holds, holds, h.comment]

/-- No ready condition looks at the event on which a handler failed. -/
theorem holds_fault (fault : HandlerFault) (e e' : Event) :
    Condition.holds (.fault fault e) = Condition.holds (.fault fault e') := by
  funext c
  cases c <;> rfl

end Condition

theorem Filter.askEach_ready [LawfulMonad m] (leaves : List Condition) (e : Event) :
    Filter.askEach (fun c => (c.ask e : m Bool)) leaves = pure () := by
  induction leaves with
  | nil => rfl
  | cons c rest ih => rw [Filter.askEach_cons, Condition.ask, pure_bind, ih]

/-- A filter of ready conditions has its Boolean value, and nothing else is done for it. -/
theorem Filter.check_ready [LawfulMonad m] (tree : Filter Condition) (e : Event) :
    (tree.map Condition.ask).check (fun ask => ask e) =
      (pure (tree.eval (Condition.holds e)) : m Bool) := by
  have hanswers : ∀ c : Condition, Filter.Answers (c.ask e : m Bool) (c.holds e) :=
    fun c => pure_bind _ _
  calc (tree.map Condition.ask).check (fun ask => ask e)
    _ = tree.check (fun c => c.ask e) := Filter.check_map _ _ tree
    _ = (do
          Filter.askEach (fun c => c.ask e) (tree.asked (Condition.holds e))
          pure (tree.eval (Condition.holds e))) := Filter.check_eq hanswers tree
    _ = pure (tree.eval (Condition.holds e)) := by rw [Filter.askEach_ready, pure_bind]

theorem Filter.checkAll_ready [LawfulMonad m] (trees : List (Filter Condition)) (e : Event) :
    Filter.checkAll (fun ask => ask e) (trees.map (Filter.map Condition.ask)) =
      (pure (trees.all fun tree => tree.eval (Condition.holds e)) : m Bool) := by
  induction trees with
  | nil => rfl
  | cons first rest ih =>
      rw [List.map_cons, Filter.checkAll, Filter.check_ready, pure_bind, ih, List.all_cons]
      cases first.eval (Condition.holds e) <;> rfl

end Conditions

section Dispatching

variable {m : Type → Type} [Monad m] {e e' : Event}

/-- The filters of the one hold of an event whenever those of the other hold of another event, and its
handler does with the event what the other's does with the other event. -/
structure Registration.Matches (e e' : Event) (r r' : Registration m) : Prop where
  filters : Filter.checkAll (fun ask => ask e) r.filters =
    Filter.checkAll (fun ask => ask e') r'.filters
  handler : r.handler e = r'.handler e'

/-- The registrations match place by place. -/
structure HandlerChain.Matches (e e' : Event) (c c' : HandlerChain m) : Prop where
  registrations : List.Forall₂ (Registration.Matches e e') c.registrations c'.registrations
  stopOnFirstMatch : c.stopOnFirstMatch = c'.stopOnFirstMatch

theorem walk_eq {rs rs' : List (Registration m)}
    (h : List.Forall₂ (Registration.Matches e e') rs rs') (stop handled : Bool) :
    walk stop e handled rs = walk stop e' handled rs' := by
  induction h generalizing handled with
  | nil => rfl
  | cons hfirst _ ih => simp only [walk, hfirst.filters, hfirst.handler, ih]

theorem HandlerChain.Matches.notify_eq {c c' : HandlerChain m} (h : c.Matches e e' c') :
    c.notify e = c'.notify e' := by
  rw [notify, notify, h.stopOnFirstMatch]
  exact walk_eq h.registrations _ false

/-- Chains that match take both events to the same handlers, also when a handler fails. -/
theorem Dispatcher.processEvent_eq {d d' : Dispatcher m} (hkind : e.kind = e'.kind)
    (hchain : (d.chain e.kind).Matches e e' (d'.chain e.kind))
    (herrors : ∀ fault, d.errors.Matches (.fault fault e) (.fault fault e') d'.errors) :
    d.processEvent e = d'.processEvent e' := by
  have hnobody : d.errors.registrations = [] ↔ d'.errors.registrations = [] := by
    have hlength := (herrors ⟨""⟩).registrations.length_eq
    rw [← List.length_eq_zero_iff, ← List.length_eq_zero_iff, hlength]
  simp only [processEvent, ← hkind, hchain.notify_eq, hnobody, (herrors _).notify_eq]

/-- A call of a handler: the kind of its chain, its place there, and what it made of the event. -/
structure HandlerCall where
  chain : EventKind
  place : Nat
  result : HandlerResult

/-- The call of a handler that a step of a walk is. -/
def ChainStep.calls : ChainStep → List HandlerCall
  | .checked _ _ _ => []
  | .called place e result => [⟨e.kind, place, result⟩]

/-- The same registration, which notes down the calls of its handler. -/
def Registration.calling (place : Nat) (r : Registration m) :
    Registration (StateT (List HandlerCall) m) :=
  r.reporting (fun _ => StateT.lift) (ChainStep.note ChainStep.calls) place

/-- The same chain, which notes down the calls of its handlers. -/
def HandlerChain.calling (c : HandlerChain m) : HandlerChain (StateT (List HandlerCall) m) :=
  c.reporting (fun _ => StateT.lift) (ChainStep.note ChainStep.calls)

/-- The same dispatcher, which notes down the calls of its handlers. -/
def Dispatcher.calling (d : Dispatcher m) : Dispatcher (StateT (List HandlerCall) m) :=
  d.reporting (fun _ => StateT.lift) (ChainStep.note ChainStep.calls)

theorem Registration.Matches.calling {r r' : Registration m} (h : r.Matches e e' r')
    (hkind : e.kind = e'.kind) (place : Nat) :
    (r.calling place).Matches e e' (r'.calling place) where
  filters := by
    simp only [Registration.calling, Registration.reporting, Filter.checkAll, Filter.check,
      h.filters, ChainStep.note, ChainStep.calls]
  handler := by
    simp only [Registration.calling, Registration.reporting, h.handler, ChainStep.note,
      ChainStep.calls, hkind]

theorem HandlerChain.Matches.calling {c c' : HandlerChain m} (h : c.Matches e e' c')
    (hkind : e.kind = e'.kind) :
    c.calling.Matches e e' c'.calling := by
  have hfrom : ∀ {rs rs' : List (Registration m)} (place : Nat),
      List.Forall₂ (Registration.Matches e e') rs rs' → List.Forall₂ (Registration.Matches e e')
        (markingFrom ChainStep.calls place rs) (markingFrom ChainStep.calls place rs') := by
    intro rs rs' place hrs
    induction hrs generalizing place with
    | nil => exact .nil
    | cons hfirst _ ih => exact .cons (hfirst.calling hkind place) (ih (place + 1))
  exact ⟨hfrom 0 h.registrations, h.stopOnFirstMatch⟩

/-- Dispatchers that match call the same handlers. -/
theorem Dispatcher.processEvent_calling_eq {d d' : Dispatcher m} (hkind : e.kind = e'.kind)
    (hchain : (d.chain e.kind).Matches e e' (d'.chain e.kind))
    (herrors : ∀ fault, d.errors.Matches (.fault fault e) (.fault fault e') d'.errors) :
    d.calling.processEvent e = d'.calling.processEvent e' := by
  refine processEvent_eq hkind ?_ fun fault => (herrors fault).calling rfl
  rw [calling, calling, chain_reporting, chain_reporting]
  exact hchain.calling hkind

/-- What handlers are told of in place of an event: another one, or that a handler failed on that one. -/
def Event.retold (told : Event) : Event → Event
  | .fault cause _ => .fault cause told
  | _ => told

/-- The registration has only filters that are made of ready conditions. -/
def Registration.IsReady (r : Registration m) : Prop :=
  ∃ trees : List (Filter Condition), r.filters = trees.map (Filter.map Condition.ask)

/-- The same filters, and a handler that is told of one event whatever event it is called with. -/
def Registration.telling (told : Event) (r : Registration m) : Registration m :=
  ⟨r.filters, fun e => r.handler (told.retold e)⟩

/-- The same chain, where all handlers are told of one event. -/
def HandlerChain.telling (told : Event) (c : HandlerChain m) : HandlerChain m :=
  ⟨c.registrations.map (Registration.telling told), c.stopOnFirstMatch⟩

namespace Dispatcher

/-- The same dispatcher, where all handlers are told of one event. -/
def telling (told : Event) (d : Dispatcher m) : Dispatcher m :=
  ⟨d.transactions.telling told, d.bills.telling told, d.errors.telling told⟩

/-- All filters are made of ready conditions. -/
def IsReady (d : Dispatcher m) : Prop :=
  ∀ kind, ∀ r ∈ (d.chain kind).registrations, r.IsReady

/-- The handlers do the same for both events, also when they are told that a handler failed on them. -/
def DoesAlike (d : Dispatcher m) (e e' : Event) : Prop :=
  ∀ kind, ∀ r ∈ (d.chain kind).registrations,
    r.handler e = r.handler e' ∧ ∀ fault, r.handler (.fault fault e) = r.handler (.fault fault e')

/-- The dispatcher takes both events to the same handlers. -/
structure TreatsAlike (d : Dispatcher m) (e e' : Event) : Prop where
  /-- The filters of a handler hold of both events or of none of them. -/
  filters : ∀ r ∈ (d.chain e.kind).registrations, ∃ hold,
    Filter.checkAll (fun ask => ask e) r.filters = pure hold ∧
    Filter.checkAll (fun ask => ask e') r.filters = pure hold
  /-- Both events have the same calls if the handlers do the same for both. -/
  calls : d.DoesAlike e e' → d.calling.processEvent e = d.calling.processEvent e'
  /-- The first event has the calls of the second one if the handlers are told of that one. -/
  told : (d.telling e').calling.processEvent e = d.calling.processEvent e'

end Dispatcher

variable [LawfulMonad m]

theorem Registration.IsReady.exists_checkAll_eq {r : Registration m} (h : r.IsReady)
    (hholds : Condition.holds e = Condition.holds e') :
    ∃ hold, Filter.checkAll (fun ask => ask e) r.filters = pure hold ∧
      Filter.checkAll (fun ask => ask e') r.filters = pure hold := by
  obtain ⟨trees, hfilters⟩ := h
  rw [hfilters, Filter.checkAll_ready, Filter.checkAll_ready, hholds]
  exact ⟨_, rfl, rfl⟩

/-- Ready filters do not tell the events apart, so a registration only differs in what its handler does. -/
theorem Registration.IsReady.matches {r : Registration m} (h : r.IsReady)
    (hholds : Condition.holds e = Condition.holds e') {handler : Event → m HandlerResult}
    (hhandler : handler e = r.handler e') :
    Registration.Matches e e' ⟨r.filters, handler⟩ r := by
  obtain ⟨hold, hfirst, hsecond⟩ := h.exists_checkAll_eq hholds
  exact ⟨hfirst.trans hsecond.symm, hhandler⟩

theorem HandlerChain.telling_matches {c : HandlerChain m}
    (hready : ∀ r ∈ c.registrations, r.IsReady) (hholds : Condition.holds e = Condition.holds e')
    {told : Event} (htold : told.retold e = e') :
    (c.telling told).Matches e e' c := by
  refine ⟨?_, rfl⟩
  rw [telling, List.forall₂_map_left_iff, List.forall₂_same]
  exact fun r hr => (hready r hr).matches hholds (congrArg r.handler htold)

theorem HandlerChain.matches_self {c : HandlerChain m}
    (hready : ∀ r ∈ c.registrations, r.IsReady) (hholds : Condition.holds e = Condition.holds e')
    (halike : ∀ r ∈ c.registrations, r.handler e = r.handler e') :
    c.Matches e e' c :=
  ⟨List.forall₂_same.mpr fun r hr => (hready r hr).matches hholds (halike r hr), rfl⟩

/-- A dispatcher with ready filters treats events alike that answer all questions alike. -/
theorem Dispatcher.IsReady.treatsAlike {d : Dispatcher m} (hready : d.IsReady)
    (hview : e.SameView e') (htold : e'.retold e = e') : d.TreatsAlike e e' where
  filters r hr := (hready e.kind r hr).exists_checkAll_eq (Condition.holds_eq hview)
  calls halike := by
    refine processEvent_calling_eq hview.kind ?_ fun fault => ?_
    · exact HandlerChain.matches_self (hready e.kind) (Condition.holds_eq hview)
        fun r hr => (halike e.kind r hr).1
    · exact HandlerChain.matches_self (hready .error) (Condition.holds_fault fault e e')
        fun r hr => (halike .error r hr).2 fault
  told := by
    refine processEvent_calling_eq hview.kind ?_ fun fault => ?_
    · have hchain : (d.telling e').chain e.kind = (d.chain e.kind).telling e' := by
        cases e.kind <;> rfl
      rw [hchain]
      exact HandlerChain.telling_matches (hready e.kind) (Condition.holds_eq hview) htold
    · exact HandlerChain.telling_matches (hready .error) (Condition.holds_fault fault e e') rfl

end Dispatching

/-- Neither handlers' filters nor the ready conditions in them tell the two events apart. -/
structure Event.Indistinguishable (e e' : Event) : Prop where
  view : e.SameView e'
  value : ∀ tree : Filter Condition,
    tree.eval (Condition.holds e) = tree.eval (Condition.holds e')
  /-- However the conditions are asked, a filter of them has this value for both events. -/
  check : ∀ (m : Type → Type) [Monad m] [LawfulMonad m] (tree : Filter Condition),
    (tree.map Condition.ask).check (fun ask => ask e) =
      (pure (tree.eval (Condition.holds e)) : m Bool) ∧
    (tree.map Condition.ask).check (fun ask => ask e') =
      (pure (tree.eval (Condition.holds e)) : m Bool)
  dispatch : ∀ (m : Type → Type) [Monad m] [LawfulMonad m] (d : Dispatcher m),
    d.IsReady → d.TreatsAlike e e'

/-- **A payment is one event**, whether it is found in the history or a notice tells of it: all questions
have the same answers, and dispatchers with ready filters take it to the same handlers. -/
theorem SamePayment.indistinguishable {t : Transaction} {n : PaymentNotice} (h : SamePayment t n) :
    (Event.transaction t).Indistinguishable (.notice n) ∧
    (n.payment.date = t.date → (Event.transaction t).timestamp = (Event.notice n).timestamp) := by
  have hholds : Condition.holds (.transaction t) = Condition.holds (.notice n) :=
    Condition.holds_eq h.sameView
  refine ⟨?_, fun hdate => congrArg some hdate.symm⟩
  exact {
    view := h.sameView
    value := fun tree => by rw [hholds]
    check := fun m _ _ tree => ⟨tree.check_ready _, by rw [hholds]; exact tree.check_ready _⟩
    dispatch := fun m _ _ d hready => hready.treatsAlike h.sameView rfl }

/-- A payment as it stands in the history. -/
def settledPayment : Transaction where
  txnId := 42
  personId := none
  date := ⟨⟨2024, 3, 1, by decide⟩, 3600, 0, 180, by decide⟩
  errorCode := none
  error := none
  status := .success
  type := .incoming
  statusText := none
  trmTxnId := none
  account := some "+79990000000"
  sum := ⟨.integer 150 (by decide), 643⟩
  commission := none
  total := none
  provider := none
  comment := some "tea"
  currencyRate := none

/-- The notice of that payment: the same moment at another place, and another numeral. -/
def paymentNews : PaymentNotice where
  messageId := "m"
  hookId := "h"
  payment := {
    txnId := "+0042"
    date := ⟨⟨2024, 2, 29, by decide⟩, 79200, 0, 0, by decide⟩
    type := .incoming
    status := .success
    errorCode := none
    personId := none
    account := "+79990000000"
    comment := some "tea"
    provider := none
    sum := ⟨.integer 150 (by decide), 643⟩
    commission := none
    total := none
    signFields := none }
  hash := ""
  version := "1.0.0"
  test := false

theorem indistinguishable_settledPayment :
    SamePayment settledPayment paymentNews ∧
    (Event.transaction settledPayment).Indistinguishable (.notice paymentNews) := by
  have hidentifier : IsDecimal paymentNews.payment.txnId.toList settledPayment.txnId.toInt :=
    readInt64?_eq_some_iff.mp (by decide)
  have hsame : SamePayment settledPayment paymentNews :=
    ⟨hidentifier, rfl, rfl, rfl, rfl, by decide⟩
  exact ⟨hsame, hsame.indistinguishable.1⟩

end WalletEvents
