import WalletEvents.Proofs.Webhook.Tampering

/-!
# What a signature of a bill vouches for

**Input.** Two bills.

**Output.** Whether their signed texts are the same, and whether one signature is taken for
both of them.

**Result.** `Bill.signature_vouches`:

* The signed texts are the same exactly if the statuses are, and the four texts in front of
  the status, joined by bars.
* If so, the four texts are the same one by one exactly if there are as many bars in the
  currencies, in the values and in the identifiers of the bills. They are if there is no bar
  in those of one of the bills.
* If different texts have different codes, one signature is taken for both bills only if
  their signed texts are the same.

A bar that moves from the identifier of a bill to that of its shop shows nowhere
(`Bill.bar_moves_between_fields`).
-/

namespace WalletEvents

namespace Bill

/-- The bills are the same in all signed fields. -/
structure SameFields (b b' : Bill) : Prop where
  currency : b.amount.currency = b'.amount.currency
  value : b.amount.value = b'.amount.value
  billId : b.billId = b'.billId
  siteId : b.siteId = b'.siteId
  status : b.status.value = b'.status.value

/-- The text that is signed in front of the status. -/
def frontText (b : Bill) : String :=
  Signature.joined [b.amount.currency, b.amount.value, b.billId, b.siteId]

/-- There are as many bars in the one bill as in the other one, up to its identifier. -/
structure BarsAgree (b b' : Bill) : Prop where
  currency : barCount b.amount.currency = barCount b'.amount.currency
  value : barCount b.amount.value = barCount b'.amount.value
  billId : barCount b.billId = barCount b'.billId

/-- There is no bar in the signed texts of the bill. -/
structure BarFree (b : Bill) : Prop where
  currency : barCount b.amount.currency = 0
  value : barCount b.amount.value = 0
  billId : barCount b.billId = 0
  siteId : barCount b.siteId = 0

variable {b b' : Bill}

theorem bar_not_mem_statusName (status : BillStatus) :
    '|' ∉ (Named.name status).toList := by
  cases status <;> decide

theorem signedText_eq (b : Bill) :
    b.signedText = Signature.joined
      ([b.amount.currency, b.amount.value, b.billId, b.siteId] ++ [Named.name b.status.value]) :=
  rfl

theorem signedText_eq_iff :
    b.signedText = b'.signedText ↔
      b.status.value = b'.status.value ∧ b.frontText = b'.frontText := by
  constructor
  · intro h
    rw [signedText_eq, signedText_eq] at h
    obtain ⟨hfront, hstatus⟩ := Signature.joined_concat_inj (by simp) (by simp)
      (bar_not_mem_statusName b.status.value) (bar_not_mem_statusName b'.status.value) h
    exact ⟨statusName_injective hstatus, hfront⟩
  · rintro ⟨hstatus, hfront⟩
    refine String.toList_inj.mp ?_
    rw [signedText_eq, signedText_eq, Signature.toList_joined_concat (by simp),
      Signature.toList_joined_concat (by simp), hstatus]
    exact congrArg (fun front : String => front.toList ++ _) hfront

/-- With as many bars, the texts in front of the status are told apart one by one. -/
theorem sameFields_of_barsAgree (h : b.signedText = b'.signedText) (hbars : b.BarsAgree b') :
    b.SameFields b' := by
  obtain ⟨hstatus, hfront⟩ := signedText_eq_iff.mp h
  rw [frontText, frontText] at hfront
  obtain ⟨hcurrency, hfront⟩ :=
    Signature.joined_cons_inj (Signature.aligned_of_bars hbars.currency) hfront rfl
  obtain ⟨hvalue, hfront⟩ :=
    Signature.joined_cons_inj (Signature.aligned_of_bars hbars.value) hfront rfl
  obtain ⟨hbillId, hfront⟩ :=
    Signature.joined_cons_inj (Signature.aligned_of_bars hbars.billId) hfront rfl
  rw [Signature.joined_singleton, Signature.joined_singleton] at hfront
  exact ⟨hcurrency, hvalue, hbillId, hfront, hstatus⟩

theorem SameFields.barsAgree (h : b.SameFields b') :
    b.BarsAgree b' :=
  ⟨by rw [h.currency], by rw [h.value], by rw [h.billId]⟩

theorem barCount_frontText (b : Bill) :
    barCount b.frontText = barCount b.amount.currency + barCount b.amount.value +
      barCount b.billId + barCount b.siteId + 3 := by
  rw [frontText, Signature.barCount_joined_cons_cons, Signature.barCount_joined_cons_cons,
    Signature.barCount_joined_cons_cons, Signature.joined_singleton]
  omega

/-- A bill with the signed text of a bill without bars has none either. -/
theorem BarFree.barsAgree (hfree : b.BarFree) (h : b.signedText = b'.signedText) :
    b.BarsAgree b' := by
  obtain ⟨-, hfront⟩ := signedText_eq_iff.mp h
  have hcount := congrArg barCount hfront
  rw [barCount_frontText, barCount_frontText, hfree.currency, hfree.value, hfree.billId,
    hfree.siteId] at hcount
  refine ⟨?_, ?_, ?_⟩
  · rw [hfree.currency]
    omega
  · rw [hfree.value]
    omega
  · rw [hfree.billId]
    omega

/-- **What a signature of a bill vouches for.** -/
theorem signature_vouches (b b' : Bill) :
    (b.signedText = b'.signedText ↔
      b.status.value = b'.status.value ∧ b.frontText = b'.frontText) ∧
    (b.signedText = b'.signedText →
      (b.SameFields b' ↔ b.BarsAgree b') ∧ (b.BarFree → b.SameFields b')) ∧
    ∀ (key : List UInt8) (signature : String),
      Set.InjOn (fun text => Hmac.code key (Utf8.encode text)) {b.signedText, b'.signedText} →
      b.verify key signature = true → b'.verify key signature = true →
      b.signedText = b'.signedText ∧ (b.BarFree → b.SameFields b') := by
  refine ⟨signedText_eq_iff, fun h => ⟨⟨SameFields.barsAgree, sameFields_of_barsAgree h⟩,
    fun hfree => sameFields_of_barsAgree h (hfree.barsAgree h)⟩,
    fun key signature hcode hverify hverify' => ?_⟩
  have h : b.signedText = b'.signedText :=
    hcode (by simp) (by simp) (Signature.code_eq_of_verify hverify hverify')
  exact ⟨h, fun hfree => sameFields_of_barsAgree h (hfree.barsAgree h)⟩

theorem signature_vouches_of_rouble :
    roubleBill.BarFree ∧
    Set.InjOn (fun text => Hmac.code wordKey (Utf8.encode text))
      {roubleBill.signedText, Bill.signedText { roubleBill with comment := some "again" }} ∧
    Bill.verify { roubleBill with comment := some "again" } wordKey
      (Signature.sign wordKey roubleBill.signedText) = true ∧
    roubleBill.SameFields { roubleBill with comment := some "again" } := by
  obtain ⟨-, -, hverified⟩ :=
    roubleBill.signature_vouches { roubleBill with comment := some "again" }
  have hcode : Set.InjOn (fun text => Hmac.code wordKey (Utf8.encode text))
      {roubleBill.signedText, Bill.signedText { roubleBill with comment := some "again" }} :=
    Set.injOn_pair.mpr fun _ => rfl
  have hfree : roubleBill.BarFree := ⟨by decide, by decide, by decide, by decide⟩
  obtain ⟨-, hsame⟩ := hverified wordKey _ hcode (Signature.verify_self _ _) (Signature.verify_self _ _)
  exact ⟨hfree, hcode, Signature.verify_self _ _, hsame hfree⟩

/-- A bar that moves from the identifier of a bill to that of its shop does not change the signed text,
and one signature is taken for both bills. -/
theorem bar_moves_between_fields :
    Bill.signedText { roubleBill with billId := "a|b", siteId := "c" } =
      Bill.signedText { roubleBill with billId := "a", siteId := "b|c" } ∧
    Bill.verify { roubleBill with billId := "a|b", siteId := "c" } wordKey
      (Signature.sign wordKey "RUB|1.00|a|b|c|PAID") = true ∧
    Bill.verify { roubleBill with billId := "a", siteId := "b|c" } wordKey
      (Signature.sign wordKey "RUB|1.00|a|b|c|PAID") = true ∧
    ¬ Bill.SameFields { roubleBill with billId := "a|b", siteId := "c" }
      { roubleBill with billId := "a", siteId := "b|c" } :=
  ⟨by decide, Signature.verify_self _ _, Signature.verify_self _ _,
    fun h => absurd h.billId (by decide)⟩

end Bill

end WalletEvents
