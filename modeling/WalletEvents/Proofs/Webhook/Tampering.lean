import WalletEvents.Proofs.Json.Canonical
import WalletEvents.Proofs.Text.Blank
import WalletEvents.Proofs.Text.Split
import WalletEvents.Proofs.Webhook.SignedFields

/-!
# Tampering with one signed field

**Input.** Two bills of which the second has another text or status in exactly one of the
signed fields (`Bill.Tampered`), or two payments that name the same signed fields, of which
exactly one field is written otherwise in the second (`NoticePayment.DiffersOnlyAt`).

**Output.** The signed texts of the two, and whether a signature of the first one is taken
for one of the second.

**Result.** `tampering_shows`:

* The signed text of the second bill is another one.
* The signed text of the second payment is another one exactly if the field is among the
  signed ones and no other of these is missing. A payment without one of them has no signed
  text at all, so nothing shows there.
* If different texts have different codes, the signature of the first bill or payment is
  rejected for the second.

A field may be named any number of times, and its bars do not matter.
-/

namespace WalletEvents

namespace Bill

/-- The bill with another text or status in one of its signed fields. -/
inductive Tampered (b : Bill) : Bill → Prop
  | currency
      {currency : String} (h : currency ≠ b.amount.currency) :
      Tampered b { b with amount := { b.amount with currency } }
  | value
      {value : String} (h : value ≠ b.amount.value) :
      Tampered b { b with amount := { b.amount with value } }
  | billId
      {billId : String} (h : billId ≠ b.billId) :
      Tampered b { b with billId }
  | siteId
      {siteId : String} (h : siteId ≠ b.siteId) :
      Tampered b { b with siteId }
  | status
      {value : BillStatus} (h : value ≠ b.status.value) :
      Tampered b { b with status := { b.status with value } }

theorem statusName_injective :
    Function.Injective (Named.name : BillStatus → String) := by
  intro status status' h
  cases status <;> cases status' <;> first | rfl | (revert h; decide)

theorem Tampered.signedText_ne {b b' : Bill} (h : b.Tampered b') :
    b'.signedText ≠ b.signedText := by
  cases h with
  | currency h => exact Signature.joined_ne_of_part [] _ h
  | value h => exact Signature.joined_ne_of_part [_] _ h
  | billId h => exact Signature.joined_ne_of_part [_, _] _ h
  | siteId h => exact Signature.joined_ne_of_part [_, _, _] _ h
  | status h => exact Signature.joined_ne_of_part [_, _, _, _] [] (statusName_injective.ne h)

end Bill

namespace Signature

variable {names : List String} {f g : String → Option String}

/-- The text of the fields named, if all of them are there. -/
theorem joined_mapM_eq_some_iff {text : String} :
    (names.mapM f).map joined = some text ↔ ∃ parts, text = joined parts ∧
      names.map f = parts.map some := by
  have hparts : ∀ parts, names.mapM f = some parts ↔ names.map f = parts.map some := by
    intro parts
    rw [mapM_eq_some_iff, ← List.forall₂_eq_eq_eq, List.forall₂_map_left_iff,
      List.forall₂_map_right_iff]
  rw [Option.map_eq_some_iff]
  simp only [hparts]
  constructor
  · rintro ⟨parts, h, rfl⟩
    exact ⟨parts, rfl, h⟩
  · rintro ⟨parts, rfl, h⟩
    exact ⟨parts, h, rfl⟩

/-- One named field with another text shows in the text of all, if the others are the same. -/
theorem joined_ne_of_field
    {name : String} {ps qs : List String}
    (hsame : ∀ other ∈ names, other ≠ name → g other = f other) (hdiffers : g name ≠ f name)
    (hname : name ∈ names) (hps : names.map f = ps.map some) (hqs : names.map g = qs.map some) :
    joined qs ≠ joined ps := by
  intro hjoined
  obtain ⟨x, -, hx⟩ := List.mem_map.mp (hps ▸ List.mem_map_of_mem hname)
  obtain ⟨y, -, hy⟩ := List.mem_map.mp (hqs ▸ List.mem_map_of_mem hname)
  have hreplaced : Replaced x y ps qs := by
    have hfields : List.Forall₂ (fun v w => v = w ∨ v = some x ∧ w = some y)
        (names.map f) (names.map g) := by
      rw [List.forall₂_map_left_iff, List.forall₂_map_right_iff, List.forall₂_same]
      intro other hother
      by_cases hothername : other = name
      · rw [hothername]
        exact .inr ⟨hx.symm, hy.symm⟩
      · exact .inl (hsame other hother hothername).symm
    rw [hps, hqs, List.forall₂_map_left_iff, List.forall₂_map_right_iff] at hfields
    simpa [Replaced] using hfields
  obtain rfl := joined_inj_of_replaced hreplaced hjoined.symm
  exact hdiffers (List.map_inj_left.mp (hqs.trans hps.symm) name hname)

end Signature

namespace NoticePayment

/-- The payments name the same signed fields, and exactly one field is written otherwise, if it is there at
all. -/
structure DiffersOnlyAt (p : NoticePayment) (name : String) (q : NoticePayment) : Prop where
  signFields : q.signFields = p.signFields
  differs : q.signedField? name ≠ p.signedField? name
  same : ∀ other, other ≠ name → q.signedField? other = p.signedField? other

/-- The names of all fields that can be signed. -/
def knownFieldNames : List String :=
  ["sum.currency", "sum.amount", "type", "account", "txnId", "status", "personId", "date"]

/-- The payment names these signed fields, in this order, with blanks around the names. -/
structure Names (p : NoticePayment) (names : List String) : Prop where
  nonempty : names ≠ []
  written : ∃ parts : List (List Char),
    p.signFields = some (String.ofList ([','].intercalate parts)) ∧
    List.Forall₂ (fun part name => name ∈ knownFieldNames ∧ IsTrimmed part name.toList) parts names

variable {p q : NoticePayment} {name : String} {names : List String}

/-- A list of names that is not blank is the one that counts. -/
theorem signFieldList_of_visible
    {list : String} (hlist : p.signFields = some list)
    (hvisible : ∃ c ∈ list.toList, isBlank c = false) :
    p.signFieldList = list := by
  have hempty : (trimText list).isEmpty = false := by
    simpa [trimText] using trimBlanks_ne_nil hvisible
  rw [signFieldList, hlist]
  simp [hempty]

theorem comma_not_mem_of_known
    {part : List Char} (hname : name ∈ knownFieldNames) (h : IsTrimmed part name.toList) :
    ',' ∉ part := by
  have hnames : ∀ known ∈ knownFieldNames, ',' ∉ known.toList := by
    decide
  obtain ⟨before, after, rfl, hbefore, hafter⟩ := h.around
  intro hcomma
  rcases List.mem_append.mp hcomma with hcomma | hcomma
  · rcases List.mem_append.mp hcomma with hcomma | hcomma
    · exact absurd (hbefore _ hcomma) (by decide)
    · exact hnames name hname hcomma
  · exact absurd (hafter _ hcomma) (by decide)

theorem exists_visible_of_known
    {part : List Char} (hname : name ∈ knownFieldNames) (h : IsTrimmed part name.toList) :
    ∃ c ∈ part, isBlank c = false := by
  have hnames : ∀ known ∈ knownFieldNames, ∃ c, known.toList.head? = some c := by
    simp [knownFieldNames]
  obtain ⟨c, hc⟩ := hnames name hname
  obtain ⟨before, after, rfl, -, -⟩ := h.around
  exact ⟨c, by simp [List.mem_of_mem_head? hc], h.head c hc⟩

/-- The names are read as they are meant. -/
theorem Names.signFieldNames_eq (h : p.Names names) :
    p.signFieldNames = names := by
  obtain ⟨parts, hsignFields, hparts⟩ := h.written
  have hsplit : splitAll ',' ([','].intercalate parts) = parts := by
    refine splitAll_intercalate ?_ fun part hpart => ?_
    · rintro rfl
      exact h.nonempty (List.forall₂_nil_left_iff.mp hparts)
    · obtain ⟨name, -, hknown, htrimmed⟩ := exists_of_forall₂ hparts.flip hpart
      exact comma_not_mem_of_known hknown htrimmed
  have hvisible : ∃ c ∈ [','].intercalate parts, isBlank c = false := by
    obtain ⟨name, hname⟩ := List.exists_mem_of_ne_nil names h.nonempty
    obtain ⟨part, hpart, hknown, htrimmed⟩ := exists_of_forall₂ hparts hname
    obtain ⟨c, hc, hblank⟩ := exists_visible_of_known hknown htrimmed
    exact ⟨c, (mem_of_mem_splitAll (hsplit.symm ▸ hpart) hc).1, hblank⟩
  have hlist := signFieldList_of_visible hsignFields (by rwa [String.toList_ofList])
  rw [signFieldNames, hlist, String.toList_ofList, hsplit]
  rw [← List.forall₂_eq_eq_eq, List.forall₂_map_left_iff]
  refine hparts.imp ?_
  rintro part name ⟨-, htrimmed⟩
  rw [trimBlanks_eq_iff.mpr htrimmed, String.ofList_toList]

theorem Names.subset (h : p.Names names) :
    names ⊆ knownFieldNames := by
  obtain ⟨parts, -, hparts⟩ := h.written
  intro name hname
  obtain ⟨part, -, hknown, -⟩ := exists_of_forall₂ hparts hname
  exact hknown

/-- Of the known fields, only the identifier of a person can be missing. -/
theorem signedField?_eq_none_iff (hname : name ∈ knownFieldNames) :
    p.signedField? name = none ↔ name = "personId" ∧ p.personId = none := by
  simp only [knownFieldNames, List.mem_cons, List.not_mem_nil, or_false] at hname
  rcases hname with rfl | rfl | rfl | rfl | rfl | rfl | rfl | rfl <;> simp [signedField?]

/-- The signed text of a payment that has all the fields named. -/
theorem signedText?_eq_some_iff {text : String} :
    p.signedText? = some text ↔ ∃ parts, text = Signature.joined parts ∧
      p.signFieldNames.map p.signedField? = parts.map some :=
  Signature.joined_mapM_eq_some_iff

theorem signedText?_eq_none_iff :
    p.signedText? = none ↔ ∃ name ∈ p.signFieldNames, p.signedField? name = none := by
  rw [signedText?, Option.map_eq_none_iff]
  induction p.signFieldNames with
  | nil => simp
  | cons name names ih =>
      rw [List.mapM_cons, List.exists_mem_cons_iff, ← ih]
      cases p.signedField? name <;> cases names.mapM p.signedField? <;> simp

theorem differsOnlyAt_account {account : String} (h : account ≠ p.account) :
    p.DiffersOnlyAt "account" { p with account } where
  signFields := rfl
  differs := by simpa [signedField?] using h
  same := by
    intro other hother
    unfold signedField?
    split <;> first | rfl | exact absurd rfl hother

namespace DiffersOnlyAt

theorem signFieldNames_eq (h : p.DiffersOnlyAt name q) :
    q.signFieldNames = p.signFieldNames := by
  rw [signFieldNames, signFieldNames, signFieldList, signFieldList, h.signFields]

/-- Nothing shows at a field that is not signed. -/
theorem signedText?_eq (h : p.DiffersOnlyAt name q) (hname : name ∉ p.signFieldNames) :
    q.signedText? = p.signedText? := by
  have hfields : p.signFieldNames.map q.signedField? = p.signFieldNames.map p.signedField? :=
    List.map_congr_left fun other hother => h.same other fun heq => hname (heq ▸ hother)
  refine Option.ext fun text => ?_
  rw [signedText?_eq_some_iff, signedText?_eq_some_iff, h.signFieldNames_eq, hfields]

/-- A field that is signed shows, if both payments have a signed text. -/
theorem signedText?_ne
    {text : String} (h : p.DiffersOnlyAt name q) (hname : name ∈ p.signFieldNames)
    (htext : p.signedText? = some text) :
    q.signedText? ≠ some text := by
  intro htext'
  obtain ⟨ps, rfl, hps⟩ := signedText?_eq_some_iff.mp htext
  obtain ⟨qs, hjoined, hqs⟩ := signedText?_eq_some_iff.mp htext'
  rw [h.signFieldNames_eq] at hqs
  exact Signature.joined_ne_of_field (fun other _ => h.same other) h.differs hname hps hqs
    hjoined.symm

/-- The signed text tells of the change exactly if the field is signed and no other signed field is
missing. -/
theorem signedText?_ne_iff (h : p.DiffersOnlyAt name q) :
    q.signedText? ≠ p.signedText? ↔ name ∈ p.signFieldNames ∧
      ∀ other ∈ p.signFieldNames, other ≠ name → p.signedField? other ≠ none := by
  constructor
  · intro hne
    refine ⟨?_, fun other hother hothername hnone => hne ?_⟩
    · by_contra hname
      exact hne (h.signedText?_eq hname)
    · have hq := signedText?_eq_none_iff.mpr
        ⟨other, h.signFieldNames_eq ▸ hother, (h.same other hothername).trans hnone⟩
      rw [hq, signedText?_eq_none_iff.mpr ⟨other, hother, hnone⟩]
  · rintro ⟨hname, hothers⟩ heq
    cases hp : p.signedText? with
    | some text => exact h.signedText?_ne hname hp (heq.trans hp)
    | none =>
        have hmissing : ∀ r : NoticePayment, r.signFieldNames = p.signFieldNames →
            (∀ other, other ≠ name → r.signedField? other = p.signedField? other) →
            r.signedText? = none → r.signedField? name = none := by
          intro r hnames hsame hr
          obtain ⟨other, hother, hnone⟩ := signedText?_eq_none_iff.mp hr
          by_cases hothername : other = name
          · rwa [hothername] at hnone
          · exact absurd ((hsame other hothername).symm.trans hnone)
              (hothers other (hnames ▸ hother) hothername)
        exact h.differs ((hmissing q h.signFieldNames_eq h.same (heq.trans hp)).trans
          (hmissing p rfl (fun _ _ => rfl) hp).symm)

theorem signedText?_ne_iff_of_known
    (h : p.DiffersOnlyAt name q) (hknown : p.signFieldNames ⊆ knownFieldNames) :
    q.signedText? ≠ p.signedText? ↔ name ∈ p.signFieldNames ∧
      ("personId" ∈ p.signFieldNames → name ≠ "personId" → p.personId ≠ none) := by
  rw [h.signedText?_ne_iff]
  refine and_congr_right fun _ => ⟨fun hothers hperson hname => ?_, fun hperson other hother hname => ?_⟩
  · have hfield := hothers _ hperson hname.symm
    rwa [ne_eq, signedField?_eq_none_iff (hknown hperson), and_iff_right rfl] at hfield
  · rw [ne_eq, signedField?_eq_none_iff (hknown hother)]
    rintro ⟨rfl, hnone⟩
    exact hperson hother hname.symm hnone

end DiffersOnlyAt

end NoticePayment

/-- **Tampering with one signed field shows.** -/
theorem tampering_shows :
    (∀ b b' : Bill, b.Tampered b' → b'.signedText ≠ b.signedText ∧
      ∀ (key : List UInt8) (signature : String),
        Set.InjOn (fun text => Hmac.code key (Utf8.encode text)) {b.signedText, b'.signedText} →
        b.verify key signature = true → b'.verify key signature = false) ∧
    (∀ (p : NoticePayment) (names : List String), p.Names names →
      p.signFieldNames = names ∧ names ⊆ NoticePayment.knownFieldNames) ∧
    (∀ (p q : NoticePayment) (name : String),
      p.signFieldNames ⊆ NoticePayment.knownFieldNames → p.DiffersOnlyAt name q →
      (q.signedText? ≠ p.signedText? ↔ name ∈ p.signFieldNames ∧
        ("personId" ∈ p.signFieldNames → name ≠ "personId" → p.personId ≠ none))) ∧
    ∀ (key : List UInt8) (n m : PaymentNotice) (name : String),
      Set.InjOn (fun text => Hmac.code key (Utf8.encode text)) (n.signedTexts m) →
      n.payment.DiffersOnlyAt name m.payment → name ∈ n.payment.signFieldNames →
      m.hash = n.hash → n.verify key = true → m.verify key = false := by
  refine ⟨fun b b' h => ⟨h.signedText_ne, fun key signature hcode hverify => ?_⟩,
    fun p names h => ⟨h.signFieldNames_eq, h.subset⟩,
    fun p q name hknown h => h.signedText?_ne_iff_of_known hknown,
    fun key n m name hcode h hname hhash hverify => ?_⟩
  · rw [Bool.eq_false_iff]
    intro hverify'
    exact h.signedText_ne (hcode (by simp) (by simp) (Signature.code_eq_of_verify hverify' hverify))
  · obtain ⟨text, htext, hsigned⟩ := PaymentNotice.verify_iff.mp hverify
    rw [Bool.eq_false_iff]
    intro hverify'
    obtain ⟨text', htext', hsigned'⟩ := PaymentNotice.verify_iff.mp hverify'
    rw [hhash] at hsigned'
    have hsame : text' = text :=
      hcode (.inr htext') (.inl htext) (Signature.code_eq_of_verify hsigned' hsigned)
    exact h.signedText?_ne hname htext (hsame ▸ htext')

/-- A bill of one rouble. -/
def roubleBill : Bill :=
  ⟨"shop", "7", ⟨"1.00", "RUB"⟩, ⟨.paid, none⟩, none, none, none, none, none⟩

/-- A payment that names its account as signed twice, and has a bar in it. -/
def listedPayment : NoticePayment :=
  { roublePayment with account := "a|b", signFields := some "account, txnId ,account" }

theorem tampering_shows_of_listed :
    (roubleBill.Tampered { roubleBill with amount := { roubleBill.amount with value := "100" } } ∧
      Set.InjOn (fun text => Hmac.code wordKey (Utf8.encode text))
        {"RUB|1.00|7|shop|PAID", "RUB|100|7|shop|PAID"} ∧
      Bill.verify { roubleBill with amount := { roubleBill.amount with value := "100" } } wordKey
        (Signature.sign wordKey "RUB|1.00|7|shop|PAID") = false) ∧
    (listedPayment.Names ["account", "txnId", "account"] ∧
      listedPayment.DiffersOnlyAt "account" { listedPayment with account := "b|a" } ∧
      Set.InjOn (fun text => Hmac.code wordKey (Utf8.encode text))
        {"a|b|13353941550|a|b", "b|a|13353941550|b|a"} ∧
      (noticeSigned "a|b|13353941550|a|b" { listedPayment with account := "b|a" }).verify wordKey =
        false) := by
  obtain ⟨hbill, -, -, hnotice⟩ := tampering_shows
  have htampered : roubleBill.Tampered
      { roubleBill with amount := { roubleBill.amount with value := "100" } } :=
    .value (by decide)
  have hcode : Set.InjOn (fun text => Hmac.code wordKey (Utf8.encode text))
      {"RUB|1.00|7|shop|PAID", "RUB|100|7|shop|PAID"} :=
    Set.injOn_pair.mpr fun h => absurd h (by decide +kernel)
  have hlisted : listedPayment.signedText? = some "a|b|13353941550|a|b" := by
    decide +kernel
  have hother : NoticePayment.signedText? { listedPayment with account := "b|a" } =
      some "b|a|13353941550|b|a" := by
    decide +kernel
  have hnames : listedPayment.Names ["account", "txnId", "account"] := by
    refine ⟨by simp, ["account".toList, " txnId ".toList, "account".toList], by decide, ?_⟩
    exact .cons ⟨by decide, trimBlanks_eq_iff.mp (by decide)⟩
      (.cons ⟨by decide, trimBlanks_eq_iff.mp (by decide)⟩
        (.cons ⟨by decide, trimBlanks_eq_iff.mp (by decide)⟩ .nil))
  have hdiffers : listedPayment.DiffersOnlyAt "account" { listedPayment with account := "b|a" } :=
    NoticePayment.differsOnlyAt_account (by decide)
  have hcode' : Set.InjOn (fun text => Hmac.code wordKey (Utf8.encode text))
      {"a|b|13353941550|a|b", "b|a|13353941550|b|a"} :=
    Set.injOn_pair.mpr fun h => absurd h (by decide +kernel)
  refine ⟨⟨htampered, hcode, ?_⟩, hnames, hdiffers, hcode', ?_⟩
  · exact (hbill _ _ htampered).2 wordKey _ hcode (Signature.verify_self _ _)
  · refine hnotice wordKey (noticeSigned "a|b|13353941550|a|b" listedPayment) _ "account" ?_
      hdiffers (by decide) rfl ?_
    · have htexts : (noticeSigned "a|b|13353941550|a|b" listedPayment).signedTexts
          (noticeSigned "a|b|13353941550|a|b" { listedPayment with account := "b|a" }) =
            {"a|b|13353941550|a|b", "b|a|13353941550|b|a"} := by
        ext text
        simp only [PaymentNotice.signedTexts, noticeSigned, hlisted, hother, Set.mem_ofPred_eq,
          Option.some.injEq, Set.mem_insert_iff, Set.mem_singleton_iff, eq_comm]
      rwa [htexts]
    · exact PaymentNotice.verify_iff.mpr ⟨_, hlisted, Signature.verify_self _ _⟩

/-- A payment that names the identifier of a person as signed, and has none. -/
def namelessPayment : NoticePayment :=
  { roublePayment with account := "A", signFields := some "personId,account" }

/-- Another account does not show there, although it is among the signed fields. -/
theorem missing_field_hides_tampering :
    namelessPayment.Names ["personId", "account"] ∧
    namelessPayment.DiffersOnlyAt "account" { namelessPayment with account := "B" } ∧
    ¬ (NoticePayment.signedText? { namelessPayment with account := "B" } ≠
        namelessPayment.signedText? ↔ "account" ∈ namelessPayment.signFieldNames) := by
  refine ⟨⟨by simp, ["personId".toList, "account".toList], by decide, ?_⟩,
    NoticePayment.differsOnlyAt_account (by decide), by decide⟩
  exact .cons ⟨by decide, trimBlanks_eq_iff.mp (by decide)⟩
    (.cons ⟨by decide, trimBlanks_eq_iff.mp (by decide)⟩ .nil)

end WalletEvents
