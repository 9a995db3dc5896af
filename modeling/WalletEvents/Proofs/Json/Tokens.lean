import WalletEvents.Proofs.Json.Numeral
import WalletEvents.Proofs.Json.Spelling

/-!
# The tokens of a compressed text

The machine that finds tokens takes one byte at a time. `Token.Leads` says that
some bytes lead it from one state to another, and which tokens end on the way.

The parts of a compressed text lead from the state between two tokens

* back to that state, if they are strings or end with a bracket;
* into a word or a numeral otherwise, which any byte ends that may stand behind
  a value.

`Token.ReadsAs` is what both have in common, and `readsAs_chars` gives the tokens
of every value.
-/

namespace WalletEvents

namespace Json

namespace Token

/-- The bytes lead from the one state to the other, and these tokens end on the way. -/
def Leads (state : State) (bytes : List UInt8) (tokens : List Token) (next : State) : Prop :=
  ∀ found rest, scan? state found (bytes ++ rest) = scan? next (tokens.reverse ++ found) rest

variable {state middle next : State} {bytes more : List UInt8} {tokens others : List Token}

theorem leads_nil (state : State) :
    Leads state [] [] state :=
  fun _ _ => rfl

theorem Leads.append
    (h : Leads state bytes tokens middle) (h' : Leads middle more others next) :
    Leads state (bytes ++ more) (tokens ++ others) next := by
  intro found rest
  rw [List.append_assoc, h, h', List.reverse_append, List.append_assoc]

theorem leads_of_step
    {b : UInt8} (h : step? state b = some (tokens, next)) :
    Leads state [b] tokens next := by
  intro found rest
  simp [scan?, h, List.reverseAux_eq]

theorem leads_plainBytes
    (hplain : ∀ b ∈ bytes, b ≠ 34 ∧ b ≠ 92 ∧ ¬ b < 32) (pieces : List Piece) :
    Leads (.string pieces) bytes [] (.string ((bytes.map .byte).reverse ++ pieces)) := by
  induction bytes generalizing pieces with
  | nil => exact leads_nil _
  | cons b rest ih =>
      obtain ⟨hquote, hescape, hcontrol⟩ := hplain b (by simp)
      have hstep : step? (.string pieces) b = some ([], .string (.byte b :: pieces)) := by
        simp [step?, hquote, hescape, hcontrol]
      have hrest := ih (fun c hc => hplain c (by simp [hc])) (.byte b :: pieces)
      simpa using (leads_of_step hstep).append hrest

theorem leads_control
    {c : Char} (hc : c.toNat < 32) (pieces : List Piece) :
    Leads (.string pieces) (Utf8.bytes (escapeChar c)) []
      (.string ((charPieces c).reverse ++ pieces)) := by
  obtain ⟨n, hn⟩ : ∃ n, n = c.toNat := ⟨_, rfl⟩
  rw [← hn] at hc
  obtain rfl : c = Char.ofNat n := by
    rw [hn, Char.ofNat_toNat]
  interval_cases n <;> exact fun _ _ => rfl

theorem plainBytes_of_char
    {c : Char} (hc : ¬ c.toNat < 32) (hquote : c ≠ '"') (hescape : c ≠ '\\') :
    ∀ b ∈ String.utf8EncodeChar c, b ≠ 34 ∧ b ≠ 92 ∧ ¬ b < 32 := by
  intro b hb
  have hbound : b ≠ 34 ∧ b ≠ 92 ∧ ¬ b < 32 ↔ b.toNat ≠ 34 ∧ b.toNat ≠ 92 ∧ 32 ≤ b.toNat := by
    rw [← UInt8.toNat_inj.ne, ← UInt8.toNat_inj.ne, UInt8.lt_iff_toNat_lt, not_lt]
    rfl
  rw [hbound]
  by_cases hascii : c.toNat < 128
  · rw [Utf8.utf8EncodeChar_of_ascii hascii, List.mem_singleton] at hb
    have hb' : b.toNat = c.toNat := by
      rw [hb]
      simp
      omega
    have hne : ∀ d : Char, c ≠ d → c.toNat ≠ d.toNat := by
      intro d hd heq
      apply hd
      rw [← Char.ofNat_toNat c, heq, Char.ofNat_toNat]
    rw [hb']
    exact ⟨hne '"' hquote, hne '\\' hescape, by omega⟩
  · have := Utf8.le_of_mem_utf8EncodeChar (by omega) hb
    omega

/-- The spelling of a character is read as its pieces. -/
theorem leads_escapeChar (c : Char) (pieces : List Piece) :
    Leads (.string pieces) (Utf8.bytes (escapeChar c)) []
      (.string ((charPieces c).reverse ++ pieces)) := by
  by_cases hcontrol : c.toNat < 32
  · exact leads_control hcontrol pieces
  · by_cases hquote : c = '"'
    · subst hquote
      exact fun _ _ => rfl
    · by_cases hescape : c = '\\'
      · subst hescape
        exact fun _ _ => rfl
      · have hchars : escapeChar c = [c] := by
          unfold escapeChar
          have h : ∀ d : Char, d.toNat < 32 → c ≠ d := by
            rintro d hd rfl
            exact hcontrol hd
          rw [if_neg hquote, if_neg hescape, if_neg (h _ (by decide)), if_neg (h _ (by decide)),
            if_neg (h _ (by decide)), if_neg (h _ (by decide)), if_neg (h _ (by decide)),
            if_neg hcontrol]
        have hpieces : charPieces c = (String.utf8EncodeChar c).map .byte := by
          unfold charPieces
          rw [if_neg (fun h => hcontrol h.1)]
        rw [hchars, hpieces]
        simpa [Utf8.bytes_cons] using
          leads_plainBytes (plainBytes_of_char hcontrol hquote hescape) pieces

theorem leads_escapedText (text : List Char) (pieces : List Piece) :
    Leads (.string pieces) (Utf8.bytes (text.flatMap escapeChar)) []
      (.string ((text.flatMap charPieces).reverse ++ pieces)) := by
  induction text generalizing pieces with
  | nil => exact leads_nil _
  | cons c rest ih =>
      have h := (leads_escapeChar c pieces).append (ih ((charPieces c).reverse ++ pieces))
      simpa using h

/-- A text in quotation marks is one token. -/
theorem leads_stringChars (text : String) :
    Leads .between (Utf8.bytes (stringChars text)) [.string (Json.pieces text)] .between := by
  have hopen : Leads .between (Utf8.bytes ['"']) [] (.string []) := fun _ _ => rfl
  have hclose : Leads (.string ((Json.pieces text).reverse ++ [])) (Utf8.bytes ['"'])
      [.string (Json.pieces text)] .between := by
    refine leads_of_step ?_
    simp [step?]
  have h := (hopen.append (leads_escapedText text.toList [])).append hclose
  simpa [stringChars, Utf8.bytes_cons] using h

theorem charOfByte
    {c : Char} (hc : c.toNat < 128) :
    Char.ofNat (UInt8.ofNat c.toNat).toNat = c := by
  have hbyte : (UInt8.ofNat c.toNat).toNat = c.toNat := by
    simp
    omega
  rw [hbyte, Char.ofNat_toNat]

theorem isNumeralChar_of_isDigit
    {c : Char} (hc : c.isDigit = true) :
    isNumeralChar c = true := by
  simp [isNumeralChar, hc]

theorem toNat_le_of_isDigit
    {c : Char} (hc : c.isDigit = true) :
    48 ≤ c.toNat ∧ c.toNat ≤ 57 := by
  have h : 48 ≤ c.val ∧ c.val ≤ 57 := by
    simpa [Char.isDigit] using hc
  exact ⟨UInt32.le_iff_toNat_le.mp h.1, UInt32.le_iff_toNat_le.mp h.2⟩

theorem ascii_of_isNumeralChar
    {c : Char} (hc : isNumeralChar c = true) :
    c.toNat < 128 := by
  simp only [isNumeralChar, Bool.or_eq_true, decide_eq_true_eq] at hc
  rcases hc with ((((hdigit | rfl) | rfl) | rfl) | rfl) | rfl
  · have := toNat_le_of_isDigit hdigit
    omega
  all_goals decide

theorem leads_numeralChars
    {text : List Char} (htext : ∀ c ∈ text, isNumeralChar c = true) (before : List Char) :
    Leads (.numeral before) (Utf8.bytes text) [] (.numeral (text.reverse ++ before)) := by
  induction text generalizing before with
  | nil => exact leads_nil _
  | cons c rest ih =>
      have hc := htext c (by simp)
      have hascii := ascii_of_isNumeralChar hc
      have hstep : step? (.numeral before) (UInt8.ofNat c.toNat) =
          some ([], .numeral (c :: before)) := by
        simp only [step?, charOfByte hascii, hc, if_true]
      have hrest := ih (fun d hd => htext d (by simp [hd])) (c :: before)
      rw [Utf8.bytes_cons, Utf8.utf8EncodeChar_of_ascii hascii]
      simpa using (leads_of_step hstep).append hrest

theorem step?_numeralStart
    {c : Char} (hc : c.isDigit = true ∨ c = '-') :
    step? .between (UInt8.ofNat c.toNat) = some ([], .numeral [c]) := by
  rcases hc with hdigit | rfl
  · obtain ⟨hlow, hhigh⟩ := toNat_le_of_isDigit hdigit
    obtain ⟨n, hn⟩ : ∃ n, n = c.toNat := ⟨_, rfl⟩
    rw [← hn] at hlow hhigh
    obtain rfl : c = Char.ofNat n := by
      rw [hn, Char.ofNat_toNat]
    interval_cases n <;> rfl
  · rfl

/-- The characters of a well-formed numeral make the machine read a numeral. -/
theorem isNumeralChar_of_mem_chars
    {n : Numeral} (h : n.WellFormed) {c : Char} (hc : c ∈ n.chars) :
    isNumeralChar c = true := by
  simp only [Numeral.chars, Numeral.unsignedChars, List.mem_append] at hc
  rcases hc with hsign | hwhole | hfraction | hexponent
  · split at hsign
    · rw [List.mem_singleton.mp hsign]
      rfl
    · simp at hsign
  · exact isNumeralChar_of_isDigit (h.wholeDigits c hwhole)
  · cases hpart : n.fraction with
    | none => simp [hpart, Numeral.fractionChars] at hfraction
    | some digits =>
        rw [hpart] at hfraction
        rcases List.mem_cons.mp hfraction with rfl | hdigit
        · rfl
        · exact isNumeralChar_of_isDigit ((h.fraction digits hpart).2 c hdigit)
  · cases hpart : n.exponent with
    | none => simp [hpart, Numeral.exponentChars] at hexponent
    | some part =>
        obtain ⟨negative, digits⟩ := part
        rw [hpart] at hexponent
        rcases List.mem_cons.mp hexponent with rfl | hexponent
        · rfl
        · rcases List.mem_cons.mp hexponent with rfl | hdigit
          · cases negative <;> rfl
          · exact isNumeralChar_of_isDigit ((h.exponent negative digits hpart).2 c hdigit)

theorem leads_numeral
    {n : Numeral} (h : n.WellFormed) :
    Leads .between (Utf8.bytes n.chars) [] (.numeral n.chars.reverse) := by
  have hall : ∀ c ∈ n.chars, isNumeralChar c = true :=
    fun _ hc => isNumeralChar_of_mem_chars h hc
  have hhead : ∃ c rest, n.chars = c :: rest ∧ (c.isDigit = true ∨ c = '-') := by
    cases hneg : n.negative with
    | true => exact ⟨'-', n.unsignedChars, by simp [Numeral.chars, hneg], Or.inr rfl⟩
    | false =>
        cases hwhole : n.whole with
        | nil =>
            have := h.whole
            simp [hwhole, Numeral.wholeAllowed] at this
        | cons c rest =>
            exact ⟨c, rest ++ (Numeral.fractionChars n.fraction ++
                Numeral.exponentChars n.exponent),
              by simp [Numeral.chars, Numeral.unsignedChars, hneg, hwhole],
              Or.inl (h.wholeDigits c (by simp [hwhole]))⟩
  obtain ⟨c, rest, hchars, hc⟩ := hhead
  rw [hchars] at hall ⊢
  have hrest : Leads (.numeral [c]) (Utf8.bytes rest) [] (.numeral (rest.reverse ++ [c])) :=
    leads_numeralChars (fun d hd => hall d (by simp [hd])) [c]
  rw [Utf8.bytes_cons, Utf8.utf8EncodeChar_of_ascii (ascii_of_isNumeralChar (hall c (by simp)))]
  simpa using (leads_of_step (step?_numeralStart hc)).append hrest

/-- A byte that may stand behind a value, and its token. -/
inductive Closes : UInt8 → Token → Prop
  | comma : Closes 44 .comma
  | array : Closes 93 .closeArray
  | object : Closes 125 .closeObject

/-- The bytes are read as the tokens, at the end of a text and in front of a byte that closes. -/
structure ReadsAs (bytes : List UInt8) (tokens : List Token) : Prop where
  atEnd : ∀ found, scan? .between found bytes = some (found.reverse ++ tokens)
  before : ∀ b token, Closes b token → Leads .between (bytes ++ [b]) (tokens ++ [token]) .between

theorem step?_of_closes
    {b : UInt8} {token : Token} (hb : Closes b token) (hend : ended? state = some others) :
    step? state b = some (others ++ [token], .between) := by
  cases state with
  | between =>
      obtain rfl : [] = others := Option.some.inj hend
      cases hb <;> rfl
  | word letters =>
      have hrestart : restart? (.word letters) b = some (others ++ [token], .between) := by
        unfold restart?
        rw [hend]
        cases hb <;> rfl
      cases hb <;> exact hrestart
  | numeral text =>
      have hrestart : restart? (.numeral text) b = some (others ++ [token], .between) := by
        unfold restart?
        rw [hend]
        cases hb <;> rfl
      cases hb <;> exact hrestart
  | string pieces => simp [ended?] at hend
  | escape pieces => simp [ended?] at hend
  | unit pieces due value => simp [ended?] at hend

theorem reverse_of_ended
    (hend : ended? state = some others) :
    others.reverse = others := by
  cases state with
  | between =>
      obtain rfl : [] = others := Option.some.inj hend
      rfl
  | word letters =>
      obtain ⟨token, -, rfl⟩ := Option.map_eq_some_iff.mp hend
      rfl
  | numeral text =>
      obtain ⟨token, -, rfl⟩ := Option.map_eq_some_iff.mp hend
      rfl
  | string pieces => simp [ended?] at hend
  | escape pieces => simp [ended?] at hend
  | unit pieces due value => simp [ended?] at hend

theorem readsAs_of_leads
    (h : Leads .between bytes tokens state) (hend : ended? state = some others) :
    ReadsAs bytes (tokens ++ others) := by
  constructor
  · intro found
    have hscan := h found []
    rw [List.append_nil] at hscan
    rw [hscan]
    simp [scan?, hend, reverse_of_ended hend]
  · intro b token hb
    simpa using h.append (leads_of_step (step?_of_closes hb hend))

/-- Parts joined by commas in front of a bracket. -/
theorem leads_commaJoin
    {texts : List (List UInt8)} {parts : List (List Token)}
    (hparts : List.Forall₂ ReadsAs texts parts)
    {b : UInt8} {token : Token} (hb : Closes b token)
    (hempty : Leads .between [b] [token] .between) :
    Leads .between (commaJoin 44 texts ++ [b]) (commaJoin .comma parts ++ [token]) .between := by
  cases hparts with
  | nil => exact hempty
  | @cons text part texts parts hpart hrest =>
      simp only [commaJoin]
      induction hrest generalizing text part with
      | nil => simpa using hpart.before b token hb
      | cons hnext hrest ih =>
          simpa using (hpart.before 44 .comma .comma).append (ih hnext)

end Token

mutual

/-- The tokens of a value. -/
def valueTokens : Json → List Token
  | .null => [.null]
  | .boolean b => [.boolean b]
  | .number n => [.number n.numeral]
  | .string s => [.string (pieces s)]
  | .array items => .openArray :: commaJoin .comma (itemTokens items) ++ [.closeArray]
  | .object members => .openObject :: commaJoin .comma (memberTokens members) ++ [.closeObject]

/-- The tokens of the items of an array. -/
def itemTokens : List Json → List (List Token)
  | [] => []
  | item :: rest => valueTokens item :: itemTokens rest

/-- The tokens of the members of an object. -/
def memberTokens : List (String × Json) → List (List Token)
  | [] => []
  | (name, value) :: rest =>
    (.string (pieces name) :: .colon :: valueTokens value) :: memberTokens rest

end

namespace Token

theorem readsAs_of_between
    {bytes : List UInt8} {tokens : List Token} (h : Leads .between bytes tokens .between) :
    ReadsAs bytes tokens := by
  simpa using readsAs_of_leads h rfl

theorem bytes_commaJoin (parts : List (List Char)) :
    Utf8.bytes (commaJoin ',' parts) = commaJoin 44 (parts.map Utf8.bytes) :=
  flatMap_commaJoin String.utf8EncodeChar ',' 44 rfl parts

/-- What leads back to the state between two tokens may stand before a value. -/
theorem ReadsAs.after
    {bytes more : List UInt8} {tokens others : List Token}
    (h' : ReadsAs more others) (h : Leads .between bytes tokens .between) :
    ReadsAs (bytes ++ more) (tokens ++ others) := by
  constructor
  · intro found
    rw [h found more, h'.atEnd]
    simp
  · intro b token hb
    simpa using h.append (h'.before b token hb)

/-- A name, a colon and a value. -/
theorem readsAs_member
    (name : String) {text : List Char} {tokens : List Token}
    (h : ReadsAs (Utf8.bytes text) tokens) :
    ReadsAs (Utf8.bytes (stringChars name ++ ':' :: text))
      (.string (Json.pieces name) :: .colon :: tokens) := by
  have hcolon : Leads .between (Utf8.bytes [':']) [.colon] .between := fun _ _ => rfl
  have hmember := h.after ((leads_stringChars name).append hcolon)
  simpa [Utf8.bytes_cons] using hmember

/-- Members in braces. -/
theorem readsAs_object
    {members : List (List Char)} {tokens : List (List Token)}
    (h : List.Forall₂ ReadsAs (members.map Utf8.bytes) tokens) :
    ReadsAs (Utf8.bytes ('\x7b' :: commaJoin ',' members ++ ['\x7d']))
      (.openObject :: commaJoin .comma tokens ++ [.closeObject]) := by
  have hopen : Leads .between (Utf8.bytes ['\x7b']) [.openObject] .between := fun _ _ => rfl
  have hmembers := leads_commaJoin h .object (fun _ _ => rfl)
  have hbytes : Utf8.bytes ('\x7b' :: commaJoin ',' members ++ ['\x7d']) =
      Utf8.bytes ['\x7b'] ++ (commaJoin 44 (members.map Utf8.bytes) ++ [125]) := by
    rw [Utf8.bytes_append, Utf8.bytes_cons, bytes_commaJoin, List.append_assoc]
    rfl
  rw [hbytes]
  exact readsAs_of_between (hopen.append hmembers)

mutual

/-- **The characters of a value are read as its tokens.** -/
theorem readsAs_chars (value : Json) :
    ReadsAs (Utf8.bytes (chars value)) (valueTokens value) := by
  match value with
  | .null =>
      have h : Leads .between (Utf8.bytes ['n', 'u', 'l', 'l']) [] (.word ['l', 'l', 'u', 'n']) :=
        fun _ _ => rfl
      exact readsAs_of_leads h rfl
  | .boolean true =>
      have h : Leads .between (Utf8.bytes ['t', 'r', 'u', 'e']) [] (.word ['e', 'u', 'r', 't']) :=
        fun _ _ => rfl
      exact readsAs_of_leads h rfl
  | .boolean false =>
      have h : Leads .between (Utf8.bytes ['f', 'a', 'l', 's', 'e']) []
          (.word ['e', 's', 'l', 'a', 'f']) :=
        fun _ _ => rfl
      exact readsAs_of_leads h rfl
  | .number n =>
      have hread := n.wellFormed_numeral
      have hend : ended? (.numeral n.numeral.chars.reverse) = some [.number n.numeral] := by
        simp [ended?, hread.ofChars?_chars]
      rw [chars, Number.toList_text]
      exact readsAs_of_leads (leads_numeral hread) hend
  | .string s =>
      rw [chars]
      exact readsAs_of_between (leads_stringChars s)
  | .array items =>
      have hopen : Leads .between (Utf8.bytes ['[']) [.openArray] .between := fun _ _ => rfl
      have hitems := leads_commaJoin (readsAs_itemChars items) .array (fun _ _ => rfl)
      have hbytes : Utf8.bytes (chars (.array items)) =
          Utf8.bytes ['['] ++ (commaJoin 44 ((itemChars items).map Utf8.bytes) ++ [93]) := by
        rw [chars, Utf8.bytes_append, Utf8.bytes_cons, bytes_commaJoin, List.append_assoc]
        rfl
      rw [hbytes]
      exact readsAs_of_between (hopen.append hitems)
  | .object members =>
      rw [chars]
      exact readsAs_object (readsAs_memberChars members)

theorem readsAs_itemChars (items : List Json) :
    List.Forall₂ ReadsAs ((itemChars items).map Utf8.bytes) (itemTokens items) := by
  match items with
  | [] => exact .nil
  | item :: rest => exact .cons (readsAs_chars item) (readsAs_itemChars rest)

theorem readsAs_memberChars (members : List (String × Json)) :
    List.Forall₂ ReadsAs ((memberChars members).map Utf8.bytes) (memberTokens members) := by
  match members with
  | [] => exact .nil
  | (name, value) :: rest =>
      exact .cons (readsAs_member name (readsAs_chars value)) (readsAs_memberChars rest)

end

end Token

/-- **The tokens of a compressed text.** -/
theorem tokens?_compress (value : Json) :
    tokens? (Utf8.encode value.compress) = some (valueTokens value) := by
  rw [Utf8.encode_eq_bytes, toList_compress]
  exact (Token.readsAs_chars value).atEnd []

end Json

end WalletEvents
