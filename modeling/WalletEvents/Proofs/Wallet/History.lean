import WalletEvents.Proofs.Calendar.Instants
import WalletEvents.Proofs.Wallet.Ledger

/-!
# Asking for the history

A page of the history is asked for by one request, and what is asked for stands in the
form of its query.

**Result.** `Wallet.history_is_asked_as_written`: the form is read as the fields of the
query, whatever the sources are made of, and the dates as instants less than a second
before. So two queries with the same form ask for the same.

**Limits.** A request cannot be sent when its URL is too long. A date whose year does not
have four digits is written with a sign: `Wallet.overlong_query_is_not_sent`.
-/

namespace WalletEvents

/-- A text stands for a date: it is read as an instant less than a second before. -/
structure IsDateText (text : String) (t : Instant) : Prop where
  read : ∃ m, Moment.read? text = some m ∧
    m.instant.count ≤ t.count ∧ t.count < m.instant.count + 1000000000 ∧
    (NanoFits (t.second % 86400).toNat t.nano → t.lt m.instant = false)
  timestamp : IsTimestamp text ↔ 0 ≤ t.year ∧ t.year ≤ 9999

theorem isDateText_wholeSecondText {t : Instant} (h : t.IsValid) :
    IsDateText t.wholeSecondText t := by
  obtain ⟨m, hread, hinstant⟩ := Instant.read?_wholeSecondText h
  refine ⟨⟨m, hread, ?_⟩, Instant.isTimestamp_wholeSecondText_iff h⟩
  rw [hinstant]
  exact ⟨(Instant.count_shown h).1, (Instant.count_shown h).2, Instant.not_lt_shown⟩

namespace HistoryQuery

/-- The fields of the dates: both or none. -/
structure AreDates (q : HistoryQuery) (fields : List (String × String)) : Prop where
  both : ∀ start stop, q.startDate = some start → q.endDate = some stop →
    ∃ first last, fields = [("startDate", first), ("endDate", last)] ∧
      IsDateText first start ∧ IsDateText last stop
  none : q.startDate = none ∨ q.endDate = none → fields = []

/-- The fields of the sources, in order. -/
structure AreSources (q : HistoryQuery) (fields : List (String × String)) : Prop where
  length : fields.length = q.sources.length
  field : ∀ i source, q.sources[i]? = some source →
    fields[i]? = some ("sources[" ++ Nat.repr i ++ "]", source)

/-- The fields of a form ask for what a query asks for. -/
def IsAskedBy (q : HistoryQuery) (fields : List (String × String)) : Prop :=
  ∃ sources dates, q.AreSources sources ∧ q.AreDates dates ∧
    fields = ("rows", Nat.repr (max 1 (min q.rows 50))) :: ("operation", Named.name q.operation) ::
      (sources ++ dates)

variable {q other : HistoryQuery}

theorem isAskedBy_historyFields
    (hstart : ∀ t, q.startDate = some t → t.IsValid) (hend : ∀ t, q.endDate = some t → t.IsValid) :
    q.IsAskedBy (Wallet.historyFields q) := by
  refine ⟨_, _, ⟨List.length_mapIdx, fun i source hsource => ?_⟩, ⟨?_, ?_⟩, rfl⟩
  · rw [List.getElem?_mapIdx, hsource, Option.map_some]
  · intro start stop hstart' hend'
    rw [hstart', hend']
    exact ⟨_, _, rfl, isDateText_wholeSecondText (hstart start hstart'),
      isDateText_wholeSecondText (hend stop hend')⟩
  · rintro (hnone | hnone)
    · rw [hnone]
    · rw [hnone]
      cases q.startDate <;> rfl

/-- The sources that the fields of a form name: they are not dates. -/
def sourcesIn (fields : List (String × String)) : List String :=
  ((fields.drop 2).filter fun field => field.1 ≠ "startDate" ∧ field.1 ≠ "endDate").map Prod.snd

theorem sourcesIn_historyFields (q : HistoryQuery) :
    sourcesIn (Wallet.historyFields q) = q.sources := by
  let sources := q.sources.mapIdx fun i source => ("sources[" ++ Nat.repr i ++ "]", source)
  have hsources : sources.filter (fun field => field.1 ≠ "startDate" ∧ field.1 ≠ "endDate") =
      sources := by
    rw [List.filter_eq_self]
    intro field hfield
    obtain ⟨i, -, rfl⟩ := List.mem_mapIdx.mp hfield
    have hname : ∀ rest, "sources[" ++ rest ≠ "startDate" ∧ "sources[" ++ rest ≠ "endDate" := by
      intro rest
      constructor
      all_goals
        intro heq
        have hchars := congrArg String.toList heq
        simp at hchars
    simpa [String.append_assoc] using hname (Nat.repr i ++ "]")
  have hvalues : sources.map Prod.snd = q.sources := by
    apply List.ext_getElem
    · simp [sources]
    · intro i h₁ h₂
      simp [sources]
  obtain ⟨dates, hfields, hdates⟩ : ∃ dates, (Wallet.historyFields q).drop 2 = sources ++ dates ∧
      dates.filter (fun field => field.1 ≠ "startDate" ∧ field.1 ≠ "endDate") = [] := by
    refine ⟨_, rfl, ?_⟩
    split
    · simp
    · simp
  rw [sourcesIn, hfields, List.filter_append, hsources, hdates, List.append_nil, hvalues]

theorem operation_name_injective :
    Function.Injective (Named.name : OperationType → String) := by
  intro a b h
  cases a <;> cases b <;> first | rfl | exact absurd h (by decide)

theorem repr_injective :
    Function.Injective Nat.repr := by
  intro a b h
  rw [Nat.repr_eq_ofList_toDigits, Nat.repr_eq_ofList_toDigits, String.ofList_inj] at h
  rw [← Nat.ofDigitChars_ten_toDigits (n := a), h, Nat.ofDigitChars_ten_toDigits]

/-- The fields tell what is asked for. -/
theorem same_of_historyFields (h : Wallet.historyFields q = Wallet.historyFields other) :
    clampRows q.rows = clampRows other.rows ∧ q.operation = other.operation ∧
      q.sources = other.sources := by
  refine ⟨?_, ?_, ?_⟩
  · have hfirst := congrArg (fun fields => fields.head?.map Prod.snd) h
    exact repr_injective (Option.some.inj hfirst)
  · have hsecond := congrArg (fun fields => fields.tail.head?.map Prod.snd) h
    exact operation_name_injective (Option.some.inj hsecond)
  · rw [← sourcesIn_historyFields q, h, sourcesIn_historyFields]

end HistoryQuery

namespace Wallet

variable {w : Wallet} {base : Url} {phone : String}

/-- The request for a page of the history of a telephone number. -/
def historyRequest (w : Wallet) (base : Url) (phone : String) (q : HistoryQuery) : WalletRequest :=
  w.requestFor base "GET" ["payment-history", "v2", "persons", phone, "payments"] (historyFields q)

theorem isEndpointOf_history (hphone : ∀ c ∈ phone.toList, c.isDigit = true) :
    IsEndpointOf ("payment-history/v2/persons/" ++ phone ++ "/payments")
      ["payment-history", "v2", "persons", phone, "payments"] := by
  have hplain : IsPlainText phone.toList := by
    intro c hc
    exact .inl (by simp [Char.isAlphanum, hphone c hc])
  let parts := ["payment-history".toList, "v2".toList, "persons".toList, phone.toList,
    "payments".toList]
  have hparts : ∀ part ∈ parts, IsPlainText part := by
    simp only [parts, List.forall_mem_cons, List.not_mem_nil, false_implies, implies_true, and_true]
    exact ⟨by decide, by decide, by decide, hplain, by decide⟩
  have hsegments : parts.map Url.normalSegment =
      ["payment-history", "v2", "persons", phone, "payments"] := by
    rw [List.map_congr_left fun part hpart => Url.normalSegment_of_plain (hparts part hpart)]
    simp [parts]
  have htext : ("payment-history/v2/persons/" ++ phone ++ "/payments").toList =
      ['/'].intercalate parts := by
    simp [parts, List.intercalate_cons_cons]
  have hendpoint := isEndpointOf_of_words htext (List.cons_ne_nil _ _)
    fun part hpart => (hparts part hpart).isWord
  rwa [hsegments] at hendpoint

/--
**A query is asked as it is written.** A page of the history is asked for by one request below the
directory of the service, unless its URL is too long to be sent. The form of the request is read as the
fields of the query, and dates are in it as a pair. Queries with the same form have the same number of
rows, the same operation and the same sources.
-/
theorem history_is_asked_as_written
    {σ : Type} {q : HistoryQuery} (hready : w.IsReady base) (hphone : w.phone = some phone)
    (hdigits : ∀ c ∈ phone.toList, c.isDigit = true)
    (hstart : ∀ t, q.startDate = some t → t.IsValid) (hend : ∀ t, q.endDate = some t → t.IsValid)
    (server : Server σ) (s : σ) (record : List Exchange) (session : Session) :
    let request := w.historyRequest base phone q
    request.method = "GET" ∧
      request.url.path = .segments
        (base.directory ++ ["payment-history", "v2", "persons", phone, "payments"]) ∧
      (∃ form fields, request.url.query = some form ∧ Form.read? form.toList = some fields ∧
        q.IsAskedBy fields) ∧
      (request.url.text.length ≤ Url.longestRequested →
        WalletM.outcome (w.fetchHistory server.link q) session (s, record) =
          (content History.read? (server request s).1, true, (server request s).2,
            record ++ [(request, (server request s).1)])) ∧
      (Url.longestRequested < request.url.text.length →
        WalletM.outcome (w.fetchHistory server.link q) session (s, record) =
          (.error (.exchange .request), true, s, record)) ∧
      ∀ other : HistoryQuery, (w.historyRequest base phone other).url.query = request.url.query →
        HistoryQuery.clampRows other.rows = HistoryQuery.clampRows q.rows ∧
          other.operation = q.operation ∧ other.sources = q.sources := by
  intro request
  have hendpoint := isEndpointOf_history hdigits
  obtain ⟨form, hform, hread⟩ : ∃ form, request.url.query = some form ∧
      Form.read? form.toList = some (historyFields q) :=
    query_requestFor (List.cons_ne_nil _ _)
  refine ⟨rfl, rfl, ⟨form, historyFields q, hform, hread, HistoryQuery.isAskedBy_historyFields
    hstart hend⟩, fun hshort => ?_, fun hlong => ?_, fun other hsame => ?_⟩
  · rw [fetchHistory, hphone]
    exact outcome_ask_of_link hready hendpoint hshort rfl
  · rw [fetchHistory, hphone]
    exact outcome_ask_unsent hready hendpoint hlong
  · obtain ⟨form', hform', hread'⟩ : ∃ form, (w.historyRequest base phone other).url.query = some form ∧
        Form.read? form.toList = some (historyFields other) :=
      query_requestFor (List.cons_ne_nil _ _)
    rw [hform', hform] at hsame
    obtain rfl := Option.some.inj hsame
    exact HistoryQuery.same_of_historyFields (Option.some.inj (hread'.symm.trans hread))

/-- A wallet of a local service with a telephone number. -/
def onTheLine : Wallet := { onLocalhost [] with phone := some "79000000000" }

theorem onTheLine_isReady :
    onTheLine.IsReady (localhostUrl []) :=
  have hready : (onLocalhost []).IsReady (localhostUrl []) := onLocalhost_isReady nofun
  ⟨hready.read, hready.askable, hready.token⟩

/-- The length of the URL of its requests. -/
theorem length_historyRequest (q : HistoryQuery) :
    (onTheLine.historyRequest (localhostUrl []) "79000000000" q).url.text.length =
      64 + ((historyFields q).map fun field => (Form.encodeField field).length + 1).sum := by
  have hsome : historyFields q ≠ [] := List.cons_ne_nil _ _
  have hpath : (((localhostUrl []).directory ++ ["payment-history", "v2", "persons", "79000000000",
      "payments"]).map fun segment => segment.length + 1).sum = 48 := by
    decide
  rw [historyRequest, length_requestFor, hpath, if_neg hsome, Form.length_append hsome]

/-- Sources may be made of the signs of a form, and dates of fractions. -/
theorem history_is_asked_as_written_of_signs :
    let q : HistoryQuery :=
      ⟨100, .incoming, ["a&b=c d+e%[]", ""], some ⟨1700000000, 500000000⟩, some ⟨1700003600, 0⟩⟩
    let request := onTheLine.historyRequest (localhostUrl []) "79000000000" q
    let refused : WalletResponse := ⟨404, []⟩
    onTheLine.IsReady (localhostUrl []) ∧ onTheLine.phone = some "79000000000" ∧
      (∀ c ∈ "79000000000".toList, c.isDigit = true) ∧
      (∀ t, q.startDate = some t → t.IsValid) ∧ (∀ t, q.endDate = some t → t.IsValid) ∧
      request.url.text.length ≤ Url.longestRequested ∧
      (∃ form fields, request.url.query = some form ∧ Form.read? form.toList = some fields ∧
        q.IsAskedBy fields) ∧
      WalletM.outcome (onTheLine.fetchHistory (Server.link fun _ s => (refused, s)) q) false ((), []) =
        (content History.read? refused, true, (), [(request, refused)]) := by
  intro q request refused
  have hdigits : ∀ c ∈ "79000000000".toList, c.isDigit = true := by
    simp
  have hstart : ∀ t, q.startDate = some t → t.IsValid := by
    rintro t ⟨⟩
    exact ⟨by decide, by decide⟩
  have hend : ∀ t, q.endDate = some t → t.IsValid := by
    rintro t ⟨⟩
    exact ⟨by decide, by decide⟩
  have hshort : request.url.text.length ≤ Url.longestRequested := by
    have hfields : ((historyFields q).map fun field => (Form.encodeField field).length + 1).sum ≤
        ((historyFields q).map fun field => 12 * (field.1.length + field.2.length) + 2).sum :=
      List.sum_le_sum fun field _ => Nat.succ_le_succ (Form.length_encodeField field).2
    have hmost : ((historyFields q).map fun field =>
        12 * (field.1.length + field.2.length) + 2).sum ≤ 3000 := by
      decide +kernel
    have hlength : request.url.text.length = _ := length_historyRequest q
    rw [Url.longestRequested]
    omega
  obtain ⟨-, -, hform, hsent, -, -⟩ := history_is_asked_as_written onTheLine_isReady rfl hdigits
    hstart hend (fun _ s => (refused, s)) () [] false
  exact ⟨onTheLine_isReady, rfl, hdigits, hstart, hend, hshort, hform, hsent hshort⟩

theorem longestRequested_lt_of_source {source : String} (h : Url.longestRequested ≤ source.length) :
    Url.longestRequested < (onTheLine.historyRequest (localhostUrl []) "79000000000"
      ⟨50, .all, [source], none, none⟩).url.text.length := by
  have hsource := (Form.length_encodeField ("sources[" ++ Nat.repr 0 ++ "]", source)).1
  have hfields : historyFields ⟨50, .all, [source], none, none⟩ =
      [("rows", Nat.repr (HistoryQuery.clampRows 50)), ("operation", Named.name OperationType.all),
        ("sources[" ++ Nat.repr 0 ++ "]", source)] := rfl
  rw [length_historyRequest, hfields]
  simp only [List.map_cons, List.map_nil, List.sum_cons, List.sum_nil]
  dsimp only at hsource
  omega

/-- A source of 65536 letters cannot be asked for, and the year 10000 is not written as that of a
timestamp. -/
theorem overlong_query_is_not_sent :
    let q : HistoryQuery := ⟨50, .all, [String.ofList (List.replicate 65536 'a')], none, none⟩
    let refused : WalletResponse := ⟨404, []⟩
    let late : Instant := ⟨253402300800, 0⟩
    onTheLine.IsReady (localhostUrl []) ∧ onTheLine.phone = some "79000000000" ∧
      WalletM.outcome (onTheLine.fetchHistory (Server.link fun _ s => (refused, s)) q) false ((), []) =
        (.error (.exchange .request), true, (), []) ∧
      late.IsValid ∧ ¬ IsTimestamp late.wholeSecondText := by
  intro q refused late
  have hdigits : ∀ c ∈ "79000000000".toList, c.isDigit = true := by
    simp
  have hlate : late.IsValid := ⟨by decide, by decide⟩
  refine ⟨onTheLine_isReady, rfl, ?_, hlate, ?_⟩
  · have hsource : Url.longestRequested ≤ (String.ofList (List.replicate 65536 'a')).length := by
      rw [String.length_ofList, List.length_replicate]
      decide
    have hlong := longestRequested_lt_of_source hsource
    exact outcome_ask_unsent onTheLine_isReady (isEndpointOf_history hdigits) hlong
  · rw [Instant.isTimestamp_wholeSecondText_iff hlate]
    decide

end Wallet

end WalletEvents
