import WalletEvents.Proofs.Payment.RoundTrip
import WalletEvents.Proofs.Wallet.Hooks

/-!
# A small service

A service of hooks that remembers an address, and a wallet that finds it on the local
host at some path.

**Laws.** `Ledger.keeper_lawful`: below every directory the service is lawful. It finds
the place of a request in the path, and the address of a new hook in the form.

**Lengths.** `Wallet.length_requestFor` is the length of the URL of every request of the
wallet. So it is known which requests can be sent: see `Wallet.reaches_localhost`.
-/

namespace WalletEvents

/-- What a small service remembers: which of its two names comes next, and the address of the active hook. -/
structure Ledger where
  turn : Bool
  url : Option String

namespace Ledger

/-- The hook for an address. -/
def hook (l : Ledger) (url : String) : KeptHook :=
  if l.turn then ⟨"hook-1", url, "a2V5LTE="⟩ else ⟨"hook-2", url, "a2V5LTI="⟩

def active (l : Ledger) : Option KeptHook := l.url.map l.hook

/-- The description of a hook. -/
def described (hook : KeptHook) : WalletResponse :=
  ⟨200, WireFormat.hook.write ⟨hook.id, ⟨hook.url⟩, "WEB", "BOTH"⟩⟩

/-- The place among the hooks that a request is for. -/
def place? (directory : List String) (q : WalletRequest) : Option (List String) :=
  match q.url.path with
  | .segments segments =>
    if segments.take (directory ++ hookPath).length = directory ++ hookPath then
      some (segments.drop (directory ++ hookPath).length)
    else none
  | .opaquePath _ => none

/-- The address in the form of a request. -/
def address? (q : WalletRequest) : Option String := do
  let fields ← Form.read? (← q.url.query).toList
  fields.lookup "param"

def answer (directory : List String) (q : WalletRequest) (l : Ledger) : WalletResponse × Ledger :=
  match q.method, place? directory q, l.active with
  | "GET", some ["active"], some hook => (described hook, l)
  | "GET", some [id, "key"], some hook =>
    (if hook.id = id then ⟨200, WireFormat.hookKey.write ⟨hook.key⟩⟩ else ⟨404, []⟩, l)
  | "DELETE", some [id], some hook =>
    if hook.id = id then (⟨200, []⟩, { l with url := none }) else (⟨404, []⟩, l)
  | "PUT", some [], _ =>
    match address? q with
    | some url => (described ((⟨!l.turn, none⟩ : Ledger).hook url), ⟨!l.turn, some url⟩)
    | none => (⟨400, []⟩, l)
  | _, _, _ => (⟨404, []⟩, l)

/-- The service below a directory. -/
def keeper (directory : List String) : HookKeeper Ledger := ⟨active, answer directory⟩

theorem place?_of_isFor
    {directory place : List String} {method : String} {q : WalletRequest}
    (h : q.IsFor directory method place) :
    place? directory q = some place := by
  rw [place?, h.path]
  dsimp only
  rw [List.take_left, if_pos rfl, List.drop_left]

/-- Data without doubles are understood when they are sent. -/
theorem brings_write
    (format : WireFormat) {data : format.Data}
    (h : Json.Restored JsonText.depthLimit format.read? (format.toJson data) data)
    (hdoubles : (format.toJson data).doubles = []) :
    (⟨200, format.write data⟩ : WalletResponse).Brings format.read? data := by
  refine ⟨rfl, (format.read?_write h fun d hd => ?_).1⟩
  rw [hdoubles] at hd
  cases hd

theorem describes_described (hook : KeptHook) :
    (described hook).Describes hook :=
  ⟨_, brings_write .hook (Hook.restored _) rfl, rfl, rfl⟩

theorem id_plain (l : Ledger) (url : String) :
    IsPlainText (l.hook url).id.toList := by
  have hnames : IsPlainText "hook-1".toList ∧ IsPlainText "hook-2".toList := by
    decide
  unfold Ledger.hook
  split
  · exact hnames.1
  · exact hnames.2

theorem length_id (l : Ledger) (url : String) :
    (l.hook url).id.length = 6 := by
  have hnames : "hook-1".length = 6 ∧ "hook-2".length = 6 := by
    decide
  unfold Ledger.hook
  split
  · exact hnames.1
  · exact hnames.2

theorem keeper_lawful (directory : List String) :
    (keeper directory).Lawful directory where
  id_plain l hook hactive := by
    obtain ⟨url, -, rfl⟩ := Option.map_eq_some_iff.mp hactive
    exact l.id_plain url
  get_active q l h := by
    have hactive : (keeper directory).active l = l.active := rfl
    simp only [keeper, answer, h.method, place?_of_isFor h]
    cases hfound : l.active with
    | none => exact ⟨hfound, rfl⟩
    | some hook => exact ⟨hfound, describes_described hook⟩
  get_key q l hook hactive h := by
    have hfound : l.active = some hook := hactive
    simp only [keeper, answer, h.method, place?_of_isFor h, hfound, if_true]
    exact ⟨trivial, brings_write .hookKey (HookKey.restored _) rfl⟩
  delete q l hook hactive h := by
    have hfound : l.active = some hook := hactive
    simp only [keeper, answer, h.method, place?_of_isFor h, hfound, if_true]
    exact ⟨rfl, by decide⟩
  put q l url hactive h hfield := by
    obtain ⟨query, fields, hquery, hread, hparam⟩ := hfield
    have haddress : address? q = some url := by
      simp [address?, hquery, hread, hparam]
    simp only [keeper, answer, h.method, place?_of_isFor h, haddress]
    exact ⟨_, rfl, by unfold Ledger.hook; split <;> rfl, describes_described _⟩

end Ledger

theorem domain_localhost :
    Host.domain "localhost".toList = .ok (.name "localhost") := by
  have hnormal : Domain.normal? "localhost".toList = some "localhost".toList := by
    decide +kernel
  have hallowed : "localhost".toList.any Domain.isForbidden = false := by
    simp [Domain.isForbidden, String.contains_char_eq]
  have hlabels : (splitAll '.' "localhost".toList).mapM Domain.meaning? =
      some ["localhost".toList] := by
    decide +kernel
  have horder : ["localhost".toList].all Domain.isLabel = true ∧
      Domain.inOrder ["localhost".toList] = true := by
    decide +kernel
  have hencoded : ["localhost".toList].mapM Domain.encoded? = some ["localhost".toList] := by
    decide +kernel
  have hascii : Domain.ofChars? "localhost".toList = some "localhost" := by
    rw [Domain.ofChars?, hnormal, Option.bind_eq_bind, Option.bind_some, hallowed, hlabels]
    simp only [Bool.false_eq_true, if_false, Option.bind_eq_bind, Option.bind_some, horder,
      hencoded]
    decide +kernel
  have hbytes : Percent.decode "localhost".toList = Utf8.encode "localhost" := by
    decide +kernel
  have hname : Host.endsInNumber "localhost".toList = false := by
    decide +kernel
  have htext : (Utf8.decode? (Percent.decode "localhost".toList)).bind
      (fun text => Domain.ofChars? text.toList) = some "localhost" := by
    rw [hbytes, Utf8.decode?_encode]
    exact hascii
  unfold Host.domain
  split
  · next h => simp at h
  · rw [htext]
    dsimp only
    rw [hname]
    rfl

namespace Wallet

/-- A wallet of a local service at a path. -/
def onLocalhost (path : List Char) : Wallet where
  token := "token"
  phone := none
  billSecret := none
  baseUrl := String.ofList ("http://".toList ++ ("localhost".toList ++ '/' :: path))

/-- The URL of the local service at a path. -/
def localhostUrl (path : List Char) : Url where
  scheme := "http"
  authority := some ⟨"", "", .name "localhost", none⟩
  path := .segments ((splitAll '/' path).map String.ofList)
  query := none
  fragment := none

theorem onLocalhost_isReady {path : List Char} (hpath : IsEndpoint path) :
    (onLocalhost path).IsReady (localhostUrl path) where
  read := Url.read_of_plain (by decide) (by decide) domain_localhost hpath
  askable := by
    refine ⟨.inl rfl, ?_⟩
    change ("localhost".toList.any fun c => "\"`\x7b\x7d".contains c) = false
    simp [String.contains_char_eq]
  token := by
    change Http.isHeaderValue "token" = true
    decide

theorem length_segmentsText (segments : List String) :
    (Url.segmentsText segments).length = (segments.map fun segment => segment.length + 1).sum := by
  rw [Url.segmentsText, String.length_join, List.map_map]
  refine congrArg List.sum (List.map_congr_left fun segment _ => ?_)
  rw [Function.comp_apply, String.length_append, Nat.add_comm]
  rfl

/-- The length of a URL at the local service. -/
theorem length_text_localhost (segments : List String) (query : Option String) :
    (Url.text ⟨"http", some ⟨"", "", .name "localhost", none⟩, .segments segments, query,
      none⟩).length =
        16 + (segments.map fun segment => segment.length + 1).sum +
          query.elim 0 fun text => text.length + 1 := by
  have hauthority : (Url.authorityText ⟨"", "", .name "localhost", none⟩).length = 11 := by
    decide
  have hscheme : "http".length = 4 ∧ ":".length = 1 ∧ "".length = 0 := by
    decide
  have hquery : (query.elim "" ("?" ++ ·)).length = query.elim 0 fun text => text.length + 1 := by
    cases query with
    | none => rfl
    | some text =>
        rw [Option.elim_some, Option.elim_some, String.length_append, Nat.add_comm]
        rfl
  simp only [Url.text, Url.beforePath, Url.pathText, String.length_append, Option.elim_none,
    hauthority, hscheme, hquery, length_segmentsText, Nat.add_zero]

/-- The length of the URL of a request to the local service. -/
theorem length_requestFor
    (w : Wallet) (path : List Char) (method : String) (segments : List String)
    (fields : List (String × String)) :
    (w.requestFor (localhostUrl path) method segments fields).url.text.length =
      16 + (((localhostUrl path).directory ++ segments).map fun segment => segment.length + 1).sum +
        if fields = [] then 0 else (Form.append [] fields).length + 1 := by
  cases fields with
  | nil =>
      rw [if_pos rfl]
      exact length_text_localhost _ none
  | cons field rest =>
      rw [if_neg (List.cons_ne_nil _ _), ← String.length_ofList]
      exact length_text_localhost _ (some _)

/-- The length of the form in which an address is registered. -/
theorem length_registration (url : Url) :
    let form := Form.append [] [("hookType", "1"), ("param", url.text), ("txnType", "2")]
    url.text.length ≤ form.length ∧ form.length ≤ 12 * url.text.length + 500 := by
  intro form
  have haddress := Form.length_encode url.text
  have hothers : ∀ text ∈ ["hookType", "1", "param", "txnType", "2"],
      (Form.encode text).length ≤ 12 * 8 := by
    intro text htext
    have hlength : text.length ≤ 8 := by
      revert htext text
      decide
    have hencode := (Form.length_encode text).2
    omega
  have hparts : form.length = (Form.encode "hookType").length + (Form.encode "1").length +
      (Form.encode "param").length + (Form.encode url.text).length +
      (Form.encode "txnType").length + (Form.encode "2").length + 5 := by
    simp [form, Form.append, Form.encodeField]
    omega
  have hnames := List.forall_mem_cons.mp hothers
  simp only [List.forall_mem_cons, List.not_mem_nil, false_implies, implies_true] at hnames
  omega

/-- A request to the root of the local service is sent if its query is not too long. -/
theorem reaches_localhost
    {endpoint : String} {fields : List (String × String)} {place : List String}
    (hplace : IsPlace endpoint place)
    (hlength : (place.map fun segment => segment.length + 1).sum + (Form.append [] fields).length ≤
      65000) :
    (onLocalhost []).Reaches endpoint fields := by
  intro url hurl
  have hready : (onLocalhost []).IsReady (localhostUrl []) := onLocalhost_isReady nofun
  have hrequest : ((onLocalhost []).requestFor (localhostUrl []) "GET" (hookPath ++ place)
      fields).url = url :=
    Except.ok.inj ((requestUrl_of_endpoint hready hplace.isEndpointOf).symm.trans hurl)
  have hpath : (((localhostUrl []).directory ++ hookPath).map fun segment =>
      segment.length + 1).sum = 26 := by
    decide
  rw [← hrequest, length_requestFor, ← List.append_assoc, List.map_append, List.sum_append, hpath,
    Url.longestRequested]
  split <;> omega

section Letters

variable (n : Nat)

theorem plain_letters :
    IsPlainText (List.replicate n 'a') := by
  intro c hc
  rw [List.eq_of_mem_replicate hc]
  exact .inl (by decide)

theorem slash_not_mem_letters :
    '/' ∉ List.replicate n 'a' := by
  intro hmem
  cases List.eq_of_mem_replicate hmem

theorem length_text_letters :
    (localhostUrl (List.replicate n 'a')).text.length = n + 17 := by
  refine (length_text_localhost _ none).trans ?_
  rw [splitAll_of_not_mem (slash_not_mem_letters n)]
  simp only [List.map_cons, List.map_nil, List.sum_cons, List.sum_nil, String.length_ofList,
    List.length_replicate, Option.elim_none]
  omega

theorem segments_below_letters :
    (splitAll '/' (List.replicate n 'a' ++ ['/'])).map String.ofList =
      [String.ofList (List.replicate n 'a'), ""] := by
  rw [splitAll_append (slash_not_mem_letters n)]
  rfl

theorem directory_below_letters :
    (localhostUrl (List.replicate n 'a' ++ ['/'])).directory =
      [String.ofList (List.replicate n 'a')] := by
  rw [Url.directory, localhostUrl]
  dsimp only
  rw [segments_below_letters]
  rfl

theorem endpoint_below_letters :
    IsEndpoint (List.replicate n 'a' ++ ['/']) := by
  intro c hc
  rcases List.mem_append.mp hc with hc | hc
  · exact .inl (plain_letters n c hc)
  · exact .inr (List.mem_singleton.mp hc)

end Letters

end Wallet

end WalletEvents
