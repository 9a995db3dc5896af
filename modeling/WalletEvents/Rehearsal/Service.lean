import WalletEvents.Rehearsal.Script
import WalletEvents.Service

/-!
# A scripted payment service

The service gives the pages of its script one after another; when they have all been given, it repeats
the last page that was no refusal.
-/

namespace WalletEvents.Rehearsal

/-- The answers of a service, its pages apart. -/
structure ServiceScript where
  hookKey : Option String
  billSecret : Option String
  closeError : Option String

/-- Takes the next page, and tells what kind of page it is. -/
def takePage (w : World) : (PageKind × Page) × World :=
  match w.world.pages with
  | [] => ((.repeated, ⟨.ok w.world.lastGood, 0⟩), w)
  | page :: rest =>
    let stage := { w.world with pages := rest }
    match page.content with
    | .ok transactions => ((.good, page), { w with world := { stage with lastGood := transactions } })
    | .error _ => ((.failing, page), { w with world := stage })

/-- Gives a page after its delay. -/
def givePage : Activity World (Except Failure (List Transaction)) := do
  let page ← .modifyGet fun t w =>
    let ((kind, page), w) := takePage w
    (page, w.write t (.history kind))
  if 0 < page.delay then Activity.pause page.delay
  return page.content.mapError fun text => .refused 500 text none

/-- The service as the library uses it. -/
def ServiceScript.service (script : ServiceScript) : PaymentService (Activity World) where
  history := fun _ => givePage
  hookKey := fun url => do
    note (.keyRequest url.text)
    return match script.hookKey with
      | some key => .ok key
      | none => .error (.configuration (.other s!"no key for {url.text}"))
  billSecret := script.billSecret
  close := do
    note .close
    return match script.closeError with
      | some text => .error (.configuration (.other text))
      | none => .ok ()

end WalletEvents.Rehearsal
