import WalletEvents.Text.Split

/-!
# Routes

The path of a route is written as a text with parameters in braces. A parameter stands for what is left of a
segment of a path, and one whose name begins with an asterisk, at the end of a route, for all that is left. A
brace of the text itself is written twice.

**Preference.** Where two routes fit the same path, the one that has a character where the other one has a
parameter is preferred. Routes without such a difference would not make a difference between paths, and
`RoutePath.clashes` tells of them.
-/

namespace WalletEvents

/-- A character in the written form of a route; the braces of a parameter are not plain. -/
inductive RouteSign where
  | plain (c : Char)
  | opening
  | closing
  deriving DecidableEq

/-- What a route asks for next in a path. -/
inductive RouteStep where
  | literal (c : Char)
  | parameter
  | remainder
  deriving DecidableEq

/-- The path of a route. -/
abbrev RoutePath := List RouteStep

namespace RouteSign

/-- The signs of a text, in which a brace that is written twice is plain. -/
def ofText : List Char → List RouteSign
  | [] => []
  | '\x7b' :: '\x7b' :: rest => .plain '\x7b' :: ofText rest
  | '\x7d' :: '\x7d' :: rest => .plain '\x7d' :: ofText rest
  | c :: rest =>
    (if c = '\x7b' then .opening else if c = '\x7d' then .closing else .plain c) :: ofText rest

/-- Whether the name of a parameter may begin with the sign. -/
def beginsName : RouteSign → Bool
  | .plain c => c != '\x7d'
  | .opening => true
  | .closing => false

/-- What follows the name of a parameter behind its first sign. -/
def behindName? : List RouteSign → Option (List RouteSign)
  | [] => none
  | .closing :: rest => some rest
  | .plain c :: rest => if c = '*' ∨ c = '/' then none else behindName? rest
  | .opening :: rest => behindName? rest

theorem length_behindName? {signs rest : List RouteSign} (h : behindName? signs = some rest) :
    rest.length < signs.length := by
  fun_induction behindName? signs <;> grind

end RouteSign

namespace RoutePath

/-- The path of a route in signs. A parameter ends its segment, and the one for all that is left ends the
route. -/
def ofSigns? : List RouteSign → Option RoutePath
  | [] => some []
  | .plain c :: rest => (ofSigns? rest).map (.literal c :: ·)
  | .closing :: _ => none
  | .opening :: [] => none
  | .opening :: first :: name =>
    if first = .plain '*' ∧ name.head? = some .closing then none
    else if !first.beginsName then none
    else
      match h : RouteSign.behindName? name with
      | none => none
      | some [] => some [if first = .plain '*' then .remainder else .parameter]
      | some (.plain '/' :: rest) =>
        have : rest.length + 1 < name.length := RouteSign.length_behindName? h
        if first = .plain '*' then none
        else (ofSigns? rest).map fun route => .parameter :: .literal '/' :: route
      | some _ => none
termination_by signs => signs.length
decreasing_by all_goals grind

/-- The greatest number of parameters of a route. -/
def mostParameters : Nat := 25

/-- The path of a route; it begins with a slash, and no segment begins with a colon or an asterisk. -/
def read? (text : String) : Option RoutePath := do
  let segments := splitAll '/' text.toList
  if segments.length < 2 ∨ segments.head? ≠ some [] then none
  if segments.any fun segment => segment.head? == some ':' || segment.head? == some '*' then none
  let route ← ofSigns? (RouteSign.ofText text.toList)
  if mostParameters < route.count .parameter then none else some route

/-- Whether a route fits a path. A parameter may stand for no characters, but not at the end of the path. -/
def fits : RoutePath → List Char → Bool
  | [], path => path.isEmpty
  | .literal c :: route, path => path.head? == some c && fits route path.tail
  | .parameter :: route, path => !path.isEmpty && fits route (path.dropWhile (· != '/'))
  | .remainder :: _, path => !path.isEmpty

/-- Whether a route is preferred to another one where both fit. -/
def precedes : RoutePath → RoutePath → Bool
  | a :: route, b :: other =>
    if a = b then precedes route other
    else
      match a with
      | .literal _ => true
      | _ => false
  | _, _ => false

/-- Whether two routes are the same, or first differ in the kind of a parameter. -/
def clashes : RoutePath → RoutePath → Bool
  | [], [] => true
  | a :: route, b :: other =>
    if a = b then clashes route other
    else
      match a, b with
      | .literal _, _ => false
      | _, .literal _ => false
      | _, _ => true
  | _, _ => false

variable {β : Type}

/-- The preferred one of two routes that lead somewhere. -/
def preferred (best : Option (RoutePath × β)) (route : RoutePath × β) : Option (RoutePath × β) :=
  match best with
  | none => some route
  | some other => if precedes route.1 other.1 then some route else best

/-- Where the preferred one of the routes that fit a path leads. -/
def lead? (routes : List (RoutePath × β)) (path : List Char) : Option β :=
  ((routes.filter fun route => route.1.fits path).foldl preferred none).map Prod.snd

/-- The routes with these paths, if the paths make sense and can be told from one another. -/
def readAll? (paths : List (String × β)) : Option (List (RoutePath × β)) := do
  let routes ← paths.mapM fun (path, aim) => (read? path).map (·, aim)
  if (routes.map Prod.fst).Pairwise fun route other => !route.clashes other then some routes else none

end RoutePath

end WalletEvents
