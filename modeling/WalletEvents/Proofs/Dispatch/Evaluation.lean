import Mathlib.Data.List.Nodup
import WalletEvents.Dispatch.Filter
import WalletEvents.Proofs.Activity.Steps

/-!
# The order in which filters are evaluated

A filter is evaluated for an event by asking its leaves. The answer to a leaf depends on
the event alone, but asking may do something on the way, so it matters which leaves are
asked, and in which order.

**Places.** The same condition may stand at several leaves of a tree. Each of them has a
place of its own, which is the way to it from the root.

**Results.**

* `Filter.check_eq`: a filter has its Boolean value, and it asks the leaves of
  `Filter.asked` one after the other and does nothing else.
* `Filter.isJournal_asked`: these are all leaves from left to right but those in a right
  branch that the left one has decided already, and each of them once.
* `Filter.Recast.check_eq`: a filter may be written in another way, by the laws of
  De Morgan, without a double negation and with other brackets, and asks the same leaves
  in the same order.
* `Filter.checkAll_cons`: all filters of a list are evaluated like their conjunction.
-/

namespace WalletEvents

namespace Filter

variable {α β : Type} {value : α → Bool}

/-- The Boolean value of a tree. -/
def eval (value : α → Bool) : Filter α → Bool
  | .leaf a => value a
  | .and left right => left.eval value && right.eval value
  | .or left right => left.eval value || right.eval value
  | .not inner => !inner.eval value

/-- The leaves from left to right. -/
def leaves : Filter α → List α
  | .leaf a => [a]
  | .and left right => left.leaves ++ right.leaves
  | .or left right => left.leaves ++ right.leaves
  | .not inner => inner.leaves

/-- The leaves that are asked, in their order. -/
def asked (value : α → Bool) : Filter α → List α
  | .leaf a => [a]
  | .and left right => left.asked value ++ if left.eval value then right.asked value else []
  | .or left right => left.asked value ++ if left.eval value then [] else right.asked value
  | .not inner => inner.asked value

/-- The same tree with other leaves. -/
def map (f : α → β) : Filter α → Filter β
  | .leaf a => .leaf (f a)
  | .and left right => .and (left.map f) (right.map f)
  | .or left right => .or (left.map f) (right.map f)
  | .not inner => .not (inner.map f)

theorem map_map {γ : Type} (f : α → β) (g : β → γ) (tree : Filter α) :
    (tree.map f).map g = tree.map (g ∘ f) := by
  induction tree with
  | leaf a => rfl
  | and left right ihl ihr => simp only [map, ihl, ihr]
  | or left right ihl ihr => simp only [map, ihl, ihr]
  | not inner ih => simp only [map, ih]

@[simp] theorem eval_map (f : α → β) (value : β → Bool) (tree : Filter α) :
    (tree.map f).eval value = tree.eval (value ∘ f) := by
  induction tree with
  | leaf a => rfl
  | and left right ihl ihr => simp only [map, eval, ihl, ihr]
  | or left right ihl ihr => simp only [map, eval, ihl, ihr]
  | not inner ih => simp only [map, eval, ih]

@[simp] theorem leaves_map (f : α → β) (tree : Filter α) :
    (tree.map f).leaves = tree.leaves.map f := by
  induction tree with
  | leaf a => rfl
  | and left right ihl ihr => simp only [map, leaves, ihl, ihr, List.map_append]
  | or left right ihl ihr => simp only [map, leaves, ihl, ihr, List.map_append]
  | not inner ih => exact ih

@[simp] theorem asked_map (f : α → β) (value : β → Bool) (tree : Filter α) :
    (tree.map f).asked value = (tree.asked (value ∘ f)).map f := by
  induction tree with
  | leaf a => rfl
  | and left right ihl ihr =>
      simp only [map, asked, ihl, ihr, eval_map, List.map_append]
      split <;> rfl
  | or left right ihl ihr =>
      simp only [map, asked, ihl, ihr, eval_map, List.map_append]
      split <;> rfl
  | not inner ih => exact ih

theorem asked_sublist_leaves (value : α → Bool) (tree : Filter α) :
    (tree.asked value).Sublist tree.leaves := by
  induction tree with
  | leaf a => exact .refl [a]
  | and left right ihl ihr =>
      refine ihl.append ?_
      split
      · exact ihr
      · exact List.nil_sublist _
  | or left right ihl ihr =>
      refine ihl.append ?_
      split
      · exact List.nil_sublist _
      · exact ihr
  | not inner ih => exact ih

/-- The branches of a tree. -/
inductive Branch where
  | left
  | right
  | inner
  deriving DecidableEq

/-- The way from the root of a tree to one of its parts. -/
abbrev Place := List Branch

def branch? : Filter α → Branch → Option (Filter α)
  | .and left _, .left => some left
  | .and _ right, .right => some right
  | .or left _, .left => some left
  | .or _ right, .right => some right
  | .not inner, .inner => some inner
  | _, _ => none

/-- The part of a tree at a place. -/
def at? : Filter α → Place → Option (Filter α)
  | tree, [] => some tree
  | tree, branch :: place => (tree.branch? branch).bind fun part => part.at? place

/-- The left branch of the tree decides its value. -/
def DecidedByLeft (value : α → Bool) : Filter α → Prop
  | .and left _ => left.eval value = false
  | .or left _ => left.eval value = true
  | _ => False

/-- The place is inside the right branch of a part whose left branch decides its value. -/
def Skipped (value : α → Bool) (tree : Filter α) (place : Place) : Prop :=
  ∃ before after part, place = before ++ .right :: after ∧ tree.at? before = some part ∧
    part.DecidedByLeft value

/-- The leaf of a branch, with its place in the whole tree. -/
def under (branch : Branch) (leaf : Place × α) : Place × α := (branch :: leaf.1, leaf.2)

/-- The same tree, where each leaf knows its place. -/
def placed : Filter α → Filter (Place × α)
  | .leaf a => .leaf ([], a)
  | .and left right => .and (left.placed.map (under .left)) (right.placed.map (under .right))
  | .or left right => .or (left.placed.map (under .left)) (right.placed.map (under .right))
  | .not inner => .not (inner.placed.map (under .inner))

/-- In the journal are all leaves of the tree from left to right but those that are skipped, and each of
them once. -/
structure IsJournal (value : α → Bool) (tree : Filter α) (journal : List (Place × α)) : Prop where
  once : (journal.map Prod.fst).Nodup
  in_order : journal.Sublist tree.placed.leaves
  mem_iff : ∀ place a, (place, a) ∈ journal ↔
    tree.at? place = some (.leaf a) ∧ ¬ tree.Skipped value place

theorem not_skipped_nil (value : α → Bool) (tree : Filter α) :
    ¬ tree.Skipped value [] := by
  rintro ⟨before, after, part, hplace, -⟩
  simp at hplace

theorem skipped_cons {tree : Filter α} {branch : Branch} {place : Place} :
    tree.Skipped value (branch :: place) ↔
      (branch = .right ∧ tree.DecidedByLeft value) ∨
      ∃ part, tree.branch? branch = some part ∧ part.Skipped value place := by
  constructor
  · rintro ⟨before, after, part, hplace, hpart, hdecided⟩
    cases before with
    | nil =>
        obtain ⟨rfl, rfl⟩ : branch = .right ∧ place = after := by simpa using hplace
        obtain rfl : tree = part := by simpa [at?] using hpart
        exact .inl ⟨rfl, hdecided⟩
    | cons first before =>
        obtain ⟨rfl, rfl⟩ : branch = first ∧ place = before ++ .right :: after := by
          simpa using hplace
        obtain ⟨inside, hinside, hpart⟩ := Option.bind_eq_some_iff.mp hpart
        exact .inr ⟨inside, hinside, before, after, part, rfl, hpart, hdecided⟩
  · rintro (⟨rfl, hdecided⟩ | ⟨inside, hinside, before, after, part, rfl, hpart, hdecided⟩)
    · exact ⟨[], place, tree, rfl, rfl, hdecided⟩
    · refine ⟨branch :: before, after, part, rfl, ?_, hdecided⟩
      rw [at?, hinside, Option.bind_some, hpart]

/-- The leaves of a branch that are not skipped, seen from the whole tree. -/
theorem mem_map_under {journal : List (Place × α)} {branch : Branch} {place : Place} {a : α} :
    (place, a) ∈ journal.map (under branch) ↔
      ∃ inside, place = branch :: inside ∧ (inside, a) ∈ journal := by
  constructor
  · intro h
    obtain ⟨⟨inside, b⟩, hmem, hunder⟩ := List.mem_map.mp h
    obtain ⟨rfl, rfl⟩ : branch :: inside = place ∧ b = a := by simpa [under] using hunder
    exact ⟨inside, rfl, hmem⟩
  · rintro ⟨inside, rfl, hmem⟩
    exact List.mem_map.mpr ⟨(inside, a), hmem, rfl⟩

theorem eval_placed (value : α → Bool) (tree : Filter α) :
    tree.placed.eval (value ∘ Prod.snd) = tree.eval value := by
  have hunder : ∀ branch, (value ∘ Prod.snd) ∘ under branch = value ∘ Prod.snd := fun _ => rfl
  induction tree with
  | leaf a => rfl
  | and left right ihl ihr => simp only [placed, eval, eval_map, hunder, ihl, ihr]
  | or left right ihl ihr => simp only [placed, eval, eval_map, hunder, ihl, ihr]
  | not inner ih => simp only [placed, eval, eval_map, hunder, ih]

theorem map_snd_placed (tree : Filter α) :
    tree.placed.map Prod.snd = tree := by
  have hunder : ∀ branch : Branch, Prod.snd ∘ under branch = (Prod.snd : Place × α → α) :=
    fun _ => rfl
  induction tree with
  | leaf a => rfl
  | and left right ihl ihr => simp only [placed, map, map_map, hunder, ihl, ihr]
  | or left right ihl ihr => simp only [placed, map, map_map, hunder, ihl, ihr]
  | not inner ih => simp only [placed, map, map_map, hunder, ih]

theorem mem_asked_placed (value : α → Bool) (tree : Filter α) (place : Place) (a : α) :
    (place, a) ∈ tree.placed.asked (value ∘ Prod.snd) ↔
      tree.at? place = some (.leaf a) ∧ ¬ tree.Skipped value place := by
  have hunder : ∀ branch, (value ∘ Prod.snd) ∘ under branch = value ∘ Prod.snd := fun _ => rfl
  induction tree generalizing place with
  | leaf b =>
      cases place with
      | nil => simp [placed, asked, at?, not_skipped_nil, eq_comm]
      | cons branch place => simp [placed, asked, at?, branch?]
  | and left right ihl ihr =>
      simp only [placed, asked, asked_map, eval_map, hunder, eval_placed, List.mem_append,
        List.mem_ite_nil_right, mem_map_under, ihl, ihr]
      cases place with
      | nil => simp [at?]
      | cons branch place =>
          cases branch <;> simp [at?, branch?, skipped_cons, DecidedByLeft, and_left_comm]
  | or left right ihl ihr =>
      simp only [placed, asked, asked_map, eval_map, hunder, eval_placed, List.mem_append,
        List.mem_ite_nil_left, mem_map_under, ihl, ihr]
      cases place with
      | nil => simp [at?]
      | cons branch place =>
          cases branch <;> simp [at?, branch?, skipped_cons, DecidedByLeft, and_left_comm]
  | not inner ih =>
      simp only [placed, asked, asked_map, hunder, mem_map_under, ih]
      cases place with
      | nil => simp [at?]
      | cons branch place =>
          cases branch <;> simp [at?, branch?, skipped_cons, DecidedByLeft]

theorem nodup_places (tree : Filter α) :
    (tree.placed.leaves.map Prod.fst).Nodup := by
  have hunder : ∀ (branch : Branch) (inner : Filter α), (inner.placed.leaves.map Prod.fst).Nodup →
      ((inner.placed.leaves.map (under branch)).map Prod.fst).Nodup := by
    intro branch inner h
    have hplaces : (inner.placed.leaves.map (under branch)).map Prod.fst =
        (inner.placed.leaves.map Prod.fst).map (branch :: ·) := by
      simp [under, Function.comp_def]
    rw [hplaces]
    exact h.map (List.cons_injective)
  have hdisjoint : ∀ left right : Filter α, List.Disjoint
      ((left.placed.leaves.map (under .left)).map Prod.fst)
      ((right.placed.leaves.map (under .right)).map Prod.fst) := by
    intro left right place hleft hright
    simp only [List.map_map, List.mem_map, Function.comp_apply, under] at hleft hright
    obtain ⟨_, -, rfl⟩ := hleft
    obtain ⟨_, -, hplace⟩ := hright
    simp at hplace
  induction tree with
  | leaf a => simp [placed, leaves]
  | and left right ihl ihr =>
      rw [placed, leaves, leaves_map, leaves_map, List.map_append]
      exact (hunder .left left ihl).append (hunder .right right ihr) (hdisjoint left right)
  | or left right ihl ihr =>
      rw [placed, leaves, leaves_map, leaves_map, List.map_append]
      exact (hunder .left left ihl).append (hunder .right right ihr) (hdisjoint left right)
  | not inner ih =>
      rw [placed, leaves, leaves_map]
      exact hunder .inner inner ih

theorem isJournal_asked (value : α → Bool) (tree : Filter α) :
    tree.IsJournal value (tree.placed.asked (value ∘ Prod.snd)) where
  once := tree.nodup_places.sublist ((asked_sublist_leaves _ _).map Prod.fst)
  in_order := asked_sublist_leaves _ _
  mem_iff := mem_asked_placed value tree

section Evaluation

variable {m : Type → Type} [Monad m]

/-- The computation has this answer, whatever else it does. -/
def Answers (p : m Bool) (answer : Bool) : Prop := (do let _ ← p; pure answer) = p

/-- Asks a leaf, and puts it down before. -/
def noting (ask : α → m Bool) (a : α) : StateT (List α) m Bool := do
  modify fun journal => journal ++ [a]
  StateT.lift (ask a)

/-- Asks leaves one after the other. -/
def askEach (ask : α → m Bool) (leaves : List α) : m Unit :=
  leaves.forM fun a => do let _ ← ask a

theorem check_map (f : β → α) (ask : α → m Bool) (tree : Filter β) :
    (tree.map f).check ask = tree.check (ask ∘ f) := by
  induction tree with
  | leaf a => rfl
  | and left right ihl ihr => simp only [map, check, ihl, ihr]
  | or left right ihl ihr => simp only [map, check, ihl, ihr]
  | not inner ih => simp only [map, check, ih]

theorem check_placed (tree : Filter α) (ask : α → m Bool) :
    tree.check ask = tree.placed.check (ask ∘ Prod.snd) := by
  rw [← check_map, map_snd_placed]

variable [LawfulMonad m] {ask : α → m Bool}

theorem askEach_cons (ask : α → m Bool) (a : α) (rest : List α) :
    askEach ask (a :: rest) = (do let _ ← ask a; askEach ask rest) := by
  simp [askEach]

theorem askEach_append (ask : α → m Bool) (first rest : List α) :
    askEach ask (first ++ rest) = (do askEach ask first; askEach ask rest) :=
  List.forM_append

/-- **A filter asks its leaves** one after the other, and then it has its Boolean value. -/
theorem check_eq (hvalue : ∀ a, Answers (ask a) (value a)) (tree : Filter α) :
    tree.check ask = (do
      askEach ask (tree.asked value)
      pure (tree.eval value)) := by
  induction tree with
  | leaf a => simpa [check, asked, eval, askEach, Answers, eq_comm] using hvalue a
  | and left right ihl ihr =>
      rw [check, ihl, bind_assoc, asked, askEach_append, bind_assoc]
      simp only [pure_bind, eval]
      cases left.eval value with
      | false => simp [askEach]
      | true => simp [ihr]
  | or left right ihl ihr =>
      rw [check, ihl, bind_assoc, asked, askEach_append, bind_assoc]
      simp only [pure_bind, eval]
      cases left.eval value with
      | false => simp [ihr]
      | true => simp [askEach]
  | not inner ih => rw [check, ih, bind_assoc, pure_bind, asked, eval]

theorem run_noting (ask : α → m Bool) (a : α) (before : List α) :
    (noting ask a).run before = (do
      let answer ← ask a
      pure (answer, before ++ [a])) := by
  have hlift : ∀ (p : m Bool) (journal : List α),
      (StateT.lift p : StateT (List α) m Bool).run journal = p >>= fun b => pure (b, journal) :=
    fun _ _ => rfl
  simp only [noting, StateT.run_bind, StateT.run_modify, pure_bind, hlift]

theorem answers_noting {a : α} {answer : Bool} (h : Answers (ask a) answer) :
    Answers (noting ask a) answer := by
  refine StateT.ext fun before => ?_
  rw [StateT.run_bind, run_noting, ← h]
  simp

theorem run_askEach_noting (ask : α → m Bool) (leaves before : List α) :
    (askEach (noting ask) leaves).run before = (do
      askEach ask leaves
      pure ((), before ++ leaves)) := by
  induction leaves generalizing before with
  | nil => simp [askEach]
  | cons a rest ih =>
      rw [askEach_cons, askEach_cons, StateT.run_bind, run_noting]
      simp [ih]

/-- A filter that knows the places of its leaves has the value of the filter itself, and puts down the
leaves that it asks. -/
theorem run_check_placed
    (hvalue : ∀ a, Answers (ask a) (value a)) (tree : Filter α) (before : List (Place × α)) :
    (tree.placed.check (noting (ask ∘ Prod.snd))).run before = (do
      let answer ← tree.check ask
      pure (answer, before ++ tree.placed.asked (value ∘ Prod.snd))) := by
  have hplaced : ∀ leaf : Place × α, Answers ((ask ∘ Prod.snd) leaf) ((value ∘ Prod.snd) leaf) :=
    fun leaf => hvalue leaf.2
  rw [tree.check_placed, check_eq hplaced, check_eq fun leaf => answers_noting (hplaced leaf), StateT.run_bind,
    run_askEach_noting]
  simp

/-- One filter is written in place of the other one, by the laws of De Morgan, without a double negation
or with other brackets. -/
inductive Recast : Filter α → Filter α → Prop
  | not_and (left right : Filter α) : Recast (.not (.and left right)) (.or (.not left) (.not right))
  | not_or (left right : Filter α) : Recast (.not (.or left right)) (.and (.not left) (.not right))
  | not_not (inner : Filter α) : Recast (.not (.not inner)) inner
  | and_assoc (a b c : Filter α) : Recast (.and (.and a b) c) (.and a (.and b c))
  | or_assoc (a b c : Filter α) : Recast (.or (.or a b) c) (.or a (.or b c))
  | refl (tree : Filter α) : Recast tree tree
  | symm {tree tree' : Filter α} (h : Recast tree tree') : Recast tree' tree
  | trans {tree tree' tree'' : Filter α} (h : Recast tree tree') (h' : Recast tree' tree'') :
      Recast tree tree''
  | and {left left' right right' : Filter α} (hleft : Recast left left')
      (hright : Recast right right') : Recast (.and left right) (.and left' right')
  | or {left left' right right' : Filter α} (hleft : Recast left left')
      (hright : Recast right right') : Recast (.or left right) (.or left' right')
  | not {inner inner' : Filter α} (h : Recast inner inner') : Recast (.not inner) (.not inner')

/-- However a filter is written, it does the same and has the same answer. -/
theorem Recast.check_eq {tree tree' : Filter α} (h : Recast tree tree') (ask : α → m Bool) :
    tree.check ask = tree'.check ask := by
  induction h with
  | not_and left right =>
      simp only [check, bind_assoc]
      refine bind_congr fun answer => ?_
      cases answer <;> simp
  | not_or left right =>
      simp only [check, bind_assoc]
      refine bind_congr fun answer => ?_
      cases answer <;> simp
  | not_not inner => simp [check]
  | and_assoc a b c =>
      simp only [check, bind_assoc]
      refine bind_congr fun answer => ?_
      cases answer <;> simp
  | or_assoc a b c =>
      simp only [check, bind_assoc]
      refine bind_congr fun answer => ?_
      cases answer <;> simp
  | refl tree => rfl
  | symm _ ih => exact ih.symm
  | trans _ _ ih ih' => exact ih.trans ih'
  | and _ _ ihl ihr => rw [check, check, ihl, ihr]
  | or _ _ ihl ihr => rw [check, check, ihl, ihr]
  | not _ ih => rw [check, check, ih]

/-- A list of filters is checked like their conjunction. -/
theorem checkAll_cons (ask : α → m Bool) (first : Filter α) (rest : List (Filter α)) :
    checkAll ask (first :: rest) = (rest.foldl .and first).check ask := by
  induction rest generalizing first with
  | nil =>
      calc checkAll ask [first]
        _ = first.check ask >>= pure := bind_congr fun answer => by cases answer <;> rfl
        _ = first.check ask := bind_pure _
  | cons second rest ih =>
      rw [List.foldl_cons, ← ih]
      simp only [checkAll, check, bind_assoc]
      refine bind_congr fun answer => ?_
      cases answer <;> simp

/-- How a filter is evaluated: the value that it has, and the leaves that are asked for it. -/
structure EvaluatedAs (tree : Filter α) (ask : α → m Bool) (value : α → Bool)
    (journal : List (Place × α)) : Prop where
  isJournal : tree.IsJournal value journal
  /-- The leaves in the journal are asked and nothing else is done. -/
  check_eq : tree.check ask = (do
    askEach (ask ∘ Prod.snd) journal
    pure (tree.eval value))
  /-- The leaves put themselves down when they are asked. -/
  noted : ∀ before, (tree.placed.check (noting (ask ∘ Prod.snd))).run before = (do
    askEach (ask ∘ Prod.snd) journal
    pure (tree.eval value, before ++ journal))
  /-- However the filter is written, it asks the same and has the same answer. -/
  recast : ∀ tree', Recast tree tree' → tree'.check (noting ask) = tree.check (noting ask)
  conjunction : ∀ rest, checkAll (noting ask) (tree :: rest) =
    (rest.foldl .and tree).check (noting ask)
  /-- Of no filters all hold, and nothing is asked. -/
  empty : ∀ before, (checkAll (noting ask) []).run before = pure (true, before)

theorem evaluatedAs_asked (hvalue : ∀ a, Answers (ask a) (value a)) (tree : Filter α) :
    tree.EvaluatedAs ask value (tree.placed.asked (value ∘ Prod.snd)) := by
  have hplaced : ∀ leaf : Place × α, Answers ((ask ∘ Prod.snd) leaf) ((value ∘ Prod.snd) leaf) :=
    fun leaf => hvalue leaf.2
  have hcheck : tree.check ask = (do
      askEach (ask ∘ Prod.snd) (tree.placed.asked (value ∘ Prod.snd))
      pure (tree.eval value)) := by
    rw [check_placed, check_eq hplaced, eval_placed]
  exact {
    isJournal := isJournal_asked value tree
    check_eq := hcheck
    noted := fun before => by
      rw [run_check_placed hvalue, hcheck]
      simp
    recast := fun tree' h => (h.check_eq _).symm
    conjunction := checkAll_cons (noting ask) tree
    empty := fun before => by simp [checkAll] }

/-- **Filters are evaluated in their order.** When the answers of the leaves depend on the event alone, a
filter has its Boolean value; of its leaves it asks once, from left to right, those that no left branch
has made superfluous. This does not hang on how the filter is written, and a list of filters is
checked like their conjunction. -/
theorem evaluated_in_order
    (tree : Filter α) (e : Event) (ask : α → Event → m Bool) (value : α → Event → Bool)
    (hvalue : ∀ a, Answers (ask a e) (value a e)) :
    tree.EvaluatedAs (ask · e) (value · e) (tree.placed.asked fun leaf => value leaf.2 e) :=
  evaluatedAs_asked hvalue tree

end Evaluation

/-- An activity has the answer if it cannot end with another one. -/
theorem answers_of_yields
    {σ : Type} {p : Activity σ Bool} {answer : Bool} (h : p.Yields (· = answer)) :
    Answers p answer := by
  induction p with
  | done a => exact congrArg Activity.done (Eq.symm h)
  | crash => rfl
  | act update next ih =>
      exact congrArg (Activity.act update) (funext fun t => funext fun s => ih t s (h t s))
  | sleep ms next ih => exact congrArg (Activity.sleep ms) (ih h)

/-- Asks whether a bill has this identifier, and counts how often it was asked. -/
def askSlowly (id : String) (e : Event) : Activity Nat Bool := do
  Activity.pause 5
  Activity.modify fun _ n => n + 1
  return e.billId == some id

/-- The bill is the eighth and the seventh, or it is not the seventh. -/
def contrary : Filter String := .or (.and (.leaf "8") (.leaf "7")) (.not (.leaf "7"))

/-- A notice that the seventh bill is paid. -/
def seventhPaid : Event :=
  .bill ⟨⟨"shop", "7", ⟨"1.00", "RUB"⟩, ⟨.paid, none⟩, none, none, none, none, none⟩, "1"⟩

theorem evaluated_in_order_of_contrary :
    (∀ id, Answers (askSlowly id seventhPaid) (seventhPaid.billId == some id)) ∧
    contrary.EvaluatedAs (askSlowly · seventhPaid) (fun id => seventhPaid.billId == some id)
      [([.left, .left], "8"), ([.right, .inner], "7")] := by
  have hvalue : ∀ id, Answers (askSlowly id seventhPaid) (seventhPaid.billId == some id) :=
    fun id => answers_of_yields fun _ _ => rfl
  exact ⟨hvalue,
    contrary.evaluated_in_order seventhPaid askSlowly (fun id e => e.billId == some id) hvalue⟩

end Filter

end WalletEvents
