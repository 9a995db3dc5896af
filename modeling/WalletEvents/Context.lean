import WalletEvents.Text.Quoted

/-!
# The shared context

A context holds values under names, and every value has a type. Handlers and hooks share one
context: what one of them puts there, the others find.

**Types.** A store is open to values of any types. They are known by their names, and `V` gives the
values of each. The context of the handlers has the types of `ContextType`.

**Handles.** A store is used through handles. A clone of a handle is another handle of the same
store, and a new handle has a store of its own.
-/

namespace WalletEvents

/-- A value together with its type. -/
structure TypedValue {τ : Type} (V : τ → Type) where
  type : τ
  value : V type

/-- Values under names, each name once. -/
structure TypedStore {τ : Type} (V : τ → Type) where
  items : List (String × TypedValue V)

namespace TypedStore

variable {τ : Type} {V : τ → Type}

def empty : TypedStore V := ⟨[]⟩

/-- Whether there is a value under the name. -/
def contains (c : TypedStore V) (name : String) : Bool := (c.items.lookup name).isSome

/-- The store without the value under the name. -/
def erase (c : TypedStore V) (name : String) : TypedStore V :=
  ⟨c.items.filter fun item => item.1 != name⟩

/-- The store with the value under the name, in place of the one before. -/
def insert (c : TypedStore V) (name : String) (item : TypedValue V) : TypedStore V :=
  ⟨(name, item) :: (c.erase name).items⟩

/-- The value under the name, if it has exactly the type asked for. -/
def get? [DecidableEq τ] (c : TypedStore V) (type : τ) (name : String) : Option (V type) :=
  match c.items.lookup name with
  | some item => if h : item.type = type then some (h ▸ item.value) else none
  | none => none

/-- The names in order. -/
def names (c : TypedStore V) : List String :=
  (c.items.map Prod.fst).mergeSort fun a b => decide (a ≤ b)

/-- The store as it shows itself: its names without their values. -/
def shown (c : TypedStore V) : String := "HandlerContext \x7b keys: " ++ quotedList c.names ++ " \x7d"

end TypedStore

/-- Stores, and for every handle the number of its store. -/
structure StoreHandles {τ : Type} (V : τ → Type) where
  stores : List (TypedStore V)
  handles : List Nat

namespace StoreHandles

variable {τ : Type} {V : τ → Type}

/-- One handle of one empty store. -/
def single : StoreHandles V := ⟨[TypedStore.empty], [0]⟩

variable (h : StoreHandles V)

/-- The number of the store of a handle. -/
def storeOf (handle : Nat) : Nat := h.handles.getD handle 0

def store (handle : Nat) : TypedStore V := h.stores.getD (h.storeOf handle) TypedStore.empty

/-- Another handle of the same store, which is the last one then. -/
def clone (handle : Nat) : StoreHandles V := ⟨h.stores, h.handles ++ [h.storeOf handle]⟩

/-- A handle of a store of its own, which is the last one then. -/
def new : StoreHandles V := ⟨h.stores ++ [TypedStore.empty], h.handles ++ [h.stores.length]⟩

/-- Changes the store of a handle. -/
def change (handle : Nat) (f : TypedStore V → TypedStore V) : StoreHandles V :=
  ⟨h.stores.modify (h.storeOf handle) f, h.handles⟩

/-- Puts a value under a name, and tells whether there was one. -/
def insert (handle : Nat) (name : String) (item : TypedValue V) : Bool × StoreHandles V :=
  ((h.store handle).contains name, h.change handle (·.insert name item))

/-- Removes the value under a name, and tells whether there was one. -/
def remove (handle : Nat) (name : String) : Bool × StoreHandles V :=
  ((h.store handle).contains name, h.change handle (·.erase name))

end StoreHandles

/-- The types of the values in a context. -/
inductive ContextType where
  | text
  | integer
  | flag
  | client
  deriving DecidableEq

/-- The values of each type; of a client only its presence is known. -/
def ContextType.Value : ContextType → Type
  | .text => String
  | .integer => Int
  | .flag => Bool
  | .client => Unit

/-- A value in a context. -/
abbrev ContextItem := TypedValue ContextType.Value

/-- The context of the handlers. -/
abbrev Context := TypedStore ContextType.Value

abbrev Context.empty : Context := TypedStore.empty

/-- The name under which the client of the service is found. -/
def Context.clientName : String := "api_client"

/-- Handles of contexts. -/
abbrev ContextHandles := StoreHandles ContextType.Value

end WalletEvents
