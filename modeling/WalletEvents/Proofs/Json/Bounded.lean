import WalletEvents.Proofs.Json.Paths

/-!
# How deep a field may be nested

A document may be nested no deeper than its allowance, and what stands in it has one
level less. So the content of a field that may hold anything is nested less deep than
the document, and written in the same place again it is not too deep either.

`Json.Bounded` is what the two kinds of documents have in common here: an unread text
carries its allowance, and a value was read with one.
-/

namespace WalletEvents

namespace Json

variable {δ α : Type} [Document δ]

/-- Documents with an allowance of nesting, of which each part has one level less. -/
structure Bounded (Within : Nat → δ → Prop) : Prop where
  value : ∀ {depth d v}, Within depth d → Document.value? d = some v → Regular depth v
  null : ∀ {depth d}, Within depth d → Document.value? d = some .null →
    Document.node? d = some .null
  array : ∀ {depth d items}, Within depth d → Document.node? d = some (.array items) →
    ∃ depth', depth = depth' + 1 ∧ ∀ item ∈ items, Within depth' item
  object : ∀ {depth d members}, Within depth d → Document.node? d = some (.object members) →
    ∃ depth', depth = depth' + 1 ∧ ∀ member ∈ members, Within depth' member.2

/-- The content of a field that may hold anything: canonical, not too deep, and not `null`. -/
def Kept (depth : Nat) (content : Option Json) : Prop :=
  ∀ v ∈ content, Regular depth v ∧ v ≠ .null

namespace Bounded

variable {Within : Nat → δ → Prop} (h : Bounded Within) {depth : Nat} {d : δ}

include h

theorem within_of_lookup
    {names : List String} (hd : Within depth d) {fields : Fields δ}
    (hfields : fields? names d = some fields) :
    ∃ depth', depth = depth' + 1 ∧
      ∀ name e, fields.given.lookup name = some e → Within depth' e := by
  have hmem : ∀ name e, fields.given.lookup name = some e → (name, e) ∈ fields.given := by
    intro name e hlookup
    obtain ⟨before, after, hgiven, -⟩ := List.lookup_eq_some_iff.mp hlookup
    rw [hgiven]
    exact List.mem_append_right _ List.mem_cons_self
  unfold fields? at hfields
  split at hfields
  · rename_i members hnode
    obtain ⟨depth', rfl, hmembers⟩ := h.object hd hnode
    dsimp only at hfields
    split at hfields
    · obtain rfl := Option.some.inj hfields
      exact ⟨depth', rfl, fun name e hlookup =>
        hmembers _ (List.mem_of_mem_filter (hmem name e hlookup))⟩
    · simp at hfields
  · rename_i items hnode
    obtain ⟨depth', rfl, hitems⟩ := h.array hd hnode
    split at hfields
    · obtain rfl := Option.some.inj hfields
      exact ⟨depth', rfl, fun name e hlookup =>
        hitems e (List.of_mem_zip (hmem name e hlookup)).2⟩
    · simp at hfields
  · simp at hfields

/-- The content of an optional field is kept. -/
theorem kept_of_optional?
    {fields : Fields δ} (hgiven : ∀ name e, fields.given.lookup name = some e → Within depth e)
    {name : String} {content : Option Json} (hread : fields.optional? name any? = some content) :
    Kept depth content := by
  intro v hv
  obtain rfl : content = some v := hv
  unfold Fields.optional? at hread
  split at hread
  · rename_i e hlookup
    have he := hgiven name e hlookup
    unfold nullable? at hread
    split at hread
    · simp at hread
    · rename_i hnode
      obtain ⟨_, hvalue, ⟨⟩⟩ := Option.map_eq_some_iff.mp hread
      refine ⟨h.value he hvalue, ?_⟩
      rintro rfl
      exact hnode (h.null he hvalue)
  · split at hread <;> simp at hread

end Bounded

omit [Document δ] in
/-- A field that has to be given is one of those that are. -/
theorem Fields.exists_of_required?
    {fields : Fields δ} {name : String} {read : δ → Option α} {a : α}
    (h : fields.required? name read = some a) :
    ∃ e, fields.given.lookup name = some e ∧ read e = some a :=
  Option.bind_eq_some_iff.mp h

/-- A value that was read with an allowance. -/
theorem bounded_regular :
    Bounded Regular where
  value h hv := Option.some.inj hv ▸ h
  null := by
    rintro _ _ - ⟨⟩
    rfl
  array := by
    intro depth v items h hnode
    cases v with
    | array items' =>
        obtain rfl : items' = items := by simpa [Document.node?, topNode] using hnode
        exact h.array_inv
    | _ => simp [Document.node?, topNode] at hnode
  object := by
    intro depth v members h hnode
    cases v with
    | object members' =>
        obtain rfl : members' = members := by simpa [Document.node?, topNode] using hnode
        obtain ⟨depth, rfl, -, hmembers⟩ := h.object_inv
        exact ⟨depth, rfl, hmembers⟩
    | _ => simp [Document.node?, topNode] at hnode

/-- An unread text carries its allowance. -/
theorem bounded_unread :
    Bounded fun depth (u : Unread) => u.depth = depth where
  value := by
    rintro _ u v rfl hv
    exact JsonText.regular_of_value? hv
  null := by
    rintro _ ⟨depth, tree⟩ rfl hv
    cases tree with
    | null => rfl
    | array items =>
        obtain ⟨_, _, -, hnull, -⟩ := JsonText.value?_array_inv hv
        cases hnull
    | object members =>
        obtain ⟨_, _, -, hnull, -⟩ := JsonText.value?_object_inv hv
        cases hnull
    | _ => simp [Document.value?, JsonText.value?] at hv
  array := by
    rintro _ ⟨depth, tree⟩ items rfl hnode
    change Unread.node? ⟨depth, tree⟩ = some (.array items) at hnode
    cases tree with
    | array trees =>
        cases depth with
        | zero => simp [Unread.node?] at hnode
        | succ depth =>
            obtain rfl : trees.map (fun tree => (⟨depth, tree⟩ : Unread)) = items := by
              simpa [Unread.node?] using hnode
            refine ⟨depth, rfl, fun item hitem => ?_⟩
            obtain ⟨tree, -, rfl⟩ := List.mem_map.mp hitem
            rfl
    | object members => cases depth <;> simp [Unread.node?] at hnode
    | _ => simp [Unread.node?] at hnode
  object := by
    rintro _ ⟨depth, tree⟩ unread rfl hnode
    change Unread.node? ⟨depth, tree⟩ = some (.object unread) at hnode
    cases tree with
    | object members =>
        cases depth with
        | zero => simp [Unread.node?] at hnode
        | succ depth =>
            refine ⟨depth, rfl, fun named hnamed => ?_⟩
            obtain ⟨member, -, -, hmember⟩ :=
              exists_of_forall₂ (Unread.node?_object_iff.mp hnode) hnamed
            rw [hmember]
    | array trees => cases depth <;> simp [Unread.node?] at hnode
    | _ => simp [Unread.node?] at hnode

end Json

end WalletEvents
