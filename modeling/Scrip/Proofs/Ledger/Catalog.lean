import Scrip.Proofs.Engine.Complies
import Scrip.Proofs.Store.Backend
import Scrip.Proofs.Text.Trimmed

/-!
# The catalog

Every item on offer has a trimmed name that is not empty, and a positive price, and no two have the
same name (`Books.Catalogued`). No command changes that (`Effect.catalogued`), and it holds of the
items that are on offer from the start.
-/

namespace Scrip

namespace Text

/-- Trimmed text is not changed by trimming it again. -/
theorem trim_trim (s : String) : trim (trim s) = trim s := by
  obtain ⟨front, back⟩ := trimChars_tight s.toList
  rw [trim, trim, String.toList_ofList, trimChars_eq front back]

end Text

/-- An item that can be bought by its name. -/
structure Item.Sellable (i : Item) : Prop where
  trimmed : Text.trim i.name = i.name
  named : i.name ≠ ""
  positive : 0 < i.price

/-- All items can be bought by their names, and no two have the same. -/
structure Books.Catalogued (b : Books) : Prop where
  distinct : (b.items.map (·.name)).Nodup
  sellable : ∀ i ∈ b.items, i.Sellable

namespace Books.Catalogued

variable {b b' : Books}

theorem of_items (h : b.Catalogued) (same : b'.items = b.items) : b'.Catalogued :=
  ⟨same ▸ h.distinct, same ▸ h.sellable⟩

theorem withItem (h : b.Catalogued) {i : Item} (fresh : b.itemByName? i.name = none)
    (hi : i.Sellable) : (b.withItem i).Catalogued := by
  refine ⟨?_, fun i' hi' => ?_⟩
  · rw [Books.withItem, List.map_append, List.map_singleton]
    rw [← List.concat_eq_append]
    refine h.distinct.concat fun listed => ?_
    obtain ⟨i', hi', same⟩ := List.mem_map.mp listed
    exact List.find?_eq_none.mp fresh i' hi' (beq_iff_eq.mpr same)
  · rcases List.mem_append.mp hi' with hi' | hi'
    · exact h.sellable i' hi'
    · cases List.mem_singleton.mp hi'
      exact hi

end Books.Catalogued

/-- An item that is accepted can be bought by its name. -/
theorem NewItem.sellable_of {name : String} {price : Int} {new : NewItem}
    (h : NewItem.of? name price = .ok new) (id : ItemId) (now : Instant) :
    (new.toItem id now).Sellable := by
  have trimmed := Engine.newItem?_eq_ok h
  refine ⟨?_, fun empty => ?_, Engine.newItem?_positive h⟩
  · show Text.trim new.name = new.name
    rw [trimmed, Text.trim_trim]
  · have blank : (Text.trim name).isEmpty = true := by
      rw [← trimmed, String.isEmpty_iff]
      exact empty
    simp only [NewItem.of?, blank, if_true] at h
    cases h

/-- Every command keeps the catalog in order. -/
theorem Effect.catalogued {e : Engine} {b b' : Books} {c : Command} {o : Outcome}
    (he : Effect e b c o b') (h : b.Catalogued) : b'.Catalogued := by
  cases he with
  | look | signIn => exact h
  | register | signUp => exact h.of_items rfl
  | addItem _ accepted fresh => exact h.withItem fresh (NewItem.sellable_of accepted _ _)
  | transfer => exact h.of_items rfl
  | purchase => exact h.of_items (Books.gain_items ..)

/-- The items on offer from the start are in order. -/
theorem Backend.catalogued_stock (now : Instant) (k : Backend) : (k.stock now).Catalogued := by
  cases k with
  | memory => exact ⟨List.nodup_nil, List.forall_mem_nil _⟩
  | tables =>
    have sellable : ∀ item ∈ Migration.seedItems, Text.trim item.name = item.name ∧
        item.name ≠ "" ∧ 0 < item.price := by decide +kernel
    refine ⟨?_, fun i hi => ?_⟩
    · show (Migration.seedItems.map (·.name)).Nodup
      decide
    · have listed : (i.name, i.price) ∈
          Migration.seedItems.map fun item => (item.name, item.price) :=
        List.mem_map_of_mem (f := fun i : Item => (i.name, i.price)) hi
      obtain ⟨item, hitem, same⟩ := List.mem_map.mp listed
      obtain ⟨name, price⟩ := Prod.mk.inj same
      obtain ⟨trimmed, named, positive⟩ := sellable item hitem
      exact ⟨name ▸ trimmed, name ▸ named, price ▸ positive⟩

end Scrip
