import Scrip.Proofs.Engine.Complies
import Scrip.Proofs.Ledger.History

/-!
# What account holders are shown

The work that loads items and history finds what the books have, exactly and in whatever order
entries are listed (`loadInventory_finds`, `loadHistory_finds`). For the history that is an
induction over the entries: the names found so far are right, and those of all parties and items
seen so far are among them (`Resolved.Knows`, `Resolved.Covers`).
-/

namespace Scrip.Engine

open Work

variable {b : Books} {listing expires : Prop}

theorem ownedItems_finds (hs : List Holding) :
    Finds listing expires (ownedItems hs) b
      (hs.filterMap fun h => (b.item? h.item).map fun i => ⟨i.name, h.quantity⟩) := by
  induction hs with
  | nil => exact Complies.pure ⟨rfl, rfl⟩
  | cons h hs ih =>
    refine (item_finds b listing expires h.item).bind (ih.bind ?_)
    rw [List.filterMap_cons]
    cases b.item? h.item with
    | none => exact Complies.pure ⟨rfl, rfl⟩
    | some i => exact Complies.pure ⟨rfl, rfl⟩

theorem loadInventory_finds (id : AccountId) :
    Finds listing expires (loadInventory id) b (b.ownedBy id) :=
  (holdings_finds b listing expires id).bind (ownedItems_finds _)

namespace Resolved

variable {owner : AccountId} {r r' r'' : Resolved} {e : Entry}

/-- The name of an item is known, or there is no such item. -/
def KnowsItem (b : Books) (r : Resolved) (i : ItemId) : Prop :=
  r.items.lookup i = (b.item? i).map (·.name)

/-- The names found so far are those that the books have. -/
structure Knows (b : Books) (owner : AccountId) (r : Resolved) : Prop where
  account : ∀ id ∈ r.asked, id ≠ owner → r.names.lookup id = (b.account? id).map (·.username)
  unasked : ∀ id ∉ r.asked, r.names.lookup id = none
  item : ∀ i, (r.items.lookup i).isSome → r.KnowsItem b i

/-- Nothing that was known is forgotten. -/
structure Extends (b : Books) (r r' : Resolved) : Prop where
  asked : r.asked ⊆ r'.asked
  item : ∀ i, r.KnowsItem b i → r'.KnowsItem b i

/-- All that an entry mentions was looked up. -/
structure Covers (b : Books) (r : Resolved) (e : Entry) : Prop where
  source : e.source ∈ r.asked
  destination : e.destination ∈ r.asked
  item : ∀ i ∈ e.item, r.KnowsItem b i

theorem Extends.refl : Extends b r r :=
  ⟨List.Subset.refl _, fun _ h => h⟩

theorem Extends.trans (h : Extends b r r') (h' : Extends b r' r'') : Extends b r r'' :=
  ⟨List.Subset.trans h.asked h'.asked, fun i hi => h'.item i (h.item i hi)⟩

theorem Covers.extends (h : Covers b r e) (hr : Extends b r r') : Covers b r' e :=
  ⟨hr.asked h.source, hr.asked h.destination, fun i hi => hr.item i (h.item i hi)⟩

/-- In the beginning nothing is known, and nothing but the owner counts as asked for. -/
theorem Knows.start (b : Books) (owner : AccountId) : Knows b owner { asked := [owner] } :=
  ⟨fun _ hid hne => absurd (List.mem_singleton.mp hid) hne, fun _ _ => rfl, nofun⟩

/-- What is known is what the books have of an entry whose mentions were looked up. -/
theorem Knows.agree {owner : Account} (hk : Knows b owner.id r) (hc : Covers b r e) :
    History.Agree owner r.names b.usernames r.items b.itemNames e := by
  refine ⟨fun hne => ?_, fun hne => ?_, fun i hi => ?_⟩
  · rw [hk.account _ hc.source hne, Books.lookup_usernames]
  · rw [hk.account _ hc.destination hne, Books.lookup_usernames]
  · rw [hc.item i hi, Books.lookup_itemNames]

/-- How looking up goes on: nothing fails, all that is known is right, and `P` holds of it. -/
def Step (b : Books) (owner : AccountId) (r : Resolved) (P : Resolved → Prop)
    (outcome : Except Failure Resolved) (b' : Books) : Prop :=
  b' = b ∧ ∃ r', outcome = .ok r' ∧ Knows b owner r' ∧ Extends b r r' ∧ P r'

theorem Step.bind {w : Work Resolved} {f : Resolved → Work Resolved} {P Q : Resolved → Prop}
    (hw : w.Complies listing expires b (Step b owner r P))
    (hf : ∀ r', Knows b owner r' → Extends b r r' → P r' →
      (f r').Complies listing expires b (Step b owner r' Q)) :
    Complies listing expires (w >>= f) b (Step b owner r Q) := by
  refine Complies.bind (hw.mono fun outcome b' h => ?_)
  obtain ⟨rfl, r', rfl, hk, he, hP⟩ := h
  refine (hf r' hk he hP).mono fun outcome b' h => ?_
  obtain ⟨rfl, r'', rfl, hk', he', hQ⟩ := h
  exact ⟨rfl, r'', rfl, hk', he.trans he', hQ⟩

theorem account_complies (hk : Knows b owner r) (id : AccountId) :
    (r.account id).Complies listing expires b (Step b owner r fun r' => id ∈ r'.asked) := by
  unfold account
  split
  · rename_i hasked
    exact Complies.pure ⟨rfl, r, rfl, hk, .refl, by simpa using hasked⟩
  · rename_i hasked
    have hasked : id ∉ r.asked := by simpa using hasked
    have extended (names : Names) : Extends b r { r with asked := id :: r.asked, names } :=
      ⟨List.subset_cons_self .., fun _ h => h⟩
    refine (account_finds b listing expires id).bind ?_
    cases ha : b.account? id with
    | none =>
      refine Complies.pure ⟨rfl, _, rfl, ⟨fun other ho hne => ?_, fun other ho => ?_, hk.item⟩,
        extended r.names, List.mem_cons_self ..⟩
      · rcases List.mem_cons.mp ho with rfl | ho
        · rw [ha]
          exact hk.unasked _ hasked
        · exact hk.account other ho hne
      · exact hk.unasked other fun h => ho (List.mem_cons_of_mem _ h)
    | some a =>
      refine Complies.pure ⟨rfl, _, rfl, ⟨fun other ho hne => ?_, fun other ho => ?_, hk.item⟩,
        extended _, List.mem_cons_self ..⟩
      · rw [List.lookup_cons]
        by_cases he : other = id
        · rw [he, ha, beq_self_eq_true]
          rfl
        · rw [beq_eq_false_iff_ne.mpr he]
          exact hk.account other ((List.mem_cons.mp ho).resolve_left he) hne
      · obtain ⟨he, ho⟩ := not_or.mp (mt List.mem_cons.mpr ho)
        rw [List.lookup_cons, beq_eq_false_iff_ne.mpr he]
        exact hk.unasked other ho

theorem item_complies (hk : Knows b owner r) (i : ItemId) :
    (r.item i).Complies listing expires b (Step b owner r fun r' => r'.KnowsItem b i) := by
  unfold item
  split
  · exact Complies.pure ⟨rfl, r, rfl, hk, .refl, hk.item i ‹_›⟩
  · rename_i hnone
    rw [Option.not_isSome_iff_eq_none] at hnone
    refine (item_finds b listing expires i).bind ?_
    cases hi : b.item? i with
    | none =>
      have hknows : r.KnowsItem b i := by
        rw [KnowsItem, hi]
        exact hnone
      exact Complies.pure ⟨rfl, r, rfl, hk, .refl, hknows⟩
    | some x =>
      have hlookup (j : ItemId) : List.lookup j ((i, x.name) :: r.items) =
          if j = i then some x.name else r.items.lookup j := by
        rw [List.lookup_cons]
        by_cases he : j = i
        · rw [if_pos he, beq_iff_eq.mpr he]
        · rw [if_neg he, beq_eq_false_iff_ne.mpr he]
      have hnew : KnowsItem b { r with items := (i, x.name) :: r.items } i := by
        show List.lookup i _ = _
        rw [hlookup, if_pos rfl, hi]
        rfl
      have hold (j : ItemId) (hj : j ≠ i) :
          KnowsItem b { r with items := (i, x.name) :: r.items } j ↔ r.KnowsItem b j := by
        show List.lookup j _ = _ ↔ _
        rw [hlookup, if_neg hj]
        exact Iff.rfl
      refine Complies.pure ⟨rfl, _, rfl, ⟨hk.account, hk.unasked, fun j hj => ?_⟩,
        ⟨List.Subset.refl _, fun j hj => ?_⟩, hnew⟩
      · by_cases he : j = i
        · rw [he]
          exact hnew
        · rw [hlookup, if_neg he] at hj
          exact (hold j he).mpr (hk.item j hj)
      · by_cases he : j = i
        · rw [he]
          exact hnew
        · exact (hold j he).mpr hj

theorem entry_complies (hk : Knows b owner r) (e : Entry) :
    (r.entry e).Complies listing expires b (Step b owner r fun r' => Covers b r' e) := by
  refine Step.bind (account_complies hk e.source) fun r₁ hk₁ _ hs => ?_
  refine Step.bind (account_complies hk₁ e.destination) fun r₂ hk₂ h₁₂ hd => ?_
  split
  · rename_i i hi
    refine (item_complies hk₂ i).mono fun outcome b' h => ?_
    obtain ⟨rfl, r₃, rfl, hk₃, h₂₃, hitem⟩ := h
    refine ⟨rfl, r₃, rfl, hk₃, h₂₃, h₂₃.asked (h₁₂.asked hs), h₂₃.asked hd, fun j hj => ?_⟩
    cases hi.symm.trans hj
    exact hitem
  · rename_i hi
    refine Complies.pure ⟨rfl, r₂, rfl, hk₂, .refl, h₁₂.asked hs, hd, fun j hj => ?_⟩
    cases hi.symm.trans hj

theorem entries_complies (hk : Knows b owner r) (es : List Entry) :
    (es.foldlM entry r).Complies listing expires b
      (Step b owner r fun r' => ∀ e ∈ es, Covers b r' e) := by
  induction es generalizing r with
  | nil => exact Complies.pure ⟨rfl, r, rfl, hk, .refl, nofun⟩
  | cons e es ih =>
    rw [List.foldlM_cons]
    refine Step.bind (entry_complies hk e) fun r₁ hk₁ _ hc => (ih hk₁).mono fun outcome b' h => ?_
    obtain ⟨rfl, r₂, rfl, hk₂, h₁₂, hall⟩ := h
    exact ⟨rfl, r₂, rfl, hk₂, h₁₂, List.forall_mem_cons.mpr ⟨hc.extends h₁₂, hall⟩⟩

end Resolved

/-- The history of an account is the one that the books have. -/
theorem loadHistory_finds (h : b.Storable) (hl : listing) (owner : Account) :
    Finds listing expires (loadHistory owner) b (b.historyOf owner) := by
  refine Complies.bind (Complies.call ⟨trivial, trivial, fun _ => hl⟩ fun xs b' hs => ?_)
  obtain ⟨now, -, ys, hys, hp, -⟩ := hs
  obtain ⟨rfl, rfl⟩ := Prod.mk.inj (Except.ok.inj hys)
  refine Complies.bind ((Resolved.entries_complies (.start _ owner.id) xs).mono
    fun outcome b₁ h' => ?_)
  obtain ⟨rfl, r, rfl, hk, -, hc⟩ := h'
  refine Complies.pure ⟨congrArg Except.ok ?_, rfl⟩
  have hd : (xs.map (·.id)).Nodup := by
    have hperm : xs.Perm (b₁.ledger.filter (·.involves owner.id)) :=
      hp.symm.trans (List.mergeSort_perm _ _)
    exact (hperm.map _).nodup_iff.mpr (h.ledger.nodup.sublist (List.filter_sublist.map _))
  exact History.ofEntries_congr hp.symm hd fun e he => hk.agree (hc e he)

end Scrip.Engine
