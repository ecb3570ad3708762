import Mathlib.Data.List.Nodup
import Scrip.History
import Scrip.Store.Books

/-!
# Histories of books

The history that books have for an account (`Books.historyOf`). It is the same in whatever
order the entries come and whatever names are known besides those that the entries mention
(`History.ofEntries_congr`).
-/

namespace Scrip

namespace Entry

variable {x y z : Entry}

theorem isBefore_iff : x.isBefore y = true ↔
    y.createdAt.seconds < x.createdAt.seconds ∨ y.createdAt.seconds = x.createdAt.seconds ∧
      (y.createdAt.nanoseconds < x.createdAt.nanoseconds ∨
        y.createdAt.nanoseconds = x.createdAt.nanoseconds ∧ x.id ≤ y.id) := by
  simp only [isBefore, Instant.isAfter, Bool.or_eq_true, Bool.and_eq_true, decide_eq_true_eq,
    beq_iff_eq]
  split
  · simp only [true_iff]
    omega
  · split
    · simp only [Bool.false_eq_true, false_iff]
      omega
    · rw [decide_eq_true_eq]
      unfold EntryId
      omega

theorem isBefore_trans (hxy : x.isBefore y = true) (hyz : y.isBefore z = true) :
    x.isBefore z = true := by
  rw [isBefore_iff] at *
  unfold EntryId at *
  omega

theorem isBefore_total (x y : Entry) : (x.isBefore y || y.isBefore x) = true := by
  rw [Bool.or_eq_true, isBefore_iff, isBefore_iff]
  unfold EntryId
  omega

theorem id_eq_of_isBefore (hxy : x.isBefore y = true) (hyx : y.isBefore x = true) :
    x.id = y.id := by
  rw [isBefore_iff] at *
  unfold EntryId at *
  omega

/-- Entries of different numbers come in one order only. -/
theorem mergeSort_eq {xs ys : List Entry} (hp : xs.Perm ys) (hd : (xs.map (·.id)).Nodup) :
    xs.mergeSort isBefore = ys.mergeSort isBefore := by
  have sorted (zs : List Entry) : (zs.mergeSort isBefore).Pairwise (isBefore · ·) :=
    @List.pairwise_mergeSort _ isBefore (fun _ _ _ => isBefore_trans) isBefore_total zs
  refine List.Perm.eq_of_pairwise (fun x y hx hy hxy hyx => ?_) (sorted xs) (sorted ys)
    (((List.mergeSort_perm _ _).trans hp).trans (List.mergeSort_perm _ _).symm)
  have hx := List.mem_mergeSort.mp hx
  have hy := hp.mem_iff.mpr (List.mem_mergeSort.mp hy)
  exact List.inj_on_of_nodup_map hd hx hy (id_eq_of_isBefore hxy hyx)

end Entry

/-- Names that are listed are found by the first of their number. -/
theorem lookup_map {α : Type} (key : α → Int) (value : α → String) (xs : List α) (k : Int) :
    List.lookup k (xs.map fun x => (key x, value x)) = (xs.find? (key · == k)).map value := by
  induction xs with
  | nil => rfl
  | cons x xs ih =>
    rw [List.map_cons, List.lookup_cons, List.find?_cons, ih, Bool.beq_comm (a := k)]
    cases key x == k <;> rfl

namespace History

variable {owner : Account} {names names' items items' : Names}

/-- Two tables of names agree on what an entry mentions. -/
structure Agree (owner : Account) (names names' items items' : Names) (e : Entry) : Prop where
  source : e.source ≠ owner.id → names.lookup e.source = names'.lookup e.source
  destination : e.destination ≠ owner.id →
    names.lookup e.destination = names'.lookup e.destination
  item : ∀ i ∈ e.item, items.lookup i = items'.lookup i

theorem partyName_congr {id : AccountId}
    (h : id ≠ owner.id → names.lookup id = names'.lookup id) :
    partyName owner names id = partyName owner names' id := by
  unfold partyName
  split
  · rfl
  · exact h ‹_›

theorem lineFor_congr {e : Entry} (h : ∀ i ∈ e.item, items.lookup i = items'.lookup i)
    (name : String) : e.lineFor name items = e.lineFor name items' := by
  unfold Entry.lineFor
  cases hi : e.item with
  | none => rfl
  | some i => rw [Option.bind_some, Option.bind_some, h i hi]

theorem line_congr {e : Entry} (h : Agree owner names names' items items' e) :
    receivedLine? owner names items e = receivedLine? owner names' items' e ∧
      sentLine? owner names items e = sentLine? owner names' items' e := by
  have hline : (e.lineFor · items) = (e.lineFor · items') := funext (lineFor_congr h.item)
  unfold receivedLine? sentLine? Entry.sideFor
  rw [hline]
  cases e.kind with
  | purchase =>
    by_cases hs : e.source = owner.id
    · simp only [if_pos hs, partyName, if_true, and_self]
    · simp only [if_neg hs, and_self]
  | transfer =>
    by_cases hs : e.source = owner.id
    · simp only [if_pos hs, partyName_congr h.destination, and_self]
    · by_cases hd : e.destination = owner.id
      · simp only [if_neg hs, if_pos hd, partyName_congr h.source, and_self]
      · simp only [if_neg hs, if_neg hd, and_self]

/-- Neither the order of the entries matters nor a name that none of them mentions. -/
theorem ofEntries_congr {xs ys : List Entry} (hp : xs.Perm ys) (hd : (xs.map (·.id)).Nodup)
    (h : ∀ e ∈ xs, Agree owner names names' items items' e) :
    ofEntries owner xs names items = ofEntries owner ys names' items' := by
  unfold ofEntries
  rw [← Entry.mergeSort_eq hp hd]
  refine congrArg₂ History.mk (List.filterMap_congr fun e he => ?_)
    (List.filterMap_congr fun e he => ?_)
  · exact (line_congr (h e (List.mem_mergeSort.mp he))).1
  · exact (line_congr (h e (List.mem_mergeSort.mp he))).2

end History

namespace Books

variable {b : Books}

/-- The names of all accounts. -/
def usernames (b : Books) : Names :=
  b.accounts.map fun a => (a.id, a.username)

/-- The names of all items. -/
def itemNames (b : Books) : Names :=
  b.items.map fun i => (i.id, i.name)

theorem lookup_usernames (id : AccountId) :
    b.usernames.lookup id = (b.account? id).map (·.username) :=
  lookup_map Account.id Account.username b.accounts id

theorem lookup_itemNames (id : ItemId) : b.itemNames.lookup id = (b.item? id).map (·.name) :=
  lookup_map Item.id Item.name b.items id

/-- What an account owns, by the names of the items. -/
def ownedBy (b : Books) (id : AccountId) : List OwnedItem :=
  (b.holdingsOf id).filterMap fun h => (b.item? h.item).map fun i => ⟨i.name, h.quantity⟩

/-- The history of an account. -/
def historyOf (b : Books) (owner : Account) : History :=
  History.ofEntries owner (b.entriesFor owner.id) b.usernames b.itemNames

end Books

end Scrip
