import Scrip.Proofs.Engine.Look
import Scrip.Proofs.Framework.Leads
import Scrip.Proofs.Ledger.Statement

/-!
# Histories of any ledger

A storage whose listings are fixed may answer any entries at all, in any order: between accounts
that are not there, twice under one number, or of the same time. The history is made of them
nevertheless (`history_projects`): in the order of `Entry.NewestFirst`, every entry gives the line
that the books have for it among the received coins (`Books.receivedLine`) or among the sent ones
(`Books.sentLine`), and no more than one.

* `Entry.newestFirst_mergeSort`, `Entry.NewestFirst.unique`: the order of a history;
* `Scripted.Tells`: work that only reads, on such a storage;
* `loadHistory_tells`: the entries are listed, looked up and told.
-/

namespace Scrip

/-! ## The order of a history -/

namespace Entry

/-- Some entries with the newest first. Those of the same time come by ascending number, and those
of the same number too as they were listed. -/
structure NewestFirst (listed sorted : List Entry) : Prop where
  perm : sorted.Perm listed
  ordered : sorted.Pairwise fun x y =>
    x.createdAt.isAfter y.createdAt = true ∨ x.createdAt = y.createdAt ∧ x.id ≤ y.id
  stable : ∀ time id, sorted.filter (fun x => x.createdAt = time ∧ x.id = id) =
    listed.filter fun x => x.createdAt = time ∧ x.id = id

theorem sameTime_iff {x y : Entry} : x.createdAt = y.createdAt ↔
    x.createdAt.seconds = y.createdAt.seconds ∧
      x.createdAt.nanoseconds = y.createdAt.nanoseconds := by
  rw [Instant.mk.injEq]

/-- One entry comes before another one if it is newer, or as old and not of a higher number. -/
theorem isBefore_eq {x y : Entry} : x.isBefore y = true ↔
    x.createdAt.isAfter y.createdAt = true ∨ x.createdAt = y.createdAt ∧ x.id ≤ y.id := by
  rw [isBefore_iff, sameTime_iff]
  simp only [Instant.isAfter, Bool.or_eq_true, Bool.and_eq_true, decide_eq_true_eq, beq_iff_eq]
  unfold EntryId
  omega

theorem newestFirst_mergeSort (listed : List Entry) :
    NewestFirst listed (listed.mergeSort isBefore) := by
  have trans (x y z : Entry) : x.isBefore y = true → y.isBefore z = true → x.isBefore z = true :=
    isBefore_trans
  have perm := List.mergeSort_perm listed isBefore
  refine ⟨perm, ?_, fun time id => ?_⟩
  · exact (List.pairwise_mergeSort trans isBefore_total listed).imp isBefore_eq.mp
  · -- Entries that tie are in order as they are listed, and sorting leaves what is in order.
    generalize hp : (fun x : Entry => decide (x.createdAt = time ∧ x.id = id)) = tied
    have inOrder : (listed.filter tied).Pairwise (isBefore · · = true) := by
      refine List.pairwise_of_forall_mem_list fun x hx y hy => isBefore_eq.mpr (.inr ?_)
      have hx := (List.mem_filter.mp hx).2
      have hy := (List.mem_filter.mp hy).2
      simp only [← hp, decide_eq_true_eq] at hx hy
      exact ⟨hx.1.trans hy.1.symm, le_of_eq (hx.2.trans hy.2.symm)⟩
    have kept :=
      (List.sublist_mergeSort trans isBefore_total inOrder List.filter_sublist).filter tied
    simp only [List.filter_filter, Bool.and_self] at kept
    exact (kept.eq_of_length (perm.filter tied).length_eq.symm).symm

/-- Entries that may come in either order tie. -/
theorem ties_of_isBefore {x y : Entry} (hxy : x.isBefore y = true) (hyx : y.isBefore x = true) :
    x.createdAt = y.createdAt ∧ x.id = y.id := by
  refine ⟨?_, id_eq_of_isBefore hxy hyx⟩
  rw [isBefore_iff] at hxy hyx
  rw [sameTime_iff]
  unfold EntryId at hxy hyx
  omega

/-- There is one such order only. -/
theorem NewestFirst.unique {listed sorted sorted' : List Entry} (h : NewestFirst listed sorted)
    (h' : NewestFirst listed sorted') : sorted = sorted' := by
  have tied (time : Instant) (id : EntryId) := (h.stable time id).trans (h'.stable time id).symm
  have ordered := h.ordered.imp isBefore_eq.mpr
  have ordered' := h'.ordered.imp isBefore_eq.mpr
  have perm := h.perm.trans h'.perm.symm
  clear h h'
  induction sorted generalizing sorted' with
  | nil => exact perm.nil_eq
  | cons x xs ih =>
    cases sorted' with
    | nil => exact perm.eq_nil
    | cons y ys =>
      rw [List.pairwise_cons] at ordered ordered'
      have self (z : Entry) : z.isBefore z = true := by simpa using isBefore_total z z
      -- Neither list has an entry before its first one, so the first ones tie, and are the same.
      have first : x.isBefore y = true :=
        (List.mem_cons.mp (perm.mem_iff.mpr List.mem_cons_self)).elim (· ▸ self y) (ordered.1 y)
      have first' : y.isBefore x = true :=
        (List.mem_cons.mp (perm.mem_iff.mp List.mem_cons_self)).elim (· ▸ self x) (ordered'.1 x)
      obtain ⟨time, number⟩ := ties_of_isBefore first first'
      have heads := tied x.createdAt x.id
      rw [List.filter_cons_of_pos (by simp), List.filter_cons_of_pos (by simp [time, number])]
        at heads
      obtain ⟨rfl, -⟩ := List.cons.inj heads
      refine congrArg (x :: ·) (ih (fun time id => ?_) ordered.2 ordered'.2 perm.cons_inv)
      have tied := tied time id
      rw [List.filter_cons, List.filter_cons] at tied
      split at tied
      · exact (List.cons.inj tied).2
      · exact tied

end Entry

/-! ## The lines of a history -/

namespace Books

variable {b : Books} {owner : Account}

/-- An entry as a line, with the name of its item when the books have that. -/
def lineOf (b : Books) (counterparty : String) (x : Entry) : HistoryLine :=
  ⟨x.id, counterparty, x.amount, x.kind, x.item.bind fun i => (b.item? i).map (·.name), x.createdAt⟩

/-- What an entry shows among received coins: a transfer from another account that the books
have. -/
def receivedLine (b : Books) (owner : Account) (x : Entry) : Option HistoryLine :=
  if x.kind = .transfer ∧ x.destination = owner.id ∧ x.source ≠ owner.id then
    (b.account? x.source).map fun sender => b.lineOf sender.username x
  else none

/-- What an entry shows among sent coins: a purchase, a transfer to the owner, or one to an account
that the books have. -/
def sentLine (b : Books) (owner : Account) (x : Entry) : Option HistoryLine :=
  if x.source ≠ owner.id then none
  else if x.kind = .purchase ∨ x.destination = owner.id then some (b.lineOf owner.username x)
  else (b.account? x.destination).map fun recipient => b.lineOf recipient.username x

/-- What entries show of the owner's coins. -/
def projection (b : Books) (owner : Account) (entries : List Entry) : History :=
  ⟨entries.filterMap (b.receivedLine owner), entries.filterMap (b.sentLine owner)⟩

/-- No entry shows on both sides. -/
theorem receivedLine_eq_none_or (b : Books) (owner : Account) (x : Entry) :
    b.receivedLine owner x = none ∨ b.sentLine owner x = none := by
  by_cases hs : x.source = owner.id
  · left
    apply if_neg
    exact fun h => h.2.2 hs
  · right
    exact if_pos hs

theorem lineFor_itemNames (name : String) (x : Entry) :
    x.lineFor name b.itemNames = b.lineOf name x := by
  unfold Entry.lineFor lineOf
  simp only [lookup_itemNames]

/-- The name under which the books have a party, as part of a line. -/
theorem map_partyName {x : Entry} {party : AccountId} (hp : party ≠ owner.id) :
    (History.partyName owner b.usernames party).map (x.lineFor · b.itemNames) =
      (b.account? party).map fun a => b.lineOf a.username x := by
  rw [History.partyName, if_neg hp, lookup_usernames, Option.map_map]
  simp only [Function.comp_def, lineFor_itemNames]

theorem receivedLine?_names (x : Entry) :
    History.receivedLine? owner b.usernames b.itemNames x = b.receivedLine owner x := by
  unfold History.receivedLine? receivedLine
  rw [History.sideFor_eq]
  by_cases hs : x.source = owner.id
  · rw [if_pos hs]
    exact (if_neg fun h => h.2.2 hs).symm
  · by_cases ht : x.kind = .transfer ∧ x.destination = owner.id
    · rw [if_neg hs, if_pos ht, if_pos ⟨ht.1, ht.2, hs⟩]
      exact map_partyName hs
    · rw [if_neg hs, if_neg ht]
      exact (if_neg fun h => ht ⟨h.1, h.2.1⟩).symm

theorem sentLine?_names (x : Entry) :
    History.sentLine? owner b.usernames b.itemNames x = b.sentLine owner x := by
  have itself : (History.partyName owner b.usernames owner.id).map (x.lineFor · b.itemNames) =
      some (b.lineOf owner.username x) := by
    rw [History.partyName, if_pos rfl, Option.map_some, lineFor_itemNames]
  unfold History.sentLine? sentLine
  rw [History.sideFor_eq]
  by_cases hs : x.source = owner.id
  · rw [if_pos hs, if_neg (not_not_intro hs)]
    show (History.partyName owner b.usernames
      (if x.kind = .purchase then owner.id else x.destination)).map _ = _
    by_cases hp : x.kind = .purchase ∨ x.destination = owner.id
    · have self : (if x.kind = .purchase then owner.id else x.destination) = owner.id :=
        ite_eq_left_iff.mpr fun hk => hp.resolve_left hk
      rw [if_pos hp, self]
      exact itself
    · obtain ⟨hk, hd⟩ := not_or.mp hp
      rw [if_neg hp, if_neg hk]
      exact map_partyName hd
  · rw [if_neg hs, if_pos hs]
    split_ifs <;> rfl

/-- A history that is made with the right names of all that its entries mention. -/
theorem ofEntries_eq_projection {listed : List Entry} {names items : Names}
    (h : ∀ x ∈ listed, History.Agree owner names b.usernames items b.itemNames x) :
    History.ofEntries owner listed names items =
      b.projection owner (listed.mergeSort Entry.isBefore) := by
  unfold History.ofEntries projection
  refine congrArg₂ History.mk (List.filterMap_congr fun x hx => ?_)
    (List.filterMap_congr fun x hx => ?_)
  · rw [(History.line_congr (h x (List.mem_mergeSort.mp hx))).1, receivedLine?_names]
  · rw [(History.line_congr (h x (List.mem_mergeSort.mp hx))).2, sentLine?_names]

/-- What is read is there, whatever the time. -/
theorem exists_answer_of_read {r : Request} (hr : r.isWrite = false) (b : Books) :
    ∃ a, ∀ now, b.answer now r = .ok (a, b) := by
  cases r with
  | account | accountByName | lockAccount | item | itemByName | items | holding | holdings
  | entriesFor => exact ⟨_, fun _ => rfl⟩
  | insertAccount | debit | credit | insertItem | incrementHolding | insertHolding | append =>
    cases hr

end Books

/-! ## Listings that are fixed -/

namespace Scripted

variable {α β : Type} {listed : List Entry} {b : Books}

/-- Calls do not fail, entries are listed as they are fixed, and a unit is open on some books. -/
structure Shows (s : Scripted) (listed : List Entry) (b : Books) : Prop where
  script : s.script = []
  ledger : s.ledger = some listed
  working : s.books.working = some b

/-- Work on such books leaves them as they are, and `Q` holds of its outcome. -/
def Tells (listed : List Entry) (b : Books) (w : Work α) (Q : Except Failure α → Prop) : Prop :=
  ∀ s : Scripted, s.Shows listed b →
    Q (w.exchange.run party s).1 ∧ (w.exchange.run party s).2.Shows listed b

/-- Without a script every call is passed on. -/
theorem party_of_script {s : Scripted} (h : s.script = []) (c : Call) :
    party c s = { s with calls := s.calls ++ [c] }.pass c := by
  simp only [party, turn?, h, List.find?_nil, Option.map_none]

theorem Shows.entriesFor {s : Scripted} (h : s.Shows listed b) (id : AccountId) :
    ∃ s', party (.within (.entriesFor id)) s = (.ok listed, s') ∧ s'.Shows listed b := by
  rw [party_of_script h.script]
  refine ⟨{ s with calls := s.calls ++ [.within (.entriesFor id)] }, ?_, ⟨h.1, h.2, h.3⟩⟩
  simp only [pass, h.ledger]

/-- What is read of the books, but for lists of entries. -/
theorem Shows.read {s : Scripted} (h : s.Shows listed b) {r : Request} (hl : ¬ r.Lists)
    {a : r.Answer} (ha : ∀ now, b.answer now r = .ok (a, b)) :
    ∃ s', party (.within r) s = (.ok a, s') ∧ s'.Shows listed b := by
  have request : s.books.request Books.answer r =
      (.ok a, { s.books with working := some b }.tick) := by
    simp only [Storage.request, h.working, ha]
  rw [party_of_script h.script]
  refine ⟨{ s with
    calls := s.calls ++ [.within r]
    books := { s.books with working := some b }.tick }, ?_, ⟨h.1, h.2, rfl⟩⟩
  cases r with
  | entriesFor => exact absurd trivial hl
  | _ => simp only [pass, Storage.party, request]

theorem Tells.mono {w : Work α} {P Q : Except Failure α → Prop} (h : Tells listed b w P)
    (hPQ : ∀ outcome, P outcome → Q outcome) : Tells listed b w Q :=
  fun s hs => (h s hs).imp_left (hPQ _)

theorem Tells.pure {a : α} {Q : Except Failure α → Prop} (h : Q (.ok a)) :
    Tells listed b (Pure.pure a : Work α) Q :=
  fun _ hs => ⟨h, hs⟩

theorem Tells.bind {w : Work α} {f : α → Work β} {Q : Except Failure β → Prop}
    (hw : Tells listed b w fun outcome => match outcome with
      | .ok a => Tells listed b (f a) Q
      | .error failure => Q (.error failure)) : Tells listed b (w >>= f) Q := by
  intro s hs
  obtain ⟨hQ, hs'⟩ := hw s hs
  rw [Work.exchange_bind, Dialogue.run_bind]
  generalize w.exchange.run party s = ended at hQ hs'
  obtain ⟨outcome, s'⟩ := ended
  cases outcome with
  | error failure => exact ⟨hQ, hs'⟩
  | ok a => exact hQ s' hs'

/-- One request whose failure ends the work. -/
theorem tells_call {r : Request} {a : r.Answer} (h : ∀ s : Scripted, s.Shows listed b →
    ∃ s', party (.within r) s = (.ok a, s') ∧ s'.Shows listed b) :
    Tells listed b (Work.call r) (· = .ok a) := by
  intro s hs
  obtain ⟨s', answered, hs'⟩ := h s hs
  have run : (Work.call r).exchange.run party s = (.ok a, s') := by
    show (Dialogue.embed _ _ _).run party (party (.within r) s).2 = _
    rw [answered]
    rfl
  rw [run]
  exact ⟨rfl, hs'⟩

/-- Work that reads and lists no entries goes as it goes on the books. -/
theorem tells_of_complies {w : Work α} {Q : Except Failure α → Books → Prop}
    (hw : w.Complies False False b Q) (hr : w.OnlyReads) :
    Tells listed b w fun outcome => Q outcome b := by
  intro s hs
  unfold Work.Complies at hw
  unfold Work.OnlyReads at hr
  unfold Work.exchange
  generalize w.run = d at hw hr
  induction hr generalizing s with
  | value | failure =>
    obtain ⟨-, hQ⟩ := Dialogue.Lawful.done_iff.mp hw
    exact ⟨hQ, hs⟩
  | @ask r next hr stops _ ih =>
    obtain ⟨⟨b', hb, accepted⟩, hnext⟩ := Dialogue.Lawful.ask_iff.mp hw
    cases hb
    obtain ⟨a, ha⟩ := Books.exists_answer_of_read hr b
    obtain ⟨s', answered, hs'⟩ := hs.read (fun hl => accepted.lists hl) ha
    have served : b.Serves r a b :=
      ⟨_, Instant.ordinary_shown default, a, ha _, Request.SameAnswer.refl a⟩
    rw [Dialogue.embed, Dialogue.run_ask, answered]
    exact ih (.ok a) nofun s' hs' (hnext _ _ (.serves served))

/-- A unit on such books, as long as its work tells a value or is refused by a rule. -/
theorem Tells.run_unit {w : Work α} {o : Except Error α}
    (hw : Tells listed b w (· = o.mapError .rule)) (op : Operation) (limit : Option Nat)
    (now : Instant) :
    ((inUnit op limit w).run party { ledger := some listed, books := ⟨b, none, now⟩ }).1 = o := by
  let opened : Scripted :=
    { ledger := some listed, calls := [.begin limit],
      books := ({ committed := b, working := some b, now } : Storage Books).tick }
  obtain ⟨told, hs⟩ := hw opened ⟨rfl, rfl, rfl⟩
  show ((w.exchange >>= settle op).run party opened).1 = o
  rw [Dialogue.run_bind, told]
  generalize (w.exchange.run party opened).2 = s at hs
  cases o with
  | error e =>
    show ((settle op (.error (.rule e) : Except Failure α)).run party s).1 = _
    simp only [settle, Dialogue.run_ask, party_of_script hs.script]
    rfl
  | ok a =>
    show ((settle op (.ok a)).run party s).1 = _
    simp only [settle, Dialogue.run_ask, party_of_script hs.script, pass, Storage.party,
      hs.working, Dialogue.run_done]

end Scripted

/-! ## Histories -/

namespace Engine

open Scripted Work

variable {listed : List Entry} {b : Books}

/-- The entries are listed, whatever they mention is looked up, and what they show is told. -/
theorem loadHistory_tells (owner : Account) :
    Tells listed b (loadHistory owner)
      (· = .ok (b.projection owner (listed.mergeSort Entry.isBefore))) := by
  refine Tells.bind ((tells_call fun s hs => hs.entriesFor owner.id).mono ?_)
  rintro outcome rfl
  refine Tells.bind ((tells_of_complies (Resolved.entries_complies (.start b owner.id) listed)
    (.foldlM Resolved.entry_onlyReads _ _)).mono fun outcome h => ?_)
  obtain ⟨-, r, rfl, known, -, covered⟩ := h
  refine Tells.pure (congrArg Except.ok ?_)
  exact Books.ofEntries_eq_projection fun x hx => known.agree (covered x hx)

variable (listed b) in
/-- A history is told to whoever the books have. -/
theorem history_tells (id : AccountId) :
    Tells listed b (call (.account id) >>= fun x => found (.noAccount id) x >>= loadHistory)
      (· = Except.mapError .rule (match b.account? id with
        | some owner => .ok (b.projection owner (listed.mergeSort Entry.isBefore))
        | none => .error (.noAccount id))) := by
  refine Tells.bind ((tells_call fun s hs =>
    hs.read (r := .account id) (fun h => h) fun _ => rfl).mono ?_)
  rintro outcome rfl
  cases b.account? id with
  | none => exact fun s hs => ⟨rfl, hs⟩
  | some owner => exact Tells.bind (Tells.pure (loadHistory_tells owner))

/-- Whatever entries are listed, in whatever order, and whatever accounts and items there are: the
history of an account is told with the newest entries first, each of them as the line that the
books have for it on the one side or the other, if they have one. Nobody has a history that the
books do not have. When no number is listed twice, the order in which entries are listed makes no
difference. -/
theorem history_projects (e : Engine) (b : Books) (now : Instant) (id : AccountId)
    (listed : List Entry) :
    let outcome (listed : List Entry) := ((e.history id).run Scripted.party
      { ledger := some listed, books := ⟨b, none, now⟩ }).1
    (b.account? id = none → outcome listed = .error (.noAccount id)) ∧
      ∀ owner, b.account? id = some owner →
        (∃ sorted, Entry.NewestFirst listed sorted ∧
          (∀ sorted', Entry.NewestFirst listed sorted' → sorted' = sorted) ∧ outcome listed =
            .ok ⟨sorted.filterMap (b.receivedLine owner), sorted.filterMap (b.sentLine owner)⟩) ∧
        (∀ x, b.receivedLine owner x = none ∨ b.sentLine owner x = none) ∧
        ∀ listed', listed.Perm listed' → (listed.map (·.id)).Nodup →
          outcome listed' = outcome listed := by
  intro outcome
  have told (listed : List Entry) := (history_tells listed b id).run_unit .history e.timeout now
  refine ⟨fun ha => ?_, fun owner ha => ⟨?_, b.receivedLine_eq_none_or owner, ?_⟩⟩
  · have told := told listed
    rw [ha] at told
    exact told
  · have sorted := Entry.newestFirst_mergeSort listed
    refine ⟨_, sorted, fun sorted' h => h.unique sorted, ?_⟩
    have told := told listed
    rw [ha] at told
    exact told
  · intro listed' same distinct
    refine (told listed').trans ((told listed).trans ?_).symm
    rw [Entry.mergeSort_eq same distinct]

/-- A gift, coins that went to nobody and a cup that is sold no more, as they are listed. -/
theorem history_projects_ann :
    let ann : Account := ⟨1, "ann", "", 50, default⟩
    let bob : Account := ⟨2, "bob", "", 50, default⟩
    let gift : Entry := ⟨1, 2, 1, 30, .transfer, none, ⟨100, 0⟩⟩
    let cup : Entry := ⟨2, 1, 1, 20, .purchase, some 5, ⟨200, 0⟩⟩
    let lost : Entry := ⟨3, 1, 9, 5, .transfer, none, ⟨200, 0⟩⟩
    let start : Scripted :=
      { ledger := some [gift, lost, cup], books := ⟨{ accounts := [ann, bob] }, none, default⟩ }
    ((Engine.history {} 1).run Scripted.party start).1 =
      .ok ⟨[⟨1, "bob", 30, .transfer, none, ⟨100, 0⟩⟩],
        [⟨2, "ann", 20, .purchase, none, ⟨200, 0⟩⟩]⟩ := by
  intro ann bob gift cup lost start
  obtain ⟨-, told⟩ := history_projects {} { accounts := [ann, bob] } default 1 [gift, lost, cup]
  obtain ⟨⟨sorted, -, unique, told⟩, -, -⟩ := told ann rfl
  have inOrder : [cup, lost, gift].mergeSort Entry.isBefore = [cup, lost, gift] :=
    List.mergeSort_of_pairwise (by decide)
  have newest : Entry.NewestFirst [gift, lost, cup] [cup, lost, gift] := by
    have same : [gift, lost, cup].Perm [cup, lost, gift] := by decide
    rw [← inOrder, ← Entry.mergeSort_eq same (by decide)]
    exact Entry.newestFirst_mergeSort _
  obtain rfl := unique _ newest
  exact told

end Engine

end Scrip
