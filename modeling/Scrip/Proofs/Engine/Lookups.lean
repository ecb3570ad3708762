import Scrip.Proofs.Engine.Discreet
import Scrip.Store.Scripted

/-!
# How often a history looks names up

An entry mentions two accounts and perhaps an item (`Entry.mentions`), and a history looks up what
its entries mention one after another (`Resolved.foldlM_entry`). A mention is passed over once it
is settled (`Resolved.IsSettled`): an account as soon as it was asked for, an item only when it was
found.

* `Resolved.look_leads`: what one mention makes a history ask, and what is settled afterwards;
* `Resolved.timesAsked_of_settled`, `Resolved.settled_once`, `Resolved.timesAsked_eq`: all mentions;
* `history_lookups`: so no account is asked for twice and no item that was found, but an item that
  is missing is asked for at every mention (`history_asks_again`).
-/

namespace Scrip

open Work
open Dialogue (Leads)

/-- Something that an entry mentions by its number. -/
inductive Mention where
  | account (id : AccountId)
  | item (id : ItemId)
  deriving DecidableEq, Repr

namespace Mention

/-- The request that looks it up. -/
@[reducible] def request : Mention → Request
  | account id => .account id
  | item id => .item id

theorem request_inj {m m' : Mention} : m.request = m'.request ↔ m = m' := by
  cases m <;> cases m' <;> simp [request]

/-- Whether it need not be looked up again after a reply. -/
def SettledBy : (m : Mention) → m.request.Reply → Prop
  | account _, _ => True
  | item _, reply => ∃ x, reply = .ok (some x)

end Mention

/-- What an entry mentions, in the order in which it is looked up. -/
def Entry.mentions (e : Entry) : List Mention :=
  .account e.source :: .account e.destination :: (e.item.map .item).toList

/-- How often something was asked. -/
def timesAsked (r : Request) (log : List Exchanged) : Nat :=
  log.countP (·.1 = .within r)

theorem timesAsked_cons (r : Request) (x : Exchanged) (log : List Exchanged) :
    timesAsked r (x :: log) = timesAsked r log + if x.1 = .within r then 1 else 0 := by
  simp [timesAsked, List.countP_cons]

theorem timesAsked_mention (m m' : Mention) (reply : m'.request.Reply) (log : List Exchanged) :
    timesAsked m.request (⟨.within m'.request, reply⟩ :: log) =
      timesAsked m.request log + if m' = m then 1 else 0 := by
  simp only [timesAsked_cons, Call.within.injEq, Mention.request_inj]

namespace Engine

namespace Resolved

variable {r : Resolved} {m : Mention} {ms : List Mention} {log : List Exchanged}
  {outcome : Except Failure Resolved}

/-- Whether a mention is passed over. -/
def IsSettled (r : Resolved) : Mention → Prop
  | .account id => id ∈ r.asked
  | .item i => (r.items.lookup i).isSome

/-- Looks up what is mentioned, unless that is settled. -/
def look (r : Resolved) : Mention → Work Resolved
  | .account id => r.account id
  | .item i => r.item i

/-- What entries mention is looked up one after another. -/
theorem foldlM_entry (es : List Entry) (r : Resolved) :
    es.foldlM entry r = (es.flatMap Entry.mentions).foldlM look r := by
  induction es generalizing r with
  | nil => rfl
  | cons e es ih =>
    have mentioned : r.entry e = e.mentions.foldlM look r := by
      unfold entry Entry.mentions
      rw [List.foldlM_cons]
      refine bind_congr fun r => ?_
      rw [List.foldlM_cons]
      refine bind_congr fun r => ?_
      cases e.item with
      | none => rfl
      | some i => exact (bind_pure (r.item i)).symm
    rw [List.foldlM_cons, List.flatMap_cons, List.foldlM_append, mentioned]
    exact bind_congr ih

/-! ## One mention -/

/-- A mention that is settled is passed over. Any other is asked for once, and afterwards it is
settled if the reply settles it. -/
theorem look_leads (h : (r.look m).exchange.Leads log (.done outcome)) :
    (r.IsSettled m ∧ log = [] ∧ outcome = .ok r) ∨
      (¬ r.IsSettled m ∧ ∃ reply, log = [⟨.within m.request, reply⟩] ∧
        ∀ r', outcome = .ok r' → ∀ m', r'.IsSettled m' ↔
          r.IsSettled m' ∨ (m' = m ∧ m.SettledBy reply)) := by
  have skips {d : Work Resolved} (hd : d = pure r) (h : d.exchange.Leads log (.done outcome)) :
      log = [] ∧ outcome = .ok r := by
    subst hd
    obtain ⟨rfl, hd⟩ := Leads.of_done h
    exact ⟨rfl, Dialogue.done.inj hd⟩
  cases m with
  | account id =>
    by_cases settled : id ∈ r.asked
    · have passed : r.look (.account id) = pure r := if_pos (by simpa using settled)
      exact .inl ⟨settled, skips passed h⟩
    · refine .inr ⟨settled, ?_⟩
      rw [look, account, if_neg (by simpa using settled)] at h
      rcases leads_bind h with ⟨failure, hc, rfl⟩ | ⟨found, xs, ys, rfl, hc, hn⟩
      · obtain ⟨reply, rfl, -⟩ := leads_call hc
        exact ⟨reply, rfl, nofun⟩
      · obtain ⟨reply, rfl, -⟩ := leads_call hc
        have rest : ys = [] ∧ ∀ r', outcome = .ok r' →
            r'.asked = id :: r.asked ∧ r'.items = r.items := by
          cases found <;> obtain ⟨rfl, hd⟩ := Leads.of_done hn <;> cases hd <;>
            exact ⟨rfl, fun r' hr => by cases hr; exact ⟨rfl, rfl⟩⟩
        obtain ⟨rfl, after⟩ := rest
        refine ⟨reply, rfl, fun r' hr m' => ?_⟩
        obtain ⟨asked, items⟩ := after r' hr
        cases m' with
        | account other => simp [IsSettled, asked, Mention.SettledBy, or_comm]
        | item i => simp [IsSettled, items]
  | item i =>
    by_cases settled : (r.items.lookup i).isSome
    · exact .inl ⟨settled, skips (if_pos settled) h⟩
    · refine .inr ⟨settled, ?_⟩
      rw [look, item, if_neg settled] at h
      rcases leads_bind h with ⟨failure, hc, rfl⟩ | ⟨found, xs, ys, rfl, hc, hn⟩
      · obtain ⟨reply, rfl, -⟩ := leads_call hc
        exact ⟨reply, rfl, nofun⟩
      · obtain ⟨reply, rfl, answered⟩ := leads_call hc
        have answered : reply = .ok found := (answered found).mp rfl
        subst answered
        cases found with
        | none =>
          obtain ⟨rfl, hd⟩ := Leads.of_done hn
          cases hd
          refine ⟨_, rfl, fun r' hr m' => ?_⟩
          cases hr
          simp [Mention.SettledBy]
        | some x =>
          obtain ⟨rfl, hd⟩ := Leads.of_done hn
          cases hd
          refine ⟨_, rfl, fun r' hr m' => ?_⟩
          cases hr
          cases m' with
          | account other => simp [IsSettled]
          | item j =>
            by_cases same : j = i
            · subst same
              simp [IsSettled, Mention.SettledBy]
            · simp [IsSettled, same, List.lookup_cons, beq_eq_false_iff_ne.mpr same]

/-! ## All mentions -/

/-- How looking up goes on from a first mention: it is passed over, or it is asked for and that
fails, or it is asked for and the others come after it. -/
theorem foldlM_look_leads (h : ((m :: ms).foldlM look r).exchange.Leads log (.done outcome)) :
    (r.IsSettled m ∧ (ms.foldlM look r).exchange.Leads log (.done outcome)) ∨
      (¬ r.IsSettled m ∧ ∃ reply rest, log = ⟨.within m.request, reply⟩ :: rest ∧
        ((rest = [] ∧ ∀ r', outcome ≠ .ok r') ∨
          ∃ r', (∀ m', r'.IsSettled m' ↔ r.IsSettled m' ∨ (m' = m ∧ m.SettledBy reply)) ∧
            (ms.foldlM look r').exchange.Leads rest (.done outcome))) := by
  rw [List.foldlM_cons] at h
  rcases leads_bind h with ⟨failure, hm, rfl⟩ | ⟨r', xs, ys, rfl, hm, hms⟩
  · rcases look_leads hm with ⟨-, -, ho⟩ | ⟨unsettled, reply, rfl, -⟩
    · cases ho
    · exact .inr ⟨unsettled, reply, [], rfl, .inl ⟨rfl, nofun⟩⟩
  · rcases look_leads hm with ⟨settled, rfl, ho⟩ | ⟨unsettled, reply, rfl, after⟩
    · cases ho
      exact .inl ⟨settled, hms⟩
    · exact .inr ⟨unsettled, reply, ys, rfl, .inr ⟨r', after r' rfl, hms⟩⟩

/-- What is settled is not asked for. -/
theorem timesAsked_of_settled (h : (ms.foldlM look r).exchange.Leads log (.done outcome))
    (settled : r.IsSettled m) : timesAsked m.request log = 0 := by
  induction ms generalizing r log with
  | nil =>
    obtain ⟨rfl, -⟩ := Leads.of_done h
    rfl
  | cons m' ms ih =>
    rcases foldlM_look_leads h with ⟨-, hms⟩ | ⟨unsettled, reply, rest, rfl, hrest⟩
    · exact ih hms settled
    · have other : m' ≠ m := fun he => unsettled (he ▸ settled)
      rw [timesAsked_mention, if_neg other]
      rcases hrest with ⟨rfl, -⟩ | ⟨r', after, hms⟩
      · rfl
      · exact ih hms ((after m).mpr (.inl settled))

/-- After a reply that settles it, a mention is not asked for again. -/
theorem settled_once (h : (ms.foldlM look r).exchange.Leads log (.done outcome))
    {before after : List Exchanged} {reply : m.request.Reply}
    (hl : log = before ++ ⟨.within m.request, reply⟩ :: after) (settles : m.SettledBy reply) :
    timesAsked m.request after = 0 := by
  induction ms generalizing r log before with
  | nil =>
    rw [(Leads.of_done h).1] at hl
    exact absurd hl.symm (List.append_ne_nil_of_right_ne_nil _ (List.cons_ne_nil _ _))
  | cons m' ms ih =>
    rcases foldlM_look_leads h with ⟨-, hms⟩ | ⟨-, reply', rest, rfl, hrest⟩
    · exact ih hms hl
    · cases before with
      | nil =>
        obtain ⟨hx, rfl⟩ := List.cons.inj hl
        obtain rfl : m' = m := Mention.request_inj.mp (Call.within.inj (congrArg Sigma.fst hx))
        cases hx
        rcases hrest with ⟨rfl, -⟩ | ⟨r', settled, hms⟩
        · rfl
        · exact timesAsked_of_settled hms ((settled m').mpr (.inr ⟨rfl, settles⟩))
      | cons x before =>
        obtain ⟨-, rfl⟩ := List.cons.inj hl
        rcases hrest with ⟨hr, -⟩ | ⟨r', -, hms⟩
        · exact absurd hr (List.append_ne_nil_of_right_ne_nil _ (List.cons_ne_nil _ _))
        · exact ih hms rfl

/-- What any reply settles is asked for at most once. -/
theorem timesAsked_le_one (h : (ms.foldlM look r).exchange.Leads log (.done outcome))
    (settles : ∀ reply, m.SettledBy reply) : timesAsked m.request log ≤ 1 := by
  induction ms generalizing r log with
  | nil =>
    obtain ⟨rfl, -⟩ := Leads.of_done h
    exact Nat.zero_le _
  | cons m' ms ih =>
    rcases foldlM_look_leads h with ⟨-, hms⟩ | ⟨-, reply, rest, rfl, hrest⟩
    · exact ih hms
    · rw [timesAsked_mention]
      by_cases same : m' = m
      · subst same
        have never := settled_once h (List.nil_append _).symm (settles reply)
        simp [never]
      · rw [if_neg same]
        rcases hrest with ⟨rfl, -⟩ | ⟨r', -, hms⟩
        · exact Nat.zero_le _
        · exact ih hms

/-- When nothing fails and the replies to a mention all settle it or none does, it is asked for
once or at each time. -/
theorem timesAsked_eq {r' : Resolved}
    (h : (ms.foldlM look r).exchange.Leads log (.done (.ok r'))) {settles : Prop}
    [Decidable settles] (unsettled : ¬ r.IsSettled m)
    (told : ∀ reply, ⟨.within m.request, reply⟩ ∈ log → (m.SettledBy reply ↔ settles)) :
    timesAsked m.request log = if settles then min 1 (ms.count m) else ms.count m := by
  induction ms generalizing r log with
  | nil =>
    obtain ⟨rfl, -⟩ := Leads.of_done h
    simp [timesAsked]
  | cons m' ms ih =>
    rcases foldlM_look_leads h with ⟨settled, hms⟩ | ⟨-, reply, rest, rfl, hrest⟩
    · have other : m' ≠ m := fun he => unsettled (he ▸ settled)
      rw [List.count_cons_of_ne other]
      exact ih hms unsettled told
    · obtain ⟨r₁, after, hms⟩ : ∃ r₁, (∀ m₁, r₁.IsSettled m₁ ↔ r.IsSettled m₁ ∨
          (m₁ = m' ∧ m'.SettledBy reply)) ∧
            (ms.foldlM look r₁).exchange.Leads rest (.done (.ok r')) :=
        hrest.resolve_left fun failed => failed.2 r' rfl
      have told' (reply : m.request.Reply) (hr : ⟨.within m.request, reply⟩ ∈ rest) :
          m.SettledBy reply ↔ settles := told reply (List.mem_cons_of_mem _ hr)
      rw [timesAsked_mention]
      by_cases same : m' = m
      · subst same
        rw [if_pos rfl, List.count_cons_self]
        by_cases hs : settles
        · have settled := (told reply List.mem_cons_self).mpr hs
          rw [timesAsked_of_settled hms ((after m').mpr (.inr ⟨rfl, settled⟩)), if_pos hs]
          omega
        · have open' : ¬ r₁.IsSettled m' := fun hr => ((after m').mp hr).elim unsettled
            fun settled => hs ((told reply List.mem_cons_self).mp settled.2)
          rw [ih hms open' told', if_neg hs, if_neg hs]
      · have open' : ¬ r₁.IsSettled m := fun hr => ((after m).mp hr).elim unsettled
          fun settled => same settled.1.symm
        rw [if_neg same, List.count_cons_of_ne same]
        exact ih hms open' told'

/-- Nothing else is asked for. -/
theorem mem_of_leads (h : (ms.foldlM look r).exchange.Leads log (.done outcome)) :
    ∀ x ∈ log, ∃ m ∈ ms, x.1 = .within m.request := by
  induction ms generalizing r log with
  | nil =>
    rw [(Leads.of_done h).1]
    exact List.forall_mem_nil _
  | cons m' ms ih =>
    have later {rest : List Exchanged} {r' : Resolved}
        (hms : (ms.foldlM look r').exchange.Leads rest (.done outcome)) :
        ∀ x ∈ rest, ∃ m ∈ m' :: ms, x.1 = .within m.request := by
      intro x hx
      obtain ⟨m, hm, he⟩ := ih hms x hx
      exact ⟨m, List.mem_cons_of_mem _ hm, he⟩
    rcases foldlM_look_leads h with ⟨-, hms⟩ | ⟨-, reply, rest, rfl, hrest⟩
    · exact later hms
    · refine List.forall_mem_cons.mpr ⟨⟨m', List.mem_cons_self, rfl⟩, ?_⟩
      rcases hrest with ⟨rfl, -⟩ | ⟨r', -, hms⟩
      · exact List.forall_mem_nil _
      · exact later hms

end Resolved

/-! ## Histories -/

/-- An account is mentioned by the entries on whose sides it is. -/
theorem account_mem_mentions {es : List Entry} {id : AccountId} :
    .account id ∈ es.flatMap Entry.mentions ↔ ∃ e ∈ es, e.involves id = true := by
  have mentioned (e : Entry) : .account id ∈ e.mentions ↔ e.involves id = true := by
    unfold Entry.mentions Entry.involves
    rw [Bool.or_eq_true, beq_iff_eq, beq_iff_eq, List.mem_cons, List.mem_cons]
    cases e.item <;> simp [eq_comm (a := id)]
  simp only [List.mem_flatMap, mentioned]

/-- An item is mentioned once by every entry that refers to it. -/
theorem count_item_mentions (es : List Entry) (i : ItemId) :
    (es.flatMap Entry.mentions).count (.item i) = es.countP (·.item = some i) := by
  induction es with
  | nil => rfl
  | cons e es ih =>
    rw [List.flatMap_cons, List.count_append, ih, List.countP_cons, Nat.add_comm]
    congr 1
    unfold Entry.mentions
    cases e.item with
    | none => simp
    | some j => simp [List.count_cons]

/-- A history asks for the entries of its owner, and then looks up what they mention. -/
theorem loadHistory_leads {owner : Account} {said : List Exchanged}
    {outcome : Except Failure History}
    (h : (loadHistory owner).exchange.Leads said (.done outcome)) :
    ∃ (listing : Request.Reply (.entriesFor owner.id)) (log : List Exchanged),
      said = ⟨.within (.entriesFor owner.id), listing⟩ :: log ∧
        ((log = [] ∧ ∀ es, listing ≠ .ok es) ∨
          ∃ es resolved, listing = .ok es ∧
            ((es.flatMap Entry.mentions).foldlM Resolved.look
              { asked := [owner.id] }).exchange.Leads log (.done resolved) ∧
            ∀ history, outcome = .ok history → ∃ r, resolved = .ok r) := by
  rcases leads_bind h with ⟨failure, hc, rfl⟩ | ⟨es, xs, ys, rfl, hc, hn⟩
  · obtain ⟨listing, rfl, hl⟩ := leads_call hc
    exact ⟨listing, [], rfl, .inl ⟨rfl, fun es he => nomatch (hl es).mpr he⟩⟩
  · obtain ⟨listing, rfl, hl⟩ := leads_call hc
    refine ⟨listing, ys, rfl, .inr ⟨es, ?_⟩⟩
    rw [← Resolved.foldlM_entry]
    rcases leads_bind hn with ⟨failure, hf, rfl⟩ | ⟨r, us, vs, rfl, hf, hd⟩
    · exact ⟨_, (hl es).mp rfl, hf, nofun⟩
    · obtain ⟨rfl, -⟩ := Leads.of_done hd
      rw [List.append_nil]
      exact ⟨_, (hl es).mp rfl, hf, fun _ _ => ⟨r, rfl⟩⟩

/-- Whatever the surroundings reply, a history asks for the entries of its owner first, and then
only for what these mention. It does not ask for the owner, for no other account more than once,
and for no item again that was found. When nothing fails, every other account that an entry is
between is asked for, and so is every item: once when it is found, and at each entry that refers to
it when it is missing. -/
theorem history_lookups {τ : Type} (party : Dialogue.Party Call Call.Reply τ) (t : τ)
    (owner : Account) :
    ∃ (listing : Request.Reply (.entriesFor owner.id)) (log : List Exchanged),
      (loadHistory owner).exchange.transcript party t =
        ⟨.within (.entriesFor owner.id), listing⟩ :: log ∧
      (∀ x ∈ log, ∃ es, listing = .ok es ∧ ∃ m ∈ es.flatMap Entry.mentions,
        x.1 = .within m.request) ∧
      timesAsked (.account owner.id) log = 0 ∧ (∀ id, timesAsked (.account id) log ≤ 1) ∧
      (∀ i x before after, log = before ++ ⟨.within (.item i), .ok (some x)⟩ :: after →
        timesAsked (.item i) after = 0) ∧
      ∀ es history, listing = .ok es →
        ((loadHistory owner).exchange.run party t).1 = .ok history →
        (∀ id, id ≠ owner.id → (∃ e ∈ es, e.involves id = true) →
          timesAsked (.account id) log = 1) ∧
        ∀ i item?, (∀ reply, ⟨.within (.item i), reply⟩ ∈ log → reply = .ok item?) →
          timesAsked (.item i) log = if item?.isSome then min 1 (es.countP (·.item = some i))
            else es.countP (·.item = some i) := by
  generalize hout : ((loadHistory owner).exchange.run party t).1 = outcome
  obtain ⟨listing, log, said, failed | ⟨es, resolved, listed, hn, succeeded⟩⟩ :=
    loadHistory_leads (hout ▸ Dialogue.leads_transcript party _ t)
  · obtain ⟨rfl, unlisted⟩ := failed
    refine ⟨listing, [], said, List.forall_mem_nil _, rfl, fun _ => Nat.zero_le 1, ?_,
      fun es _ he => absurd he (unlisted es)⟩
    intro i x before after hl
    exact absurd hl.symm (List.append_ne_nil_of_right_ne_nil _ (List.cons_ne_nil _ _))
  · refine ⟨listing, log, said, ?_, ?_, ?_, ?_, ?_⟩
    · intro x hx
      exact ⟨es, listed, Resolved.mem_of_leads hn x hx⟩
    · exact Resolved.timesAsked_of_settled (m := .account owner.id) hn List.mem_cons_self
    · intro id
      exact Resolved.timesAsked_le_one (m := .account id) hn fun _ => trivial
    · intro i x before after hl
      exact Resolved.settled_once (m := .item i) hn hl ⟨x, rfl⟩
    · intro es' history listed' hh
      obtain rfl : es = es' := Except.ok.inj (listed.symm.trans listed')
      obtain ⟨r, rfl⟩ := succeeded history hh
      constructor
      · intro id hid mentioned
        have unsettled : ¬ Resolved.IsSettled { asked := [owner.id] } (.account id) :=
          fun hs => hid (List.mem_singleton.mp hs)
        have once := Resolved.timesAsked_eq hn unsettled fun _ _ => (Iff.rfl : True ↔ True)
        have positive : 0 < (es.flatMap Entry.mentions).count (.account id) :=
          List.count_pos_iff.mpr (account_mem_mentions.mpr mentioned)
        rw [if_pos trivial] at once
        show timesAsked (Mention.account id).request log = 1
        omega
      · intro i item? told
        have unsettled : ¬ Resolved.IsSettled { asked := [owner.id] } (.item i) := nofun
        rw [← count_item_mentions]
        refine Resolved.timesAsked_eq hn unsettled fun reply hr => ?_
        rw [told reply hr]
        cases item? <;> simp [Mention.SettledBy]

/-- Two cups were bought. They are asked for once while cups are sold. -/
theorem history_lookups_cups :
    let ann : Account := ⟨1, "ann", "", 10, default⟩
    let cup (id : EntryId) : Entry := ⟨id, 1, 1, 10, .purchase, some 5, ⟨100 * id, 0⟩⟩
    let shop : Books := { accounts := [ann], items := [⟨5, "cup", 10, default⟩] }
    let start : Scripted := { ledger := some [cup 1, cup 2], books := ⟨shop, some shop, default⟩ }
    timesAsked (.item 5) ((loadHistory ann).exchange.transcript Scripted.party start) = 1 := by
  intro ann cup shop start
  obtain ⟨listing, log, said, -, -, -, -, whole⟩ := history_lookups Scripted.party start ann
  have calls : (loadHistory ann).exchange.transcript Scripted.party start =
      [⟨.within (.entriesFor 1), .ok [cup 1, cup 2]⟩,
        ⟨.within (.item 5), .ok (some ⟨5, "cup", 10, default⟩)⟩] := rfl
  obtain ⟨listed, rfl⟩ := List.cons.inj (calls.symm.trans said)
  cases listed
  have once := (whole [cup 1, cup 2] _ rfl rfl).2 5 (some ⟨5, "cup", 10, default⟩)
    fun reply hr => by
      cases List.mem_singleton.mp hr
      rfl
  rw [calls]
  exact once

/-- They are asked for at each purchase once cups are sold no more. -/
theorem history_asks_again :
    let ann : Account := ⟨1, "ann", "", 10, default⟩
    let cup (id : EntryId) : Entry := ⟨id, 1, 1, 10, .purchase, some 5, ⟨100 * id, 0⟩⟩
    let start : Scripted :=
      { ledger := some [cup 1, cup 2], books := ⟨{ accounts := [ann] }, none, default⟩ }
    timesAsked (.item 5) ((Engine.history {} 1).transcript Scripted.party start) = 2 := by
  decide

end Engine

end Scrip
