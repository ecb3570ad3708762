import Mathlib.Data.Finset.Card
import Mathlib.Data.Fintype.Option
import Scrip.Proofs.Concurrency.Orderly
import Scrip.Proofs.Concurrency.Whole
import Scrip.Proofs.Engine.Keeps
import Scrip.Proofs.Ledger.Spending

/-!
# Draining an account

Clients share a storage, and some of them have one account spend the same amount (`Drain`). However
their units are interleaved, as many of them succeed as the balance covers, and all others are told
that it does not (`account_drained`).

* `Command.Spends.works`: what one of them does in its unit, by the books on which it works;
* `Drain.Stage`: who has paid, what is committed, and how everybody goes on;
* `Stage.move`: one unit after another, whoever carries it out and whoever gives up.
-/

namespace Scrip

open Credential
open Shared (OnTheWay Passes)

variable {ι : Type}

/-! ## One of the commands -/

section Works

variable {e : Engine} {b : Books} {id : AccountId} {a : Account} {c : Command} {amount : Int}
  {kind : EntryKind}

/-- How the work of a spending ends: it takes effect, or the balance does not cover the amount. -/
def Command.Ends (e : Engine) (c : Command) (b : Books) (coins amount : Int) :
    Except Failure Entry → Books → Prop
  | .ok entry, b' => Effect e b c (.entry entry) b'
  | .error failure, _ => coins < amount ∧ ∃ detail, failure = .rule (.insufficientFunds detail)

theorem Command.ends_of_decided {α : Type} {coins : Int} {detail : String} {x : α}
    {outcome : Except Failure Entry} {b' : Books}
    (decided : Work.Decided (if coins < amount then .error (.insufficientFunds detail) else .ok x)
      b outcome b')
    (gives : ∀ entry, outcome = .ok entry → Effect e b c (.entry entry) b') :
    c.Ends e b coins amount outcome b' := by
  cases outcome with
  | ok entry => exact gives entry rfl
  | error failure =>
    by_cases poor : coins < amount
    · rw [if_pos poor] at decided
      exact ⟨poor, detail, Except.error.inj decided.1⟩
    · rw [if_neg poor] at decided
      obtain ⟨_, h⟩ := decided
      cases h

/-- An operation that yields an entry goes on no further. -/
def Exchange.noted (outcome : Except Error Entry) : Exchange (Except Error Outcome) :=
  .done (outcome.map .entry)

/-- A spending is one unit, which ends as the balance has it. -/
theorem Command.Spends.works (h : c.Spends b id amount kind) (hb : b.Storable)
    (positive : 0 < amount) (found : b.account? id = some a) (fits : c.Fits b) (e : Engine) :
    ∃ op limit w, e.perform c = inUnit op limit w >>= Exchange.noted ∧
      w.Complies True True b (c.Ends e b a.coins amount) := by
  cases h with
  | @transfer name deadline r there apart =>
    have opened : e.transfer id name amount deadline =
        e.unit .transfer (Engine.moveCoins id (canonicalUsername name) amount) deadline :=
      if_neg (Int.not_le.mpr positive)
    have accepted : NewEntry.transfer? a.id r.id amount =
        .ok ⟨a.id, r.id, amount, .transfer, none⟩ := by
      rw [NewEntry.transfer?, if_neg (Int.not_le.mpr positive), if_neg]
      exact fun he => apart (he.symm.trans (Books.account?_mem found).2)
    have verdict : b.transferable id (canonicalUsername name) amount =
        if a.coins < amount then .error (Engine.tooFewCoins a amount) else .ok (a, r) := by
      simp only [Books.transferable, found, there, accepted, if_neg (Int.not_lt.mpr (fits r there))]
    have gives : (Engine.moveCoins id (canonicalUsername name) amount).Gives b fun entry b' =>
        Effect e b (.transfer id name amount deadline) (.entry entry) b' :=
      Engine.moveCoins_gives hb.keyed e
    refine ⟨_, _, _, congrArg (Engine.perform.wrap .entry) opened, ?_⟩
    refine ((Engine.moveCoins_decides hb ..).and_gives gives).mono fun outcome b' h => ?_
    exact ends_of_decided (verdict ▸ h.1) h.2
  | @purchase name deadline item there price =>
    subst price
    have accepted : NewEntry.purchase? a.id item.price item.id =
        .ok ⟨a.id, a.id, item.price, .purchase, some item.id⟩ :=
      if_neg (Int.not_le.mpr positive)
    have verdict : b.purchasable id name =
        if a.coins < item.price then .error (Engine.tooDear a item) else .ok (a, item) := by
      simp only [Books.purchasable, found, there, accepted]
    have gives : (Engine.buy id name).Gives b fun entry b' =>
        Effect e b (.purchase id name deadline) (.entry entry) b' :=
      Engine.buy_gives hb.keyed e
    refine ⟨_, _, _, rfl, ?_⟩
    refine ((Engine.buy_decides hb ..).and_gives gives).mono fun outcome b' h => ?_
    exact ends_of_decided (verdict ▸ h.1) h.2

end Works

/-! ## Clients that drain an account -/

/-- Clients with a command each, some of which have an account spend the same amount. -/
structure Drain (ι : Type) where
  engine : Engine
  granted : engine.initialBalance ≤ maxCoins
  /-- What is committed when the commands are issued. All that is ever committed can be stored
  (`Troubled.Run.becomes`). -/
  books : Books
  storable : books.Storable
  payer : Account
  found : books.account? payer.id = some payer
  amount : Int
  positive : 0 < amount
  kind : EntryKind
  command : ι → Command
  payers : Finset ι
  spends : ∀ i ∈ payers, (command i).Spends books payer.id amount kind

namespace Drain

/-- The clients when the commands are issued. -/
def start (D : Drain ι) (k : Backend) (applied : Option (Table String)) :
    Shared ι k.State (Except Error Outcome) :=
  { committed := k.hold applied D.books, client := fun i => some (D.engine.perform (D.command i)) }

/-- How often the amount can be paid, of as often as it is asked for. -/
def times (D : Drain ι) : Nat :=
  min D.payers.card (D.payer.coins / D.amount).toNat

/-- The balance when so many have paid. -/
def left (D : Drain ι) (paid : Nat) : Int :=
  D.payer.coins - paid * D.amount

/-- How a client goes on, by who has paid. -/
inductive GoesOn (D : Drain ι) (paid : Finset ι) (i : ι) : Exchange (Except Error Outcome) → Prop
  | other {d : Exchange (Except Error Outcome)} (hi : i ∉ D.payers)
      (steady : d.Resumes (D.engine.Makes (D.command i))) : GoesOn D paid i d
  | waits (hi : i ∈ D.payers) (unpaid : i ∉ paid) :
      GoesOn D paid i (D.engine.perform (D.command i))
  | paid (hi : i ∈ D.payers) (h : i ∈ paid) (x : Entry) : GoesOn D paid i (.done (.ok (.entry x)))
  | refused (hi : i ∈ D.payers) (unpaid : i ∉ paid) (poor : D.left paid.card < D.amount)
      (detail : String) : GoesOn D paid i (.done (.error (.insufficientFunds detail)))
  | late (hi : i ∈ D.payers) (unpaid : i ∉ paid) (label : String) :
      GoesOn D paid i (.done (.error (.timeout label)))

/-- Books are committed from which so many have paid, and everybody goes on accordingly. -/
structure Stage (D : Drain ι) {k : Backend} (applied : Option (Table String))
    (T : Serial ι k.State (Except Error Outcome)) (b : Books) (paid : Finset ι) : Prop where
  storable : b.Storable
  committed : T.committed = k.hold applied b
  continues : D.books.Continues b
  spent : D.books.Spent b D.payer D.kind D.amount paid.card
  among : paid ⊆ D.payers
  clients : ∀ i d, T.client i = some d → D.GoesOn paid i d

variable {D : Drain ι} {k : Backend} {applied : Option (Table String)}
  {T T' : Serial ι k.State (Except Error Outcome)} {b b' : Books} {paid paid' : Finset ι} {i : ι}
  {d : Exchange (Except Error Outcome)}

/-- More payments by others change nothing for a client. -/
theorem GoesOn.mono (h : D.GoesOn paid i d) (hi : i ∈ paid' ↔ i ∈ paid)
    (hle : paid.card ≤ paid'.card) : D.GoesOn paid' i d := by
  cases h with
  | other hi steady => exact .other hi steady
  | waits among unpaid => exact .waits among (mt hi.mp unpaid)
  | paid among h x => exact .paid among (hi.mpr h) x
  | refused among unpaid poor detail =>
    refine .refused among (mt hi.mp unpaid) (lt_of_le_of_lt ?_ poor) detail
    exact Int.sub_le_sub_left
      (Int.mul_le_mul_of_nonneg_right (Int.ofNat_le.mpr hle) D.positive.le) _
  | late among unpaid label => exact .late among (mt hi.mp unpaid) label

/-- A payer that is not done is still to begin. -/
theorem GoesOn.waiting (h : D.GoesOn paid i d) (hi : i ∈ D.payers) (hd : ∀ a, d ≠ .done a) :
    d = D.engine.perform (D.command i) ∧ i ∉ paid := by
  cases h with
  | other hn => exact absurd hi hn
  | waits _ unpaid => exact ⟨rfl, unpaid⟩
  | paid | refused | late => exact absurd rfl (hd _)

theorem GoesOn.resumes (h : D.GoesOn paid i d) (hi : i ∉ D.payers) :
    d.Resumes (D.engine.Makes (D.command i)) := by
  cases h with
  | other _ steady => exact steady
  | waits among | paid among | refused among | late among => exact absurd among hi

/-- What a payer is told: that it has paid, or that too little is left. -/
inductive Told (D : Drain ι) (paid : Finset ι) (i : ι) : Except Error Outcome → Prop
  | paid (h : i ∈ paid) (x : Entry) : Told D paid i (.ok (.entry x))
  | refused (unpaid : i ∉ paid) (poor : D.left paid.card < D.amount) (detail : String) :
      Told D paid i (.error (.insufficientFunds detail))

theorem Told.isOk_iff {answer : Except Error Outcome} (h : D.Told paid i answer) :
    answer.isOk = true ↔ i ∈ paid := by
  cases h with
  | paid h => exact iff_of_true rfl h
  | refused unpaid => exact iff_of_false Bool.false_ne_true unpaid

namespace Stage

theorem start (D : Drain ι) (k : Backend) (applied : Option (Table String)) :
    D.Stage applied ⟨(D.start k applied).committed, (D.start k applied).client⟩ D.books ∅ where
  storable := D.storable
  committed := rfl
  continues := .refl _
  spent := .start D.found
  among := Finset.empty_subset _
  clients i d hd := by
    cases hd
    by_cases hi : i ∈ D.payers
    · exact .waits hi (Finset.notMem_empty i)
    · exact .other hi (D.engine.perform_steady D.granted fun _ _ => id).resumes

/-- What a payer does in its unit. -/
theorem works (h : D.Stage applied T b paid) (hi : i ∈ D.payers) (fits : (D.command i).Fits b) :
    ∃ op limit w, D.engine.perform (D.command i) = inUnit op limit w >>= Exchange.noted ∧
      w.Complies True True b
        ((D.command i).Ends D.engine b (D.left paid.card) D.amount) :=
  ((D.spends i hi).mono h.continues).works h.storable D.positive h.spent.account fits D.engine

/-- What is left is never below zero. -/
theorem left_nonneg (h : D.Stage applied T b paid) : 0 ≤ D.left paid.card :=
  (h.storable.bounded _ (Books.account?_mem h.spent.account).1).1

variable [DecidableEq ι]

/-- One client goes on, and others have paid no more than before. -/
theorem update (h : D.Stage applied T b paid) {s : k.State} {next : Option (Exchange _)}
    (storable : b'.Storable) (committed : s = k.hold applied b') (continues : b.Continues b')
    (spent : D.books.Spent b' D.payer D.kind D.amount paid'.card) (among : paid' ⊆ D.payers)
    (hle : paid.card ≤ paid'.card) (others : ∀ j ≠ i, j ∈ paid' ↔ j ∈ paid)
    (own : ∀ d ∈ next, D.GoesOn paid' i d) :
    D.Stage applied ⟨s, Function.update T.client i next⟩ b' paid' :=
  ⟨storable, committed, h.continues.trans continues, spent, among,
    Serial.forall_update own fun j hj d hd => (h.clients j d hd).mono (others j hj) hle⟩

/-- One client goes on, and nothing else happens. -/
theorem goesOn (h : D.Stage applied T b paid) {s : k.State} {next : Option (Exchange _)}
    (committed : s = k.hold applied b) (own : ∀ d ∈ next, D.GoesOn paid i d) :
    D.Stage applied ⟨s, Function.update T.client i next⟩ b paid :=
  h.update h.storable committed (.refl b) h.spent h.among le_rfl (fun _ _ => Iff.rfl) own

/-- A payer carries out its unit. -/
theorem pays (h : D.Stage applied T b paid) {x : Episode ι (Except Error Outcome)} {s : k.State}
    (hx : x.Alone k.keeper T.committed s) (hc : T.client x.client = some x.opening)
    (hi : x.client ∈ D.payers) (fits : (D.command x.client).Fits b) :
    ∃ b' paid', D.Stage applied ⟨s, Function.update T.client x.client x.closing⟩ b' paid' := by
  obtain ⟨ho, unpaid⟩ := (h.clients _ _ hc).waiting hi hx.opening_ne_done
  obtain ⟨op, limit, w, performs, complies⟩ := h.works hi fits
  rw [h.committed] at hx
  cases hx.went (ho.trans performs) h.storable complies with
  | @commits entry c _ hc ends closing =>
    refine ⟨c, insert x.client paid, h.update hc rfl (Effect.continues ends) ?_
      (Finset.insert_subset hi h.among) ?_ (fun j hj => ?_) ?_⟩
    · rw [Finset.card_insert_of_notMem unpaid]
      exact h.spent.again ends ((D.spends _ hi).mono h.continues)
    · exact Finset.card_le_card (Finset.subset_insert _ _)
    · exact Finset.mem_insert.trans (or_iff_right hj)
    · rw [closing]
      rintro _ ⟨⟩
      exact .paid hi (Finset.mem_insert_self _ _) entry
  | rollsBack ends closing =>
    obtain ⟨poor, detail, rfl⟩ := ends
    refine ⟨b, paid, h.goesOn rfl ?_⟩
    rw [closing]
    rintro _ ⟨⟩
    exact .refused hi unpaid poor detail
  | late closing =>
    refine ⟨b, paid, h.goesOn rfl ?_⟩
    rw [closing]
    rintro _ ⟨⟩
    exact .late hi unpaid _
  | leaves closing =>
    refine ⟨b, paid, h.goesOn rfl ?_⟩
    rw [closing]
    exact nofun

/-- Another client carries out a unit, which leaves the balance as it was. -/
theorem passes (h : D.Stage applied T b paid) {x : Episode ι (Except Error Outcome)} {s : k.State}
    (hx : x.Alone k.keeper T.committed s) (hc : T.client x.client = some x.opening)
    (hi : x.client ∉ D.payers)
    (spared : x.ending = .committed → ∀ b', Books.Storable b' → s = k.hold applied b' →
      (b'.account? D.payer.id).map (·.coins) = (b.account? D.payer.id).map (·.coins)) :
    ∃ b', D.Stage applied ⟨s, Function.update T.client x.client x.closing⟩ b' paid := by
  rw [h.committed] at hx
  obtain ⟨b', hb', hs, made, closing⟩ := hx.steady h.storable ((h.clients _ _ hc).resumes hi)
  have own : ∀ d ∈ x.closing, D.GoesOn paid x.client d := fun d hd => .other hi (closing d hd)
  rcases made with rfl | ⟨ending, rfl | ⟨o, he⟩⟩
  · exact ⟨b', h.goesOn hs own⟩
  · exact ⟨b', h.goesOn hs own⟩
  · exact ⟨b', h.update hb' hs he.continues (h.spent.aside he (spared ending b' hb' hs)) h.among
      le_rfl (fun _ _ => Iff.rfl) own⟩

/-- One move of any client. -/
theorem move (h : D.Stage applied T b paid) {move : Move ι (Except Error Outcome)}
    (hs : Serial.Step k.keeper T move T') (fits : ∀ i ∈ D.payers, (D.command i).Fits b)
    (spared : ∀ x, move = .unit x → x.client ∉ D.payers → x.ending = .committed →
      ∀ b', Books.Storable b' → T'.committed = k.hold applied b' →
        (b'.account? D.payer.id).map (·.coins) = (b.account? D.payer.id).map (·.coins)) :
    ∃ b' paid', D.Stage applied T' b' paid' := by
  cases hs with
  | @unit x s hc hx =>
    by_cases hi : x.client ∈ D.payers
    · exact h.pays hx hc hi (fits _ hi)
    · obtain ⟨b', h'⟩ := h.passes hx hc hi (spared x rfl hi)
      exact ⟨b', paid, h'⟩
  | @expires i c next reply hc hr =>
    refine ⟨b, paid, h.goesOn h.committed ?_⟩
    rintro _ ⟨⟩
    by_cases hi : i ∈ D.payers
    · obtain ⟨ho, unpaid⟩ := (h.clients _ _ hc).waiting hi nofun
      obtain ⟨op, limit, w, performs, -⟩ := h.works hi (fits _ hi)
      rw [performs, inUnit_bind] at ho
      cases ho
      cases hr
      exact .late hi unpaid _
    · exact .other hi (((h.clients _ _ hc).resumes hi).expires hr)
  | leaves hc => exact ⟨b, paid, h.goesOn h.committed nofun⟩

omit [DecidableEq ι] in
/-- A payer that is done is not inside a unit. -/
theorem outside (h : D.Stage applied T b paid) {S : Shared ι k.State (Except Error Outcome)}
    (hm : Mirrors k.keeper T S) (hi : i ∈ D.payers) (fits : (D.command i).Fits b)
    {a : Except Error Outcome} (hd : S.client i = some (.done a)) :
    T.client i = some (.done a) := by
  by_cases hl : S.lock = some i
  · obtain ⟨_, next, clock, copy, hT, hr, -⟩ := hm.opened hl hd
    obtain ⟨ho, -⟩ := (h.clients _ _ hT).waiting hi nofun
    obtain ⟨op, limit, w, performs, complies⟩ := h.works hi fits
    rw [performs, inUnit_bind] at ho
    cases ho
    rw [h.committed] at hr
    obtain ⟨c, -, -, inside⟩ := requests_inUnit h.storable complies hr
    cases inside
  · exact (hm.outside i hl).1.trans hd

omit [DecidableEq ι] in
/-- A payer that no deadline kept from it is told whether it has paid. -/
theorem told (h : D.Stage applied T b paid) (hi : i ∈ D.payers) (fits : (D.command i).Fits b)
    {answer : Except Error Outcome} (settled : T.client i = some (.done answer))
    (timely : ∀ label, answer ≠ .error (.timeout label)) : D.Told paid i answer := by
  have goesOn := h.clients i _ settled
  generalize hd : Dialogue.done answer = d at goesOn
  cases goesOn with
  | other hn => exact absurd hi hn
  | waits =>
    obtain ⟨_, _, _, performs, -⟩ := h.works hi fits
    rw [performs, inUnit_bind] at hd
    cases hd
  | paid _ h x =>
    cases hd
    exact .paid h x
  | refused _ unpaid poor detail =>
    cases hd
    exact .refused unpaid poor detail
  | late _ _ label => exact absurd (Dialogue.done.inj hd) (timely label)

/-- When nobody is left that could pay, the balance was covered for as many as have paid. -/
theorem card_eq (h : D.Stage applied T b paid)
    (poor : ∀ i ∈ D.payers, i ∉ paid → D.left paid.card < D.amount) : paid.card = D.times := by
  have le : paid.card ≤ D.payers.card := Finset.card_le_card h.among
  have covered : (paid.card : Int) ≤ D.payer.coins / D.amount := by
    have := h.left_nonneg
    refine (Int.le_ediv_iff_mul_le D.positive).mpr ?_
    unfold left at this
    omega
  by_cases hall : D.payers ⊆ paid
  · have same : paid.card = D.payers.card := le_antisymm le (Finset.card_le_card hall)
    unfold times
    omega
  · obtain ⟨i, hi, unpaid⟩ := Finset.not_subset.mp hall
    have last : D.payer.coins / D.amount < paid.card + 1 := by
      have := poor i hi unpaid
      refine (Int.ediv_lt_iff_lt_mul D.positive).mpr ?_
      unfold left at this
      rw [Int.add_mul, Int.one_mul]
      omega
    unfold times
    omega

end Stage

end Drain

/-! ## Whole runs -/

/-- Terms that leave everything open but whether deadlines may pass. -/
def Terms.free (late : Prop) : Terms where
  listing := True
  expires := late
  rely _ _ := True
  commits _ _ := True

theorem Terms.free_sound {late : Prop} : (Terms.free late).Sound :=
  ⟨fun _ _ => trivial, fun _ => trivial⟩

namespace Drain

variable [DecidableEq ι] {k : Backend}

/-- Whoever is to receive coins has room for them at every moment on the way. -/
def Fitting (D : Drain ι) (applied : Option (Table String))
    (S : Shared ι k.State (Except Error Outcome)) : Prop :=
  ∀ S₁ b, OnTheWay k.keeper (D.start k applied) S S₁ → b.Storable →
    S₁.committed = k.hold applied b → ∀ i ∈ D.payers, (D.command i).Fits b

/-- What others commit on the way neither takes from the balance nor adds to it. -/
def Sparing (D : Drain ι) (applied : Option (Table String))
    (S : Shared ι k.State (Except Error Outcome)) : Prop :=
  ∀ S₁ i S₂ b b', Passes k.keeper (D.start k applied) S S₁ (some (i, .committed)) S₂ →
    i ∉ D.payers → b.Storable → S₁.committed = k.hold applied b → b'.Storable →
    S₂.committed = k.hold applied b' →
      (b'.account? D.payer.id).map (·.coins) = (b.account? D.payer.id).map (·.coins)

theorem Stage.of_run {D : Drain ι} {applied : Option (Table String)} {log : List (ι × Ending)}
    {S : Shared ι k.State (Except Error Outcome)}
    (run : Shared.Run k.keeper (D.start k applied) log S) (fits : D.Fitting applied S)
    (spared : D.Sparing applied S) :
    ∃ T, Mirrors k.keeper T S ∧ ∃ b paid, D.Stage applied T b paid := by
  refine run.mirrored_on (.start ..) ⟨D.books, ∅, .start D k applied⟩ ?_
  rintro S₁ ended S₂ T move T' passes hT hT' hs ends ⟨b, paid, stage⟩
  have committed : S₁.committed = k.hold applied b := hT.committed.symm.trans stage.committed
  refine stage.move hs (fits S₁ b passes.onTheWay stage.storable committed) ?_
  rintro x rfl hi ending b' hb' hc
  have ends : ended = some (x.client, .committed) := by
    rw [← ends, ← ending]
    rfl
  exact spared S₁ x.client S₂ b b' (ends ▸ passes) hi stage.storable committed hb'
    (hT'.committed.symm.trans hc)

/-- All that is committed on the way is what the commands made of it. -/
theorem reached {D : Drain ι} {applied : Option (Table String)} {log : List (ι × Ending)}
    {S : Shared ι k.State (Except Error Outcome)}
    (run : Shared.Run k.keeper (D.start k applied) log S) {P : Books → Prop} (start : P D.books)
    (kept : ∀ i b o b', b.Storable → P b → Effect D.engine b (D.command i) o b' → P b') :
    ∃ T, Mirrors k.keeper T S ∧
      ∃ b, T.Steady (fun i => D.engine.Makes (D.command i)) applied b ∧ P b := by
  have begins : Serial.Steady (fun i => D.engine.Makes (D.command i)) applied
      ⟨(D.start k applied).committed, (D.start k applied).client⟩ D.books := by
    refine ⟨D.storable, rfl, fun i d hd => ?_⟩
    cases hd
    exact (D.engine.perform_steady D.granted fun _ _ => id).resumes
  refine run.mirrored_on (.start ..) ⟨_, begins, start⟩
    fun _ _ _ _ _ _ _ _ _ hs _ ⟨b, steady, hP⟩ => ?_
  obtain ⟨b', steady', rfl | ⟨x, -, rfl | ⟨o, he⟩⟩⟩ := steady.move hs
  · exact ⟨b', steady', hP⟩
  · exact ⟨b', steady', hP⟩
  · exact ⟨b', steady', kept _ b o b' steady.storable hP he⟩

/-- Others spare the account if none of their commands moves coins from it or to it. -/
theorem sparing {D : Drain ι} (applied : Option (Table String))
    {S : Shared ι k.State (Except Error Outcome)}
    (shuns : ∀ i ∉ D.payers, (D.command i).Shuns D.payer) : D.Sparing applied S := by
  intro S₁ i S₂ b b' passes hi hb hc hb' hc'
  obtain ⟨log, run⟩ := passes.before
  obtain ⟨T, hT, c, steady, continues⟩ := reached run (P := D.books.Continues) (.refl _)
    fun _ _ _ _ _ h he => h.trans he.continues
  -- What is committed are those books, as far as accounts go.
  have before := Backend.account?_congr hb steady.storable
    (hc.symm.trans (hT.committed.symm.trans steady.committed)) D.payer.id
  rcases hT.step passes.step with ⟨ends, -⟩ | ⟨move, T', hs, ends, hT'⟩
  · cases ends
  obtain ⟨c', steady', made⟩ := steady.move hs
  have after := Backend.account?_congr hb' steady'.storable
    (hc'.symm.trans (hT'.committed.symm.trans steady'.committed)) D.payer.id
  rw [before, after]
  rcases made with rfl | ⟨x, rfl, rfl | ⟨o, he⟩⟩
  · rfl
  · rfl
  · obtain ⟨rfl, -⟩ : x.client = i ∧ _ := Prod.mk.inj (Option.some.inj ends)
    obtain ⟨a, ha, remains⟩ := continues.account? D.found
    rw [ha, he.shuns steady.storable.keyed (shuns _ hi) ha remains.username]

/-- There is room for the amount on every account if all balances together leave that much, and
nobody registers. -/
theorem fitting {D : Drain ι} (applied : Option (Table String))
    {S : Shared ι k.State (Except Error Outcome)} (closed : ∀ i, (D.command i).registers? = none)
    (room : D.books.balances + D.amount ≤ maxCoins) : D.Fitting applied S := by
  rintro S₁ b ⟨⟨log, run⟩, -⟩ hb hc i hi
  obtain ⟨T, hT, c, steady, le⟩ := reached run (P := fun c => c.balances ≤ D.books.balances) le_rfl
    fun i _ _ _ hb h he => (he.balances_le hb.keyed (closed i)).trans h
  refine (D.spends i hi).fits fun a ha => ?_
  have found := hb.keyed.account?_eq ha
  rw [Backend.account?_congr hb steady.storable
    (hc.symm.trans (hT.committed.symm.trans steady.committed))] at found
  have least := steady.storable.coins_le_balances (Books.account?_mem found).1
  omega

/-- Nobody whose deadline does not pass is told of a timeout. -/
theorem timely {D : Drain ι} {applied : Option (Table String)} {late : ι → Prop}
    {log : List (ι × Ending)} {S : Shared ι k.State (Except Error Outcome)}
    (run : Shared.TimedRun k.keeper late (D.start k applied) log S) {i : ι} (punctual : ¬ late i)
    {answer : Except Error Outcome} (settled : S.client i = some (.done answer)) (label : String) :
    answer ≠ .error (.timeout label) := by
  have start : Shared.Orderly (fun i => .free (late i)) applied
      (fun i answer _ => ∀ label, answer = .error (.timeout label) → late i)
      (D.start k applied) D.books := by
    refine .start D.storable rfl (fun _ => trivial) fun i d hd => ?_
    cases hd
    refine (Engine.perform_keeps Terms.free_sound D.granted (D.command i) (fun _ => trivial)
      fun _ _ _ _ _ => trivial).mono fun answer b' told label h => ?_
    cases told with
    | value => cases h
    | refused _ business =>
      cases h
      cases business
    | expired _ hx => exact hx
  obtain ⟨b, orderly⟩ := run.orderly (fun _ => id) start
    fun _ _ _ _ _ _ _ _ => ⟨fun _ => trivial, fun _ _ _ _ => trivial⟩
  obtain ⟨-, h, -⟩ := orderly.ended settled
  exact fun late => punctual (h label late)

end Drain

/-- Clients issue spendings of the same amount from one account, which are settled in any order,
with other operations in between that neither debit nor credit it. As many succeed as the balance
covers, and all others are refused for want of funds. The account has paid for those that succeeded
and for no other, and has an entry of each. No deadline of theirs passes; those of others may. -/
theorem account_drained [DecidableEq ι] (D : Drain ι) {k : Backend}
    {applied : Option (Table String)} {late : ι → Prop} {log : List (ι × Ending)}
    {S : Shared ι k.State (Except Error Outcome)}
    (run : Shared.TimedRun k.keeper late (D.start k applied) log S)
    (punctual : ∀ i ∈ D.payers, ¬ late i) (fits : D.Fitting applied S)
    (spared : D.Sparing applied S) {answer : ι → Except Error Outcome}
    (settled : ∀ i ∈ D.payers, S.client i = some (.done (answer i))) :
    (D.payers.filter fun i => (answer i).isOk).card = D.times ∧
    (∀ i ∈ D.payers, (answer i).isOk = false →
      ∃ detail, answer i = .error (.insufficientFunds detail)) ∧
    ∃ b : Books, b.Storable ∧ S.committed = k.hold applied b ∧
      D.books.Spent b D.payer D.kind D.amount D.times := by
  obtain ⟨T, hT, b, paid, stage⟩ := Drain.Stage.of_run run.run fits spared
  have committed : S.committed = k.hold applied b := hT.committed.symm.trans stage.committed
  have room := fits S b ⟨⟨_, run.run⟩, _, .refl⟩ stage.storable committed
  have told (i : ι) (hi : i ∈ D.payers) : D.Told paid i (answer i) :=
    stage.told hi (room i hi) (stage.outside hT hi (room i hi) (settled i hi))
      (D.timely run (punctual i hi) (settled i hi))
  have count : paid.card = D.times := stage.card_eq fun i hi unpaid => by
    have h := told i hi
    generalize answer i = a at h
    cases h with
    | paid h => exact absurd h unpaid
    | refused _ poor => exact poor
  have succeeded : (D.payers.filter fun i => (answer i).isOk) = paid := by
    ext i
    rw [Finset.mem_filter]
    exact ⟨fun ⟨hi, ok⟩ => (told i hi).isOk_iff.mp ok,
      fun h => ⟨stage.among h, (told i (stage.among h)).isOk_iff.mpr h⟩⟩
  refine ⟨succeeded ▸ count, fun i hi failed => ?_, b, stage.storable, committed,
    count ▸ stage.spent⟩
  have h := told i hi
  generalize answer i = a at h failed ⊢
  cases h with
  | paid => cases failed
  | refused _ _ detail => exact ⟨detail, rfl⟩

/-- All clients can go on to their ends in turn, without any deadline. -/
theorem Drain.exists_settled [DecidableEq ι] [Fintype ι] (D : Drain ι) (k : Backend)
    (applied : Option (Table String)) : ∃ log S, ∃ answer : ι → Except Error Outcome,
      Shared.TimedRun k.keeper (fun _ => False) (D.start k applied) log S ∧
        ∀ i, S.client i = some (.done (answer i)) := by
  have start : Shared.Orderly (fun _ => .free False) applied (fun _ _ _ => True)
      (D.start k applied) D.books :=
    .start D.storable rfl (fun _ => trivial) fun i d hd => Option.some.inj hd ▸
      (Engine.perform_keeps Terms.free_sound D.granted (D.command i) (fun _ => trivial)
        fun _ _ _ _ _ => trivial).mono fun _ _ _ => trivial
  obtain ⟨log, S, -, run, -, -, done, -⟩ := start.exists_ends
    (fun _ _ _ _ => ⟨fun _ => trivial, fun _ _ _ _ => trivial⟩) Finset.univ.toList rfl
    fun i => ⟨_, rfl⟩
  choose answer settled using fun i => done i (Finset.mem_toList.mpr (Finset.mem_univ i))
  exact ⟨log, S, answer, run, settled⟩

/-- Two purchases of a cup, of which the balance covers one, and a look at what is on offer. -/
def cupsWanted (e : Engine) (granted : e.initialBalance ≤ maxCoins) : Drain (Option Bool) where
  engine := e
  granted := granted
  books :=
    { accounts := [⟨1, "alice", "", 30, default⟩]
      items := [⟨1, "cup", 20, default⟩]
      sequences := { account := 1, item := 1 } }
  storable := ⟨⟨List.nodup_singleton _, by decide⟩, by decide, .nil, nofun⟩
  payer := ⟨1, "alice", "", 30, default⟩
  found := rfl
  amount := 20
  positive := by decide
  kind := .purchase
  command
    | some _ => .purchase 1 "cup" none
    | none => .catalog
  payers := {some false, some true}
  spends i hi := by
    cases i with
    | none => exact absurd hi (by decide)
    | some _ => exact .purchase rfl rfl

/-- Somebody with some coins, and two others with fewer. -/
def giftBooks : Books where
  accounts := [⟨1, "alice", "", 30, default⟩, ⟨2, "bob", "", 5, default⟩,
    ⟨3, "carol", "", 0, default⟩]
  sequences := { account := 3 }

/-- Coins for the two others, of which the balance covers those for one, and coins from one of them
to the other. -/
def giftsWanted (e : Engine) (granted : e.initialBalance ≤ maxCoins) : Drain (Option Bool) where
  engine := e
  granted := granted
  books := giftBooks
  storable := ⟨⟨by decide, by decide⟩, by decide, .nil, nofun⟩
  payer := ⟨1, "alice", "", 30, default⟩
  found := rfl
  amount := 20
  positive := by decide
  kind := .transfer
  command
    | some true => .transfer 1 "bob" 20 none
    | some false => .transfer 1 "carol" 20 none
    | none => .transfer 2 "carol" 5 none
  payers := {some false, some true}
  spends i hi := by
    match i with
    | none => exact absurd hi (by decide)
    | some true =>
      have there : giftBooks.accountByName? (canonicalUsername "bob") =
          some ⟨2, "bob", "", 5, default⟩ := by
        decide +kernel
      exact .transfer there (by decide)
    | some false =>
      have there : giftBooks.accountByName? (canonicalUsername "carol") =
          some ⟨3, "carol", "", 0, default⟩ := by
        decide +kernel
      exact .transfer there (by decide)

/-- The cups and the gifts: one of two is paid for, whichever comes first. -/
theorem account_drained_once :
    let drained (D : Drain (Option Bool)) : Prop :=
      D.times = 1 ∧ ∃ log S, ∃ answer : Option Bool → Except Error Outcome,
        Shared.TimedRun Backend.tables.keeper (fun _ => False) (D.start .tables none) log S ∧
        D.Fitting none S ∧ D.Sparing none S ∧
        (∀ i ∈ D.payers, S.client i = some (.done (answer i))) ∧
        (D.payers.filter fun i => (answer i).isOk).card = D.times ∧
        (∀ i ∈ D.payers, (answer i).isOk = false →
          ∃ detail, answer i = .error (.insufficientFunds detail)) ∧
        ∃ b : Books, b.Storable ∧ S.committed = Backend.tables.hold none b ∧
          D.books.Spent b D.payer D.kind D.amount D.times
    drained (cupsWanted {} (show defaultGrant ≤ maxCoins by decide)) ∧
      drained (giftsWanted {} (show defaultGrant ≤ maxCoins by decide)) := by
  intro drained
  have settles (D : Drain (Option Bool)) (once : D.times = 1)
      (closed : ∀ i, (D.command i).registers? = none)
      (room : D.books.balances + D.amount ≤ maxCoins)
      (shuns : ∀ i ∉ D.payers, (D.command i).Shuns D.payer) : drained D := by
    obtain ⟨log, S, answer, run, settled⟩ := D.exists_settled .tables none
    have fits : D.Fitting none S := D.fitting none closed room
    have spared : D.Sparing none S := D.sparing none shuns
    have settled : ∀ i ∈ D.payers, S.client i = some (.done (answer i)) := fun i _ => settled i
    exact ⟨once, log, S, answer, run, fits, spared, settled,
      account_drained D run (fun _ _ => id) fits spared settled⟩
  constructor
  · refine settles _ (by decide) (fun i => ?_) (by decide) fun i hi => ?_
    · cases i <;> rfl
    · cases i with
      | none => exact trivial
      | some first => cases first <;> exact absurd (by decide) hi
  · refine settles _ (by decide) (fun i => ?_) (by decide) fun i hi => ?_
    · match i with
      | none | some false | some true => rfl
    · match i with
      | none => exact ⟨by decide, by decide +kernel⟩
      | some false | some true => exact absurd (by decide) hi

end Scrip
