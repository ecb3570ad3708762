import Scrip.Proofs.Engine.Names
import Scrip.Proofs.Framework.Alone
import Scrip.Proofs.Ledger.Catalog

/-!
# What is made and what is refused

An account and an item are made in the same way (`Work.unlessTaken`): the name is looked for, and
where it is not found the store still refuses a record of a name that is taken. Either way the
answer is the same, and it is the first that applies of those in `Books.RegisterEnds` and
`Books.OfferEnds` (`creation_exact`).

* `Books.registered`, `Books.offered`: how it ends and what the books are then, to the reading of
  the clock;
* `register_ends`, `addItem_ends`: on a store, whether or not its searches find anything.
-/

namespace Scrip

open Backend (keeper_ok keeper_conflict)
open Credential Work
open Crypt (Salt)

variable {σ α β : Type}

/-! ## Records of a name -/

/-- Adds a record, unless one of its name is found or the store finds the name taken. -/
def Work.unlessTaken (look : Work (Option β)) (insert : Work (Except StoreError β))
    (taken : Error) : Work β := do
  if (← look).isSome then refuse taken
  match ← insert with
  | .ok inserted => pure inserted
  | .error (.conflict _) => refuse taken
  | .error e => throw (.store e)

theorem Engine.insertNew_eq (new : NewAccount) :
    insertNew new = unlessTaken (call (.accountByName new.username))
      (attempt (.insertAccount new)) (.accountAlreadyExists new.username) := by
  unfold insertNew unlessTaken
  refine bind_congr fun found => ?_
  cases found with
  | some a => rfl
  | none =>
    refine bind_congr fun reply => ?_
    rcases reply with failure | a
    · cases failure <;> rfl
    · rfl

theorem Engine.insertNewItem_eq (new : NewItem) :
    insertNewItem new = unlessTaken (call (.itemByName new.name)) (attempt (.insertItem new))
      (.itemAlreadyExists new.name) := by
  unfold insertNewItem unlessTaken
  refine bind_congr fun found => ?_
  cases found with
  | some i => rfl
  | none =>
    refine bind_congr fun reply => ?_
    rcases reply with failure | i
    · cases failure <;> rfl
    · rfl

namespace Keeper.Ends

variable {keeper : Keeper σ} {clock : Nat → Instant} {x x' : σ} {n n' : Nat}
  {look : Work (Option β)} {insert : Work (Except StoreError β)} {taken : Error}
  {op : Operation} {limit : Option Nat}

/-- A record of a name that is free is made. -/
theorem unlessTaken_free {inserted : β} (looks : keeper.Does clock look x n (.ok none) x n)
    (inserts : keeper.Does clock insert x n (.ok (.ok inserted)) x' n') :
    keeper.Ends clock (inUnit op limit (unlessTaken look insert taken)) x n (.ok inserted) x' n' :=
  .unit_ok (looks.bind (inserts.bind (.pure inserted)))

/-- A record of a name that is taken is refused and nothing changes, whether the search finds the
other one or the store finds the name taken. -/
theorem unlessTaken_taken {found : Option β}
    (looks : keeper.Does clock look x n (.ok found) x n)
    (conflicts : found = none → ∃ detail,
      keeper.Does clock insert x n (.ok (.error (.conflict detail))) x n') :
    ∃ n', keeper.Ends clock (inUnit op limit (unlessTaken look insert taken)) x n
      (.error taken) x n' := by
  cases found with
  | some => exact ⟨n, .unit_refused (looks.bind (.throw _))⟩
  | none =>
    obtain ⟨detail, refused⟩ := conflicts rfl
    exact ⟨n', .unit_refused (looks.bind (refused.bind (.throw _)))⟩

end Keeper.Ends

/-- A keeper of which the searches by name find nothing. -/
def Keeper.overlooking (keeper : Keeper σ) : Keeper σ := fun now x r =>
  match r with
  | .accountByName _ | .itemByName _ => .ok (none, x)
  | r => keeper now x r

/-! ## How it ends -/

/-- How it ends to register, and the books then. -/
def Books.registered (e : Engine) (b : Books) (username password : String) (salt : Salt)
    (now : Instant) : Except Error Account × Books :=
  match e.newAccount? username password salt with
  | .error refusal => (.error refusal, b)
  | .ok new =>
    if (b.accountByName? new.username).isSome then
      (.error (.accountAlreadyExists new.username), b)
    else
      let a := new.toAccount (b.sequences.account + 1) now
      (.ok a, b.withAccount a)

/-- How it ends to offer an item, and the books then. -/
def Books.offered (b : Books) (name : String) (price : Int) (now : Instant) :
    Except Error Item × Books :=
  match NewItem.of? name price with
  | .error refusal => (.error refusal, b)
  | .ok new =>
    if (b.itemByName? new.name).isSome then (.error (.itemAlreadyExists new.name), b)
    else
      let i := new.toItem (b.sequences.item + 1) now
      (.ok i, b.withItem i)

namespace Engine

variable {e : Engine} {k : Backend} (applied : Option (Table String)) {b : Books}
  {keeper : Keeper k.State}

/-- On a store, whether or not its searches find anything. -/
theorem register_ends (hm : e.initialBalance ≤ maxCoins) (storable : b.Storable)
    (hk : keeper = k.keeper ∨ keeper = k.keeper.overlooking) (username password : String)
    (salt : Salt) (clock : Nat → Instant) (n : Nat) :
    ∃ n', keeper.Ends clock (e.register username password salt) (k.hold applied b) n
      (b.registered e username password salt (clock n).shown).1
      (k.hold applied (b.registered e username password salt (clock n).shown).2) n' := by
  unfold Books.registered
  cases accepted : e.newAccount? username password salt with
  | error refusal =>
    unfold register
    simp only [accepted]
    exact ⟨n, .done _⟩
  | ok new =>
    obtain ⟨-, -, -, coins⟩ := newAccount?_eq_ok accepted
    have respects : b.Respects (.insertAccount new) :=
      ⟨coins ▸ e.initialBalance_nonneg, coins ▸ hm⟩
    obtain ⟨found, looks, known⟩ : ∃ found,
        keeper (clock n) (k.hold applied b) (.accountByName new.username) =
          .ok (found, k.hold applied b) ∧
        (found = none ∨ found = b.accountByName? new.username) := by
      rcases hk with rfl | rfl
      · exact ⟨_, keeper_ok (r := .accountByName _) storable trivial id rfl k applied, .inr rfl⟩
      · exact ⟨none, rfl, .inl rfl⟩
    have inserts : keeper (clock n) (k.hold applied b) (.insertAccount new) =
        k.keeper (clock n) (k.hold applied b) (.insertAccount new) := by
      rcases hk with rfl | rfl <;> rfl
    have answer : b.answer (clock n).shown (.insertAccount new) =
        if (b.accountByName? new.username).isSome then
          .error (.conflict ("users: " ++ new.username))
        else .ok (b.addAccount (clock n).shown new) := rfl
    rw [register_of_accepted accepted, Engine.unit, insertNew_eq]
    dsimp only
    split
    · rename_i taken
      rw [if_pos taken] at answer
      obtain ⟨detail, conflict⟩ := keeper_conflict storable respects answer k applied
      exact Keeper.Ends.unlessTaken_taken (.call looks) fun _ =>
        ⟨detail, .attempt_refused (inserts.trans conflict)⟩
    · rename_i free
      rw [if_neg free] at answer
      have made := keeper_ok storable respects id answer k applied
      have nothing : found = none :=
        known.elim id fun h => h.trans (Option.not_isSome_iff_eq_none.mp free)
      subst nothing
      exact ⟨_, .unlessTaken_free (.call looks) (.attempt (inserts.trans made))⟩

/-- On a store, whether or not its searches find anything. -/
theorem addItem_ends (storable : b.Storable)
    (hk : keeper = k.keeper ∨ keeper = k.keeper.overlooking) (name : String) (price : Int)
    (clock : Nat → Instant) (n : Nat) :
    ∃ n', keeper.Ends clock (e.addItem name price) (k.hold applied b) n
      (b.offered name price (clock n).shown).1
      (k.hold applied (b.offered name price (clock n).shown).2) n' := by
  unfold Books.offered addItem
  cases accepted : NewItem.of? name price with
  | error refusal => exact ⟨n, .done _⟩
  | ok new =>
    have respects : b.Respects (.insertItem new) := newItem?_positive accepted
    obtain ⟨found, looks, known⟩ : ∃ found,
        keeper (clock n) (k.hold applied b) (.itemByName new.name) =
          .ok (found, k.hold applied b) ∧
        (found = none ∨ found = b.itemByName? new.name) := by
      rcases hk with rfl | rfl
      · exact ⟨_, keeper_ok (r := .itemByName _) storable trivial id rfl k applied, .inr rfl⟩
      · exact ⟨none, rfl, .inl rfl⟩
    have inserts : keeper (clock n) (k.hold applied b) (.insertItem new) =
        k.keeper (clock n) (k.hold applied b) (.insertItem new) := by
      rcases hk with rfl | rfl <;> rfl
    have answer : b.answer (clock n).shown (.insertItem new) =
        if (b.itemByName? new.name).isSome then .error (.conflict ("merch_items: " ++ new.name))
        else .ok (b.addItem (clock n).shown new) := rfl
    dsimp only
    rw [Engine.unit, insertNewItem_eq]
    split
    · rename_i taken
      rw [if_pos taken] at answer
      obtain ⟨detail, conflict⟩ := keeper_conflict storable respects answer k applied
      exact Keeper.Ends.unlessTaken_taken (.call looks) fun _ =>
        ⟨detail, .attempt_refused (inserts.trans conflict)⟩
    · rename_i free
      rw [if_neg free] at answer
      have made := keeper_ok storable respects id answer k applied
      have nothing : found = none :=
        known.elim id fun h => h.trans (Option.not_isSome_iff_eq_none.mp free)
      subst nothing
      exact ⟨_, .unlessTaken_free (.call looks) (.attempt (inserts.trans made))⟩

end Engine

/-! ## Why it is refused -/

/-- How it ends to register, and the books afterwards: it is refused for the first reason that
applies, or one account is made. -/
inductive Books.RegisterEnds (e : Engine) (b : Books) (username password : String) (salt : Salt)
    (now : Instant) : Except Error Account → Books → Prop
  | badName
      (h : (canonicalUsername username).length < 3 ∨ 50 < (canonicalUsername username).length) :
      RegisterEnds e b username password salt now
        (.error (.invalidInput "username must be 3 to 50 characters long")) b
  | badPassword
      (name : 3 ≤ (canonicalUsername username).length ∧ (canonicalUsername username).length ≤ 50)
      (h : password.length < 6) :
      RegisterEnds e b username password salt now
        (.error (.invalidInput "password must be at least 6 characters long")) b
  | taken
      (name : 3 ≤ (canonicalUsername username).length ∧ (canonicalUsername username).length ≤ 50)
      (long : 6 ≤ password.length) (h : ∃ a ∈ b.accounts, a.username = canonicalUsername username) :
      RegisterEnds e b username password salt now
        (.error (.accountAlreadyExists (canonicalUsername username))) b
  | made {a : Account}
      (name : 3 ≤ (canonicalUsername username).length ∧ (canonicalUsername username).length ≤ 50)
      (long : 6 ≤ password.length)
      (free : ∀ a ∈ b.accounts, a.username ≠ canonicalUsername username)
      (new : a = ⟨b.sequences.account + 1, canonicalUsername username, hashPassword salt password,
        e.initialBalance, now⟩) :
      RegisterEnds e b username password salt now (.ok a)
        { b with
          accounts := b.accounts ++ [a]
          sequences := { b.sequences with account := b.sequences.account + 1 } }

/-- How it ends to offer an item, and the books afterwards: it is refused for the first reason that
applies, or one item is made. -/
inductive Books.OfferEnds (b : Books) (name : String) (price : Int) (now : Instant) :
    Except Error Item → Books → Prop
  | noName (h : Text.trim name = "") :
      OfferEnds b name price now (.error (.invalidInput "item name must not be empty")) b
  | noPrice (named : Text.trim name ≠ "") (h : price ≤ 0) :
      OfferEnds b name price now
        (.error (.invalidAmount ("price of \"" ++ Text.trim name ++ "\" must be > 0"))) b
  | taken (named : Text.trim name ≠ "") (positive : 0 < price)
      (h : ∃ i ∈ b.items, i.name = Text.trim name) :
      OfferEnds b name price now (.error (.itemAlreadyExists (Text.trim name))) b
  | made {i : Item} (named : Text.trim name ≠ "") (positive : 0 < price)
      (free : ∀ i ∈ b.items, i.name ≠ Text.trim name)
      (new : i = ⟨b.sequences.item + 1, Text.trim name, price, now⟩) :
      OfferEnds b name price now (.ok i)
        { b with
          items := b.items ++ [i]
          sequences := { b.sequences with item := b.sequences.item + 1 } }

/-- A name of another length is refused. -/
theorem Credential.normalizeUsername_refuses {raw : String}
    (h : ¬ (3 ≤ (canonicalUsername raw).length ∧ (canonicalUsername raw).length ≤ 50)) :
    normalizeUsername raw =
      .error (.invalidInput "username must be 3 to 50 characters long") := by
  have text : "username must be " ++ toString usernameBounds.1 ++ " to " ++
      toString usernameBounds.2 ++ " characters long" =
        "username must be 3 to 50 characters long" := by decide +kernel
  have outside : ¬ (usernameBounds.1 ≤ (canonicalUsername raw).length ∧
      (canonicalUsername raw).length ≤ usernameBounds.2) := h
  unfold normalizeUsername
  dsimp only
  rw [if_neg outside, text]

/-- A shorter password is refused. -/
theorem Credential.validatePassword_refuses {password : String} (h : password.length < 6) :
    validatePassword password =
      .error (.invalidInput "password must be at least 6 characters long") := by
  have text : "password must be at least " ++ toString passwordMin ++ " characters long" =
      "password must be at least 6 characters long" := by decide +kernel
  have short : password.length < passwordMin := h
  unfold validatePassword
  rw [if_pos short, text]

namespace Books

variable {b : Books} {e : Engine} {now : Instant}

theorem isSome_accountByName? {name : String} :
    (b.accountByName? name).isSome = true ↔ ∃ a ∈ b.accounts, a.username = name := by
  simp [accountByName?, List.find?_isSome]

theorem isSome_itemByName? {name : String} :
    (b.itemByName? name).isSome = true ↔ ∃ i ∈ b.items, i.name = name := by
  simp [itemByName?, List.find?_isSome]

theorem registerEnds_registered (username password : String) (salt : Salt) :
    b.RegisterEnds e username password salt now (b.registered e username password salt now).1
      (b.registered e username password salt now).2 := by
  unfold registered
  by_cases name : 3 ≤ (canonicalUsername username).length ∧ (canonicalUsername username).length ≤ 50
  · have named : normalizeUsername username = .ok (canonicalUsername username) :=
      normalizeUsername_of_fits name
    by_cases long : 6 ≤ password.length
    · have accepted := Engine.newAccount?_of_accepted e salt named (if_neg (Nat.not_lt.mpr long))
      simp only [accepted]
      split
      · rename_i taken
        exact .taken name long (isSome_accountByName?.mp taken)
      · rename_i free
        exact .made name long (by simpa using mt isSome_accountByName?.mpr free) rfl
    · have short := validatePassword_refuses (Nat.not_le.mp long)
      have refused : e.newAccount? username password salt =
          .error (.invalidInput "password must be at least 6 characters long") := by
        rw [Engine.newAccount?, named, short]
        rfl
      simp only [refused]
      exact .badPassword name (Nat.not_le.mp long)
  · have refused : e.newAccount? username password salt =
        .error (.invalidInput "username must be 3 to 50 characters long") := by
      rw [Engine.newAccount?, normalizeUsername_refuses name]
      rfl
    simp only [refused]
    exact .badName (by omega)

theorem offerEnds_offered (name : String) (price : Int) :
    b.OfferEnds name price now (b.offered name price now).1 (b.offered name price now).2 := by
  unfold offered
  by_cases named : Text.trim name = ""
  · have refused : NewItem.of? name price = .error (.invalidInput "item name must not be empty") :=
      if_pos (String.isEmpty_iff.mpr named)
    simp only [refused]
    exact .noName named
  · have given : ¬ (Text.trim name).isEmpty = true := fun h => named (String.isEmpty_iff.mp h)
    by_cases positive : 0 < price
    · have accepted : NewItem.of? name price = .ok ⟨Text.trim name, price⟩ :=
        (if_neg given).trans (if_neg (Int.not_le.mpr positive))
      simp only [accepted]
      split
      · rename_i taken
        exact .taken named positive (isSome_itemByName?.mp taken)
      · rename_i free
        have free : ∀ i ∈ b.items, i.name ≠ Text.trim name := by
          simpa using mt isSome_itemByName?.mpr free
        exact .made named positive free rfl
    · have refused : NewItem.of? name price =
          .error (.invalidAmount ("price of \"" ++ Text.trim name ++ "\" must be > 0")) :=
        (if_neg given).trans (if_pos (Int.not_lt.mp positive))
      simp only [refused]
      exact .noPrice named (Int.not_lt.mp positive)

end Books

open Troubled in
/-- Whatever clients command from the moment at which nothing was done, in any order and whatever
goes wrong, in either store: records are numbered in turn, no two accounts have the same username,
and every item has a trimmed name of its own and a positive price. To register and to offer an item
then end as `RegisterEnds` and `OfferEnds` say: they are refused for the first reason that applies
and change nothing, or one record is made, with the next number, and all else is as it was. It is
the same where the search for the name wrongly finds nothing, so that the store has to refuse it. -/
theorem creation_exact {ι : Type} [DecidableEq ι] {e : Engine} (hm : e.initialBalance ≤ maxCoins)
    {k : Backend} {now : Instant} {plan : ι → List Command} {history : List (Happening ι)}
    {S : Troubled ι k.State (List (Except Error Outcome))}
    (run : Run k.keeper (carryingOut e k now plan) history S) :
    ∃ b : Books, S.committed = k.hold (some Migration.noted) b ∧ b.Numbered ∧
      (b.accounts.map (·.username)).Nodup ∧ b.Catalogued ∧
      ∀ (clock : Nat → Instant),
        (∀ username password salt, ∃ o b',
          b.RegisterEnds e username password salt (clock 0).shown o b' ∧
          ∀ keeper ∈ [k.keeper, k.keeper.overlooking],
            keeper.alone clock S.committed (e.register username password salt) =
              (o, k.hold (some Migration.noted) b')) ∧
        ∀ name price, ∃ o b', b.OfferEnds name price (clock 0).shown o b' ∧
          ∀ keeper ∈ [k.keeper, k.keeper.overlooking],
            keeper.alone clock S.committed (e.addItem name price) =
              (o, k.hold (some Migration.noted) b') := by
  have numbered : (k.stock now).Numbered := (k.reconciled_stock 0 now).solvent.numbered
  obtain ⟨b, storable, committed, numbered, named, catalogued⟩ := run.invariant hm
    (I := fun b => b.Numbered ∧ b.Named (fun _ => True) ∧ b.Catalogued)
    ⟨numbered, k.named_stock _ now, k.catalogued_stock now⟩ fun _ _ _ _ h he =>
      ⟨he.numbered h.1, he.named (fun _ _ => trivial) h.2.1, he.catalogued h.2.2⟩
  have either {keeper : Keeper k.State} (h : keeper ∈ [k.keeper, k.keeper.overlooking]) :
      keeper = k.keeper ∨ keeper = k.keeper.overlooking := by simpa using h
  rw [committed]
  refine ⟨b, rfl, numbered, named.distinct, catalogued, fun clock =>
    ⟨fun username password salt => ?_, fun name price => ?_⟩⟩
  · refine ⟨_, _, Books.registerEnds_registered username password salt, fun keeper hk => ?_⟩
    obtain ⟨_, ends⟩ :=
      Engine.register_ends _ hm storable (either hk) username password salt clock 0
    exact ends.alone
  · refine ⟨_, _, Books.offerEnds_offered name price, fun keeper hk => ?_⟩
    obtain ⟨_, ends⟩ := Engine.addItem_ends _ storable (either hk) name price clock 0
    exact ends.alone

open Troubled in
/-- Two clients and a cup, with the entry of its purchase. -/
theorem creation_exact_cup :
    ({} : Engine).initialBalance ≤ maxCoins ∧ ∃ history S,
      Run Backend.memory.keeper (carryingOut {} .memory default cupPlan) history S ∧
      (∃ x, (S.committed : Books).ledger = [x]) ∧
      ∃ b : Books, S.committed = Backend.memory.hold (some Migration.noted) b ∧ b.Numbered ∧
        (b.accounts.map (·.username)).Nodup ∧ b.Catalogued ∧
        ∀ (clock : Nat → Instant),
          (∀ username password salt, ∃ o b',
            b.RegisterEnds {} username password salt (clock 0).shown o b' ∧
            ∀ keeper ∈ [Backend.memory.keeper, Backend.memory.keeper.overlooking],
              keeper.alone clock S.committed (Engine.register {} username password salt) =
                (o, Backend.memory.hold (some Migration.noted) b')) ∧
          ∀ name price, ∃ o b', b.OfferEnds name price (clock 0).shown o b' ∧
            ∀ keeper ∈ [Backend.memory.keeper, Backend.memory.keeper.overlooking],
              keeper.alone clock S.committed (Engine.addItem {} name price) =
                (o, Backend.memory.hold (some Migration.noted) b') := by
  have hm : ({} : Engine).initialBalance ≤ maxCoins := by
    show defaultGrant ≤ maxCoins
    decide
  obtain ⟨_, _, _, S, x, run, run', -, noted⟩ := exists_cupRun
  have all := run.append run'
  exact ⟨hm, _, S, all, ⟨x, noted⟩, creation_exact hm all⟩

end Scrip
