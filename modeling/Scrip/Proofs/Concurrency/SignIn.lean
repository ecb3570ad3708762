import Scrip.Proofs.Concurrency.Episode
import Scrip.Proofs.Credential.Password
import Scrip.Proofs.Engine.SignIn

/-!
# Several callers that sign in with the same new name

Signing in takes up to four units: to authenticate, to look the name up, to register, and
to authenticate after all. Between two units of one caller another one may register the
name. That is noticed when it happens before the third unit, and goes unnoticed when it
happens between the first and the second: the name is known then, and the caller is
refused as if the password were wrong.

* `turnBefore`, `turnAfter`: how a caller goes on after some of its units;
* `Progress`: the system while the units are carried out in some order;
* `signIn_interleaved`: what becomes of each caller.
-/

namespace Scrip

open Credential Engine
open Crypt (Salt)

variable {ι : Type}

/-! ## The units of signing in -/

section Units

variable {e : Engine} {username password : String} {salt : Salt} {b b' : Books} {β : Type}
  {x : Episode ι β} {k : Except Error Account → Exchange β}

theorem authenticate_alone (h : x.Alone Books.answer b b') (he : x.ending ≠ .abandoned)
    (ho : x.opening = e.authenticate username password >>= k) :
    b' = b ∧
      x.closing = some (k (letIn password (b.accountByName? (canonicalUsername username)))) := by
  unfold authenticate Engine.unit at ho
  rw [Dialogue.bind_assoc] at ho
  rcases h.of_yields he ho (lookup_yields _) (by simp) with
    ⟨found, ⟨hf, hb⟩, hc⟩ | ⟨failure, copy, ⟨hf, _⟩, _⟩
  · cases hf
    exact ⟨hb, hc⟩
  · cases hf

theorem accountByName_alone (h : x.Alone Books.answer b b') (he : x.ending ≠ .abandoned)
    (ho : x.opening = e.accountByName username >>= k) :
    b' = b ∧ x.closing = some (k (match b.accountByName? (canonicalUsername username) with
      | some a => .ok a
      | none => .error (.accountNotFound (canonicalUsername username)))) := by
  rcases h.of_yields he ho (find_yields _ _) (by simp) with
    ⟨a, ⟨hb, ⟨a', hn, ha⟩ | ⟨_, ha⟩⟩, hc⟩ | ⟨failure, copy, ⟨_, ⟨_, _, hf⟩ | ⟨hn, hf⟩⟩, hc, hb⟩
  · cases ha
    rw [hn]
    exact ⟨hb, hc⟩
  · cases ha
  · cases hf
  · cases hf
    rw [hn]
    exact ⟨hb, hc⟩

theorem register_alone {new : NewAccount} (h : x.Alone Books.answer b b')
    (he : x.ending ≠ .abandoned) (hn : e.newAccount? username password salt = .ok new)
    (ho : x.opening = e.register username password salt >>= k) :
    (b.accountByName? new.username = none ∧
      ∃ now, b' = b.withAccount (new.toAccount (b.sequences.account + 1) now) ∧
        x.closing = some (k (.ok (new.toAccount (b.sequences.account + 1) now)))) ∨
    ((b.accountByName? new.username).isSome ∧ b' = b ∧
      x.closing = some (k (.error (.accountAlreadyExists new.username)))) := by
  rw [register_of_accepted hn] at ho
  rcases h.of_yields he ho (insertNew_yields new) (by simp) with
    ⟨a, ⟨free, now, ha, hb⟩ | ⟨_, ha, _⟩, hc⟩ |
      ⟨failure, copy, ⟨_, _, hf, _⟩ | ⟨taken, hf, _⟩, hc, hb⟩
  · cases ha
    exact .inl ⟨free, now, hb, hc⟩
  · cases ha
  · cases hf
  · cases hf
    exact .inr ⟨taken, hb, hc⟩

end Units

/-! ## The turns of a caller -/

/-- How a caller goes on after trying to authenticate. -/
def orLookUp (next : Exchange (Except Error Account)) :
    Except Error Account → Exchange (Except Error Account)
  | .error .invalidCredentials => next
  | outcome => pure outcome

/-- How a caller goes on after looking the name up. -/
def orRegister (next : Exchange (Except Error Account)) :
    Except Error Account → Exchange (Except Error Account)
  | .ok _ => pure (.error .invalidCredentials)
  | .error (.accountNotFound _) => next
  | .error failure => pure (.error failure)

/-- How a caller goes on after trying to register. -/
def orAuthenticate (next : Exchange (Except Error Account)) :
    Except Error Account → Exchange (Except Error Account)
  | .error (.accountAlreadyExists _) => next
  | outcome => pure outcome

section Turns

variable (e : Engine) (username password : String) (salt : Salt)

/-- How a caller goes on after so many units, while there is no account. -/
def turnBefore : Nat → Exchange (Except Error Account)
  | 0 => e.signIn username password salt
  | 1 => e.accountByName (canonicalUsername username) >>=
      orRegister (e.registerOrAuthenticate username password salt)
  | _ => e.registerOrAuthenticate username password salt

/-- How a caller goes on after `n` units before somebody else made the account `a`, and `m` units
after that. -/
def turnAfter (a : Account) (n m : Nat) : Exchange (Except Error Account) :=
  if m = 0 then turnBefore e username password salt n
  else if n = 1 then .done (.error .invalidCredentials)
  else if n = 2 ∧ m = 1 then e.authenticate username password
  else .done (.ok a)

theorem turnBefore_zero : turnBefore e username password salt 0 =
    e.authenticate username password >>= orLookUp (turnBefore e username password salt 1) := by
  show e.signIn username password salt = e.authenticate username password >>= orLookUp
    (e.accountByName (canonicalUsername username) >>=
      orRegister (e.registerOrAuthenticate username password salt))
  unfold signIn
  congr 1

theorem turnBefore_two : turnBefore e username password salt 2 =
    e.register username password salt >>= orAuthenticate (e.authenticate username password) := by
  show e.registerOrAuthenticate username password salt = _
  unfold registerOrAuthenticate
  congr 1

variable {e username password salt} {b b' : Books} {x : Episode ι (Except Error Account)}
  {a : Account} {new : NewAccount}

/-- Before there is an account, nothing comes of the first two units. -/
theorem turnBefore_fresh (h : x.Alone Books.answer b b') (he : x.ending ≠ .abandoned) {n : Nat}
    (hn : n < 2) (ho : x.opening = turnBefore e username password salt n)
    (fresh : b.accountByName? (canonicalUsername username) = none) :
    b' = b ∧ x.closing = some (turnBefore e username password salt (n + 1)) := by
  obtain rfl | rfl : n = 0 ∨ n = 1 := by omega
  · rw [turnBefore_zero] at ho
    obtain ⟨hb, hc⟩ := authenticate_alone h he ho
    rw [fresh] at hc
    exact ⟨hb, hc⟩
  · obtain ⟨hb, hc⟩ := accountByName_alone h he ho
    rw [canonicalUsername_idem, fresh] at hc
    exact ⟨hb, hc⟩

/-- The third unit makes the account. -/
theorem turnBefore_makes (h : x.Alone Books.answer b b') (he : x.ending ≠ .abandoned)
    (accepted : e.newAccount? username password salt = .ok new)
    (ho : x.opening = turnBefore e username password salt 2)
    (fresh : b.accountByName? new.username = none) :
    ∃ now, b' = b.withAccount (new.toAccount (b.sequences.account + 1) now) ∧
      x.closing = some (.done (.ok (new.toAccount (b.sequences.account + 1) now))) := by
  rw [turnBefore_two] at ho
  rcases register_alone h he accepted ho with ⟨_, now, hb, hc⟩ | ⟨taken, _⟩
  · exact ⟨now, hb, hc⟩
  · rw [fresh] at taken
    cases taken

/-- Once there is an account, all that may be left is the turn after the turns before it, and one
more if those were two. -/
theorem turnAfter_open {n m : Nat}
    (hopen : ∀ outcome, turnAfter e username password salt a n m ≠ .done outcome) :
    m = 0 ∨ n = 2 ∧ m = 1 := by
  unfold turnAfter at hopen
  by_cases hm : m = 0
  · exact .inl hm
  · rw [if_neg hm] at hopen
    by_cases hn₁ : n = 1
    · rw [if_pos hn₁] at hopen
      exact absurd rfl (hopen _)
    · rw [if_neg hn₁] at hopen
      by_cases hn₂ : n = 2 ∧ m = 1
      · exact .inr hn₂
      · rw [if_neg hn₂] at hopen
        exact absurd rfl (hopen _)

/-- Once there is an account that the password fits, a caller goes on as `turnAfter` says. -/
theorem turnAfter_known (h : x.Alone Books.answer b b') (he : x.ending ≠ .abandoned)
    (accepted : e.newAccount? username password salt = .ok new)
    (hname : new.username = canonicalUsername username) {n m : Nat} (hn : n ≤ 2)
    (ho : x.opening = turnAfter e username password salt a n m)
    (known : b.accountByName? (canonicalUsername username) = some a)
    (verified : verifyPassword password a.passwordHash = true) :
    b' = b ∧ x.closing = some (turnAfter e username password salt a n (m + 1)) := by
  have lets : letIn password (some a) = .ok a := if_pos verified
  rcases turnAfter_open (ho ▸ h.opening_ne_done) with rfl | ⟨rfl, rfl⟩
  · have ho : x.opening = turnBefore e username password salt n := ho
    obtain rfl | rfl | rfl : n = 0 ∨ n = 1 ∨ n = 2 := by omega
    · rw [turnBefore_zero] at ho
      obtain ⟨hb, hc⟩ := authenticate_alone h he ho
      rw [known, lets] at hc
      exact ⟨hb, hc⟩
    · obtain ⟨hb, hc⟩ := accountByName_alone h he ho
      rw [canonicalUsername_idem, known] at hc
      exact ⟨hb, hc⟩
    · rw [turnBefore_two] at ho
      rcases register_alone h he accepted ho with ⟨free, _⟩ | ⟨_, hb, hc⟩
      · rw [hname, known] at free
        cases free
      · exact ⟨hb, hc⟩
  · have ho : x.opening = e.authenticate username password := ho
    rw [← Dialogue.bind_done (e.authenticate username password)] at ho
    obtain ⟨hb, hc⟩ := authenticate_alone h he ho
    rw [known, lets] at hc
    exact ⟨hb, hc⟩

/-- A caller has something left to do while there is no account. -/
theorem turnBefore_ne_done (n : Nat) (accepted : e.newAccount? username password salt = .ok new)
    (outcome : Except Error Account) : turnBefore e username password salt n ≠ .done outcome := by
  match n with
  | 0 | 1 => exact nofun
  | n + 2 =>
    show turnBefore e username password salt 2 ≠ _
    rw [turnBefore_two, register_of_accepted accepted]
    exact nofun

/-- A caller that has a turn while there is no account can take it. -/
theorem exists_turnBefore (i : ι) (n : Nat)
    (accepted : e.newAccount? username password salt = .ok new) :
    ∃ (x : Episode ι (Except Error Account)) (b' : Books), x.client = i ∧
      x.opening = turnBefore e username password salt n ∧ x.ending ≠ .abandoned ∧
      x.Alone Books.answer b b' := by
  match n with
  | 0 =>
    rw [turnBefore_zero, authenticate, Dialogue.bind_assoc]
    exact exists_episode i (lookup_yields _) (by simp)
  | 1 => exact exists_episode i (find_yields _ _) (by simp)
  | n + 2 =>
    show ∃ (x : Episode ι (Except Error Account)) (b' : Books), x.client = i ∧
      x.opening = turnBefore e username password salt 2 ∧ _
    rw [turnBefore_two, register_of_accepted accepted]
    exact exists_episode i (insertNew_yields new) (by simp)

/-- A caller that has something left to do once there is an account can do it. -/
theorem exists_turnAfter (i : ι) {n m : Nat}
    (accepted : e.newAccount? username password salt = .ok new)
    (hopen : ∀ outcome, turnAfter e username password salt a n m ≠ .done outcome) :
    ∃ (x : Episode ι (Except Error Account)) (b' : Books), x.client = i ∧
      x.opening = turnAfter e username password salt a n m ∧ x.ending ≠ .abandoned ∧
      x.Alone Books.answer b b' := by
  rcases turnAfter_open hopen with rfl | ⟨rfl, rfl⟩
  · exact exists_turnBefore i n accepted
  · show ∃ (x : Episode ι (Except Error Account)) (b' : Books), x.client = i ∧
      x.opening = e.authenticate username password ∧ _
    unfold authenticate
    exact exists_episode i (lookup_yields _) (by simp)

end Turns

/-! ## All callers -/

/-- Nobody gives up: the move is a unit that is carried to its end. -/
def Move.Whole {α : Type} : Move ι α → Prop
  | .unit x => x.ending ≠ .abandoned
  | _ => False

/-- The clients whose units are carried out, in order. -/
def turns {α : Type} (moves : List (Move ι α)) : List ι :=
  (episodes moves).map (·.client)

theorem turns_snoc {α : Type} (moves : List (Move ι α)) (x : Episode ι α) :
    turns (moves ++ [.unit x]) = turns moves ++ [x.client] := by
  simp only [turns, episodes, List.filterMap_append, List.map_append, List.filterMap_cons,
    Move.episode?, List.filterMap_nil, List.map_cons, List.map_nil]

section Callers

variable [DecidableEq ι]

/-- The callers after some turns. Either nobody has had a third turn, and nothing is made; or the
account was made by the first who had, who has none after that, and everybody else goes on
according to the turns before and after. -/
inductive Progress (e : Engine) (username password : String) (salt : ι → Salt) (b : Books)
    (order : List ι) (T : Serial ι Books (Except Error Account)) : Prop
  | before (committed : T.committed = b) (atMost : ∀ i, order.count i ≤ 2)
      (clients : ∀ i, T.client i =
        some (turnBefore e username password (salt i) (order.count i)))
  | after {a : Account} {before : List ι} {j : ι} {rest : List ι}
      (split : order = before ++ j :: rest) (atMost : ∀ i, before.count i ≤ 2)
      (third : before.count j = 2) (committed : T.committed = b.withAccount a)
      (named : a.username = canonicalUsername username)
      (verified : verifyPassword password a.passwordHash = true)
      (author : T.client j = some (.done (.ok a))) (silent : rest.count j = 0)
      (clients : ∀ i ≠ j, T.client i =
        some (turnAfter e username password (salt i) a (before.count i) (rest.count i)))
      (few : ∀ i ≠ j, before.count i + rest.count i ≤ 4)

variable {e : Engine} {username password name : String} {salt : ι → Salt} {b : Books}

theorem count_snoc (order : List ι) (i j : ι) :
    (order ++ [i]).count j = order.count j + if i = j then 1 else 0 := by
  rw [List.count_append, List.count_singleton]
  simp only [beq_iff_eq]

/-- One more turn. -/
theorem Progress.step {order : List ι} {T : Serial ι Books (Except Error Account)}
    (hp : Progress e username password salt b order T)
    (fresh : b.accountByName? (canonicalUsername username) = none)
    (hname : normalizeUsername username = .ok name) (hpass : validatePassword password = .ok ())
    {x : Episode ι (Except Error Account)} {b' : Books} (he : x.ending ≠ .abandoned)
    (hc : T.client x.client = some x.opening) (h : x.Alone Books.answer T.committed b') :
    Progress e username password salt b (order ++ [x.client])
      ⟨b', Function.update T.client x.client x.closing⟩ := by
  have accepted (i : ι) := newAccount?_of_accepted e (salt i) hname hpass
  cases hp with
  | before committed atMost clients =>
    rw [committed] at h
    have ho := Option.some.inj ((clients x.client).symm.trans hc)
    by_cases hn : order.count x.client < 2
    · obtain ⟨hb, hclosing⟩ := turnBefore_fresh h he hn ho.symm fresh
      refine .before hb (fun i => ?_) fun i => ?_
      · have := atMost i
        rw [count_snoc]
        split
        · rename_i hi
          rw [hi] at hn
          omega
        · omega
      · by_cases hi : i = x.client
        · rw [hi, count_snoc, if_pos rfl, ← hclosing]
          exact Function.update_self ..
        · rw [count_snoc, if_neg (Ne.symm hi)]
          exact (Function.update_of_ne hi ..).trans (clients i)
    · have htwo : order.count x.client = 2 := by
        have := atMost x.client
        omega
      rw [htwo] at ho
      obtain ⟨now, hb, hclosing⟩ := turnBefore_makes h he (accepted x.client) ho.symm fresh
      have split : order ++ [x.client] = order ++ x.client :: [] := rfl
      refine .after split atMost htwo hb rfl (verifyPassword_hashPassword _ _) ?_ rfl
        (fun i hi => ?_) fun i _ => ?_
      · exact (Function.update_self ..).trans hclosing
      · exact (Function.update_of_ne hi ..).trans (clients i)
      · have := atMost i
        rw [List.count_nil]
        omega
  | @after a before j rest split atMost third committed named verified author silent clients few =>
    rw [committed] at h
    have known : (b.withAccount a).accountByName? (canonicalUsername username) = some a := by
      rw [← named] at fresh ⊢
      exact Books.accountByName?_withAccount fresh
    have hj : x.client ≠ j := fun hj => by
      rw [hj, author] at hc
      exact h.opening_ne_done _ (Option.some.inj hc).symm
    have ho := Option.some.inj ((clients x.client hj).symm.trans hc)
    obtain ⟨hb, hclosing⟩ := turnAfter_known h he (accepted x.client) rfl (atMost x.client) ho.symm
      known verified
    have longer : order ++ [x.client] = before ++ j :: (rest ++ [x.client]) := by
      rw [split, List.append_assoc, List.cons_append]
    refine .after longer atMost third hb named verified ?_ ?_ (fun i hi => ?_) fun i hi => ?_
    · exact (Function.update_of_ne (Ne.symm hj) ..).trans author
    · rw [count_snoc, if_neg hj, silent]
    · by_cases hix : i = x.client
      · rw [hix, count_snoc, if_pos rfl, ← hclosing]
        exact Function.update_self ..
      · rw [count_snoc, if_neg (Ne.symm hix)]
        exact (Function.update_of_ne hix ..).trans (clients i hi)
    · rw [count_snoc]
      split
      · -- Whoever has a turn had at most two before the account and one after.
        rename_i hix
        subst hix
        have := atMost x.client
        rcases turnAfter_open (ho ▸ h.opening_ne_done) with hm | ⟨hn, hm⟩ <;> omega
      · exact few i hi

/-- Callers that begin to sign in with the same name and password. -/
def signingIn (e : Engine) (username password : String) (salt : ι → Salt) (b : Books) :
    Serial ι Books (Except Error Account) :=
  ⟨b, fun i => some (e.signIn username password (salt i))⟩

/-- Any number of turns. -/
theorem Progress.run (fresh : b.accountByName? (canonicalUsername username) = none)
    (hname : normalizeUsername username = .ok name) (hpass : validatePassword password = .ok ())
    {moves : List (Move ι (Except Error Account))} {T : Serial ι Books (Except Error Account)}
    (run : Serial.Run Books.answer (signingIn e username password salt b) moves T)
    (whole : ∀ move ∈ moves, move.Whole) :
    Progress e username password salt b (turns moves) T := by
  induction run with
  | refl => exact .before rfl (fun _ => Nat.zero_le _) fun _ => rfl
  | @step moves move T T' _ hs ih =>
    have ih := ih fun move he => whole move (List.mem_append_left _ he)
    have last := whole move (List.mem_append_right _ (List.mem_singleton_self _))
    cases hs with
    | unit hc h =>
      rw [turns_snoc]
      exact ih.step fresh hname hpass last hc h
    | expires | leaves => exact last.elim

/-- There is one first third turn. -/
theorem third_unique {before before' rest rest' : List ι} {j j' : ι}
    (h : before ++ j :: rest = before' ++ j' :: rest') (hb : ∀ i, before.count i ≤ 2)
    (hb' : ∀ i, before'.count i ≤ 2) (hj : before.count j = 2) (hj' : before'.count j' = 2) :
    before = before' ∧ j = j' ∧ rest = rest' := by
  have longer {short long : List ι} {k : ι} {cs : List ι} (hk : short.count k = 2)
      (hl : ∀ i, long.count i ≤ 2) (h : long = short ++ k :: cs) : False := by
    have := hl k
    rw [h, List.count_append, List.count_cons_self] at this
    omega
  rcases List.append_eq_append_iff.mp h with ⟨cs, hcs, hrest⟩ | ⟨cs, hcs, hrest⟩
  · cases cs with
    | nil =>
      cases hrest
      exact ⟨by rw [hcs, List.append_nil], rfl, rfl⟩
    | cons c cs =>
      cases hrest
      exact (longer hj hb' hcs).elim
  · cases cs with
    | nil =>
      cases hrest
      exact ⟨by rw [hcs, List.append_nil], rfl, rfl⟩
    | cons c cs =>
      cases hrest
      exact (longer hj' hb hcs).elim

/-- While nobody had a third turn there is no account. -/
theorem Progress.of_few {order : List ι} {T : Serial ι Books (Except Error Account)}
    (hp : Progress e username password salt b order T) (few : ∀ i, order.count i ≤ 2) (i : ι) :
    T.client i = some (turnBefore e username password (salt i) (order.count i)) := by
  cases hp with
  | before _ _ clients => exact clients i
  | @after a before j rest split _ third =>
    have := few j
    rw [split, List.count_append, List.count_cons_self] at this
    omega

/-- The first who had a third turn made the account. -/
theorem Progress.of_third {before : List ι} {j : ι} {rest : List ι}
    {T : Serial ι Books (Except Error Account)}
    (hp : Progress e username password salt b (before ++ j :: rest) T)
    (atMost : ∀ i, before.count i ≤ 2) (third : before.count j = 2) :
    ∃ a, T.committed = b.withAccount a ∧ a.username = canonicalUsername username ∧
      T.client j = some (.done (.ok a)) ∧ ∀ i ≠ j, T.client i =
        some (turnAfter e username password (salt i) a (before.count i) (rest.count i)) := by
  cases hp with
  | before _ few _ =>
    have := few j
    rw [List.count_append, List.count_cons_self] at this
    omega
  | after split atMost' third' committed named _ author _ clients _ =>
    obtain ⟨rfl, rfl, rfl⟩ := third_unique split atMost atMost' third third'
    exact ⟨_, committed, named, author, clients⟩

/-- A caller that has a turn while it has seen no account takes it. -/
theorem exists_turn {new : NewAccount} {T₀ T : Serial ι Books (Except Error Account)}
    {moves : List (Move ι (Except Error Account))} (run : Serial.Run Books.answer T₀ moves T)
    (whole : ∀ move ∈ moves, move.Whole) {i : ι} {n : Nat}
    (accepted : e.newAccount? username password (salt i) = .ok new)
    (hc : T.client i = some (turnBefore e username password (salt i) n)) :
    ∃ moves' T', Serial.Run Books.answer T₀ moves' T' ∧ (∀ move ∈ moves', move.Whole) ∧
      turns moves' = turns moves ++ [i] := by
  obtain ⟨x, b', rfl, ho, he, h⟩ := exists_turnBefore (b := T.committed) i n accepted
  refine ⟨_, _, run.step (.unit (x := x) (by rw [ho, hc]) h), fun move hmove => ?_,
    turns_snoc moves x⟩
  rcases List.mem_append.mp hmove with hmove | hmove
  · exact whole move hmove
  · obtain rfl := List.mem_singleton.mp hmove
    exact he

/-- No caller has more than four turns. -/
theorem Progress.count_le {order : List ι} {T : Serial ι Books (Except Error Account)}
    (hp : Progress e username password salt b order T) (i : ι) : order.count i ≤ 4 := by
  cases hp with
  | before _ atMost _ => exact Nat.le_trans (atMost i) (by decide)
  | @after a before j rest split _ third _ _ _ _ silent _ few =>
    rw [split, List.count_append, List.count_cons]
    by_cases hi : i = j
    · subst hi
      rw [third, silent, if_pos (beq_self_eq_true _)]
      decide
    · rw [if_neg (by simpa using Ne.symm hi)]
      exact few i hi

/-- A caller that is not done can have a turn. -/
theorem Progress.exists_step {order : List ι} {T : Serial ι Books (Except Error Account)}
    (hp : Progress e username password salt b order T) {new : ι → NewAccount}
    (accepted : ∀ i, e.newAccount? username password (salt i) = .ok (new i)) {i : ι}
    (hopen : ∀ outcome, T.client i ≠ some (.done outcome)) :
    ∃ (x : Episode ι (Except Error Account)) (T' : Serial ι Books (Except Error Account)),
      x.client = i ∧ x.ending ≠ .abandoned ∧ Serial.Step Books.answer T (.unit x) T' := by
  have steps {d : Exchange (Except Error Account)} (hd : T.client i = some d)
      (hx : ∃ (x : Episode ι (Except Error Account)) (b' : Books), x.client = i ∧ x.opening = d ∧
        x.ending ≠ .abandoned ∧ x.Alone Books.answer T.committed b') :
      ∃ (x : Episode ι (Except Error Account)) (T' : Serial ι Books (Except Error Account)),
        x.client = i ∧ x.ending ≠ .abandoned ∧ Serial.Step Books.answer T (.unit x) T' := by
    obtain ⟨x, b', hi, ho, he, h⟩ := hx
    exact ⟨x, _, hi, he, .unit (by rw [hi, hd, ho]) h⟩
  cases hp with
  | before _ _ clients => exact steps (clients i) (exists_turnBefore i _ (accepted i))
  | @after a before j rest _ _ _ _ _ _ author _ clients _ =>
    have hi : i ≠ j := fun hi => hopen _ (hi ▸ author)
    refine steps (clients i hi) (exists_turnAfter i (accepted i) fun outcome hdone => ?_)
    exact hopen outcome (hdone ▸ clients i hi)

/-- All callers are done. Whoever had the first third turn made the one account, and everybody
has it but those who had exactly one turn before: to them the password is said to be wrong. -/
def Served (username : String) (b : Books) (order : List ι)
    (T : Serial ι Books (Except Error Account)) : Prop :=
  ∃ a before j rest, order = before ++ j :: rest ∧ (∀ i, before.count i ≤ 2) ∧
    before.count j = 2 ∧ T.committed = b.withAccount a ∧
    a.username = canonicalUsername username ∧
    ∀ i, T.client i = some (.done
      (if before.count i = 1 then .error .invalidCredentials else .ok a))

theorem Progress.served [Nonempty ι] {order : List ι} {T : Serial ι Books (Except Error Account)}
    (hp : Progress e username password salt b order T) {new : ι → NewAccount}
    (accepted : ∀ i, e.newAccount? username password (salt i) = .ok (new i))
    (finished : ∀ i, ∃ outcome, T.client i = some (.done outcome)) :
    Served username b order T := by
  cases hp with
  | before _ _ clients =>
    obtain ⟨someone⟩ := ‹Nonempty ι›
    obtain ⟨outcome, ho⟩ := finished someone
    rw [clients] at ho
    exact absurd (Option.some.inj ho) (turnBefore_ne_done _ (accepted someone) outcome)
  | @after a before j rest split atMost third committed named _ author _ clients _ =>
    refine ⟨a, before, j, rest, split, atMost, third, committed, named, fun i => ?_⟩
    by_cases hij : i = j
    · rw [hij, third, author]
      rfl
    · obtain ⟨outcome, ho⟩ := finished i
      rw [clients i hij] at ho ⊢
      unfold turnAfter at ho ⊢
      by_cases hm : rest.count i = 0
      · rw [if_pos hm] at ho
        exact absurd (Option.some.inj ho) (turnBefore_ne_done _ (accepted i) outcome)
      · rw [if_neg hm] at ho ⊢
        by_cases h₁ : before.count i = 1
        · rw [if_pos h₁, if_pos h₁]
        · rw [if_neg h₁] at ho ⊢
          rw [if_neg h₁]
          by_cases h₂ : before.count i = 2 ∧ rest.count i = 1
          · rw [if_pos h₂] at ho
            cases ho
          · rw [if_neg h₂]

/-- Callers that sign in with a new name, their units in any order. Each ends after at most four
units, and can always go on until then; and when all are done, one of them made the one account,
and a caller is refused exactly if one of its units came before and no second one. -/
theorem signIn_interleaved [Nonempty ι]
    (fresh : b.accountByName? (canonicalUsername username) = none)
    (hname : normalizeUsername username = .ok name) (hpass : validatePassword password = .ok ())
    {moves : List (Move ι (Except Error Account))} {T : Serial ι Books (Except Error Account)}
    (run : Serial.Run Books.answer (signingIn e username password salt b) moves T)
    (whole : ∀ move ∈ moves, move.Whole) :
    (∀ i, (turns moves).count i ≤ 4) ∧
      (∀ i, (∃ outcome, T.client i = some (.done outcome)) ∨
        ∃ (x : Episode ι (Except Error Account)) (T' : Serial ι Books (Except Error Account)),
          x.client = i ∧ x.ending ≠ .abandoned ∧ Serial.Step Books.answer T (.unit x) T') ∧
      ((∀ i, ∃ outcome, T.client i = some (.done outcome)) →
        Served username b (turns moves) T) := by
  have accepted (i : ι) := newAccount?_of_accepted e (salt i) hname hpass
  have progress := Progress.run fresh hname hpass run whole
  refine ⟨progress.count_le, fun i => ?_, progress.served accepted⟩
  by_cases hdone : ∃ outcome, T.client i = some (.done outcome)
  · exact .inl hdone
  · exact .inr (progress.exists_step accepted (not_exists.mp hdone))

end Callers

/-- One of two callers has its first unit, then the other one makes the account, and then the
first is refused. -/
theorem exists_refusal {e : Engine} {username password name : String} {salt : Bool → Salt}
    {b : Books} (fresh : b.accountByName? (canonicalUsername username) = none)
    (hname : normalizeUsername username = .ok name) (hpass : validatePassword password = .ok ()) :
    ∃ moves T a, Serial.Run Books.answer (signingIn e username password salt b) moves T ∧
      (∀ move ∈ moves, move.Whole) ∧ T.client true = some (.done (.ok a)) ∧
      T.client false = some (.done (.error .invalidCredentials)) := by
  have accepted (i : Bool) := newAccount?_of_accepted e (salt i) hname hpass
  have progress {moves : List (Move Bool (Except Error Account))}
      {T : Serial Bool Books (Except Error Account)} :=
    @Progress.run _ _ e username password name salt b fresh hname hpass moves T
  have start : Serial.Run Books.answer (signingIn e username password salt b) [] _ := .refl
  have c₀ : (signingIn e username password salt b).client false =
      some (turnBefore e username password (salt false) 0) := rfl
  obtain ⟨_, T₁, run, whole, h₁⟩ := exists_turn start (by simp) (accepted _) c₀
  have c₁ := (progress run whole).of_few (by rw [h₁]; decide) true
  obtain ⟨_, T₂, run, whole, h₂⟩ := exists_turn run whole (accepted _) c₁
  have c₂ := (progress run whole).of_few (by rw [h₂, h₁]; decide) true
  obtain ⟨_, T₃, run, whole, h₃⟩ := exists_turn run whole (accepted _) c₂
  have c₃ := (progress run whole).of_few (by rw [h₃, h₂, h₁]; decide) true
  obtain ⟨_, T₄, run, whole, h₄⟩ := exists_turn run whole (accepted _) c₃
  -- The other caller has had its third turn, and the first one goes on with its second.
  have p₄ : Progress e username password salt b ([false, true, true] ++ true :: []) T₄ := by
    have := progress run whole
    rwa [h₄, h₃, h₂, h₁] at this
  obtain ⟨_, _, _, _, c₄⟩ := p₄.of_third (by decide) (by decide)
  have c₄ : T₄.client false = some (turnBefore e username password (salt false) 1) :=
    c₄ false (by decide)
  obtain ⟨moves, T, run, whole, h₅⟩ := exists_turn run whole (accepted _) c₄
  have p₅ : Progress e username password salt b ([false, true, true] ++ true :: [false]) T := by
    have := progress run whole
    rwa [h₅, h₄, h₃, h₂, h₁] at this
  obtain ⟨a, _, _, author, c₅⟩ := p₅.of_third (by decide) (by decide)
  exact ⟨moves, T, a, run, whole, author, c₅ false (by decide)⟩

theorem normalizeUsername_alice :
    normalizeUsername "alice" = .ok (canonicalUsername "alice") :=
  normalizeUsername_of_fits (by decide +kernel)

/-- Of two callers with the right password one is refused. -/
theorem signIn_interleaved_refused :
    let start : Serial Bool Books (Except Error Account) :=
      signingIn {} "alice" "secret" (fun _ => .replicate 7) {}
    normalizeUsername "alice" = .ok (canonicalUsername "alice") ∧
      validatePassword "secret" = .ok () ∧
      ∃ moves T a, Serial.Run Books.answer start moves T ∧ (∀ move ∈ moves, move.Whole) ∧
        T.client true = some (.done (.ok a)) ∧
        T.client false = some (.done (.error .invalidCredentials)) := by
  intro start
  have hpass : validatePassword "secret" = .ok () := if_neg (by decide)
  exact ⟨normalizeUsername_alice, hpass, exists_refusal rfl normalizeUsername_alice hpass⟩

/-- The same two callers, and what becomes of them. -/
theorem signIn_interleaved_two :
    let start : Serial Bool Books (Except Error Account) :=
      signingIn {} "alice" "secret" (fun _ => .replicate 7) {}
    normalizeUsername "alice" = .ok (canonicalUsername "alice") ∧
      validatePassword "secret" = .ok () ∧
      ∃ moves T, Serial.Run Books.answer start moves T ∧ (∀ move ∈ moves, move.Whole) ∧
        (∀ i, (turns moves).count i ≤ 4) ∧ Served "alice" {} (turns moves) T := by
  intro start
  have hpass : validatePassword "secret" = .ok () := if_neg (by decide)
  obtain ⟨moves, T, a, run, whole, hok, herror⟩ :=
    @exists_refusal {} "alice" "secret" _ (fun _ => .replicate 7) {} rfl normalizeUsername_alice
      hpass
  have finished (i : Bool) : ∃ outcome, T.client i = some (.done outcome) := by
    cases i
    · exact ⟨_, herror⟩
    · exact ⟨_, hok⟩
  obtain ⟨few, -, served⟩ := signIn_interleaved rfl normalizeUsername_alice hpass run whole
  exact ⟨normalizeUsername_alice, hpass, moves, T, run, whole, few, served finished⟩

end Scrip
