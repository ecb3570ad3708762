import Scrip.Proofs.Engine.Indistinct
import Scrip.Proofs.Engine.Movement
import Scrip.Proofs.Framework.Heeds

/-!
# Locks of movements

A movement locks the accounts that it moves coins of in the order of their numbers, and changes
only what it has locked (`Movement.exchange_heeds`). The coins of an account that it searched
without a lock do not matter to it (`Movement.leads_retold`).
-/

namespace Scrip

open Work

variable {log : List Exchanged}

/-! ## What is locked -/

namespace Engine

/-- An account is locked above all that were locked before. -/
theorem lock_heeds {id : AccountId} (above : ∀ other ∈ locked log, other < id) :
    (lock id).Heeds log fun a log' =>
      Granted log' a.id ∧ log ⊆ log' ∧ locked log' = locked log ++ [id] := by
  refine (Heeds.request (P := fun x log' => ∀ a, x = some a →
    Granted log' a.id ∧ log ⊆ log' ∧ locked log' = locked log ++ [id]) ?_ ?_ ?_).bind
    fun x log' h => .found h
  · rintro _ ⟨⟩ other ho
    exact above other ho
  · exact nofun
  · rintro _ honest a rfl
    have same : a.id = id := honest id a rfl
    refine ⟨⟨a, rfl, ?_⟩, List.subset_append_left _ _, locked_snoc log _⟩
    rw [same]
    exact List.mem_append_right _ (List.mem_singleton_self _)

/-- Two accounts are locked in the order of their numbers, whichever is asked for first. -/
theorem lockPair_heeds {i j : AccountId} (apart : i ≠ j) (first : locked log = []) :
    (lockPair i j).Heeds log fun x log' => Granted log' x.1.id ∧ Granted log' x.2.id := by
  refine (lock_heeds (by rw [first]; exact nofun)).bind fun low log' ⟨hl, _, asked⟩ => ?_
  have above : ∀ other ∈ locked log', other < max i j := by
    rw [asked, first, List.nil_append, List.forall_mem_singleton]
    exact min_lt_max.mpr apart
  refine (lock_heeds above).bind fun high log' ⟨hh, sub, _⟩ => .pure ?_
  split
  · exact ⟨hl.mono sub, hh⟩
  · exact ⟨hh, hl.mono sub⟩

theorem moveCoins_heeds {id : AccountId} {name : String} {amount : Int} (first : locked log = []) :
    (moveCoins id name amount).Heeds log fun _ _ => True := by
  refine Heeds.search fun s log' hs => Heeds.search fun r log'' hr => ?_
  have unlocked : locked log'' = [] := by rw [hr, hs, first]
  refine (Heeds.checked (P := fun _ log' => locked log' = [] ∧ s.id ≠ r.id)
    fun entry ok => ⟨unlocked, (NewEntry.transfer?_eq_ok ok).2.1⟩).bind
    fun entry _ ⟨unlocked, apart⟩ => ?_
  refine (lockPair_heeds apart unlocked).bind fun ⟨s, r⟩ log ⟨hs, hr⟩ => .guard (.guard ?_)
  refine Heeds.bind (.change hs) fun _ log' ⟨_, sub⟩ => .guard ?_
  refine Heeds.bind (.change (hr.mono sub)) fun _ _ _ => .guard ?_
  exact (Heeds.read).mono fun _ _ _ => trivial

theorem raise_heeds {account : AccountId} {item : ItemId} (held : Granted log account) :
    (raise account item).Heeds log fun _ _ => True := by
  refine Heeds.bind (.change held) fun _ _ _ => ?_
  split
  · exact .throw nofun
  · exact .pure trivial

/-- What an account holds is changed only when the account is locked. -/
theorem takeOne_heeds {account : AccountId} {item : ItemId} (held : Granted log account) :
    (takeOne account item).Heeds log fun _ _ => True := by
  refine Heeds.bind .read fun _ _ ⟨_, sub⟩ => ?_
  split
  · refine Heeds.bind (.change (held.mono sub)) fun _ _ ⟨_, sub'⟩ => ?_
    split
    · exact .pure trivial
    · exact raise_heeds (held.mono fun _ hx => sub' (sub hx))
  · exact raise_heeds (held.mono sub)

theorem buy_heeds {id : AccountId} {name : String} (first : locked log = []) :
    (buy id name).Heeds log fun _ _ => True := by
  refine Heeds.search fun item log' same => ?_
  refine (lock_heeds (by rw [same, first]; exact nofun)).bind fun buyer _ ⟨held, _⟩ => ?_
  refine (Heeds.checked (P := fun _ log' => Granted log' buyer.id) fun _ _ => held).bind
    fun entry _ held => .guard ?_
  refine Heeds.bind (.change held) fun _ _ ⟨_, sub⟩ => .guard ?_
  exact (takeOne_heeds (held.mono sub)).bind fun _ _ _ => (Heeds.read).mono fun _ _ _ => trivial

end Engine

/-- Whatever a movement is answered, its calls heed locks. -/
theorem Movement.exchange_heeds (e : Engine) (deadline : Option Nat) (m : Movement) :
    (m.exchange e deadline).Heeds [] Exchange.Heeds.Settled := by
  cases m with
  | transfer sender recipient amount =>
    show (e.transfer sender recipient amount deadline).Heeds [] _
    unfold Engine.transfer
    split
    · exact .done fun _ => rfl
    · exact Exchange.Heeds.unit _ _ (Engine.moveCoins_heeds rfl)
  | purchase buyer item => exact Exchange.Heeds.unit _ _ (Engine.buy_heeds rfl)

/-! ## Coins that were read without a lock -/

/-- The same call with the same reply, but for the coins of an account that was only searched. -/
inductive Exchanged.Retold : Exchanged → Exchanged → Prop
  | same (x : Exchanged) : Retold x x
  | account (id : AccountId) (a : Account) (coins : Int) :
      Retold ⟨.within (.account id), .ok (some a)⟩
        ⟨.within (.account id), .ok (some { a with coins })⟩
  | accountByName (name : String) (a : Account) (coins : Int) :
      Retold ⟨.within (.accountByName name), .ok (some a)⟩
        ⟨.within (.accountByName name), .ok (some { a with coins })⟩

/-- A movement does not tell apart what is retold. -/
theorem Exchanged.Retold.like {x y : Exchanged} (h : x.Retold y) :
    ∃ c reply reply', x = ⟨c, reply⟩ ∧ y = ⟨c, reply'⟩ ∧
      c.Like Request.Indistinct reply reply' := by
  cases h with
  | same => exact ⟨_, _, _, rfl, rfl, Call.like_refl Request.Indistinct.refl ..⟩
  | account | accountByName => exact ⟨_, _, _, rfl, rfl, .ok rfl⟩

theorem Movement.exchange_indistinct (e : Engine) (deadline : Option Nat) (m : Movement) :
    Exchange.Paired Request.Indistinct (Matches Eq) (m.exchange e deadline)
      (m.exchange e deadline) := by
  cases m with
  | transfer sender recipient amount =>
    show Exchange.Paired _ _ (e.transfer ..) (e.transfer ..)
    unfold Engine.transfer
    split
    · exact .done (Matches.error _)
    · exact .unit _ _ (Engine.moveCoins_indistinct ..)
  | purchase buyer item => exact .unit _ _ (Engine.buy_indistinct ..)

/-- What is left of a movement is the same when accounts that it searched had other coins. -/
theorem Movement.leads_retold (e : Engine) (deadline : Option Nat) (m : Movement)
    {d : Exchange (Except Error Entry)} {log log' : List Exchanged}
    (h : (m.exchange e deadline).Leads log d) (retold : log.Forall₂ Exchanged.Retold log') :
    (m.exchange e deadline).Leads log' d := by
  obtain ⟨d', left, paired⟩ := (m.exchange_indistinct e deadline).leads
    (fun _ _ => Exchanged.Retold.like) h retold
  rw [paired.eq (Call.like_refl Request.Indistinct.refl) fun _ _ matched => matched.eq]
  exact left

end Scrip
