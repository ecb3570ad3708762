import Scrip.Proofs.Credential.Username
import Scrip.Proofs.Engine.Work

/-!
# The names of accounts

No two accounts have the same username, and every username is the canonical spelling of a name
that was given to register, within the bounds of its length (`Books.Named`). No command changes
that (`Effect.named`).

* `Named.accountByName?_eq_some_iff`: an account is found by its username and by no other.
-/

namespace Scrip

open Credential

/-- The name that a command may register, as it was given. -/
def Command.registers? : Command → Option String
  | register username _ _ | signIn username _ _ => some username
  | _ => none

namespace Books

/-- A username of canonical spelling: a name that was given, with a length within bounds. -/
structure NameIn (given : String → Prop) (username : String) : Prop where
  least : usernameBounds.1 ≤ username.length
  most : username.length ≤ usernameBounds.2
  given : ∃ raw, given raw ∧ username = canonicalUsername raw

/-- Every account has a username of its own, of canonical spelling. -/
structure Named (given : String → Prop) (b : Books) : Prop where
  distinct : (b.accounts.map (·.username)).Nodup
  canonical : ∀ a ∈ b.accounts, NameIn given a.username

variable {given : String → Prop} {b b' : Books} {a : Account} {name : String}

@[simp] theorem usernames_addCoins (id : AccountId) (amount : Int) :
    (b.addCoins id amount).accounts.map (·.username) = b.accounts.map (·.username) := by
  simp only [addCoins, List.map_map]
  refine List.map_congr_left fun a _ => ?_
  simp only [Function.comp_apply]
  split <;> rfl

namespace Named

theorem empty : Named given {} :=
  ⟨.nil, List.forall_mem_nil _⟩

/-- It is a matter of usernames only. -/
theorem congr (h : b.Named given)
    (names : b'.accounts.map (·.username) = b.accounts.map (·.username)) : b'.Named given := by
  refine ⟨names ▸ h.distinct, fun a ha => ?_⟩
  have listed : a.username ∈ b.accounts.map (·.username) := names ▸ List.mem_map_of_mem ha
  obtain ⟨a', ha', he⟩ := List.mem_map.mp listed
  exact he ▸ h.canonical a' ha'

theorem withAccount (h : b.Named given) (fresh : b.accountByName? a.username = none)
    (ha : NameIn given a.username) : (b.withAccount a).Named given := by
  refine ⟨?_, fun a' ha' => ?_⟩
  · rw [Books.withAccount, List.map_append, List.map_singleton]
    refine List.nodup_append.mpr ⟨h.distinct, List.nodup_singleton _, fun n hn m hm => ?_⟩
    obtain ⟨a', ha', rfl⟩ := List.mem_map.mp hn
    cases List.mem_singleton.mp hm
    simpa using List.find?_eq_none.mp fresh a' ha'
  · rcases List.mem_append.mp ha' with ha' | ha'
    · exact h.canonical a' ha'
    · cases List.mem_singleton.mp ha'
      exact ha

/-- An account is found by its username and by no other. -/
theorem accountByName?_eq_some_iff (h : b.Named given) (ha : a ∈ b.accounts) :
    b.accountByName? name = some a ↔ name = a.username := by
  refine ⟨fun found => (accountByName?_mem found).2.symm, ?_⟩
  rintro rfl
  cases found : b.accountByName? a.username with
  | none => simpa using List.find?_eq_none.mp found a ha
  | some a' =>
    obtain ⟨ha', same⟩ := accountByName?_mem found
    exact congrArg some (List.inj_on_of_nodup_map h.distinct ha' ha same)

end Named

end Books

/-- The username of an account that is accepted. -/
theorem Engine.nameIn_of_newAccount? {e : Engine} {given : String → Prop}
    {username password : String} {salt : Crypt.Salt} {new : NewAccount}
    (accepted : e.newAccount? username password salt = .ok new) (hg : given username) :
    Books.NameIn given new.username := by
  obtain ⟨hn, -⟩ := newAccount?_eq_ok accepted
  obtain ⟨least, most⟩ := length_of_normalizeUsername hn
  exact ⟨least, most, username, hg, normalizeUsername_eq_ok hn⟩

/-- Every command keeps usernames apart and of canonical spelling. -/
theorem Effect.named {e : Engine} {given : String → Prop} {b b' : Books} {c : Command}
    {o : Outcome} (he : Effect e b c o b') (hg : ∀ raw, c.registers? = some raw → given raw)
    (h : b.Named given) : b'.Named given := by
  cases he with
  | look | signIn => exact h
  | register _ accepted fresh | signUp _ accepted fresh =>
    exact h.withAccount fresh (Engine.nameIn_of_newAccount? accepted (hg _ rfl))
  | addItem => exact h.congr rfl
  | transfer => exact h.congr (by simp [Books.withEntry])
  | purchase => exact h.congr (by simp [Books.withEntry])

end Scrip
