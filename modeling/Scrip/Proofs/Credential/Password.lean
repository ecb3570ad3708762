import Scrip.Credential.Password
import Scrip.Proofs.Text.Base64

/-!
# Passwords and their hashes

The text that is kept for a hash is taken apart into that hash again (`ofText?_toText`), so
that a password gives the digest of its own hash (`verifyPassword_hashPassword`).
-/

namespace Scrip.Credential

open Crypt (Salt)
open Text

namespace StoredHash

/-- A text without a dollar sign in front of the pieces of another. -/
theorem foldr_pieces {cs : List Char} (h : '$' ∉ cs) (piece : List Char) (ps : List (List Char)) :
    cs.foldr (fun c (x : List Char × List (List Char)) =>
      if c = '$' then ([], x.1 :: x.2) else (c :: x.1, x.2)) (piece, ps) = (cs ++ piece, ps) := by
  induction cs with
  | nil => rfl
  | cons c cs ih =>
    rw [List.mem_cons, not_or] at h
    rw [List.foldr_cons, ih h.2, if_neg (Ne.symm h.1)]
    rfl

/-- The pieces of what is kept. -/
theorem pieces_kept {body : List Char} (h : '$' ∉ body) (hne : body ≠ []) :
    pieces ('$' :: '2' :: 'b' :: '$' :: '1' :: '0' :: '$' :: body) =
      [['2', 'b'], ['1', '0'], body] := by
  have hb := foldr_pieces h [] []
  rw [List.append_nil] at hb
  have hbody : (!body.isEmpty) = true := by simpa using hne
  unfold pieces
  simp only [List.foldr_cons, hb, if_true, Char.reduceEq, if_false, List.filter_cons,
    List.isEmpty_nil, List.isEmpty_cons, Bool.not_true, Bool.not_false, Bool.false_eq_true, hbody,
    List.filter_nil]

/-- What is kept for a hash of the usual cost is taken apart into that hash. -/
theorem ofText?_toText {salt : Salt} {digest : List UInt8} (hd : digest.length = 23) :
    ofText? (toText ⟨hashCost, salt, digest⟩) = some ⟨hashCost, salt, digest⟩ := by
  have hs : salt.bytes.data.toList.length = 16 := by
    rw [Array.length_toList]
    exact salt.size_eq
  have text : (toText ⟨hashCost, salt, digest⟩).toList =
      '$' :: '2' :: 'b' :: '$' :: '1' :: '0' :: '$' ::
        (Base64.encode Base64.crypt salt.bytes.data.toList ++
          Base64.encode Base64.crypt digest) := by
    have cost : (toString hashCost).toList = ['1', '0'] := by decide
    simp only [toText, String.toList_append, String.toList_ofList, cost]
    rfl
  have salt_length : (Base64.encode Base64.crypt salt.bytes.data.toList).length = 22 := by
    rw [Base64.length_encode, hs]
  have digest_length : (Base64.encode Base64.crypt digest).length = 31 := by
    rw [Base64.length_encode, hd]
  have no_dollar : '$' ∉ Base64.encode Base64.crypt salt.bytes.data.toList ++
      Base64.encode Base64.crypt digest := by
    have digits : ∀ v < 64, Base64.digit Base64.crypt v ≠ '$' := by decide +kernel
    intro h
    rcases List.mem_append.mp h with h | h <;>
    · obtain ⟨v, hv, he⟩ := Base64.mem_encode h
      exact digits v hv he.symm
  have body_length : (Base64.encode Base64.crypt salt.bytes.data.toList ++
      Base64.encode Base64.crypt digest).length = 53 := by
    rw [List.length_append, salt_length, digest_length]
  have kept := pieces_kept no_dollar (List.ne_nil_of_length_eq_add_one body_length)
  have cost : Numeral.natural? 32 ['1', '0'] = some hashCost := by decide +kernel
  have usual : ["2a", "2b", "2x", "2y"].contains (String.ofList ['2', 'b']) ∧
      costBounds.1 ≤ hashCost ∧ hashCost ≤ costBounds.2 := by decide +kernel
  have salt_read : salt? salt.bytes.data.toList = some salt := dif_pos salt.size_eq
  unfold ofText?
  simp only [text, kept, cost, usual, body_length, true_and, if_true, Option.bind_eq_bind,
    Option.bind_some, List.take_left' salt_length, List.drop_left' salt_length,
    Base64.decode?_encode Base64.crypt_proper, salt_read]

end StoredHash

/-- A digest has 23 bytes. -/
theorem length_digest (cost : Nat) (salt : Salt) (password : String) :
    (Crypt.Bcrypt.digest cost salt password).length = 23 := by
  unfold Crypt.Bcrypt.digest Crypt.Bcrypt.digestOfKey Crypt.Bcrypt.plaintext
  generalize Crypt.expensiveBoxes cost salt.bytes (Crypt.Bcrypt.key password) = boxes
  simp only [List.flatMap_cons, List.flatMap_nil, List.length_take, List.length_append,
    Crypt.Bcrypt.blockBytes, List.length_map, List.length_range, List.length_nil]
  rfl

/-- A password gives the digest of its own hash. -/
theorem verifyPassword_hashPassword (salt : Salt) (password : String) :
    verifyPassword password (hashPassword salt password) = true := by
  have fits : (Crypt.Bcrypt.digest hashCost salt password).length = 23 := length_digest ..
  have read := @StoredHash.ofText?_toText salt _ fits
  rw [verifyPassword, hashPassword, read]
  exact beq_self_eq_true _

end Scrip.Credential
