import Scrip.Proofs.Text.Nfc

/-!
# Trimmed text

A text is tight when it neither begins nor ends with a blank. Trimming makes text tight and
leaves tight text alone, and normalization keeps it tight: no step of it brings a blank to
one of the ends, since blanks are starters that compose with nothing.
-/

namespace Scrip.Text

/-- The text does not begin with a blank. -/
def BeginsTight (cs : List Char) : Prop :=
  ∀ c, cs.head? = some c → isBlank c = false

/-- The text does not end with a blank. -/
def EndsTight (cs : List Char) : Prop :=
  ∀ c, cs.getLast? = some c → isBlank c = false

theorem BeginsTight.reverse {cs : List Char} (h : BeginsTight cs) : EndsTight cs.reverse :=
  fun c hc => h c (List.getLast?_reverse ▸ hc)

theorem EndsTight.reverse {cs : List Char} (h : EndsTight cs) : BeginsTight cs.reverse :=
  fun c hc => h c (List.head?_reverse ▸ hc)

theorem BeginsTight.dropWhile_eq {cs : List Char} (h : BeginsTight cs) :
    cs.dropWhile isBlank = cs := by
  cases cs with
  | nil => rfl
  | cons c cs => rw [List.dropWhile_cons, h c rfl, if_neg (by decide)]

theorem beginsTight_dropWhile (cs : List Char) : BeginsTight (cs.dropWhile isBlank) := by
  intro c hc
  have := List.head?_dropWhile_not isBlank cs
  rw [hc] at this
  simpa using this

theorem EndsTight.of_suffix {cs ds : List Char} (h : EndsTight cs) (hs : ds <:+ cs) :
    EndsTight ds := by
  obtain ⟨es, rfl⟩ := hs
  intro c hc
  exact h c (by rw [List.getLast?_append, hc]; rfl)

/-- Trimmed text is tight. -/
theorem trimChars_tight (cs : List Char) :
    BeginsTight (trimChars cs) ∧ EndsTight (trimChars cs) := by
  have front := beginsTight_dropWhile cs
  refine ⟨EndsTight.reverse ?_, (beginsTight_dropWhile _).reverse⟩
  exact front.reverse.of_suffix (List.dropWhile_suffix _)

/-- Tight text is not changed by trimming. -/
theorem trimChars_eq {cs : List Char} (hb : BeginsTight cs) (he : EndsTight cs) :
    trimChars cs = cs := by
  rw [trimChars, hb.dropWhile_eq, he.reverse.dropWhile_eq, List.reverse_reverse]

namespace Normal

/-! ## Decomposition -/

theorem beginsTight_decompose {cs : List Char} (h : BeginsTight cs) :
    BeginsTight (decompose cs) := by
  cases cs with
  | nil => exact h
  | cons c cs =>
    obtain ⟨hne, hb⟩ := decomposeChar_not_blank (h c rfl)
    obtain ⟨d, ds, hd⟩ := List.exists_cons_of_ne_nil hne
    rw [decompose_cons, hd]
    intro x hx
    obtain rfl := Option.some.inj hx
    exact hb d (hd ▸ List.mem_cons_self ..)

theorem endsTight_decompose {cs : List Char} (h : EndsTight cs) : EndsTight (decompose cs) := by
  rcases cs.eq_nil_or_concat with rfl | ⟨cs, c, rfl⟩
  · exact h
  · rw [List.concat_eq_append] at h ⊢
    obtain ⟨hne, hb⟩ := decomposeChar_not_blank (h c List.getLast?_concat)
    intro x hx
    rw [decompose_append, decompose_cons, List.getLast?_append] at hx
    have last : (decomposeChar c ++ decompose []).getLast? =
        some ((decomposeChar c).getLast hne) := by
      rw [← List.getLast?_eq_some_getLast hne]
      exact congrArg List.getLast? (List.append_nil _)
    rw [last] at hx
    obtain rfl := Option.some.inj hx
    exact hb _ (List.getLast_mem hne)

/-! ## Ordering -/

/-- A character that is placed comes first, or a mark does. -/
theorem head?_place {c x : Char} {ds : List Char} (h : (place c ds).head? = some x) :
    x = c ∨ combiningClass x ≠ 0 := by
  cases ds with
  | nil => exact .inl (Option.some.inj h).symm
  | cons d ds =>
    by_cases hd : 0 < combiningClass d ∧ combiningClass d < combiningClass c
    · rw [place_pass hd] at h
      obtain rfl := Option.some.inj h
      exact .inr (Nat.ne_of_gt hd.1)
    · rw [place_stay hd] at h
      exact .inl (Option.some.inj h).symm

theorem beginsTight_order {cs : List Char} (h : BeginsTight cs) : BeginsTight (order cs) := by
  cases cs with
  | nil => exact h
  | cons c cs =>
    intro x hx
    rcases head?_place hx with rfl | hm
    · exact h x rfl
    · exact not_blank_of_mark hm

/-- Text in which a character is placed ends as before, unless a mark came last. -/
theorem endsTight_place {c : Char} : ∀ {ds : List Char}, EndsTight ds →
    (ds = [] → isBlank c = false) → EndsTight (place c ds)
  | [], _, hc => fun x hx => by
    obtain rfl := Option.some.inj hx
    exact hc rfl
  | d :: ds, h, _ => by
    by_cases hd : 0 < combiningClass d ∧ combiningClass d < combiningClass c
    · rw [place_pass hd]
      have hds : EndsTight ds := h.of_suffix (List.suffix_cons _ _)
      have ih : EndsTight (place c ds) := endsTight_place hds fun _ => not_blank_of_mark (by omega)
      intro x hx
      have hne : place c ds ≠ [] := List.ne_nil_of_mem (mem_place.mpr (.inl rfl))
      rw [List.getLast?_cons_of_ne_nil hne] at hx
      exact ih x hx
    · rw [place_stay hd]
      exact h

theorem endsTight_order : ∀ {cs : List Char}, EndsTight cs → EndsTight (order cs)
  | [], h => h
  | c :: cs, h => by
    have ih := endsTight_order (h.of_suffix (List.suffix_cons _ _))
    refine endsTight_place ih fun hnil => h c ?_
    have : cs = [] := List.eq_nil_iff_forall_not_mem.mpr fun x hx => by
      have := mem_order.mpr hx
      rw [show order cs = [] from hnil] at this
      cases this
    rw [this]
    rfl

/-! ## Composition -/

theorem beginsTight_composeAfter : ∀ {cs : List Char} {starter : Char} {kept : List Char}
    {last : Nat},
    isBlank starter = false → BeginsTight (composeAfter starter kept last cs)
  | [], starter, kept, last, hs => fun x hx => by
    obtain rfl := Option.some.inj hx
    exact hs
  | c :: cs, starter, kept, last, hs => by
    rcases composeAfter_cases starter c kept last cs with
      ⟨composite, -, hjoin, heq⟩ | ⟨-, heq⟩ | ⟨-, heq⟩ <;> rw [heq]
    · exact beginsTight_composeAfter (composePair_not_blank hjoin)
    · intro x hx
      obtain rfl := Option.some.inj hx
      exact hs
    · exact beginsTight_composeAfter hs

theorem beginsTight_compose {cs : List Char} (h : BeginsTight cs) : BeginsTight (compose cs) := by
  cases cs with
  | nil => exact h
  | cons c cs =>
    rw [compose]
    split
    · exact beginsTight_composeAfter (h c rfl)
    · exact fun x hx => h x hx

/-- What comes last in a text is its first character, if it is the only one, or comes last in
the rest. -/
theorem endsTight_cons {c : Char} {cs : List Char} (hc : cs = [] → isBlank c = false)
    (h : EndsTight cs) : EndsTight (c :: cs) := by
  intro x hx
  cases cs with
  | nil =>
    obtain rfl := Option.some.inj hx
    exact hc rfl
  | cons d ds => exact h x (List.getLast?_cons_cons ▸ hx)

theorem composeAfter_ne_nil : ∀ (cs : List Char) (starter : Char) (kept : List Char) (last : Nat),
    composeAfter starter kept last cs ≠ []
  | [], _, _, _ => List.cons_ne_nil _ _
  | c :: cs, starter, kept, last => by
    rcases composeAfter_cases starter c kept last cs with
      ⟨composite, -, -, heq⟩ | ⟨-, heq⟩ | ⟨-, heq⟩ <;> rw [heq]
    · exact composeAfter_ne_nil cs _ _ _
    · exact List.cons_ne_nil _ _
    · exact composeAfter_ne_nil cs _ _ _

theorem endsTight_composeAfter : ∀ {cs : List Char} {starter : Char} {kept : List Char}
    {last : Nat}, EndsTight cs → (∀ c ∈ kept, isBlank c = false) →
    (cs = [] → kept = [] → isBlank starter = false) → EndsTight (composeAfter starter kept last cs)
  | [], starter, kept, last, _, hk, hs => by
    refine endsTight_cons (fun hn => hs rfl (List.reverse_eq_nil_iff.mp hn)) fun x hx => ?_
    exact hk x (List.mem_reverse.mp (List.mem_of_getLast? hx))
  | c :: cs, starter, kept, last, h, hk, hs => by
    have hcs : EndsTight cs := h.of_suffix (List.suffix_cons _ _)
    rcases composeAfter_cases starter c kept last cs with
      ⟨composite, -, hjoin, heq⟩ | ⟨-, heq⟩ | ⟨hmark, heq⟩ <;> rw [heq]
    · exact endsTight_composeAfter hcs hk fun _ _ => composePair_not_blank hjoin
    · have ih : EndsTight (composeAfter c [] 0 cs) :=
        endsTight_composeAfter hcs (by simp) fun hn _ => h c (by rw [hn]; rfl)
      intro x hx
      rw [List.getLast?_append,
        List.getLast?_eq_some_getLast (composeAfter_ne_nil cs c [] 0)] at hx
      exact ih x ((List.getLast?_eq_some_getLast _).trans hx)
    · refine endsTight_composeAfter hcs (fun d hd => ?_) nofun
      rcases List.mem_cons.mp hd with rfl | hd
      · exact not_blank_of_mark (Nat.ne_of_gt hmark)
      · exact hk d hd

theorem endsTight_compose : ∀ {cs : List Char}, EndsTight cs → EndsTight (compose cs)
  | [], h => h
  | c :: cs, h => by
    have hcs : EndsTight cs := h.of_suffix (List.suffix_cons _ _)
    rw [compose]
    split
    · exact endsTight_composeAfter hcs (by simp) fun hn _ => h c (by rw [hn]; rfl)
    · rename_i hmark
      exact endsTight_cons (fun _ => not_blank_of_mark hmark) (endsTight_compose hcs)

/-- The normalization of trimmed text is trimmed. -/
theorem trimChars_nfcChars (cs : List Char) :
    trimChars (nfcChars (trimChars cs)) = nfcChars (trimChars cs) := by
  obtain ⟨hb, he⟩ := trimChars_tight cs
  exact trimChars_eq (beginsTight_compose (beginsTight_order (beginsTight_decompose hb)))
    (endsTight_compose (endsTight_order (endsTight_decompose he)))

end Normal

end Scrip.Text
