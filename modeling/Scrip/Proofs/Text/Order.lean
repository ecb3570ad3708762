import Scrip.Text.Normal

/-!
# Canonical ordering

Marks are ordered when no mark follows one of a higher class without a starter in between
(`Ordered`). Ordering makes text so and leaves ordered text alone.

Two texts that are `Alike` give the same ordered text whatever comes after them: they differ
by exchanges of marks of different classes (`Alike.pass`).
-/

namespace Scrip.Text.Normal

/-- No mark has a lower class than the mark in front of it. The first has at least the class
`least`, if it is a mark. -/
def Ordered (least : Nat) : List Char → Prop
  | [] => True
  | c :: cs => (combiningClass c = 0 ∨ least ≤ combiningClass c) ∧ Ordered (combiningClass c) cs

theorem Ordered.mono {least least' : Nat} (hl : least' ≤ least) {cs : List Char}
    (h : Ordered least cs) : Ordered least' cs := by
  cases cs with
  | nil => trivial
  | cons c cs => exact ⟨h.1.imp_right (Nat.le_trans hl), h.2⟩

theorem place_nil (c : Char) : place c [] = [c] :=
  rfl

/-- A mark is passed by one of a higher class. -/
theorem place_pass {c d : Char} {ds : List Char}
    (h : 0 < combiningClass d ∧ combiningClass d < combiningClass c) :
    place c (d :: ds) = d :: place c ds :=
  if_pos h

theorem place_stay {c d : Char} {ds : List Char}
    (h : ¬ (0 < combiningClass d ∧ combiningClass d < combiningClass c)) :
    place c (d :: ds) = c :: d :: ds :=
  if_neg h

/-- What is placed in ordered text leaves it ordered. -/
theorem ordered_place {c : Char} {least : Nat}
    (hc : combiningClass c = 0 ∨ least ≤ combiningClass c) :
    ∀ {ds : List Char}, Ordered least ds → Ordered least (place c ds)
  | [], _ => ⟨hc, trivial⟩
  | d :: ds, h => by
    by_cases hd : 0 < combiningClass d ∧ combiningClass d < combiningClass c
    · rw [place_pass hd]
      exact ⟨h.1, ordered_place (.inr (Nat.le_of_lt hd.2)) h.2⟩
    · rw [place_stay hd]
      exact ⟨hc, by omega, h.2⟩

theorem ordered_order : ∀ cs : List Char, Ordered 0 (order cs)
  | [] => trivial
  | _ :: cs => ordered_place (.inr (Nat.zero_le _)) (ordered_order cs)

/-- A character stays in front of text with which it is ordered. -/
theorem Ordered.place_eq {c : Char} {least : Nat} {ds : List Char} (h : Ordered least (c :: ds)) :
    place c ds = c :: ds := by
  cases ds with
  | nil => rfl
  | cons d ds =>
    have := h.2.1
    exact place_stay (by omega)

/-- Ordered text is left alone. -/
theorem Ordered.order_eq : ∀ {cs : List Char} {least : Nat}, Ordered least cs → order cs = cs
  | [], _, _ => rfl
  | c :: cs, _, h => by
    show place c (order cs) = c :: cs
    rw [h.2.order_eq]
    exact h.place_eq

theorem mem_place {c x : Char} : ∀ {ds : List Char}, x ∈ place c ds ↔ x = c ∨ x ∈ ds
  | [] => by simp only [place_nil, List.mem_singleton, List.not_mem_nil, or_false]
  | d :: ds => by
    by_cases hd : 0 < combiningClass d ∧ combiningClass d < combiningClass c
    · rw [place_pass hd, List.mem_cons, mem_place, List.mem_cons]
      exact or_left_comm
    · rw [place_stay hd, List.mem_cons]

/-- Ordering keeps the characters. -/
theorem mem_order {x : Char} : ∀ {cs : List Char}, x ∈ order cs ↔ x ∈ cs
  | [] => Iff.rfl
  | c :: cs => by
    show x ∈ place c (order cs) ↔ x ∈ c :: cs
    rw [mem_place, mem_order, List.mem_cons]

/-- It does not matter which of two marks of different classes is placed first. -/
theorem place_comm {c d : Char} (hc : 0 < combiningClass c)
    (hcd : combiningClass c < combiningClass d) :
    ∀ es : List Char, place c (place d es) = place d (place c es)
  | [] => by
    rw [place_nil, place_nil, place_stay (by omega), place_pass ⟨hc, hcd⟩, place_nil]
  | e :: es => by
    have ih := place_comm hc hcd es
    by_cases he : 0 < combiningClass e ∧ combiningClass e < combiningClass d
    · rw [place_pass he]
      by_cases he' : 0 < combiningClass e ∧ combiningClass e < combiningClass c
      · rw [place_pass he', place_pass he', place_pass he, ih]
      · rw [place_stay he', place_stay he', place_pass ⟨hc, hcd⟩, place_pass he]
    · have he' : ¬ (0 < combiningClass e ∧ combiningClass e < combiningClass c) := by omega
      rw [place_stay he, place_stay he', place_stay (by omega), place_pass ⟨hc, hcd⟩, place_stay he]

/-! ## Texts that are ordered alike -/

/-- The two texts are ordered to the same text, whatever comes after them. -/
def Alike (xs ys : List Char) : Prop :=
  ∀ ds, xs.foldr place ds = ys.foldr place ds

namespace Alike

variable {xs ys zs ws : List Char}

theorem refl (xs : List Char) : Alike xs xs := fun _ => rfl

theorem trans (h : Alike xs ys) (h' : Alike ys zs) : Alike xs zs := fun ds =>
  (h ds).trans (h' ds)

theorem append (h : Alike xs ys) (h' : Alike zs ws) : Alike (xs ++ zs) (ys ++ ws) := fun ds => by
  rw [List.foldr_append, List.foldr_append, h' ds, h]

theorem order_eq (h : Alike xs ys) : order xs = order ys :=
  h []

/-- A mark passes marks of lower classes. -/
theorem pass {c : Char} : ∀ {marks : List Char},
    (∀ d ∈ marks, 0 < combiningClass d ∧ combiningClass d < combiningClass c) →
    Alike (c :: marks) (marks ++ [c])
  | [], _ => refl [c]
  | d :: marks, h => fun ds => by
    have hd := h d (List.mem_cons_self ..)
    have ih := pass (fun d' hd' => h d' (List.mem_cons_of_mem _ hd')) ds
    simp only [List.foldr_cons, List.cons_append] at ih ⊢
    rw [← place_comm hd.1 hd.2, ih]

end Alike

end Scrip.Text.Normal
