import Bookend.Registry.Order
import Mathlib.Data.List.Sort
import Mathlib.Data.Prod.Lex

namespace Bookend

/-- The same things by ascending keys. -/
def ascending [LinearOrder κ] (key : α → κ) (as : List α) : List α :=
  as.insertionSort fun a b => key a ≤ key b

/-- The same things by descending keys. -/
def descending [LinearOrder κ] (key : α → κ) (as : List α) : List α :=
  ascending (fun a => OrderDual.toDual (key a)) as

variable {α β κ : Type} [LinearOrder κ] {before : α → α → Bool}

theorem ascending_perm (key : α → κ) (as : List α) : (ascending key as).Perm as :=
  List.perm_insertionSort _ as

theorem descending_perm (key : α → κ) (as : List α) : (descending key as).Perm as :=
  ascending_perm _ as

theorem ascending_pairwise (key : α → κ) (as : List α) :
    (ascending key as).Pairwise fun a b => key a ≤ key b := by
  have htotal : Std.Total fun a b : α => key a ≤ key b := ⟨fun a b => le_total (key a) (key b)⟩
  have htrans : IsTrans α fun a b => key a ≤ key b := ⟨fun _ _ _ => le_trans⟩
  exact List.pairwise_insertionSort _ as

/-- Keys that tell the elements apart leave one way only to arrange them. -/
theorem eq_ascending (key : α → κ) {as bs : List α} (hp : bs.Perm as)
    (hs : bs.Pairwise fun a b => key a ≤ key b)
    (hinj : ∀ a ∈ as, ∀ b ∈ as, key a = key b → a = b) : bs = ascending key as := by
  have hp' := hp.trans (ascending_perm key as).symm
  refine List.Perm.eq_of_pairwise ?_ hs (ascending_pairwise key as) hp'
  intro a b ha hb hab hba
  have hb' : b ∈ as := (ascending_perm key as).mem_iff.mp hb
  exact hinj a (hp.mem_iff.mp ha) b hb' (le_antisymm hab hba)

theorem eq_descending (key : α → κ) {as bs : List α} (hp : bs.Perm as)
    (hs : bs.Pairwise fun a b => key b ≤ key a)
    (hinj : ∀ a ∈ as, ∀ b ∈ as, key a = key b → a = b) : bs = descending key as :=
  eq_ascending (fun a => OrderDual.toDual (key a)) hp hs
    fun a ha b hb he => hinj a ha b hb (OrderDual.toDual.injective he)

theorem map_ascending (f : α → β) (key : β → κ) (as : List α) :
    (ascending (fun a => key (f a)) as).map f = ascending key (as.map f) :=
  List.map_insertionSort _ _ f as fun _ _ _ _ => Iff.rfl

theorem map_descending (f : α → β) (key : β → κ) (as : List α) :
    (descending (fun a => key (f a)) as).map f = descending key (as.map f) :=
  map_ascending f (fun b => OrderDual.toDual (key b)) as

theorem insertBehind_perm (before : α → α → Bool) (a : α) (as : List α) :
    (insertBehind before a as).Perm (a :: as) := by
  induction as with
  | nil => exact List.Perm.refl _
  | cons b bs ih =>
    simp only [insertBehind]
    split
    · exact (ih.cons b).trans (List.Perm.swap a b bs)
    · exact List.Perm.refl _

/-- Going in behind everything with a key that is not greater keeps ascending keys. -/
theorem insertBehind_pairwise {key : α → κ} {a : α} {as : List α}
    (hb : ∀ b ∈ as, before b a = true ↔ key b ≤ key a)
    (hs : as.Pairwise fun a b => key a ≤ key b) :
    (insertBehind before a as).Pairwise fun a b => key a ≤ key b := by
  induction as with
  | nil => exact List.pairwise_singleton _ a
  | cons b bs ih =>
    obtain ⟨hhead, htail⟩ := List.pairwise_cons.mp hs
    simp only [insertBehind]
    split
    · rename_i h
      refine List.pairwise_cons.mpr ⟨?_, ih (fun c hc => hb c (List.mem_cons_of_mem _ hc)) htail⟩
      intro c hc
      rcases List.mem_cons.mp ((insertBehind_perm before a bs).mem_iff.mp hc) with rfl | hc
      · exact (hb b List.mem_cons_self).mp h
      · exact hhead c hc
    · rename_i h
      have hlt : key a ≤ key b := by
        have hn := (hb b List.mem_cons_self).not.mp h
        exact le_of_lt (lt_of_not_ge hn)
      refine List.pairwise_cons.mpr ⟨?_, hs⟩
      intro c hc
      rcases List.mem_cons.mp hc with rfl | hc
      · exact hlt
      · exact le_trans hlt (hhead c hc)

private theorem foldl_insertBehind_perm (before : α → α → Bool) (as sorted : List α) :
    (as.foldl (fun sorted a => insertBehind before a sorted) sorted).Perm (as ++ sorted) := by
  induction as generalizing sorted with
  | nil => exact List.Perm.refl _
  | cons a as ih =>
    have hp := (ih (insertBehind before a sorted)).trans
      ((insertBehind_perm before a sorted).append_left as)
    exact hp.trans List.perm_middle

theorem arrange_perm (before : α → α → Bool) (as : List α) : (arrange before as).Perm as := by
  simpa [arrange] using foldl_insertBehind_perm before as []

theorem arrange_pairwise {key : α → κ} {as : List α}
    (hb : ∀ a ∈ as, ∀ b ∈ as, before b a = true ↔ key b ≤ key a) :
    (arrange before as).Pairwise fun a b => key a ≤ key b := by
  suffices h : ∀ (rest sorted : List α), rest ⊆ as → sorted ⊆ as →
      sorted.Pairwise (fun a b => key a ≤ key b) →
      (rest.foldl (fun sorted a => insertBehind before a sorted) sorted).Pairwise
        fun a b => key a ≤ key b from
    h as [] (List.Subset.refl _) (List.nil_subset _) List.Pairwise.nil
  intro rest
  induction rest with
  | nil => exact fun _ _ _ hs => hs
  | cons a rest ih =>
    intro sorted hrest hsorted hs
    obtain ⟨ha, hrest⟩ := List.cons_subset.mp hrest
    apply ih _ hrest
    · intro b hm
      rcases List.mem_cons.mp ((insertBehind_perm before a sorted).mem_iff.mp hm) with rfl | hm
      · exact ha
      · exact hsorted hm
    · exact insertBehind_pairwise (fun b hm => hb a ha b (hsorted hm)) hs

/-- Arranging by a test that compares keys is sorting by them. -/
theorem arrange_eq_ascending (before : α → α → Bool) (key : α → κ) {as : List α}
    (hb : ∀ a ∈ as, ∀ b ∈ as, before b a = true ↔ key b ≤ key a)
    (hinj : ∀ a ∈ as, ∀ b ∈ as, key a = key b → a = b) :
    arrange before as = ascending key as :=
  eq_ascending key (arrange_perm before as) (arrange_pairwise hb) hinj

theorem arrange_eq_descending (before : α → α → Bool) (key : α → κ) {as : List α}
    (hb : ∀ a ∈ as, ∀ b ∈ as, before b a = true ↔ key a ≤ key b)
    (hinj : ∀ a ∈ as, ∀ b ∈ as, key a = key b → a = b) :
    arrange before as = descending key as :=
  arrange_eq_ascending before (fun a => OrderDual.toDual (key a)) hb
    fun a ha b hb he => hinj a ha b hb (OrderDual.toDual.injective he)

end Bookend
