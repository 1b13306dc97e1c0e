import Mathlib
import FloodUp.Publish.Event

/-!
# Storage paths

The path of an image is the number of the category, a slash and the clock reading, in
decimal. Both numbers can be read off a path, so two uploads have the same path exactly when
they have the same category and the same reading.
-/

namespace FloodUp

/-- What stands in front of the first separator and what stands behind it. -/
theorem append_separator_inj {α : Type} {x : α} {l₁ l₂ r₁ r₂ : List α} (h₁ : x ∉ l₁) (h₂ : x ∉ l₂)
    (h : l₁ ++ x :: r₁ = l₂ ++ x :: r₂) : l₁ = l₂ ∧ r₁ = r₂ := by
  induction l₁ generalizing l₂ with
  | nil =>
    cases l₂ with
    | nil => simpa using h
    | cons b l₂ =>
      simp only [List.nil_append, List.cons_append, List.cons.injEq] at h
      exact absurd (h.1 ▸ List.mem_cons_self) h₂
  | cons a l₁ ih =>
    cases l₂ with
    | nil =>
      simp only [List.nil_append, List.cons_append, List.cons.injEq] at h
      exact absurd (h.1 ▸ List.mem_cons_self) h₁
    | cons b l₂ =>
      simp only [List.cons_append, List.cons.injEq] at h
      obtain ⟨rfl, htail⟩ := h
      obtain ⟨rfl, hr⟩ := ih (fun hx => h₁ (List.mem_cons_of_mem a hx))
        (fun hx => h₂ (List.mem_cons_of_mem a hx)) htail
      exact ⟨rfl, hr⟩

theorem slash_notMem_categoryNumber (category : ℕ) : '/' ∉ (categoryNumber category).toList := by
  intro hmem
  have hdigit : '/' ∈ Nat.toDigits 10 (category + 1) := by
    rw [← Nat.toList_repr]
    exact hmem
  exact absurd (Nat.isDigit_of_mem_toDigits (by decide) (by decide) hdigit) (by decide)

/-- The folder of the images of a category. -/
def categoryFolder (category : ℕ) : String := categoryNumber category ++ "/"

/-- The stored number determines the category. -/
theorem categoryNumber_inj {category category' : ℕ}
    (h : categoryNumber category = categoryNumber category') : category = category' := by
  have hsucc : category + 1 = category' + 1 := Nat.repr_injective h
  omega

/-- A path determines the category and the clock reading it is made of. -/
theorem path_inj {category category' : ℕ} {u u' : Upload} (hu : u.categoryNo = categoryFolder category)
    (hu' : u'.categoryNo = categoryFolder category') (h : u.path = u'.path) :
    category = category' ∧ u.millis = u'.millis := by
  have hlist : (categoryNumber category).toList ++ '/' :: (toString u.millis).toList
      = (categoryNumber category').toList ++ '/' :: (toString u'.millis).toList := by
    have := congrArg String.toList h
    simpa [Upload.path, hu, hu', categoryFolder] using this
  obtain ⟨hnumber, hmillis⟩ := append_separator_inj (slash_notMem_categoryNumber category)
    (slash_notMem_categoryNumber category') hlist
  exact ⟨categoryNumber_inj (String.toList_inj.mp hnumber),
    Int.repr_injective (String.toList_inj.mp hmillis)⟩

end FloodUp
