import Mathlib.Data.List.Forall2

/-! Lists that correspond entry by entry. What holds of all entries, or of some entry, carries over
from one list to the other. -/

namespace List.Forall₂

variable {α β : Type} {R : α → β → Prop} {p : α → Prop} {q : β → Prop} {l : List α} {m : List β}

theorem exists_mem (h : Forall₂ R l m) {a : α} (ha : a ∈ l) : ∃ b ∈ m, R a b := by
  induction h with
  | nil => simp at ha
  | cons hab _ ih =>
    rcases mem_cons.1 ha with rfl | ha
    · exact ⟨_, by simp, hab⟩
    · obtain ⟨b, hb, hR⟩ := ih ha
      exact ⟨b, by simp [hb], hR⟩

theorem exists_mem_left (h : Forall₂ R l m) {b : β} (hb : b ∈ m) : ∃ a ∈ l, R a b := by
  have hflip : Forall₂ (fun b a => R a b) m l := h.flip
  exact hflip.exists_mem hb

/-- What corresponding entries have in common makes one list. -/
theorem map_eq_map {γ : Type} {f : α → γ} {g : β → γ} (h : Forall₂ R l m)
    (hfg : ∀ a b, R a b → g b = f a) : m.map g = l.map f := by
  induction h with
  | nil => rfl
  | cons hab _ ih => rw [map_cons, map_cons, ih, hfg _ _ hab]

theorem ne_nil_iff (h : Forall₂ R l m) : l ≠ [] ↔ m ≠ [] := by
  cases h <;> simp

theorem forall_mem_iff (h : Forall₂ (fun a b => p a ↔ q b) l m) :
    (∀ a ∈ l, p a) ↔ ∀ b ∈ m, q b := by
  induction h with
  | nil => simp
  | cons hab _ ih => rw [forall_mem_cons, forall_mem_cons, hab, ih]

theorem exists_mem_iff (h : Forall₂ (fun a b => p a ↔ q b) l m) :
    (∃ a ∈ l, p a) ↔ ∃ b ∈ m, q b := by
  induction h with
  | nil => simp
  | cons hab _ ih => rw [exists_mem_cons_iff, exists_mem_cons_iff, hab, ih]

/-- The lists correspond better when only their own entries are looked at. -/
theorem of_mem {S : α → β → Prop} (h : Forall₂ R l m) (hS : ∀ a ∈ l, ∀ b, R a b → S a b) :
    Forall₂ S l m := by
  induction h with
  | nil => exact .nil
  | cons hab _ ih =>
    exact .cons (hS _ (by simp) _ hab) (ih fun a ha => hS a (by simp [ha]))

end List.Forall₂
