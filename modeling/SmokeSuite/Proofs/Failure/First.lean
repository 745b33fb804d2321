namespace SmokeSuite

/-- The first element on which a function fails, with its error. -/
def FailsFirst {ε α β : Type} (f : α → Except ε β) (as : List α) (a : α) (e : ε) : Prop :=
  ∃ before after, as = before ++ a :: after ∧ (∀ b ∈ before, ∃ y, f b = .ok y) ∧ f a = .error e

namespace FailsFirst

variable {ε α β : Type} {f g : α → Except ε β} {as : List α} {a b : α} {e : ε}

theorem not_nil : ¬ FailsFirst f [] a e := by
  rintro ⟨before, after, h, -⟩
  cases before <;> cases h

theorem head_iff {e' : ε} (hb : f b = .error e') : FailsFirst f (b :: as) a e ↔ b = a ∧ e' = e := by
  constructor
  · rintro ⟨before, after, h, hok, ha⟩
    cases before with
    | nil =>
      obtain ⟨rfl, -⟩ := List.cons.inj h
      rw [hb] at ha
      exact ⟨rfl, Except.error.inj ha⟩
    | cons c before =>
      obtain ⟨rfl, -⟩ := List.cons.inj h
      obtain ⟨y, hy⟩ := hok b (by simp)
      rw [hb] at hy
      cases hy
  · rintro ⟨rfl, rfl⟩
    exact ⟨[], as, rfl, by simp, hb⟩

theorem tail_iff {y : β} (hb : f b = .ok y) : FailsFirst f (b :: as) a e ↔ FailsFirst f as a e := by
  constructor
  · rintro ⟨before, after, h, hok, ha⟩
    cases before with
    | nil =>
      obtain ⟨rfl, -⟩ := List.cons.inj h
      rw [hb] at ha
      cases ha
    | cons c before =>
      obtain ⟨rfl, rfl⟩ := List.cons.inj h
      exact ⟨before, after, rfl, (List.forall_mem_cons.1 hok).2, ha⟩
  · rintro ⟨before, after, rfl, hok, ha⟩
    exact ⟨b :: before, after, rfl, List.forall_mem_cons.2 ⟨⟨y, hb⟩, hok⟩, ha⟩

theorem congr (h : ∀ x ∈ as, f x = g x) : FailsFirst f as a e ↔ FailsFirst g as a e := by
  induction as with
  | nil => exact ⟨fun h => (not_nil h).elim, fun h => (not_nil h).elim⟩
  | cons b as ih =>
    obtain ⟨hb, has⟩ := List.forall_mem_cons.1 h
    cases hf : f b with
    | error e' => rw [head_iff hf, head_iff (hb ▸ hf)]
    | ok y => rw [tail_iff hf, tail_iff (hb ▸ hf), ih has]

end FailsFirst

end SmokeSuite
