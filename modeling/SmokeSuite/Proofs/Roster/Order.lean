import SmokeSuite.Roster
import Mathlib.Data.List.Basic

namespace SmokeSuite.Roster

/-- Some registered checks, by priority and otherwise as they were registered. -/
structure StableOrder (checks registered : List Check) : Prop where
  perm : checks.Perm registered
  ordered : checks.Pairwise (fun a b => b.priority ≤ a.priority)
  stable : ∀ n : Int, checks.filter (·.priority == n) = registered.filter (·.priority == n)

theorem priority_le_head {a d : Check} {as : List Check}
    (h : (a :: as).Pairwise (fun a b => b.priority ≤ a.priority)) (hd : d ∈ a :: as) :
    d.priority ≤ a.priority := by
  rcases List.mem_cons.1 hd with rfl | hd
  · exact Int.le_refl _
  · exact (List.pairwise_cons.1 h).1 d hd

/-- Whether a check may stand before another one. -/
def ranksWith (a b : Check) : Bool := decide (b.priority ≤ a.priority)

theorem ranksWith_trans (a b c : Check) (hab : ranksWith a b = true) (hbc : ranksWith b c = true) :
    ranksWith a c = true := by
  simp only [ranksWith, decide_eq_true_eq] at *
  omega

theorem ranksWith_total (a b : Check) : (ranksWith a b || ranksWith b a) = true := by
  simp only [ranksWith, Bool.or_eq_true, decide_eq_true_eq]
  omega

theorem perm_insert (c : Check) (cs : List Check) : (insert c cs).Perm (cs ++ [c]) := by
  induction cs with
  | nil => exact .refl _
  | cons a as ih =>
    rw [insert]
    split
    · exact ih.cons a
    · exact (List.perm_append_singleton c (a :: as)).symm

/-- Among the checks of one priority, the new one stands last. -/
theorem filter_insert {c : Check} {cs : List Check}
    (h : cs.Pairwise (fun a b => b.priority ≤ a.priority)) (n : Int) :
    (insert c cs).filter (·.priority == n) = (cs ++ [c]).filter (·.priority == n) := by
  induction cs with
  | nil => rfl
  | cons a as ih =>
    rw [insert]
    split
    · simp only [List.cons_append, List.filter_cons, ih (List.pairwise_cons.1 h).2]
    · next hc =>
      by_cases hn : c.priority = n
      · -- everything from here on has a lower priority than the new check
        have hlow : (a :: as).filter (·.priority == n) = [] := by
          refine List.filter_eq_nil_iff.2 fun b hb => ?_
          have hle := priority_le_head h hb
          simp only [beq_iff_eq]
          omega
        rw [List.filter_append, hlow, List.filter_cons, hlow]
        simp [hn]
      · simp [List.filter_append, List.filter_cons, hn]

namespace StableOrder

theorem nil : StableOrder [] [] := ⟨.refl _, .nil, fun _ => rfl⟩

theorem refl {cs : List Check} (h : cs.Pairwise (fun a b => b.priority ≤ a.priority)) :
    StableOrder cs cs := ⟨.refl _, h, fun _ => rfl⟩

theorem insert {checks registered : List Check} (h : StableOrder checks registered) (c : Check) :
    StableOrder (Roster.insert c checks) (registered ++ [c]) where
  perm := (perm_insert c checks).trans (h.perm.append_right [c])
  ordered := pairwise_insert h.ordered
  stable n := by
    rw [filter_insert h.ordered, List.filter_append, List.filter_append, h.stable n]

theorem filter {checks registered : List Check} (h : StableOrder checks registered)
    (p : Check → Bool) : StableOrder (checks.filter p) (registered.filter p) where
  perm := h.perm.filter p
  ordered := h.ordered.filter p
  stable n := by
    have hswap (cs : List Check) : (cs.filter p).filter (·.priority == n) =
        (cs.filter (·.priority == n)).filter p := by
      simp only [List.filter_filter, Bool.and_comm]
    rw [hswap, hswap, h.stable n]

/-- The order leaves no choice: the checks of each priority fix the whole list. -/
theorem unique {xs ys registered : List Check} (hx : StableOrder xs registered)
    (hy : StableOrder ys registered) : xs = ys := by
  have hxy (n : Int) : xs.filter (·.priority == n) = ys.filter (·.priority == n) :=
    (hx.stable n).trans (hy.stable n).symm
  have hxo := hx.ordered
  have hyo := hy.ordered
  clear hx hy
  induction xs generalizing ys with
  | nil =>
    cases ys with
    | nil => rfl
    | cons b bs => simpa using hxy b.priority
  | cons a as ih =>
    cases ys with
    | nil => simpa using hxy a.priority
    | cons b bs =>
      have hab : a.priority = b.priority := by
        have ha : a ∈ (b :: bs).filter (·.priority == a.priority) := by simp [← hxy]
        have hb : b ∈ (a :: as).filter (·.priority == b.priority) := by simp [hxy]
        exact Int.le_antisymm (priority_le_head hyo (List.mem_filter.1 ha).1)
          (priority_le_head hxo (List.mem_filter.1 hb).1)
      have hhead : a = b := by
        have h := hxy a.priority
        simp only [List.filter_cons, hab, beq_self_eq_true, if_true] at h
        exact (List.cons.inj h).1
      subst hhead
      refine congrArg (a :: ·) (ih (fun n => ?_) (List.pairwise_cons.1 hxo).2
        (List.pairwise_cons.1 hyo).2)
      have h := hxy n
      simp only [List.filter_cons] at h
      split at h
      · exact (List.cons.inj h).2
      · exact h

/-- The library's stable sort gives this order. -/
theorem mergeSort (cs : List Check) : StableOrder (cs.mergeSort ranksWith) cs where
  perm := List.mergeSort_perm _ _
  ordered := (List.pairwise_mergeSort ranksWith_trans ranksWith_total cs).imp of_decide_eq_true
  stable n := by
    have hlevel : (cs.filter (·.priority == n)).Pairwise (ranksWith · ·) := by
      refine List.pairwise_of_forall_mem_list fun a ha b hb => ?_
      simp only [List.mem_filter, beq_iff_eq] at ha hb
      simp [ranksWith, ha.2, hb.2]
    have hsub := (List.sublist_mergeSort ranksWith_trans ranksWith_total hlevel
      List.filter_sublist).filter (·.priority == n)
    simp only [List.filter_filter, Bool.and_self] at hsub
    exact (hsub.eq_of_length ((List.mergeSort_perm cs _).filter _).length_eq.symm).symm

theorem foldl_register {r : Roster} {registered : List Check}
    (h : StableOrder r.checks registered) (cs : List Check) :
    StableOrder (cs.foldl register r).checks (registered ++ cs) := by
  induction cs generalizing r registered with
  | nil => simpa using h
  | cons c cs ih => simpa using ih (r := r.register c) (h.insert c)

end StableOrder

/-- Registering is appending and sorting stably, the highest priority first. -/
theorem register_eq_mergeSort (r : Roster) (c : Check) :
    (r.register c).checks = (r.checks ++ [c]).mergeSort ranksWith :=
  ((StableOrder.refl r.ordered).insert c).unique (StableOrder.mergeSort _)

/-- The checks of a suite stand as they are registered, since their priorities fall from kind to kind. -/
theorem checks_ofSuite (s : Suite) (e : Snapshot) :
    (ofSuite s e).checks = s.tools.map (Check.existence · s.exclusions e) ++
      s.formats.map Check.format ++ [Check.version] := by
  refine (StableOrder.nil.foldl_register (r := empty) _).unique (StableOrder.refl ?_)
  refine List.pairwise_append.2 ⟨List.pairwise_append.2 ⟨?_, ?_, ?_⟩, List.pairwise_singleton _ _, ?_⟩
  · exact List.pairwise_map.2 (List.pairwise_of_forall fun _ _ => Int.le_refl _)
  · exact List.pairwise_map.2 (List.pairwise_of_forall fun _ _ => Int.le_refl _)
  · intro a ha b hb
    obtain ⟨tool, -, rfl⟩ := List.mem_map.1 ha
    obtain ⟨t, -, rfl⟩ := List.mem_map.1 hb
    simp [Check.existence, Check.format]
  · intro a ha b hb
    rw [List.mem_singleton.1 hb]
    rcases List.mem_append.1 ha with ha | ha
    · obtain ⟨tool, -, rfl⟩ := List.mem_map.1 ha
      simp [Check.existence, Check.version]
    · obtain ⟨t, -, rfl⟩ := List.mem_map.1 ha
      simp [Check.format, Check.version]

theorem forall_mem_ofSuite {s : Suite} {e : Snapshot} {P : Check → Prop} :
    (∀ c ∈ (ofSuite s e).checks, P c) ↔
      (∀ tool ∈ s.tools, P (Check.existence tool s.exclusions e)) ∧
      (∀ t ∈ s.formats, P (Check.format t)) ∧ P Check.version := by
  rw [checks_ofSuite]
  simp only [List.forall_mem_append, List.forall_mem_map, List.forall_mem_singleton, and_assoc]

end SmokeSuite.Roster
