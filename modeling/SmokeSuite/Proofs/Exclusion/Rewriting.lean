import SmokeSuite.Proofs.Exclusion.Decision

namespace SmokeSuite

namespace Condition

/-- The facts of a condition, each of them true of the environment. -/
structure Holds (c : Condition) (e : Snapshot) : Prop where
  osId : ∀ x, c.osId = some x → e.osId = some x
  buildSystem : ∀ x, c.buildSystem = some x → e.buildSystem = some x
  platform : ∀ x, c.platform = some x → e.platform = some x
  system : ∀ x, c.system = some x → x = e.system
  notSystem : ∀ x, c.notSystem = some x → x ≠ e.system
  asan : ∀ x, c.asan = some x → x = e.asan

theorem holdsIn_iff {c : Condition} {e : Snapshot} : c.holdsIn e = true ↔ c.Holds e := by
  unfold holdsIn agrees
  simp only [Bool.and_eq_true, Option.all_eq_true, beq_iff_eq, bne_iff_ne]
  constructor
  · rintro ⟨⟨⟨⟨⟨ho, hb⟩, hp⟩, hs⟩, hn⟩, ha⟩
    exact ⟨ho, hb, hp, hs, hn, ha⟩
  · rintro ⟨ho, hb, hp, hs, hn, ha⟩
    exact ⟨⟨⟨⟨⟨ho, hb⟩, hp⟩, hs⟩, hn⟩, ha⟩

/-- Each fact that the first condition asks for is one that the second asks for. -/
structure IsPartOf (c d : Condition) : Prop where
  osId : ∀ x, c.osId = some x → d.osId = some x
  buildSystem : ∀ x, c.buildSystem = some x → d.buildSystem = some x
  platform : ∀ x, c.platform = some x → d.platform = some x
  system : ∀ x, c.system = some x → d.system = some x
  notSystem : ∀ x, c.notSystem = some x → d.notSystem = some x
  asan : ∀ x, c.asan = some x → d.asan = some x

theorem IsPartOf.holdsIn {c d : Condition} (h : c.IsPartOf d) {e : Snapshot}
    (hd : d.holdsIn e = true) : c.holdsIn e = true := by
  have hd := holdsIn_iff.1 hd
  refine holdsIn_iff.2 ⟨?_, ?_, ?_, ?_, ?_, ?_⟩
  · exact fun x hx => hd.osId x (h.osId x hx)
  · exact fun x hx => hd.buildSystem x (h.buildSystem x hx)
  · exact fun x hx => hd.platform x (h.platform x hx)
  · exact fun x hx => hd.system x (h.system x hx)
  · exact fun x hx => hd.notSystem x (h.notSystem x hx)
  · exact fun x hx => hd.asan x (h.asan x hx)

/-- Two conditions that ask for different values of the same part, or of which one asks for the system
that the other rules out. -/
inductive Contradicts (c d : Condition) : Prop where
  | osId {x y : String} (hc : c.osId = some x) (hd : d.osId = some y) (hne : x ≠ y)
  | buildSystem {x y : String} (hc : c.buildSystem = some x) (hd : d.buildSystem = some y) (hne : x ≠ y)
  | platform {x y : String} (hc : c.platform = some x) (hd : d.platform = some y) (hne : x ≠ y)
  | system {x y : HostSystem} (hc : c.system = some x) (hd : d.system = some y) (hne : x ≠ y)
  | asan {x y : Bool} (hc : c.asan = some x) (hd : d.asan = some y) (hne : x ≠ y)
  | ruledOut {x : HostSystem} (hc : c.system = some x) (hd : d.notSystem = some x)
  | rulesOut {x : HostSystem} (hc : c.notSystem = some x) (hd : d.system = some x)

theorem Contradicts.not_holdsIn {c d : Condition} (h : c.Contradicts d) {e : Snapshot}
    (hc : c.holdsIn e = true) : ¬ d.holdsIn e = true := by
  intro hd
  have hc := holdsIn_iff.1 hc
  have hd := holdsIn_iff.1 hd
  cases h with
  | osId hx hy hne => exact hne (Option.some.inj ((hc.osId _ hx).symm.trans (hd.osId _ hy)))
  | buildSystem hx hy hne =>
    exact hne (Option.some.inj ((hc.buildSystem _ hx).symm.trans (hd.buildSystem _ hy)))
  | platform hx hy hne => exact hne (Option.some.inj ((hc.platform _ hx).symm.trans (hd.platform _ hy)))
  | system hx hy hne => exact hne ((hc.system _ hx).trans (hd.system _ hy).symm)
  | asan hx hy hne => exact hne ((hc.asan _ hx).trans (hd.asan _ hy).symm)
  | ruledOut hx hy => exact hd.notSystem _ hy (hc.system _ hx)
  | rulesOut hx hy => exact hc.notSystem _ hx (hd.system _ hy)

end Condition

namespace Exclusion

/-- An exclusion for each tool of one. -/
def split (x : Exclusion) : List Exclusion := x.tools.map fun tool => { x with tools := [tool] }

/-- Rewrites of a table that keep what it decides, at any place, in any number and in both directions. -/
inductive Rewrite : List Exclusion → List Exclusion → Prop where
  | split (x : Exclusion) : Rewrite [x] x.split
  /-- Tools reordered or repeated. -/
  | sameTools (x : Exclusion) {tools : List String} (h : ∀ tool, tool ∈ tools ↔ tool ∈ x.tools) :
      Rewrite [x] [{ x with tools }]
  | swapUnrelated {x y : Exclusion} (h : ∀ tool ∈ x.tools, tool ∉ y.tools) : Rewrite [x, y] [y, x]
  | swapContradictory {x y : Exclusion} (h : x.condition.Contradicts y.condition) :
      Rewrite [x, y] [y, x]
  | dropShadowed {x y : Exclusion} (between : List Exclusion) (htools : y.tools ⊆ x.tools)
      (hcondition : x.condition.IsPartOf y.condition) : Rewrite (x :: between ++ [y]) (x :: between)
  | inside (before after : List Exclusion) {xs ys : List Exclusion} (h : Rewrite xs ys) :
      Rewrite (before ++ xs ++ after) (before ++ ys ++ after)
  | refl (xs : List Exclusion) : Rewrite xs xs
  | symm {xs ys : List Exclusion} (h : Rewrite xs ys) : Rewrite ys xs
  | trans {xs ys zs : List Exclusion} (h : Rewrite xs ys) (h' : Rewrite ys zs) : Rewrite xs zs

end Exclusion

namespace Expectation

variable {tool : String} {e : Snapshot} {x y : Exclusion}

theorem decide_split (x : Exclusion) (tool : String) (e : Snapshot) :
    decide tool x.split e = decide tool [x] e := by
  obtain ⟨condition, tools, issues, reason⟩ := x
  rw [Exclusion.split]
  induction tools with
  | nil => rfl
  | cons t ts ih =>
    rw [List.map_cons, decide_cons, ih]
    simp only [decide_singleton, concerns_iff, List.mem_cons]
    by_cases hcondition : condition.holdsIn e = true
    · by_cases ht : tool = t
      · simp [hcondition, ht]
      · simp [hcondition, ht]
    · simp [hcondition]

theorem decide_sameTools (x : Exclusion) {tools : List String} (h : ∀ t, t ∈ tools ↔ t ∈ x.tools) :
    decide tool [{ x with tools }] e = decide tool [x] e := by
  simp only [decide_singleton, concerns_iff, h]

/-- Two exclusions can change places where not both of them speak of the tool. -/
theorem decide_swap (h : concerns x tool e = true → ¬ concerns y tool e = true) :
    decide tool [x, y] e = decide tool [y, x] e := by
  have hxy : decide tool [x, y] e = (decide tool [x] e).orElse (decide tool [y] e) := decide_cons ..
  have hyx : decide tool [y, x] e = (decide tool [y] e).orElse (decide tool [x] e) := decide_cons ..
  rw [hxy, hyx]
  by_cases hx : concerns x tool e = true
  · have hy : decide tool [y] e = .mustExist := decide_cons_of_not_concerns (h hx) []
    rw [hy, orElse_mustExist, mustExist_orElse]
  · have hx : decide tool [x] e = .mustExist := decide_cons_of_not_concerns hx []
    rw [hx, orElse_mustExist, mustExist_orElse]

/-- An exclusion never decides that speaks of a tool only where an earlier one does. -/
theorem decide_concat_shadowed (between : List Exclusion)
    (h : concerns y tool e = true → concerns x tool e = true) :
    decide tool (x :: between ++ [y]) e = decide tool (x :: between) e := by
  by_cases hy : concerns y tool e = true
  · rw [List.cons_append, decide_cons_of_concerns (h hy), decide_cons_of_concerns (h hy)]
  · rw [decide_append, decide_cons_of_not_concerns hy, decide_nil, orElse_mustExist]

theorem decide_rewrite {xs ys : List Exclusion} (h : Exclusion.Rewrite xs ys) (tool : String)
    (e : Snapshot) : decide tool xs e = decide tool ys e := by
  induction h with
  | split x => exact (decide_split x tool e).symm
  | sameTools x h => exact (decide_sameTools x h).symm
  | swapUnrelated h =>
    refine decide_swap fun hx hy => ?_
    exact h tool (concerns_iff.1 hx).1 (concerns_iff.1 hy).1
  | swapContradictory h =>
    refine decide_swap fun hx hy => ?_
    exact h.not_holdsIn (concerns_iff.1 hx).2 (concerns_iff.1 hy).2
  | dropShadowed between htools hcondition =>
    refine decide_concat_shadowed between fun hy => ?_
    obtain ⟨htool, hholds⟩ := concerns_iff.1 hy
    exact concerns_iff.2 ⟨htools htool, hcondition.holdsIn hholds⟩
  | inside before after _ ih =>
    -- a piece acts on the table around it only through what it decides alone
    simp only [decide_append, ih]
  | refl xs => rfl
  | symm _ ih => exact ih.symm
  | trans _ _ ih ih' => exact ih.trans ih'

/-- No rewrite changes what is expected of any tool in any environment. And of two tables one after the
other, the first decides where it excludes the tool, and else the second. -/
theorem rewrites_keep_decisions :
    (∀ {xs ys : List Exclusion}, Exclusion.Rewrite xs ys →
      ∀ (tool : String) (e : Snapshot), decide tool xs e = decide tool ys e) ∧
    ∀ (xs ys : List Exclusion) (tool : String) (e : Snapshot),
      (∀ reason issues, decide tool xs e = .mustBeAbsent reason issues →
        decide tool (xs ++ ys) e = .mustBeAbsent reason issues) ∧
      (decide tool xs e = .mustExist → decide tool (xs ++ ys) e = decide tool ys e) := by
  refine ⟨decide_rewrite, fun xs ys tool e => ⟨fun reason issues h => ?_, fun h => ?_⟩⟩
  · rw [decide_append, h, mustBeAbsent_orElse]
  · rw [decide_append, h, mustExist_orElse]

/-- A shadowed exclusion dropped, two contradictory ones swapped and one of them split. -/
theorem rewrites_keep_decisions_of_opposite_systems :
    let mac : Exclusion :=
      { condition := { system := some .darwin }, tools := ["smyrna"], issues := [1753]
        reason := "no GTK on macOS" }
    let others : Exclusion :=
      { condition := { notSystem := some .darwin }, tools := ["smyrna", "gvedit"]
        reason := "\x7btool\x7d is not built for \x7bos_id\x7d" }
    let cmake : Exclusion :=
      { condition := { notSystem := some .darwin, buildSystem := some "cmake" }, tools := ["gvedit"]
        reason := "no Qt" }
    Exclusion.Rewrite [mac, others, cmake] (others.split ++ [mac]) ∧
      (∀ tool e, decide tool [mac, others, cmake] e = decide tool (others.split ++ [mac]) e) ∧
      decide "gvedit" (others.split ++ [mac]) { osId := some "ubuntu", buildSystem := some "cmake" } =
        .mustBeAbsent "gvedit is not built for ubuntu" [] := by
  intro mac others cmake
  have hdrop : Exclusion.Rewrite [others, cmake] [others] := by
    refine .dropShadowed [] (by simp [others, cmake]) ⟨?_, ?_, ?_, ?_, ?_, ?_⟩ <;> simp [others, cmake]
  have hswap : Exclusion.Rewrite [mac, others] [others, mac] := .swapContradictory (.ruledOut rfl rfl)
  have hsplit : Exclusion.Rewrite [others, mac] (others.split ++ [mac]) :=
    .inside [] [mac] (.split others)
  have h : Exclusion.Rewrite [mac, others, cmake] (others.split ++ [mac]) :=
    .trans (.inside [mac] [] hdrop) (.trans hswap hsplit)
  exact ⟨h, rewrites_keep_decisions.1 h, by decide +kernel⟩

end Expectation

end SmokeSuite
