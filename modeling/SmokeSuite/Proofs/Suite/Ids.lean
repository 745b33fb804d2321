import SmokeSuite.Proofs.Roster.Order
import SmokeSuite.Proofs.Suite.Validation
import Mathlib.Data.List.Nodup

namespace SmokeSuite

/-- The names of the checks that a suite asks for. -/
def Suite.checkIds (s : Suite) : List String :=
  s.tools.map ("existence::" ++ ·) ++ s.formats.map ("format::" ++ ·.format) ++ ["version"]

namespace Roster

/-- What is expected of a tool depends on the environment, but not what the checks are called. -/
theorem ids_ofSuite (s : Suite) (e : Snapshot) : (ofSuite s e).ids = s.checkIds := by
  rw [ids, checks_ofSuite, Suite.checkIds]
  simp only [List.map_append, List.map_map, List.map_singleton]
  rfl

end Roster

namespace Suite

/-- A name in front of another one leaves names as distinct as they are. -/
theorem nodup_map_append_iff {p : String} {names : List String} :
    (names.map (p ++ ·)).Nodup ↔ names.Nodup :=
  List.nodup_map_iff fun _ _ h => (String.append_right_inj p).1 h

/-- Names that begin with different letters are different. -/
theorem ne_of_head? {c d : Char} (hcd : c ≠ d) {as bs : List String}
    (has : ∀ a ∈ as, a.toList.head? = some c) (hbs : ∀ b ∈ bs, b.toList.head? = some d) :
    ∀ a ∈ as, ∀ b ∈ bs, a ≠ b := by
  rintro a ha b hb rfl
  exact hcd (Option.some.inj ((has a ha).symm.trans (hbs a hb)))

/-- No two checks have the same name exactly if neither a tool nor a format stands in the suite twice. -/
theorem nodup_checkIds_iff {s : Suite} :
    s.checkIds.Nodup ↔ s.tools.Nodup ∧ (s.formats.map (·.format)).Nodup := by
  have hformats : s.formats.map ("format::" ++ ·.format) =
      (s.formats.map (·.format)).map ("format::" ++ ·) := by
    rw [List.map_map]
    rfl
  -- the kind of a check shows in the first letter of its name
  have hexistence : ∀ id ∈ s.tools.map ("existence::" ++ ·), id.toList.head? = some 'e' := by simp
  have hformat : ∀ id ∈ s.formats.map ("format::" ++ ·.format), id.toList.head? = some 'f' := by simp
  have hversion : ∀ id ∈ ["version"], id.toList.head? = some 'v' := by simp
  have hlast : ∀ id ∈ s.tools.map ("existence::" ++ ·) ++ s.formats.map ("format::" ++ ·.format),
      ∀ v ∈ ["version"], id ≠ v :=
    List.forall_mem_append.2 ⟨ne_of_head? (by decide) hexistence hversion,
      ne_of_head? (by decide) hformat hversion⟩
  rw [checkIds, List.nodup_append, List.nodup_append, nodup_map_append_iff]
  constructor
  · rintro ⟨⟨htools, hnodup, -⟩, -, -⟩
    rw [hformats, nodup_map_append_iff] at hnodup
    exact ⟨htools, hnodup⟩
  · rintro ⟨htools, hnodup⟩
    rw [← nodup_map_append_iff, ← hformats] at hnodup
    exact ⟨⟨htools, hnodup, ne_of_head? (by decide) hexistence hformat⟩, by simp, hlast⟩

/-- The checks of a suite that is accepted have names of their own, in the order of the tools, the formats
and the version at last; and so have the lines of its plan and the results of a run. -/
theorem ids_of_accepted {content : String} {s : Suite} (h : ofYaml content = .ok s) (b : Bench)
    (startedAt : Instant) (files : FileTree) :
    let r := Roster.ofSuite s b.environment
    let ids := s.tools.map ("existence::" ++ ·) ++ s.formats.map ("format::" ++ ·.format) ++ ["version"]
    r.checks.map (·.id) = ids ∧ ids.Nodup ∧ (r.plan b).map (·.1) = ids ∧
      (r.run b startedAt files).1.results.map (·.id) = ids := by
  intro r ids
  have hvalid := validate_eq_ok_iff.1 (ofYaml_eq_ok_iff.1 h).2
  have hids : r.checks.map (·.id) = ids := Roster.ids_ofSuite s b.environment
  refine ⟨hids, nodup_checkIds_iff.2 ⟨hvalid.distinctTools, hvalid.distinctFormats⟩, ?_, ?_⟩
  · calc
      (r.plan b).map (·.1) = r.checks.map (·.id) := by simp [Roster.plan]
      _ = ids := hids
  · calc
      (r.run b startedAt files).1.results.map (·.id) = r.checks.map (·.id) :=
        Roster.map_id_results b r.checks files
      _ = ids := hids

/-- A tool may be called what the check of a format or of the version is called. -/
theorem ids_of_accepted_alike :
    let s : Suite :=
      { tools := ["version", "format::svg"], formats := [{ format := "svg" }, { format := "::svg" }] }
    let b : Bench :=
      { environment := {}, locate := fun _ _ => none, program := s.dot
        invoke := fun files _ _ => (⟨.error (.notStarted s.dot .zeroInArgument), 0⟩, files) }
    let ids := ["existence::version", "existence::format::svg", "format::svg", "format::::svg", "version"]
    ofYaml "tools: [version, 'format::svg']\nformats:\n- format: svg\n- format: '::svg'\n" = .ok s ∧
      (Roster.ofSuite s b.environment).checks.map (·.id) = ids ∧ ids.Nodup := by
  intro s b ids
  have hs : ofYaml "tools: [version, 'format::svg']\nformats:\n- format: svg\n- format: '::svg'\n" =
      .ok s := ofYaml_eq_ok_of_toOption (by decide +kernel)
  obtain ⟨hids, hnodup, -⟩ := ids_of_accepted hs b ⟨0, 0⟩ {}
  exact ⟨hs, hids, hnodup⟩

end Suite

end SmokeSuite
