import SmokeSuite.Proofs.Yaml.Decoding
import SmokeSuite.Suite.Reader

namespace SmokeSuite

open Yaml (Reads)
open Yaml.Decoder (Gives drafted readsMember_field reads_record)

variable {ms : List (String × Json)}

theorem HostSystem.reads (h : HostSystem) : Reads HostSystem.decoder (.string h.name) h :=
  .variant (ofName?_name h)

namespace Condition

/-- Members of an object that give a condition. -/
structure IsGiven (c : Condition) (ms : List (String × Json)) : Prop where
  known : ∀ m ∈ ms, m.1 ∈ fields.map (·.name)
  osId : Gives ms "os_id" (.optional .string) (some none) c.osId
  buildSystem : Gives ms "build_system" (.optional .string) (some none) c.buildSystem
  system : Gives ms "system" (.optional HostSystem.decoder) (some none) c.system
  notSystem : Gives ms "not_system" (.optional HostSystem.decoder) (some none) c.notSystem
  asan : Gives ms "asan" (.optional .bool) (some none) c.asan
  platform : Gives ms "project_platform" (.optional .string) (some none) c.platform

/-- The draft of a condition of which the members with these names have been read. -/
def draftOf (c : Condition) (seen : List String) : Draft where
  osId := drafted seen "os_id" c.osId
  buildSystem := drafted seen "build_system" c.buildSystem
  system := drafted seen "system" c.system
  notSystem := drafted seen "not_system" c.notSystem
  asan := drafted seen "asan" c.asan
  platform := drafted seen "project_platform" c.platform

theorem IsGiven.reads {c : Condition} (h : c.IsGiven ms) : Reads decoder (.object ms) c := by
  refine reads_record c.draftOf (fun ⟨name, j⟩ hm => ?_) ?_
  · have hname := h.known _ hm
    simp only [fields, Yaml.Decoder.field, List.map_cons, List.map_nil, List.mem_cons,
      List.not_mem_nil, or_false] at hname
    rcases hname with rfl | rfl | rfl | rfl | rfl | rfl
    · exact readsMember_field rfl (fun _ => rfl) (fun _ => by simp [draftOf]) (h.osId.read _ hm)
    · exact readsMember_field rfl (fun _ => rfl) (fun _ => by simp [draftOf]) (h.buildSystem.read _ hm)
    · exact readsMember_field rfl (fun _ => rfl) (fun _ => by simp [draftOf]) (h.system.read _ hm)
    · exact readsMember_field rfl (fun _ => rfl) (fun _ => by simp [draftOf]) (h.notSystem.read _ hm)
    · exact readsMember_field rfl (fun _ => rfl) (fun _ => by simp [draftOf]) (h.asan.read _ hm)
    · exact readsMember_field rfl (fun _ => rfl) (fun _ => by simp [draftOf]) (h.platform.read _ hm)
  · simp only [Draft.finish, draftOf, h.osId.getD_drafted, h.buildSystem.getD_drafted,
      h.system.getD_drafted, h.notSystem.getD_drafted, h.asan.getD_drafted,
      h.platform.getD_drafted]

end Condition

namespace Exclusion

structure IsGiven (x : Exclusion) (ms : List (String × Json)) : Prop where
  known : ∀ m ∈ ms, m.1 ∈ fields.map (·.name)
  condition : Gives ms "when" Condition.decoder (some {}) x.condition
  tools : Gives ms "tools" (.list .string) none x.tools
  issues : Gives ms "issues" (.list .word32) (some []) x.issues
  reason : Gives ms "reason" .string none x.reason

def draftOf (x : Exclusion) (seen : List String) : Draft where
  condition := drafted seen "when" x.condition
  tools := drafted seen "tools" x.tools
  issues := drafted seen "issues" x.issues
  reason := drafted seen "reason" x.reason

theorem IsGiven.reads {x : Exclusion} (h : x.IsGiven ms) : Reads decoder (.object ms) x := by
  refine reads_record x.draftOf (fun ⟨name, j⟩ hm => ?_) ?_
  · have hname := h.known _ hm
    simp only [fields, Yaml.Decoder.field, List.map_cons, List.map_nil, List.mem_cons,
      List.not_mem_nil, or_false] at hname
    rcases hname with rfl | rfl | rfl | rfl
    · exact readsMember_field rfl (fun _ => rfl) (fun _ => by simp [draftOf]) (h.condition.read _ hm)
    · exact readsMember_field rfl (fun _ => rfl) (fun _ => by simp [draftOf]) (h.tools.read _ hm)
    · exact readsMember_field rfl (fun _ => rfl) (fun _ => by simp [draftOf]) (h.issues.read _ hm)
    · exact readsMember_field rfl (fun _ => rfl) (fun _ => by simp [draftOf]) (h.reason.read _ hm)
  · simp only [Draft.finish, draftOf, h.tools.required_drafted, h.reason.required_drafted,
      h.condition.getD_drafted, h.issues.getD_drafted, bind, Except.bind]

end Exclusion

namespace ExpectedFailure

structure IsGiven (x : ExpectedFailure) (ms : List (String × Json)) : Prop where
  known : ∀ m ∈ ms, m.1 ∈ fields.map (·.name)
  condition : Gives ms "when" Condition.decoder (some {}) x.condition
  reason : Gives ms "reason" .string none x.reason
  strict : Gives ms "strict" .bool (some true) x.strict

def draftOf (x : ExpectedFailure) (seen : List String) : Draft where
  condition := drafted seen "when" x.condition
  reason := drafted seen "reason" x.reason
  strict := drafted seen "strict" x.strict

theorem IsGiven.reads {x : ExpectedFailure} (h : x.IsGiven ms) : Reads decoder (.object ms) x := by
  refine reads_record x.draftOf (fun ⟨name, j⟩ hm => ?_) ?_
  · have hname := h.known _ hm
    simp only [fields, Yaml.Decoder.field, List.map_cons, List.map_nil, List.mem_cons,
      List.not_mem_nil, or_false] at hname
    rcases hname with rfl | rfl | rfl
    · exact readsMember_field rfl (fun _ => rfl) (fun _ => by simp [draftOf]) (h.condition.read _ hm)
    · exact readsMember_field rfl (fun _ => rfl) (fun _ => by simp [draftOf]) (h.reason.read _ hm)
    · exact readsMember_field rfl (fun _ => rfl) (fun _ => by simp [draftOf]) (h.strict.read _ hm)
  · simp only [Draft.finish, draftOf, h.reason.required_drafted, h.condition.getD_drafted,
      h.strict.getD_drafted, bind, Except.bind]

end ExpectedFailure

namespace FormatTarget

structure IsGiven (t : FormatTarget) (ms : List (String × Json)) : Prop where
  known : ∀ m ∈ ms, m.1 ∈ fields.map (·.name)
  format : Gives ms "format" .string none t.format
  source : Gives ms "source" .string (some defaultSource) t.source
  issue : Gives ms "issue" (.optional .word32) (some none) t.issue
  xfail : Gives ms "xfail" (.optional ExpectedFailure.decoder) (some none) t.xfail

def draftOf (t : FormatTarget) (seen : List String) : Draft where
  format := drafted seen "format" t.format
  source := drafted seen "source" t.source
  issue := drafted seen "issue" t.issue
  xfail := drafted seen "xfail" t.xfail

theorem IsGiven.reads {t : FormatTarget} (h : t.IsGiven ms) : Reads decoder (.object ms) t := by
  refine reads_record t.draftOf (fun ⟨name, j⟩ hm => ?_) ?_
  · have hname := h.known _ hm
    simp only [fields, Yaml.Decoder.field, List.map_cons, List.map_nil, List.mem_cons,
      List.not_mem_nil, or_false] at hname
    rcases hname with rfl | rfl | rfl | rfl
    · exact readsMember_field rfl (fun _ => rfl) (fun _ => by simp [draftOf]) (h.format.read _ hm)
    · exact readsMember_field rfl (fun _ => rfl) (fun _ => by simp [draftOf]) (h.source.read _ hm)
    · exact readsMember_field rfl (fun _ => rfl) (fun _ => by simp [draftOf]) (h.issue.read _ hm)
    · exact readsMember_field rfl (fun _ => rfl) (fun _ => by simp [draftOf]) (h.xfail.read _ hm)
  · simp only [Draft.finish, draftOf, h.format.required_drafted, h.source.getD_drafted,
      h.issue.getD_drafted, h.xfail.getD_drafted, bind, Except.bind]

end FormatTarget

namespace Suite

structure IsGiven (s : Suite) (ms : List (String × Json)) : Prop where
  known : ∀ m ∈ ms, m.1 ∈ fields.map (·.name)
  tools : Gives ms "tools" (.list .string) none s.tools
  exclusions : Gives ms "exclusions" (.list Exclusion.decoder) (some []) s.exclusions
  formats : Gives ms "formats" (.list FormatTarget.decoder) (some []) s.formats
  asanJobs : Gives ms "asan_jobs" (.list .string) (some []) s.asanJobs
  dot : Gives ms "dot" .string (some defaultDot) s.dot

def draftOf (s : Suite) (seen : List String) : Draft where
  tools := drafted seen "tools" s.tools
  exclusions := drafted seen "exclusions" s.exclusions
  formats := drafted seen "formats" s.formats
  asanJobs := drafted seen "asan_jobs" s.asanJobs
  dot := drafted seen "dot" s.dot

theorem IsGiven.reads {s : Suite} (h : s.IsGiven ms) : Reads decoder (.object ms) s := by
  refine reads_record s.draftOf (fun ⟨name, j⟩ hm => ?_) ?_
  · have hname := h.known _ hm
    simp only [fields, Yaml.Decoder.field, List.map_cons, List.map_nil, List.mem_cons,
      List.not_mem_nil, or_false] at hname
    rcases hname with rfl | rfl | rfl | rfl | rfl
    · exact readsMember_field rfl (fun _ => rfl) (fun _ => by simp [draftOf]) (h.tools.read _ hm)
    · exact readsMember_field rfl (fun _ => rfl) (fun _ => by simp [draftOf]) (h.exclusions.read _ hm)
    · exact readsMember_field rfl (fun _ => rfl) (fun _ => by simp [draftOf]) (h.formats.read _ hm)
    · exact readsMember_field rfl (fun _ => rfl) (fun _ => by simp [draftOf]) (h.asanJobs.read _ hm)
    · exact readsMember_field rfl (fun _ => rfl) (fun _ => by simp [draftOf]) (h.dot.read _ hm)
  · simp only [Draft.finish, draftOf, h.tools.required_drafted, h.exclusions.getD_drafted,
      h.formats.getD_drafted, h.asanJobs.getD_drafted, h.dot.getD_drafted, bind, Except.bind]

end Suite

end SmokeSuite
