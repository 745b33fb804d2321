import SmokeSuite.Report.Record
import SmokeSuite.Proofs.Json.RoundTrip

namespace SmokeSuite

namespace Json

def text? : Json → Option String
  | .string s => some s
  | _ => none

def optionalText? : Json → Option (Option String)
  | .null => some none
  | .string s => some (some s)
  | _ => none

def truth? : Json → Option Bool
  | .bool b => some b
  | _ => none

def whole? : Json → Option Nat
  | .number ⟨false, n, 0⟩ => some n
  | _ => none

def items? : Json → Option (List Json)
  | .array js => some js
  | _ => none

theorem optionalText?_optional (s : Option String) : (Json.optional s).optionalText? = some s := by
  cases s <;> rfl

theorem isPlain_optional (depth : Nat) (s : Option String) : IsPlain depth (.optional s) := by
  cases s with
  | none => exact .null
  | some s => exact .string s

end Json

/-- The environment that a record of one tells. -/
def Snapshot.ofJson? (j : Json) : Option Snapshot := do
  let osId ← (← j.member? "os_id").optionalText?
  let buildSystem ← (← j.member? "build_system").optionalText?
  let jobName ← (← j.member? "ci_job_name").optionalText?
  let version ← (← j.member? "gv_version").optionalText?
  let platform ← (← j.member? "project_platform").optionalText?
  let system ← HostSystem.ofName? (← (← j.member? "system").text?)
  let asan ← (← j.member? "asan").truth?
  some { osId, buildSystem, jobName, version, platform, system, asan }

theorem Snapshot.ofJson?_toJson (s : Snapshot) : ofJson? s.toJson = some s := by
  simp [ofJson?, toJson, Json.member?, List.lookup_cons, Json.optionalText?_optional, Json.text?, Json.truth?,
    HostSystem.ofName?_name]

theorem Snapshot.isPlain_toJson (s : Snapshot) {depth : Nat} (h : depth < Json.maxDepth) :
    Json.IsPlain depth s.toJson := by
  refine .object h ?_
  simp only [List.forall_mem_cons]
  exact ⟨Json.isPlain_optional _ _, Json.isPlain_optional _ _, Json.isPlain_optional _ _,
    Json.isPlain_optional _ _, Json.isPlain_optional _ _, .string _, .bool _, fun _ hm => nomatch hm⟩

/-- The verdict that a record of one tells: its status, and what the status needs besides. -/
def Verdict.ofJson? (j : Json) : Option Verdict := do
  let status ← (← j.member? "status").text?
  if status == "passed" then some .passed
  else
    let detail ← j.member? "detail"
    if status == "failed" then detail.text?.map .failed
    else if status == "skipped" then detail.text?.map .skipped
    else if status == "xfailed" then detail.text?.map .xfailed
    else if status == "xpassed" then do
      let reason ← (← detail.member? "reason").text?
      let strict ← (← detail.member? "strict").truth?
      some (.xpassed reason strict)
    else none

theorem Verdict.ofJson?_toJson (v : Verdict) : ofJson? v.toJson = some v := by
  cases v <;>
    simp [ofJson?, toJson, status, Json.member?, List.lookup_cons, Json.text?, Json.truth?]

theorem Verdict.isPlain_toJson (v : Verdict) {depth : Nat} (h : depth + 1 < Json.maxDepth) :
    Json.IsPlain depth v.toJson := by
  refine .object (by omega) (List.forall_mem_cons.2 ⟨.string _, ?_⟩)
  cases v with
  | passed => exact fun m hm => nomatch hm
  | failed text => exact List.forall_mem_singleton.2 (.string _)
  | skipped text => exact List.forall_mem_singleton.2 (.string _)
  | xfailed text => exact List.forall_mem_singleton.2 (.string _)
  | xpassed reason strict =>
    refine List.forall_mem_singleton.2 (.object h ?_)
    exact List.forall_mem_cons.2 ⟨.string _, List.forall_mem_singleton.2 (.bool _)⟩

def CheckResult.ofJson? (j : Json) : Option CheckResult := do
  let id ← (← j.member? "id").text?
  let verdict ← Verdict.ofJson? (← j.member? "outcome")
  let millis ← (← j.member? "duration_ms").whole?
  some { id, verdict, millis }

theorem CheckResult.ofJson?_toJson (c : CheckResult) : ofJson? c.toJson = some c := by
  simp [ofJson?, toJson, Json.member?, List.lookup_cons, Json.text?, Verdict.ofJson?_toJson,
    Json.whole?, Json.nat]

theorem CheckResult.isPlain_toJson (c : CheckResult) {depth : Nat} (h : depth + 2 < Json.maxDepth)
    (hc : c.millis < UInt64.size) : Json.IsPlain depth c.toJson := by
  refine .object (by omega) ?_
  simp only [List.forall_mem_cons]
  exact ⟨.string _, c.verdict.isPlain_toJson (by omega), .number hc, fun _ hm => nomatch hm⟩

def Tally.ofJson? (j : Json) : Option Tally := do
  let passed ← (← j.member? "passed").whole?
  let failed ← (← j.member? "failed").whole?
  let skipped ← (← j.member? "skipped").whole?
  let xfailed ← (← j.member? "xfailed").whole?
  let xpassed ← (← j.member? "xpassed").whole?
  some { passed, failed, skipped, xfailed, xpassed }

theorem Tally.ofJson?_toJson (t : Tally) : ofJson? t.toJson = some t := by
  simp [ofJson?, toJson, Json.member?, List.lookup_cons, Json.whole?, Json.nat]

theorem Tally.isPlain_toJson (t : Tally) {depth : Nat} (h : depth < Json.maxDepth)
    (ht : ∀ x ∈ t.labelled, x.1 < UInt64.size) : Json.IsPlain depth t.toJson := by
  simp only [labelled, List.forall_mem_cons] at ht
  obtain ⟨hfailed, hpassed, hskipped, hxfailed, hxpassed, -⟩ := ht
  refine .object h ?_
  simp only [List.forall_mem_cons]
  exact ⟨.number hpassed, .number hfailed, .number hskipped, .number hxfailed, .number hxpassed,
    fun _ hm => nomatch hm⟩

namespace Report

/-- Whether every number of a report fits into a word. -/
structure FitsWords (r : Report) : Prop where
  millis : ∀ c ∈ r.results, c.millis < UInt64.size
  counts : ∀ x ∈ r.tally.labelled, x.1 < UInt64.size

/-- What a record tells: all of a report but the time at which it began. -/
structure Told where
  environment : Snapshot
  dot : String
  results : List CheckResult
  tally : Tally
  deriving DecidableEq

def told (r : Report) : Told := ⟨r.environment, r.dot, r.results, r.tally⟩

def Told.ofJson? (j : Json) : Option Told := do
  let environment ← Snapshot.ofJson? (← j.member? "environment")
  let dot ← (← j.member? "dot").text?
  let results ← (← (← j.member? "results").items?).mapM CheckResult.ofJson?
  let tally ← Tally.ofJson? (← j.member? "summary")
  some { environment, dot, results, tally }

theorem ofJson?_toJson (r : Report) : Told.ofJson? r.toJson = some r.told := by
  have hresults : (r.results.map CheckResult.toJson).mapM CheckResult.ofJson? = some r.results := by
    induction r.results with
    | nil => rfl
    | cons c cs ih =>
      rw [List.map_cons, List.mapM_cons, CheckResult.ofJson?_toJson, ih]
      rfl
  simp [Told.ofJson?, toJson, told, Json.member?, List.lookup_cons, Snapshot.ofJson?_toJson,
    Json.text?, Json.items?, hresults, Tally.ofJson?_toJson]

theorem isPlain_toJson {r : Report} (h : r.FitsWords) : Json.IsPlain 0 r.toJson := by
  refine .object (by decide) ?_
  simp only [List.forall_mem_cons]
  refine ⟨.string _, r.environment.isPlain_toJson (by decide), .string _, .array (by decide) ?_,
    r.tally.isPlain_toJson (by decide) h.counts, fun _ hm => nomatch hm⟩
  exact List.forall_mem_map.2 fun c hc => c.isPlain_toJson (by decide) (h.millis c hc)

/-- The record of a report is a JSON text that loses nothing: what is read back tells the environment,
the layout binary, each result in its place and the tally, so that reports with one text agree in all
of these. -/
theorem read_toRecord (r : Report) (h : r.FitsWords) :
    (∃ j, Json.read r.toRecord = .ok j ∧ Told.ofJson? j = some r.told) ∧
    ∀ r' : Report, r'.FitsWords → r'.toRecord = r.toRecord →
      r'.environment = r.environment ∧ r'.dot = r.dot ∧ r'.results = r.results ∧
        r'.tally = r.tally := by
  have hread := Json.read_toPretty (isPlain_toJson h)
  refine ⟨⟨r.toJson, hread, ofJson?_toJson r⟩, fun r' h' htext => ?_⟩
  have hread' : Json.read r.toRecord = .ok r'.toJson := by
    rw [← htext]
    exact Json.read_toPretty (isPlain_toJson h')
  have hvalue : r'.toJson = r.toJson := Except.ok.inj (hread'.symm.trans hread)
  have htold : r'.told = r.told := by
    rw [← Option.some.injEq, ← ofJson?_toJson, ← ofJson?_toJson, hvalue]
  injection htold with he hd hr ht
  exact ⟨he, hd, hr, ht⟩

/-- Quotes, backslashes, line ends, control characters and the greatest duration come back. -/
theorem read_toRecord_of_controls :
    let r : Report :=
      { startedAt := ⟨0, 0⟩
        environment := { osId := some "\"ubuntu\\\r\n\t", version := some "" }
        dot := "/opt/\x00\x08\x0c\x1f\x7f/dot"
        results :=
          [{ id := "format::\u2028", verdict := .failed "Error: \"\"\n", millis := 18446744073709551615 },
            { id := "version", verdict := .xpassed "\x7b\"strict\": false\x7d" true, millis := 0 }]
        tally := { failed := 2 } }
    r.FitsWords ∧ ∃ j, Json.read r.toRecord = .ok j ∧ Told.ofJson? j = some r.told := by
  intro r
  have hwords : r.FitsWords := ⟨by decide, by decide⟩
  exact ⟨hwords, (read_toRecord r hwords).1⟩

end Report

end SmokeSuite
