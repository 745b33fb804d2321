import SmokeSuite.Environment.Variables
import SmokeSuite.Proofs.Environment.Dotenv
import SmokeSuite.Proofs.Failure.First
import SmokeSuite.Proofs.Text.Utf8

namespace SmokeSuite

/-- A file is read as text if its path can be one and its bytes are the encoding of that text. -/
theorem FileTree.readText_eq_ok_iff {t : FileTree} {base : Location} {path text : String} :
    t.readText base path = .ok text ↔
      hasZero path = false ∧ t.readBytes base path = .ok (Text.Utf8.encode text.toList) := by
  unfold readText
  by_cases hzero : hasZero path
  · simp [hzero, bind, Except.bind, throw, throwThe, MonadExceptOf.throw]
  cases hbytes : t.readBytes base path with
  | error cause => simp [hzero, bind, Except.bind, Except.mapError]
  | ok bytes =>
    have htext : (Text.Utf8.decode? bytes).map String.ofList = some text ↔
        bytes = Text.Utf8.encode text.toList := Text.Utf8.map_ofList_decode?_eq_some_iff
    cases hdecode : Text.Utf8.decode? bytes with
    | none =>
      rw [hdecode] at htext
      simp [hzero, hdecode, ← htext, bind, Except.bind, Except.mapError, throw, throwThe,
        MonadExceptOf.throw]
    | some cs =>
      rw [hdecode] at htext
      simp [hzero, hdecode, ← htext, bind, Except.bind, Except.mapError, pure, Except.pure]

namespace Definitions

variable {readText : String → Except TextError String} {ds : Definitions}

theorem snd_merge_eq_some_iff {paths : List String} {f : Failure} :
    (merge readText ds paths).2 = some f ↔
      ∃ path cause, FailsFirst readText paths path cause ∧ f = .unreadableVariables path cause := by
  induction paths generalizing ds with
  | nil => exact ⟨nofun, fun ⟨_, _, h, _⟩ => (FailsFirst.not_nil h).elim⟩
  | cons path rest ih =>
    rw [merge]
    cases hr : readText path with
    | ok content => simp only [ih, FailsFirst.tail_iff hr]
    | error cause =>
      simp only [FailsFirst.head_iff hr, Option.some.injEq]
      constructor
      · rintro rfl
        exact ⟨path, cause, ⟨rfl, rfl⟩, rfl⟩
      · rintro ⟨_, _, ⟨rfl, rfl⟩, rfl⟩
        rfl

theorem snd_merge_eq_none_iff {paths : List String} :
    (merge readText ds paths).2 = none ↔ ∀ path ∈ paths, ∃ content, readText path = .ok content := by
  induction paths generalizing ds with
  | nil => exact ⟨fun _ => by simp, fun _ => rfl⟩
  | cons path rest ih =>
    rw [merge, List.forall_mem_cons]
    cases hr : readText path with
    | ok content => simp [ih]
    | error cause => simp

/-- A definition that no later one overrides. -/
def IsLast (ds : Definitions) (name value : String) : Prop :=
  ∃ before after, ds = before ++ (name, value) :: after ∧ ∀ d ∈ after, d.1 ≠ name

theorem get?_eq_some_iff {name value : String} :
    ds.get? name = some value ↔ IsLast ds name value := by
  rw [get?, List.lookup_eq_some_iff]
  -- the lookup starts at the end, so what stands before and after changes places
  constructor
  · rintro ⟨after, before, hds, hafter⟩
    refine ⟨before.reverse, after.reverse, ?_, fun d hd => ?_⟩
    · rw [← List.reverse_reverse ds, hds]
      simp
    · have hne := hafter d (List.mem_reverse.1 hd)
      exact Ne.symm (bne_iff_ne.1 hne)
  · rintro ⟨before, after, rfl, hafter⟩
    refine ⟨after.reverse, before.reverse, by simp, fun d hd => ?_⟩
    have hne := hafter d (List.mem_reverse.1 hd)
    exact bne_iff_ne.2 hne.symm

theorem get?_eq_none_iff {name : String} :
    ds.get? name = none ↔ ∀ d ∈ ds, d.1 ≠ name := by
  simp only [get?, List.lookup_eq_none_iff, List.mem_reverse, bne_iff_ne, ne_comm]

/-- A call that merges files: what reading gives at that time, and the files in order. -/
structure Merging where
  readText : String → Except TextError String
  paths : List String

namespace Merging

/-- The texts that a call reads, up to the first file that cannot be read. -/
def texts (m : Merging) : List String :=
  ((m.paths.map m.readText).takeWhile Except.isOk).filterMap Except.toOption

theorem texts_of_ok {path text : String} (h : readText path = .ok text) (rest : List String) :
    texts ⟨readText, path :: rest⟩ = text :: texts ⟨readText, rest⟩ := by
  simp only [texts, List.map_cons, h, List.takeWhile_cons]
  rfl

theorem texts_of_error {path : String} {cause : TextError} (h : readText path = .error cause)
    (rest : List String) : texts ⟨readText, path :: rest⟩ = [] := by
  simp only [texts, List.map_cons, h, List.takeWhile_cons]
  rfl

/-- Every file can be read. -/
def IsReadable (m : Merging) : Prop := ∀ path ∈ m.paths, ∃ text, m.readText path = .ok text

end Merging

/-- What is defined after some calls, the first of which finds nothing defined. -/
def replay (ms : List Merging) : Definitions :=
  ms.foldl (fun ds m => (merge m.readText ds m.paths).1) []

theorem fst_merge (ds : Definitions) (paths : List String) :
    (merge readText ds paths).1 = ds ++ (Merging.texts ⟨readText, paths⟩).flatMap Dotenv.parse := by
  induction paths generalizing ds with
  | nil => simp [merge, Merging.texts]
  | cons path rest ih =>
    rw [merge]
    cases hr : readText path with
    | error cause => simp [Merging.texts_of_error hr]
    | ok text => simp [Merging.texts_of_ok hr, ih]

/-- What the files define that some calls can read, in order. -/
def definedBy (ms : List Merging) : Definitions := (ms.flatMap Merging.texts).flatMap Dotenv.parse

theorem replay_eq (ms : List Merging) : replay ms = definedBy ms := by
  -- the last call is taken off, since each goes on from what those before it have left
  induction ms using List.reverseRecOn with
  | nil => rfl
  | append_singleton ms m ih =>
    calc
      replay (ms ++ [m]) = (merge m.readText (replay ms) m.paths).1 := by
        rw [replay, List.foldl_concat, ← replay]
      _ = definedBy ms ++ m.texts.flatMap Dotenv.parse := by rw [fst_merge, ih]
      _ = definedBy (ms ++ [m]) := by simp [definedBy]

/-- A file that cannot be read ends a call, and so the files behind it do not count. -/
theorem merge_append_of_error {before : List String} {path : String} {cause : TextError}
    (hbefore : ∀ p ∈ before, ∃ text, readText p = .ok text) (hpath : readText path = .error cause)
    (ds : Definitions) (after : List String) :
    merge readText ds (before ++ path :: after) =
      ((merge readText ds before).1, some (.unreadableVariables path cause)) := by
  induction before generalizing ds with
  | nil => simp only [List.nil_append, merge, hpath]
  | cons p before ih =>
    obtain ⟨⟨text, hp⟩, hrest⟩ := List.forall_mem_cons.1 hbefore
    simp only [List.cons_append, merge, hp, ih hrest]

theorem Merging.map_readText {m : Merging} (h : m.IsReadable) :
    m.paths.map m.readText = m.texts.map .ok := by
  obtain ⟨readText, paths⟩ := m
  induction paths with
  | nil => rfl
  | cons path rest ih =>
    obtain ⟨⟨text, hr⟩, hrest⟩ := List.forall_mem_cons.1 h
    rw [texts_of_ok hr, List.map_cons, List.map_cons, hr]
    exact congrArg (_ :: ·) (ih hrest)

theorem Merging.isReadable_of_map {m : Merging} {texts : List String}
    (h : m.paths.map m.readText = texts.map .ok) : m.IsReadable ∧ m.texts = texts := by
  have hr : m.IsReadable := by
    intro path hp
    have hmem : m.readText path ∈ texts.map .ok := h ▸ List.mem_map_of_mem hp
    obtain ⟨text, -, htext⟩ := List.mem_map.1 hmem
    exact ⟨text, htext.symm⟩
  rw [map_readText hr] at h
  exact ⟨hr, List.map_injective_iff.2 (fun _ _ => Except.ok.inj) h⟩

/-- Calls that succeed may cut the same files into other pieces. -/
theorem replay_congr {ms ms' : List Merging} (hms : ∀ m ∈ ms, m.IsReadable)
    (hms' : ∀ m ∈ ms', m.IsReadable)
    (h : ms.flatMap (fun m => m.paths.map m.readText) = ms'.flatMap fun m => m.paths.map m.readText) :
    replay ms = replay ms' := by
  have hread {ns : List Merging} (hns : ∀ m ∈ ns, m.IsReadable) :
      ns.flatMap (fun m => m.paths.map m.readText) = (ns.flatMap Merging.texts).map .ok := by
    rw [List.map_flatMap]
    exact List.flatMap_congr fun m hm => Merging.map_readText (hns m hm)
  rw [hread hms, hread hms'] at h
  have htexts := List.map_injective_iff.2 (fun _ _ => Except.ok.inj) h
  rw [replay_eq, replay_eq, definedBy, htexts, definedBy]

/-- Files that can be read may be joined into one. -/
theorem merge_intercalate {m : Merging} {texts : List String}
    (h : m.paths.map m.readText = texts.map .ok) {path : String}
    (hpath : readText path = .ok ("\n".intercalate texts)) (ds : Definitions) :
    merge readText ds [path] = merge m.readText ds m.paths := by
  obtain ⟨hr, rfl⟩ := Merging.isReadable_of_map h
  have hsnd : (merge m.readText ds m.paths).2 = none := snd_merge_eq_none_iff.2 hr
  have hfst : (merge m.readText ds m.paths).1 = ds ++ m.texts.flatMap Dotenv.parse := fst_merge ..
  calc
    merge readText ds [path] = (ds ++ Dotenv.parse ("\n".intercalate m.texts), none) := by
      simp only [merge, hpath]
    _ = (ds ++ m.texts.flatMap Dotenv.parse, none) := by rw [Dotenv.parse_intercalate]
    _ = merge m.readText ds m.paths := (Prod.ext hfst hsnd).symm

/-- Of all that the files define which could be read, the last definition of a name counts, whatever
calls they were merged with. A call fails at the first file that cannot be read or is no text; the files
before it stay merged and the others count for nothing. Reading goes line by line, so neither calls nor
files need to be told apart. -/
theorem last_definition_wins :
    (∀ a b : String, Dotenv.parse (a ++ "\n" ++ b) = Dotenv.parse a ++ Dotenv.parse b) ∧
    (∀ (ms : List Merging) (name : String),
      (∀ value, (replay ms).get? name = some value ↔ IsLast (definedBy ms) name value) ∧
      ((replay ms).get? name = none ↔ ∀ d ∈ definedBy ms, d.1 ≠ name)) ∧
    (∀ (m : Merging) (ds : Definitions),
      ((merge m.readText ds m.paths).2 = none ↔ m.IsReadable) ∧
      (∀ f, (merge m.readText ds m.paths).2 = some f ↔
        ∃ path cause, FailsFirst m.readText m.paths path cause ∧ f = .unreadableVariables path cause ∧
          f.kind = .suiteFile) ∧
      ∀ before path after cause, m.paths = before ++ path :: after →
        (∀ p ∈ before, ∃ text, m.readText p = .ok text) → m.readText path = .error cause →
        merge m.readText ds m.paths =
          ((merge m.readText ds before).1, some (.unreadableVariables path cause))) ∧
    (∀ ms ms' : List Merging, (∀ m ∈ ms, m.IsReadable) → (∀ m ∈ ms', m.IsReadable) →
      ms.flatMap (fun m => m.paths.map m.readText) = ms'.flatMap (fun m => m.paths.map m.readText) →
      replay ms = replay ms') ∧
    (∀ (m : Merging) (texts : List String), m.paths.map m.readText = texts.map .ok →
      ∀ (readText : String → Except TextError String) (path : String),
        readText path = .ok ("\n".intercalate texts) →
        ∀ ds, merge readText ds [path] = merge m.readText ds m.paths) ∧
    ∀ (t : FileTree) (base : Location) (path text : String), t.readText base path = .ok text ↔
      FileTree.hasZero path = false ∧ t.readBytes base path = .ok (Text.Utf8.encode text.toList) := by
  refine ⟨Dotenv.parse_append, fun ms name => ?_, fun m ds => ⟨snd_merge_eq_none_iff, fun f => ?_, ?_⟩,
    fun ms ms' hms hms' h => replay_congr hms hms' h,
    fun m texts h readText path hpath ds => merge_intercalate h hpath ds,
    fun t base path text => FileTree.readText_eq_ok_iff⟩
  · rw [replay_eq]
    exact ⟨fun value => get?_eq_some_iff, get?_eq_none_iff⟩
  · rw [snd_merge_eq_some_iff]
    constructor
    · rintro ⟨path, cause, hfirst, rfl⟩
      exact ⟨path, cause, hfirst, rfl, rfl⟩
    · rintro ⟨path, cause, hfirst, rfl, -⟩
      exact ⟨path, cause, hfirst, rfl⟩
  · intro before path after cause hpaths hbefore hpath
    rw [hpaths]
    exact merge_append_of_error hbefore hpath ds after

/-- A call that fails keeps what it has read, and a later call overrides it. -/
theorem last_definition_wins_after_failure :
    let readText : String → Except TextError String := fun path =>
      if path = "a" then .ok "K=1\r\nL='x'" else if path = "b" then .ok "# K\nK = 2" else .error .notText
    let ms : List Merging := [⟨readText, ["b", "a", "c", "b"]⟩, ⟨readText, ["b"]⟩]
    (replay (ms.take 1)).get? "K" = some "1" ∧ (replay ms).get? "K" = some "2" ∧
      (replay ms).get? "L" = some "x" := by
  intro readText ms
  obtain ⟨-, hlast, -⟩ := last_definition_wins
  refine ⟨((hlast _ _).1 _).2 ⟨[("K", "2")], [("L", "x")], ?_, by simp⟩,
    ((hlast _ _).1 _).2 ⟨[("K", "2"), ("K", "1"), ("L", "x")], [], ?_, by simp⟩,
    ((hlast _ _).1 _).2 ⟨[("K", "2"), ("K", "1")], [("K", "2")], ?_, by simp⟩⟩
  all_goals decide +kernel

end Definitions

end SmokeSuite
