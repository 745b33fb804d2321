import SmokeSuite.Proofs.Decimal.Whole
import SmokeSuite.Proofs.Suite.Validation
import SmokeSuite.Proofs.Text.Lines
import Mathlib.Data.List.Sigma

namespace SmokeSuite.Suite

/-- The paths of the parts that may not be empty and are. -/
inductive Lacks (s : Suite) : String → Prop where
  | tools (h : s.tools = []) : s.Lacks "tools"
  | dot (h : s.dot = "") : s.Lacks "dot"
  | exclusionTools {i : Nat} {x : Exclusion} (hx : s.exclusions[i]? = some x) (h : x.tools = []) :
      s.Lacks ("exclusions[" ++ toString i ++ "].tools")
  | exclusionReason {i : Nat} {x : Exclusion} (hx : s.exclusions[i]? = some x) (h : x.reason = "") :
      s.Lacks ("exclusions[" ++ toString i ++ "].reason")
  | formatName {i : Nat} {t : FormatTarget} (ht : s.formats[i]? = some t) (h : t.format = "") :
      s.Lacks ("formats[" ++ toString i ++ "].format")
  | formatSource {i : Nat} {t : FormatTarget} (ht : s.formats[i]? = some t) (h : t.source = "") :
      s.Lacks ("formats[" ++ toString i ++ "].source")

/-- The empty parts of the exclusion at a place. -/
def emptyInExclusion (i : Nat) (x : Exclusion) : List Part :=
  check x.tools.isEmpty (.exclusionTools i) ++ check (x.reason == "") (.exclusionReason i)

/-- The empty parts of the format at a place. -/
def emptyInFormat (i : Nat) (t : FormatTarget) : List Part :=
  check (t.format == "") (.formatName i) ++ check (t.source == "") (.formatSource i)

theorem emptyInExclusions_eq (i : Nat) (xs : List Exclusion) :
    emptyInExclusions i xs = (xs.zipIdx i).flatMap fun p => emptyInExclusion p.2 p.1 := by
  induction xs generalizing i with
  | nil => rfl
  | cons x xs ih => rw [emptyInExclusions, ih, List.zipIdx_cons, List.flatMap_cons, emptyInExclusion]

theorem emptyInFormats_eq (i : Nat) (ts : List FormatTarget) :
    emptyInFormats i ts = (ts.zipIdx i).flatMap fun p => emptyInFormat p.2 p.1 := by
  induction ts generalizing i with
  | nil => rfl
  | cons t ts ih => rw [emptyInFormats, ih, List.zipIdx_cons, List.flatMap_cons, emptyInFormat]

theorem mem_check {isEmpty : Bool} {p q : Part} : q ∈ check isEmpty p ↔ isEmpty = true ∧ q = p := by
  cases isEmpty <;> simp [check]

namespace Part

/-- The place in a list of the record that a part belongs to. -/
def place : Part → Option Nat
  | .tools | .dot => none
  | .exclusionTools i | .exclusionReason i | .formatName i | .formatSource i => some i

/-- The list of that record. -/
def list : Part → String
  | .tools | .dot => ""
  | .exclusionTools _ | .exclusionReason _ => "exclusions"
  | .formatName _ | .formatSource _ => "formats"

/-- The name of a part in its record. -/
def name : Part → String
  | .tools | .exclusionTools _ => "tools"
  | .dot => "dot"
  | .exclusionReason _ => "reason"
  | .formatName _ => "format"
  | .formatSource _ => "source"

theorem bracket_notMem_list (p : Part) : '[' ∉ p.list.toList := by
  cases p <;> simp [list]

theorem bracket_notMem_name (p : Part) : '[' ∉ p.name.toList := by
  cases p <;> simp [name]

theorem path_of_place_eq_none {p : Part} (h : p.place = none) : p.path = p.name ∧ p.list = "" := by
  cases p <;> simp_all [place, path, name, list]

theorem path_of_place_eq_some {p : Part} {i : Nat} (h : p.place = some i) :
    p.path = entry p.list i p.name := by
  cases p <;> cases h <;> rfl

theorem toList_entry (list : String) (i : Nat) (name : String) :
    (entry list i name).toList =
      list.toList ++ '[' :: (Nat.toDigits 10 i ++ ']' :: '.' :: name.toList) := by
  simp [entry, Nat.toList_repr]

theorem entry_inj {l l' n n' : String} {i j : Nat} (hl : '[' ∉ l.toList) (hl' : '[' ∉ l'.toList)
    (h : entry l i n = entry l' j n') : l = l' ∧ i = j ∧ n = n' := by
  have hdigit (k : Nat) : ']' ∉ Nat.toDigits 10 k := Decimal.notMem_toDigits (by decide) k
  have hlists := congrArg (Text.cutAt '[' ·.toList) h
  simp only [toList_entry, Text.cutAt_append hl, Text.cutAt_append hl', Option.some.injEq,
    Prod.mk.injEq] at hlists
  obtain ⟨hlist, hrest⟩ := hlists
  have hindices := congrArg (Text.cutAt ']') hrest
  simp only [Text.cutAt_append (hdigit _), Option.some.injEq, Prod.mk.injEq, List.cons.injEq,
    true_and] at hindices
  obtain ⟨hindex, hname⟩ := hindices
  have hij : i = j := calc
    i = Decimal.ofDigits (Nat.toDigits 10 i) := (Decimal.ofDigits_toDigits i).symm
    _ = Decimal.ofDigits (Nat.toDigits 10 j) := by rw [hindex]
    _ = j := Decimal.ofDigits_toDigits j
  exact ⟨String.toList_inj.1 hlist, hij, String.toList_inj.1 hname⟩

theorem path_injective : Function.Injective path := by
  intro p q h
  have hne {r t : Part} {i : Nat} (hr : r.place = some i) (ht : t.place = none) : r.path ≠ t.path := by
    intro he
    rw [path_of_place_eq_some hr, (path_of_place_eq_none ht).1] at he
    refine t.bracket_notMem_name ?_
    rw [← he, toList_entry]
    exact List.mem_append_right _ List.mem_cons_self
  have hsame (hplace : p.place = q.place) (hlist : p.list = q.list) (hname : p.name = q.name) :
      p = q := by
    cases p <;> cases q <;> simp_all [place, list, name]
  cases hp : p.place with
  | none =>
    cases hq : q.place with
    | none =>
      obtain ⟨hpath, hlist⟩ := path_of_place_eq_none hp
      obtain ⟨hpath', hlist'⟩ := path_of_place_eq_none hq
      exact hsame (hp.trans hq.symm) (hlist.trans hlist'.symm) (hpath.symm.trans (h.trans hpath'))
    | some j => exact absurd h.symm (hne hq hp)
  | some i =>
    cases hq : q.place with
    | none => exact absurd h (hne hp hq)
    | some j =>
      rw [path_of_place_eq_some hp, path_of_place_eq_some hq] at h
      obtain ⟨hlist, rfl, hname⟩ := entry_inj p.bracket_notMem_list q.bracket_notMem_list h
      exact hsame (hp.trans hq.symm) hlist hname

/-- The path of a part in a list, with what stands before and behind the place taken together. -/
theorem entry_eq {list front back name : String} (hfront : list ++ "[" = front)
    (hback : "]." ++ name = back) (i : Nat) : entry list i name = front ++ toString i ++ back := by
  rw [← hfront, ← hback, entry, String.append_assoc]

end Part

section Paths

variable {s : Suite} {path : String}

theorem mem_flatMap_zipIdx {α β : Type} {look : Nat → α → List β} {xs : List α} {b : β} :
    b ∈ xs.zipIdx.flatMap (fun p => look p.2 p.1) ↔ ∃ i x, xs[i]? = some x ∧ b ∈ look i x := by
  rw [List.mem_flatMap]
  constructor
  · rintro ⟨⟨x, i⟩, hx, hb⟩
    exact ⟨i, x, List.mk_mem_zipIdx_iff_getElem?.1 hx, hb⟩
  · rintro ⟨i, x, hx, hb⟩
    exact ⟨(x, i), List.mk_mem_zipIdx_iff_getElem?.2 hx, hb⟩

theorem mem_emptyParts {p : Part} :
    p ∈ s.emptyParts ↔ (s.tools = [] ∧ p = .tools) ∨ (s.dot = "" ∧ p = .dot) ∨
      (∃ i x, s.exclusions[i]? = some x ∧ p ∈ emptyInExclusion i x) ∨
      ∃ i t, s.formats[i]? = some t ∧ p ∈ emptyInFormat i t := by
  rw [emptyParts, emptyInExclusions_eq, emptyInFormats_eq]
  simp only [List.mem_append, mem_check, mem_flatMap_zipIdx, List.isEmpty_iff, beq_iff_eq, or_assoc]

/-- The paths that are told of a suite are those of its empty parts. -/
theorem mem_paths_iff : path ∈ s.emptyParts.map Part.path ↔ s.Lacks path := by
  have htools (i : Nat) : (Part.exclusionTools i).path = "exclusions[" ++ toString i ++ "].tools" :=
    Part.entry_eq (by decide) (by decide) i
  have hreason (i : Nat) : (Part.exclusionReason i).path = "exclusions[" ++ toString i ++ "].reason" :=
    Part.entry_eq (by decide) (by decide) i
  have hformat (i : Nat) : (Part.formatName i).path = "formats[" ++ toString i ++ "].format" :=
    Part.entry_eq (by decide) (by decide) i
  have hsource (i : Nat) : (Part.formatSource i).path = "formats[" ++ toString i ++ "].source" :=
    Part.entry_eq (by decide) (by decide) i
  simp only [List.mem_map, mem_emptyParts, emptyInExclusion, emptyInFormat, List.mem_append, mem_check,
    List.isEmpty_iff, beq_iff_eq]
  constructor
  · rintro ⟨p, ⟨h, rfl⟩ | ⟨h, rfl⟩ | ⟨i, x, hx, ⟨h, rfl⟩ | ⟨h, rfl⟩⟩ | ⟨i, t, ht, ⟨h, rfl⟩ | ⟨h, rfl⟩⟩, rfl⟩
    · exact .tools h
    · exact .dot h
    · exact htools i ▸ .exclusionTools hx h
    · exact hreason i ▸ .exclusionReason hx h
    · exact hformat i ▸ .formatName ht h
    · exact hsource i ▸ .formatSource ht h
  · rintro (h | h | ⟨hx, h⟩ | ⟨hx, h⟩ | ⟨ht, h⟩ | ⟨ht, h⟩)
    · exact ⟨.tools, .inl ⟨h, rfl⟩, rfl⟩
    · exact ⟨.dot, .inr (.inl ⟨h, rfl⟩), rfl⟩
    · exact ⟨_, .inr (.inr (.inl ⟨_, _, hx, .inl ⟨h, rfl⟩⟩)), htools _⟩
    · exact ⟨_, .inr (.inr (.inl ⟨_, _, hx, .inr ⟨h, rfl⟩⟩)), hreason _⟩
    · exact ⟨_, .inr (.inr (.inr ⟨_, _, ht, .inl ⟨h, rfl⟩⟩)), hformat _⟩
    · exact ⟨_, .inr (.inr (.inr ⟨_, _, ht, .inr ⟨h, rfl⟩⟩)), hsource _⟩

theorem forall_mem_check_append {P : Part → Prop} {b c : Bool} {p q : Part} (hp : P p) (hq : P q) :
    ∀ r ∈ check b p ++ check c q, P r := by
  cases b <;> cases c <;> simp [check, hp, hq]

theorem nodup_check_append {b c : Bool} {p q : Part} (h : p ≠ q) : (check b p ++ check c q).Nodup := by
  cases b <;> cases c <;> simp [check, h]

/-- What is empty at one place of a list is not what is empty at another. -/
theorem nodup_flatMap_zipIdx {α : Type} (look : Nat → α → List Part) (list : String)
    (hnodup : ∀ i x, (look i x).Nodup)
    (hlook : ∀ i x, ∀ p ∈ look i x, p.place = some i ∧ p.list = list) (xs : List α) :
    (xs.zipIdx.flatMap fun p => look p.2 p.1).Nodup ∧
      ∀ p ∈ xs.zipIdx.flatMap (fun p => look p.2 p.1), p.list = list := by
  have hplaces : xs.zipIdx.Pairwise fun p q => p.2 ≠ q.2 :=
    List.pairwise_map.1 (List.nodup_zipIdx_map_snd xs)
  refine ⟨List.nodup_flatMap.2 ⟨fun p _ => hnodup p.2 p.1, ?_⟩, fun p hp => ?_⟩
  · refine hplaces.imp fun {p q} hpq r hp hq => hpq ?_
    exact Option.some.inj ((hlook p.2 p.1 r hp).1.symm.trans (hlook q.2 q.1 r hq).1)
  · obtain ⟨i, x, -, hp⟩ := mem_flatMap_zipIdx.1 hp
    exact (hlook i x p hp).2

/-- Each empty part is told once. -/
theorem nodup_paths : (s.emptyParts.map Part.path).Nodup := by
  refine List.Nodup.map Part.path_injective ?_
  have htop : ∀ p ∈ check s.tools.isEmpty .tools ++ check (s.dot == "") .dot, p.list = "" :=
    forall_mem_check_append rfl rfl
  obtain ⟨hexclusions, hlist⟩ := nodup_flatMap_zipIdx emptyInExclusion "exclusions"
    (fun i x => nodup_check_append (by simp))
    (fun i x => forall_mem_check_append ⟨rfl, rfl⟩ ⟨rfl, rfl⟩) s.exclusions
  obtain ⟨hformats, hlist'⟩ := nodup_flatMap_zipIdx emptyInFormat "formats"
    (fun i t => nodup_check_append (by simp))
    (fun i t => forall_mem_check_append ⟨rfl, rfl⟩ ⟨rfl, rfl⟩) s.formats
  rw [emptyParts, emptyInExclusions_eq, emptyInFormats_eq, List.nodup_append, List.nodup_append]
  refine ⟨⟨nodup_check_append (by simp), hexclusions, ?_⟩, hformats, ?_⟩
  · rintro p hp _ hq rfl
    exact absurd ((htop p hp).symm.trans (hlist p hq)) (by decide)
  · rintro p hp _ hq rfl
    rcases List.mem_append.1 hp with hp | hp
    · exact absurd ((htop p hp).symm.trans (hlist' p hq)) (by decide)
    · exact absurd ((hlist p hp).symm.trans (hlist' p hq)) (by decide)

end Paths

/-- A name at the first place in a list where one stands that has stood there before. -/
structure IsFirstRepeat (names : List String) (i : Nat) (name : String) : Prop where
  here : names[i]? = some name
  before : name ∈ names.take i
  least : ∀ j < i, ∀ n, names[j]? = some n → n ∉ names.take j

theorem exists_of_gather_error {repeated : String → Invalid} {seen names : List String}
    {cause : Invalid} (h : gather repeated seen names = .error cause) :
    ∃ i name, cause = repeated name ∧ names[i]? = some name ∧ (name ∈ seen ∨ name ∈ names.take i) ∧
      ∀ j < i, ∀ n, names[j]? = some n → n ∉ seen ∧ n ∉ names.take j := by
  induction names generalizing seen with
  | nil => cases h
  | cons m ms ih =>
    -- the first name counts as seen for the rest of the list, so places move by one
    rw [gather] at h
    split at h
    · next hm =>
      cases h
      exact ⟨0, m, rfl, rfl, .inl (by simpa using hm), fun j hj => absurd hj (Nat.not_lt_zero j)⟩
    · next hm =>
      obtain ⟨i, name, hcause, hi, hbefore, hleast⟩ := ih h
      refine ⟨i + 1, name, hcause, hi, ?_, fun j hj n hn => ?_⟩
      · rw [List.take_succ_cons, List.mem_cons]
        rcases hbefore with hseen | htake
        · exact (List.mem_cons.1 hseen).symm.imp_right .inl
        · exact .inr (.inr htake)
      · cases j with
        | zero =>
          cases hn
          exact ⟨by simpa using hm, List.not_mem_nil⟩
        | succ j =>
          obtain ⟨hseen, htake⟩ := hleast j (by omega) n hn
          rw [List.mem_cons, not_or] at hseen
          rw [List.take_succ_cons, List.mem_cons, not_or]
          exact ⟨hseen.2, hseen.1, htake⟩

theorem exists_firstRepeat (repeated : String → Invalid) {names : List String} (h : ¬ names.Nodup) :
    ∃ i name, gather repeated [] names = .error (repeated name) ∧ IsFirstRepeat names i name := by
  cases hr : gather repeated [] names with
  | ok all => exact absurd (exists_gather_iff.1 ⟨all, hr⟩) h
  | error cause =>
    obtain ⟨i, name, rfl, hi, hbefore, hleast⟩ := exists_of_gather_error hr
    exact ⟨i, name, rfl, hi, by simpa using hbefore, fun j hj n hn => (hleast j hj n hn).2⟩

theorem infix_join {t : String} {ts : List String} (h : t ∈ ts) :
    t.toList <:+: (String.join ts).toList := by
  rw [String.toList_join]
  exact List.infix_of_mem_flatten (List.mem_map_of_mem h)

theorem infix_intercalate {t sep : String} {ts : List String} (h : t ∈ ts) :
    t.toList <:+: (sep.intercalate ts).toList := by
  rw [String.toList_intercalate]
  have hmem : t.toList ∈ ts.map String.toList := List.mem_map_of_mem h
  generalize ts.map String.toList = ls at hmem
  induction ls with
  | nil => cases hmem
  | cons l ls ih =>
    cases ls with
    | nil => simp [List.mem_singleton.1 hmem]
    | cons m ms =>
      rw [List.intercalate_cons_cons]
      rcases List.mem_cons.1 hmem with rfl | hrest
      · exact ⟨[], sep.toList ++ sep.toList.intercalate (m :: ms), by simp⟩
      · exact (ih hrest).trans (List.suffix_append _ _).isInfix

/-- The text names the path of every part that is told. -/
theorem exists_text_eq {parts : List Part} {p : Part} (h : p ∈ parts) :
    ∃ front back, (Invalid.emptyParts parts).text = front ++ p.path ++ ": " ++ back := by
  have hgroup : p.text ∈ (parts.filter (·.field == p.field)).map Part.text :=
    List.mem_map_of_mem (List.mem_filter.2 ⟨h, beq_self_eq_true _⟩)
  have hfield : p.field ∈ Part.fields.filter fun field => parts.any (·.field == field) := by
    refine List.mem_filter.2 ⟨?_, List.any_eq_true.2 ⟨p, h, beq_self_eq_true _⟩⟩
    cases p <;> simp [Part.field, Part.fields]
  have hline := @infix_intercalate _ "\n" _ (List.mem_map_of_mem hfield
    (f := fun field => String.join ((parts.filter (·.field == field)).map Part.text)))
  obtain ⟨front, back, htext⟩ := (infix_join hgroup).trans hline
  refine ⟨String.ofList front, p.explanation.getD p.brokenRule ++ String.ofList back, ?_⟩
  rw [← String.toList_inj, Invalid.text, ← htext, Part.text]
  simp

variable {s : Suite}

theorem validate_of_lacks {path : String} (h : s.Lacks path) :
    s.validate = .error (.emptyParts s.emptyParts) := by
  obtain ⟨p, hp, -⟩ := List.mem_map.1 (mem_paths_iff.2 h)
  have hparts : s.emptyParts ≠ [] := List.ne_nil_of_mem hp
  simp [validate, review, hparts, Except.map, throw, throwThe, MonadExceptOf.throw, bind, Except.bind]

theorem emptyParts_of_not_lacks (h : ∀ path, ¬ s.Lacks path) : s.emptyParts = [] := by
  cases hparts : s.emptyParts with
  | nil => rfl
  | cons p ps =>
    have hp : p.path ∈ s.emptyParts.map Part.path := List.mem_map_of_mem (hparts ▸ List.mem_cons_self)
    exact absurd (mem_paths_iff.1 hp) (h p.path)

theorem validate_of_repeatedTool {cause : Invalid} (h : s.emptyParts = [])
    (htools : gather .repeatedTool [] s.tools = .error cause) : s.validate = .error cause := by
  simp [validate, review, h, htools, Except.map, bind, Except.bind]

theorem validate_of_repeatedFormat {cause : Invalid} {seen : List String} (h : s.emptyParts = [])
    (htools : gather .repeatedTool [] s.tools = .ok seen)
    (hformats : gather .repeatedFormat [] (s.formats.map (·.format)) = .error cause) :
    s.validate = .error cause := by
  simp [validate, review, h, htools, hformats, Except.map, bind, Except.bind]

/-- A suite is accepted exactly if it is well formed. Else every empty part is told, once, and nothing
about names that stand in it twice; where nothing is empty, the first repeated tool is told, and the first
repeated format only where the tools are all different. -/
theorem validate_tells_faults (s : Suite) :
    (s.validate = .ok () ↔ s.IsWellFormed) ∧
    ((∃ path, s.Lacks path) → ∃ parts, s.validate = .error (.emptyParts parts) ∧
      (parts.map Part.path).Nodup ∧ (∀ path, path ∈ parts.map Part.path ↔ s.Lacks path) ∧
      ∀ path, s.Lacks path →
        ∃ front back, (Invalid.emptyParts parts).text = front ++ path ++ ": " ++ back) ∧
    ((∀ path, ¬ s.Lacks path) → ¬ s.tools.Nodup →
      ∃ i name, IsFirstRepeat s.tools i name ∧ s.validate = .error (.repeatedTool name) ∧
        (Invalid.repeatedTool name).text = "tool '" ++ name ++ "' is listed more than once") ∧
    ((∀ path, ¬ s.Lacks path) → s.tools.Nodup → ¬ (s.formats.map (·.format)).Nodup →
      ∃ i name, IsFirstRepeat (s.formats.map (·.format)) i name ∧
        s.validate = .error (.repeatedFormat name) ∧
        (Invalid.repeatedFormat name).text = "format '" ++ name ++ "' is listed more than once") := by
  refine ⟨validate_eq_ok_iff, fun ⟨path, h⟩ => ?_, fun h htools => ?_, fun h htools hformats => ?_⟩
  · refine ⟨s.emptyParts, validate_of_lacks h, nodup_paths, fun path => mem_paths_iff, fun path hpath => ?_⟩
    obtain ⟨p, hp, rfl⟩ := List.mem_map.1 (mem_paths_iff.2 hpath)
    exact exists_text_eq hp
  · obtain ⟨i, name, hname, hrepeat⟩ := exists_firstRepeat .repeatedTool htools
    exact ⟨i, name, hrepeat, validate_of_repeatedTool (emptyParts_of_not_lacks h) hname, rfl⟩
  · obtain ⟨i, name, hname, hrepeat⟩ := exists_firstRepeat .repeatedFormat hformats
    obtain ⟨seen, hseen⟩ := exists_gather_iff.2 htools
    exact ⟨i, name, hrepeat, validate_of_repeatedFormat (emptyParts_of_not_lacks h) hseen hname, rfl⟩

/-- Of a suite with empty parts, tools and formats that stand in it twice are not told. -/
theorem validate_tells_faults_of_many :
    let s : Suite :=
      { tools := ["dot", "dot"], dot := ""
        exclusions := [{ tools := ["neato"], reason := "no ANN" }, { tools := [], reason := "" }]
        formats := [{ format := "svg" }, { format := "svg", source := "" }] }
    let t : Suite := { tools := ["dot", "neato", "neato", "dot"], formats := [{ format := "svg" }] }
    (∃ parts, s.validate = .error (.emptyParts parts) ∧ (parts.map Part.path).Nodup ∧
      (∀ path, path ∈ parts.map Part.path ↔ s.Lacks path) ∧
      ∀ path, s.Lacks path →
        ∃ front back, (Invalid.emptyParts parts).text = front ++ path ++ ": " ++ back) ∧
    s.emptyParts.map Part.path =
      ["dot", "exclusions[1].tools", "exclusions[1].reason", "formats[1].source"] ∧
    ∃ i name, IsFirstRepeat t.tools i name ∧ t.validate = .error (.repeatedTool name) ∧
      (Invalid.repeatedTool name).text = "tool '" ++ name ++ "' is listed more than once" := by
  intro s t
  have hs : ∃ path, s.Lacks path := ⟨"dot", .dot rfl⟩
  have ht (path : String) : ¬ t.Lacks path := by
    rw [← mem_paths_iff]
    exact List.not_mem_nil
  have hrepeated : ¬ t.tools.Nodup := by decide
  exact ⟨(validate_tells_faults s).2.1 hs, by decide +kernel, (validate_tells_faults t).2.2.1 ht hrepeated⟩

end SmokeSuite.Suite
