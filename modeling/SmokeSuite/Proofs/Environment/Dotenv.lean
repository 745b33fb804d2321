import SmokeSuite.Environment.Dotenv
import SmokeSuite.Proofs.Text.Lines
import SmokeSuite.Proofs.Text.Trimming

namespace SmokeSuite.Dotenv

/-- What one line defines, as texts. -/
def lineDefinition (l : List Char) : Option Definition :=
  (parseLine l).map fun (key, value) => (String.ofList key, String.ofList value)

theorem lineDefinition_nil : lineDefinition [] = none := rfl

/-- White space around a line does not count, and so neither does a carriage return. -/
theorem lineDefinition_congr {l l' : List Char} (h : Text.trim l = Text.trim l') :
    lineDefinition l = lineDefinition l' := by
  unfold lineDefinition parseLine
  rw [h]

theorem lineDefinition_return (l : List Char) : lineDefinition (l ++ ['\r']) = lineDefinition l := by
  have hreturn : Text.AllBlank ['\r'] := fun c hc => by
    rw [List.mem_singleton.1 hc]
    decide
  exact lineDefinition_congr (Text.trim_append_right hreturn l)

/-- The definitions in the parts of a text between line feeds. -/
def definitions (s : List Char) : List Definition := (Text.partsAt '\n' s).filterMap lineDefinition

theorem parse_eq_definitions (content : String) : parse content = definitions content.toList := by
  have hlines := Text.filterMap_lines lineDefinition_nil lineDefinition_return content.toList
  rw [parse, List.map_filterMap, definitions, ← hlines]
  rfl

theorem definitions_append (a b : List Char) :
    definitions (a ++ '\n' :: b) = definitions a ++ definitions b := by
  rw [definitions, Text.partsAt_append, List.filterMap_append, definitions, definitions]

theorem definitions_of_notMem {l : List Char} (h : '\n' ∉ l) :
    definitions l = (lineDefinition l).toList := by
  rw [definitions, Text.partsAt_of_notMem h]
  cases hl : lineDefinition l <;> simp [hl]

theorem parse_append (a b : String) : parse (a ++ "\n" ++ b) = parse a ++ parse b := by
  have hjoin : (a ++ "\n" ++ b).toList = a.toList ++ '\n' :: b.toList := by simp
  simp only [parse_eq_definitions, hjoin, definitions_append]

/-- Texts joined with line feeds define what they define one after the other. -/
theorem parse_intercalate (texts : List String) :
    parse ("\n".intercalate texts) = texts.flatMap parse := by
  induction texts with
  | nil => rfl
  | cons t ts ih =>
    cases ts with
    | nil => simp
    | cons u us =>
      calc
        parse ("\n".intercalate (t :: u :: us)) = parse t ++ parse ("\n".intercalate (u :: us)) := by
          rw [String.intercalate_cons_cons, parse_append]
        _ = (t :: u :: us).flatMap parse := by
          rw [ih]
          rfl

/-- A line may be cut at its first sign before its parts are trimmed. -/
theorem parseLine_eq (l : List Char) :
    parseLine l = if (Text.trim l).head? = some '#' then none
      else (Text.cutAt '=' l).map fun (x, y) => (Text.trim x, unquote (Text.trim y)) := by
  have hcut : (Text.cutAt '=' (Text.trim l)).map (fun (x, y) => (Text.trim x, unquote (Text.trim y))) =
      (Text.cutAt '=' l).map fun (x, y) => (Text.trim x, unquote (Text.trim y)) := by
    cases h : Text.cutAt '=' l with
    | none =>
      have hno : '=' ∉ Text.trim l := fun hc => Text.cutAt_eq_none.1 h (Text.mem_of_mem_trim hc)
      rw [Text.cutAt_eq_none.2 hno]
    | some p =>
      obtain ⟨x, y⟩ := p
      obtain ⟨hl, hx⟩ := Text.cutAt_eq_some h
      have hstart : '=' ∉ Text.trimStart x := fun hc => hx ((List.dropWhile_sublist _).subset hc)
      rw [hl, Text.trim_append_cons (by decide), Text.cutAt_append hstart]
      simp only [Option.map_some, Text.trim_trimStart, Text.trim_trimEnd]
  unfold parseLine
  simp only [hcut, beq_iff_eq]

end SmokeSuite.Dotenv
