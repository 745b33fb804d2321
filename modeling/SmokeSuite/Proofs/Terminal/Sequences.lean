import SmokeSuite.Proofs.Decimal.Whole
import SmokeSuite.Proofs.Text.Lines
import SmokeSuite.Terminal.Plain
import SmokeSuite.Terminal.Style

namespace SmokeSuite.Terminal

open Phase (escapeMark)

/-- A text as a terminal takes it apart. -/
inductive Piece where
  | shown (c : Char)
  | codes (ns : List Nat)
  deriving DecidableEq

def isParameter (c : Char) : Bool := c.isDigit || c == ';'

/-- Reads the sequence of style that a text begins with: a bracket behind the escape character, numbers
and the letter that ends them. A number that is left out is zero. -/
def readSequence? : List Char → Option (List Nat × List Char)
  | '\x1b' :: '[' :: s =>
    match s.dropWhile isParameter with
    | 'm' :: r => some ((Text.partsAt ';' (s.takeWhile isParameter)).map Decimal.ofDigits, r)
    | _ => none
  | _ => none

theorem length_lt_of_readSequence? {s r : List Char} {ns : List Nat}
    (h : readSequence? s = some (ns, r)) : r.length < s.length := by
  unfold readSequence? at h
  split at h
  · next s =>
    have hrest : (s.dropWhile isParameter).length ≤ s.length :=
      (List.dropWhile_suffix isParameter).length_le
    split at h
    · next r' hr =>
      cases h
      rw [hr] at hrest
      simp only [List.length_cons] at hrest ⊢
      omega
    · cases h
  · cases h

def pieces (s : List Char) : List Piece :=
  match _h : readSequence? s with
  | some (ns, r) => .codes ns :: pieces r
  | none =>
    -- an escape character that begins no sequence of style is shown as well
    match s with
    | [] => []
    | c :: r => .shown c :: pieces r
termination_by s.length
decreasing_by
  · exact length_lt_of_readSequence? _h
  · exact Nat.lt_succ_self r.length

def Piece.char? : Piece → Option Char
  | .shown c => some c
  | .codes _ => none

/-- A text without its sequences of style. -/
def unstyled (s : String) : String := String.ofList ((pieces s.toList).filterMap Piece.char?)

/-- Behind each sequence stands a reset, and before it no line ends. -/
inductive IsClosed : List Piece → Prop where
  | nil : IsClosed []
  | shown (c : Char) {ps : List Piece} : IsClosed ps → IsClosed (.shown c :: ps)
  | styled (ns : List Nat) {text : List Char} {ps : List Piece} :
      '\n' ∉ text → IsClosed ps →
      IsClosed (.codes ns :: (text.map .shown ++ .codes [0] :: ps))

theorem IsClosed.shown_append (text : List Char) {ps : List Piece} (h : IsClosed ps) :
    IsClosed (text.map .shown ++ ps) := by
  induction text with
  | nil => exact h
  | cons c text ih => exact .shown c ih

theorem filterMap_shown (text : List Char) : (text.map Piece.shown).filterMap Piece.char? = text := by
  rw [List.filterMap_map]
  exact List.filterMap_some

theorem pieces_nil : pieces [] = [] := by
  rw [pieces.eq_def]
  rfl

theorem pieces_of_readSequence? {s r : List Char} {ns : List Nat}
    (h : readSequence? s = some (ns, r)) : pieces s = .codes ns :: pieces r := by
  rw [pieces.eq_def]
  split
  · next h' =>
    rw [h] at h'
    cases h'
    rfl
  · next h' =>
    rw [h] at h'
    cases h'

theorem pieces_cons {c : Char} (h : c ≠ escapeMark) (r : List Char) :
    pieces (c :: r) = .shown c :: pieces r := by
  have hnone : readSequence? (c :: r) = none := by
    unfold readSequence?
    split
    · next heq => exact absurd (List.cons.inj heq).1 h
    · rfl
  rw [pieces.eq_def]
  split
  · next h' =>
    rw [hnone] at h'
    cases h'
  · rfl

theorem pieces_append {s : List Char} (h : escapeMark ∉ s) (r : List Char) :
    pieces (s ++ r) = s.map .shown ++ pieces r := by
  induction s with
  | nil => rfl
  | cons c s ih =>
    obtain ⟨hc, hs⟩ := not_or.1 (mt List.mem_cons.2 h)
    rw [List.cons_append, pieces_cons (Ne.symm hc), ih hs]
    rfl

/-- The numbers of a sequence, as they are written. -/
def parameters (ns : List Nat) : List Char := [';'].intercalate (ns.map (Nat.toDigits 10))

theorem toList_sequence (ns : List Nat) :
    (sequence ns).toList = escapeMark :: '[' :: (parameters ns ++ ['m']) := by
  have hdigits : (ns.map toString).map String.toList = ns.map (Nat.toDigits 10) := by
    rw [List.map_map]
    exact List.map_congr_left fun n _ => Nat.toList_repr
  rw [sequence, String.toList_append, String.toList_append, String.toList_intercalate, hdigits]
  rfl

theorem isParameter_of_mem_parameters {ns : List Nat} {c : Char} (h : c ∈ parameters ns) :
    isParameter c = true := by
  rcases Text.mem_of_mem_intercalate h with hsep | ⟨l, hl, hc⟩
  · rw [List.mem_singleton.1 hsep]
    rfl
  · obtain ⟨n, -, rfl⟩ := List.mem_map.1 hl
    have hdigit : c.isDigit = true := Decimal.isDigit_of_mem_toDigits n c hc
    rw [isParameter, hdigit, Bool.true_or]

theorem ofDigits_parts_parameters {ns : List Nat} (h : ns ≠ []) :
    (Text.partsAt ';' (parameters ns)).map Decimal.ofDigits = ns := by
  have hparts : Text.partsAt ';' (parameters ns) = ns.map (Nat.toDigits 10) := by
    refine Text.partsAt_intercalate (by simpa using h) (List.forall_mem_map.2 fun n _ => ?_)
    exact Decimal.notMem_toDigits (by decide) n
  rw [hparts, List.map_map]
  exact (List.map_congr_left fun n _ => Decimal.ofDigits_toDigits n).trans (List.map_id ns)

theorem readSequence?_sequence {ns : List Nat} (h : ns ≠ []) (r : List Char) :
    readSequence? ((sequence ns).toList ++ r) = some (ns, r) := by
  have hall : ∀ c ∈ parameters ns, isParameter c = true := fun _ => isParameter_of_mem_parameters
  have hdrop : (parameters ns ++ 'm' :: r).dropWhile isParameter = 'm' :: r := by
    rw [List.dropWhile_append_of_pos hall]
    rfl
  have htake : (parameters ns ++ 'm' :: r).takeWhile isParameter = parameters ns := by
    rw [List.takeWhile_append_of_pos hall]
    exact List.append_nil _
  rw [toList_sequence]
  simp only [List.cons_append, List.append_assoc, List.nil_append, readSequence?, escapeMark, hdrop,
    htake, ofDigits_parts_parameters h]

theorem pieces_sequence {ns : List Nat} (h : ns ≠ []) (r : List Char) :
    pieces ((sequence ns).toList ++ r) = .codes ns :: pieces r :=
  pieces_of_readSequence? (readSequence?_sequence h r)

end SmokeSuite.Terminal
