namespace SmokeSuite.Text.Utf8

def encode (s : List Char) : List UInt8 := s.flatMap String.utf8EncodeChar

/-- What a lead byte announces: how many bytes follow, its payload, and the range of the next one.
The range shuts out overlong forms, surrogates and numbers above the last character. -/
def lead (b : UInt8) : Option (Nat × Nat × UInt8 × UInt8) :=
  if 0xC2 ≤ b && b ≤ 0xDF then some (1, (b - 0xC0).toNat, 0x80, 0xBF)
  else if b == 0xE0 then some (2, 0, 0xA0, 0xBF)
  else if b == 0xED then some (2, 0xD, 0x80, 0x9F)
  else if 0xE1 ≤ b && b ≤ 0xEF then some (2, (b - 0xE0).toNat, 0x80, 0xBF)
  else if b == 0xF0 then some (3, 0, 0x90, 0xBF)
  else if 0xF1 ≤ b && b ≤ 0xF3 then some (3, (b - 0xF0).toNat, 0x80, 0xBF)
  else if b == 0xF4 then some (3, 4, 0x80, 0x8F)
  else none

/-- Reads the bytes that a lead byte announced, and stops before the first that does not fit. -/
def tail : Nat → UInt8 → UInt8 → Nat → List UInt8 → Option Char × List UInt8
  | 0, _, _, code, r => (some (Char.ofNat code), r)
  | _ + 1, _, _, _, [] => (none, [])
  | n + 1, lo, hi, code, b :: r =>
    if lo ≤ b && b ≤ hi then tail n 0x80 0xBF (code * 64 + (b - 0x80).toNat) r
    else (none, b :: r)

theorem length_tail_le (n : Nat) (lo hi : UInt8) (code : Nat) (r : List UInt8) :
    (tail n lo hi code r).2.length ≤ r.length := by
  induction r generalizing n lo hi code with
  | nil => cases n <;> simp [tail]
  | cons b r ih =>
    cases n with
    | zero => simp [tail]
    | succ n =>
      rw [tail]
      split
      · exact Nat.le_succ_of_le (ih ..)
      · simp

/-- The characters of a byte sequence, with `none` for each ill-formed piece. -/
def steps : List UInt8 → List (Option Char)
  | [] => []
  | b :: r =>
    if b < 0x80 then some (Char.ofNat b.toNat) :: steps r
    else match lead b with
      | none => none :: steps r
      | some (n, code, lo, hi) =>
        have := length_tail_le n lo hi code r
        (tail n lo hi code r).1 :: steps (tail n lo hi code r).2
termination_by s => s.length
decreasing_by all_goals simp_all; try omega

def decode? (s : List UInt8) : Option (List Char) := (steps s).mapM id

def decodeLossy (s : List UInt8) : List Char := (steps s).map (·.getD '\uFFFD')

end SmokeSuite.Text.Utf8
