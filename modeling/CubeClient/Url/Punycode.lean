import CubeClient.Text.Ascii

/-!
# Punycode

Labels of a host name that hold characters outside ASCII travel in ASCII: first the ASCII
characters, then, behind the last hyphen, where the others go. Each of these is a difference in
the order of (character, position), written as a number of variable length whose digits go up to
36 and whose thresholds adapt to the differences met so far.
-/

namespace CubeClient.Url.Punycode

/-- The digit of a value below 36: letters first. -/
def digit (value : Nat) : Char :=
  if value < 26 then Char.ofNat (0x61 + value) else Char.ofNat (0x30 + value - 26)

/-- The value of a digit. -/
def digitValue? (c : Char) : Option Nat :=
  if 'a' ≤ c ∧ c ≤ 'z' then some (c.toNat - 0x61)
  else if '0' ≤ c ∧ c ≤ '9' then some (c.toNat - 0x30 + 26)
  else none

/-- The least value that continues a number at a place. -/
def threshold (place bias : Nat) : Nat :=
  if place ≤ bias then 1 else if bias + 26 ≤ place then 26 else place - bias

/-- The threshold is between 1 and 26. -/
theorem threshold_bounds (place bias : Nat) :
    1 ≤ threshold place bias ∧ threshold place bias ≤ 26 := by
  unfold threshold
  split
  · omega
  · split <;> omega

/-- Divides a difference until it is small, counting the divisions. -/
def shrink (delta places : Nat) : Nat × Nat :=
  if 455 < delta then shrink (delta / 35) (places + 36) else (delta, places)
termination_by delta
decreasing_by exact Nat.div_lt_self (by omega) (by omega)

/-- The bias after a difference, when a number of characters are placed. -/
def adapt (delta placed : Nat) (first : Bool) : Nat :=
  let start := if first then delta / 700 else delta / 2
  let (rest, places) := shrink (start + start / placed) 0
  places + 36 * rest / (rest + 38)

/-- Writes a difference. -/
def writeNumber (bias place delta : Nat) : List Char :=
  if delta < threshold place bias then [digit delta]
  else
    digit (threshold place bias +
        (delta - threshold place bias) % (36 - threshold place bias)) ::
      writeNumber bias (place + 36)
        ((delta - threshold place bias) / (36 - threshold place bias))
termination_by delta
decreasing_by
  have := threshold_bounds place bias
  have := Nat.div_le_self (delta - threshold place bias) (36 - threshold place bias)
  omega

/-- What the encoder knows between two characters of a label. -/
structure Progress where
  output : List Char
  delta : Nat
  bias : Nat
  placed : Nat

/-- Passes a character of the label while the characters of one value are placed. -/
def passChar (plain value : Nat) (p : Progress) (c : Char) : Progress :=
  if c.toNat < value then { p with delta := p.delta + 1 }
  else if c.toNat = value then
    { output := p.output ++ writeNumber p.bias 36 p.delta
      delta := 0
      bias := adapt p.delta (p.placed + 1) (p.placed == plain)
      placed := p.placed + 1 }
  else p

/-- Places the characters of each value in turn. -/
def placeAll (label : List Char) (plain : Nat) : List Nat → Nat → Progress → Progress
  | [], _, p => p
  | value :: rest, next, p =>
    let p := { p with delta := p.delta + (value - next) * (p.placed + 1) }
    let p := label.foldl (passChar plain value) p
    placeAll label plain rest (value + 1) { p with delta := p.delta + 1 }

/-- Encodes a label. -/
def encode (label : List Char) : List Char :=
  let plain := label.filter (·.toNat < 0x80)
  let values := (((label.map Char.toNat).filter (0x80 ≤ ·)).mergeSort).eraseDups
  let start := plain ++ if plain.isEmpty then [] else ['-']
  (placeAll label plain.length values 0x80 ⟨start, 0, 72, plain.length⟩).output

/-- Reads a number, with the text behind it. -/
def readNumber? (bias place weight acc : Nat) : List Char → Option (Nat × List Char)
  | [] => none
  | c :: rest =>
    match digitValue? c with
    | none => none
    | some value =>
      if value < threshold place bias then some (acc + value * weight, rest)
      else
        readNumber? bias (place + 36) (weight * (36 - threshold place bias))
          (acc + value * weight) rest

theorem length_lt_of_readNumber? {bias place weight acc n : Nat} {cs after : List Char}
    (h : readNumber? bias place weight acc cs = some (n, after)) : after.length < cs.length := by
  induction cs generalizing place weight acc with
  | nil => simp [readNumber?] at h
  | cons c rest ih =>
    simp only [readNumber?] at h
    split at h
    · simp at h
    · split at h
      · simp_all
      · have := ih h
        simp only [List.length_cons]
        omega

/-- The character of a value, if there is one. -/
def charOf? (value : Nat) : Option Char :=
  if h : value.isValidChar then some (Char.ofNatAux value h) else none

/-- Reads the differences and puts each character into its place. -/
def insertAll? (value position bias : Nat) (first : Bool) (output cs : List Char) :
    Option (List Char) :=
  match cs with
  | [] => some output
  | c :: rest =>
    match h : readNumber? bias 36 1 position (c :: rest) with
    | none => none
    | some (n, after) =>
      have := length_lt_of_readNumber? h
      let count := output.length + 1
      let value := value + n / count
      match charOf? value with
      | none => none
      | some placed =>
        insertAll? value (n % count + 1) (adapt (n - position) count first) false
          (output.insertIdx (n % count) placed) after
termination_by cs.length
decreasing_by exact this

/-- Decodes a label of small letters. A hyphen with nothing before it ends no ASCII characters. -/
def decode? (label : List Char) : Option (List Char) :=
  let behind := label.reverse.takeWhile (· != '-')
  if behind.length + 1 < label.length then
    insertAll? 0x80 0 72 true (label.take (label.length - behind.length - 1)) behind.reverse
  else insertAll? 0x80 0 72 true [] label

end CubeClient.Url.Punycode
