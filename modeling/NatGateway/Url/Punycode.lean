/-!
# Punycode

A label with characters beyond ASCII is written by its ASCII characters, a hyphen, and one number
for each other character. The characters are inserted in ascending order, and a number counts the
possible insertions that are passed over since the last one. Numbers are written in base 36 with
the lowest digit first; a digit below a threshold ends its number, and the threshold follows the
size of the numbers so far.
-/

namespace NatGateway.Url.Punycode

/-- The digit of a number below 36: letters come before digits. -/
def digit (n : Nat) : Char :=
  if n < 26 then Char.ofNat ('a'.toNat + n) else Char.ofNat ('0'.toNat + (n - 26))

/-- The number that a digit denotes; capitals are small letters. -/
def digitValue? (c : Char) : Option Nat :=
  if c.isDigit then some (c.toNat - '0'.toNat + 26)
  else if c.isAlpha then some (c.toLower.toNat - 'a'.toNat)
  else none

/-- The least digit that does not end a number, at a place counted in steps of 36. -/
def threshold (bias place : Nat) : Nat := max 1 (min 26 (place - bias))

/-- Reduce a difference to a size the bias formula takes, with 36 for each reduction. -/
def reduce (delta : Nat) : Nat × Nat :=
  if _ : 455 < delta then
    let (small, sum) := reduce (delta / 35)
    (small, sum + 36)
  else (delta, 0)
termination_by delta
decreasing_by omega

/-- The bias after a number, when `count` characters are there. -/
def adapt (delta count : Nat) (isFirst : Bool) : Nat :=
  let scaled := if isFirst then delta / 700 else delta / 2
  let (small, sum) := reduce (scaled + scaled / count)
  sum + 36 * small / (small + 38)

/-- Write a number from a place on. -/
def writeNumber (bias place number : Nat) : List Char :=
  let least := threshold bias place
  if number < least then [digit number]
  else
    digit (least + (number - least) % (36 - least)) ::
      writeNumber bias (place + 36) ((number - least) / (36 - least))
termination_by number
decreasing_by
  have : 1 ≤ threshold bias place := Nat.le_max_left ..
  exact Nat.lt_of_le_of_lt (Nat.div_le_self ..) (by omega)

/-- A label while it is written: how many characters are there, and the insertions that have been
passed over since the last one. -/
structure Writing where
  count : Nat
  passed : Nat
  bias : Nat
  isFirst : Bool

/-- Write the insertions of one character. -/
def writeCharacter (c : Char) (writing : Writing) : List Char → Writing × List Char
  | [] => (writing, [])
  | d :: rest =>
      if d.toNat < c.toNat then
        writeCharacter c { writing with passed := writing.passed + 1 } rest
      else if d = c then
        let count := writing.count + 1
        let bias := adapt writing.passed count writing.isFirst
        let (last, digits) := writeCharacter c ⟨count, 0, bias, false⟩ rest
        (last, writeNumber writing.bias 36 writing.passed ++ digits)
      else writeCharacter c writing rest

/-- Write the insertions of characters in ascending order. Between two of them all places of the
characters between them are passed over. -/
def writeCharacters (cs : List Char) (next : Nat) (writing : Writing) : List Char → List Char
  | [] => []
  | c :: rest =>
      let passed := writing.passed + (c.toNat - next) * (writing.count + 1)
      let (writing, digits) := writeCharacter c { writing with passed } cs
      digits ++
        writeCharacters cs (c.toNat + 1) { writing with passed := writing.passed + 1 } rest

/-- Whether a character stands for itself. -/
def isBasic (c : Char) : Bool := c.toNat < 0x80

/-- The characters that are inserted, in ascending order. -/
def insertedCharacters (cs : List Char) : List Char :=
  ((cs.filter (!isBasic ·)).eraseDups).mergeSort fun a b => a.toNat ≤ b.toNat

/-- Write a label. -/
def encode (cs : List Char) : List Char :=
  let basic := cs.filter isBasic
  let start := if basic.isEmpty then [] else basic ++ ['-']
  start ++ writeCharacters cs 0x80 ⟨basic.length, 0, 72, true⟩ (insertedCharacters cs)

/-- A label while it is read: the characters so far, the one that was inserted last, the insertions
passed over up to there, and the number under way with the weight and place of its next digit. -/
structure Reading where
  output : List Char
  last : Nat
  start : Nat
  bias : Nat
  isFirst : Bool
  number : Nat
  weight : Nat
  place : Nat

/-- Insert the character that a finished number denotes. -/
def Reading.insert? (reading : Reading) (number : Nat) : Option Reading :=
  let count := reading.output.length + 1
  let position := reading.start + number
  let code := reading.last + position / count
  if h : code.isValidChar then
    some {
      output := reading.output.insertIdx (position % count) (Char.ofNatAux code h)
      last := code
      start := position % count + 1
      bias := adapt number count reading.isFirst
      isFirst := false
      number := 0
      weight := 1
      place := 36 }
  else none

/-- Read a digit. -/
def Reading.step? (reading : Reading) (c : Char) : Option Reading :=
  (digitValue? c).bind fun value =>
    let number := reading.number + value * reading.weight
    let least := threshold reading.bias reading.place
    if value < least then reading.insert? number
    else
      some { reading with
        number
        weight := reading.weight * (36 - least)
        place := reading.place + 36 }

/-- Cut characters at the last hyphen, which is dropped. Without characters in front of it there is
nothing to cut. -/
def splitBasic (cs : List Char) : List Char × List Char :=
  let digits := (cs.reverse.takeWhile (· != '-')).reverse
  let basic := cs.take (cs.length - digits.length - 1)
  if basic.isEmpty then ([], cs) else (basic, digits)

/-- Read a label, unless a number breaks off or denotes no character. -/
def decode? (cs : List Char) : Option (List Char) :=
  let (basic, digits) := splitBasic cs
  match digits.foldlM Reading.step? ⟨basic, 0x80, 0, 72, true, 0, 1, 36⟩ with
  | some reading => if reading.place = 36 then some reading.output else none
  | none => none

end NatGateway.Url.Punycode
