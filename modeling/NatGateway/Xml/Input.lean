/-!
# Input with replacement texts

The characters still to be read, when the replacement text of an entity may be put in front of
them. Replacement texts may refer to further entities; ten levels of them are followed. The rank
of an input falls with every character read and with every text put in front, so reading ends.
-/

namespace NatGateway.Xml

/-- Characters to be read. The first `held` of them come from replacement texts, of which `depth`
were put in front since the characters of the document itself were last reached. -/
structure Input where
  chars : List Char
  held : Nat
  depth : Nat

namespace Input

/-- Characters of a document, before anything is read. -/
def ofChars (chars : List Char) : Input := ⟨chars, 0, 0⟩

/-- Go on to `rest`, which is what remains after some characters were read. -/
def advance (input : Input) (rest : List Char) : Input :=
  if input.held = 0 then ⟨rest, 0, 0⟩
  else
    let used := input.chars.length - rest.length
    if input.held < used then ⟨rest, 0, 0⟩ else ⟨rest, input.held - used, input.depth⟩

/-- Put the replacement text of an entity in front, unless that nests too deeply. -/
def expand (input : Input) (text : List Char) : Option Input :=
  if input.depth < 10 then some ⟨text ++ input.chars, text.length + input.held, input.depth + 1⟩
  else none

/-- What falls while an input is read: the characters of the document itself, then the levels of
replacement that are left, then the characters at hand. -/
def rank (input : Input) : Nat × Nat × Nat :=
  (input.chars.length - input.held, 10 - input.depth, input.chars.length)

/-- The order by which ranks fall. -/
abbrev Below (a b : Input) : Prop :=
  Prod.Lex (· < ·) (Prod.Lex (· < ·) (· < ·)) a.rank b.rank

/-- What reading characters does to the characters at hand and to the first places of the rank. -/
theorem rank_advance {input : Input} {rest : List Char}
    (h : rest.length < input.chars.length) :
    (input.advance rest).chars = rest ∧
      (rest.length - (input.advance rest).held < input.chars.length - input.held ∨
        rest.length - (input.advance rest).held = input.chars.length - input.held ∧
          (input.advance rest).depth = input.depth) := by
  unfold advance
  split
  · simp only [true_and]
    omega
  · simp only
    split
    · simp only [true_and]
      omega
    · simp only [true_and, and_true]
      right
      omega

/-- Reading a character lowers the rank. -/
theorem advance_below {input : Input} {rest : List Char}
    (h : rest.length < input.chars.length) : (input.advance rest).Below input := by
  obtain ⟨hc, hr⟩ := rank_advance h
  simp only [Below, rank, Prod.lex_def, hc]
  omega

/-- Reading a reference and putting its text in front lowers the rank. -/
theorem expand_below {input next : Input} {rest text : List Char}
    (h : rest.length < input.chars.length)
    (he : (input.advance rest).expand text = some next) : next.Below input := by
  obtain ⟨hc, hr⟩ := rank_advance h
  unfold expand at he
  split at he
  · cases he
    simp only [Below, rank, Prod.lex_def, List.length_append, hc]
    omega
  · cases he

end Input

end NatGateway.Xml
