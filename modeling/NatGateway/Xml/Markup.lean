import NatGateway.Text.Ascii
import NatGateway.Xml.Char

/-!
# Pieces of markup

Readers for the parts that documents are made of: qualified names, references, attribute values,
comments, CDATA sections and processing instructions. Each takes the characters still to come and
gives what it read with the characters after it; the lemmas say that something was read.
-/

namespace NatGateway.Xml

/-- A name as it is written, with the qualifier before its colon. -/
structure QName where
  qualifier : Option String
  name : String
deriving DecidableEq

/-- Read a qualified name: one colon at most, and neither side of it empty. -/
def readQName : List Char → Option (QName × List Char)
  | [] => none
  | c :: rest =>
      if isNameStart c && c != ':' then
        match Text.splitChars ':' (c :: rest.takeWhile isNameChar) with
        | [name] => some (⟨none, String.ofList name⟩, rest.dropWhile isNameChar)
        | [qualifier, name] =>
            if name.isEmpty then none
            else some (⟨some (String.ofList qualifier), String.ofList name⟩,
              rest.dropWhile isNameChar)
        | _ => none
      else none

/-- What a reference stands for: a character, or an entity to be looked up. -/
inductive Reference where
  | char (c : Char)
  | entity (name : String)

/-- The characters that have names in every document. -/
def namedChar? (name : List Char) : Option Char :=
  if name = ['l', 't'] then some '<'
  else if name = ['g', 't'] then some '>'
  else if name = ['a', 'm', 'p'] then some '&'
  else if name = ['a', 'p', 'o', 's'] then some '\x27'
  else if name = ['q', 'u', 'o', 't'] then some '"'
  else none

/-- The value of a digit in bases up to sixteen. -/
def digit? (base : Nat) (c : Char) : Option Nat :=
  let value :=
    if c.isDigit then c.toNat - '0'.toNat
    else if 'a'.toNat ≤ c.toNat && c.toNat ≤ 'f'.toNat then c.toNat - 'a'.toNat + 10
    else if 'A'.toNat ≤ c.toNat && c.toNat ≤ 'F'.toNat then c.toNat - 'A'.toNat + 10
    else 16
  if value < base then some value else none

/-- Append digits to a number. -/
def numberFrom? (base : Nat) : Nat → List Char → Option Nat
  | value, [] => some value
  | value, c :: rest => (digit? base c).bind fun d => numberFrom? base (value * base + d) rest

/-- The number that one or more digits denote. -/
def number? (base : Nat) (digits : List Char) : Option Nat :=
  if digits.isEmpty then none else numberFrom? base 0 digits

/-- The character with a number, if there is one. -/
def charOfNumber? (n : Nat) : Option Char :=
  if n < 0xD800 || (0xDFFF < n && n < 0x110000) then some (Char.ofNat n) else none

/-- The character that a numeric reference denotes, given what stands between `#` and `;`. -/
def numericChar? (version : Version) (digits : List Char) : Option Char :=
  let number :=
    match digits with
    | 'x' :: hex => number? 16 hex
    | _ => number? 10 digits
  (number.bind charOfNumber?).filter version.allows

/-- Read a reference after its ampersand. -/
def readReference (version : Version) : List Char → Option (Reference × List Char)
  | [] => none
  | c :: rest =>
      if isNameStart c || c == '#' then
        match rest.dropWhile isNameChar with
        | ';' :: after =>
            let name := rest.takeWhile isNameChar
            if c = '#' then (numericChar? version name).map fun c => (.char c, after)
            else
              match namedChar? (c :: name) with
              | some c => some (.char c, after)
              | none => some (.entity (String.ofList (c :: name)), after)
        | _ => none
      else none

/-- The replacement texts of the entities that a document declares. -/
abbrev Entities := List (String × List Char)

/-- The characters that a reference stands for inside an attribute value. -/
def Reference.text? (entities : Entities) : Reference → Option (List Char)
  | .char c => some [c]
  | .entity name => entities.lookup name

/-- Dropping characters leaves no more of them. -/
theorem length_dropWhile_le (p : Char → Bool) (cs : List Char) :
    (cs.dropWhile p).length ≤ cs.length :=
  (List.dropWhile_suffix p).length_le

/-- A reference takes up characters. -/
theorem readReference_length {version : Version} {cs after : List Char} {reference : Reference}
    (h : readReference version cs = some (reference, after)) : after.length < cs.length := by
  cases cs with
  | nil => simp [readReference] at h
  | cons c rest =>
    have hlen := length_dropWhile_le isNameChar rest
    simp only [readReference] at h
    split at h
    · split at h
      next tail heq =>
        rw [heq] at hlen
        simp only [List.length_cons] at hlen ⊢
        split at h
        · obtain ⟨_, _, h⟩ := Option.map_eq_some_iff.1 h
          cases h
          omega
        · split at h <;> cases h <;> omega
      · cases h
    · cases h

/-- Read an attribute value up to its closing quote, replacing references as they come. -/
def readValue (version : Version) (entities : Entities) (quote : Char) (cs : List Char) :
    Option (List Char × List Char) :=
  match cs with
  | [] => none
  | c :: rest =>
      if c = quote then some ([], rest)
      else if c = '&' then
        match h : readReference version rest with
        | none => none
        | some (reference, after) =>
            have := readReference_length h
            (reference.text? entities).bind fun text =>
              (readValue version entities quote after).map fun (more, after) =>
                (text ++ more, after)
      else if c = '<' then
        match rest with
        | '/' :: rest =>
            (readValue version entities quote rest).map fun (more, after) =>
              ('<' :: '/' :: more, after)
        | _ => none
      else if version.allowsPlain c then
        (readValue version entities quote rest).map fun (more, after) => (c :: more, after)
      else none
termination_by cs.length

/-- A value takes up characters. -/
theorem readValue_length {version : Version} {entities : Entities} {quote : Char}
    {cs after value : List Char} (h : readValue version entities quote cs = some (value, after)) :
    after.length < cs.length := by
  fun_induction readValue version entities quote cs generalizing value after with
  | case1 => cases h
  | case2 => cases h; simp
  | case3 => cases h
  | case4 rest _ _ _ _ shorter ih =>
    obtain ⟨_, _, h⟩ := Option.bind_eq_some_iff.1 h
    obtain ⟨⟨_, _⟩, hval, h⟩ := Option.map_eq_some_iff.1 h
    cases h
    have h1 := ih hval
    simp only [List.length_cons]
    omega
  | case5 rest _ _ ih =>
    obtain ⟨⟨_, _⟩, hval, h⟩ := Option.map_eq_some_iff.1 h
    cases h
    have h1 := ih hval
    simp only [List.length_cons]
    omega
  | case6 => cases h
  | case7 c rest _ _ _ _ ih =>
    obtain ⟨⟨_, _⟩, hval, h⟩ := Option.map_eq_some_iff.1 h
    cases h
    have h1 := ih hval
    simp only [List.length_cons]
    omega
  | case8 => cases h

/-- An attribute as it is written in a tag. -/
structure Attribute where
  name : QName
  value : String

/-- Read `name = "value"`, with either quote and white space around the sign. -/
def readAttribute (version : Version) (entities : Entities) (cs : List Char) :
    Option (Attribute × List Char) :=
  match readQName cs with
  | none => none
  | some (name, rest) =>
      match rest.dropWhile isSpace with
      | '=' :: rest =>
          match rest.dropWhile isSpace with
          | quote :: rest =>
              if quote = '"' || quote = '\x27' then
                (readValue version entities quote rest).map fun (value, after) =>
                  (⟨name, String.ofList value⟩, after)
              else none
          | [] => none
      | _ => none

/-- A qualified name takes up characters. -/
theorem readQName_length {cs after : List Char} {name : QName}
    (h : readQName cs = some (name, after)) : after.length < cs.length := by
  cases cs with
  | nil => simp [readQName] at h
  | cons c rest =>
    have hlen := length_dropWhile_le isNameChar rest
    simp only [readQName] at h
    split at h
    · split at h
      · cases h
        simp only [List.length_cons]
        omega
      · split at h
        · cases h
        · cases h
          simp only [List.length_cons]
          omega
      · cases h
    · cases h

/-- An attribute takes up characters. -/
theorem readAttribute_length {version : Version} {entities : Entities} {cs after : List Char}
    {attr : Attribute} (h : readAttribute version entities cs = some (attr, after)) :
    after.length < cs.length := by
  unfold readAttribute at h
  split at h
  · cases h
  next name rest hname =>
    have h0 := readQName_length hname
    have h1 := length_dropWhile_le isSpace rest
    split at h
    next rest2 heq =>
      rw [heq] at h1
      have h2 := length_dropWhile_le isSpace rest2
      split at h
      next quote rest3 heq2 =>
        rw [heq2] at h2
        split at h
        · obtain ⟨⟨_, _⟩, hval, h⟩ := Option.map_eq_some_iff.1 h
          cases h
          have h3 := readValue_length hval
          simp only [List.length_cons] at h1 h2
          omega
        · cases h
      · cases h
    · cases h

/-- Read the attributes after the name of a start tag, up to its end. White space stands before
each of them. The flag says that the tag closes its element at once. -/
def readAttributes (version : Version) (entities : Entities) (cs : List Char) :
    Option (List Attribute × Bool × List Char) :=
  match cs.dropWhile isSpace with
  | '>' :: rest => some ([], false, rest)
  | '/' :: '>' :: rest => some ([], true, rest)
  | inner =>
      if _ : inner.length < cs.length then
        match ha : readAttribute version entities inner with
        | none => none
        | some (attr, after) =>
            have := readAttribute_length ha
            (readAttributes version entities after).map fun (more, closed, after) =>
              (attr :: more, closed, after)
      else none
termination_by cs.length

/-- Read a comment after `<!--`. Two hyphens inside it are refused. -/
def readComment (version : Version) : List Char → Option (List Char × List Char)
  | [] => none
  | '-' :: '-' :: rest =>
      match rest with
      | '>' :: after => some ([], after)
      | _ => none
  | c :: rest =>
      if version.allows c then
        (readComment version rest).map fun (more, after) => (c :: more, after)
      else none

/-- Read a CDATA section after `<![CDATA[`. -/
def readCData (version : Version) : List Char → Option (List Char × List Char)
  | [] => none
  | ']' :: ']' :: '>' :: after => some ([], after)
  | c :: rest =>
      if version.allows c then
        (readCData version rest).map fun (more, after) => (c :: more, after)
      else none

/-- Read the data of a processing instruction up to its end. -/
def readInstructionData (version : Version) : List Char → Option (List Char × List Char)
  | [] => none
  | '?' :: '>' :: after => some ([], after)
  | c :: rest =>
      if version.allows c then
        (readInstructionData version rest).map fun (more, after) => (c :: more, after)
      else none

/-- Read a processing instruction after `<?`. Its target is a name other than `xml`. -/
def readInstruction (version : Version) : List Char →
    Option (String × Option String × List Char)
  | [] => none
  | c :: rest =>
      if isNameStart c then
        let target := String.ofList (c :: rest.takeWhile isNameChar)
        if Text.lowerAscii target == "xml" then none
        else
          match rest.dropWhile isNameChar with
          | '?' :: '>' :: after => some (target, none, after)
          | s :: rest =>
              if isSpace s then
                (readInstructionData version rest).map fun (data, after) =>
                  (target, some (String.ofList data), after)
              else none
          | [] => none
      else none

/-- A comment takes up characters. -/
theorem readComment_length {version : Version} {cs after text : List Char}
    (h : readComment version cs = some (text, after)) : after.length < cs.length := by
  fun_induction readComment version cs generalizing text after with
  | case1 => cases h
  | case2 => cases h; simp only [List.length_cons]; omega
  | case3 => cases h
  | case4 c rest _ _ ih =>
    obtain ⟨⟨_, _⟩, hval, h⟩ := Option.map_eq_some_iff.1 h
    cases h
    have := ih hval
    simp only [List.length_cons]
    omega
  | case5 => cases h

/-- A CDATA section takes up characters. -/
theorem readCData_length {version : Version} {cs after text : List Char}
    (h : readCData version cs = some (text, after)) : after.length < cs.length := by
  fun_induction readCData version cs generalizing text after with
  | case1 => cases h
  | case2 => cases h; simp only [List.length_cons]; omega
  | case3 c rest _ _ ih =>
    obtain ⟨⟨_, _⟩, hval, h⟩ := Option.map_eq_some_iff.1 h
    cases h
    have := ih hval
    simp only [List.length_cons]
    omega
  | case4 => cases h

/-- The data of an instruction takes up characters. -/
theorem readInstructionData_length {version : Version} {cs after text : List Char}
    (h : readInstructionData version cs = some (text, after)) : after.length < cs.length := by
  fun_induction readInstructionData version cs generalizing text after with
  | case1 => cases h
  | case2 => cases h; simp only [List.length_cons]; omega
  | case3 c rest _ _ ih =>
    obtain ⟨⟨_, _⟩, hval, h⟩ := Option.map_eq_some_iff.1 h
    cases h
    have := ih hval
    simp only [List.length_cons]
    omega
  | case4 => cases h

/-- An instruction takes up characters. -/
theorem readInstruction_length {version : Version} {cs after : List Char} {target : String}
    {data : Option String} (h : readInstruction version cs = some (target, data, after)) :
    after.length < cs.length := by
  cases cs with
  | nil => simp [readInstruction] at h
  | cons c rest =>
    have hlen := length_dropWhile_le isNameChar rest
    simp only [readInstruction] at h
    split at h
    · split at h
      · cases h
      · split at h
        next heq =>
          cases h
          rw [heq] at hlen
          simp only [List.length_cons] at hlen ⊢
          omega
        next s tail _ heq =>
          rw [heq] at hlen
          split at h
          · obtain ⟨⟨_, _⟩, hval, h⟩ := Option.map_eq_some_iff.1 h
            cases h
            have := readInstructionData_length hval
            simp only [List.length_cons] at hlen ⊢
            omega
          · cases h
        · cases h
    · cases h

/-- The rest of a start tag takes up characters. -/
theorem readAttributes_length {version : Version} {entities : Entities} {cs after : List Char}
    {attributes : List Attribute} {closed : Bool}
    (h : readAttributes version entities cs = some (attributes, closed, after)) :
    after.length < cs.length := by
  fun_induction readAttributes version entities cs generalizing attributes closed after with
  | case1 cs rest heq =>
    cases h
    have := length_dropWhile_le isSpace cs
    simp_all only [List.length_cons]
    omega
  | case2 cs rest heq =>
    cases h
    have := length_dropWhile_le isSpace cs
    simp_all only [List.length_cons]
    omega
  | case3 => cases h
  | case4 cs _ _ _ shorter _ _ _ ih =>
    obtain ⟨⟨_, _, _⟩, hval, h⟩ := Option.map_eq_some_iff.1 h
    cases h
    have h1 := ih hval
    omega
  | case5 => cases h

end NatGateway.Xml
