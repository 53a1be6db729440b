import NatGateway.Xml.Input
import NatGateway.Xml.Markup

/-!
# Document type declarations

Of a document type declaration only the entities matter: their names and replacement texts are
kept, and everything else is skipped. Parameter entities are kept under their names with a percent
sign before them, and their texts are read as further declarations where they are referred to.
Entities that stand for other documents are known, with an empty text.
-/

namespace NatGateway.Xml

/-- Skip a literal to its closing quote. -/
def skipLiteral (quote : Char) : List Char → Option (List Char)
  | [] => none
  | c :: rest => if c = quote then some rest else skipLiteral quote rest

/-- A literal takes up characters. -/
theorem skipLiteral_length {quote : Char} {cs after : List Char}
    (h : skipLiteral quote cs = some after) : after.length < cs.length := by
  fun_induction skipLiteral quote cs with
  | case1 => cases h
  | case2 => cases h; exact Nat.lt_succ_self _
  | case3 _ _ _ ih => exact Nat.lt_succ_of_lt (ih h)

/-- Skip a comment, whose opening was read, to its end. -/
def skipComment : List Char → Option (List Char)
  | [] => none
  | '-' :: '-' :: '>' :: after => some after
  | '-' :: '-' :: _ => none
  | _ :: rest => skipComment rest

/-- A comment takes up characters. -/
theorem skipComment_length {cs after : List Char} (h : skipComment cs = some after) :
    after.length < cs.length := by
  fun_induction skipComment cs with
  | case1 => cases h
  | case2 => cases h; simp only [List.length_cons]; omega
  | case3 => cases h
  | case4 _ _ _ _ ih => exact Nat.lt_succ_of_lt (ih h)

/-- Skip a processing instruction to its end. -/
def skipInstruction : List Char → Option (List Char)
  | [] => none
  | '?' :: '>' :: after => some after
  | _ :: rest => skipInstruction rest

/-- An instruction takes up characters. -/
theorem skipInstruction_length {cs after : List Char} (h : skipInstruction cs = some after) :
    after.length < cs.length := by
  fun_induction skipInstruction cs with
  | case1 => cases h
  | case2 => cases h; simp only [List.length_cons]; omega
  | case3 _ _ _ ih => exact Nat.lt_succ_of_lt (ih h)

/-- Skip a declaration to its end, which stands outside literals. -/
def skipDeclaration (cs : List Char) : Option (List Char) :=
  match cs with
  | [] => none
  | c :: rest =>
      if c = '>' then some rest
      else if c = '"' || c = '\x27' then
        match h : skipLiteral c rest with
        | none => none
        | some after =>
            have := skipLiteral_length h
            skipDeclaration after
      else skipDeclaration rest
termination_by cs.length

/-- A declaration takes up characters. -/
theorem skipDeclaration_length {cs after : List Char} (h : skipDeclaration cs = some after) :
    after.length < cs.length := by
  fun_induction skipDeclaration cs with
  | case1 => cases h
  | case2 => cases h; exact Nat.lt_succ_self _
  | case3 => cases h
  | case4 _ _ _ _ _ _ shorter ih =>
    have := ih h
    simp only [List.length_cons]
    omega
  | case5 _ _ _ _ ih => exact Nat.lt_succ_of_lt (ih h)

/-- Read a numeric reference inside an entity value, after its number sign. -/
def readValueNumber (version : Version) : List Char → Option (List Char × List Char)
  | [] => none
  | c :: rest =>
      if c = ';' then some ([], rest)
      else if c = '"' || c = '\x27' || !version.allows c then none
      else (readValueNumber version rest).map fun (digits, after) => (c :: digits, after)

/-- A numeric reference takes up characters. -/
theorem readValueNumber_length {version : Version} {cs digits after : List Char}
    (h : readValueNumber version cs = some (digits, after)) : after.length < cs.length := by
  fun_induction readValueNumber version cs generalizing digits after with
  | case1 => cases h
  | case2 => cases h; exact Nat.lt_succ_self _
  | case3 => cases h
  | case4 _ _ _ _ ih =>
    obtain ⟨⟨_, _⟩, hval, h⟩ := Option.map_eq_some_iff.1 h
    cases h
    exact Nat.lt_succ_of_lt (ih hval)

/-- Read a reference to a parameter entity after its percent sign. -/
def readParameter (entities : Entities) (cs : List Char) : Option (List Char × List Char) :=
  match cs.dropWhile isNameChar with
  | ';' :: after =>
      (entities.lookup (String.ofList ('%' :: cs.takeWhile isNameChar))).map (·, after)
  | _ => none

/-- A reference to a parameter entity takes up characters. -/
theorem readParameter_length {entities : Entities} {cs text after : List Char}
    (h : readParameter entities cs = some (text, after)) : after.length < cs.length := by
  have hlen := length_dropWhile_le isNameChar cs
  unfold readParameter at h
  split at h
  next heq =>
    obtain ⟨_, _, h⟩ := Option.map_eq_some_iff.1 h
    cases h
    rw [heq] at hlen
    exact hlen
  · cases h

/-- Read the value of an entity up to its closing quote. Numbers and parameter entities are
replaced; named references stay as they are, to be read where the entity is used. -/
def readEntityValue (version : Version) (entities : Entities) (quote : Char) (cs : List Char) :
    Option (List Char × List Char) :=
  match cs with
  | [] => none
  | c :: rest =>
      if c = quote then some ([], rest)
      else if c = '&' then
        match rest with
        | [] => none
        | d :: rest =>
            if d = '#' then
              match h : readValueNumber version rest with
              | none => none
              | some (digits, after) =>
                  have := readValueNumber_length h
                  (numericChar? version digits).bind fun c =>
                    (readEntityValue version entities quote after).map fun (more, after) =>
                      (c :: more, after)
            else if d = '"' || d = '\x27' || !version.allows d then none
            else
              (readEntityValue version entities quote rest).map fun (more, after) =>
                ('&' :: d :: more, after)
      else if c = '%' then
        match h : readParameter entities rest with
        | none => none
        | some (text, after) =>
            have := readParameter_length h
            (readEntityValue version entities quote after).map fun (more, after) =>
              (text ++ more, after)
      else if version.allows c then
        (readEntityValue version entities quote rest).map fun (more, after) => (c :: more, after)
      else none
termination_by cs.length

/-- The value of an entity takes up characters. -/
theorem readEntityValue_length {version : Version} {entities : Entities} {quote : Char}
    {cs value after : List Char}
    (h : readEntityValue version entities quote cs = some (value, after)) :
    after.length < cs.length := by
  fun_induction readEntityValue version entities quote cs generalizing value after with
  | case1 => cases h
  | case2 => cases h; exact Nat.lt_succ_self _
  | case3 => cases h
  | case4 => cases h
  | case5 _ _ _ _ _ shorter ih =>
    obtain ⟨_, _, h⟩ := Option.bind_eq_some_iff.1 h
    obtain ⟨⟨_, _⟩, hval, h⟩ := Option.map_eq_some_iff.1 h
    cases h
    have := ih hval
    simp only [List.length_cons]
    omega
  | case6 => cases h
  | case7 _ _ _ _ _ ih =>
    obtain ⟨⟨_, _⟩, hval, h⟩ := Option.map_eq_some_iff.1 h
    cases h
    have := ih hval
    simp only [List.length_cons]
    omega
  | case8 => cases h
  | case9 _ _ _ _ _ _ shorter ih =>
    obtain ⟨⟨_, _⟩, hval, h⟩ := Option.map_eq_some_iff.1 h
    cases h
    have := ih hval
    simp only [List.length_cons]
    omega
  | case10 _ _ _ _ _ _ ih =>
    obtain ⟨⟨_, _⟩, hval, h⟩ := Option.map_eq_some_iff.1 h
    cases h
    have := ih hval
    simp only [List.length_cons]
    omega
  | case11 => cases h

/-- Declare an entity; of several declarations of one name the first counts. -/
def Entities.declare (entities : Entities) (name : String) (text : List Char) : Entities :=
  entities ++ [(name, text)]

/-- Read a name of an entity and the white space character after it. -/
def readPlainName : List Char → Option (List Char × List Char)
  | [] => none
  | c :: rest =>
      if isNameStart c then
        match rest.dropWhile isNameChar with
        | s :: after => if isSpace s then some (c :: rest.takeWhile isNameChar, after) else none
        | [] => none
      else none

/-- Read the name of an entity, where a percent sign makes it a parameter entity. -/
def readEntityName (cs : List Char) : Option (String × List Char) :=
  match cs.dropWhile isSpace with
  | '%' :: rest =>
      (readPlainName (rest.dropWhile isSpace)).map fun (name, after) =>
        (String.ofList ('%' :: name), after)
  | rest => (readPlainName rest).map fun (name, after) => (String.ofList name, after)

/-- A name of an entity takes up characters. -/
theorem readPlainName_length {cs name after : List Char}
    (h : readPlainName cs = some (name, after)) : after.length < cs.length := by
  cases cs with
  | nil => cases h
  | cons c rest =>
    have hlen := length_dropWhile_le isNameChar rest
    simp only [readPlainName] at h
    split at h
    · split at h
      next heq =>
        split at h <;> cases h
        rw [heq] at hlen
        simp only [List.length_cons] at hlen ⊢
        omega
      · cases h
    · cases h

/-- A name of an entity takes up characters, with its percent sign or without. -/
theorem readEntityName_length {cs after : List Char} {name : String}
    (h : readEntityName cs = some (name, after)) : after.length < cs.length := by
  have hlen := length_dropWhile_le isSpace cs
  unfold readEntityName at h
  split at h
  next rest heq =>
    obtain ⟨⟨_, _⟩, hname, h⟩ := Option.map_eq_some_iff.1 h
    cases h
    have := readPlainName_length hname
    have := length_dropWhile_le isSpace rest
    simp only [heq, List.length_cons] at hlen
    omega
  next heq =>
    obtain ⟨⟨_, _⟩, hname, h⟩ := Option.map_eq_some_iff.1 h
    cases h
    have := readPlainName_length hname
    omega

/-- Read a declaration of an entity after its keyword, to its end. -/
def readEntity (version : Version) (entities : Entities) (cs : List Char) :
    Option (Entities × List Char) :=
  (readEntityName cs).bind fun (name, rest) =>
    match rest.dropWhile isSpace with
    | c :: rest =>
        if c = 'S' || c = 'P' then
          (skipDeclaration rest).map (entities.declare name [], ·)
        else if c = '"' || c = '\x27' then
          (readEntityValue version entities c rest).bind fun (value, after) =>
            (skipDeclaration after).map (entities.declare name value, ·)
        else none
    | [] => none

/-- Read a declaration after `<!`, to its end. -/
def readDeclaration (version : Version) (entities : Entities) (cs : List Char) :
    Option (Entities × List Char) :=
  match cs.dropWhile Char.isUpper with
  | s :: rest =>
      if isSpace s then
        let keyword := String.ofList (cs.takeWhile Char.isUpper)
        if keyword = "ENTITY" then readEntity version entities rest
        else if keyword = "NOTATION" || keyword = "ELEMENT" || keyword = "ATTLIST" then
          (skipDeclaration rest).map (entities, ·)
        else none
      else none
  | [] => none

/-- A declaration of an entity takes up characters. -/
theorem readEntity_length {version : Version} {entities declared : Entities} {cs after : List Char}
    (h : readEntity version entities cs = some (declared, after)) : after.length < cs.length := by
  obtain ⟨⟨_, rest⟩, hname, h⟩ := Option.bind_eq_some_iff.1 h
  have h1 := readEntityName_length hname
  have h2 := length_dropWhile_le isSpace rest
  simp only at h
  split at h
  next heq =>
    simp only [heq, List.length_cons] at h2
    split at h
    · obtain ⟨_, hskip, h⟩ := Option.map_eq_some_iff.1 h
      cases h
      have := skipDeclaration_length hskip
      omega
    · split at h
      · obtain ⟨⟨_, _⟩, hval, h⟩ := Option.bind_eq_some_iff.1 h
        obtain ⟨_, hskip, h⟩ := Option.map_eq_some_iff.1 h
        cases h
        have := readEntityValue_length hval
        have := skipDeclaration_length hskip
        simp only at this
        omega
      · cases h
  · cases h

/-- A declaration takes up characters, whatever its keyword. -/
theorem readDeclaration_length {version : Version} {entities declared : Entities}
    {cs after : List Char} (h : readDeclaration version entities cs = some (declared, after)) :
    after.length < cs.length := by
  have hlen := length_dropWhile_le Char.isUpper cs
  unfold readDeclaration at h
  split at h
  next heq =>
    simp only [heq, List.length_cons] at hlen
    split at h
    · simp only at h
      split at h
      · have := readEntity_length h
        omega
      · split at h
        · obtain ⟨_, hskip, h⟩ := Option.map_eq_some_iff.1 h
          cases h
          have := skipDeclaration_length hskip
          omega
        · cases h
    · cases h
  · cases h

/-- What a piece of a document type declaration is: its end, something skipped, declared entities,
or a reference to a parameter entity. -/
inductive DoctypePiece where
  | close
  | skipped
  | declared (entities : Entities)
  | replaced (text : List Char)

/-- Read the next piece of a document type declaration. -/
def readDoctypePiece (version : Version) (entities : Entities) :
    List Char → Option (DoctypePiece × List Char)
  | [] => none
  | '>' :: rest => some (.close, rest)
  | '%' :: rest => (readParameter entities rest).map fun (text, after) => (.replaced text, after)
  | '<' :: '!' :: '-' :: '-' :: rest => (skipComment rest).map (.skipped, ·)
  | '<' :: '?' :: rest => (skipInstruction rest).map (.skipped, ·)
  | '<' :: '!' :: rest =>
      (readDeclaration version entities rest).map fun (entities, after) =>
        (.declared entities, after)
  | '<' :: c :: rest => if isSpace c || isNameChar c then some (.skipped, rest) else none
  | ']' :: ']' :: '>' :: _ => none
  | '/' :: '>' :: rest => some (.skipped, rest)
  | '?' :: '>' :: rest => some (.skipped, rest)
  | c :: rest =>
      if c = '"' || c = '\x27' then (skipLiteral c rest).map (.skipped, ·)
      else some (.skipped, rest)

/-- A piece of a document type declaration takes up characters. -/
theorem readDoctypePiece_length {version : Version} {entities : Entities} {piece : DoctypePiece}
    {cs after : List Char} (h : readDoctypePiece version entities cs = some (piece, after)) :
    after.length < cs.length := by
  unfold readDoctypePiece at h
  split at h
  · cases h
  · cases h; exact Nat.lt_succ_self _
  · obtain ⟨⟨_, _⟩, hread, h⟩ := Option.map_eq_some_iff.1 h
    cases h
    exact Nat.lt_succ_of_lt (readParameter_length hread)
  · obtain ⟨_, hread, h⟩ := Option.map_eq_some_iff.1 h
    cases h
    have := skipComment_length hread
    simp only [List.length_cons]
    omega
  · obtain ⟨_, hread, h⟩ := Option.map_eq_some_iff.1 h
    cases h
    have := skipInstruction_length hread
    simp only [List.length_cons]
    omega
  · obtain ⟨⟨_, _⟩, hread, h⟩ := Option.map_eq_some_iff.1 h
    cases h
    have := readDeclaration_length hread
    simp only [List.length_cons]
    omega
  · split at h <;> cases h
    simp only [List.length_cons]
    omega
  · cases h
  · cases h
    simp only [List.length_cons]
    omega
  · cases h
    simp only [List.length_cons]
    omega
  · split at h
    · obtain ⟨_, hread, h⟩ := Option.map_eq_some_iff.1 h
      cases h
      exact Nat.lt_succ_of_lt (skipLiteral_length hread)
    · cases h
      exact Nat.lt_succ_self _

/-- Read a document type declaration after its keyword, to its end. -/
def readDoctype (version : Version) (entities : Entities) (input : Input) :
    Option (Entities × Input) :=
  match h : readDoctypePiece version entities input.chars with
  | none => none
  | some (.close, after) => some (entities, input.advance after)
  | some (.skipped, after) =>
      have := Input.advance_below (readDoctypePiece_length h)
      readDoctype version entities (input.advance after)
  | some (.declared entities, after) =>
      have := Input.advance_below (readDoctypePiece_length h)
      readDoctype version entities (input.advance after)
  | some (.replaced text, after) =>
      match he : (input.advance after).expand text with
      | none => none
      | some next =>
          have := Input.expand_below (readDoctypePiece_length h) he
          readDoctype version entities next
termination_by input.rank
decreasing_by all_goals exact this

end NatGateway.Xml
