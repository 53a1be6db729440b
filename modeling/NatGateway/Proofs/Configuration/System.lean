import NatGateway.Configuration.System
import NatGateway.Proofs.Text.Cut

/-!
# Paths and changes of a system

What a path leads to when the system changes. A path to a folder depends on nothing but which places
are folders, so writing a file and taking it away again leave all of these paths as they are. A file
in a folder is reached by the path of the folder with its name behind.
-/

namespace NatGateway.Configuration.System

open NatGateway.Text (Bytes splitChars)

variable {system before after : System} {location folder other : Location} {entry : Entry}
  {path name step : String} {content : Bytes} {first rest : List String}

/-! ## Entries -/

/-- Something that is in another place is found as before when places are dropped. -/
theorem lookup_filter_of_ne {entries : List (Location × Entry)} (h : other ≠ location) :
    (entries.filter fun known => known.1 != location).lookup other = entries.lookup other := by
  induction entries with
  | nil => rfl
  | cons known entries ih =>
    obtain ⟨place, entry⟩ := known
    by_cases hplace : place = location
    · rw [List.filter_cons_of_neg (by simp [hplace]), ih, List.lookup_cons, hplace,
        beq_eq_false_iff_ne.2 h]
    · rw [List.filter_cons_of_pos (by simp [hplace]), List.lookup_cons, List.lookup_cons, ih]

/-- Nothing is found in a place that has been dropped. -/
theorem lookup_filter_self {entries : List (Location × Entry)} :
    (entries.filter fun known => known.1 != location).lookup location = none := by
  rw [List.lookup_eq_none_iff]
  intro known hknown
  exact bne_iff_ne.2 (Ne.symm (bne_iff_ne.1 (List.mem_filter.1 hknown).2))

/-- What is put at a location stands there. -/
@[simp] theorem entryAt?_put_self (h : location ≠ []) :
    (system.put location entry).entryAt? location = some entry := by
  rw [entryAt?, if_neg (mt List.isEmpty_iff.1 h)]
  exact List.lookup_cons_self

/-- Everything else stays where it is. -/
theorem entryAt?_put_of_ne (h : other ≠ location) :
    (system.put location entry).entryAt? other = system.entryAt? other := by
  rw [entryAt?, entryAt?, put, List.lookup_cons, beq_eq_false_iff_ne.2 h, lookup_filter_of_ne h]

/-- What is taken away is gone. -/
@[simp] theorem entryAt?_remove_self (h : location ≠ []) :
    (system.remove location).entryAt? location = none := by
  rw [entryAt?, if_neg (mt List.isEmpty_iff.1 h)]
  exact lookup_filter_self

/-- Nothing else is taken away. -/
theorem entryAt?_remove_of_ne (h : other ≠ location) :
    (system.remove location).entryAt? other = system.entryAt? other := by
  rw [entryAt?, entryAt?, remove, lookup_filter_of_ne h]

/-! ## Paths -/

/-- Steps lead to a folder if the first one does and the others do from there. -/
theorem follow_cons_eq_folder_iff :
    system.follow folder (step :: rest) = some (location, .folder) ↔
      system.entryAt? (stepFrom folder step) = some .folder ∧
        system.follow (stepFrom folder step) rest = some (location, .folder) := by
  rw [follow]
  split
  · next h => simp [h]
  · next content h => simp [h]
  · next h => simp [h]

/-- Behind steps that lead to a folder others go on from there. -/
theorem follow_append_of_folder (h : system.follow folder first = some (location, .folder)) :
    system.follow folder (first ++ rest) = system.follow location rest := by
  induction first generalizing folder with
  | nil =>
    cases h
    rfl
  | cons step first ih =>
    obtain ⟨hstep, hfirst⟩ := follow_cons_eq_folder_iff.1 h
    rw [List.cons_append, follow]
    simp only [hstep]
    exact ih hfirst

/-- Steps that have others behind them lead to a folder, if all together lead anywhere. -/
theorem exists_folder_of_follow_append (hrest : rest ≠ [])
    (h : system.follow folder (first ++ rest) = some (location, entry)) :
    ∃ inner, system.follow folder first = some (inner, .folder) := by
  induction first generalizing folder with
  | nil => exact ⟨folder, rfl⟩
  | cons step first ih =>
    rw [List.cons_append, follow] at h
    split at h
    · next hstep =>
      obtain ⟨inner, hinner⟩ := ih h
      exact ⟨inner, follow_cons_eq_folder_iff.2 ⟨hstep, hinner⟩⟩
    · next content _ =>
      rw [if_neg (by simp [hrest])] at h
      cases h
    · cases h

/-- A path leads to a folder if it is not empty and its steps do. -/
theorem find?_eq_folder_iff : system.find? path = some (location, .folder) ↔
    path.isEmpty = false ∧
      system.follow (system.origin path) (steps path) = some (location, .folder) := by
  rw [find?]
  cases hpath : path.isEmpty with
  | true => simp
  | false =>
    rw [if_neg Bool.false_ne_true]
    split
    · next place content h => split <;> simp [h]
    · next found _ => simp

/-- A path to a folder leads to something. -/
theorem hasPath_of_find? (h : system.find? path = some (location, .folder)) :
    system.hasPath path = true := by
  rw [hasPath, h]
  rfl

/-- A path leads to a folder somewhere if it leads to a folder. -/
theorem hasFolder_iff : system.hasFolder path = true ↔
    ∃ location, system.find? path = some (location, .folder) := by
  rw [hasFolder]
  split
  · next place h => simp [h]
  · next h =>
    simp only [Bool.false_eq_true, false_iff, not_exists]
    exact fun place hplace => h place hplace

/-! ## Paths of files -/

/-- Whether a text can stand as a step of its own that leads into a folder. -/
structure IsStep (name : String) : Prop where
  slash : '/' ∉ name.toList
  empty : name.toList ≠ []
  here : name ≠ "."
  around : name ≠ ".."

/-- A path that has characters is not empty. -/
theorem isEmpty_eq_false_iff : path.isEmpty = false ↔ path.toList ≠ [] := by
  rw [← Bool.not_eq_true, String.isEmpty_iff, ne_eq, String.toList_eq_nil_iff]

/-- A path that ends with a slash has it behind all others of its characters. -/
theorem exists_toList_of_endsInFolder (h : endsInFolder path = true) :
    ∃ front, path.toList = front ++ ['/'] := by
  obtain ⟨front, hfront⟩ := List.isSuffixOf_iff_suffix.1 h
  exact ⟨front, hfront.symm⟩

/-- The characters of the path of something in a folder. -/
theorem join_toList (h : path.isEmpty = false) : (join path name).toList =
    if endsInFolder path = true then path.toList ++ name.toList
    else path.toList ++ '/' :: name.toList := by
  rw [join, h, Bool.false_or]
  split
  · rw [String.toList_append]
  · rw [String.toList_append, String.toList_append, List.append_assoc]
    rfl

/-- A step is the only one of its path. -/
theorem steps_of_isStep (h : IsStep name) : steps name = [name] := by
  rw [steps, Text.splitChars_of_not_mem h.slash, List.map_cons, String.ofList_toList, List.map_nil,
    List.filter_cons_of_pos, List.filter_nil]
  rw [isEmpty_eq_false_iff.2 h.empty]
  rfl

/-- To something in a folder one goes by the steps to the folder and the one into it. -/
theorem steps_join (hpath : path.isEmpty = false) (h : IsStep name) :
    steps (join path name) = steps path ++ [name] := by
  have hjoin : splitChars '/' (join path name).toList =
      if endsInFolder path = true then
        splitChars '/' path.toList.dropLast ++ splitChars '/' name.toList
      else splitChars '/' path.toList ++ splitChars '/' name.toList := by
    rw [join_toList hpath]
    split
    · next hends =>
      obtain ⟨front, hfront⟩ := exists_toList_of_endsInFolder hends
      rw [hfront, List.dropLast_concat, List.append_assoc, List.singleton_append,
        Text.splitChars_append_cons]
    · rw [Text.splitChars_append_cons]
  rw [← steps_of_isStep h, steps, steps, steps, hjoin]
  split
  · next hends =>
    obtain ⟨front, hfront⟩ := exists_toList_of_endsInFolder hends
    rw [hfront, List.dropLast_concat, Text.splitChars_append_cons]
    simp [Text.splitChars]
  · rw [List.map_append, List.filter_append]

/-- The path of something in a folder starts where the path of the folder does. -/
theorem origin_join (hpath : path.isEmpty = false) (name : String) :
    system.origin (join path name) = system.origin path := by
  obtain ⟨c, rest, hchars⟩ := List.exists_cons_of_ne_nil (isEmpty_eq_false_iff.1 hpath)
  have hbegins : Text.beginsWith (join path name) "/" = Text.beginsWith path "/" := by
    rw [Text.beginsWith, Text.beginsWith, join_toList hpath, hchars]
    split <;> rfl
  rw [origin, origin, hbegins]

/-- The path of a step in a folder does not end with a slash. -/
theorem endsInFolder_join (hpath : path.isEmpty = false) (h : IsStep name) :
    endsInFolder (join path name) = false := by
  rw [← Bool.not_eq_true]
  intro hends
  obtain ⟨front, hfront⟩ := exists_toList_of_endsInFolder hends
  have hlast : (join path name).toList.getLast? = name.toList.getLast? := by
    obtain ⟨c, rest, hchars⟩ := List.exists_cons_of_ne_nil h.empty
    rw [join_toList hpath, hchars]
    split <;> simp [List.getLast?_cons]
  rw [hfront, List.getLast?_concat] at hlast
  exact h.slash (List.mem_of_getLast? hlast.symm)

/-- What stands in a folder is found under the path of the folder and its name. -/
theorem find?_join (hfolder : system.find? path = some (location, .folder)) (h : IsStep name) :
    system.find? (join path name) =
      (system.entryAt? (location ++ [name])).map (Prod.mk (location ++ [name])) := by
  obtain ⟨hpath, hfollow⟩ := find?_eq_folder_iff.1 hfolder
  have hstep : stepFrom location name = location ++ [name] := by
    rw [stepFrom, if_neg h.here, if_neg h.around]
  have hjoin : (join path name).isEmpty = false := by
    rw [isEmpty_eq_false_iff, join_toList hpath]
    split <;> simp [h.empty]
  rw [find?, hjoin, if_neg Bool.false_ne_true, origin_join hpath name, steps_join hpath h,
    follow_append_of_folder hfollow, follow, hstep, endsInFolder_join hpath h]
  cases system.entryAt? (location ++ [name]) with
  | none => rfl
  | some entry => cases entry <;> rfl

/-- The content of a file in a folder. -/
theorem content?_join_eq_some_iff (hfolder : system.find? path = some (location, .folder))
    (h : IsStep name) : system.content? (join path name) = some content ↔
      system.entryAt? (location ++ [name]) = some (.file content) := by
  rw [content?, find?_join hfolder h]
  cases system.entryAt? (location ++ [name]) with
  | none => simp
  | some entry => cases entry <;> simp

/-- Around something in a folder there is the folder. -/
theorem exists_folder_of_find?_join (hpath : path.isEmpty = false) (h : IsStep name)
    (hfind : system.find? (join path name) = some (location, entry)) :
    ∃ inner, system.find? path = some (inner, .folder) := by
  have hfollow : system.follow (system.origin path) (steps path ++ [name]) =
      some (location, entry) := by
    rw [← origin_join hpath name, ← steps_join hpath h]
    rw [find?, endsInFolder_join hpath h] at hfind
    split at hfind
    · cases hfind
    · split at hfind
      · next hfollow => rw [hfollow, ← hfind]; rfl
      · exact hfind
  obtain ⟨inner, hinner⟩ := exists_folder_of_follow_append (List.cons_ne_nil name []) hfollow
  exact ⟨inner, find?_eq_folder_iff.2 ⟨hpath, hinner⟩⟩

/-- Around a file in a folder there is the folder. -/
theorem exists_folder_of_content? (hpath : path.isEmpty = false) (h : IsStep name)
    (hcontent : system.content? (join path name) = some content) :
    ∃ inner, system.find? path = some (inner, .folder) := by
  rw [content?] at hcontent
  split at hcontent
  · next hfind => exact exists_folder_of_find?_join hpath h hfind
  · cases hcontent

/-- A usual name leads to what has that name in the current folder. -/
theorem hasPath_of_isStep (h : IsStep name) :
    system.hasPath name = (system.entryAt? (system.current ++ [name])).isSome := by
  have hstep : stepFrom system.current name = system.current ++ [name] := by
    rw [stepFrom, if_neg h.here, if_neg h.around]
  have horigin : system.origin name = system.current := by
    rw [origin, if_neg]
    intro hbegins
    obtain ⟨rest, hrest⟩ := List.isPrefixOf_iff_prefix.1 hbegins
    exact h.slash (hrest ▸ List.mem_cons_self)
  have hends : endsInFolder name = false := by
    rw [← Bool.not_eq_true]
    intro hends
    obtain ⟨front, hfront⟩ := exists_toList_of_endsInFolder hends
    exact h.slash (hfront ▸ List.mem_append_right front List.mem_cons_self)
  rw [hasPath, find?, isEmpty_eq_false_iff.2 h.empty, if_neg Bool.false_ne_true, horigin,
    steps_of_isStep h, follow, hstep, hends]
  cases system.entryAt? (system.current ++ [name]) with
  | none => rfl
  | some entry => cases entry <;> rfl

/-! ## Changes of files -/

/-- Whether a system differs from what it was before only in files with some names. -/
structure OnlyFiles (names : List String) (before after : System) : Prop where
  current : after.current = before.current
  environment : after.environment = before.environment
  folders : ∀ location, after.entryAt? location = some .folder ↔
    before.entryAt? location = some .folder
  others : ∀ location name, name ∉ names →
    after.entryAt? (location ++ [name]) = before.entryAt? (location ++ [name])

variable {names : List String}

/-- Changes of files after others are changes of files. -/
theorem OnlyFiles.trans {middle : System} (hfirst : OnlyFiles names before middle)
    (hsecond : OnlyFiles names middle after) : OnlyFiles names before after where
  current := hsecond.current.trans hfirst.current
  environment := hsecond.environment.trans hfirst.environment
  folders location := (hsecond.folders location).trans (hfirst.folders location)
  others location name h := (hsecond.others location name h).trans (hfirst.others location name h)

/-- Changes of files with some names are changes of files with any of more names. -/
theorem OnlyFiles.mono {more : List String} (h : OnlyFiles names before after)
    (hnames : ∀ name ∈ names, name ∈ more) : OnlyFiles more before after where
  current := h.current
  environment := h.environment
  folders := h.folders
  others location name hname := h.others location name (mt (hnames name) hname)

/-- The same steps lead to the same folder. -/
theorem OnlyFiles.follow_iff (h : OnlyFiles names before after) :
    after.follow folder rest = some (location, .folder) ↔
      before.follow folder rest = some (location, .folder) := by
  induction rest generalizing folder with
  | nil => rfl
  | cons step rest ih =>
    rw [follow_cons_eq_folder_iff, follow_cons_eq_folder_iff, h.folders, ih]

/-- The same path leads to the same folder. -/
theorem OnlyFiles.find?_iff (h : OnlyFiles names before after) :
    after.find? path = some (location, .folder) ↔ before.find? path = some (location, .folder) := by
  rw [find?_eq_folder_iff, find?_eq_folder_iff, h.follow_iff, origin, origin, h.current]

/-- A change in one place is a change of a file if there was no folder and is none now. -/
theorem onlyFiles_of_one (hname : name ∈ names) (hcurrent : after.current = before.current)
    (henvironment : after.environment = before.environment)
    (hbefore : before.entryAt? (location ++ [name]) ≠ some .folder)
    (hafter : after.entryAt? (location ++ [name]) ≠ some .folder)
    (hothers : ∀ other, other ≠ location ++ [name] → after.entryAt? other = before.entryAt? other) :
    OnlyFiles names before after where
  current := hcurrent
  environment := henvironment
  folders other := by
    by_cases hother : other = location ++ [name]
    · rw [hother]
      exact iff_of_false hafter hbefore
    · rw [hothers other hother]
  others other step hstep := by
    apply hothers
    intro heq
    have hlast := congrArg List.getLast? heq
    rw [List.getLast?_concat, List.getLast?_concat] at hlast
    cases hlast
    exact hstep hname

/-- Putting a file where there is no folder is a change of a file. -/
theorem onlyFiles_put (content : Bytes) (hname : name ∈ names)
    (h : system.entryAt? (location ++ [name]) ≠ some .folder) :
    OnlyFiles names system (system.put (location ++ [name]) (.file content)) := by
  refine onlyFiles_of_one hname rfl rfl h ?_ ?_
  · rw [entryAt?_put_self (List.concat_ne_nil name location)]
    exact nofun
  · exact fun other hother => entryAt?_put_of_ne hother

/-- Taking away what is no folder is a change of a file. -/
theorem onlyFiles_remove (hname : name ∈ names)
    (h : system.entryAt? (location ++ [name]) ≠ some .folder) :
    OnlyFiles names system (system.remove (location ++ [name])) := by
  refine onlyFiles_of_one hname rfl rfl h ?_ ?_
  · rw [entryAt?_remove_self (List.concat_ne_nil name location)]
    exact nofun
  · exact fun other hother => entryAt?_remove_of_ne hother

/-- A file is written into a folder if no folder has its name. -/
theorem writeIn_eq_some_iff (hfolder : system.find? path = some (location, .folder)) :
    system.writeIn path name content = some after ↔
      system.entryAt? (location ++ [name]) ≠ some .folder ∧
        system.put (location ++ [name]) (.file content) = after := by
  rw [writeIn, hfolder]
  by_cases h : system.entryAt? (location ++ [name]) = some .folder <;> simp [h]

/-- A file is taken away from its folder. -/
theorem removeIn_of_folder (hfolder : system.find? path = some (location, .folder)) :
    system.removeIn path name = system.remove (location ++ [name]) := by
  rw [removeIn, hfolder]

/-- Making folders changes no variables. -/
theorem makeFoldersFrom_environment (h : system.makeFoldersFrom folder rest = some after) :
    after.environment = system.environment := by
  induction rest generalizing system folder with
  | nil =>
    cases h
    rfl
  | cons step rest ih =>
    rw [makeFoldersFrom] at h
    split at h
    · exact ih h
    · cases h
    · split at h
      · exact (ih h).trans rfl
      · cases h

/-! ## Other variables -/

variable {environment : List (String × String)}

/-- A system with other variables. -/
def under (system : System) (environment : List (String × String)) : System :=
  { system with environment }

/-- Steps lead to the same places. -/
theorem follow_under (folder : Location) :
    (system.under environment).follow folder rest = system.follow folder rest := by
  induction rest generalizing folder with
  | nil => rfl
  | cons step rest ih =>
    rw [follow, follow]
    simp only [ih]
    rfl

/-- Paths lead to the same places. -/
@[simp] theorem find?_under (path : String) :
    (system.under environment).find? path = system.find? path := by
  rw [find?, find?, follow_under]
  rfl

/-- Paths lead to something or nothing as before. -/
@[simp] theorem hasPath_under (path : String) :
    (system.under environment).hasPath path = system.hasPath path := by
  rw [hasPath, hasPath, find?_under]

/-- Paths lead to folders as before. -/
@[simp] theorem hasFolder_under (path : String) :
    (system.under environment).hasFolder path = system.hasFolder path := by
  rw [hasFolder, hasFolder, find?_under]

/-- Files have the same content. -/
@[simp] theorem content?_under (path : String) :
    (system.under environment).content? path = system.content? path := by
  rw [content?, content?, find?_under]

/-- The same folders are made. -/
theorem makeFoldersFrom_under (folder : Location) :
    (system.under environment).makeFoldersFrom folder rest =
      (system.makeFoldersFrom folder rest).map (·.under environment) := by
  induction rest generalizing system folder with
  | nil => rfl
  | cons step rest ih =>
    have hentry : (system.under environment).entryAt? (stepFrom folder step) =
        system.entryAt? (stepFrom folder step) := rfl
    rw [makeFoldersFrom, makeFoldersFrom]
    simp only [hentry]
    cases system.entryAt? (stepFrom folder step) with
    | none =>
      by_cases hname : isName step = true
      · simp only [hname, if_true]
        change ((system.put (stepFrom folder step) .folder).under environment).makeFoldersFrom _ _ = _
        exact ih (stepFrom folder step)
      · simp [hname]
    | some entry =>
      cases entry with
      | folder => exact ih (stepFrom folder step)
      | file content => rfl

/-- The same files are written. -/
theorem writeIn_under (name : String) (content : Bytes) :
    (system.under environment).writeIn path name content =
      (system.writeIn path name content).map (·.under environment) := by
  have hentry : ∀ location, (system.under environment).entryAt? location =
      system.entryAt? location := fun _ => rfl
  rw [writeIn, writeIn, find?_under]
  cases system.find? path with
  | none => rfl
  | some found =>
    obtain ⟨location, entry⟩ := found
    cases entry with
    | file content => rfl
    | folder =>
      simp only [hentry]
      by_cases hfolder : system.entryAt? (location ++ [name]) = some .folder
      · simp [hfolder]
      · simp only [hfolder, if_false]
        rfl

/-- The same files are taken away. -/
theorem removeIn_under (name : String) :
    (system.under environment).removeIn path name =
      (system.removeIn path name).under environment := by
  rw [removeIn, removeIn, find?_under]
  cases system.find? path with
  | none => rfl
  | some found => rfl

/-- Where a file can be written it can be written with any content. -/
theorem exists_writeIn {content : Bytes} (h : system.writeIn path name content = some after)
    (other : Bytes) : ∃ again, system.writeIn path name other = some again := by
  rw [writeIn] at h ⊢
  split at h
  · split at h
    · cases h
    · next hfree => exact ⟨_, if_neg hfree⟩
  · cases h

end NatGateway.Configuration.System
