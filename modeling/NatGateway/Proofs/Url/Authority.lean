import Mathlib.Data.List.Basic
import NatGateway.Proofs.Net.Ipv4
import NatGateway.Proofs.Net.Ipv6
import NatGateway.Url.Host

/-!
# Texts of authorities

An authority is regular if its parts are free of the marks that end them in a text. Then its text
tells the authority: the user ends at the at sign, a host at the colon of its port or at its bracket,
and a name is told apart from an address. The text ends at the first mark behind an authority.
-/

namespace NatGateway.Url

open NatGateway.Net (Ipv4 Ipv6)
open NatGateway.Text (append_inj_of_not_mem append_separator_inj Stops stops_separator)

/-! ## Components behind a mark -/

/-- A component behind the mark that starts it, if it is there. -/
def marked (mark : Char) : Option (List Char) → List Char
  | none => []
  | some component => mark :: component

/-- What stands behind a mark is known from the text. -/
theorem marked_injective (mark : Char) : Function.Injective (marked mark) := by
  intro component component' h
  cases component with
  | none =>
    cases component' with
    | none => rfl
    | some after => cases h
  | some before =>
    cases component' with
    | none => cases h
    | some after => rw [(List.cons.inj h).2]

/-- A component behind a mark begins with the mark. -/
theorem stops_marked (mark : Char) (component : Option (List Char)) :
    Stops (· != mark) (marked mark component) := by
  cases component with
  | none => exact nofun
  | some component => exact stops_separator mark component

/-- A component behind a mark holds no other mark. -/
theorem disjoint_marked {marks : List Char} {mark : Char} {component : Option (List Char)}
    (hmark : mark ∉ marks) (h : ∀ text ∈ component, marks.Disjoint text) :
    marks.Disjoint (marked mark component) := by
  cases component with
  | none => exact List.disjoint_nil_right marks
  | some text => exact List.disjoint_cons_right.2 ⟨hmark, h text rfl⟩

/-- A part without a mark, and a component behind that mark, are known from the whole. -/
theorem append_marked_inj {mark : Char} {before before' : List Char}
    {component component' : Option (List Char)} (h : mark ∉ before) (h' : mark ∉ before')
    (heq : before ++ marked mark component = before' ++ marked mark component') :
    before = before' ∧ component = component' := by
  obtain ⟨hbefore, hmarked⟩ := append_inj_of_not_mem h (stops_marked mark component) h'
    (stops_marked mark component') heq
  exact ⟨hbefore, marked_injective mark hmarked⟩

/-! ## Hosts -/

/-- The marks around a name in an authority. -/
def hostMarks : List Char := [':', '@', '/', '?', '#', '[', '\x00']

/-- Whether a host can stand in the text of a URL. A name is free of the marks around it, and where
hosts may be IPv4 addresses it is none. -/
inductive Host.IsRegular (isSpecial : Bool) : Host → Prop
  | domain {name : String} (nonempty : name ≠ "") (plain : hostMarks.Disjoint name.toList)
      (noAddress : isSpecial = true → endsInNumber name.toList = false) :
      Host.IsRegular isSpecial (.domain name)
  | ipv4 {address : Ipv4} (special : isSpecial = true) : Host.IsRegular isSpecial (.ipv4 address)
  | ipv6 {address : Ipv6} (words : address.words.length = 8) :
      Host.IsRegular isSpecial (.ipv6 address)

/-- The text of an IPv4 address ends in a number. -/
theorem endsInNumber_text (address : Ipv4) : endsInNumber address.text.toList = true := by
  have hlast : (address.octets.map (Nat.toDigits 10)).getLast? =
      some (Nat.toDigits 10 (address.bits.toNat % 0x100)) := rfl
  have hne : Nat.toDigits 10 (address.bits.toNat % 0x100) ≠ [] := Nat.toDigits_ne_nil
  have hlabels : labelsOf address.text.toList = address.octets.map (Nat.toDigits 10) := by
    rw [labelsOf, Ipv4.splitChars_text, hlast]
    exact if_neg fun h => hne (Option.some.inj h)
  have hdigits : (Nat.toDigits 10 (address.bits.toNat % 0x100)).all Char.isDigit = true :=
    List.all_eq_true.2 fun c hc => Nat.isDigit_of_mem_toDigits (by decide) (by decide) hc
  rw [endsInNumber, hlabels, hlast]
  simp only [hdigits, List.isEmpty_eq_false_iff.2 hne, Bool.not_false, Bool.true_or, Bool.and_self]

/-- The text of an IPv6 address stands in brackets. -/
theorem Host.ipv6_text (address : Ipv6) :
    (Host.ipv6 address).text.toList = '[' :: (address.plainText.toList ++ [']']) := by
  change ("[" ++ address.plainText ++ "]").toList = _
  simp

/-- No text without a mark is that of an IPv6 address. -/
theorem Host.ne_ipv6_text {text : String} (h : hostMarks.Disjoint text.toList) (address : Ipv6) :
    text ≠ (Host.ipv6 address).text := by
  rintro rfl
  rw [Host.ipv6_text] at h
  exact h (by decide : '[' ∈ hostMarks) List.mem_cons_self

/-- The text of an IPv4 address holds none of the marks around it. -/
theorem Host.disjoint_ipv4 (address : Ipv4) :
    hostMarks.Disjoint (Host.ipv4 address).text.toList := by
  intro c hmark hc
  have hpoint : '.' ∉ hostMarks := by decide
  have hdigit : ∀ c ∈ hostMarks, c.isDigit = false :=
    List.forall_iff_forall_mem.1 (by decide)
  rcases Ipv4.mem_text hc with rfl | hc
  · exact hpoint hmark
  · rw [hdigit c hmark] at hc
    cases hc

variable {isSpecial : Bool}

namespace Host.IsRegular

variable {host host' : Host}

/-- A regular host is an IPv6 address, or its text holds no mark. -/
theorem cases_plain (h : host.IsRegular isSpecial) :
    (∃ address, host = .ipv6 address) ∨ hostMarks.Disjoint host.text.toList := by
  cases h with
  | domain _ plain _ => exact .inr plain
  | ipv4 _ => exact .inr (Host.disjoint_ipv4 _)
  | ipv6 _ => exact .inl ⟨_, rfl⟩

/-- The text of a regular host is not empty. -/
theorem text_ne_nil (h : host.IsRegular isSpecial) : host.text.toList ≠ [] := by
  intro hnil
  cases h with
  | domain nonempty _ _ => exact nonempty (String.toList_eq_nil_iff.1 hnil)
  | ipv6 _ =>
    rw [Host.ipv6_text] at hnil
    cases hnil
  | @ipv4 address _ =>
    have hends := endsInNumber_text address
    rw [show address.text.toList = [] from hnil] at hends
    revert hends
    decide

/-- The text of a regular host tells the host. -/
theorem text_inj (h : host.IsRegular isSpecial) (h' : host'.IsRegular isSpecial)
    (heq : host.text = host'.text) : host = host' := by
  have haddress : ∀ {name : String} {address : Ipv4}, endsInNumber name.toList = false →
      name ≠ address.text := by
    rintro name address hname rfl
    rw [endsInNumber_text] at hname
    cases hname
  cases h with
  | @domain name _ plain noAddress =>
    cases h' with
    | @domain name' _ _ _ => exact congrArg Host.domain heq
    | ipv4 special => exact absurd heq (haddress (noAddress special))
    | ipv6 _ => exact absurd heq (Host.ne_ipv6_text plain _)
  | @ipv4 address special =>
    cases h' with
    | domain _ _ noAddress => exact absurd heq.symm (haddress (noAddress special))
    | ipv4 _ => exact congrArg Host.ipv4 (Ipv4.text_injective heq)
    | ipv6 _ => exact absurd heq (Host.ne_ipv6_text (Host.disjoint_ipv4 _) _)
  | @ipv6 address words =>
    cases h' with
    | domain _ plain _ => exact absurd heq.symm (Host.ne_ipv6_text plain _)
    | ipv4 _ => exact absurd heq.symm (Host.ne_ipv6_text (Host.disjoint_ipv4 _) _)
    | ipv6 words' =>
      have hlists := congrArg String.toList heq
      rw [Host.ipv6_text, Host.ipv6_text] at hlists
      have hplain := List.append_cancel_right (List.cons.inj hlists).2
      exact congrArg Host.ipv6 (Ipv6.plainText_inj words words' (String.toList_inj.1 hplain))

end Host.IsRegular

/-! ## Servers -/

variable {host host' : Option Host} {port port' : Option Nat}

/-- The text of a host, if there is one. -/
def hostText (host : Option Host) : List Char := host.elim [] (·.text.toList)

/-- The text of a host and its port. -/
def serverText (host : Option Host) (port : Option Nat) : List Char :=
  hostText host ++ marked ':' (port.map (Nat.toDigits 10))

/-- A host is an IPv6 address, or its text holds no mark. -/
theorem hostText_cases (h : ∀ name ∈ host, name.IsRegular isSpecial) :
    (∃ address, host = some (.ipv6 address)) ∨ hostMarks.Disjoint (hostText host) := by
  cases host with
  | none => exact .inr (List.disjoint_nil_right _)
  | some name =>
    obtain ⟨address, rfl⟩ | hplain := (h name rfl).cases_plain
    · exact .inl ⟨address, rfl⟩
    · exact .inr hplain

/-- The text of a host tells whether there is one, and which. -/
theorem hostText_inj (h : ∀ name ∈ host, name.IsRegular isSpecial)
    (h' : ∀ name ∈ host', name.IsRegular isSpecial) (heq : hostText host = hostText host') :
    host = host' := by
  cases host with
  | none =>
    cases host' with
    | none => rfl
    | some name' => exact absurd heq.symm (h' name' rfl).text_ne_nil
  | some name =>
    cases host' with
    | none => exact absurd heq (h name rfl).text_ne_nil
    | some name' =>
      exact congrArg some ((h name rfl).text_inj (h' name' rfl) (String.toList_inj.1 heq))

/-- A port holds no mark except for the colon in front of it. -/
theorem disjoint_port {marks : List Char} (hcolon : ':' ∉ marks)
    (hdigit : ∀ c ∈ marks, c.isDigit = false) :
    marks.Disjoint (marked ':' (port.map (Nat.toDigits 10))) := by
  refine disjoint_marked hcolon fun digits hdigits c hmark hc => ?_
  obtain ⟨n, _, rfl⟩ := Option.map_eq_some_iff.1 hdigits
  have hc := Nat.isDigit_of_mem_toDigits (by decide) (by decide) hc
  rw [hdigit c hmark] at hc
  cases hc

/-- The text of an IPv6 address and its port. -/
theorem serverText_ipv6 (address : Ipv6) (port : Option Nat) :
    serverText (some (.ipv6 address)) port =
      '[' :: (address.plainText.toList ++ ']' :: marked ':' (port.map (Nat.toDigits 10))) := by
  change (Host.ipv6 address).text.toList ++ _ = _
  rw [Host.ipv6_text, List.cons_append, List.append_assoc, List.singleton_append]

/-- Without a bracket in its host a text is not that of an IPv6 address and its port. -/
theorem serverText_ne_ipv6 (h : hostMarks.Disjoint (hostText host)) (address : Ipv6) :
    serverText host port ≠ serverText (some (.ipv6 address)) port' := by
  intro heq
  have hmem : '[' ∈ serverText host port := by
    rw [heq, serverText_ipv6]
    exact List.mem_cons_self
  have hbracket : ['['].Disjoint (marked ':' (port.map (Nat.toDigits 10))) :=
    disjoint_port (by decide) (List.forall_mem_singleton.2 (by decide))
  rcases List.mem_append.1 hmem with hhost | hport
  · exact h (by decide) hhost
  · exact hbracket List.mem_cons_self hport

/-- The text of a host and its port tells both. -/
theorem serverText_inj (h : ∀ name ∈ host, name.IsRegular isSpecial)
    (h' : ∀ name ∈ host', name.IsRegular isSpecial)
    (heq : serverText host port = serverText host' port') : host = host' ∧ port = port' := by
  have htexts : hostText host = hostText host' ∧
      port.map (Nat.toDigits 10) = port'.map (Nat.toDigits 10) := by
    obtain ⟨address, rfl⟩ | hplain := hostText_cases h
    · obtain ⟨address', rfl⟩ | hplain' := hostText_cases h'
      · -- An address ends where its bracket does.
        rw [serverText_ipv6, serverText_ipv6] at heq
        have hbracket := @Ipv6.not_mem_plainText ']' (by decide) (by decide)
        obtain ⟨haddress, hport⟩ := append_separator_inj (hbracket address) (hbracket address')
          (List.cons.inj heq).2
        refine ⟨?_, marked_injective ':' hport⟩
        change (Host.ipv6 address).text.toList = (Host.ipv6 address').text.toList
        rw [Host.ipv6_text, Host.ipv6_text, haddress]
      · exact absurd heq.symm (serverText_ne_ipv6 hplain' address)
    · obtain ⟨address', rfl⟩ | hplain' := hostText_cases h'
      · exact absurd heq (serverText_ne_ipv6 hplain address')
      · exact append_marked_inj (hplain (by decide)) (hplain' (by decide)) heq
  exact ⟨hostText_inj h h' htexts.1, Option.map_injective Text.toDigits_ten_injective htexts.2⟩

/-! ## Authorities -/

/-- The marks that no part of a user holds. -/
def userMarks : List Char := [':', '@', '/', '?', '#', '\x00']

/-- Whether an authority can stand in the text of a URL. -/
structure Authority.IsRegular (isSpecial : Bool) (authority : Authority) : Prop where
  username : userMarks.Disjoint authority.username.toList
  password : userMarks.Disjoint authority.password.toList
  host : ∀ host ∈ authority.host, host.IsRegular isSpecial

/-- The text of a user: a name, and a password behind a colon unless it is empty. -/
def userText (username password : String) : List Char :=
  username.toList ++ marked ':' (if password.isEmpty then none else some password.toList)

/-- The text of a user tells the name and the password. -/
theorem userText_inj {username password username' password' : String}
    (h : ':' ∉ username.toList) (h' : ':' ∉ username'.toList)
    (heq : userText username password = userText username' password') :
    username = username' ∧ password = password' := by
  obtain ⟨hname, hpassword⟩ := append_marked_inj h h' heq
  refine ⟨String.toList_inj.1 hname, ?_⟩
  split at hpassword
  · next hempty =>
    split at hpassword
    · next hempty' => rw [String.isEmpty_iff.1 hempty, String.isEmpty_iff.1 hempty']
    · cases hpassword
  · split at hpassword
    · cases hpassword
    · exact String.toList_inj.1 (Option.some.inj hpassword)

/-- A user in front of an at sign, unless there is none. -/
def beforeAt (user : List Char) : List Char := if user.isEmpty then [] else user ++ ['@']

/-- A user and what stands behind are known from the whole. -/
theorem beforeAt_append_inj {user server user' server' : List Char} (huser : '@' ∉ user)
    (huser' : '@' ∉ user') (hserver : '@' ∉ server) (hserver' : '@' ∉ server')
    (h : beforeAt user ++ server = beforeAt user' ++ server') : user = user' ∧ server = server' := by
  unfold beforeAt at h
  split at h
  · next hempty =>
    split at h
    · next hempty' =>
      rw [List.isEmpty_iff.1 hempty, List.isEmpty_iff.1 hempty']
      exact ⟨rfl, h⟩
    · rw [List.nil_append] at h
      exact absurd (by simp [h]) hserver
  · split at h
    · rw [List.nil_append] at h
      exact absurd (by simp [← h]) hserver'
    · rw [List.append_assoc, List.append_assoc, List.singleton_append, List.singleton_append] at h
      exact append_separator_inj huser huser' h

/-- The text of an authority: the user, and the host with its port. -/
theorem Authority.text_toList (authority : Authority) : authority.text.toList =
    beforeAt (userText authority.username authority.password) ++
      serverText authority.host authority.port := by
  obtain ⟨username, password, host, port⟩ := authority
  have huser : (username ++ (if password.isEmpty then "" else ":" ++ password)).toList =
      userText username password := by
    rw [String.toList_append, userText]
    split <;> simp [marked]
  simp only [Authority.text]
  rw [String.toList_append, String.toList_append, List.append_assoc]
  refine congrArg₂ List.append ?_ ?_
  · generalize username ++ (if password.isEmpty then "" else ":" ++ password) = user at huser ⊢
    have hempty : user.isEmpty = (userText username password).isEmpty := by
      rw [← huser, Bool.eq_iff_iff, String.isEmpty_iff, List.isEmpty_iff, String.toList_eq_nil_iff]
    rw [beforeAt, ← hempty]
    split
    · rfl
    · rw [String.toList_append, huser]
      rfl
  · cases host <;> cases port <;>
      simp [serverText, hostText, marked, Text.decimal_natCast_toList]

/-- The marks that end an authority. -/
def endMarks : List Char := ['/', '?', '#', '\x00']

namespace Authority.IsRegular

variable {authority authority' : Authority}

/-- The text of a host and its port holds no at sign and no mark that ends an authority. -/
theorem disjoint_serverText (h : ∀ name ∈ host, name.IsRegular isSpecial) :
    ('@' :: endMarks).Disjoint (serverText host port) := by
  have hdigits : ∀ c ∈ '@' :: endMarks, c.isDigit = false :=
    List.forall_iff_forall_mem.1 (by decide)
  refine List.disjoint_append_right.2 ⟨?_, disjoint_port (by decide) hdigits⟩
  obtain ⟨address, rfl⟩ | hplain := hostText_cases h
  · intro c hmark hc
    have hc : c ∈ (Host.ipv6 address).text.toList := hc
    rw [Host.ipv6_text, List.mem_cons, List.mem_append, List.mem_singleton] at hc
    have hmarks : ∀ c ∈ '@' :: endMarks, c ≠ '[' ∧ c ≠ ']' ∧ c ≠ ':' ∧
        Ipv6.isHexDigit c = false := List.forall_iff_forall_mem.1 (by decide)
    obtain ⟨hopen, hclose, hcolon, hdigit⟩ := hmarks c hmark
    rcases hc with rfl | hc | rfl
    · exact hopen rfl
    · exact Ipv6.not_mem_plainText hcolon hdigit address hc
    · exact hclose rfl
  · exact List.disjoint_of_subset_left (by decide) hplain

/-- The text of a user holds no at sign and no mark that ends an authority. -/
theorem disjoint_userText (h : authority.IsRegular isSpecial) :
    ('@' :: endMarks).Disjoint (userText authority.username authority.password) := by
  refine List.disjoint_append_right.2
    ⟨List.disjoint_of_subset_left (by decide) h.username, disjoint_marked (by decide) ?_⟩
  intro password hpassword
  split at hpassword
  · cases hpassword
  · cases hpassword
    exact List.disjoint_of_subset_left (by decide) h.password

/-- The text of a regular authority ends at the first mark behind it. -/
theorem disjoint_text (h : authority.IsRegular isSpecial) :
    endMarks.Disjoint authority.text.toList := by
  have hsubset : endMarks ⊆ '@' :: endMarks := List.subset_cons_self _ _
  rw [Authority.text_toList]
  refine List.disjoint_append_right.2
    ⟨?_, List.disjoint_of_subset_left hsubset (disjoint_serverText h.host)⟩
  unfold beforeAt
  split
  · exact List.disjoint_nil_right _
  · exact List.disjoint_append_right.2
      ⟨List.disjoint_of_subset_left hsubset h.disjoint_userText,
        List.disjoint_singleton.2 (by decide)⟩

/-- The text of a regular authority tells the authority. -/
theorem text_inj (h : authority.IsRegular isSpecial) (h' : authority'.IsRegular isSpecial)
    (heq : authority.text = authority'.text) : authority = authority' := by
  have hat : '@' ∈ '@' :: endMarks := List.mem_cons_self
  have hcolon : ':' ∈ userMarks := by decide
  have hlists := congrArg String.toList heq
  rw [text_toList, text_toList] at hlists
  obtain ⟨huser, hserver⟩ := beforeAt_append_inj (h.disjoint_userText hat)
    (h'.disjoint_userText hat) (disjoint_serverText h.host hat) (disjoint_serverText h'.host hat)
    hlists
  obtain ⟨hname, hpassword⟩ := userText_inj (h.username hcolon) (h'.username hcolon) huser
  obtain ⟨hhost, hport⟩ := serverText_inj h.host h'.host hserver
  cases authority
  cases authority'
  cases hname
  cases hpassword
  cases hhost
  cases hport
  rfl

end Authority.IsRegular

end NatGateway.Url
