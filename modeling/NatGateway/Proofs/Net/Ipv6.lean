import NatGateway.Net.Ipv6
import NatGateway.Proofs.Text.Cut

/-!
# Texts of IPv6 addresses

The text of an address tells its eight words. Words are never written by nothing, so an empty piece
between colons is where zero words were left out; the words in front of it and behind it come back
one by one, and what is missing of eight is zero.
-/

namespace NatGateway.Net.Ipv6

open NatGateway.Text (splitChars)

/-! ## Words -/

/-- A digit below sixteen has its value. -/
theorem hexDigit?_digitChar : ∀ n < 16, hexDigit? (Nat.digitChar n) = some n := by
  decide

/-- The digits of a word tell the word. -/
theorem hexValue_toDigits (n : Nat) : hexValue (Nat.toDigits 16 n) = n := by
  induction n using Nat.strongRecOn with
  | ind n ih =>
    by_cases hn : n < 16
    · rw [Nat.toDigits_of_lt_base hn]
      simp [hexValue, hexDigit?_digitChar n hn]
    · have hdigit := hexDigit?_digitChar (n % 16) (Nat.mod_lt n (by decide))
      rw [Nat.toDigits_of_base_le (by decide) (Nat.le_of_not_lt hn), hexValue, List.foldl_append,
        ← hexValue, ih (n / 16) (by omega)]
      simp only [List.foldl_cons, List.foldl_nil, hdigit, Option.getD_some]
      omega

/-- A word is written with digits only. -/
theorem isHexDigit_of_mem_toDigits {n : Nat} {c : Char} (h : c ∈ Nat.toDigits 16 n) :
    isHexDigit c = true := by
  have hdigit : ∀ {m : Nat}, m < 16 → isHexDigit (Nat.digitChar m) = true := fun hm => by
    rw [isHexDigit, hexDigit?_digitChar _ hm]
    rfl
  induction n using Nat.strongRecOn with
  | ind n ih =>
    by_cases hn : n < 16
    · rw [Nat.toDigits_of_lt_base hn, List.mem_singleton] at h
      rw [h]
      exact hdigit hn
    · rw [Nat.toDigits_of_base_le (by decide) (Nat.le_of_not_lt hn), List.mem_append,
        List.mem_singleton] at h
      rcases h with hmem | rfl
      · exact ih (n / 16) (by omega) hmem
      · exact hdigit (Nat.mod_lt n (by decide))

/-- No colon is among the digits of a word. -/
theorem not_mem_toDigits (n : Nat) : ':' ∉ Nat.toDigits 16 n := by
  intro hmem
  have hcolon := isHexDigit_of_mem_toDigits hmem
  revert hcolon
  decide

/-- The digits of words tell the words. -/
theorem map_toDigits_inj {words words' : List Nat}
    (h : words.map (Nat.toDigits 16) = words'.map (Nat.toDigits 16)) : words = words' := by
  refine (List.map_inj_right fun n m hdigits => ?_).1 h
  rw [← hexValue_toDigits n, hdigits, hexValue_toDigits]

/-! ## Pieces between colons -/

/-- The pieces that words are written as; without words there is one, which is empty. -/
def piecesOf : List Nat → List (List Char)
  | [] => [[]]
  | words => words.map (Nat.toDigits 16)

/-- The digits of joined words. -/
theorem joined_toList (words : List Nat) :
    (joined words).toList = [':'].intercalate (words.map (Nat.toDigits 16)) := by
  rw [joined, String.toList_intercalate, List.map_map]
  congr 1
  exact List.map_congr_left fun word _ => String.toList_ofList

/-- Joined words hold digits and colons. -/
theorem mem_joined {words : List Nat} {c : Char} (h : c ∈ (joined words).toList) :
    c = ':' ∨ isHexDigit c = true := by
  rw [joined_toList] at h
  obtain hcolon | ⟨digits, hdigits, hc⟩ := Text.mem_intercalate h
  · exact .inl hcolon
  · obtain ⟨n, _, rfl⟩ := List.mem_map.1 hdigits
    exact .inr (isHexDigit_of_mem_toDigits hc)

/-- Joined words come back as their pieces. -/
theorem splitChars_joined (words : List Nat) :
    splitChars ':' (joined words).toList = piecesOf words := by
  rw [joined_toList]
  cases words with
  | nil => rfl
  | cons word rest =>
    refine Text.splitChars_intercalate (fun piece hpiece => ?_) (by simp)
    obtain ⟨n, _, rfl⟩ := List.mem_map.1 hpiece
    exact not_mem_toDigits n

/-- Joined words on both sides of two colons come back with an empty piece between theirs. -/
theorem splitChars_joined_joined (head tail : List Nat) :
    splitChars ':' (joined head ++ "::" ++ joined tail).toList =
      piecesOf head ++ [] :: piecesOf tail := by
  have htoList : (joined head ++ "::" ++ joined tail).toList =
      (joined head).toList ++ ':' :: ([] ++ ':' :: (joined tail).toList) := by
    simp
  rw [htoList, Text.splitChars_append_cons, Text.splitChars_append_cons, splitChars_joined,
    splitChars_joined]
  rfl

/-- No piece of some words is empty. -/
theorem not_mem_piecesOf {words : List Nat} (h : words ≠ []) : [] ∉ piecesOf words := by
  cases words with
  | nil => exact absurd rfl h
  | cons word rest =>
    intro hmem
    obtain ⟨n, _, hn⟩ := List.mem_map.1 hmem
    exact Nat.toDigits_ne_nil hn

/-- Pieces tell the words. -/
theorem piecesOf_injective : Function.Injective piecesOf := by
  intro words words' h
  cases words with
  | nil =>
    cases words' with
    | nil => rfl
    | cons word rest =>
      exact absurd (h ▸ List.mem_singleton.2 rfl) (not_mem_piecesOf (List.cons_ne_nil word rest))
  | cons word rest =>
    cases words' with
    | nil =>
      exact absurd (h ▸ List.mem_singleton.2 rfl) (not_mem_piecesOf (List.cons_ne_nil word rest))
    | cons word' rest' => exact map_toDigits_inj h

/-- Pieces on both sides of an empty one tell the words on both sides. -/
theorem piecesOf_append_inj {head tail head' tail' : List Nat}
    (h : piecesOf head ++ [] :: piecesOf tail = piecesOf head' ++ [] :: piecesOf tail') :
    head = head' ∧ tail = tail' := by
  cases head with
  | nil =>
    cases head' with
    | nil => exact ⟨rfl, piecesOf_injective (List.cons.inj (List.cons.inj h).2).2⟩
    | cons word rest => exact absurd (List.cons.inj h).1.symm Nat.toDigits_ne_nil
  | cons word rest =>
    cases head' with
    | nil => exact absurd (List.cons.inj h).1 Nat.toDigits_ne_nil
    | cons word' rest' =>
      obtain ⟨hhead, htail⟩ := Text.append_separator_inj
        (not_mem_piecesOf (List.cons_ne_nil word rest))
        (not_mem_piecesOf (List.cons_ne_nil word' rest')) h
      exact ⟨piecesOf_injective hhead, piecesOf_injective htail⟩

/-! ## Zero words that are left out -/

/-- The zeros at the start of words are as many zeros. -/
theorem append_drop_zeros (words : List Nat) :
    List.replicate (words.takeWhile (· == 0)).length 0 ++
      words.drop (words.takeWhile (· == 0)).length = words := by
  induction words with
  | nil => rfl
  | cons word rest ih =>
    rw [List.takeWhile_cons]
    split
    · next hword =>
      rw [List.length_cons, List.replicate_succ, List.drop_succ_cons, List.cons_append, ih,
        beq_iff_eq.1 hword]
    · rfl

/-- Where the longest run of zeros stands there are zeros. -/
theorem longestZeros_spec (position : Nat) (words : List Nat) :
    (longestZeros position words).2 = 0 ∨
      ∃ skipped, (longestZeros position words).1 = position + skipped ∧
        words = words.take skipped ++ List.replicate (longestZeros position words).2 0 ++
          words.drop (skipped + (longestZeros position words).2) := by
  induction words generalizing position with
  | nil => exact .inl rfl
  | cons word rest ih =>
    rw [longestZeros]
    split
    · refine .inr ⟨0, rfl, ?_⟩
      rw [List.take_zero, List.nil_append, Nat.zero_add]
      exact (append_drop_zeros (word :: rest)).symm
    · obtain hnone | ⟨skipped, hstart, hrest⟩ := ih (position + 1)
      · exact .inl hnone
      · refine .inr ⟨skipped + 1, by rw [hstart]; omega, ?_⟩
        rw [List.take_succ_cons, Nat.add_right_comm, List.drop_succ_cons, List.cons_append,
          List.cons_append, ← hrest]

/-- The text of an address is its words, or those in front of a run of zeros and those behind it. -/
theorem plainText_cases (address : Ipv6) :
    address.plainText = joined address.words ∨
      ∃ head zeros tail, address.words = head ++ List.replicate zeros 0 ++ tail ∧
        address.plainText = joined head ++ "::" ++ joined tail := by
  unfold plainText
  obtain hnone | ⟨skipped, hstart, hwords⟩ := longestZeros_spec 0 address.words
  · left
    simp only [hnone]
    rfl
  · simp only [hstart, Nat.zero_add]
    split
    · exact .inr ⟨_, _, _, hwords, rfl⟩
    · exact .inl rfl

/-- The text of an address holds digits and colons. -/
theorem mem_plainText {address : Ipv6} {c : Char} (h : c ∈ address.plainText.toList) :
    c = ':' ∨ isHexDigit c = true := by
  obtain hplain | ⟨head, zeros, tail, _, hplain⟩ := plainText_cases address
  · rw [hplain] at h
    exact mem_joined h
  · rw [hplain, String.toList_append, String.toList_append, List.mem_append, List.mem_append] at h
    rcases h with (hhead | hcolons) | htail
    · exact mem_joined hhead
    · left
      simpa using hcolons
    · exact mem_joined htail

/-- Other characters are not in the text of an address. -/
theorem not_mem_plainText {c : Char} (hcolon : c ≠ ':') (hdigit : isHexDigit c = false)
    (address : Ipv6) : c ∉ address.plainText.toList := by
  intro hmem
  rcases mem_plainText hmem with heq | hc
  · exact hcolon heq
  · rw [hdigit] at hc
    cases hc

/-- The text of an address of eight words tells the address. -/
theorem plainText_inj {address address' : Ipv6} (hlength : address.words.length = 8)
    (hlength' : address'.words.length = 8) (h : address.plainText = address'.plainText) :
    address = address' := by
  have hne : ∀ {address : Ipv6}, address.words.length = 8 → address.words ≠ [] := by
    intro address hlength hnil
    rw [hnil] at hlength
    cases hlength
  have hpieces := congrArg (fun text => splitChars ':' text.toList) h
  have hwords : address.words = address'.words := by
    obtain hplain | ⟨head, zeros, tail, hwords, hplain⟩ := plainText_cases address
    · obtain hplain' | ⟨head', zeros', tail', hwords', hplain'⟩ := plainText_cases address'
      · simp only [hplain, hplain', splitChars_joined] at hpieces
        exact piecesOf_injective hpieces
      · simp only [hplain, hplain', splitChars_joined, splitChars_joined_joined] at hpieces
        exact absurd (hpieces ▸ List.mem_append_right _ List.mem_cons_self)
          (not_mem_piecesOf (hne hlength))
    · obtain hplain' | ⟨head', zeros', tail', hwords', hplain'⟩ := plainText_cases address'
      · simp only [hplain, hplain', splitChars_joined, splitChars_joined_joined] at hpieces
        exact absurd (hpieces ▸ List.mem_append_right _ List.mem_cons_self)
          (not_mem_piecesOf (hne hlength'))
      · simp only [hplain, hplain', splitChars_joined_joined] at hpieces
        obtain ⟨rfl, rfl⟩ := piecesOf_append_inj hpieces
        have hzeros : zeros = zeros' := by
          rw [hwords] at hlength
          rw [hwords'] at hlength'
          simp only [List.length_append, List.length_replicate] at hlength hlength'
          omega
        rw [hwords, hwords', hzeros]
  cases address
  cases address'
  exact congrArg mk hwords

end NatGateway.Net.Ipv6
