import Playstation.Hex

/-!
# Numbers and words in a text

The digits of a number are read back as the number, also with zeros in front of
them. A text has separators in it, which are blanks, commas and brackets, and
falls into words there. Where two texts are put together with a separator between
them, the words of both come one after the other.
-/

namespace Playstation

section Digits

variable {base n : Nat}

/-- A digit is read as what it is written for. -/
theorem hexDigit?_digitChar (h : n < 16) : hexDigit? n.digitChar = some n := by
  decide +revert

/-- What holds of every digit of a base holds of the digits of a number. -/
theorem forall_mem_toDigits {p : Char → Prop} (hbase : 1 < base)
    (hdigit : ∀ digit < base, p digit.digitChar) (n : Nat) : ∀ c ∈ Nat.toDigits base n, p c := by
  induction n using Nat.strongRecOn with
  | ind n ih =>
    rw [Nat.toDigits_eq_if hbase]
    split
    · next hsmall => simpa using hdigit n hsmall
    · next hlarge =>
      rw [List.forall_mem_append]
      have hless : n / base < n := Nat.div_lt_self (by omega) hbase
      exact ⟨ih _ hless, by simpa using hdigit _ (Nat.mod_lt _ (by omega))⟩

/-- One more digit. -/
theorem ofDigits_concat (base : Nat) (digits : List Char) (c : Char) :
    ofDigits base (digits ++ [c]) = base * ofDigits base digits + (hexDigit? c).getD 0 :=
  List.foldl_append

/-- The digits of a number are read as the number. -/
theorem ofDigits_toDigits (hbase : 1 < base) (hlimit : base ≤ 16) (n : Nat) :
    ofDigits base (Nat.toDigits base n) = n := by
  induction n using Nat.strongRecOn with
  | ind n ih =>
    rw [Nat.toDigits_eq_if hbase]
    split
    · next hsmall =>
      rw [← List.nil_append [n.digitChar], ofDigits_concat,
        hexDigit?_digitChar (Nat.lt_of_lt_of_le hsmall hlimit)]
      exact Nat.zero_add n
    · next hlarge =>
      have hless : n / base < n := Nat.div_lt_self (by omega) hbase
      have hdigit : n % base < 16 := Nat.lt_of_lt_of_le (Nat.mod_lt _ (by omega)) hlimit
      rw [ofDigits_concat, ih _ hless, hexDigit?_digitChar hdigit]
      exact Nat.div_add_mod n base

/-- Zeros in front of the digits make no difference. -/
theorem ofDigits_leftpad (base count : Nat) (digits : List Char) :
    ofDigits base (digits.leftpad count '0') = ofDigits base digits := by
  rw [List.leftpad]
  induction count - digits.length with
  | zero => rfl
  | succ zeros ih => exact ih

/-- A number is read back from its text. -/
theorem ofDigits_hex (count n : Nat) : ofDigits 16 (hex count n).toList = n := by
  rw [hex, String.toList_ofList, ofDigits_leftpad, ofDigits_toDigits (by decide) (by decide)]

/-- It is read back from behind the mark. -/
theorem ofDigits_hexMarked (count n : Nat) :
    ofDigits 16 ((hexMarked count n).toList.drop 2) = n := by
  have hmark : (hexMarked count n).toList = ['0', 'x'] ++ (hex count n).toList :=
    String.toList_append
  rw [hmark]
  exact ofDigits_hex count n

/-- A number is read back from its decimal text. -/
theorem ofDigits_toString (n : Nat) : ofDigits 10 (toString n).toList = n := by
  rw [Nat.toString_eq_ofList_toDigits, String.toList_ofList,
    ofDigits_toDigits (by decide) (by decide)]

end Digits

/-- What stands between words. -/
def isSeparator (c : Char) : Bool := c == ' ' || c == ',' || c == '(' || c == ')'

/-- The words which characters fall into. -/
def charWords (chars : List Char) : List (List Char) :=
  (chars.splitOnP isSeparator).filter (· ≠ [])

/-- The words of a text. -/
def words (text : String) : List String := (charWords text.toList).map String.ofList

/-- A text is a single word. -/
def IsWord (text : String) : Prop :=
  text.toList ≠ [] ∧ ∀ c ∈ text.toList, isSeparator c = false

instance (text : String) : Decidable (IsWord text) :=
  decidable_of_iff (text.toList ≠ [] ∧ text.toList.all (!isSeparator ·) = true) (by simp [IsWord])

section Words

variable {text other : String}

/-- At a separator the words of one part end and those of the next begin. -/
theorem charWords_append_cons (xs ys : List Char) {c : Char} (hc : isSeparator c = true) :
    charWords (xs ++ c :: ys) = charWords xs ++ charWords ys := by
  rw [charWords, List.splitOnP_append_cons xs ys hc, List.filter_append]
  rfl

/-- Two words put together make one. -/
theorem isWord_append (h : IsWord text) (hother : IsWord other) : IsWord (text ++ other) := by
  rw [IsWord, String.toList_append]
  exact ⟨List.append_ne_nil_of_left_ne_nil h.1 _, List.forall_mem_append.mpr ⟨h.2, hother.2⟩⟩

/-- The digits of a number make a word. -/
theorem isWord_hex (count n : Nat) : IsWord (hex count n) := by
  have hdigits : ∀ c ∈ Nat.toDigits 16 n, isSeparator c = false :=
    forall_mem_toDigits (by decide) (by decide) n
  rw [IsWord, hex, String.toList_ofList, List.leftpad]
  refine ⟨List.append_ne_nil_of_right_ne_nil _ Nat.toDigits_ne_nil, ?_⟩
  rw [List.forall_mem_append]
  refine ⟨fun c hc => ?_, hdigits⟩
  rw [List.eq_of_mem_replicate hc]
  rfl

/-- So they do with the mark in front of them. -/
theorem isWord_hexMarked (count n : Nat) : IsWord (hexMarked count n) :=
  isWord_append (by decide) (isWord_hex count n)

/-- The decimal digits make a word. -/
theorem isWord_toString (n : Nat) : IsWord (toString n) := by
  rw [IsWord, Nat.toString_eq_ofList_toDigits, String.toList_ofList]
  exact ⟨Nat.toDigits_ne_nil, forall_mem_toDigits (by decide) (by decide) n⟩

/-- A word is the only one of its text. -/
theorem words_of_isWord (h : IsWord text) : words text = [text] := by
  have hchars : charWords text.toList = [text.toList] := by
    rw [charWords, List.splitOnP_eq_singleton h.2]
    exact List.filter_cons_of_pos (by simpa using h.1)
  rw [words, hchars, List.map_singleton, String.ofList_toList]

/-- Two texts with a blank between them. -/
theorem words_append_blank (text other : String) :
    words (text ++ " " ++ other) = words text ++ words other := by
  have hchars : (text ++ " " ++ other).toList = text.toList ++ ' ' :: other.toList := by simp
  rw [words, hchars, charWords_append_cons _ _ rfl, List.map_append]
  rfl

/-- Two texts with a comma and a blank between them. -/
theorem words_append_comma (text other : String) :
    words (text ++ ", " ++ other) = words text ++ words other := by
  have hchars : (text ++ ", " ++ other).toList =
      text.toList ++ ',' :: ([] ++ ' ' :: other.toList) := by simp
  rw [words, hchars, charWords_append_cons _ _ rfl, charWords_append_cons _ _ rfl, List.map_append]
  rfl

/-- Two texts, the second of them in brackets. -/
theorem words_append_brackets (text other : String) :
    words (text ++ "(" ++ other ++ ")") = words text ++ words other := by
  have hchars : (text ++ "(" ++ other ++ ")").toList =
      text.toList ++ '(' :: (other.toList ++ ')' :: []) := by simp
  rw [words, hchars, charWords_append_cons _ _ rfl, charWords_append_cons _ _ rfl, List.map_append,
    List.map_append]
  exact congrArg _ (List.append_nil _)

/-- Any number of texts with commas and blanks between them. -/
theorem words_intercalate (texts : List String) :
    words (", ".intercalate texts) = texts.flatMap words := by
  induction texts with
  | nil => rfl
  | cons first rest ih =>
    cases rest with
    | nil => simp
    | cons second rest =>
      rw [String.intercalate_cons_cons, words_append_comma, ih]
      rfl

end Words

end Playstation
