import MevShare.Library.Digits
import MevShare.Library.JsonText

/-!
# Compact JSON text

A writer and a parser of JSON as characters.  The writer leaves no blanks, and escapes in a
string what has to be escaped and nothing else.  The parser is a recursive descent that
counts how many arrays and objects it may still enter; at none left, the next bracket is an
error.  `JsonText.compact_lawful` is the result: together they are a `JsonText` as `serde_json` is
assumed to be one.

The parser reads what the writer writes.  Of the rest of JSON it leaves out blanks, numbers
with a fraction or an exponent, and pairs of surrogates.

The recursion is on the levels that are left, and so is the induction of
`readValue_write`.  Elements of an array and members of an object are both lists in
brackets with commas between them, and `readItems_items` is about these, for any parser of
items.
-/

namespace MevShare
namespace Serde

variable {α β : Type}

namespace Compact

/-! ## Characters -/

def quote : Char := Char.ofNat 34
def backslash : Char := Char.ofNat 92
def openBracket : Char := Char.ofNat 91
def closeBracket : Char := Char.ofNat 93
def openBrace : Char := Char.ofNat 123
def closeBrace : Char := Char.ofNat 125
def comma : Char := Char.ofNat 44
def colon : Char := Char.ofNat 58
def minus : Char := Char.ofNat 45

/-- The characters that are escaped with a letter, and their letters. -/
def shortEscapes : List (Char × Char) :=
  [(quote, quote), (backslash, backslash), (Char.ofNat 8, 'b'), (Char.ofNat 12, 'f'),
    (Char.ofNat 10, 'n'), (Char.ofNat 13, 'r'), (Char.ofNat 9, 't')]

/-! ## Writing -/

/-- A character in a string. -/
def escape (c : Char) : List Char :=
  match shortEscapes.lookup c with
  | some letter => [backslash, letter]
  | none => if c.toNat < 32 then backslash :: 'u' :: Digits.padded 16 4 c.toNat else [c]

def writeString (s : String) : List Char := quote :: (s.toList.flatMap escape ++ [quote])

/-- A number with a fraction is not written as one. -/
def writeNumber : Number → List Char
  | .posInt n => Digits.text 10 n.toNat
  | .negInt i => minus :: Digits.text 10 i.toInt.natAbs
  | .float _ => ['n', 'u', 'l', 'l']

mutual

def write : Json → List Char
  | .null => ['n', 'u', 'l', 'l']
  | .bool true => ['t', 'r', 'u', 'e']
  | .bool false => ['f', 'a', 'l', 's', 'e']
  | .number x => writeNumber x
  | .string s => writeString s
  | .array l => openBracket :: writeElements l
  | .object o => openBrace :: writeMembers o

/-- Elements, up to the bracket. -/
def writeElements : List Json → List Char
  | [] => [closeBracket]
  | j :: l => write j ++ writeMoreElements l

def writeMoreElements : List Json → List Char
  | [] => [closeBracket]
  | j :: l => comma :: (write j ++ writeMoreElements l)

def writeMembers : List (String × Json) → List Char
  | [] => [closeBrace]
  | (name, j) :: o => writeString name ++ colon :: write j ++ writeMoreMembers o

def writeMoreMembers : List (String × Json) → List Char
  | [] => [closeBrace]
  | (name, j) :: o => comma :: (writeString name ++ colon :: write j ++ writeMoreMembers o)

end

/-! ## Reading -/

/-- What is read from the front of a text, and the rest of it. -/
abbrev Parser (α : Type) := List Char → Except DeError (α × List Char)

def endOfText : DeError := .custom "EOF while parsing"

def recursionLimit : DeError := .custom "recursion limit exceeded"

/-- The four digits of a character. -/
def readHex : Parser (Option Char) := fun cs =>
  match Digits.value 16 (cs.take 4) with
  | some n =>
      if (cs.take 4).length = 4 ∧ n.isValidChar then .ok (some (Char.ofNat n), cs.drop 4)
      else .error (.custom "invalid unicode code point")
  | none => .error (.custom "invalid escape")

/-- A character of a string, or its end. -/
def readChar : Parser (Option Char)
  | [] => .error endOfText
  | c :: cs =>
      if c = quote then .ok (none, cs)
      else if c = backslash then
        match cs with
        | [] => .error endOfText
        | letter :: cs =>
            if letter = 'u' then readHex cs
            else
              match (shortEscapes.map Prod.swap).lookup letter with
              | some c => .ok (some c, cs)
              | none => .error (.custom "invalid escape")
      else if c.toNat < 32 then .error (.custom "control character")
      else .ok (some c, cs)

/-- The characters up to the end of a string, of which there are less than `fuel`. -/
def readChars : ℕ → Parser (List Char)
  | 0, _ => .error endOfText
  | fuel + 1, cs =>
      match readChar cs with
      | .error err => .error err
      | .ok (none, cs) => .ok ([], cs)
      | .ok (some c, cs) =>
          match readChars fuel cs with
          | .error err => .error err
          | .ok (s, cs) => .ok (c :: s, cs)

/-- A string, after its first quote. -/
def readString : Parser String := fun cs =>
  match readChars cs.length cs with
  | .error err => .error err
  | .ok (s, cs) => .ok (String.ofList s, cs)

/-- The digits of a number. -/
def readNumber (negative : Bool) : Parser Json := fun cs =>
  match Digits.value 10 (cs.takeWhile Char.isDigit) with
  | none => .error (.custom "invalid number")
  | some n =>
      if negative then
        if 0 < n ∧ n ≤ 2 ^ 63 then
          .ok (.number (.negInt (Int64.ofInt (-n))), cs.dropWhile Char.isDigit)
        else .error (.custom "number out of range")
      else if n < UInt64.size then
        .ok (.number (.posInt (UInt64.ofNat n)), cs.dropWhile Char.isDigit)
      else .error (.custom "number out of range")

def readLiteral : Parser Json
  | 'n' :: 'u' :: 'l' :: 'l' :: cs => .ok (.null, cs)
  | 't' :: 'r' :: 'u' :: 'e' :: cs => .ok (.bool true, cs)
  | 'f' :: 'a' :: 'l' :: 's' :: 'e' :: cs => .ok (.bool false, cs)
  | _ => .error (.custom "expected value")

/-- Items with commas between them, up to a bracket; there are no more than `fuel`. -/
def readItems (item : Parser α) (close : Char) : ℕ → Parser (List α)
  | 0, _ => .error endOfText
  | fuel + 1, cs =>
      match item cs with
      | .error err => .error err
      | .ok (_, []) => .error endOfText
      | .ok (a, c :: cs) =>
          if c = comma then
            match readItems item close fuel cs with
            | .error err => .error err
            | .ok (as, cs) => .ok (a :: as, cs)
          else if c = close then .ok ([a], cs)
          else .error (.custom "expected comma or bracket")

/-- A list of items, after its first bracket. -/
def readSequence (item : Parser α) (close : Char) : Parser (List α)
  | [] => .error endOfText
  | c :: cs => if c = close then .ok ([], cs) else readItems item close (c :: cs).length (c :: cs)

/-- A member of an object. -/
def readMember (value : Parser Json) : Parser (String × Json)
  | [] => .error endOfText
  | c :: cs =>
      if c = quote then
        match readString cs with
        | .error err => .error err
        | .ok (_, []) => .error endOfText
        | .ok (name, c :: cs) =>
            if c = colon then
              match value cs with
              | .error err => .error err
              | .ok (j, cs) => .ok ((name, j), cs)
            else .error (.custom "expected colon")
      else .error (.custom "key must be a string")

def readStringValue : Parser Json := fun cs =>
  match readString cs with
  | .error err => .error err
  | .ok (s, cs) => .ok (.string s, cs)

def readArray (value : Parser Json) : Parser Json := fun cs =>
  match readSequence value closeBracket cs with
  | .error err => .error err
  | .ok (l, cs) => .ok (.array l, cs)

def readObject (value : Parser Json) : Parser Json := fun cs =>
  match readSequence (readMember value) closeBrace cs with
  | .error err => .error err
  | .ok (o, cs) => .ok (.object o, cs)

/-- Going into a bracket, with the parser of the values in it; there is none where no level is
left. -/
def enter (value : Option (Parser Json)) (inside : Parser Json → Parser Json) : Parser Json :=
  match value with
  | none => fun _ => .error recursionLimit
  | some value => inside value

/-- A value, with the parser of the values in it. -/
def readWith (value : Option (Parser Json)) : Parser Json
  | [] => .error endOfText
  | c :: cs =>
      if c.isDigit then readNumber false (c :: cs)
      else if c = minus then readNumber true cs
      else if c = quote then readStringValue cs
      else if c = openBracket then enter value readArray cs
      else if c = openBrace then enter value readObject cs
      else readLiteral (c :: cs)

/-- A value of at most so many levels. -/
def readValue : ℕ → Parser Json
  | 0 => readWith none
  | levels + 1 => readWith (some (readValue levels))

/-- A whole text. -/
def read (cs : List Char) : Except DeError Json :=
  match readValue JsonText.maxLevels cs with
  | .error err => .error err
  | .ok (j, []) => .ok j
  | .ok (_, _ :: _) => .error (.custom "trailing characters")

/-! ## Reading what was written -/

/-- A text with something in it for each element of a list is no shorter than the list. -/
theorem length_le_flatMap {text : α → List β} (h : ∀ a, 0 < (text a).length) (l : List α) :
    l.length ≤ (l.flatMap text).length := by
  have hone : ∀ n ∈ l.map fun a => (text a).length, 1 ≤ n := by
    intro n hn
    obtain ⟨a, -, rfl⟩ := List.mem_map.mp hn
    exact h a
  calc l.length = (l.map fun a => (text a).length).length := (List.length_map _).symm
    _ ≤ (l.map fun a => (text a).length).sum := List.length_le_sum_of_one_le _ hone
    _ = (l.flatMap text).length := List.length_flatMap.symm

/-! ### Strings -/

theorem readHex_padded {c : Char} (hc : c.toNat < 32) (cs : List Char) :
    readHex (Digits.padded 16 4 c.toNat ++ cs) = .ok (some c, cs) := by
  have hlength : (Digits.padded 16 4 c.toNat).length = 4 :=
    Digits.length_padded (by decide) (by omega)
  have hvalue : Digits.value 16 (Digits.padded 16 4 c.toNat) = some c.toNat :=
    Digits.value_padded (by decide) (Nat.le_refl 16) (by decide) _
  have hvalid : c.toNat.isValidChar := c.valid
  rw [readHex, List.take_left' hlength, List.drop_left' hlength, hvalue]
  simp only [if_pos (And.intro hlength hvalid), Char.ofNat_toNat]

/-- **A character** is read as it was, escaped or not. -/
theorem readChar_escape (c : Char) (cs : List Char) :
    readChar (escape c ++ cs) = .ok (some c, cs) := by
  rw [escape]
  rcases hlookup : shortEscapes.lookup c with _ | letter
  · have hnot := List.lookup_eq_none_iff.mp hlookup
    have hquote : c ≠ quote := by
      have hmem := hnot (quote, quote) (by decide)
      simpa using hmem
    have hbackslash : c ≠ backslash := by
      have hmem := hnot (backslash, backslash) (by decide)
      simpa using hmem
    by_cases hcontrol : c.toNat < 32
    · simp only [if_pos hcontrol]
      exact readHex_padded hcontrol cs
    · simp only [if_neg hcontrol, List.singleton_append, readChar, if_neg hquote,
        if_neg hbackslash]
  · obtain ⟨pre, post, hsplit, -⟩ := List.lookup_eq_some_iff.mp hlookup
    have hmem : (c, letter) ∈ shortEscapes := by
      rw [hsplit]
      exact List.mem_append_right _ List.mem_cons_self
    simp only [shortEscapes, List.mem_cons, Prod.mk.injEq, List.not_mem_nil, or_false] at hmem
    rcases hmem with ⟨rfl, rfl⟩ | ⟨rfl, rfl⟩ | ⟨rfl, rfl⟩ | ⟨rfl, rfl⟩ | ⟨rfl, rfl⟩ | ⟨rfl, rfl⟩ |
      ⟨rfl, rfl⟩ <;> rfl

theorem length_escape_pos (c : Char) : 0 < (escape c).length := by
  rw [escape]
  rcases shortEscapes.lookup c with _ | letter
  · by_cases hcontrol : c.toNat < 32
    · simp only [if_pos hcontrol, List.length_cons, Nat.zero_lt_succ]
    · simp only [if_neg hcontrol, List.length_singleton, Nat.zero_lt_one]
  · exact Nat.zero_lt_succ _

theorem readChars_escapes {s : List Char} {fuel : ℕ} (hfuel : s.length < fuel) (cs : List Char) :
    readChars fuel (s.flatMap escape ++ quote :: cs) = .ok (s, cs) := by
  induction s generalizing fuel with
  | nil =>
    obtain ⟨fuel, rfl⟩ := Nat.exists_eq_succ_of_ne_zero (Nat.ne_of_gt hfuel)
    rfl
  | cons c s ih =>
    obtain ⟨fuel, rfl⟩ := Nat.exists_eq_succ_of_ne_zero (Nat.ne_of_gt (Nat.zero_lt_of_lt hfuel))
    rw [List.length_cons] at hfuel
    rw [List.flatMap_cons, List.append_assoc, readChars, readChar_escape]
    simp only [ih (Nat.lt_of_succ_lt_succ hfuel)]

/-- **A string** is read as it was. -/
theorem readString_escapes (s : String) (cs : List Char) :
    readString (s.toList.flatMap escape ++ quote :: cs) = .ok (s, cs) := by
  have hfuel : s.toList.length < (s.toList.flatMap escape ++ quote :: cs).length := by
    have hle := length_le_flatMap length_escape_pos s.toList
    rw [List.length_append, List.length_cons]
    omega
  rw [readString, readChars_escapes hfuel]
  simp only [String.ofList_toList]

/-! ### Numbers -/

/-- A number ends here. -/
def Ends (cs : List Char) : Prop := ∀ c ∈ cs.head?, c.isDigit = false

theorem ends_cons {c : Char} (hc : c.isDigit = false) (cs : List Char) : Ends (c :: cs) := by
  intro c' hc'
  rw [← Option.some.inj hc']
  exact hc

theorem isDigit_of_mem_text {n : ℕ} {c : Char} (hc : c ∈ Digits.text 10 n) :
    c.isDigit = true := by
  have hall : ∀ d < 10, d.digitChar.isDigit = true := by decide
  rw [Digits.text] at hc
  by_cases hn : n = 0
  · rw [if_pos hn, List.mem_singleton] at hc
    rw [hc]
    rfl
  · rw [if_neg hn] at hc
    obtain ⟨d, hd, rfl⟩ := List.mem_map.mp hc
    exact hall d (Nat.digits_lt_base (by decide) (List.mem_reverse.mp hd))

/-- The digits are those of the number. -/
theorem span_text (n : ℕ) {cs : List Char} (hcs : Ends cs) :
    (Digits.text 10 n ++ cs).takeWhile Char.isDigit = Digits.text 10 n ∧
      (Digits.text 10 n ++ cs).dropWhile Char.isDigit = cs := by
  have hdigits : ∀ c ∈ Digits.text 10 n, c.isDigit = true := fun c => isDigit_of_mem_text
  rw [List.takeWhile_append_of_pos hdigits, List.dropWhile_append_of_pos hdigits]
  rcases cs with _ | ⟨c, cs⟩
  · exact ⟨List.append_nil _, rfl⟩
  · have hc : ¬ c.isDigit = true := by
      rw [hcs c rfl]
      exact Bool.false_ne_true
    rw [List.takeWhile_cons_of_neg hc, List.dropWhile_cons_of_neg hc]
    exact ⟨List.append_nil _, rfl⟩

theorem readNumber_posInt (n : UInt64) {cs : List Char} (hcs : Ends cs) :
    readNumber false (Digits.text 10 n.toNat ++ cs) = .ok (.number (.posInt n), cs) := by
  obtain ⟨htake, hdrop⟩ := span_text n.toNat hcs
  rw [readNumber, htake, hdrop, Digits.value_text (by decide) (by decide)]
  simp only [Bool.false_eq_true, if_false, if_pos n.toNat_lt_size, UInt64.ofNat_toNat]

theorem readNumber_negInt {i : Int64} (hi : i < 0) {cs : List Char} (hcs : Ends cs) :
    readNumber true (Digits.text 10 i.toInt.natAbs ++ cs) = .ok (.number (.negInt i), cs) := by
  obtain ⟨htake, hdrop⟩ := span_text i.toInt.natAbs hcs
  have hneg : i.toInt < 0 := Int64.lt_iff_toInt_lt.mp hi
  have hle := i.le_toInt
  have hrange : 0 < i.toInt.natAbs ∧ i.toInt.natAbs ≤ 2 ^ 63 := by omega
  have habs : -(i.toInt.natAbs : Int) = i.toInt := by omega
  rw [readNumber, htake, hdrop, Digits.value_text (by decide) (by decide)]
  simp only [if_true, if_pos hrange, habs, Int64.ofInt_toInt]

/-! ### Lists of items -/

/-- Items after the first, each with a comma before it, and the bracket. -/
def moreItems (item : α → List Char) (close : Char) (l : List α) : List Char :=
  l.flatMap (fun a => comma :: item a) ++ [close]

/-- Items up to the bracket. -/
def items (item : α → List Char) (close : Char) : List α → List Char
  | [] => [close]
  | a :: l => item a ++ moreItems item close l

section Items

variable {item : Parser α} {text : α → List Char} {fits : α → Bool} {close : Char}
  {err : DeError}

theorem moreItems_ends (hdigit : close.isDigit = false) (l : List α) (cs : List Char) :
    Ends (moreItems text close l ++ cs) := by
  rcases l with _ | ⟨a, l⟩
  · exact ends_cons hdigit cs
  · exact ends_cons (c := comma) (by decide) _

/-- **Items are read** if all of them are; otherwise the error is that of the first that is
not. -/
theorem readItems_items (hcomma : close ≠ comma) (hdigit : close.isDigit = false) {a : α}
    {l : List α} {fuel : ℕ} (hfuel : l.length < fuel)
    (h : ∀ b ∈ a :: l, ∀ cs, Ends cs →
      item (text b ++ cs) = if fits b then .ok (b, cs) else .error err) (cs : List Char) :
    readItems item close fuel (text a ++ moreItems text close l ++ cs) =
      if (a :: l).all fits then .ok (a :: l, cs) else .error err := by
  induction l generalizing a fuel with
  | nil =>
    obtain ⟨fuel, rfl⟩ := Nat.exists_eq_succ_of_ne_zero (Nat.ne_of_gt hfuel)
    rw [List.append_assoc, readItems, h a List.mem_cons_self _ (moreItems_ends hdigit [] cs)]
    rcases hfits : fits a with _ | _
    · simp [hfits]
    · simp [hfits, moreItems, hcomma]
  | cons b l ih =>
    obtain ⟨fuel, rfl⟩ := Nat.exists_eq_succ_of_ne_zero (Nat.ne_of_gt (Nat.zero_lt_of_lt hfuel))
    rw [List.length_cons] at hfuel
    have hrest := ih (Nat.lt_of_succ_lt_succ hfuel) fun c hc => h c (List.mem_cons_of_mem a hc)
    have hmore : moreItems text close (b :: l) ++ cs =
        comma :: (text b ++ moreItems text close l ++ cs) := by
      simp only [moreItems, List.flatMap_cons, List.cons_append, List.append_assoc]
    rw [List.append_assoc, readItems, h a List.mem_cons_self _ (moreItems_ends hdigit (b :: l) cs),
      hmore]
    rcases hfits : fits a with _ | _
    · simp [hfits]
    · by_cases hall : (b :: l).all fits = true
      · have hall' : (a :: b :: l).all fits = true := by
          rw [List.all_cons, hfits, hall, Bool.true_and]
        simp only [if_true, hrest, if_pos hall, if_pos hall']
      · have hall' : ¬ (a :: b :: l).all fits = true := by
          rw [List.all_cons, hfits, Bool.true_and]
          exact hall
        simp only [if_true, hrest, if_neg hall, if_neg hall']

/-- **A list in brackets.**  No item begins with the bracket that ends the list. -/
theorem readSequence_items (hcomma : close ≠ comma) (hdigit : close.isDigit = false) {l : List α}
    (hfirst : ∀ a ∈ l, ∃ c cs, text a = c :: cs ∧ c ≠ close)
    (h : ∀ a ∈ l, ∀ cs, Ends cs →
      item (text a ++ cs) = if fits a then .ok (a, cs) else .error err) (cs : List Char) :
    readSequence item close (items text close l ++ cs) =
      if l.all fits then .ok (l, cs) else .error err := by
  rcases l with _ | ⟨a, l⟩
  · simp [items, readSequence]
  · obtain ⟨c, rest, htext, hne⟩ := hfirst a List.mem_cons_self
    have hcons : items text close (a :: l) ++ cs =
        c :: (rest ++ moreItems text close l ++ cs) := by
      rw [items, htext, List.cons_append, List.cons_append]
    have hfuel : l.length < (c :: (rest ++ moreItems text close l ++ cs)).length := by
      have hpos : ∀ a, 0 < (comma :: text a).length := fun a => Nat.zero_lt_succ (text a).length
      have hle := length_le_flatMap hpos l
      simp only [moreItems, List.length_cons, List.length_append]
      omega
    rw [hcons, readSequence, if_neg hne]
    have hitems := readItems_items hcomma hdigit hfuel h cs
    rw [htext] at hitems
    exact hitems

end Items

theorem writeElements_eq (l : List Json) : writeElements l = items write closeBracket l := by
  have hmore : ∀ l, writeMoreElements l = moreItems write closeBracket l := by
    intro l
    induction l with
    | nil => rfl
    | cons j l ih =>
      rw [writeMoreElements, ih]
      simp only [moreItems, List.flatMap_cons, List.cons_append, List.append_assoc]
  rcases l with _ | ⟨j, l⟩
  · rfl
  · rw [writeElements, hmore, items]

def writeMember (x : String × Json) : List Char := writeString x.1 ++ colon :: write x.2

theorem writeMembers_eq (o : List (String × Json)) :
    writeMembers o = items writeMember closeBrace o := by
  have hmore : ∀ o, writeMoreMembers o = moreItems writeMember closeBrace o := by
    intro o
    induction o with
    | nil => rfl
    | cons x o ih =>
      rw [writeMoreMembers, ih]
      simp only [moreItems, writeMember, List.flatMap_cons, List.cons_append, List.append_assoc]
  rcases o with _ | ⟨x, o⟩
  · rfl
  · rw [writeMembers, hmore, items, writeMember]

/-! ### Values -/

/-- The first character of a number. -/
theorem text_cons (n : ℕ) : ∃ c cs, Digits.text 10 n = c :: cs ∧ c.isDigit = true := by
  rcases htext : Digits.text 10 n with _ | ⟨c, cs⟩
  · have hvalue : Digits.value 10 (Digits.text 10 n) = some n :=
      Digits.value_text (by decide) (by decide) n
    rw [htext] at hvalue
    cases hvalue
  · exact ⟨c, cs, rfl, isDigit_of_mem_text (htext ▸ List.mem_cons_self)⟩

/-- No value begins with a bracket that ends one. -/
theorem write_cons (j : Json) : ∃ c cs, write j = c :: cs ∧ c ≠ closeBracket := by
  rcases j with _ | (_ | _) | (n | i | bits) | s | l | o
  · exact ⟨_, _, rfl, by decide⟩
  · exact ⟨_, _, rfl, by decide⟩
  · exact ⟨_, _, rfl, by decide⟩
  · obtain ⟨c, cs, htext, hc⟩ := text_cons n.toNat
    refine ⟨c, cs, htext, ?_⟩
    rintro rfl
    cases hc
  · exact ⟨_, _, rfl, by decide⟩
  · exact ⟨_, _, rfl, by decide⟩
  · exact ⟨_, _, rfl, by decide⟩
  · exact ⟨_, _, rfl, by decide⟩
  · exact ⟨_, _, rfl, by decide⟩

theorem readMember_writeMember {value : Parser Json} {x : String × Json} {fits : Json → Bool}
    {err : DeError} (cs : List Char)
    (h : value (write x.2 ++ cs) = if fits x.2 then .ok (x.2, cs) else .error err) :
    readMember value (writeMember x ++ cs) = if fits x.2 then .ok (x, cs) else .error err := by
  have htext : writeMember x ++ cs =
      quote :: (x.1.toList.flatMap escape ++ quote :: (colon :: (write x.2 ++ cs))) := by
    simp only [writeMember, writeString, List.cons_append, List.append_assoc, List.nil_append]
  rw [htext, readMember, if_pos rfl, readString_escapes]
  simp only [if_true, h]
  rcases fits x.2 with _ | _ <;> simp

/-- Strings, numbers and words are read at any level. -/
theorem readWith_scalar {value : Option (Parser Json)} {j : Json} (hj : j.whole = true)
    (hlevels : j.levels = 0) {cs : List Char} (hcs : Ends cs) :
    readWith value (write j ++ cs) = .ok (j, cs) := by
  rcases j with _ | (_ | _) | (n | i | bits) | s | l | o
  · rfl
  · rfl
  · rfl
  · obtain ⟨c, cs', htext, hc⟩ := text_cons n.toNat
    have hcons : write (.number (.posInt n)) ++ cs = c :: (cs' ++ cs) := by
      rw [write, writeNumber, htext, List.cons_append]
    rw [hcons, readWith, if_pos hc, ← List.cons_append, ← htext]
    exact readNumber_posInt n hcs
  · have hi : i < 0 := of_decide_eq_true hj
    exact readNumber_negInt hi hcs
  · cases hj
  · have htext : write (.string s) ++ cs = quote :: (s.toList.flatMap escape ++ quote :: cs) := by
      simp only [write, writeString, List.cons_append, List.append_assoc, List.nil_append]
    rw [htext, readWith, if_neg (by decide), if_neg (by decide), if_pos rfl, readStringValue,
      readString_escapes]
  · cases hlevels
  · cases hlevels

theorem readWith_array (value : Option (Parser Json)) (l : List Json) (cs : List Char) :
    readWith value (write (.array l) ++ cs) =
      enter value readArray (items write closeBracket l ++ cs) := by
  rw [write, List.cons_append, readWith, if_neg (by decide), if_neg (by decide),
    if_neg (by decide), if_pos rfl, writeElements_eq]

theorem readWith_object (value : Option (Parser Json)) (o : List (String × Json))
    (cs : List Char) :
    readWith value (write (.object o) ++ cs) =
      enter value readObject (items writeMember closeBrace o ++ cs) := by
  rw [write, List.cons_append, readWith, if_neg (by decide), if_neg (by decide),
    if_neg (by decide), if_neg (by decide), if_pos rfl, writeMembers_eq]

section Inside

variable {value : Parser Json} (fits : Json → Bool)

/-- **An array** is read if its elements are. -/
theorem readArray_items {l : List Json}
    (h : ∀ j ∈ l, ∀ cs, Ends cs →
      value (write j ++ cs) = if fits j then .ok (j, cs) else .error recursionLimit)
    (cs : List Char) :
    readArray value (items write closeBracket l ++ cs) =
      if l.all fits then .ok (.array l, cs) else .error recursionLimit := by
  have hread : readSequence value closeBracket (items write closeBracket l ++ cs) =
      if l.all fits then .ok (l, cs) else .error recursionLimit :=
    readSequence_items (by decide) (by decide) (fun j _ => write_cons j) h cs
  rw [readArray, hread]
  by_cases hall : l.all fits = true
  · simp only [if_pos hall]
  · simp only [if_neg hall]

/-- **An object** is read if the values of its members are. -/
theorem readObject_items {o : List (String × Json)}
    (h : ∀ x ∈ o, ∀ cs, Ends cs →
      value (write x.2 ++ cs) = if fits x.2 then .ok (x.2, cs) else .error recursionLimit)
    (cs : List Char) :
    readObject value (items writeMember closeBrace o ++ cs) =
      if o.all (fun x => fits x.2) then .ok (.object o, cs) else .error recursionLimit := by
  have hread : readSequence (readMember value) closeBrace (items writeMember closeBrace o ++ cs) =
      if o.all (fun x => fits x.2) then .ok (o, cs) else .error recursionLimit :=
    readSequence_items (by decide) (by decide) (fun x _ => ⟨quote, _, rfl, by decide⟩)
      (fun x hx cs hcs => readMember_writeMember cs (h x hx cs hcs)) cs
  rw [readObject, hread]
  by_cases hall : o.all (fun x => fits x.2) = true
  · simp only [if_pos hall]
  · simp only [if_neg hall]

end Inside

/-- **A value** is read from its text if it fits into the levels that are left. -/
theorem readValue_write (levels : ℕ) {j : Json} (hj : j.whole = true) {cs : List Char}
    (hcs : Ends cs) :
    readValue levels (write j ++ cs) =
      if decide (j.levels ≤ levels) then .ok (j, cs) else .error recursionLimit := by
  induction levels generalizing j cs with
  | zero =>
    rcases j with _ | b | x | s | l | o
    case array => exact readWith_array none l cs
    case object => exact readWith_object none o cs
    all_goals exact readWith_scalar hj rfl hcs
  | succ levels ih =>
    rcases j with _ | b | x | s | l | o
    case array =>
      have hall : l.all (fun j => decide (j.levels ≤ levels)) =
          decide ((Json.array l).levels ≤ levels + 1) := by
        rw [Bool.eq_iff_iff, List.all_eq_true, decide_eq_true_iff, Json.levels,
          Nat.succ_le_succ_iff, Json.levelsList_le]
        simp only [decide_eq_true_iff]
      rw [← hall]
      refine (readWith_array (some (readValue levels)) l cs).trans
        (readArray_items (fun j => decide (j.levels ≤ levels)) ?_ cs)
      exact fun j hmem cs hcs => ih (Json.wholeList_iff.mp hj j hmem) hcs
    case object =>
      have hall : o.all (fun x => decide (x.2.levels ≤ levels)) =
          decide ((Json.object o).levels ≤ levels + 1) := by
        rw [Bool.eq_iff_iff, List.all_eq_true, decide_eq_true_iff, Json.levels,
          Nat.succ_le_succ_iff, Json.levelsFields_le]
        simp only [decide_eq_true_iff]
      rw [← hall]
      refine (readWith_object (some (readValue levels)) o cs).trans
        (readObject_items (fun j => decide (j.levels ≤ levels)) ?_ cs)
      exact fun x hmem cs hcs => ih (Json.wholeFields_iff.mp hj x hmem) hcs
    all_goals exact readWith_scalar hj rfl hcs

theorem read_write {j : Json} (hj : j.whole = true) :
    read (write j) =
      if decide (j.levels ≤ JsonText.maxLevels) then .ok j else .error recursionLimit := by
  have hends : Ends [] := fun _ hc => by cases hc
  have hread := readValue_write JsonText.maxLevels hj hends
  rw [List.append_nil] at hread
  rw [read, hread]
  by_cases hlevels : j.levels ≤ JsonText.maxLevels
  · simp [hlevels]
  · simp [hlevels]

end Compact

/-- JSON without blanks. -/
def JsonText.compact : JsonText := ⟨List Char, Compact.write, Compact.read⟩

/-- **The writer and the parser** are as assumed. -/
theorem JsonText.compact_lawful : JsonText.compact.Lawful where
  reads j hj := by
    refine (Compact.read_write hj.whole).trans ?_
    rw [if_pos (decide_eq_true hj.levels)]
  refuses j hwhole hdeep := by
    refine ⟨Compact.recursionLimit, (Compact.read_write hwhole).trans ?_⟩
    rw [if_neg (by simpa using hdeep)]

end Serde
end MevShare
