/-!
White space, and the cuts of a text that rest on it: stripping, words and lines.
-/
namespace Formwork.Text

/-- White space of any script; the separators U+001C to U+001F count as well. -/
def isBlank (c : Char) : Bool :=
  let n := c.toNat
  (9 ≤ n && n ≤ 13) || (28 ≤ n && n ≤ 32) || n == 0x85 || n == 0xA0 || n == 0x1680 ||
    (0x2000 ≤ n && n ≤ 0x200A) || n == 0x2028 || n == 0x2029 || n == 0x202F || n == 0x205F ||
    n == 0x3000

theorem isBlank_of_isWhitespace {c : Char} (h : c.isWhitespace = true) : isBlank c = true := by
  simp only [Char.isWhitespace, Bool.or_eq_true, decide_eq_true_eq] at h
  rcases h with ((rfl | rfl) | rfl) | rfl <;> rfl

/-- White space of ASCII, without the separators U+001C to U+001F. -/
def isAsciiBlank (c : Char) : Bool :=
  let n := c.toNat
  (9 ≤ n && n ≤ 13) || n == 32

def stripLeft (cs : List Char) : List Char := cs.dropWhile isBlank

def stripRight (cs : List Char) : List Char := (cs.reverse.dropWhile isBlank).reverse

/-- The text without the white space around it. -/
def strip (cs : List Char) : List Char := stripRight (stripLeft cs)

/-- The runs of characters between white space; `word` is the run at hand, latest character first. -/
def wordsFrom (word : List Char) : List Char → List (List Char)
  | [] => if word.isEmpty then [] else [word.reverse]
  | c :: cs =>
    if isBlank c then
      if word.isEmpty then wordsFrom [] cs else word.reverse :: wordsFrom [] cs
    else wordsFrom (c :: word) cs

/-- The runs of characters between white space. -/
def words (cs : List Char) : List (List Char) := wordsFrom [] cs

theorem mem_wordsFrom (word : List Char) {cs w : List Char} (hword : ∀ c ∈ word, isBlank c = false)
    (h : w ∈ wordsFrom word cs) : w ≠ [] ∧ ∀ c ∈ w, isBlank c = false := by
  have own (word : List Char) (hword : ∀ c ∈ word, isBlank c = false) (hne : word ≠ []) :
      word.reverse ≠ [] ∧ ∀ c ∈ word.reverse, isBlank c = false :=
    ⟨by simpa using hne, fun c hc => hword c (by simpa using hc)⟩
  induction cs generalizing word with
  | nil =>
    by_cases hne : word = []
    · simp [wordsFrom, hne] at h
    · simp only [wordsFrom, List.isEmpty_iff, hne, if_false, List.mem_singleton] at h
      exact h ▸ own word hword hne
  | cons c cs ih =>
    by_cases hc : isBlank c = true
    · by_cases hne : word = []
      · exact ih [] (by simp) (by simpa [wordsFrom, hc, hne] using h)
      · simp only [wordsFrom, hc, if_true, List.isEmpty_iff, hne, if_false, List.mem_cons] at h
        rcases h with rfl | h
        · exact own word hword hne
        · exact ih [] (by simp) h
    · refine ih (c :: word) (fun d hd => ?_) (by simpa [wordsFrom, hc] using h)
      rcases List.mem_cons.1 hd with rfl | hd
      · simpa using hc
      · exact hword d hd

/-- A word is not empty and holds no white space. -/
theorem mem_words {cs w : List Char} (h : w ∈ words cs) : w ≠ [] ∧ ∀ c ∈ w, isBlank c = false :=
  mem_wordsFrom [] (by simp) h

/-- The pieces between the characters that `cut` picks; one more than there are cuts. -/
def pieces (cut : Char → Bool) : List Char → List (List Char)
  | [] => [[]]
  | c :: cs =>
    if cut c then [] :: pieces cut cs
    else match pieces cut cs with
      | [] => [[c]]
      | p :: ps => (c :: p) :: ps

/-- Characters that end a line in running text. -/
def isLineEnd (c : Char) : Bool :=
  let n := c.toNat
  (10 ≤ n && n ≤ 13) || (28 ≤ n && n ≤ 30) || n == 0x85 || n == 0x2028 || n == 0x2029

/-- The lines of running text without their ends; `line` is the line at hand, latest character
first, and `open_` tells that a line has begun. -/
def linesFrom (line : List Char) (open_ : Bool) : List Char → List (List Char)
  | [] => if open_ then [line.reverse] else []
  | '\r' :: '\n' :: cs => line.reverse :: linesFrom [] false cs
  | c :: cs =>
    if isLineEnd c then line.reverse :: linesFrom [] false cs
    else linesFrom (c :: line) true cs

/-- The lines of running text; a final line end begins no further line. -/
def lines (cs : List Char) : List (List Char) := linesFrom [] false cs

/-- The texts of `parts` with `sep` between neighbours. -/
def joinWith (sep : List Char) : List (List Char) → List Char
  | [] => []
  | [p] => p
  | p :: q :: ps => p ++ sep ++ joinWith sep (q :: ps)

/-- Every doubled backslash becomes a single one, from left to right. -/
def halveBackslashes : List Char → List Char
  | '\\' :: '\\' :: cs => '\\' :: halveBackslashes cs
  | c :: cs => c :: halveBackslashes cs
  | [] => []

/-- A backslash before a double quote is dropped. -/
def bareQuotes : List Char → List Char
  | '\\' :: '"' :: cs => '"' :: bareQuotes cs
  | c :: cs => c :: bareQuotes cs
  | [] => []

/-- The value of the written form of a double-quoted text: escaped quotes become quotes, and then
doubled backslashes become single. -/
def unescapeQuoted (cs : List Char) : List Char := halveBackslashes (bareQuotes cs)

end Formwork.Text
