import Cardfile.Query.Token
/-!
# Query — reading tokens

A scanner holds what is left of the text and reads one token at a time.
Outside literals white space separates tokens; inside a literal every
character up to the next quote belongs to it. The scanner does not turn
from one mode to the other by itself: whoever drives it does so at a
quote.

Each call takes what it reads from the front of the text, also when it
fails, and a token other than the end takes at least one character
(`length_lt_of_next`).
-/

namespace Cardfile

namespace Query

open Text

/-- What the next characters are read as. -/
inductive Mode where
  /-- Names, operators and quotes. -/
  | plain
  /-- The text of a literal. -/
  | quoted
  deriving DecidableEq, Repr

/-- The other mode. -/
def Mode.toggled : Mode → Mode
  | .plain => .quoted
  | .quoted => .plain

/-- What is left to read, and how. -/
structure Scanner where
  /-- The characters not yet read. -/
  rest : List Char
  /-- What they are read as. -/
  mode : Mode := .plain
  /-- Whether the end was read. -/
  finished : Bool := false
  deriving DecidableEq, Repr

/-- The token of a word. -/
def wordToken (word : List Char) : Token :=
  if isConjunction word then .conjunction
  else if isLike word then .operator likeWord
  else .field (String.ofList word)

namespace Scanner

/-- A scanner before the first character of the text. -/
def ofString (text : String) : Scanner := { rest := text.toList }

/-- The scanner in the other mode. -/
def toggled (s : Scanner) : Scanner := { s with mode := s.mode.toggled }

/-- The scanner with other characters left to read. -/
def upTo (s : Scanner) (rest : List Char) : Scanner := { s with rest }

/-- Reads an operator of one or two characters of punctuation. -/
def operatorToken (symbol : List Char) : Except TokenFault Token :=
  match Operator.ofSymbol? (String.ofList symbol) with
  | some op => .ok (.operator op.symbol)
  | none => .error (.badOperator (String.ofList symbol))

/-- The characters of an operator that begins with `c`. -/
def symbolFrom (c : Char) (rest : List Char) : List Char := c :: (rest.take 1).takeWhile isSymbolChar

/-- Reads a token outside literals. -/
def plainNext (s : Scanner) : Except TokenFault Token × Scanner :=
  match trimFront s.rest with
  | [] => (.ok .finish, { s with rest := [], finished := true })
  | c :: rest =>
    if isNameStart c then
      (.ok (wordToken (c :: rest.takeWhile isNamePart)), s.upTo (rest.dropWhile isNamePart))
    else if isSymbolChar c then
      (operatorToken (symbolFrom c rest), s.upTo ((c :: rest).drop (symbolFrom c rest).length))
    else if c = quoteChar then (.ok .quote, s.upTo rest)
    else
      (.error (.unknown (String.ofList (c :: rest.takeWhile (!isBlank ·)))),
        s.upTo (rest.dropWhile (!isBlank ·)))

/-- Reads a token inside a literal: its text, or the quote right here. -/
def quotedNext (s : Scanner) : Except TokenFault Token × Scanner :=
  let text := s.rest.takeWhile (· != quoteChar)
  match s.rest.dropWhile (· != quoteChar) with
  | [] => (.error (.unterminated (String.ofList text)), s.upTo [])
  | quote :: rest =>
    if text.isEmpty then (.ok .quote, s.upTo rest)
    else (.ok (.literal (String.ofList text)), s.upTo (quote :: rest))

/-- Reads the next token. Nothing can be read after the end. -/
def next (s : Scanner) : Except TokenFault Token × Scanner :=
  if s.finished then (.error .pastEnd, s)
  else
    match s.mode with
    | .plain => s.plainNext
    | .quoted => s.quotedNext

/-! ## Progress -/

/-- Outside literals a token other than the end takes a character. -/
theorem length_lt_of_plainNext {s s' : Scanner} {t : Token}
    (h : s.plainNext = (.ok t, s')) (ht : t ≠ .finish) : s'.rest.length < s.rest.length := by
  have htrim : (trimFront s.rest).length ≤ s.rest.length := (List.dropWhile_sublist _).length_le
  simp only [plainNext] at h
  split at h
  · simp only [Prod.mk.injEq, Except.ok.injEq] at h
    exact absurd h.1.symm ht
  · next c rest heq =>
    rw [heq, List.length_cons] at htrim
    have hdrop (p : Char → Bool) : (rest.dropWhile p).length ≤ rest.length :=
      (List.dropWhile_sublist _).length_le
    split at h
    · obtain ⟨-, rfl⟩ := Prod.mk.inj h
      exact Nat.lt_of_le_of_lt (hdrop _) (by omega)
    split at h
    · obtain ⟨-, rfl⟩ := Prod.mk.inj h
      simp only [upTo, symbolFrom, List.length_cons, List.drop_succ_cons, List.length_drop]
      omega
    split at h
    · obtain ⟨-, rfl⟩ := Prod.mk.inj h
      exact Nat.lt_of_lt_of_le (Nat.lt_succ_self _) htrim
    · cases (Prod.mk.inj h).1

/-- Inside a literal every token takes a character. -/
theorem length_lt_of_quotedNext {s s' : Scanner} {t : Token}
    (h : s.quotedNext = (.ok t, s')) : s'.rest.length < s.rest.length := by
  have hsplit : s.rest.takeWhile (· != quoteChar) ++ s.rest.dropWhile (· != quoteChar) = s.rest :=
    List.takeWhile_append_dropWhile
  have hlen := congrArg List.length hsplit
  rw [List.length_append] at hlen
  simp only [quotedNext] at h
  split at h
  · cases (Prod.mk.inj h).1
  · next quote rest heq =>
    rw [heq, List.length_cons] at hlen
    split at h
    · obtain ⟨-, rfl⟩ := Prod.mk.inj h
      simp only [upTo]
      omega
    · next htext =>
      obtain ⟨-, rfl⟩ := Prod.mk.inj h
      have : s.rest.takeWhile (· != quoteChar) ≠ [] := by simpa using htext
      have := List.length_pos_iff.2 this
      simp only [upTo, List.length_cons]
      omega

/-- **A token other than the end takes a character.** -/
theorem length_lt_of_next {s s' : Scanner} {t : Token}
    (h : s.next = (.ok t, s')) (ht : t ≠ .finish) : s'.rest.length < s.rest.length := by
  simp only [next] at h
  split at h
  · cases (Prod.mk.inj h).1
  · split at h
    · exact length_lt_of_plainNext h ht
    · exact length_lt_of_quotedNext h

end Scanner

end Query

end Cardfile
