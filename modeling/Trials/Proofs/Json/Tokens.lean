import Trials.Json.Token
import Trials.Json.Printer
import Trials.Proofs.Number.Digits
import Mathlib.Tactic.IntervalCases

/-!
# Tokens of written texts

Some characters are cut into given tokens (`Cut`) if the scanner gets to their end, whatever its
fuel.  Cuts are put together from the end of a text to its beginning: blanks, single tokens, quoted
strings and numbers each come before a text that is cut already.  A string is written with escapes,
of which the scanner finds the end and `unescape` the meaning, one character at a time.  A numeral
is written part by part (`Numeral.chars`) and read so (`Numeral.scan_chars`); it ends where the
scanner finds no character that could belong to it (`ends`).
-/

namespace Trials.Json

variable {c : Char} {cs rest : List Char} {t : Token} {ts : List Token}

/-- The scanner cuts the characters into the tokens. -/
def Cut (cs : List Char) (ts : List Token) : Prop :=
  ∀ fuel, cs.length ≤ fuel → tokensWithin fuel cs = some ts

theorem Cut.tokens?_eq (h : Cut cs ts) : tokens? cs = some ts := h _ le_rfl

theorem Cut.nil : Cut [] [] := by
  intro fuel _
  cases fuel <;> rfl

theorem Cut.blank (hc : isBlank c = true) (h : Cut cs ts) : Cut (c :: cs) ts := by
  intro fuel hfuel
  have hdrop : (c :: cs).dropWhile isBlank = cs.dropWhile isBlank := List.dropWhile_cons_of_pos hc
  have hrest := h fuel (Nat.le_of_succ_le hfuel)
  unfold tokensWithin at hrest ⊢
  rw [hdrop]
  exact hrest

theorem Cut.blanks (hcs : ∀ c ∈ cs, isBlank c = true) (h : Cut rest ts) : Cut (cs ++ rest) ts := by
  induction cs with
  | nil => exact h
  | cons c cs ih =>
    obtain ⟨hc, hcs⟩ := List.forall_mem_cons.1 hcs
    exact (ih hcs).blank hc

theorem Cut.newline (level : Nat) (h : Cut cs ts) : Cut (newline level ++ cs) ts := by
  refine h.blanks fun c hc => ?_
  obtain rfl | hc := List.mem_cons.1 hc
  · rfl
  · rw [List.eq_of_mem_replicate hc]
    rfl

theorem Cut.token (hscan : scanToken (c :: cs) = some (t, rest)) (hc : isBlank c = false)
    (hlength : rest.length ≤ cs.length) (h : Cut rest ts) : Cut (c :: cs) (t :: ts) := by
  intro fuel hfuel
  have hdrop : (c :: cs).dropWhile isBlank = c :: cs :=
    List.dropWhile_cons_of_neg (by simp [hc])
  cases fuel with
  | zero => cases hfuel
  | succ fuel =>
    unfold tokensWithin
    rw [hdrop]
    simp only [hscan]
    rw [h fuel (by simp at hfuel; omega)]
    rfl

/-! ## Strings -/

/-- A string between its quotes, as it is written. -/
def body (s : String) : List Char := s.toList.flatMap escapeChar

theorem quoted_eq (s : String) : quoted s = '"' :: (body s ++ ['"']) := rfl

theorem hexValue4?_hexDigit {n : Nat} (h : n < 32) :
    hexValue4? '0' '0' (hexDigit (n / 16)) (hexDigit (n % 16)) = some n := by
  interval_cases n <;> rfl

/-- The scanner passes over a written character. -/
theorem scanString_escapeChar (c : Char) (cs : List Char) :
    scanString (escapeChar c ++ cs) =
      (scanString cs).map fun (body, rest) => (escapeChar c ++ body, rest) := by
  unfold escapeChar
  split_ifs with hquote hbackslash hn hr ht hb hf hcontrol
  · rfl
  · rfl
  · rfl
  · rfl
  · rfl
  · rfl
  · rfl
  · have hhex :
        (hexValue4? '0' '0' (hexDigit (c.toNat / 16)) (hexDigit (c.toNat % 16))).isSome := by
      rw [hexValue4?_hexDigit hcontrol]
      rfl
    simp only [List.cons_append, List.nil_append, scanString, if_pos hhex]
  · simp only [List.cons_append, List.nil_append]
    rw [scanString]
    · rw [if_neg (by simp [hcontrol, hbackslash])]
    · exact hquote
    · exact fun _ _ _ _ _ h => absurd h hbackslash
    · exact fun _ _ h => absurd h hbackslash

theorem unescape_simple {e : Char} (h : simpleEscape? e = some c) (cs : List Char) :
    unescape ('\\' :: e :: cs) = (unescape cs).map (c :: ·) := by
  have he : e ≠ 'u' := by
    rintro rfl
    cases h
  rw [unescape]
  · rw [h]
    cases unescape cs <;> rfl
  · exact fun _ _ _ _ _ heq _ => he heq

/-- A written character stands for itself. -/
theorem unescape_escapeChar (c : Char) (cs : List Char) :
    unescape (escapeChar c ++ cs) = (unescape cs).map (c :: ·) := by
  unfold escapeChar
  split_ifs with hquote hbackslash hn hr ht hb hf hcontrol
  · subst hquote; exact unescape_simple rfl cs
  · subst hbackslash; exact unescape_simple rfl cs
  · subst hn; exact unescape_simple rfl cs
  · subst hr; exact unescape_simple rfl cs
  · subst ht; exact unescape_simple rfl cs
  · subst hb; exact unescape_simple rfl cs
  · subst hf; exact unescape_simple rfl cs
  · have hlow : isLowSurrogate c.toNat = false := by simp [isLowSurrogate]; omega
    have hhigh : isHighSurrogate c.toNat = false := by simp [isHighSurrogate]; omega
    simp only [List.cons_append, List.nil_append, unescape, hexValue4?_hexDigit hcontrol,
      Option.bind_eq_bind, Option.bind_some, hlow, hhigh, Char.ofNat_toNat]
    cases unescape cs <;> rfl
  · simp only [List.cons_append, List.nil_append]
    rw [unescape]
    · cases unescape cs <;> rfl
    · exact fun _ _ _ _ _ h => absurd h hbackslash
    · exact fun _ _ h => absurd h hbackslash

theorem scanString_flatMap (s rest : List Char) :
    scanString (s.flatMap escapeChar ++ '"' :: rest) = some (s.flatMap escapeChar, rest) := by
  induction s with
  | nil => rfl
  | cons c s ih =>
    rw [List.flatMap_cons, List.append_assoc, scanString_escapeChar, ih]
    rfl

theorem unescape_flatMap (s : List Char) : unescape (s.flatMap escapeChar) = some s := by
  induction s with
  | nil => rfl
  | cons c s ih =>
    rw [List.flatMap_cons, unescape_escapeChar, ih]
    rfl

/-- What is written for a string stands for the string. -/
@[simp] theorem textOf?_body (s : String) : textOf? (body s) = some s := by
  rw [textOf?, body, unescape_flatMap, Option.map_some, String.ofList_toList]

theorem Cut.quoted (s : String) (h : Cut rest ts) :
    Cut (quoted s ++ rest) (.str (body s) :: ts) := by
  have hscan : scanToken ('"' :: (body s ++ '"' :: rest)) = some (.str (body s), rest) := by
    simp [scanToken, body, scanString_flatMap]
  have heq : Json.quoted s ++ rest = '"' :: (body s ++ '"' :: rest) := by simp [quoted_eq]
  rw [heq]
  exact h.token hscan rfl (by simp; omega)

/-! ## Numbers -/

/-- Whether a number that stands before the characters ends there. -/
def ends : List Char → Bool
  | [] => true
  | c :: _ => !(c.isDigit || c = '.' || c = 'e' || c = 'E')

theorem ends_cons (h : ends (c :: cs) = true) :
    c.isDigit = false ∧ c ≠ '.' ∧ c ≠ 'e' ∧ c ≠ 'E' := by
  simpa [ends, and_assoc] using h

theorem not_digit_of_ends (h : ends rest = true) : ∀ c ∈ rest.head?, c.isDigit = false := by
  cases rest with
  | nil => exact nofun
  | cons c cs =>
    rintro _ ⟨⟩
    exact (ends_cons h).1

/-- Digits are all that the scanner takes of them and what follows. -/
theorem takeWhile_isDigit {digits : List Char} (hdigits : ∀ c ∈ digits, c.isDigit = true)
    (h : ∀ c ∈ rest.head?, c.isDigit = false) :
    (digits ++ rest).takeWhile Char.isDigit = digits ∧
      (digits ++ rest).dropWhile Char.isDigit = rest := by
  rw [List.takeWhile_append_of_pos hdigits, List.dropWhile_append_of_pos hdigits]
  cases rest with
  | nil => simp
  | cons c cs =>
    have hc := h c rfl
    simp [hc]

namespace Numeral

/-- The exponent as it is written. -/
def exponentChars : Option Int → List Char
  | none => []
  | some e => 'e' :: (if e < 0 then '-' else '+') :: Nat.toDigits 10 e.natAbs

/-- The fraction as it is written. -/
def fractionChars (fraction : List Char) : List Char :=
  if fraction = [] then [] else '.' :: fraction

/-- A numeral as it is written. -/
def chars (n : Numeral) : List Char :=
  (if n.negative then ['-'] else []) ++ (n.whole ++ (fractionChars n.fraction ++
    exponentChars n.exponent))

/-- The parts of the numeral are made of digits, without a superfluous zero at the beginning. -/
structure WellFormed (n : Numeral) : Prop where
  nonempty : n.whole ≠ []
  whole : ∀ c ∈ n.whole, c.isDigit = true
  fraction : ∀ c ∈ n.fraction, c.isDigit = true
  noZero : ∀ d ds, n.whole ≠ '0' :: d :: ds

theorem scanExponent_append (e : Option Int) (h : ends rest = true) :
    scanExponent (exponentChars e ++ rest) = some (e, rest) := by
  cases e with
  | none =>
    cases rest with
    | nil => rfl
    | cons c cs =>
      obtain ⟨-, -, he, hE⟩ := ends_cons h
      simp [exponentChars, scanExponent, he, hE]
  | some e =>
    have hall : ∀ c ∈ Nat.toDigits 10 e.natAbs, c.isDigit = true := fun _ => isDigit_toDigits
    obtain ⟨htake, hdrop⟩ := takeWhile_isDigit hall (not_digit_of_ends h)
    have hsign : scanSign ((if e < 0 then '-' else '+') :: (Nat.toDigits 10 e.natAbs ++ rest)) =
        (decide (e < 0), Nat.toDigits 10 e.natAbs ++ rest) := by
      by_cases he : e < 0
      · simp [he, scanSign]
      · simp [he, scanSign]
    have hdigits : natOfDigits 0 (Nat.toDigits 10 e.natAbs) = e.natAbs := foldl_toDigits e.natAbs
    have hvalue : (if decide (e < 0) = true then -(e.natAbs : Int) else e.natAbs) = e := by
      simp only [decide_eq_true_eq]
      split <;> omega
    simp only [exponentChars, List.cons_append, scanExponent, true_or, if_true, hsign, htake, hdrop]
    split
    next heq => exact absurd heq Nat.toDigits_ne_nil
    next => rw [hdigits, hvalue]

/-- Neither a digit nor a point stands after the digits of a fraction. -/
theorem head?_exponentChars_append (e : Option Int) (h : ends rest = true) :
    ∀ c ∈ (exponentChars e ++ rest).head?, c.isDigit = false ∧ c ≠ '.' := by
  cases e with
  | none =>
    cases rest with
    | nil => exact nofun
    | cons c cs =>
      rintro _ ⟨⟩
      exact ⟨(ends_cons h).1, (ends_cons h).2.1⟩
  | some e =>
    rintro _ ⟨⟩
    exact ⟨rfl, by decide⟩

theorem scanFraction_append {fraction : List Char} (hdigits : ∀ c ∈ fraction, c.isDigit = true)
    (h : ∀ c ∈ rest.head?, c.isDigit = false ∧ c ≠ '.') :
    scanFraction (fractionChars fraction ++ rest) = some (fraction, rest) := by
  unfold fractionChars
  split_ifs with hempty
  · subst hempty
    cases rest with
    | nil => rfl
    | cons c cs =>
      rw [List.nil_append, scanFraction]
      exact fun _ heq => (h c rfl).2 (List.cons.inj heq).1
  · obtain ⟨htake, hdrop⟩ := takeWhile_isDigit hdigits fun c hc => (h c hc).1
    simp only [List.cons_append, scanFraction, htake, hdrop]

theorem head?_fractionChars_append (fraction : List Char)
    (h : ∀ c ∈ rest.head?, c.isDigit = false ∧ c ≠ '.') :
    ∀ c ∈ (fractionChars fraction ++ rest).head?, c.isDigit = false := by
  unfold fractionChars
  split_ifs
  · exact fun c hc => (h c hc).1
  · rintro _ ⟨⟩
    rfl

theorem scanWhole_append {n : Numeral} (hn : n.WellFormed)
    (h : ∀ c ∈ rest.head?, c.isDigit = false) :
    scanWhole (n.whole ++ rest) = some (n.whole, rest) := by
  obtain ⟨htake, hdrop⟩ := takeWhile_isDigit hn.whole h
  unfold scanWhole
  simp only [htake, hdrop]
  split
  next heq => exact absurd heq hn.nonempty
  next d ds heq => exact absurd heq (hn.noZero d ds)
  next => rfl

/-- A numeral is read as it is written. -/
theorem scan_chars {n : Numeral} (hn : n.WellFormed) (h : ends rest = true) :
    scan (n.chars ++ rest) = some (n, rest) := by
  have hexponent := scanExponent_append n.exponent h
  have hhead := head?_exponentChars_append n.exponent h
  have hfraction := scanFraction_append hn.fraction hhead
  have hwhole := scanWhole_append hn (head?_fractionChars_append n.fraction hhead)
  rw [chars]
  simp only [List.append_assoc]
  obtain ⟨c, cs, hcs⟩ := List.exists_cons_of_ne_nil hn.nonempty
  have hsign : c ≠ '-' := by
    rintro rfl
    cases hn.whole '-' (by rw [hcs]; exact List.mem_cons_self)
  unfold scan
  cases hnegative : n.negative with
  | true =>
    simp only [if_true, List.cons_append, List.nil_append, hwhole, hfraction, hexponent,
      Option.bind_eq_bind, Option.bind_some]
    rw [← hnegative]
    rfl
  | false =>
    rw [hcs] at hwhole ⊢
    simp only [Bool.false_eq_true, if_false, List.nil_append, List.cons_append] at hwhole ⊢
    split
    next heq => exact absurd (List.cons.inj heq).1 hsign
    next =>
      simp only [hwhole, hfraction, hexponent, Option.bind_eq_bind, Option.bind_some]
      rw [← hnegative, ← hcs]
      rfl

/-- A numeral begins with a digit or a minus sign. -/
theorem WellFormed.exists_cons {n : Numeral} (hn : n.WellFormed) :
    ∃ c cs, n.chars = c :: cs ∧ (c.isDigit = true ∨ c = '-') := by
  unfold chars
  split_ifs
  · exact ⟨'-', _, rfl, .inr rfl⟩
  · obtain ⟨c, cs, hcs⟩ := List.exists_cons_of_ne_nil hn.nonempty
    refine ⟨c, cs ++ (fractionChars n.fraction ++ exponentChars n.exponent), ?_, .inl ?_⟩
    · rw [hcs]
      rfl
    · exact hn.whole c (by rw [hcs]; exact List.mem_cons_self)

end Numeral

theorem scanToken_number (hc : c.isDigit = true ∨ c = '-') :
    scanToken (c :: cs) = (Numeral.scan (c :: cs)).map fun (n, rest) => (.num n, rest) := by
  unfold scanToken
  split
  case h_1 heq => cases heq
  case h_12 => rfl
  all_goals
    rename_i heq
    cases heq
    obtain hc | hc := hc
    · cases hc
    · cases hc

theorem isBlank_number (hc : c.isDigit = true ∨ c = '-') : isBlank c = false := by
  rw [Bool.eq_false_iff]
  intro hblank
  simp only [isBlank, Bool.or_eq_true, decide_eq_true_eq] at hblank
  obtain ((rfl | rfl) | rfl) | rfl := hblank <;> obtain hc | hc := hc <;> cases hc

theorem Cut.numeral {n : Numeral} (hn : n.WellFormed) (hends : ends rest = true)
    (h : Cut rest ts) : Cut (n.chars ++ rest) (.num n :: ts) := by
  have hscan := Numeral.scan_chars hn hends
  obtain ⟨c, cs, hchars, hc⟩ := hn.exists_cons
  rw [hchars, List.cons_append] at hscan ⊢
  have htoken : scanToken (c :: (cs ++ rest)) = some (.num n, rest) := by
    rw [scanToken_number hc, hscan]
    rfl
  exact h.token htoken (isBlank_number hc) (by simp)

/-! ## Natural numbers -/

/-- The numeral of a natural number. -/
def numeral (n : Nat) : Numeral where
  negative := false
  whole := Nat.toDigits 10 n
  fraction := []
  exponent := none

theorem wellFormed_numeral (n : Nat) : (numeral n).WellFormed where
  nonempty := Nat.toDigits_ne_nil
  whole := fun _ => isDigit_toDigits
  fraction := nofun
  noZero := toDigits_ne_zero_cons n

theorem chars_numeral (n : Nat) : (numeral n).chars = Nat.toDigits 10 n := by
  simp [Numeral.chars, numeral, Numeral.fractionChars, Numeral.exponentChars]

theorem toList_text_nat (n : Nat) : (Number.int n).text.toList = Nat.toDigits 10 n := by
  show (Nat.repr n).toList = _
  rw [Nat.toList_repr]

/-- What is written for a natural number of 64 bits stands for that number. -/
theorem number?_numeral {n : Nat} (h : n ≤ Numeral.maxUnsigned) :
    (numeral n).number? = some (.int n) := by
  have hvalue : natOfDigits 0 (Nat.toDigits 10 n) = n := foldl_toDigits n
  simp [Numeral.number?, numeral, hvalue, h]

end Trials.Json
