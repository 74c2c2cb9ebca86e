import Trials.Toml.Parser
import Trials.Proofs.Number.Digits
import Mathlib.Data.List.TakeWhile
import Mathlib.Tactic.SplitIfs

/-!
# Written lines

A text that is written line by line is read line by line.  `Fills` says what the rest of a text
makes of a draft, whatever the fuel of the reader; it is put together from the end of the text to
its beginning, from empty lines (`Fills.blank`), headers (`Fills.header`) and natural numbers under
a plain key (`Fills.number`).
-/

namespace Trials.Toml

variable {c : Char} {cs key rest : List Char} {n : Nat} {d d' : Draft} {filled entries : Entries}

/-! ## Numbers -/

theorem digits?_of_isDigit (hne : cs ≠ []) (h : ∀ c ∈ cs, c.isDigit = true) :
    digits? 10 cs = some (cs.map fun c => c.toNat - 48) := by
  induction cs with
  | nil => exact absurd rfl hne
  | cons c rest ih =>
    obtain ⟨hc, hrest⟩ := List.forall_mem_cons.1 h
    have hvalue : digitValue? c = some (c.toNat - 48) := if_pos hc
    have hlt : c.toNat - 48 < 10 := by
      have := toNat_of_isDigit hc
      omega
    cases rest with
    | nil => simp [digits?, hvalue, hlt]
    | cons next rest =>
      have hnext : next ≠ '_' := by
        rintro rfl
        cases hrest '_' List.mem_cons_self
      rw [digits?]
      · simp [hvalue, hlt, ih (List.cons_ne_nil _ _) hrest]
      · exact List.cons_ne_nil _ _
      · exact fun _ heq => hnext (List.cons.inj heq).1

theorem wholeDigits?_toDigits (n : Nat) :
    wholeDigits? (Nat.toDigits 10 n) = some ((Nat.toDigits 10 n).map fun c => c.toNat - 48) := by
  have hall : ∀ c ∈ Nat.toDigits 10 n, c.isDigit = true := fun _ => isDigit_toDigits
  rw [wholeDigits?, digits?_of_isDigit Nat.toDigits_ne_nil hall, Option.bind_eq_bind,
    Option.bind_some]
  split
  next d ds heq =>
    obtain ⟨c, cs, hdigits, hc, hcs⟩ := List.map_eq_cons_iff.1 heq
    obtain ⟨d, ds, rfl, -⟩ := List.map_eq_cons_iff.1 hcs
    have hzero : c = '0' := by
      have hrange := toNat_of_isDigit (hall c (by simp [hdigits]))
      rw [← Char.toNat_inj]
      change c.toNat = 48
      omega
    rw [hzero] at hdigits
    exact absurd hdigits (toDigits_ne_zero_cons n d ds)
  next => rfl

/-- The digits that are written for a number are read as that number. -/
theorem integer?_toDigits (n : Nat) : integer? (Nat.toDigits 10 n) = some (n : Int) := by
  have hvalue : ofDigits 10 ((Nat.toDigits 10 n).map fun c => c.toNat - 48) = n := by
    rw [ofDigits, List.foldl_map]
    exact foldl_toDigits n
  obtain ⟨c, cs, hdigits, hc⟩ := exists_toDigits n
  have hsigned : signed (Nat.toDigits 10 n) = (false, Nat.toDigits 10 n) := by
    rw [hdigits, signed]
    · rintro rest heq
      cases heq
      cases hc
    · rintro rest heq
      cases heq
      cases hc
  unfold integer?
  split
  case h_4 => simp [hsigned, wholeDigits?_toDigits, hvalue]
  all_goals
    rename_i heq
    exact absurd heq (toDigits_ne_zero_cons n _ _)

theorem scalar?_toDigits (n : Nat) : scalar? (Nat.toDigits 10 n) = some (.integer n) := by
  obtain ⟨c, cs, hdigits, hc⟩ := exists_toDigits n
  have htrue : Nat.toDigits 10 n ≠ ['t', 'r', 'u', 'e'] := by
    rintro heq
    cases hdigits.symm.trans heq
    cases hc
  have hfalse : Nat.toDigits 10 n ≠ ['f', 'a', 'l', 's', 'e'] := by
    rintro heq
    cases hdigits.symm.trans heq
    cases hc
  rw [scalar?, if_neg htrue, if_neg hfalse, integer?_toDigits]

theorem isTokenChar_of_isDigit (h : c.isDigit = true) : isTokenChar c = true := by
  simp [isTokenChar, Char.isAlphanum, h]

/-- A number at the end of a line is read as a value. -/
theorem value?_toDigits (fuel depth n : Nat) (rest : List Char) :
    value? (fuel + 1) depth (Nat.toDigits 10 n ++ '\n' :: rest) =
      some (.integer n, '\n' :: rest) := by
  have htoken : ∀ c ∈ Nat.toDigits 10 n, isTokenChar c = true :=
    fun _ hc => isTokenChar_of_isDigit (isDigit_toDigits hc)
  have hscan : scanToken (Nat.toDigits 10 n ++ '\n' :: rest) =
      (Nat.toDigits 10 n, '\n' :: rest) := by
    have htake : ('\n' :: rest).takeWhile isTokenChar = [] := rfl
    have hdrop : ('\n' :: rest).dropWhile isTokenChar = '\n' :: rest := rfl
    rw [scanToken, List.takeWhile_append_of_pos htoken, List.dropWhile_append_of_pos htoken, htake,
      hdrop, List.append_nil]
    rfl
  obtain ⟨c, cs, hdigits, hc⟩ := exists_toDigits n
  unfold value?
  split
  case h_7 => simp only [hscan, scalar?_toDigits, Option.map_some]
  all_goals
    rename_i heq
    rw [hdigits, List.cons_append] at heq
    obtain rfl := (List.cons.inj heq).1
    cases hc

/-! ## Keys -/

/-- A key that may stand without quotes. -/
def IsPlainKey (key : List Char) : Prop := key ≠ [] ∧ key.all isKeyChar = true

instance (key : List Char) : Decidable (IsPlainKey key) :=
  inferInstanceAs (Decidable (key ≠ [] ∧ key.all isKeyChar = true))

namespace IsPlainKey

theorem mem (h : IsPlainKey key) : ∀ c ∈ key, isKeyChar c = true := List.all_eq_true.1 h.2

/-- No other character stands at the beginning of a plain key. -/
theorem exists_cons (h : IsPlainKey key) :
    ∃ c cs, key = c :: cs ∧ ∀ x, isKeyChar x = false → c ≠ x := by
  obtain ⟨c, cs, rfl⟩ := List.exists_cons_of_ne_nil h.1
  refine ⟨c, cs, rfl, ?_⟩
  rintro x hx rfl
  exact Bool.false_ne_true (hx.symm.trans (h.mem c List.mem_cons_self))

/-- A plain key is read up to the first character that may not stand in it. -/
theorem simpleKey?_append (h : IsPlainKey key) (hrest : rest.takeWhile isKeyChar = []) :
    simpleKey? (key ++ rest) = some (String.ofList key, rest) := by
  have hdrop : rest.dropWhile isKeyChar = rest := by
    simpa [hrest] using List.takeWhile_append_dropWhile (p := isKeyChar) (l := rest)
  have htake : (key ++ rest).takeWhile isKeyChar = key := by
    rw [List.takeWhile_append_of_pos h.mem, hrest, List.append_nil]
  have hdropKey : (key ++ rest).dropWhile isKeyChar = rest := by
    rw [List.dropWhile_append_of_pos h.mem, hdrop]
  obtain ⟨c, cs, rfl, hc⟩ := h.exists_cons
  rw [simpleKey?, htake, hdropKey]
  · exact fun _ heq => hc '"' rfl (List.cons.inj heq).1
  · exact fun _ heq => hc '\'' rfl (List.cons.inj heq).1

theorem skipBlanks_append (h : IsPlainKey key) : skipBlanks (key ++ rest) = key ++ rest := by
  obtain ⟨c, cs, rfl, hc⟩ := h.exists_cons
  have hblank : ¬ isBlank c = true := by simp [isBlank, hc ' ' rfl, hc '\t' rfl]
  exact List.dropWhile_cons_of_neg hblank

/-- A line that begins with a plain key is not empty. -/
theorem afterLine?_append (h : IsPlainKey key) : afterLine? (key ++ rest) = none := by
  rw [afterLine?, h.skipBlanks_append]
  obtain ⟨c, cs, rfl, hc⟩ := h.exists_cons
  have hbreak : afterNewline? (c :: (cs ++ rest)) = none := by
    unfold afterNewline?
    split
    next heq => exact absurd (List.cons.inj heq).1 (hc '\n' rfl)
    next heq => exact absurd (List.cons.inj heq).1 (hc '\r' rfl)
    next => rfl
  rw [List.cons_append, afterComment?]
  · exact hbreak
  · exact fun _ heq => hc '#' rfl (List.cons.inj heq).1

/-- A key of one part is read up to the character after it and the blanks that follow. -/
theorem dottedKey?_append {fuel : Nat} {next : Char} {more : List Char} (h : IsPlainKey key)
    (hrest : rest.takeWhile isKeyChar = []) (hnext : skipBlanks rest = next :: more)
    (hdot : next ≠ '.') :
    dottedKey? (fuel + 1) (key ++ rest) = some ([String.ofList key], next :: more) := by
  rw [dottedKey?, h.skipBlanks_append, h.simpleKey?_append hrest, Option.bind_eq_bind,
    Option.bind_some]
  dsimp only
  rw [hnext]
  split
  next heq => exact absurd (List.cons.inj heq).1 hdot
  next => rfl

end IsPlainKey

/-! ## Lines -/

/-- What the rest of a text makes of a draft, with fuel for as many lines as it has characters. -/
def Fills (d : Draft) (cs : List Char) (entries : Entries) : Prop :=
  ∀ fuel, cs.length ≤ fuel → lines? fuel d cs = some entries

namespace Fills

theorem nil (d : Draft) : Fills d [] d.entries := by
  intro fuel _
  cases fuel <;> rfl

theorem line (first : List Char) (hne : first ≠ [])
    (hline : line? d (first ++ rest) = some (d', rest)) (h : Fills d' rest entries) :
    Fills d (first ++ rest) entries := by
  intro fuel hfuel
  have hpos := List.length_pos_iff.2 hne
  rw [List.length_append] at hfuel
  obtain ⟨fuel, rfl⟩ := Nat.exists_eq_add_of_le' (n := fuel) (m := 1) (by omega)
  obtain ⟨c, cs, rfl⟩ := List.exists_cons_of_ne_nil hne
  rw [List.cons_append] at hline ⊢
  rw [lines?, hline, Option.bind_eq_bind, Option.bind_some]
  · exact h fuel (by omega)
  · exact List.cons_ne_nil _ _

theorem blank (h : Fills d rest entries) : Fills d ('\n' :: rest) entries :=
  line ['\n'] (List.cons_ne_nil _ _) rfl h

/-- A header with a plain key opens a table. -/
theorem header (filled : Entries) (hkey : IsPlainKey key)
    (hopen : openTable [] (String.ofList key) d.entries = some filled)
    (h : Fills ⟨[String.ofList key], filled⟩ rest entries) :
    Fills d ('[' :: key ++ ']' :: '\n' :: rest) entries := by
  have hread : dottedKey? maxParts (key ++ ']' :: '\n' :: rest) =
      some ([String.ofList key], ']' :: '\n' :: rest) :=
    hkey.dottedKey?_append rfl rfl (by decide)
  have hbracket : after? ']' (']' :: '\n' :: rest) = some ('\n' :: rest) := rfl
  have hend : afterLine? ('\n' :: rest) = some rest := rfl
  have hsplit : splitKey? [String.ofList key] = some ([], String.ofList key) := rfl
  have hline : line? d ('[' :: key ++ ']' :: '\n' :: rest) =
      some (⟨[String.ofList key], filled⟩, rest) := by
    have hskip : skipBlanks ('[' :: key ++ ']' :: '\n' :: rest) =
        '[' :: (key ++ ']' :: '\n' :: rest) := rfl
    unfold line?
    rw [hskip]
    split
    next heq =>
      obtain ⟨c, cs, rfl, hc⟩ := hkey.exists_cons
      exact absurd (List.cons.inj (List.cons.inj heq).2).1 (hc '[' rfl)
    next heq =>
      obtain rfl := (List.cons.inj heq).2
      simp only [hread, hbracket, hsplit, hopen, hend, Option.bind_eq_bind, Option.bind_some,
        Option.pure_def]
    next heq => exact absurd rfl (heq _)
  simpa using line ('[' :: key ++ [']', '\n']) (by simp) (by simpa using hline) h

/-- A natural number under a plain key is added to the current table. -/
theorem number (filled : Entries) (hkey : IsPlainKey key)
    (hadd : addValueAt d.header [] (String.ofList key) (.integer n) d.entries = some filled)
    (h : Fills { d with entries := filled } rest entries) :
    Fills d (key ++ ' ' :: '=' :: ' ' :: Nat.toDigits 10 n ++ '\n' :: rest) entries := by
  have hread : dottedKey? maxParts (key ++ ' ' :: '=' :: ' ' :: Nat.toDigits 10 n ++ '\n' :: rest) =
      some ([String.ofList key], '=' :: ' ' :: (Nat.toDigits 10 n ++ '\n' :: rest)) := by
    rw [List.append_assoc]
    exact hkey.dottedKey?_append rfl rfl (by decide)
  have hsign : after? '=' ('=' :: ' ' :: (Nat.toDigits 10 n ++ '\n' :: rest)) =
      some (' ' :: (Nat.toDigits 10 n ++ '\n' :: rest)) := rfl
  have hend : afterLine? ('\n' :: rest) = some rest := rfl
  have hsplit : splitKey? [String.ofList key] = some ([], String.ofList key) := rfl
  have hskip : skipBlanks (' ' :: (Nat.toDigits 10 n ++ '\n' :: rest)) =
      Nat.toDigits 10 n ++ '\n' :: rest := by
    obtain ⟨c, cs, hdigits, hc⟩ := exists_toDigits n
    have hblank : ¬ isBlank c = true := by
      rintro hblank
      obtain rfl | rfl : c = ' ' ∨ c = '\t' := by simpa [isBlank] using hblank
      · cases hc
      · cases hc
    rw [skipBlanks, List.dropWhile_cons_of_pos rfl, hdigits, List.cons_append,
      List.dropWhile_cons_of_neg hblank]
  have hline : line? d (key ++ ' ' :: '=' :: ' ' :: Nat.toDigits 10 n ++ '\n' :: rest) =
      some ({ d with entries := filled }, rest) := by
    have hbegin : skipBlanks (key ++ ' ' :: '=' :: ' ' :: Nat.toDigits 10 n ++ '\n' :: rest) =
        key ++ ' ' :: '=' :: ' ' :: Nat.toDigits 10 n ++ '\n' :: rest := by
      rw [List.append_assoc, hkey.skipBlanks_append]
    have hnone : afterLine? (key ++ ' ' :: '=' :: ' ' :: Nat.toDigits 10 n ++ '\n' :: rest) =
        none := by
      rw [List.append_assoc, hkey.afterLine?_append]
    obtain ⟨c, cs, rfl, hc⟩ := hkey.exists_cons
    unfold line?
    rw [hbegin]
    split
    next heq => exact absurd (List.cons.inj heq).1 (hc '[' rfl)
    next heq => exact absurd (List.cons.inj heq).1 (hc '[' rfl)
    next =>
      simp only [hnone, hread, hsplit, hsign, hskip, value?_toDigits, hadd, hend,
        Option.bind_eq_bind, Option.bind_some, Option.pure_def]
  simpa using line (key ++ ' ' :: '=' :: ' ' :: Nat.toDigits 10 n ++ ['\n']) (by simp)
    (by simpa using hline) h

end Fills

end Trials.Toml
